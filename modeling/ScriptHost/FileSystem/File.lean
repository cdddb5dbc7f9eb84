import ScriptHost.FileSystem.Basic

/-!
# Reading and writing files

Files are read as a whole, and changed by a function from their old content to the new one. A
change is made entirely or, when the path cannot be opened, not at all.
-/
namespace ScriptHost.FileSystem

/-- The bytes that a reader of the node gets. A program and a library are read as binary. -/
def content? : Node → Option Bytes
  | .directory | .link _ => none
  | .file content => some content
  | .sink => some []
  | .executable _ _ | .library _ => some [0x7F, 0x45, 0x4C, 0x46, 0xFF]

def read (fs : FileSystem) (path : Bytes) : Except Fault Bytes :=
  match fs.find path with
  | .error fault => .error fault
  | .ok node =>
    match content? node with
    | some content => .ok content
    | none => .error .isADirectory

def readText (fs : FileSystem) (path : Bytes) : Except Fault String :=
  match fs.read path with
  | .error fault => .error fault
  | .ok content =>
    match Utf8.decode? content with
    | some text => .ok text
    | none => .error .notText

/-- Makes `change` to the content of the file at `path`. A missing file is made, from nothing. -/
def modify (fs : FileSystem) (path : Bytes) (change : Bytes → Bytes) : Except Fault FileSystem :=
  match fs.locate true path with
  | .error fault => .error fault
  | .ok (_, some .directory) => .error .isADirectory
  | .ok (_, some .sink) => .ok fs
  | .ok (loc, some node) => .ok (fs.set loc (.file (change ((content? node).getD []))))
  | .ok (loc, none) => .ok (fs.set loc (.file (change [])))

end ScriptHost.FileSystem
