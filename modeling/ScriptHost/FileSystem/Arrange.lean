import ScriptHost.FileSystem.File

/-!
# Arranging files

Puts files, directories, links and programs in their places, with the directories above them
made as needed. An item that cannot be placed changes nothing.
-/
namespace ScriptHost.FileSystem

inductive Item where
  | put (node : Node)
  | directory
  | link (target : Bytes)
  | removal

/-- The location of each directory on the way to `loc`, itself included. -/
def stations (loc : Location) : List Location :=
  (List.range loc.length).map fun n => loc.take (n + 1)

/-- Makes the directory that `path` names and those above it. -/
def makeDirectories (fs : FileSystem) (path : Bytes) : FileSystem :=
  let ns := (names path).filter (· ≠ [])
  let start := origin path fs.workingDirectory
  (stations ns).foldl (fun fs front =>
    match fs.walk true maxLinks start front with
    | .ok (loc, none) => fs.set loc .directory
    | _ => fs) fs

def makeParents (fs : FileSystem) (path : Bytes) : FileSystem :=
  match Path.parent? path with
  | some dir => if dir = [] then fs else fs.makeDirectories dir
  | none => fs

/-- The location that `path` names when a link at its end is not followed. -/
def entryLocation? (fs : FileSystem) (path : Bytes) : Option Location :=
  match Path.fileName? path with
  | none => none
  | some name =>
    let dir := (Path.parent? path).getD []
    match fs.walk false maxLinks (origin path fs.workingDirectory) (names dir) with
    | .ok (loc, some .directory) => some (loc ++ [name])
    | _ => none

def arrange (fs : FileSystem) (path : Bytes) : Item → FileSystem
  | .put node =>
    let fs := fs.makeParents path
    match fs.locate true path with
    | .ok (_, some .directory) => fs
    | .ok (loc, _) => fs.set loc node
    | .error _ => fs
  | .directory => fs.makeDirectories path
  | .link target =>
    let fs := fs.makeParents path
    match fs.entryLocation? path with
    | some loc => fs.set loc (.link target)
    | none => fs
  | .removal =>
    match fs.entryLocation? path with
    | some loc => fs.prune loc
    | none => fs

/-- A file system with the working directory `here`, a root and the device `/dev/null`. -/
def fresh (here : Location) : FileSystem :=
  let fs : FileSystem := ⟨[([Utf8.encode "dev", Utf8.encode "null"], .sink),
    ([Utf8.encode "dev"], .directory)], here⟩
  (stations here).foldl (fun fs loc => fs.set loc .directory) fs

end ScriptHost.FileSystem
