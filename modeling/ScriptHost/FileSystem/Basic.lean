import ScriptHost.FileSystem.Fault
import ScriptHost.Path

/-!
# The file system

A file system is a value: the nodes by location, and the working directory. A location is the
list of names from the root; it holds no `.`, no `..` and no link.

**Walking.** `walk` follows a path name by name. Each link it meets is replaced by the names of
its target, and after 40 links the walk is refused. A name may be missing only at the end of the
path, so that it can be created there. A separator after the last name asks for a directory.
-/
namespace ScriptHost

abbrev Location := List Bytes

/-- How a program ends. -/
inductive Ending where
  | exited (code : Nat)
  | killed (signal : Nat)
  deriving DecidableEq, Repr

/-- The ending of a program that exits with `status`: only its low eight bits are kept. -/
def Ending.ofStatus (status : Int) : Ending :=
  .exited (status % 256).toNat

/-- A program that notes its arguments, prints, and ends. -/
structure Executable where
  stdout : Bytes
  stderr : Bytes
  ending : Ending
  deriving DecidableEq, Repr

inductive Node where
  | directory
  | file (content : Bytes)
  | link (target : Bytes)
  /-- A program, and whether it may be executed. -/
  | executable (program : Executable) (permitted : Bool)
  /-- A shared library that exports the named symbols. -/
  | library (exports : List String)
  /-- A device that is always empty and swallows what is written to it. -/
  | sink
  deriving DecidableEq, Repr

structure FileSystem where
  nodes : List (Location × Node)
  workingDirectory : Location

namespace FileSystem

def node? (fs : FileSystem) (loc : Location) : Option Node :=
  if loc = [] then some .directory else fs.nodes.lookup loc

def set (fs : FileSystem) (loc : Location) (node : Node) : FileSystem :=
  { fs with nodes := (loc, node) :: fs.nodes.filter (·.1 ≠ loc) }

/-- The files without what is at `loc` and below it. -/
def prune (fs : FileSystem) (loc : Location) : FileSystem :=
  { fs with nodes := fs.nodes.filter fun (l, _) => !loc.isPrefixOf l }

/-- The names of a path. An empty name at the end stands for a separator after the last name. -/
def names (path : Bytes) : List Bytes :=
  let ns := (Path.pieces path).filter (· ≠ [])
  if ns ≠ [] && Path.endsInSlash path then ns ++ [[]] else ns

/-- The directory that the names of `path` are looked up in first. -/
def origin (path : Bytes) (here : Location) : Location :=
  if Path.isAbsolute path then [] else here

def maxNameLength : Nat := 255

def maxPathLength : Nat := 4095

def maxLinks : Nat := 40

/-- The location that the names lead to from the directory `here`, and the node there, if any.
`creating` tells that a file is to be created if none is there. -/
def walk (fs : FileSystem) (creating : Bool) (links : Nat) (here : Location) :
    List Bytes → Except Fault (Location × Option Node)
  | [] => .ok (here, some .directory)
  | name :: rest =>
    if name = [] || name = [Path.dot] then walk fs creating links here rest
    else if name = [Path.dot, Path.dot] then walk fs creating links here.dropLast rest
    else if creating && rest = [[]] then .error .isADirectory
    else if maxNameLength < name.length then .error .nameTooLong
    else
      let there := here ++ [name]
      match fs.node? there with
      | none => if rest = [] then .ok (there, none) else .error .notFound
      | some .directory => walk fs creating links there rest
      | some (.link target) =>
        match links with
        | 0 => .error .tooManyLinks
        | more + 1 => walk fs creating more (origin target here) (names target ++ rest)
      | some node => if rest = [] then .ok (there, some node) else .error .notADirectory
termination_by ns => (links, ns.length)

/-- What a whole path leads to. -/
def locate (fs : FileSystem) (creating : Bool) (path : Bytes) :
    Except Fault (Location × Option Node) :=
  if 0 ∈ path then .error .nulInPath
  else if path = [] then .error .notFound
  else if maxPathLength < path.length then .error .nameTooLong
  else walk fs creating maxLinks (origin path fs.workingDirectory) (names path)

/-- The node that `path` names, with links followed. -/
def find (fs : FileSystem) (path : Bytes) : Except Fault Node :=
  match fs.locate false path with
  | .ok (_, some node) => .ok node
  | .ok (_, none) => .error .notFound
  | .error fault => .error fault

/-- Whether `path` names something. A path that is refused names nothing. -/
def contains (fs : FileSystem) (path : Bytes) : Bool :=
  (fs.find path).toBool

end FileSystem

end ScriptHost
