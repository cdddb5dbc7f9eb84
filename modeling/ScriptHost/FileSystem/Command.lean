import ScriptHost.FileSystem.File

/-!
# Running commands

A command with a separator in it names its program by path; any other is looked for in the
directories of the search path. A file that cannot be executed is passed over there, and
remembered: it is the cause when no later directory has the command.
-/
namespace ScriptHost.FileSystem

/-- What a command printed to standard output, and how it ended. -/
structure Output where
  stdout : Bytes
  ending : Ending
  deriving DecidableEq, Repr

/-- The program at `path`, if it may be executed. -/
def executable (fs : FileSystem) (path : Bytes) : Except Fault Executable :=
  match fs.find path with
  | .ok (.executable program true) => .ok program
  | .ok _ => .error .permissionDenied
  | .error fault => .error fault

/-- The first executable `command` in the directories; `refused` is the cause if there is none. -/
def searchExecutable (fs : FileSystem) (command : Bytes) (refused : Fault) :
    List Bytes → Except Fault Executable
  | [] => .error refused
  | dir :: more =>
    match fs.executable (Path.join dir command) with
    | .ok program => .ok program
    | .error .permissionDenied => fs.searchExecutable command .permissionDenied more
    | .error .notFound | .error .notADirectory => fs.searchExecutable command refused more
    | .error fault => .error fault

def findExecutable (fs : FileSystem) (searchPath : List Bytes) (command : Bytes) :
    Except Fault Executable :=
  if 0 ∈ command then .error .nulInCommand
  else if command = [] then .error .notFound
  else if Path.slash ∈ command then fs.executable command
  else if maxNameLength < command.length then .error .nameTooLong
  else fs.searchExecutable command .notFound searchPath

/-- The file in the working directory in which programs note their arguments. -/
def argumentLog : Bytes :=
  Utf8.encode "args.log"

def argumentNote (arguments : List String) : Bytes :=
  Utf8.encode (toString arguments.length ++ " " ++ " ".intercalate arguments ++ "\n")

/-- Runs `command`. A program first notes the number of its arguments and their text. -/
def run (fs : FileSystem) (searchPath : List Bytes) (command : Bytes) (arguments : List String) :
    Except Fault Output × FileSystem :=
  match fs.findExecutable searchPath command with
  | .error fault => (.error fault, fs)
  | .ok program =>
    let output := ⟨program.stdout, program.ending⟩
    match fs.modify argumentLog (· ++ argumentNote arguments) with
    | .ok fs => (.ok output, fs)
    | .error _ => (.ok output, fs)

end ScriptHost.FileSystem
