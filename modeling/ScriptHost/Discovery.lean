import ScriptHost.Event
import ScriptHost.FileSystem.Command
import ScriptHost.Text.Blank
import ScriptHost.Text.Lines

/-!
# Finding the runtime

A configuration command, asked for its install prefix, prints it as its first line. The library
is below it, in `lib`.
-/
namespace ScriptHost.Discovery

/-- mirrors `meta_env::locate::LocateError` -/
inductive Error where
  | spawn (command : String) (cause : Fault)
  | failed (command : String) (ending : Ending)
  | emptyOutput (command : String)
  deriving DecidableEq, Repr

def signalName? : Nat → Option String
  | 1 => some "SIGHUP"
  | 2 => some "SIGINT"
  | 3 => some "SIGQUIT"
  | 4 => some "SIGILL"
  | 5 => some "SIGTRAP"
  | 6 => some "SIGABRT"
  | 7 => some "SIGBUS"
  | 8 => some "SIGFPE"
  | 9 => some "SIGKILL"
  | 10 => some "SIGUSR1"
  | 11 => some "SIGSEGV"
  | 12 => some "SIGUSR2"
  | 13 => some "SIGPIPE"
  | 14 => some "SIGALRM"
  | 15 => some "SIGTERM"
  | 16 => some "SIGSTKFLT"
  | 17 => some "SIGCHLD"
  | 18 => some "SIGCONT"
  | 19 => some "SIGSTOP"
  | 20 => some "SIGTSTP"
  | 21 => some "SIGTTIN"
  | 22 => some "SIGTTOU"
  | 23 => some "SIGURG"
  | 24 => some "SIGXCPU"
  | 25 => some "SIGXFSZ"
  | 26 => some "SIGVTALRM"
  | 27 => some "SIGPROF"
  | 28 => some "SIGWINCH"
  | 29 => some "SIGIO"
  | 30 => some "SIGPWR"
  | 31 => some "SIGSYS"
  | _ => none

def describe : Ending → String
  | .exited code => "exit status: " ++ toString code
  | .killed signal =>
    match signalName? signal with
    | some name => "signal: " ++ toString signal ++ " (" ++ name ++ ")"
    | none => "signal: " ++ toString signal

/-- The question as it is shown in messages, between backquotes. -/
def question (command : String) : String :=
  "\x60" ++ command ++ " --prefix\x60"

def Error.message : Error → String
  | .spawn command cause => "failed to run " ++ question command ++ ": " ++ cause.message
  | .failed command ending => question command ++ " failed with " ++ describe ending
  | .emptyOutput command => question command ++ " printed no install prefix"

/-- The prefix in what the command printed: its first line, trimmed, unless that is empty.
mirrors `meta_env::locate::parse_prefix` -/
def rootOf? (stdout : Bytes) : Option Bytes :=
  match (Text.lines (Utf8.lossy stdout)).head? with
  | none => none
  | some line =>
    let root := Text.trim line
    if root = "" then none else some (Utf8.encode root)

/-- Asks `command` for the install prefix.
mirrors `meta_env::locate::query_prefix` -/
def installRoot (fs : FileSystem) (searchPath : List Bytes) (command : String) :
    Except Error Bytes × FileSystem :=
  match fs.run searchPath (Utf8.encode command) ["--prefix"] with
  | (.error cause, fs) => (.error (.spawn command cause), fs)
  | (.ok output, fs) =>
    if output.ending ≠ .exited 0 then (.error (.failed command output.ending), fs)
    else match rootOf? output.stdout with
      | some root => (.ok root, fs)
      | none => (.error (.emptyOutput command), fs)

/-- mirrors `meta_env::locate::LIBRARY_FILE_NAME` -/
def libraryName : String := "libphp.so"

/-- The library of the runtime installed at `root`.
mirrors `meta_env::locate::library_path_for_prefix` -/
def libraryBelow (root : Bytes) : Bytes :=
  Path.join (Path.join root (Utf8.encode "lib")) (Utf8.encode libraryName)

/-- The path of the library, found with the help of `command`.
mirrors `meta_env::locate::locate_library` -/
def findLibrary (fs : FileSystem) (searchPath : List Bytes) (command : String) :
    Except Error Bytes × FileSystem × List Event :=
  match installRoot fs searchPath command with
  | (.error cause, fs) => (.error cause, fs, [])
  | (.ok root, fs) => (.ok (libraryBelow root), fs, [.locatedLibrary root (libraryBelow root)])

end ScriptHost.Discovery
