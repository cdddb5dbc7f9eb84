import ScriptHost.Engine.Scripted
import ScriptHost.FileSystem.Arrange
import ScriptHost.Program

/-!
# Command line

Runs the program on the real files it needs: its settings, its history, the library named in the
settings, and the paths among its input lines. The runtime behind the library is a scripted one
without a script, so every script completes and every line evaluates to null.
-/
namespace ScriptHost.Shell

def readFile? (path : String) : IO (Option Bytes) := do
  let .ok content ← (IO.FS.readBinFile path).toBaseIO | pure none
  pure (some content.toList)

def exists? (path : String) : IO Bool := do
  let .ok _ ← (IO.FS.realPath path).toBaseIO | pure false
  pure true

def pathText (path : Bytes) : String :=
  Utf8.lossy path

/-- Adds what is at `path`. What is there but cannot be read counts as a directory. -/
def loadFile (fs : FileSystem) (path : Bytes) : IO FileSystem := do
  match ← readFile? (pathText path) with
  | some content => pure (fs.arrange path (.put (.file content)))
  | none =>
    if ← exists? (pathText path) then pure (fs.arrange path .directory) else pure fs

/-- Adds a file for the path that a line names, if there is one. -/
def loadScript (fs : FileSystem) (reading : Reading) : IO FileSystem := do
  match reading with
  | .line line =>
    let path := Utf8.encode line
    if line ≠ "" && !fs.contains path && (← exists? line) then
      pure (fs.arrange path (.put (.file [])))
    else pure fs
  | _ => pure fs

/-- Adds the library at `path`, if there is one. -/
def loadLibrary (fs : FileSystem) (path : String) : IO FileSystem := do
  if ← exists? path then
    pure (fs.arrange (Utf8.encode path) (.put (.library (Library.exportsWithout []))))
  else pure fs

/-- What the program finds, with the files it may look at. -/
def invocation : IO Program.Invocation := do
  let exe := Utf8.encode (toString (← IO.appPath))
  let here := FileSystem.names (Utf8.encode (toString (← IO.currentDir)))
  let stdin := (← (← IO.getStdin).readBinToEnd).toList
  let fs ← loadFile (.fresh here) (Settings.pathFor exe)
  let settings := (Settings.load fs (Settings.pathFor exe)).1.toOption.getD {}
  let fs ← loadFile fs (History.pathFor exe settings.historySuffix)
  let fs ← match settings.libraryPath with
    | some path => loadLibrary fs path
    | none => pure fs
  let files ← (Reading.ofPipe stdin).foldlM loadScript fs
  let searchPath := ((← IO.getEnv "PATH").getD "").splitOn ":"
  pure {
    exe, files, stdin
    searchPath := searchPath.map Utf8.encode
    term := (← IO.getEnv "TERM").getD "" }

/-- Writes back the histories that the program saved. -/
def storeHistories (o : Program.Outcome Scripted.State) : IO Unit :=
  o.saves.forM fun history => do
    match o.files.read history.path with
    | .ok content =>
      let _ ← (IO.FS.writeBinFile (pathText history.path) ⟨content.toArray⟩).toBaseIO
    | .error _ => pure ()

/-- Runs the program and prints what it wrote. -/
def runProgram : IO UInt32 := do
  let o := Program.run Scripted.engine {} (← invocation)
  storeHistories o
  let stdout ← IO.getStdout
  stdout.write ⟨o.console.out.toArray⟩
  stdout.flush
  let stderr ← IO.getStderr
  stderr.write ⟨o.console.err.toArray⟩
  match o.result with
  | .ok () => pure ()
  | .error failure => stderr.putStrLn ("Error: " ++ failure.report)
  pure (UInt32.ofNat o.exitStatus)

end ScriptHost.Shell

def main : IO UInt32 :=
  ScriptHost.Shell.runProgram
