import ScriptHost.History.Basic
import ScriptHost.Lifecycle.Operation
import ScriptHost.Text.Blank

/-!
# The read-eval loop

Per line: read, stop on a keyword or the end of the input, open a request, run the line as a
script if it names an existing path or as inline code otherwise, add it to the history when it is
not blank, and close the request.

A runtime may change files, so what exists is a function of the engine's state: `view s` is the
file system that the loop sees when the engine is in state `s`.
-/
namespace ScriptHost

/-- What a source of lines yields when it is read. A source that has nothing more to give is at its
end.
mirrors `meta_repl::line_source::ReadOutcome` -/
inductive Reading where
  | line (text : String)
  | endOfInput
  | interrupted
  | failed (reason : String)
  deriving DecidableEq, Repr

/-- How a line will be run.
mirrors `meta_repl::driver::Input` -/
inductive LineKind where
  | script (path : Bytes)
  | inline (code : String)
  deriving DecidableEq, Repr

/-- An existing path wins over inline code.
mirrors `meta_repl::driver::classify` -/
def LineKind.ofLine (fs : FileSystem) (line : String) : LineKind :=
  if line ≠ "" && fs.contains (Utf8.encode line) then .script (Utf8.encode line) else .inline line

/-- A loop on a lifecycle and a history.
mirrors `meta_repl::driver::Repl` -/
structure Repl (σ : Type) where
  lifecycle : Lifecycle σ
  history : History
  prompt : String
  /-- The source writes the prompt to standard output before it reads. -/
  showsPrompt : Bool := false
  linesHandled : Nat := 0
  /-- How many readings were asked for. -/
  reads : Nat := 0
  /-- The lines that the source was asked to remember. -/
  remembered : List String := []

namespace Repl

variable {σ : Type}

/-- mirrors `meta_repl::driver::is_exit_keyword` -/
def endsLoop (line : String) : Bool :=
  line = "quit" || line = "exit"

/-- Adds a line to the history and to the source's memory, unless it is blank.
mirrors `meta_repl::driver::record` -/
def record (r : Repl σ) (line : String) : Repl σ :=
  if Text.isBlankText line then r
  else { r with history := r.history.add line, remembered := r.remembered ++ [line] }

def log (r : Repl σ) (e : Event) : Repl σ :=
  { r with lifecycle := r.lifecycle.log e }

/-- Runs a line in the open request. -/
def runAs (e : Engine σ) (l : Lifecycle σ) :
    LineKind → Except Lifecycle.Error LineResult × Lifecycle σ
  | .script path =>
    let (result, l) := l.runScript e path
    (result.map .script, l)
  | .inline code =>
    let (result, l) := l.evaluate e code
    (.ok (.inline result), l)

/-- Runs one line in a request of its own. The request is closed even when the line cannot be
run.
mirrors `meta_repl::driver::Repl::handle_line` -/
def step (e : Engine σ) (view : σ → FileSystem) (r : Repl σ) (line : String) :
    Except Lifecycle.Error LineResult × Repl σ :=
  let r := { r with linesHandled := r.linesHandled + 1 }
  match r.lifecycle.openRequest e with
  | (.error .requestRefused, l) => (.ok .refused, { r with lifecycle := l }.record line)
  | (.error cause, l) => (.error cause, { r with lifecycle := l })
  | (.ok (), l) =>
    match runAs e l (.ofLine (view l.engine) line) with
    | (.error cause, l) => (.error cause, { r with lifecycle := l.closeRequest e })
    | (.ok outcome, l) =>
      let r := ({ r with lifecycle := l }.log (.handledLine r.linesHandled outcome)).record line
      (.ok outcome, { r with lifecycle := r.lifecycle.closeRequest e })

/-- The source is asked for a reading.
mirrors `meta_repl::line_source::LineSource::read_line` -/
def ask (r : Repl σ) : Repl σ :=
  let r := { r with reads := r.reads + 1 }
  if r.showsPrompt then
    let host := r.lifecycle.host
    let host := { host with console := host.console.print r.prompt }
    { r with lifecycle := { r.lifecycle with host } }
  else r

/-- Handles the lines of the source until it has to stop. The second component is what the source
has left. Only misuse of the lifecycle is an error; failures inside the runtime are its own to
report.
mirrors `meta_repl::driver::Repl::run` -/
def run (e : Engine σ) (view : σ → FileSystem) (r : Repl σ) :
    List Reading → Except Lifecycle.Error StopReason × List Reading × Repl σ
  | [] => (.ok .endOfInput, [], r.ask)
  | .endOfInput :: rest => (.ok .endOfInput, rest, r.ask)
  | .interrupted :: rest => (.ok .interrupted, rest, r.ask)
  | .failed reason :: rest =>
    (.ok (.readFailed reason), rest, r.ask.log (.readingFailed reason))
  | .line line :: rest =>
    let r := r.ask
    if endsLoop line then (.ok (.keyword line), rest, r)
    else match r.step e view line with
      | (.error cause, r) => (.error cause, rest, r)
      | (.ok _, r) => r.run e view rest

end Repl

end ScriptHost
