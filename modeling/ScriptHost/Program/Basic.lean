import ScriptHost.Discovery
import ScriptHost.Library
import ScriptHost.Repl.Basic
import ScriptHost.Settings.File

/-!
# The program

Loads the settings, finds and binds the runtime's library, starts the runtime, runs the loop over
standard input, saves the history and shuts the runtime down. The first failure ends the program;
a runtime that was started is shut down all the same, and a history that cannot be saved is no
failure.

**Outside.** What the program relies on and does not decide: the system's loader, the line editor,
and the files as they are while a runtime is at work, which may change them (`Outside`).
-/
namespace ScriptHost.Program

/-- What the program finds when it is started. -/
structure Invocation where
  /-- The path of the executable. -/
  exe : Bytes
  files : FileSystem
  searchPath : List Bytes
  /-- What the line editor gets to read. -/
  stdin : Bytes
  /-- The kind of the terminal. -/
  term : String

/-- What the program relies on around a runtime with states `σ`. -/
structure Outside (σ : Type) where
  /-- The symbols that the library at a path exports, if the loader can open it. -/
  exports? : FileSystem → Bytes → Option (List String)
  /-- What the line editor reads from standard input. -/
  readings : List Reading
  /-- The line editor writes the prompt to standard output before it reads. -/
  showsPrompt : Bool
  /-- The files that are there when the runtime is in a state, if the program left these. -/
  view : FileSystem → σ → FileSystem

inductive Failure where
  | settings (cause : Settings.Error)
  | discovery (cause : Discovery.Error)
  | binding (cause : Library.Error)
  | configuration (cause : Lifecycle.Error)
  | startup (cause : Lifecycle.Error)
  | loop (cause : Lifecycle.Error)
  | shutdown (cause : Lifecycle.Error)
  | reading (reason : String)
  deriving DecidableEq, Repr

/-- What the program says about a failure, without the causes behind it. -/
def Failure.report : Failure → String
  | .settings cause => cause.message
  | .discovery _ => "cannot locate the PHP runtime library"
  | .binding _ => "cannot bind the PHP runtime"
  | .configuration cause => cause.message
  | .startup _ => "PHP global startup failed"
  | .loop cause => cause.message
  | .shutdown cause => cause.message
  | .reading reason => "reading input failed: " ++ reason

/-- The files, and the histories that were to be saved there, in order. -/
structure Store where
  files : FileSystem
  saves : List History := []

/-- Tries to save a history. -/
def Store.save (store : Store) (history : History) : Except History.Error Unit × Store :=
  let (result, _, files) := history.save store.files
  (result, ⟨files, store.saves ++ [history]⟩)

/-- How a run of the program ended. -/
structure Outcome (σ : Type) where
  result : Except Failure Unit
  /-- What the program left and saved. -/
  store : Store
  console : Console
  engine : σ
  /-- What of standard input was not read. -/
  unread : List Reading

namespace Outcome

variable {σ : Type}

def exitStatus (o : Outcome σ) : Nat :=
  match o.result with
  | .ok () => 0
  | .error _ => 1

def files (o : Outcome σ) : FileSystem :=
  o.store.files

def saves (o : Outcome σ) : List History :=
  o.store.saves

end Outcome

/-- The path of the library: the one in the settings, or the one that discovery finds.
mirrors `meta_runtime::resolve_library` -/
def resolveLibrary (inv : Invocation) (settings : Settings) :
    Except Failure Bytes × FileSystem × List Event :=
  match settings.libraryPath with
  | some path => (.ok (Utf8.encode path), inv.files, [])
  | none =>
    match Discovery.findLibrary inv.files inv.searchPath settings.configCommand with
    | (.ok path, files, events) => (.ok path, files, events)
    | (.error cause, files, events) => (.error (.discovery cause), files, events)

variable {σ : Type}

/-- The settings, with the runtime's library found and bound. -/
def prepare (outside : Outside σ) (inv : Invocation) :
    Except Failure Settings × FileSystem × List Event :=
  match Settings.load inv.files (Settings.pathFor inv.exe) with
  | (.error cause, events) => (.error (.settings cause), inv.files, events)
  | (.ok settings, events) =>
    match resolveLibrary inv settings with
    | (.error failure, files, more) => (.error failure, files, events ++ more)
    | (.ok path, files, more) =>
      match Library.bindExports path (outside.exports? files path) with
      | (.error cause, last) => (.error (.binding cause), files, events ++ more ++ last)
      | (.ok (), last) => (.ok settings, files, events ++ more ++ last)

/-- Events that are reported outside the lifecycle. -/
def reporting (l : Lifecycle σ) (events : List Event) : Lifecycle σ :=
  { l with host := { l.host with console := l.host.console.logAll events } }

/-- A history that could not be saved is reported, and that is all. -/
def noting (l : Lifecycle σ) : Except History.Error Unit → Lifecycle σ
  | .ok () => l
  | .error cause => l.log (.historyNotSaved cause)

/-- The end of a run without a lifecycle. -/
def stop (outside : Outside σ) (s : σ) (failure : Failure) (files : FileSystem)
    (events : List Event) : Outcome σ :=
  ⟨.error failure, { files }, { events }, s, outside.readings⟩

/-- The end of a run with a lifecycle: it goes out of use. -/
def finish (e : Engine σ) (result : Except Failure Unit) (store : Store) (l : Lifecycle σ)
    (unread : List Reading) : Outcome σ :=
  let l := l.drop e
  ⟨result, store, l.host.console, l.engine, unread⟩

/-- The run of a runtime that has been started: the loop, the save, the shutdown.
mirrors `meta_runtime::main`, from the startup on -/
def converse (outside : Outside σ) (e : Engine σ) (inv : Invocation) (settings : Settings)
    (files : FileSystem) (l : Lifecycle σ) : Outcome σ :=
  let (history, events) :=
    History.resume (outside.view files l.engine)
      (History.pathFor inv.exe settings.historySuffix)
  let repl : Repl σ := {
    lifecycle := reporting l events
    history
    prompt := settings.prompt
    showsPrompt := outside.showsPrompt }
  match repl.run e (outside.view files) outside.readings with
  | (.error cause, unread, repl) =>
    finish e (.error (.loop cause)) { files } repl.lifecycle unread
  | (.ok termination, unread, repl) =>
    let seen := outside.view files repl.lifecycle.engine
    let (saved, store) := Store.save { files := seen } repl.history
    match (noting (repl.lifecycle.log (.loopFinished termination)) saved).shutdown e with
    | (.error cause, l) => finish e (.error (.shutdown cause)) store l unread
    | (.ok (), l) =>
      match termination with
      | .readFailed reason => finish e (.error (.reading reason)) store l unread
      | _ => finish e (.ok ()) store l unread

/-- Runs the program with a library whose runtime is the engine `e`, in the state `s`.
mirrors `meta_runtime::main` -/
def runIn (outside : Outside σ) (e : Engine σ) (s : σ) (inv : Invocation) : Outcome σ :=
  match prepare outside inv with
  | (.error failure, files, events) =>
    stop outside s failure files (.announced version :: events)
  | (.ok settings, files, events) =>
    let events := .announced version :: events
    match Lifecycle.create s settings.config with
    | (.error cause, more) => stop outside s (.configuration cause) files (events ++ more)
    | (.ok l, _) =>
      match (reporting l events).startup e with
      | (.error cause, l) => finish e (.error (.startup cause)) { files } l outside.readings
      | (.ok (), l) => converse outside e inv settings files l

end ScriptHost.Program
