import ScriptHost.History.Error
import ScriptHost.Lifecycle.Phase
import ScriptHost.Repl.Result

/-!
# Events

What the host reports about its own work, one constructor for each kind of event. An event is
shown as a level, a message and named values. Most values are shown as plain text (`fields`); the
results of lines and loops are shown in the form of a term (`terms`).
-/
namespace ScriptHost

/-- mirrors the events that `meta_sapi`, `meta_ffi`, `meta_env`, `meta_services`, `meta_repl` and
`meta_runtime` report, in this order -/
inductive Event where
  | releasedStrings (count bytes : Nat)
  | transition (source target : Phase)
  | iniNotExposed (cause : Arena.Error)
  | moduleStartupFailed (status : Int)
  | requestStartupFailed (status : Int)
  | shutdownOnDropFailed (cause : Lifecycle.Error)
  | executedScript (path : Bytes) (completed : Bool)
  | evaluationFailed (status : Int)
  | argumentsNotRead
  | boundLibrary (path : Bytes)
  | locatedLibrary (root library : Bytes)
  | defaultSettings (path : Bytes)
  | loadedHistory (path : Bytes) (entries : Nat)
  | historyUnreadable (cause : History.Error)
  | handledLine (number : Nat) (outcome : LineResult)
  | readingFailed (reason : String)
  | announced (version : String)
  | loopFinished (reason : StopReason)
  | historyNotSaved (cause : History.Error)
  deriving DecidableEq, Repr

namespace Event

inductive Level where
  | debug | info | warn | error
  deriving DecidableEq, Repr

def Level.name : Level → String
  | .debug => "DEBUG"
  | .info => "INFO"
  | .warn => "WARN"
  | .error => "ERROR"

def level : Event → Level
  | .iniNotExposed _ | .moduleStartupFailed _ => .error
  | .requestStartupFailed _ | .shutdownOnDropFailed _ | .historyUnreadable _
  | .readingFailed _ | .historyNotSaved _ => .warn
  | .boundLibrary _ | .announced _ => .info
  | _ => .debug

def message : Event → String
  | .releasedStrings _ _ => "released native strings"
  | .transition _ _ => "lifecycle transition"
  | .iniNotExposed _ => "cannot expose ini entries to the runtime"
  | .moduleStartupFailed _ => "module startup hook failed"
  | .requestStartupFailed _ => "request startup failed"
  | .shutdownOnDropFailed _ => "shutdown on drop failed"
  | .executedScript _ _ => "executed script"
  | .evaluationFailed _ => "inline evaluation failed"
  | .argumentsNotRead => "sapi_error message printed without its format arguments"
  | .boundLibrary _ => "bound runtime library"
  | .locatedLibrary _ _ => "located runtime library"
  | .defaultSettings _ => "no settings file, using defaults"
  | .loadedHistory _ _ => "loaded history"
  | .historyUnreadable _ => "history unreadable; new lines will be appended to it"
  | .handledLine _ _ => "handled line"
  | .readingFailed _ => "reading input failed"
  | .announced version => "PHP meta-SAPI v" ++ version
  | .loopFinished _ => "input loop finished"
  | .historyNotSaved _ => "history not saved"

/-- The values that are shown as plain text. -/
def fields : Event → List (String × String)
  | .releasedStrings count bytes => [("count", toString count), ("bytes", toString bytes)]
  | .transition source target => [("from", source.name), ("to", target.name)]
  | .iniNotExposed cause => [("err", cause.message)]
  | .moduleStartupFailed status => [("status", toString status)]
  | .requestStartupFailed status => [("status", toString status)]
  | .shutdownOnDropFailed cause => [("err", cause.message)]
  | .executedScript path completed =>
    [("path", Utf8.lossy path), ("completed", toString completed)]
  | .evaluationFailed status => [("status", toString status)]
  | .argumentsNotRead => []
  | .boundLibrary path => [("library", Utf8.lossy path)]
  | .locatedLibrary root library =>
    [("prefix", Utf8.lossy root), ("library", Utf8.lossy library)]
  | .defaultSettings path => [("path", Utf8.lossy path)]
  | .loadedHistory path entries =>
    [("path", Utf8.lossy path), ("entries", toString entries)]
  | .historyUnreadable cause => [("err", cause.message)]
  | .handledLine number _ => [("line", toString number)]
  | .readingFailed reason => [("reason", reason)]
  | .announced _ => []
  | .loopFinished _ => []
  | .historyNotSaved cause => [("err", cause.message)]

/-- The values that are shown in the form of a term. -/
def terms : Event → List (String × String)
  | .handledLine _ outcome => [("outcome", outcome.shown)]
  | .loopFinished reason => [("termination", reason.shown)]
  | _ => []

end Event

end ScriptHost
