import ScriptHost.Host.Basic
import ScriptHost.Text.Conversion

/-!
# Hooks

What the runtime may ask of the host through the slots of the descriptor. Output goes to
standard output, messages of errors to standard error; headers, cookies and request data do not
concern this host, so those hooks do nothing.

The host cannot read the arguments of a message that is still to be formatted. It prints such a
message as it is and reports that it did.
-/
namespace ScriptHost

inductive Hook where
  /-- The `startup` slot up to the point where the runtime's own module startup goes on. It is for
  the host to run the slot; that a runtime does so breaks the contract of the slot. -/
  | startup
  /-- The `startup` slot without a module. -/
  | startupWithoutModule
  | write (text : Bytes)
  | flush
  | error (kind : Int) (message : Bytes)
  | logMessage (message : Bytes) (kind : Int)
  | sendHeader
  | readPost (count : Nat)
  | readCookies
  | registerServerVariables
  deriving DecidableEq, Repr

namespace Hook

/-- What a hook returns. `startup` gives the ini entries that the runtime's module startup reads,
or none when the host refuses to go on; a refusal is seen as `failureStatus`. -/
@[reducible] def Result : Hook → Type
  | .startup => Option Bytes
  | .startupWithoutModule => Int
  | .write _ => Nat
  | .readPost _ => Nat
  | .readCookies => Option Bytes
  | .flush | .error _ _ | .logMessage _ _ | .sendHeader | .registerServerVariables => Unit

/-- mirrors `meta_sapi::adapter::sapi_error_line` -/
def errorLine (kind : Int) (message : String) : String :=
  "sapi_error(" ++ toString kind ++ "): " ++ message

/-- mirrors `meta_sapi::adapter::log_message_line` -/
def logLine (kind : Int) (message : String) : String :=
  "log_message(" ++ toString kind ++ "): " ++ message

end Hook

namespace Host

/-- Prints an error message, as far as its first NUL.
mirrors `meta_sapi::adapter::sapi_error` -/
def printError (h : Host) (kind : Int) (message : Bytes) : Host :=
  let text := Utf8.lossy (untilNul message)
  let h := if Text.hasConversion text then h.log .argumentsNotRead else h
  { h with console := h.console.printError (Hook.errorLine kind text ++ "\n") }

/-- Prints a log message, as far as its first NUL.
mirrors `meta_sapi::adapter::log_message` -/
def printLog (h : Host) (message : Bytes) (kind : Int) : Host :=
  { h with
    console := h.console.print (Hook.logLine kind (Utf8.lossy (untilNul message)) ++ "\n") }

/-- The host's answer to a hook call.
mirrors the hooks of `meta_sapi::adapter`, from `startup_hook` to `log_message` -/
def answer (h : Host) : (hook : Hook) → hook.Result × Host
  | .startup => h.exposeIni
  | .startupWithoutModule => (failureStatus, h)
  | .write text =>
    let (count, console) := h.console.write text
    (count, { h with console })
  | .flush => ((), h)
  | .error kind message => ((), h.printError kind message)
  | .logMessage message kind => ((), h.printLog message kind)
  | .sendHeader => ((), h)
  | .readPost _ => (0, h)
  | .readCookies => (none, h)
  | .registerServerVariables => ((), h)

end Host

end ScriptHost
