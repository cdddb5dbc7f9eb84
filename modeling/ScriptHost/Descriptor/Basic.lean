import ScriptHost.Arena.Basic
import ScriptHost.Descriptor.Layout

/-!
# The module descriptor

What the host tells the runtime about itself: its names, its ini entries once they are interned,
and the callback slots it fills. A slot that is not filled is a null pointer, and the runtime
checks for it.
-/
namespace ScriptHost

/-- The callback slots that a host fills. -/
inductive Slot where
  | startup
  | shutdown
  | write
  | flush
  | error
  | sendHeader
  | readPost
  | readCookies
  | registerServerVariables
  | logMessage
  deriving DecidableEq, Repr

/-- The slot's field in the descriptor. -/
def Slot.field : Slot → String
  | .startup => "startup"
  | .shutdown => "shutdown"
  | .write => "ub_write"
  | .flush => "flush"
  | .error => "sapi_error"
  | .sendHeader => "send_header"
  | .readPost => "read_post"
  | .readCookies => "read_cookies"
  | .registerServerVariables => "register_server_variables"
  | .logMessage => "log_message"

/-- mirrors `meta_ffi::abi::SapiModule` -/
structure Descriptor where
  name : Option StringHandle := none
  prettyName : Option StringHandle := none
  slots : List Slot := []
  iniEntries : Option StringHandle := none
  deriving DecidableEq, Repr

namespace Descriptor

/-- Nothing is set yet. -/
def isNull (d : Descriptor) : Bool :=
  d.name.isNone && d.prettyName.isNone && d.slots.isEmpty && d.iniEntries.isNone

/-- mirrors `meta_sapi::adapter::install_hooks` -/
def allSlots : List Slot :=
  [.startup, .shutdown, .write, .flush, .error, .sendHeader, .readPost, .readCookies,
    .registerServerVariables, .logMessage]

/-- The fields of the filled slots, in the order of the descriptor. -/
def filledFields (d : Descriptor) : List String :=
  (Layout.descriptor.map (·.1)).filter fun field => (d.slots.map Slot.field).contains field

end Descriptor

end ScriptHost
