import ScriptHost.Descriptor.Basic
import ScriptHost.Host.Output

/-!
# The host module

The memory that the host shares with the runtime: the descriptor, the arena behind its strings,
the ini entries not yet interned, and the name of inline code.

`Host.create` interns the names and fills the slots. The ini entries are interned by
`exposeIni`, the host's half of the `startup` slot, once for every call of that slot.
-/
namespace ScriptHost

/-- The status of a call that succeeded. -/
def successStatus : Int := 0

/-- The status with which the host refuses a call. -/
def failureStatus : Int := -1

def version : String := "0.1.0"

def moduleName : String := "meta"

def prettyName : String := "PHP meta-SAPI"

/-- Values fixed for the life of the host.
mirrors `meta_sapi::lifecycle::HostConfig` -/
structure Host.Config where
  iniEntries : String
  evalName : String
  deriving DecidableEq, Repr

def defaultIniEntries : String :=
  "html_errors=0\nimplicit_flush=1\noutput_buffering=0\nmax_execution_time=0\nmax_input_time=-1\n"

def defaultEvalName : String := "php_meta_sapi"

def Host.Config.default : Host.Config :=
  ⟨defaultIniEntries, defaultEvalName⟩

/-- mirrors `meta_sapi::adapter::HostModule` -/
structure Host where
  descriptor : Descriptor
  arena : Arena
  iniText : String
  evalName : StringHandle
  console : Console
  deriving Repr

namespace Host

/-- Interns the names and fills every slot the runtime may call. A text that cannot be interned
leaves no host; what was interned before it is released, and reported as the second component.
mirrors `meta_sapi::adapter::HostModule::new` -/
def create (config : Host.Config) : Except Arena.Error Host × List Event :=
  match Arena.intern {} moduleName with
  | (.error e, a) => (.error e, a.dropEvents)
  | (.ok name, a) =>
    match a.intern prettyName with
    | (.error e, a) => (.error e, a.dropEvents)
    | (.ok pretty, a) =>
      match a.intern config.evalName with
      | (.error e, a) => (.error e, a.dropEvents)
      | (.ok evalName, a) =>
        (.ok {
          descriptor := ⟨some name, some pretty, Descriptor.allSlots, none⟩
          arena := a
          iniText := config.iniEntries
          evalName := evalName
          console := {} }, [])

def log (h : Host) (e : Event) : Host :=
  { h with console := h.console.log e }

/-- What the runtime reads through a pointer of the descriptor. -/
def read (h : Host) (s : Option StringHandle) : Option Bytes :=
  s.map h.arena.read

/-- What the runtime reads as the ini entries, if they are set. -/
def iniEntries (h : Host) : Option Bytes :=
  h.read h.descriptor.iniEntries

/-- Interns the ini entries and sets the descriptor's pointer to them. The first component is
what the runtime then reads there; none if they cannot be interned.
mirrors `meta_sapi::adapter::startup_hook`, up to its call of the engine -/
def exposeIni (h : Host) : Option Bytes × Host :=
  match h.arena.intern h.iniText with
  | (.error e, a) => (none, { h with arena := a }.log (.iniNotExposed e))
  | (.ok ini, a) =>
    let h := { h with arena := a, descriptor := { h.descriptor with iniEntries := some ini } }
    (h.iniEntries, h)

/-- Releases the interned strings. -/
def release (h : Host) : Host :=
  { h with
    arena := h.arena.release.2
    console := h.console.logAll h.arena.releaseEvents }

/-- The end of the host module: the arena goes out of use. -/
def drop (h : Host) : Host :=
  { h with
    arena := if h.arena.isReleased then h.arena else h.arena.release.2
    console := h.console.logAll h.arena.dropEvents }

end Host

end ScriptHost
