import ScriptHost.Arena.Error
import ScriptHost.Text.Quoted
import ScriptHost.Text.Utf8

/-!
# Phases of the host

A host goes from `unstarted` through `signalsArmed` and `hostTableRegistered` to
`globalStartupDone`, alternates between `requestActive` and `requestIdle`, and ends in
`globalShutdownDone`.
-/
namespace ScriptHost

/-- mirrors `meta_sapi::lifecycle::LifecycleState` -/
inductive Phase where
  | unstarted
  | signalsArmed
  | hostTableRegistered
  | globalStartupDone
  | requestActive
  | requestIdle
  | globalShutdownDone
  deriving DecidableEq, Repr

def Phase.name : Phase → String
  | .unstarted => "Unstarted"
  | .signalsArmed => "SignalsArmed"
  | .hostTableRegistered => "HostTableRegistered"
  | .globalStartupDone => "GlobalStartupDone"
  | .requestActive => "RequestActive"
  | .requestIdle => "RequestIdle"
  | .globalShutdownDone => "GlobalShutdownDone"

namespace Lifecycle

/-- mirrors `meta_sapi::lifecycle::LifecycleError` -/
inductive Error where
  | outOfPhase (source target : Phase)
  | moduleFailed
  | requestRefused
  | nulInPath (path : Bytes)
  | arena (cause : Arena.Error)
  deriving DecidableEq, Repr

def Error.message : Error → String
  | .outOfPhase source target =>
    "cannot move from " ++ source.name ++ " to " ++ target.name
  | .moduleFailed => "runtime module startup failed"
  | .requestRefused => "runtime request startup failed"
  | .nulInPath path =>
    "script path " ++ Text.quote (Utf8.lossy path) ++ " contains a NUL byte"
  | .arena cause => cause.message

end Lifecycle

end ScriptHost
