import ScriptHost.FileSystem.Fault
import ScriptHost.Text.Utf8

/-!
# Why a history cannot be read or saved
-/
namespace ScriptHost.History

/-- mirrors `meta_services::history::HistoryError` -/
inductive Error where
  | read (path : Bytes) (cause : Fault)
  | write (path : Bytes) (cause : Fault)
  deriving DecidableEq, Repr

def Error.message : Error → String
  | .read path cause =>
    "failed to read history from " ++ Utf8.lossy path ++ ": " ++ cause.message
  | .write path cause =>
    "failed to write history to " ++ Utf8.lossy path ++ ": " ++ cause.message

end ScriptHost.History
