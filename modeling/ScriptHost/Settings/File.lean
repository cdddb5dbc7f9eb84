import ScriptHost.Beside
import ScriptHost.FileSystem.File
import ScriptHost.Settings.Decode

/-!
# The settings file
-/
namespace ScriptHost.Settings

/-- mirrors `meta_services::settings::SettingsError` -/
inductive Error where
  | read (path : Bytes) (cause : Fault)
  | parse (path : Bytes)
  deriving DecidableEq, Repr

def Error.message : Error → String
  | .read path cause =>
    "failed to read settings from " ++ Utf8.lossy path ++ ": " ++ cause.message
  | .parse path => "invalid settings in " ++ Utf8.lossy path ++ ": "

/-- The settings in the file at `path`; a missing file yields the defaults.
mirrors `meta_services::settings::Settings::load` -/
def load (fs : FileSystem) (path : Bytes) : Except Error Settings × List Event :=
  match fs.readText path with
  | .error .notFound => (.ok {}, [.defaultSettings path])
  | .error cause => (.error (.read path cause), [])
  | .ok text =>
    match (Json.parse? text).bind ofJson? with
    | some settings => (.ok settings, [])
    | none => (.error (.parse path), [])

/-- mirrors `meta_services::settings::settings_path_for` -/
def pathFor (exe : Bytes) : Bytes :=
  besideExecutable exe "-settings.json"

end ScriptHost.Settings
