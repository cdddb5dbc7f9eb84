import ScriptHost.Path

/-!
# Files beside the executable

The host keeps its settings and its history next to its executable, in hidden files named after
it.
-/
namespace ScriptHost

/-- The stem used for an executable whose path has no file name. -/
def defaultStem : String := "php-meta-sapi"

/-- The name of a hidden file for the executable `exe`. -/
def hiddenName (exe : Bytes) (suffix : String) : String :=
  let stem := match Path.stem? exe with
    | some stem => Utf8.lossy stem
    | none => defaultStem
  "." ++ stem ++ suffix

/-- The path of a hidden file in the directory of `exe`.
mirrors `meta_services::sibling_of_executable` -/
def besideExecutable (exe : Bytes) (suffix : String) : Bytes :=
  Path.join ((Path.parent? exe).getD [Path.dot]) (Utf8.encode (hiddenName exe suffix))

end ScriptHost
