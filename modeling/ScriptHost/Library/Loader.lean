import ScriptHost.FileSystem.Basic
import ScriptHost.Library

/-!
# A loader

Stands for the loader of the system where the runtime's library is found as a file. The empty path
names the host itself, which exports nothing. A path without a separator is looked for among the
system's libraries only, and there is no runtime there.
-/
namespace ScriptHost.Library

/-- The symbols that the library at `path` exports, if it can be opened. -/
def exports? (fs : FileSystem) (path : Bytes) : Option (List String) :=
  if path = [] then some []
  else if Path.slash ∈ path then
    match fs.find path with
    | .ok (.library exports) => some exports
    | _ => none
  else none

/-- Opens the library and binds every entry point. -/
def bind (fs : FileSystem) (path : Bytes) : Except Error Unit × List Event :=
  bindExports path (exports? fs path)

/-- The part of a library's exports that is left without the `missing` symbols. -/
def exportsWithout (missing : List String) : List String :=
  entryPoints.filter fun symbol => !missing.contains symbol

end ScriptHost.Library
