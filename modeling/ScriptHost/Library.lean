import ScriptHost.Event

/-!
# Binding the runtime's library

Every entry point is looked up when the library is opened, in a fixed order, and the first one
that is missing fails the whole. Whether a library can be opened, and what it exports, is for the
system's loader to say.
-/
namespace ScriptHost.Library

/-- The symbols of the runtime that the host calls.
mirrors `meta_ffi::library::PhpApi` -/
def entryPoints : List String := [
  "zend_signal_startup", "sapi_startup", "sapi_shutdown", "php_request_startup",
  "php_request_shutdown", "php_module_startup", "php_module_shutdown",
  "php_module_shutdown_wrapper", "zend_eval_stringl_ex", "zend_stream_init_filename",
  "php_execute_script", "zend_destroy_file_handle", "php_var_dump", "zend_zval_type_name"]

/-- mirrors `meta_ffi::library::BindError` -/
inductive Error where
  | notOpened (path : Bytes)
  | missingSymbol (path : Bytes) (symbol : String)
  deriving DecidableEq, Repr

def Error.message : Error → String
  | .notOpened path => "failed to load runtime library " ++ Utf8.lossy path ++ ": "
  | .missingSymbol path symbol =>
    "runtime library " ++ Utf8.lossy path ++ " does not export " ++ "\x60" ++ symbol ++ "\x60: "

/-- Binds every entry point of the library at `path`, of which the loader says what it exports,
or that it cannot be opened.
mirrors `meta_ffi::library::PhpLibrary::open` -/
def bindExports (path : Bytes) (exports? : Option (List String)) :
    Except Error Unit × List Event :=
  match exports? with
  | none => (.error (.notOpened path), [])
  | some exports =>
    match entryPoints.find? fun symbol => !exports.contains symbol with
    | some symbol => (.error (.missingSymbol path symbol), [])
    | none => (.ok (), [.boundLibrary path])

end ScriptHost.Library
