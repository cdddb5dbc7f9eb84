/-!
# Layout of the module descriptor

The runtime reads the descriptor as a C structure, so each field has a fixed place: the first
multiple of its own width behind the field before it. The structure is as large as its fields,
rounded up to a multiple of the widest.
-/
namespace ScriptHost.Layout

inductive Width where
  | pointer
  | int
  deriving DecidableEq, Repr

def Width.bytes : Width → Nat
  | .pointer => 8
  | .int => 4

/-- The least multiple of `unit` that is not below `n`. -/
def roundUp (n unit : Nat) : Nat :=
  (n + unit - 1) / unit * unit

/-- Each name with its place, for fields that start to be laid out at `start`. -/
def offsetsFrom (start : Nat) : List (String × Width) → List (String × Nat)
  | [] => []
  | (name, width) :: rest =>
    let place := roundUp start width.bytes
    (name, place) :: offsetsFrom (place + width.bytes) rest

def endFrom (start : Nat) : List (String × Width) → Nat
  | [] => start
  | (_, width) :: rest => endFrom (roundUp start width.bytes + width.bytes) rest

/-- The alignment of a structure of these fields. -/
def align (fields : List (String × Width)) : Nat :=
  (fields.map (·.2.bytes)).foldl max 1

def size (fields : List (String × Width)) : Nat :=
  roundUp (endFrom 0 fields) (align fields)

/-- The fields of the descriptor in order.
mirrors `meta_ffi::abi::SapiModule` -/
def descriptor : List (String × Width) := [
  ("name", .pointer), ("pretty_name", .pointer), ("startup", .pointer), ("shutdown", .pointer),
  ("activate", .pointer), ("deactivate", .pointer), ("ub_write", .pointer), ("flush", .pointer),
  ("get_stat", .pointer), ("getenv", .pointer), ("sapi_error", .pointer),
  ("header_handler", .pointer), ("send_headers", .pointer), ("send_header", .pointer),
  ("read_post", .pointer), ("read_cookies", .pointer), ("register_server_variables", .pointer),
  ("log_message", .pointer), ("get_request_time", .pointer), ("terminate_process", .pointer),
  ("php_ini_path_override", .pointer), ("default_post_reader", .pointer),
  ("treat_data", .pointer), ("executable_location", .pointer), ("php_ini_ignore", .int),
  ("php_ini_ignore_cwd", .int), ("get_fd", .pointer), ("force_http_10", .pointer),
  ("get_target_uid", .pointer), ("get_target_gid", .pointer), ("input_filter", .pointer),
  ("ini_defaults", .pointer), ("phpinfo_as_text", .int), ("ini_entries", .pointer),
  ("additional_functions", .pointer), ("input_filter_init", .pointer)]

/-- Size and alignment of a structure the host only passes on. -/
structure Opaque where
  size : Nat
  align : Nat

/-- mirrors `meta_ffi::abi::FileHandle` -/
def fileHandle : Opaque := ⟨80, 8⟩

/-- A slot for one value of the runtime.
mirrors `meta_ffi::abi::Zval` -/
def value : Opaque := ⟨16, 8⟩

end ScriptHost.Layout
