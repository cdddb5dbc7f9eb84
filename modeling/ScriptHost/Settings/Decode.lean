import ScriptHost.Json.Document
import ScriptHost.Settings.Basic

/-!
# Settings from JSON

A record is written as an object, read by key, or as an array of its fields in order. Both forms
may leave fields out, which then have their defaults. An object may have members the record does
not know, but no field twice; an array may not be longer than the record. Every field present
has exactly its type, and integers are in range.
-/
namespace ScriptHost

namespace Json

/-- A field of a record `α`: its key, and how its value changes the record. -/
structure RecordField (α : Type) where
  key : String
  set : Value → α → Option α

variable {α : Type}

/-- Sets the fields that the members name, none of which is among those already `seen`. -/
def setByKey (fields : List (RecordField α)) (seen : List String) (record : α) :
    List (Option String × Value) → Option α
  | [] => some record
  | (none, _) :: _ => none
  | (some key, v) :: rest =>
    match fields.find? (·.key = key) with
    | none => setByKey fields seen record rest
    | some field =>
      if key ∈ seen then none
      else match field.set v record with
        | none => none
        | some record => setByKey fields (key :: seen) record rest

/-- Sets the first fields from the items in order. -/
def setInOrder (record : α) : List (RecordField α) → List Value → Option α
  | _, [] => some record
  | [], _ :: _ => none
  | field :: fields, v :: rest =>
    match field.set v record with
    | none => none
    | some record => setInOrder record fields rest

/-- The record that `v` writes, `default` in the fields it leaves out. -/
def record? (fields : List (RecordField α)) (default : α) : Value → Option α
  | .object members => setByKey fields [] default members
  | .array items => setInOrder default fields items
  | _ => none

/-! ## Field types -/

def bool? : Value → Option Bool
  | .bool b => some b
  | _ => none

def text? : Value → Option String
  | .string text => text
  | _ => none

/-- The integer that `v` writes, if it is from `low` to `high`. -/
def integer? (low high : Int) : Value → Option Int
  | .number (.integer n) => if low ≤ n ∧ n ≤ high then some n else none
  | _ => none

def uint32? (v : Value) : Option UInt32 :=
  (integer? 0 4294967295 v).map fun n => UInt32.ofNat n.toNat

def int64? (v : Value) : Option Int64 :=
  (integer? (-9223372036854775808) 9223372036854775807 v).map Int64.ofInt

def texts? : Value → Option (List String)
  | .array items => items.mapM text?
  | _ => none

def optionalText? : Value → Option (Option String)
  | .null => some none
  | v => (text? v).map some

end Json

open Json

def RuntimeOptions.fields : List (RecordField RuntimeOptions) := [
  ⟨"html_errors", fun v s => (bool? v).map fun b => { s with htmlErrors := b }⟩,
  ⟨"implicit_flush", fun v s => (bool? v).map fun b => { s with implicitFlush := b }⟩,
  ⟨"output_buffering", fun v s => (uint32? v).map fun n => { s with outputBuffering := n }⟩,
  ⟨"max_execution_time", fun v s => (uint32? v).map fun n => { s with maxExecutionTime := n }⟩,
  ⟨"max_input_time", fun v s => (int64? v).map fun n => { s with maxInputTime := n }⟩,
  ⟨"extra", fun v s => (texts? v).map fun ts => { s with extra := ts }⟩]

/-- mirrors the decoding of `meta_services::settings::IniSettings` -/
def RuntimeOptions.ofJson? (v : Value) : Option RuntimeOptions :=
  record? RuntimeOptions.fields {} v

def Settings.fields : List (RecordField Settings) := [
  ⟨"ini", fun v s => (RuntimeOptions.ofJson? v).map fun ini => { s with ini := ini }⟩,
  ⟨"prompt", fun v s => (text? v).map fun t => { s with prompt := t }⟩,
  ⟨"eval_name", fun v s => (text? v).map fun t => { s with evalName := t }⟩,
  ⟨"history_suffix", fun v s => (text? v).map fun t => { s with historySuffix := t }⟩,
  ⟨"php_config", fun v s => (text? v).map fun t => { s with configCommand := t }⟩,
  ⟨"library_path", fun v s => (optionalText? v).map fun t => { s with libraryPath := t }⟩]

/-- mirrors the decoding of `meta_services::settings::Settings` -/
def Settings.ofJson? (v : Value) : Option Settings :=
  record? Settings.fields {} v

end ScriptHost
