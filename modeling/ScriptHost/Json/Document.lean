import ScriptHost.Json.Token

/-!
# JSON documents

Builds the value of a text from its tokens. The containers that are still open are kept on a
stack, so a document may be nested to any depth.
-/
namespace ScriptHost.Json

/-- An open container: its items or members so far, back to front, and for an object the key
whose value is to come. -/
inductive Frame where
  | array (back : List Value)
  | object (back : List (Option String × Value)) (key : Option String)

inductive Builder where
  /-- A value must come. -/
  | value (stack : List Frame)
  /-- After `[`: a value, or the end of an empty array. -/
  | items (stack : List Frame)
  /-- After `{`: a key, or the end of an empty object. -/
  | members (stack : List Frame)
  /-- After a comma in an object: a key must come. -/
  | key (stack : List Frame) (back : List (Option String × Value))
  /-- A colon must come. -/
  | colon (stack : List Frame) (back : List (Option String × Value)) (key : Option String)
  /-- A value has ended. -/
  | ended (stack : List Frame) (value : Value)

namespace Builder

/-- A token where a value may start. -/
def start (stack : List Frame) : Token → Option Builder
  | .openArray => some (.items stack)
  | .openObject => some (.members stack)
  | .null => some (.ended stack .null)
  | .bool b => some (.ended stack (.bool b))
  | .number n => some (.ended stack (.number n))
  | .string text => some (.ended stack (.string text))
  | _ => none

def step : Builder → Token → Option Builder
  | .value stack, token => start stack token
  | .items stack, .closeArray => some (.ended stack (.array []))
  | .items stack, token => start (.array [] :: stack) token
  | .members stack, .closeObject => some (.ended stack (.object []))
  | .members stack, .string k => some (.colon stack [] k)
  | .key stack back, .string k => some (.colon stack back k)
  | .colon stack back k, .colon => some (.value (.object back k :: stack))
  | .ended (.array back :: stack) v, .comma => some (.value (.array (v :: back) :: stack))
  | .ended (.array back :: stack) v, .closeArray =>
    some (.ended stack (.array (v :: back).reverse))
  | .ended (.object back k :: stack) v, .comma => some (.key stack ((k, v) :: back))
  | .ended (.object back k :: stack) v, .closeObject =>
    some (.ended stack (.object ((k, v) :: back).reverse))
  | _, _ => none

def finish? : Builder → Option Value
  | .ended [] v => some v
  | _ => none

end Builder

/-- The value that a whole text denotes. -/
def parse? (text : String) : Option Value :=
  match tokens? text with
  | none => none
  | some tokens => (tokens.foldlM Builder.step (.value [])).bind Builder.finish?

end ScriptHost.Json
