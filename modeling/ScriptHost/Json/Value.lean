/-!
# JSON values

An object keeps its members in the order they were written, repeated keys included. A string may
hold an escape that stands for no character, half of a surrogate pair; such a string is well
formed but has no text.
-/
namespace ScriptHost.Json

inductive Number where
  | integer (n : Int)
  /-- Written with a fraction or an exponent, or as minus zero. -/
  | decimal
  deriving DecidableEq, Repr

inductive Value where
  | null
  | bool (b : Bool)
  | number (n : Number)
  | string (text : Option String)
  | array (items : List Value)
  | object (members : List (Option String × Value))
  deriving Repr

end ScriptHost.Json
