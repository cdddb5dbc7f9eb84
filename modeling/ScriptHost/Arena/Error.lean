/-!
# Why a string cannot be interned
-/
namespace ScriptHost.Arena

/-- mirrors `meta_sapi::arena::ArenaError` -/
inductive Error where
  /-- The text holds a NUL, the first at this byte offset. -/
  | interiorNul (position : Nat)
  | released
  deriving DecidableEq, Repr

def Error.message : Error → String
  | .interiorNul position => "string contains a NUL byte at offset " ++ toString position
  | .released => "arena has already been released"

end ScriptHost.Arena
