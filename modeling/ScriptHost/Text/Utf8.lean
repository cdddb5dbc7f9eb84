/-!
# Bytes and UTF-8

Byte strings are lists of octets, so that file contents, paths and output streams append and
split by the lemmas of lists.

Text is read from bytes in two ways. `decode?` is strict: it refuses anything that is not UTF-8.
`lossy` never fails: every maximal invalid piece becomes one U+FFFD. A piece is maximal when it
is the longest proper start of some character's encoding; an octet that starts no encoding
stands alone.
-/
namespace ScriptHost

abbrev Bytes := List UInt8

namespace Utf8

def encode (s : String) : Bytes :=
  s.toUTF8.data.toList

def decode? (b : Bytes) : Option String :=
  String.fromUTF8? ⟨b.toArray⟩

/-- The character whose encoding `b` starts with. -/
def head? (b : Bytes) : Option Char :=
  (ByteArray.mk (b.take 4).toArray).utf8DecodeChar? 0

/-- Whether `second` may follow `first` in an encoding of three octets or more. -/
def continues (first second : UInt8) : Bool :=
  if first = 0xE0 then 0xA0 ≤ second && second ≤ 0xBF
  else if first = 0xED then 0x80 ≤ second && second ≤ 0x9F
  else if first = 0xF0 then 0x90 ≤ second && second ≤ 0xBF
  else if first = 0xF4 then 0x80 ≤ second && second ≤ 0x8F
  else 0xE1 ≤ first && first ≤ 0xF3 && 0x80 ≤ second && second ≤ 0xBF

/-- The number of octets of the invalid piece at the start of `b`, given that no character is
encoded there. -/
def invalidLength : Bytes → Nat
  | a :: b :: c :: _ =>
    if continues a b then if 0xF0 ≤ a && 0x80 ≤ c && c ≤ 0xBF then 3 else 2 else 1
  | [a, b] => if continues a b then 2 else 1
  | _ => 1

theorem invalidLength_pos (b : Bytes) : 0 < invalidLength b := by
  unfold invalidLength; split <;> (try split) <;> (try split) <;> decide

def lossyChars : Bytes → List Char
  | [] => []
  | a :: rest =>
    match head? (a :: rest) with
    | some c => c :: lossyChars ((a :: rest).drop c.utf8Size)
    | none => '\uFFFD' :: lossyChars ((a :: rest).drop (invalidLength (a :: rest)))
termination_by b => b.length
decreasing_by
  · have := c.utf8Size_pos
    simp; omega
  · have := invalidLength_pos (a :: rest)
    simp; omega

/-- The text of `b`, with U+FFFD for each maximal invalid piece. -/
def lossy (b : Bytes) : String :=
  String.ofList (lossyChars b)

end Utf8

/-- The bytes before the first NUL: what a reader of NUL-terminated strings sees of `b`. -/
def untilNul (b : Bytes) : Bytes :=
  b.takeWhile (· ≠ 0)

end ScriptHost
