import ScriptHost.Json.Value

/-!
# JSON tokens

Reads a text character by character into tokens. Outside strings only space, tab, CR and LF
separate tokens. A string ends at its closing quote and holds no control character below U+0020.
Anything else is a word, which runs to the next separator, quote or punctuation and must be a
number or one of the three names.
-/
namespace ScriptHost.Json

inductive Token where
  | openArray
  | closeArray
  | openObject
  | closeObject
  | comma
  | colon
  | null
  | bool (b : Bool)
  | number (n : Number)
  | string (text : Option String)
  deriving DecidableEq, Repr

/-- What one character or escape of a string adds to it: a character, or half of a pair. -/
inductive Piece where
  | char (c : Char)
  | half (unit : Nat)
  deriving DecidableEq, Repr

namespace Piece

def isLeading (unit : Nat) : Bool :=
  0xD800 ≤ unit && unit < 0xDC00

def isTrailing (unit : Nat) : Bool :=
  0xDC00 ≤ unit && unit < 0xE000

def ofUnit (unit : Nat) : Piece :=
  if isLeading unit || isTrailing unit then .half unit else .char (Char.ofNat unit)

/-- The characters of a string, unless half of a pair stands alone. -/
def join : List Piece → Option (List Char)
  | [] => some []
  | .char c :: rest => (join rest).map (c :: ·)
  | .half a :: .half b :: rest =>
    if isLeading a && isTrailing b then
      (join rest).map (Char.ofNat (0x10000 + (a - 0xD800) * 0x400 + (b - 0xDC00)) :: ·)
    else none
  | .half _ :: _ => none

end Piece

/-! ## Words -/

/-- The value of a run of decimal digits. -/
def digitsValue (ds : List Char) : Nat :=
  ds.foldl (fun n d => n * 10 + (d.toNat - '0'.toNat)) 0

/-- An exponent, or nothing: `e` or `E`, a sign if wanted, digits. -/
def isExponent : List Char → Bool
  | [] => true
  | c :: rest =>
    let digits := match rest with
      | '+' :: ds | '-' :: ds => ds
      | ds => ds
    (c = 'e' || c = 'E') && !digits.isEmpty && digits.all Char.isDigit

/-- What may follow the digits before the point: a fraction and an exponent, each if wanted. -/
def isTail : List Char → Bool
  | '.' :: rest =>
    !(rest.takeWhile Char.isDigit).isEmpty && isExponent (rest.dropWhile Char.isDigit)
  | rest => isExponent rest

/-- A number without its sign. A number of several digits does not start with a zero. -/
def unsigned? (negative : Bool) (cs : List Char) : Option Number :=
  let digits := cs.takeWhile Char.isDigit
  let tail := cs.dropWhile Char.isDigit
  if digits = [] || (digits.head? = some '0' && digits.length ≠ 1) || !isTail tail then none
  else if tail ≠ [] then some .decimal
  else
    let n := digitsValue digits
    if negative then some (if n = 0 then .decimal else .integer (-n)) else some (.integer n)

def number? : List Char → Option Number
  | '-' :: cs => unsigned? true cs
  | cs => unsigned? false cs

def word? (cs : List Char) : Option Token :=
  if cs = "null".toList then some .null
  else if cs = "true".toList then some (.bool true)
  else if cs = "false".toList then some (.bool false)
  else (number? cs).map .number

/-! ## The reader -/

def isSeparator (c : Char) : Bool :=
  c = ' ' || c = '\t' || c = '\r' || c = '\n'

def punctuation? : Char → Option Token
  | '[' => some .openArray
  | ']' => some .closeArray
  | '\x7b' => some .openObject
  | '\x7d' => some .closeObject
  | ',' => some .comma
  | ':' => some .colon
  | _ => none

def hexDigit? (c : Char) : Option Nat :=
  if '0' ≤ c && c ≤ '9' then some (c.toNat - '0'.toNat)
  else if 'a' ≤ c && c ≤ 'f' then some (c.toNat - 'a'.toNat + 10)
  else if 'A' ≤ c && c ≤ 'F' then some (c.toNat - 'A'.toNat + 10)
  else none

/-- The character that a one-letter escape stands for. -/
def escape? : Char → Option Char
  | '"' => some '"'
  | '\\' => some '\\'
  | '/' => some '/'
  | 'b' => some '\x08'
  | 'f' => some '\x0c'
  | 'n' => some '\n'
  | 'r' => some '\r'
  | 't' => some '\t'
  | _ => none

/-- Where the reader stands; what it has collected is kept back to front. -/
inductive Place where
  | between
  | word (back : List Char)
  | string (back : List Piece)
  | escape (back : List Piece)
  /-- Inside a four-digit escape: how many digits are to come, and the value so far. -/
  | unit (back : List Piece) (missing value : Nat)

structure Reader where
  place : Place := .between
  /-- The tokens so far, back to front. -/
  tokens : List Token := []

namespace Reader

/-- A character met between tokens. -/
def start (tokens : List Token) (c : Char) : Reader :=
  if isSeparator c then ⟨.between, tokens⟩
  else if c = '"' then ⟨.string [], tokens⟩
  else match punctuation? c with
    | some token => ⟨.between, token :: tokens⟩
    | none => ⟨.word [c], tokens⟩

def step (r : Reader) (c : Char) : Option Reader :=
  match r.place with
  | .between => some (start r.tokens c)
  | .word back =>
    if isSeparator c || c = '"' || (punctuation? c).isSome then
      (word? back.reverse).map fun token => start (token :: r.tokens) c
    else some { r with place := .word (c :: back) }
  | .string back =>
    if c = '"' then
      let text := (Piece.join back.reverse).map String.ofList
      some ⟨.between, .string text :: r.tokens⟩
    else if c = '\\' then some { r with place := .escape back }
    else if c < ' ' then none
    else some { r with place := .string (.char c :: back) }
  | .escape back =>
    if c = 'u' then some { r with place := .unit back 4 0 }
    else (escape? c).map fun d => { r with place := .string (.char d :: back) }
  | .unit back missing value =>
    (hexDigit? c).map fun d =>
      let value := value * 16 + d
      if missing ≤ 1 then { r with place := .string (.ofUnit value :: back) }
      else { r with place := .unit back (missing - 1) value }

/-- The tokens of a text that ends here. -/
def finish? (r : Reader) : Option (List Token) :=
  match r.place with
  | .between => some r.tokens.reverse
  | .word back => (word? back.reverse).map fun token => (token :: r.tokens).reverse
  | _ => none

end Reader

def tokens? (text : String) : Option (List Token) :=
  (text.toList.foldlM Reader.step {}).bind Reader.finish?

end ScriptHost.Json
