import ScriptHost.Text.Grapheme.Table

/-!
# User-perceived characters

A text falls into extended grapheme clusters: a base with its combining marks, a Hangul
syllable, a flag of two regional indicators, an emoji sequence, a cluster of consonants. CR LF is
one cluster and every other control character is one of its own.

`eraseBackspaced` uses them: each backspace takes away the cluster that is left before it.
-/
namespace ScriptHost.Text.Grapheme

inductive Kind where
  | cr | lf | control | extend | joiner | regional | prepended | spacingMark
  | leading | vowel | trailing | openSyllable | closedSyllable | other
  deriving DecidableEq, Repr

/-- The Hangul syllables without a trailing consonant are every 28th one. -/
def hangulKind? (c : Char) : Option Kind :=
  let n := c.toNat
  if 0x1100 ≤ n && n ≤ 0x115F || 0xA960 ≤ n && n ≤ 0xA97C then some .leading
  else if 0x1160 ≤ n && n ≤ 0x11A7 || 0xD7B0 ≤ n && n ≤ 0xD7C6 || n = 0x16D63 ||
    0x16D67 ≤ n && n ≤ 0x16D6A then some .vowel
  else if 0x11A8 ≤ n && n ≤ 0x11FF || 0xD7CB ≤ n && n ≤ 0xD7FB then some .trailing
  else if 0xAC00 ≤ n && n ≤ 0xD7A3 then
    some (if (n - 0xAC00) % 28 = 0 then .openSyllable else .closedSyllable)
  else none

def kind (c : Char) : Kind :=
  if c = '\r' then .cr
  else if c = '\n' then .lf
  else if '\x20' ≤ c && c ≤ '\x7E' then .other
  else if c = '\u200D' then .joiner
  else if control.contains c then .control
  else if extending.contains c || modifier.contains c then .extend
  else if 0x1F1E6 ≤ c.toNat && c.toNat ≤ 0x1F1FF then .regional
  else if prepended.contains c then .prepended
  else if spacingMark.contains c then .spacingMark
  else (hangulKind? c).getD .other

/-- How far a sequence of emoji joined into one has come. -/
inductive EmojiTail where
  | none | pictograph | joined
  deriving DecidableEq, Repr

/-- How far a cluster of consonants has come. -/
inductive ConjunctTail where
  | none | consonant | linked
  deriving DecidableEq, Repr

/-- What the decision after a character depends on: its kind, whether an odd number of regional
indicators ends with it, and which sequences it may be inside of. -/
structure Context where
  last : Kind
  oddRegional : Bool
  emoji : EmojiTail
  conjunct : ConjunctTail

def Context.start (c : Char) : Context where
  last := kind c
  oddRegional := kind c = .regional
  emoji := if pictograph.contains c then .pictograph else .none
  conjunct := if conjunctConsonant.contains c then .consonant else .none

def Context.next (ctx : Context) (c : Char) : Context where
  last := kind c
  oddRegional := kind c = .regional && !ctx.oddRegional
  emoji :=
    if pictograph.contains c then .pictograph
    else match ctx.emoji, kind c with
      | .pictograph, .extend => .pictograph
      | .pictograph, .joiner => .joined
      | _, _ => .none
  conjunct :=
    if conjunctConsonant.contains c then .consonant
    else if ctx.conjunct = .none || c = '\u200C' then .none
    else if conjunctLinker.contains c then .linked
    else match kind c with
      | .extend | .joiner => ctx.conjunct
      | _ => .none

/-- Whether `c` belongs to the cluster that ends in `ctx`. -/
def Context.joins (ctx : Context) (c : Char) : Bool :=
  match ctx.last, kind c with
  | .cr, .lf => true
  | .cr, _ | .lf, _ | .control, _ => false
  | _, .cr | _, .lf | _, .control => false
  | .leading, .leading | .leading, .vowel | .leading, .openSyllable
  | .leading, .closedSyllable => true
  | .openSyllable, .vowel | .openSyllable, .trailing | .vowel, .vowel | .vowel, .trailing => true
  | .closedSyllable, .trailing | .trailing, .trailing => true
  | _, .extend | _, .joiner | _, .spacingMark => true
  | .prepended, _ => true
  | .regional, .regional => ctx.oddRegional
  | _, _ =>
    (ctx.conjunct = .linked && conjunctConsonant.contains c) ||
      (ctx.emoji = .joined && pictograph.contains c)

/-- The clusters of `rest`, the first of which starts with `cluster`, collected back to front. -/
def clustersFrom (ctx : Context) (cluster : List Char) : List Char → List (List Char)
  | [] => [cluster.reverse]
  | c :: rest =>
    if ctx.joins c then clustersFrom (ctx.next c) (c :: cluster) rest
    else cluster.reverse :: clustersFrom (.start c) [c] rest

def clusters : List Char → List (List Char)
  | [] => []
  | c :: rest => clustersFrom (.start c) [c] rest

/-- One cluster read by a line that keeps `kept`, last cluster first. -/
def typed (kept : List (List Char)) (cluster : List Char) : List (List Char) :=
  if cluster = ['\x08'] then kept.tail else cluster :: kept

/-- What is left of `s` when each backspace has taken away the cluster before it. -/
def eraseBackspaced (s : String) : String :=
  String.ofList ((clusters s.toList).foldl typed []).reverse.flatten

end ScriptHost.Text.Grapheme
