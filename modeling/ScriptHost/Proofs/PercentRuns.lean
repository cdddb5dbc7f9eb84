import ScriptHost.Text.Conversion

/-!
# Conversions and runs of percent signs

A message is scanned for a conversion from the left, and a run of percent signs is used up in
pairs on the way. What the scan finds can be said without it.

**Runs (`PercentRun`).** A run is percent signs in a row with no further one next to them. If they
are odd in number, one is left over when they are paired, and it makes a conversion with the
character behind the run. Where the message ends with the run there is no such character.

**Steps.** The scan passes an ordinary character or two percent signs at a time. Neither step
decides anything: a run that leaves a sign over is in the rest if and only if one is in the whole
(`hasOpenRun_cons_iff`, `hasOpenRun_pair_iff`).

**Results.**
* `hasConversionChars_iff`: the scan finds a conversion exactly where such a run is.
* `not_hasOpenRun_doubled`: when every percent sign is doubled, no run leaves one over.
* `conversion_iff_odd_run`: both, for messages.
-/
namespace ScriptHost.Text

/-! ## Runs -/

/-- A run of percent signs in `cs`, with what is before it and what is behind. -/
structure PercentRun (cs : List Char) where
  before : List Char
  length : Nat
  after : List Char
  split : cs = before ++ List.replicate length '%' ++ after
  pos : 0 < length
  starts : before.getLast? ≠ some '%'
  ends : after.head? ≠ some '%'

namespace PercentRun

variable {cs : List Char}

theorem split_of_before (run : PercentRun cs) (h : run.before = []) :
    cs = List.replicate run.length '%' ++ run.after := by
  have hs := run.split
  rwa [h, List.nil_append] at hs

/-- The run when more text is put before it. -/
def behind (front : List Char) (run : PercentRun cs)
    (h : run.before = [] → front.getLast? ≠ some '%') : PercentRun (front ++ cs) where
  before := front ++ run.before
  length := run.length
  after := run.after
  split := by
    rw [List.append_assoc, List.append_assoc, ← List.append_assoc run.before, ← run.split]
  pos := run.pos
  starts := by
    intro hl
    rw [List.getLast?_append, Option.or_eq_some_iff] at hl
    rcases hl with hl | ⟨hl, hf⟩
    · exact run.starts hl
    · exact h (List.getLast?_eq_none_iff.1 hl) hf
  ends := run.ends

/-- The run when text before it is taken away. -/
def within (front : List Char) (run : PercentRun (front ++ cs))
    (h : front.length ≤ run.before.length) : PercentRun cs where
  before := run.before.drop front.length
  length := run.length
  after := run.after
  split := by
    have hs := congrArg (List.drop front.length) run.split
    rwa [List.drop_left, List.append_assoc, List.drop_append_of_le_length h,
      ← List.append_assoc] at hs
  pos := run.pos
  starts := by
    intro hl
    apply run.starts
    rw [← List.take_append_drop front.length run.before, List.getLast?_append, hl, Option.some_or]
  ends := run.ends

end PercentRun

/-- Some run leaves a percent sign over and has a character behind it. -/
def HasOpenRun (cs : List Char) : Prop :=
  ∃ run : PercentRun cs, run.length % 2 = 1 ∧ run.after ≠ []

/-- A sign and a character behind it are two characters. -/
theorem not_hasOpenRun_of_short {cs : List Char} (h : cs.length < 2) : ¬ HasOpenRun cs := by
  rintro ⟨run, -, hne⟩
  have hpos := run.pos
  have hafter : 0 < run.after.length := List.length_pos_iff.2 hne
  have hlen := congrArg List.length run.split
  rw [List.length_append, List.length_append, List.length_replicate] at hlen
  omega

theorem hasOpenRun_of_start {n : Nat} {after : List Char} (hn : n % 2 = 1) (hne : after ≠ [])
    (hend : after.head? ≠ some '%') : HasOpenRun (List.replicate n '%' ++ after) := by
  have hpos : 0 < n := by omega
  exact ⟨⟨[], n, after, rfl, hpos, by simp, hend⟩, hn, hne⟩

/-! ## Steps of the scan -/

/-- An ordinary character is in no run. -/
theorem hasOpenRun_cons_iff {c : Char} (hc : c ≠ '%') (cs : List Char) :
    HasOpenRun (c :: cs) ↔ HasOpenRun cs := by
  constructor
  · rintro ⟨run, hodd, hne⟩
    cases hb : run.before with
    | nil =>
      -- the run would start with the character
      have hs := run.split_of_before hb
      obtain ⟨n, hn⟩ := Nat.exists_eq_succ_of_ne_zero (Nat.pos_iff_ne_zero.1 run.pos)
      rw [hn, List.replicate_succ] at hs
      exact absurd (List.cons.inj hs).1 hc
    | cons d back =>
      have hlen : [c].length ≤ run.before.length := by simp [hb]
      exact ⟨run.within [c] hlen, hodd, hne⟩
  · rintro ⟨run, hodd, hne⟩
    exact ⟨run.behind [c] fun _ => by simpa using hc, hodd, hne⟩

/-- Two percent signs are before a run or lengthen it, and it stays odd or even. -/
theorem hasOpenRun_pair_iff (cs : List Char) :
    HasOpenRun ('%' :: '%' :: cs) ↔ HasOpenRun cs := by
  constructor
  · rintro ⟨run, hodd, hne⟩
    match hb : run.before with
    | [] =>
      have hs := run.split_of_before hb
      match hn : run.length with
      | 0 => omega
      | 1 =>
        -- the second sign would be behind the run
        rw [hn] at hs
        have ha : run.after = '%' :: cs := (List.cons.inj hs).2.symm
        exact absurd (congrArg List.head? ha) run.ends
      | n + 2 =>
        rw [hn] at hs hodd
        have hs' : cs = List.replicate n '%' ++ run.after := (List.cons.inj (List.cons.inj hs).2).2
        rw [hs']
        exact hasOpenRun_of_start (by omega) hne run.ends
    | [d] =>
      -- the run would go on with the first sign
      have hs := run.split
      rw [hb] at hs
      have hd : '%' = d := (List.cons.inj hs).1
      exact absurd (by rw [hb, hd]; rfl) run.starts
    | d :: e :: back =>
      have hlen : ['%', '%'].length ≤ run.before.length := by simp [hb]
      exact ⟨run.within ['%', '%'] hlen, hodd, hne⟩
  · rintro ⟨run, hodd, hne⟩
    by_cases hb : run.before = []
    · have hs : '%' :: '%' :: cs = List.replicate (run.length + 2) '%' ++ run.after :=
        congrArg (fun l => '%' :: '%' :: l) (run.split_of_before hb)
      rw [hs]
      exact hasOpenRun_of_start (by omega) hne run.ends
    · exact ⟨run.behind ['%', '%'] fun h => absurd h hb, hodd, hne⟩

/-- A percent sign alone is left over for the character behind it. -/
theorem hasOpenRun_lone {c : Char} (hc : c ≠ '%') (cs : List Char) :
    HasOpenRun ('%' :: c :: cs) := by
  have hend : (c :: cs).head? ≠ some '%' := by simpa using hc
  exact hasOpenRun_of_start (by decide : 1 % 2 = 1) (List.cons_ne_nil c cs) hend

theorem hasConversionChars_iff (cs : List Char) :
    hasConversionChars cs = true ↔ HasOpenRun cs := by
  fun_induction hasConversionChars cs with
  | case1 rest ih => exact ih.trans (hasOpenRun_pair_iff rest).symm
  | case2 c rest hc => exact iff_of_true rfl (hasOpenRun_lone hc rest)
  | case3 c rest _ hlone ih =>
    by_cases hc : c = '%'
    · -- the message ends with this sign
      cases rest with
      | nil =>
        have hlast : ¬ HasOpenRun [c] := not_hasOpenRun_of_short (Nat.lt_succ_self 1)
        exact iff_of_false Bool.false_ne_true hlast
      | cons d tail => exact (hlone d tail hc rfl).elim
    · exact ih.trans (hasOpenRun_cons_iff hc rest).symm
  | case4 => exact iff_of_false Bool.false_ne_true (not_hasOpenRun_of_short Nat.two_pos)

/-! ## Doubled signs -/

/-- The text with every percent sign doubled. -/
def doubled (cs : List Char) : List Char :=
  cs.flatMap fun c => if c = '%' then ['%', '%'] else [c]

def doublePercents (message : String) : String :=
  String.ofList (doubled message.toList)

theorem not_hasOpenRun_doubled (cs : List Char) : ¬ HasOpenRun (doubled cs) := by
  induction cs with
  | nil => exact not_hasOpenRun_of_short Nat.two_pos
  | cons c rest ih =>
    by_cases hc : c = '%'
    · have hd : doubled (c :: rest) = '%' :: '%' :: doubled rest := by simp [doubled, hc]
      rwa [hd, hasOpenRun_pair_iff]
    · have hd : doubled (c :: rest) = c :: doubled rest := by simp [doubled, hc]
      rwa [hd, hasOpenRun_cons_iff hc]

/-- **Conversions.** A message holds a conversion exactly when the signs of some run of percent
signs in it are odd in number and the message goes on behind them. So none is left in a message
whose percent signs are all doubled. -/
theorem conversion_iff_odd_run (message : String) :
    (hasConversion message = true ↔
      ∃ run : PercentRun message.toList, run.length % 2 = 1 ∧ run.after ≠ []) ∧
      hasConversion (doublePercents message) = false := by
  refine ⟨hasConversionChars_iff message.toList, ?_⟩
  rw [Bool.eq_false_iff, hasConversion, Ne, hasConversionChars_iff, doublePercents,
    String.toList_ofList]
  exact not_hasOpenRun_doubled message.toList

/-- The sign that three of them leave over, and one at the end of a message. -/
example : hasConversion "50%% of %%%d" = true ∧ hasConversion "50%% of %%%" = false := by
  decide

end ScriptHost.Text
