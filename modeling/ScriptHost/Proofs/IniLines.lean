import Mathlib.Data.List.DropRight
import ScriptHost.Proofs.HistoryReload
import ScriptHost.Proofs.Splitting
import ScriptHost.Settings.Basic

/-!
# The lines of an ini block

A block is a text, and each of its lines is ended by LF.

**Cutting.** `Text.stretches` cuts a text at every LF and takes nothing else away. A text whose
lines are each ended by LF has one stretch more than it has lines, and that one is empty.

**Extra lines (`extraLines`).** An extra entry counts without the LFs behind it. One with an LF
inside is more than one line, and an empty one is an empty line.

**Results.**
* `Text.stretches_unlines`, `Text.unlines_stretches`: cutting lines apart and joining them again.
* `lt_of_mem_optionLines`: an option line has neither blanks nor control characters.
* `render_eq_unlines`, `stretches_render`: a block is the option lines and then the extra lines.
-/
namespace ScriptHost

namespace Text

/-! ## Stretches -/

/-- The stretches of `s` between its LFs. -/
def stretches (s : String) : List String :=
  (s.toList.splitOn '\n').map String.ofList

/-- Lines that are each ended by LF, and the empty stretch behind the last LF. -/
theorem stretches_unlines {lines : List String} (h : ∀ line ∈ lines, IsLine line) :
    stretches (unlines lines) = lines ++ [""] := by
  unfold stretches
  rw [toList_unlines]
  induction lines with
  | nil => rfl
  | cons line rest ih =>
    obtain ⟨hl, hr⟩ := List.forall_mem_cons.1 h
    rw [List.flatMap_cons, List.append_assoc, List.singleton_append,
      List.splitOn_append_cons_self_of_not_mem hl, List.map_cons, String.ofList_toList, ih hr]
    rfl

theorem unlines_stretches (s : String) : unlines (stretches s) = s ++ "\n" := by
  apply String.toList_injective
  rw [toList_unlines, stretches, List.flatMap_map]
  simpa using flatMap_splitOn '\n' s.toList

theorem isLine_of_mem_stretches {s line : String} (h : line ∈ stretches s) : IsLine line := by
  obtain ⟨d, hd, rfl⟩ := List.mem_map.1 h
  rw [IsLine, String.toList_ofList]
  exact not_mem_of_mem_splitOn '\n' s.toList d hd

theorem unlines_append (xs ys : List String) : unlines (xs ++ ys) = unlines xs ++ unlines ys := by
  apply String.toList_injective
  simp [toList_unlines]

end Text

namespace RuntimeOptions

/-! ## The option lines -/

theorem isDigit_of_mem_repr {n : Nat} {c : Char} (h : c ∈ n.repr.toList) : c.isDigit = true := by
  rw [Nat.toList_repr] at h
  exact Nat.isDigit_of_mem_toDigits (by decide) (by decide) h

theorem lt_of_isDigit {c : Char} (h : c.isDigit = true) : ' ' < c := by
  have hd : 48 ≤ c.toNat := (Char.isDigit_iff_toNat.1 h).1
  rw [Char.lt_def, UInt32.lt_iff_toNat_lt]
  change 32 < c.toNat
  omega

theorem lt_of_mem_flag (b : Bool) : ∀ c ∈ (flag b).toList, ' ' < c := by
  cases b <;> simp [flag]

theorem lt_of_mem_repr (n : Nat) : ∀ c ∈ n.repr.toList, ' ' < c :=
  fun _ h => lt_of_isDigit (isDigit_of_mem_repr h)

theorem lt_of_mem_toString (n : Int) : ∀ c ∈ (toString n).toList, ' ' < c := by
  rw [Int.toString_eq_repr]
  cases n with
  | ofNat n => exact lt_of_mem_repr n
  | negSucc n =>
    rw [Int.repr, String.toList_append, List.forall_mem_append]
    exact ⟨by simp, lt_of_mem_repr n.succ⟩

/-- An option line is made of visible characters. -/
theorem lt_of_mem_optionLines (o : RuntimeOptions) :
    ∀ line ∈ o.optionLines, ∀ c ∈ line.toList, ' ' < c := by
  simp only [optionLines, List.forall_mem_cons, String.toList_append, List.forall_mem_append]
  exact ⟨⟨by simp, lt_of_mem_flag _⟩, ⟨by simp, lt_of_mem_flag _⟩,
    ⟨by simp, lt_of_mem_repr _⟩, ⟨by simp, lt_of_mem_repr _⟩,
    ⟨by simp, lt_of_mem_toString _⟩, by simp⟩

/-! ## The extra lines -/

/-- The lines of an extra entry: without the LFs behind it, cut at every LF inside. -/
def entryLines (entry : String) : List String :=
  Text.stretches (String.ofList (entry.toList.rdropWhile (· = '\n')))

/-- The lines of all extra entries, in order. -/
def extraLines (o : RuntimeOptions) : List String :=
  o.extra.flatMap entryLines

theorem unlines_entryLines (entry : String) :
    Text.unlines (entryLines entry) = extraLine entry ++ "\n" :=
  Text.unlines_stretches _

theorem isLine_of_mem_extraLines {o : RuntimeOptions} {line : String} (h : line ∈ o.extraLines) :
    Text.IsLine line := by
  obtain ⟨entry, -, hl⟩ := List.mem_flatMap.1 h
  exact Text.isLine_of_mem_stretches hl

theorem unlines_extraLines (o : RuntimeOptions) :
    Text.unlines o.extraLines = Text.unlines (o.extra.map extraLine) := by
  unfold extraLines
  induction o.extra with
  | nil => rfl
  | cons entry rest ih =>
    rw [List.flatMap_cons, Text.unlines_append, unlines_entryLines, ih]
    simp [Text.unlines]

/-- The block: the option lines and the extra lines, each ended by LF. -/
theorem render_eq_unlines (o : RuntimeOptions) :
    o.render = Text.unlines (o.optionLines ++ o.extraLines) := by
  rw [render, Text.unlines_append, Text.unlines_append, unlines_extraLines]

theorem isLine_of_mem_lines (o : RuntimeOptions) :
    ∀ line ∈ o.optionLines ++ o.extraLines, Text.IsLine line := by
  rw [List.forall_mem_append]
  refine ⟨fun line hl hn => ?_, fun line hl => isLine_of_mem_extraLines hl⟩
  exact absurd (lt_of_mem_optionLines o line hl _ hn) (by decide)

theorem stretches_render (o : RuntimeOptions) :
    Text.stretches o.render = o.optionLines ++ o.extraLines ++ [""] := by
  rw [render_eq_unlines, Text.stretches_unlines (isLine_of_mem_lines o)]

end RuntimeOptions

end ScriptHost
