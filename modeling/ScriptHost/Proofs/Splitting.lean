import ScriptHost.Path

/-!
# Cutting at a separator

A list that is cut at every `x` falls into stretches without `x`. The stretches of a path between
its separators are such a cut.

* `not_mem_of_mem_splitOn`, `flatMap_splitOn`: what the stretches hold, and how they make up the
  list again.
* `Path.pieces_eq_splitOn`: the pieces of a path; `Path.pieces_append_slash`: a separator ends one.
-/
namespace ScriptHost

section
variable {α : Type} [BEq α] [LawfulBEq α]

theorem splitOn_cons_self (x : α) (as : List α) : (x :: as).splitOn x = [] :: as.splitOn x := by
  rw [List.splitOn_cons_eq_if_modifyHead, if_pos (beq_self_eq_true x)]

theorem splitOn_cons_of_ne {x a : α} (h : a ≠ x) (as : List α) :
    ∃ b bs, as.splitOn x = b :: bs ∧ (a :: as).splitOn x = (a :: b) :: bs := by
  obtain ⟨b, bs, hb⟩ := List.exists_cons_of_ne_nil (List.splitOn_ne_nil x as)
  refine ⟨b, bs, hb, ?_⟩
  rw [List.splitOn_cons_eq_if_modifyHead, if_neg (by simpa using h), hb, List.modifyHead_cons]

theorem not_mem_of_mem_splitOn (x : α) (as : List α) : ∀ b ∈ as.splitOn x, x ∉ b := by
  induction as with
  | nil => simp
  | cons a as ih =>
    by_cases h : a = x
    · subst h
      rw [splitOn_cons_self, List.forall_mem_cons]
      exact ⟨List.not_mem_nil, ih⟩
    · obtain ⟨b, bs, hb, hs⟩ := splitOn_cons_of_ne h as
      rw [hb, List.forall_mem_cons] at ih
      rw [hs, List.forall_mem_cons, List.mem_cons, not_or]
      exact ⟨⟨Ne.symm h, ih.1⟩, ih.2⟩

/-- The stretches, each followed by the separator. -/
theorem flatMap_splitOn (x : α) (as : List α) :
    ((as.splitOn x).flatMap fun b => b ++ [x]) = as ++ [x] := by
  induction as with
  | nil => simp
  | cons a as ih =>
    by_cases h : a = x
    · subst h
      rw [splitOn_cons_self, List.flatMap_cons, ih]
      rfl
    · obtain ⟨b, bs, hb, hs⟩ := splitOn_cons_of_ne h as
      rw [hb, List.flatMap_cons] at ih
      rw [hs, List.flatMap_cons, List.cons_append, List.cons_append, ih]
      rfl

end

namespace Path

theorem pieces_eq_splitOn (p : Bytes) : pieces p = p.splitOn slash := by
  induction p with
  | nil => rfl
  | cons c rest ih =>
    by_cases h : c = slash
    · rw [pieces, if_pos h, ih, h, splitOn_cons_self]
    · obtain ⟨d, ds, hd, hs⟩ := splitOn_cons_of_ne h rest
      rw [pieces, if_neg h, ih, hd, hs]

theorem pieces_append_slash (p q : Bytes) : pieces (p ++ slash :: q) = pieces p ++ pieces q := by
  simp only [pieces_eq_splitOn, List.splitOn_append_cons_self]

theorem pieces_of_not_mem {p : Bytes} (h : slash ∉ p) : pieces p = [p] := by
  rw [pieces_eq_splitOn, List.splitOn_eq_singleton h]

theorem slash_not_mem_of_mem_pieces {p piece : Bytes} (h : piece ∈ pieces p) : slash ∉ piece := by
  rw [pieces_eq_splitOn] at h
  exact not_mem_of_mem_splitOn slash p piece h

end Path

end ScriptHost
