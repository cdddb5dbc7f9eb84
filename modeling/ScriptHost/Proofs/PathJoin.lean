import ScriptHost.Proofs.Splitting

/-!
# A name below a path

What a path says after a name was joined to it, for any bytes in front of the name: no bytes at
all, separators at the end or in a row, `.` and `..`.

**Plain names (`IsPlain`).** A name that is one component and nothing else: it is not empty, it
holds no separator, and it is neither `.` nor `..`.

**Trimming (`trim`).** The path above a name is cut off in front of the separators and `.`
components at its end. These count for nothing, so the components stay.

**Results.**
* `components_join`, `fileName?_join`: a plain name is one more component, and the file name.
* `components_trim`, `parent?_join`: the path above it is the path it was joined to, trimmed.
* `trim_join`: a path that ends in a plain name is trimmed already.
* `isPlain_of_fileName?`, `stemOf_spec`: file names are plain, and what their stems are made of.
-/
namespace ScriptHost.Path

/-- A name that is one component, and not one with a meaning of its own. -/
structure IsPlain (name : Bytes) : Prop where
  ne_nil : name ≠ []
  ne_dot : name ≠ [dot]
  ne_dots : name ≠ [dot, dot]
  slash_not_mem : slash ∉ name

/-- The path without the separators and `.` components at its end. -/
def trim (p : Bytes) : Bytes :=
  (trimBack p.reverse).reverse

/-! ## Components -/

theorem innerComponent?_of_isPlain {name : Bytes} (h : IsPlain name) :
    innerComponent? name = some (.name name) := by
  simp [innerComponent?, h.ne_nil, h.ne_dot, h.ne_dots]

theorem isAbsolute_append_slash (p q : Bytes) :
    isAbsolute (p ++ slash :: q) = isAbsolute (p ++ [slash]) := by
  cases p <;> rfl

theorem head?_pieces_append_slash (p q : Bytes) :
    (pieces (p ++ slash :: q)).head? = (pieces p).head? := by
  have hne : pieces p ≠ [] := by
    rw [pieces_eq_splitOn]
    exact List.splitOn_ne_nil slash p
  rw [pieces_append_slash, List.head?_append, Option.or_of_isSome]
  simpa using hne

theorem filterMap_pieces_concat_slash (p : Bytes) :
    (pieces (p ++ [slash])).filterMap innerComponent? = (pieces p).filterMap innerComponent? := by
  rw [pieces_append_slash, List.filterMap_append]
  simp [pieces, innerComponent?]

/-- What is behind a separator counts by its own pieces. -/
theorem components_append_slash (p q : Bytes) :
    components (p ++ slash :: q) =
      components (p ++ [slash]) ++ (pieces q).filterMap innerComponent? := by
  unfold components
  rw [isAbsolute_append_slash, head?_pieces_append_slash, head?_pieces_append_slash,
    filterMap_pieces_concat_slash, pieces_append_slash, List.filterMap_append]
  split
  · rfl
  · split <;> rfl

/-- A separator at the end does not count, except that of the root. -/
theorem components_concat_slash {p : Bytes} (hp : p ≠ []) :
    components (p ++ [slash]) = components p := by
  have ha : isAbsolute (p ++ [slash]) = isAbsolute p := by
    cases p with
    | nil => exact absurd rfl hp
    | cons c rest => rfl
  unfold components
  rw [ha, head?_pieces_append_slash, filterMap_pieces_concat_slash]

theorem isAbsolute_of_isPlain {name : Bytes} (h : IsPlain name) : isAbsolute name = false := by
  cases name with
  | nil => rfl
  | cons c rest =>
    have hc : c ≠ slash := fun he => h.slash_not_mem (he ▸ List.mem_cons_self)
    simp [isAbsolute, hc]

theorem components_of_isPlain {name : Bytes} (h : IsPlain name) :
    components name = [.name name] := by
  simp [components, isAbsolute_of_isPlain h, pieces_of_not_mem h.slash_not_mem, h.ne_dot,
    innerComponent?_of_isPlain h]

/-! ## Joining -/

/-- A plain name stands alone below the empty path, and behind one separator below any other. -/
theorem join_cases (dir : Bytes) {name : Bytes} (h : IsPlain name) :
    dir = [] ∧ join dir name = name ∨
      ∃ front, join dir name = front ++ slash :: name ∧
        (dir = front ++ [slash] ∨ dir = front ∧ front ≠ []) := by
  have ha := isAbsolute_of_isPlain h
  by_cases hd : dir = []
  · left
    exact ⟨hd, by simp [join, ha, hd]⟩
  · right
    cases he : endsInSlash dir with
    | true =>
      obtain ⟨front, hf⟩ := List.getLast?_eq_some_iff.1 (of_decide_eq_true he)
      subst hf
      exact ⟨front, by simp [join, ha, he], Or.inl rfl⟩
    | false => exact ⟨dir, by simp [join, ha, he, hd], Or.inr ⟨rfl, hd⟩⟩

/-- A plain name below a path is one more component. -/
theorem components_join (dir : Bytes) {name : Bytes} (h : IsPlain name) :
    components (join dir name) = components dir ++ [.name name] := by
  rcases join_cases dir h with ⟨rfl, hj⟩ | ⟨front, hj, hd⟩
  · rw [hj, components_of_isPlain h]
    rfl
  · have hc : components (front ++ [slash]) = components dir := by
      rcases hd with rfl | ⟨rfl, hne⟩
      · rfl
      · exact components_concat_slash hne
    rw [hj, components_append_slash, hc, pieces_of_not_mem h.slash_not_mem]
    simp [innerComponent?_of_isPlain h]

theorem fileName?_join (dir : Bytes) {name : Bytes} (h : IsPlain name) :
    fileName? (join dir name) = some name := by
  rw [fileName?, components_join dir h, List.getLast?_concat]

/-! ## The path above -/

/-- What is trimmed does not count. -/
theorem components_trim (p : Bytes) : components (trim p) = components p := by
  have h : ∀ back : List UInt8, components (trimBack back).reverse = components back.reverse := by
    intro back
    induction back using trimBack.induct with
    | case1 => rfl
    | case2 c => rfl
    | case3 c d rest hc ih =>
      rw [trimBack, if_pos hc, ih, List.reverse_cons (a := c)]
      simp only [Bool.or_eq_true, Bool.and_eq_true, decide_eq_true_eq] at hc
      rcases hc with rfl | ⟨rfl, rfl⟩
      · exact (components_concat_slash (by simp)).symm
      · rw [List.reverse_cons, List.append_assoc, List.singleton_append,
          components_append_slash rest.reverse [dot]]
        simp [pieces, innerComponent?, slash, dot]
    | case4 c d rest hc => rw [trimBack, if_neg hc]
  rw [trim, h, List.reverse_reverse]

theorem trim_concat_slash {p : Bytes} (hp : p ≠ []) : trim (p ++ [slash]) = trim p := by
  unfold trim
  rw [List.reverse_concat]
  cases hr : p.reverse with
  | nil => exact absurd (List.reverse_eq_nil_iff.1 hr) hp
  | cons d rest => rw [trimBack, if_pos (by simp)]

/-- Nothing is trimmed from a plain name, whatever stands in front of it. -/
theorem trimBack_reverse_append {name : Bytes} (h : IsPlain name) (back : List UInt8) :
    trimBack (name.reverse ++ back) = name.reverse ++ back := by
  have hs : slash ∉ name.reverse := by simpa using h.slash_not_mem
  match hr : name.reverse with
  | [] => exact absurd (List.reverse_eq_nil_iff.1 hr) h.ne_nil
  | [c] =>
    have hn : name = [c] := by rw [← name.reverse_reverse, hr, List.reverse_singleton]
    have hdot : c ≠ dot := fun he => h.ne_dot (he ▸ hn)
    have hslash : c ≠ slash := fun he => hs (by simp [hr, he])
    cases back with
    | nil => rfl
    | cons d rest => simp [trimBack, hdot, hslash]
  | c :: d :: rest =>
    rw [hr, List.mem_cons, List.mem_cons, not_or, not_or] at hs
    simp [trimBack, Ne.symm hs.1, Ne.symm hs.2.1]

theorem trim_join (dir : Bytes) {name : Bytes} (h : IsPlain name) :
    trim (join dir name) = join dir name := by
  have hfront : ∃ front, join dir name = front ++ name := by
    rcases join_cases dir h with ⟨-, hj⟩ | ⟨front, hj, -⟩
    · exact ⟨[], hj⟩
    · exact ⟨front ++ [slash], by rw [hj, List.append_cons]⟩
  obtain ⟨front, hj⟩ := hfront
  rw [trim, hj, List.reverse_append, trimBack_reverse_append h, List.reverse_append,
    List.reverse_reverse, List.reverse_reverse]

/-- The path above a plain name: what stands in front of the last separator, trimmed. -/
theorem parent?_of_reverse {p name back : Bytes} (h : IsPlain name)
    (hp : p.reverse = name.reverse ++ back) :
    parent? p = some (trimBack (back.dropWhile (· ≠ slash))).reverse := by
  have hpast : (name.reverse ++ back).dropWhile (· ≠ slash) = back.dropWhile (· ≠ slash) := by
    refine List.dropWhile_append_of_pos fun c hc => ?_
    rw [decide_eq_true_eq]
    rintro rfl
    exact h.slash_not_mem (List.mem_reverse.1 hc)
  have hne : name.reverse ++ back ≠ [] := by simp [h.ne_nil]
  have hroot : name.reverse ++ back ≠ [slash] := by
    intro he
    rcases List.append_eq_singleton_iff.1 he with ⟨hn, -⟩ | ⟨hn, -⟩
    · exact h.ne_nil (List.reverse_eq_nil_iff.1 hn)
    · exact h.slash_not_mem (List.mem_reverse.1 (hn ▸ List.mem_singleton_self slash))
  unfold parent?
  dsimp only
  rw [hp, trimBack_reverse_append h, hpast, if_neg (by simp only [hne, hroot, decide_false]; decide)]

/-- The path above a name that was joined to `dir` is `dir`, trimmed. -/
theorem parent?_join (dir : Bytes) {name : Bytes} (h : IsPlain name) :
    parent? (join dir name) = some (trim dir) := by
  rcases join_cases dir h with ⟨rfl, hj⟩ | ⟨front, hj, hd⟩
  · rw [hj, parent?_of_reverse h (List.append_nil _).symm]
    rfl
  · have hr : (front ++ slash :: name).reverse = name.reverse ++ (front ++ [slash]).reverse := by
      simp
    have ht : trim (front ++ [slash]) = trim dir := by
      rcases hd with rfl | ⟨rfl, hne⟩
      · rfl
      · exact trim_concat_slash hne
    rw [hj, parent?_of_reverse h hr, ← ht, trim, List.reverse_concat,
      List.dropWhile_cons_of_neg (by simp)]

/-! ## File names -/

theorem isPlain_of_fileName? {p name : Bytes} (h : fileName? p = some name) : IsPlain name := by
  have hm : Component.name name ∈ components p := by
    unfold fileName? at h
    split at h
    · rename_i bytes hl
      cases h
      exact List.mem_of_getLast? hl
    · cases h
  have hi : Component.name name ∈ (pieces p).filterMap innerComponent? := by
    unfold components at hm
    split at hm
    · simpa using hm
    · split at hm
      · simpa using hm
      · exact hm
  obtain ⟨piece, hp, he⟩ := List.mem_filterMap.1 hi
  unfold innerComponent? at he
  split at he
  · cases he
  · split at he
    · cases he
    · rename_i hn hd
      cases he
      simp only [Bool.or_eq_true, decide_eq_true_eq, not_or] at hn
      exact ⟨hn.1, hn.2, hd, slash_not_mem_of_mem_pieces hp⟩

/-- A stem is a start of the name, and never empty. -/
theorem stemOf_spec {name : Bytes} (h : name ≠ []) : stemOf name <+: name ∧ stemOf name ≠ [] := by
  unfold stemOf
  split
  · exact ⟨List.prefix_rfl, h⟩
  · exact ⟨List.prefix_rfl, h⟩
  · rename_i c front hne hd
    have hs : c :: front <:+ name.reverse := hd ▸ List.dropWhile_suffix _
    have hp : front.reverse <+: name := by
      rw [← List.reverse_suffix, List.reverse_reverse]
      exact (List.suffix_cons c front).trans hs
    refine ⟨hp, ?_⟩
    simpa using hne

end ScriptHost.Path
