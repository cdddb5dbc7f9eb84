import ScriptHost.Engine.Basic

/-!
# What the runtime finds in the host's memory

Between the creation of a host and the release of its arena, hooks only add to the memory: a
string that was interned keeps its bytes, and what the host was configured with stays.

**The view.** `Arena.Holds a s text`: the bytes of `text` and a zero byte stand at the address of
`s`. `Host.Extends h h'`: the memory of `h'` starts with that of `h`, and the configured values
are the same. `Host.Serves h config`: `h` is alive and serves the values of `config`.

**Results.**
* `Arena.read_of_holds`: a reader of NUL-terminated strings gets exactly the text.
* `extends_answer`, `extends_run`: a hook, and so whatever a runtime does during one call, only
  extends the host.
* `Serves.extend`: an extended host serves the same values.
* `serves_create`, `create_refused`: a host that was created serves its configuration, and it is
  only refused for a NUL in the name of inline code.
-/
namespace ScriptHost

theorem untilNul_append_zero (text rest : Bytes) (h : 0 ∉ text) :
    untilNul (text ++ 0 :: rest) = text := by
  induction text with
  | nil => rfl
  | cons b text ih =>
    simp only [List.mem_cons, not_or] at h
    have hb : b ≠ 0 := fun e => h.1 e.symm
    have := ih h.2
    simp only [untilNul, ne_eq, decide_not, List.cons_append] at this ⊢
    rw [List.takeWhile_cons_of_pos (by simpa using hb), this]

namespace Arena

/-- The bytes of `text` and a zero byte stand at the address of `s`. -/
def Holds (a : Arena) (s : StringHandle) (text : String) : Prop :=
  0 ∉ Utf8.encode text ∧ ∃ rest, a.memory.drop s.address = Utf8.encode text ++ 0 :: rest

theorem read_of_holds {a : Arena} {s : StringHandle} {text : String} (h : a.Holds s text) :
    a.read s = Utf8.encode text := by
  obtain ⟨h0, rest, hd⟩ := h
  unfold read
  rw [hd, untilNul_append_zero _ _ h0]

theorem Holds.extend {a b : Arena} {s : StringHandle} {text : String} (h : a.Holds s text)
    (hm : a.memory <+: b.memory) : b.Holds s text := by
  obtain ⟨h0, rest, hd⟩ := h
  obtain ⟨more, hm⟩ := hm
  have hlt : s.address ≤ a.memory.length := by
    have := congrArg List.length hd
    simp at this; omega
  refine ⟨h0, rest ++ more, ?_⟩
  rw [← hm, List.drop_append_of_le_length hlt, hd]
  simp

theorem zero_mem_of_findIdx? {b : Bytes} {position : Nat}
    (h : b.findIdx? (· = 0) = some position) : 0 ∈ b := by
  obtain ⟨hlt, h0, -⟩ := List.findIdx?_eq_some_iff_getElem.1 h
  rw [← of_decide_eq_true h0]
  exact List.getElem_mem hlt

theorem zero_not_mem_of_findIdx? {b : Bytes} (h : b.findIdx? (· = 0) = none) : 0 ∉ b := by
  intro h0
  have := List.findIdx?_eq_none_iff.1 h 0 h0
  simp at this

/-- An interned text has no NUL; the handle holds it, and nothing moved. -/
theorem intern_of_ok {a b : Arena} {text : String} {s : StringHandle}
    (h : a.intern text = (.ok s, b)) :
    a.isReleased = false ∧ b.isReleased = false ∧ b.Holds s text ∧ a.memory <+: b.memory := by
  simp only [intern] at h
  split at h
  · cases h
  · rename_i hr
    split at h
    · cases h
    · rename_i hf
      cases h
      simp only [Bool.not_eq_true] at hr
      exact ⟨hr, hr, ⟨zero_not_mem_of_findIdx? hf, [], by simp⟩, ⟨_, rfl⟩⟩

/-- A text is refused by a released arena or for a NUL, and the arena stays as it was. -/
theorem intern_of_error {a b : Arena} {text : String} {cause : Error}
    (h : a.intern text = (.error cause, b)) :
    b = a ∧ (a.isReleased = true ∨ 0 ∈ Utf8.encode text) := by
  simp only [intern] at h
  split at h
  · rename_i hr
    cases h
    exact ⟨rfl, Or.inl hr⟩
  · split at h
    · rename_i hf
      cases h
      exact ⟨rfl, Or.inr (zero_mem_of_findIdx? hf)⟩
    · cases h

end Arena

namespace Host

/-! ## Hooks only extend the host -/

/-- The memory of `h'` starts with that of `h`, and the configured values are the same. -/
structure Extends (h h' : Host) : Prop where
  iniText : h'.iniText = h.iniText
  evalName : h'.evalName = h.evalName
  isReleased : h'.arena.isReleased = h.arena.isReleased
  memory : h.arena.memory <+: h'.arena.memory

theorem Extends.refl (h : Host) : h.Extends h :=
  ⟨rfl, rfl, rfl, List.prefix_rfl⟩

theorem Extends.trans {h h' h'' : Host} (a : h.Extends h') (b : h'.Extends h'') : h.Extends h'' :=
  ⟨b.iniText.trans a.iniText, b.evalName.trans a.evalName, b.isReleased.trans a.isReleased,
    a.memory.trans b.memory⟩

/-- Writing to the console touches nothing that the runtime reads. -/
theorem extends_console (h : Host) (console : Console) : h.Extends { h with console } :=
  ⟨rfl, rfl, rfl, List.prefix_rfl⟩

theorem extends_printError (h : Host) (kind : Int) (message : Bytes) :
    h.Extends (h.printError kind message) := by
  unfold printError
  dsimp only
  split
  · exact (extends_console h _).trans (extends_console _ _)
  · exact extends_console h _

/-- What `exposeIni` can do: intern the ini entries, or refuse them. -/
theorem exposeIni_cases (h : Host) :
    h.Extends h.exposeIni.2 ∧
      ((∃ ini, h.exposeIni.1 = some ini) ∧ 0 ∉ Utf8.encode h.iniText ∨
        h.exposeIni.1 = none ∧ (h.arena.isReleased = true ∨ 0 ∈ Utf8.encode h.iniText)) := by
  unfold exposeIni
  cases hi : h.arena.intern h.iniText with
  | mk result b =>
    cases result with
    | ok s =>
      obtain ⟨hr, hb, ⟨h0, -⟩, hm⟩ := Arena.intern_of_ok hi
      exact ⟨⟨rfl, rfl, hb.trans hr.symm, hm⟩, Or.inl ⟨⟨_, rfl⟩, h0⟩⟩
    | error cause =>
      obtain ⟨rfl, hn⟩ := Arena.intern_of_error hi
      exact ⟨⟨rfl, rfl, rfl, List.prefix_rfl⟩, Or.inr ⟨rfl, hn⟩⟩

theorem extends_answer (h : Host) (hook : Hook) : h.Extends (h.answer hook).2 := by
  cases hook with
  | startup => exact (exposeIni_cases h).1
  | write text => exact extends_console h _
  | error kind message => exact extends_printError h kind message
  | logMessage message kind => exact extends_console h _
  | _ => exact Extends.refl h

/-- Whatever a runtime does before it answers, it only extends the host. -/
theorem extends_run {α : Type} (activity : Activity α) (h : Host) :
    h.Extends (activity.run h).2 := by
  induction activity generalizing h with
  | done a => exact Extends.refl h
  | call hook next ih => exact (extends_answer h hook).trans (ih _ _)

/-! ## A host that serves its configuration -/

/-- The arena is alive and the host has the values of `config`. -/
structure Serves (h : Host) (config : Config) : Prop where
  isReleased : h.arena.isReleased = false
  iniText : h.iniText = config.iniEntries
  evalName : h.arena.Holds h.evalName config.evalName

theorem Serves.extend {h h' : Host} {config : Config} (hs : h.Serves config)
    (he : h.Extends h') : h'.Serves config := by
  refine ⟨he.isReleased.trans hs.isReleased, he.iniText.trans hs.iniText, ?_⟩
  rw [he.evalName]
  exact hs.evalName.extend he.memory

theorem serves_create {config : Config} {h : Host} (hc : (create config).1 = .ok h) :
    h.Serves config := by
  unfold create at hc
  split at hc
  · cases hc
  split at hc
  · cases hc
  split at hc
  · cases hc
  rename_i hi
  obtain ⟨-, hr, hh, -⟩ := Arena.intern_of_ok hi
  cases hc
  exact ⟨hr, rfl, hh⟩

/-- A host is only refused for a NUL in the name of inline code. -/
theorem create_refused {config : Config} {cause : Arena.Error}
    (hc : (create config).1 = .error cause) : 0 ∈ Utf8.encode config.evalName := by
  have hm : 0 ∉ Utf8.encode moduleName := by decide
  have hp : 0 ∉ Utf8.encode prettyName := by decide
  unfold create at hc
  split at hc
  · rename_i hi
    exact absurd (Arena.intern_of_error hi).2 (by simp [hm])
  rename_i hi
  obtain ⟨-, hr, -⟩ := Arena.intern_of_ok hi
  split at hc
  · rename_i hi
    exact absurd (Arena.intern_of_error hi).2 (by simp [hr, hp])
  rename_i hi
  obtain ⟨-, hr, -⟩ := Arena.intern_of_ok hi
  split at hc
  · rename_i hi
    exact (Arena.intern_of_error hi).2.resolve_left (by simp [hr])
  · cases hc

end Host

end ScriptHost
