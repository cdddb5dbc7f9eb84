import Mathlib.Order.CompletePartialOrder
import Mathlib.Order.Interval.Set.Disjoint
import ScriptHost.Proofs.HostMemory
import ScriptHost.Proofs.TextBytes

/-!
# The handles of an arena

A handle is an address, so it is of use only while the bytes stay where they are, and it must not
be the address of another string.

**Uses (`Use`).** What an arena is asked for, in any order. Some texts are refused; `handed` lists
those that were not, with the handles given for them, in order.

**The invariant (`Laid`).** Every handle holds its text, the memory reaches as far as the ends of
all buffers, and each buffer ends before the next begins. A new buffer begins where the memory
ends, so it lies behind all others, and the memory only grows.

**Results.**
* `Laid.intern`, `laid_useAll`: an intern, and every run without a release, keeps the handles laid.
* `handles_stand`: until the release every handle reads its text and a zero byte, and no two
  buffers share an address.
-/
namespace ScriptHost

namespace StringHandle

/-- The first address behind the buffer, its zero byte included. -/
def stop (s : StringHandle) : Nat :=
  s.address + s.length + 1

/-- The addresses of the buffer. -/
def span (s : StringHandle) : Set Nat :=
  Set.Ico s.address s.stop

theorem disjoint_span {s t : StringHandle} (h : s.stop ≤ t.address) : Disjoint s.span t.span := by
  rw [span, span, Set.Ico_disjoint_Ico]
  omega

end StringHandle

namespace Arena

inductive Use where
  | intern (text : String)
  | release

def Use.text? : Use → Option String
  | .intern text => some text
  | .release => none

/-- A text that was interned, and its handle. -/
structure Handed where
  text : String
  handle : StringHandle

def use (a : Arena) : Use → Arena
  | .intern text => (a.intern text).2
  | .release => a.release.2

/-- The arena after some uses. -/
def useAll (a : Arena) (uses : List Use) : Arena :=
  uses.foldl use a

/-- The handle that a use gives, if any. -/
def given (a : Arena) : Use → List Handed
  | .intern text =>
    match (a.intern text).1 with
    | .ok handle => [⟨text, handle⟩]
    | .error _ => []
  | .release => []

/-- The handles that some uses give, in order. -/
def handed (a : Arena) : List Use → List Handed
  | [] => []
  | u :: rest => a.given u ++ handed (a.use u) rest

/-! ## One use -/

section
variable {a : Arena} {text : String}

theorem buffer_of_holds {s : StringHandle} (h : a.Holds s text)
    (hl : s.length = (Utf8.encode text).length) : a.buffer s = Utf8.encode text ++ [0] := by
  obtain ⟨-, rest, hd⟩ := h
  have ht : s.length + 1 = (Utf8.encode text ++ [0]).length := by simp [hl]
  rw [buffer, hd, List.append_cons, ht, List.take_left]

/-- A text with a NUL is refused for the first one. -/
theorem intern_of_first_nul (hr : a.isReleased = false) {front back : Bytes}
    (he : Utf8.encode text = front ++ 0 :: back) (hf : 0 ∉ front) :
    a.intern text = (.error (.interiorNul front.length), a) := by
  simp [intern, hr, he, findIdx?_zero_append hf]

theorem intern_of_nul (hr : a.isReleased = false) (h0 : 0 ∈ Utf8.encode text) :
    ∃ position, a.intern text = (.error (.interiorNul position), a) := by
  obtain ⟨front, back, he, hf⟩ := List.eq_append_cons_of_mem h0
  exact ⟨_, intern_of_first_nul hr he hf⟩

/-- A live arena refuses a text for its first NUL, and for nothing else. -/
theorem intern_eq_error_iff (hr : a.isReleased = false) (cause : Error) :
    (a.intern text).1 = .error cause ↔
      ∃ front back, Utf8.encode text = front ++ 0 :: back ∧ 0 ∉ front ∧
        cause = .interiorNul front.length := by
  constructor
  · intro h
    have h0 := (intern_of_error (Prod.ext h rfl)).2.resolve_left (by simp [hr])
    obtain ⟨front, back, he, hf⟩ := List.eq_append_cons_of_mem h0
    rw [intern_of_first_nul hr he hf, Except.error.injEq] at h
    exact ⟨front, back, he, hf, h.symm⟩
  · rintro ⟨front, back, he, hf, rfl⟩
    rw [intern_of_first_nul hr he hf]

/-- Any other text goes behind what is there. -/
theorem intern_of_no_nul (hr : a.isReleased = false) (h0 : 0 ∉ Utf8.encode text) :
    ∃ b, a.intern text = (.ok ⟨a.memory.length, (Utf8.encode text).length⟩, b) ∧
      b.memory = a.memory ++ (Utf8.encode text ++ [0]) :=
  ⟨_, by simp only [intern, hr, findIdx?_zero_of_no_nul h0]; rfl, rfl⟩

/-- A released arena hands out nothing. -/
theorem handed_of_released (hr : a.isReleased = true) (uses : List Use) : a.handed uses = [] := by
  induction uses generalizing a with
  | nil => rfl
  | cons u rest ih =>
    cases u with
    | intern text => simp [handed, given, use, intern, hr, ih hr]
    | release => simpa [handed, given, use] using ih rfl

end

/-! ## The handles stay laid -/

/-- The handles hold their texts, and their buffers follow each other in the memory. -/
structure Laid (xs : List Handed) (a : Arena) : Prop where
  isReleased : a.isReleased = false
  holds : ∀ x ∈ xs, a.Holds x.handle x.text
  length : ∀ x ∈ xs, x.handle.length = (Utf8.encode x.text).length
  fits : ∀ x ∈ xs, x.handle.stop ≤ a.memory.length
  apart : xs.Pairwise fun x y => x.handle.stop ≤ y.handle.address

theorem laid_empty : Laid [] {} :=
  ⟨rfl, by simp, by simp, by simp, .nil⟩

/-- A refused text changes nothing, and any other one is laid behind all others. -/
theorem Laid.intern {xs : List Handed} {a : Arena} (h : Laid xs a) (text : String) :
    Laid (xs ++ a.given (.intern text)) (a.use (.intern text)) := by
  by_cases h0 : 0 ∈ Utf8.encode text
  · obtain ⟨position, hi⟩ := intern_of_nul h.isReleased h0
    simpa [given, use, hi] using h
  · obtain ⟨b, hi, hm⟩ := intern_of_no_nul h.isReleased h0
    obtain ⟨-, hr, hh, hp⟩ := intern_of_ok hi
    have hlen : b.memory.length = a.memory.length + (Utf8.encode text).length + 1 := by
      simp [hm, Nat.add_assoc]
    simp only [given, use, hi]
    refine ⟨hr, ?_, ?_, ?_, ?_⟩
    · rw [List.forall_mem_append]
      exact ⟨fun x hx => (h.holds x hx).extend hp, by simpa using hh⟩
    · rw [List.forall_mem_append]
      exact ⟨h.length, by simp⟩
    · rw [List.forall_mem_append]
      exact ⟨fun x hx => (h.fits x hx).trans hp.length_le, by simp [StringHandle.stop, hlen]⟩
    · rw [List.pairwise_append]
      exact ⟨h.apart, List.pairwise_singleton _ _, by simpa using h.fits⟩

/-- A run without a release keeps what is laid, and lays what it hands out behind it. -/
theorem laid_useAll {xs : List Handed} {a : Arena} (h : Laid xs a) {uses : List Use}
    (hn : .release ∉ uses) : Laid (xs ++ a.handed uses) (a.useAll uses) := by
  induction uses generalizing xs a with
  | nil => simpa [handed, useAll] using h
  | cons u rest ih =>
    simp only [List.mem_cons, not_or] at hn
    cases u with
    | intern text =>
      rw [handed, ← List.append_assoc]
      exact ih (h.intern text) hn.2
    | release => exact absurd rfl hn.1

theorem text_handed {a : Arena} (hr : a.isReleased = false) {uses : List Use}
    (hn : .release ∉ uses) :
    (a.handed uses).map (·.text) =
      (uses.filterMap Use.text?).filter (0 ∉ Utf8.encode ·) := by
  induction uses generalizing a with
  | nil => rfl
  | cons u rest ih =>
    simp only [List.mem_cons, not_or] at hn
    cases u with
    | release => exact absurd rfl hn.1
    | intern text =>
      by_cases h0 : 0 ∈ Utf8.encode text
      · obtain ⟨position, hi⟩ := intern_of_nul hr h0
        simpa [handed, given, use, hi, Use.text?, h0] using ih hr hn.2
      · obtain ⟨b, hi, -⟩ := intern_of_no_nul hr h0
        have hb := (intern_of_ok hi).2.1
        simpa [handed, given, use, hi, Use.text?, h0] using ih hb hn.2

/-- What is handed out before a release, and nothing behind it. -/
theorem handed_release (a : Arena) (uses more : List Use) :
    a.handed (uses ++ .release :: more) = a.handed uses := by
  induction uses generalizing a with
  | nil => simpa [handed, given, use] using handed_of_released (a := a.release.2) rfl more
  | cons u rest ih => rw [List.cons_append, handed, handed, ih]

/-- **Handles.** As long as an arena is not released, it hands out a handle for every text without
a NUL. Whatever is interned later, each handle has the length of its text, its buffer is the text
and a zero byte, and a reader of NUL-terminated strings gets the text. The buffers of any two
handles are disjoint, equal and empty texts included, so no address is handed out twice. Behind a
release nothing is handed out. -/
theorem handles_stand (uses : List Use) (hn : .release ∉ uses) :
    (handed {} uses).map (·.text) = (uses.filterMap Use.text?).filter (0 ∉ Utf8.encode ·) ∧
      (∀ x ∈ handed {} uses,
        x.handle.length = (Utf8.encode x.text).length ∧
          (useAll {} uses).buffer x.handle = Utf8.encode x.text ++ [0] ∧
          (useAll {} uses).read x.handle = Utf8.encode x.text) ∧
      (handed {} uses).Pairwise (fun x y => Disjoint x.handle.span y.handle.span) ∧
      ((handed {} uses).map (·.handle.address)).Nodup ∧
      ∀ more, handed {} (uses ++ .release :: more) = handed {} uses := by
  have h : Laid (handed {} uses) (useAll {} uses) := laid_useAll laid_empty hn
  refine ⟨text_handed rfl hn, fun x hx => ?_, ?_, ?_, handed_release {} uses⟩
  · have hl := h.length x hx
    exact ⟨hl, buffer_of_holds (h.holds x hx) hl, read_of_holds (h.holds x hx)⟩
  · exact h.apart.imp StringHandle.disjoint_span
  · rw [List.Nodup, List.pairwise_map]
    refine h.apart.imp fun {x y} hxy he => ?_
    simp only [StringHandle.stop] at hxy
    omega

theorem handles_stand_twice :
    let uses : List Use := [.intern "a", .intern "\x00", .intern "", .intern "a", .intern ""]
    .release ∉ uses ∧ (handed {} uses).map (·.text) = ["a", "", "a", ""] ∧
      ((handed {} uses).map (·.handle.address)).Nodup := by
  intro uses
  have hn : .release ∉ uses := by simp [uses]
  obtain ⟨ht, -, -, ha, -⟩ := handles_stand uses hn
  exact ⟨hn, ht.trans (by decide), ha⟩

end Arena

end ScriptHost
