import Mathlib.Algebra.GroupWithZero.Nat
import ScriptHost.Proofs.ArenaHandles
import ScriptHost.Proofs.StringStock

/-!
# The accounts of an arena

What an arena tells about itself: how many strings it holds, how many bytes it ever handed out,
whether it was released, and how many strings each release gave back.

**The invariant (`Balanced`).** Before the first release the arena holds every string that was
interned. From then on it holds none, the first release has told how many they were, and every
later one has told zero. The bytes handed out are never taken back.

**Refusals.** A released arena refuses every text, so that is looked at first. A live one refuses
a text for its first NUL, at the offset in bytes (`Text.FirstNulAt`).

**Results.**
* `Balanced.use`, `balanced_useAll`: every use, and every run of uses, keeps the accounts balanced.
* `intern_eq_interiorNul_iff`: which texts a live arena refuses, and with which offset.
* `accounts_balance`: what an arena tells after any uses, and what it answers to a further text.
-/
namespace ScriptHost

/-! ## The first NUL of a text -/

/-- The first NUL of `text` has `offset` bytes in front of it. -/
def Text.FirstNulAt (text : String) (offset : Nat) : Prop :=
  ∃ front back : String, text = front ++ "\x00" ++ back ∧ '\x00' ∉ front.toList ∧
    front.utf8ByteSize = offset

theorem Utf8.length_encode (s : String) : (encode s).length = s.utf8ByteSize := by
  rw [encode, Array.length_toList, ByteArray.size_data]
  rfl

/-- The first zero byte of an encoding is the first NUL of the text. -/
theorem Utf8.first_zero_iff {text : String} {offset : Nat} :
    (∃ front back, encode text = front ++ 0 :: back ∧ 0 ∉ front ∧ front.length = offset) ↔
      Text.FirstNulAt text offset := by
  have hsplit : ∀ front back : String,
      encode (front ++ "\x00" ++ back) = encode front ++ 0 :: encode back := by
    intro front back
    have hn : encode "\x00" = [0] := rfl
    rw [encode_append, encode_append, hn, List.append_assoc, List.singleton_append]
  constructor
  · rintro ⟨front, back, he, h0, rfl⟩
    have hm : '\x00' ∈ text.toList := by
      rw [← zero_mem_encode_iff, he]
      simp
    obtain ⟨cs, ds, hcs, hc⟩ := List.eq_append_cons_of_mem hm
    have htext : text = String.ofList cs ++ "\x00" ++ String.ofList ds := by
      apply String.toList_injective
      simp [hcs]
    have hcs0 : 0 ∉ encode (String.ofList cs) := by
      rw [zero_mem_encode_iff, String.toList_ofList]
      exact hc
    refine ⟨_, _, htext, by rwa [String.toList_ofList], ?_⟩
    -- Both splits are at the byte where a search for a zero ends.
    have hfirst := findIdx?_zero_append h0 back
    rw [← he, htext, hsplit, findIdx?_zero_append hcs0, Option.some_inj] at hfirst
    rw [← length_encode, hfirst]
  · rintro ⟨front, back, rfl, h0, rfl⟩
    refine ⟨encode front, encode back, hsplit front back, ?_, length_encode front⟩
    rwa [zero_mem_encode_iff]

namespace Arena

deriving instance DecidableEq for Use

/-- What a release tells: how many strings it gave back. -/
def freedBy (a : Arena) : Use → List Nat
  | .intern _ => []
  | .release => [a.release.1]

/-- What the releases among some uses tell, in order. -/
def freed (a : Arena) : List Use → List Nat
  | [] => []
  | u :: rest => a.freedBy u ++ freed (a.use u) rest

theorem length_freed (a : Arena) (uses : List Use) :
    (a.freed uses).length = uses.count .release := by
  induction uses generalizing a with
  | nil => rfl
  | cons u rest ih =>
    cases u with
    | intern text => simp [freed, freedBy, ih]
    | release => simp [freed, freedBy, ih]

/-! ## Refusals -/

section
variable {a : Arena} {text : String}

theorem intern_of_released (hr : a.isReleased = true) (text : String) :
    a.intern text = (.error .released, a) := by
  simp [intern, hr]

theorem intern_eq_interiorNul_iff (hr : a.isReleased = false) (offset : Nat) :
    (a.intern text).1 = .error (.interiorNul offset) ↔ Text.FirstNulAt text offset := by
  rw [intern_eq_error_iff hr, ← Utf8.first_zero_iff]
  simp only [Error.interiorNul.injEq, eq_comm]

theorem intern_ne_released (hr : a.isReleased = false) (text : String) :
    (a.intern text).1 ≠ .error .released := by
  intro h
  obtain ⟨front, back, -, -, he⟩ := (intern_eq_error_iff hr _).1 h
  cases he

/-- A refused text changes nothing. -/
theorem intern_of_refused {cause : Error} (h : (a.intern text).1 = .error cause) :
    (a.intern text).2 = a := by
  exact (intern_of_error (Prod.ext h rfl)).1

end

/-! ## The balance -/

/-- The accounts of an arena that has interned `texts`, and whose releases told `counts`. -/
inductive Balanced (texts : List String) : List Nat → Arena → Prop
  | live {a : Arena} (isReleased : a.isReleased = false) (stocks : a.Stocks texts) :
      Balanced texts [] a
  | released {a : Arena} (later : Nat) (isReleased : a.isReleased = true) (count : a.count = 0)
      (bytesAllocated : a.bytesAllocated = footprint texts) :
      Balanced texts (texts.length :: List.replicate later 0) a

theorem Balanced.use {texts : List String} {counts : List Nat} {a : Arena}
    (h : Balanced texts counts a) (u : Use) :
    Balanced (texts ++ (a.given u).map (·.text)) (counts ++ a.freedBy u) (a.use u) := by
  cases h with
  | live hr hs =>
    cases u with
    | intern text =>
      by_cases h0 : 0 ∈ Utf8.encode text
      · obtain ⟨offset, hi⟩ := intern_of_nul hr h0
        simpa [given, freedBy, Arena.use, hi] using Balanced.live hr hs
      · obtain ⟨b, hi, -⟩ := intern_of_no_nul hr h0
        have hb := (intern_of_ok hi).2.1
        simpa [given, freedBy, Arena.use, hi] using Balanced.live hb (hs.intern hi)
    | release =>
      have hc : a.release.1 = texts.length := hs.count
      have : Balanced texts [texts.length] a.release.2 :=
        .released 0 rfl rfl hs.bytesAllocated
      simpa [given, freedBy, Arena.use, hc] using this
  | released later hr hc hb =>
    cases u with
    | intern text =>
      have hi := intern_of_released hr text
      simpa [given, freedBy, Arena.use, hi] using Balanced.released later hr hc hb
    | release =>
      have h0 : a.release.1 = 0 := hc
      have : Balanced texts (texts.length :: List.replicate (later + 1) 0) a.release.2 :=
        .released (later + 1) rfl rfl hb
      simpa [given, freedBy, Arena.use, h0, List.replicate_succ'] using this

theorem balanced_useAll {texts : List String} {counts : List Nat} {a : Arena}
    (h : Balanced texts counts a) (uses : List Use) :
    Balanced (texts ++ (a.handed uses).map (·.text)) (counts ++ a.freed uses) (a.useAll uses) := by
  induction uses generalizing texts counts a with
  | nil => simpa [handed, freed, useAll] using h
  | cons u rest ih =>
    have := ih (h.use u)
    simpa [handed, freed, useAll, List.append_assoc] using this

section
variable {texts : List String} {counts : List Nat} {a : Arena}

theorem Balanced.isReleased_iff (h : Balanced texts counts a) :
    a.isReleased = true ↔ counts ≠ [] := by
  cases h with
  | live hr hs => simp [hr]
  | released later hr hc hb => simp [hr]

theorem Balanced.bytesAllocated (h : Balanced texts counts a) :
    a.bytesAllocated = footprint texts := by
  cases h with
  | live hr hs => exact hs.bytesAllocated
  | released later hr hc hb => exact hb

theorem Balanced.count (h : Balanced texts counts a) :
    a.count = if a.isReleased then 0 else texts.length := by
  cases h with
  | live hr hs => simp [hr, hs.count]
  | released later hr hc hb => simp [hr, hc]

theorem Balanced.counts_eq (h : Balanced texts counts a) :
    counts = if a.isReleased then texts.length :: List.replicate (counts.length - 1) 0 else [] := by
  cases h with
  | live hr hs => simp [hr]
  | released later hr hc hb => simp [hr]

/-- Every string that was interned is held or was given back, and none twice. -/
theorem Balanced.sum (h : Balanced texts counts a) : counts.sum + a.count = texts.length := by
  cases h with
  | live hr hs => simp [hs.count]
  | released later hr hc hb => simp [hc]

end

theorem isReleased_useAll_iff (uses : List Use) :
    (useAll {} uses).isReleased = true ↔ .release ∈ uses := by
  have hb := balanced_useAll (.live rfl stocks_empty) uses
  have hlen := length_freed {} uses
  rw [hb.isReleased_iff, List.nil_append, ← List.length_pos_iff, hlen, List.count_pos_iff]

/-- **Accounts.** Whatever a fresh arena is asked for, the bytes it tells are those of all texts
that were interned, each with its zero byte, also behind a release. It is released exactly when a
release was asked for. Until then it holds every string, and none from then on: the first release
tells how many they were and every later one zero, so what was given back and what is held are
together what was interned. Behind a release it refuses every text as released. Before one it
refuses exactly the texts with a NUL, and tells the offset of the first in bytes. A refusal leaves
the arena as it was. -/
theorem accounts_balance (uses : List Use) :
    let a := useAll {} uses
    let texts := (handed {} uses).map (·.text)
    a.bytesAllocated = footprint texts ∧
      (a.isReleased = true ↔ .release ∈ uses) ∧
      a.count = (if .release ∈ uses then 0 else texts.length) ∧
      freed {} uses = (if .release ∈ uses then
        texts.length :: List.replicate (uses.count .release - 1) 0 else []) ∧
      (freed {} uses).sum + a.count = texts.length ∧
      ∀ text,
        ((a.intern text).1 = .error .released ↔ .release ∈ uses) ∧
        (∀ offset, (a.intern text).1 = .error (.interiorNul offset) ↔
          .release ∉ uses ∧ Text.FirstNulAt text offset) ∧
        ∀ cause, (a.intern text).1 = .error cause → (a.intern text).2 = a := by
  intro a texts
  have hb : Balanced texts (freed {} uses) a := by
    simpa using balanced_useAll (.live rfl stocks_empty) uses
  have hr : a.isReleased = true ↔ .release ∈ uses := isReleased_useAll_iff uses
  have hc := hb.count
  have hf := hb.counts_eq
  simp only [hr, length_freed] at hc hf
  refine ⟨hb.bytesAllocated, hr, hc, hf, hb.sum, fun text => ?_⟩
  by_cases hm : .release ∈ uses
  · have hi := intern_of_released (hr.2 hm) text
    simp [hi, hm]
  · have hlive : a.isReleased = false := Bool.eq_false_iff.2 fun h => hm (hr.1 h)
    refine ⟨?_, fun offset => ?_, fun cause => intern_of_refused⟩
    · exact iff_of_false (intern_ne_released hlive text) hm
    · rw [intern_eq_interiorNul_iff hlive, and_iff_right hm]

/-- A text with a NUL behind two bytes of one character, asked for before and behind a release. -/
theorem accounts_balance_refused :
    let uses : List Use := [.intern "é", .intern "", .intern "é\x00b"]
    let more : List Use := [.release, .intern "é\x00b", .release]
    (useAll {} uses).intern "é\x00b" = (.error (.interiorNul 2), useAll {} uses) ∧
      (useAll {} (uses ++ more)).intern "é\x00b" = (.error .released, useAll {} (uses ++ more)) ∧
      freed {} (uses ++ more) = [2, 0] ∧ (useAll {} (uses ++ more)).bytesAllocated = 4 := by
  intro uses more
  obtain ⟨-, -, -, -, -, hlive⟩ := accounts_balance uses
  obtain ⟨hbytes, -, -, hfreed, -, hdone⟩ := accounts_balance (uses ++ more)
  have hnul : ((useAll {} uses).intern "é\x00b").1 = .error (.interiorNul 2) :=
    ((hlive _).2.1 2).2 ⟨by decide, "é", "b", by decide, by decide, by decide⟩
  have hreleased : ((useAll {} (uses ++ more)).intern "é\x00b").1 = .error .released :=
    (hdone _).1.2 (by decide)
  exact ⟨Prod.ext hnul ((hlive _).2.2 _ hnul), Prod.ext hreleased ((hdone _).2.2 _ hreleased),
    hfreed.trans (by decide), hbytes.trans (by decide)⟩

end Arena

end ScriptHost
