import Mathlib.Algebra.GroupWithZero.Nat
import Mathlib.Data.List.TakeDrop
import ScriptHost.Host.Output

/-!
# What a writer is offered

`writeAll` on a writer that answers as it likes for a while, and then takes all it is offered.

**Calls (`Forwarded`).** Each call of the writer is an offer with its answer. There is one rule for
each way that a call can go on: the same offer again after an interruption, an end when nothing
is taken, and the rest of the bytes when some are. `forwarded_writeAll` ties the rules to the
loop, so that what holds of all calls is shown by induction on the rules.

**Results.**
* `Forwarded.taken_eq`, `Forwarded.offered`: what is taken is the start of the bytes, and every
  offer is what is left of them.
* `Forwarded.short_iff`: bytes are left over only by a writer that took nothing or failed.
* `writeAll_forwards`: all of it, for the loop.
-/
namespace ScriptHost

/-! ## Answers -/

/-- What the writer takes of an offer. -/
def WriteAnswer.accepted (offer : Bytes) : WriteAnswer → Bytes
  | .takes n => offer.take n
  | .interrupted | .failed => []

/-- The writer takes nothing, and not because it was interrupted. -/
def WriteAnswer.Ends : WriteAnswer → Prop
  | .takes n => n = 0
  | .interrupted => False
  | .failed => True

/-- A call of a writer: what it is offered and what it answers. -/
abbrev WriterCall := Bytes × WriteAnswer

/-- What is taken in the calls, one after the other. -/
def acceptedIn (calls : List WriterCall) : Bytes :=
  calls.flatMap fun c => c.2.accepted c.1

/-! ## Calls -/

/-- `Forwarded bytes calls taken`: the calls by which `bytes` are forwarded, and what is taken of
them. -/
inductive Forwarded : Bytes → List WriterCall → Bytes → Prop
  | done : Forwarded [] [] []
  | again {bytes taken : Bytes} {calls : List WriterCall} :
      bytes ≠ [] → Forwarded bytes calls taken →
      Forwarded bytes ((bytes, .interrupted) :: calls) taken
  | ended {bytes : Bytes} {answer : WriteAnswer} :
      bytes ≠ [] → answer.Ends → Forwarded bytes [(bytes, answer)] []
  | part {bytes taken : Bytes} {calls : List WriterCall} {n : Nat} :
      bytes ≠ [] → 0 < n → Forwarded (bytes.drop n) calls taken →
      Forwarded bytes ((bytes, .takes n) :: calls) (bytes.take n ++ taken)

/-- The loop forwards the bytes, to a writer whose last answer is for any number of them. -/
theorem forwarded_writeAll (answers : List WriteAnswer) {bytes : Bytes} {all : Nat}
    (h : bytes.length ≤ all) :
    Forwarded bytes ((writeAll answers bytes).offers.zip (answers ++ [.takes all]))
      (writeAll answers bytes).taken := by
  fun_induction writeAll answers bytes with
  | case1 answers => exact .done
  | case2 bytes hb =>
    have hall : 0 < all := Nat.lt_of_lt_of_le (List.length_pos_iff.2 hb) h
    have hd : bytes.drop all = [] := List.drop_of_length_le h
    have hp := @Forwarded.part bytes [] [] all hb hall (by rw [hd]; exact .done)
    rwa [List.append_nil, List.take_of_length_le h] at hp
  | case3 bytes hb more w ih => exact .again hb (ih h)
  | case4 bytes hb more => exact .ended hb trivial
  | case5 bytes hb more => exact .ended hb rfl
  | case6 bytes hb n more w ih =>
    have hrest : (bytes.drop (n + 1)).length ≤ all := by
      rw [List.length_drop]
      omega
    exact .part hb (Nat.succ_pos n) (ih hrest)

/-- A writer is called at most once more than it has answers. -/
theorem length_offers_le (answers : List WriteAnswer) (bytes : Bytes) :
    (writeAll answers bytes).offers.length ≤ answers.length + 1 := by
  fun_induction writeAll answers bytes with
  | case3 | case6 => simpa
  | _ => simp

theorem drop_length_take (n : Nat) (bytes : Bytes) :
    bytes.drop (bytes.take n).length = bytes.drop n := by
  rcases Nat.le_total n bytes.length with h | h
  · rw [List.length_take_of_le h]
  · rw [List.take_of_length_le h, List.drop_length, List.drop_of_length_le h]

namespace Forwarded

variable {bytes taken : Bytes} {calls : List WriterCall}

theorem taken_eq (h : Forwarded bytes calls taken) : taken = acceptedIn calls := by
  induction h with
  | done => rfl
  | again _ _ ih => exact ih
  | @ended bytes answer _ he =>
    cases answer with
    | takes n => cases he; simp [acceptedIn, WriteAnswer.accepted]
    | interrupted | failed => rfl
  | part _ _ _ ih => rw [ih]; rfl

theorem taken_prefix (h : Forwarded bytes calls taken) : taken <+: bytes := by
  induction h with
  | done => exact List.prefix_rfl
  | again _ _ ih => exact ih
  | ended _ _ => exact List.nil_prefix
  | @part bytes taken calls n _ _ _ ih =>
    have := (List.prefix_append_right_inj (bytes.take n)).2 ih
    rwa [List.take_append_drop] at this

theorem calls_eq_nil_iff (h : Forwarded bytes calls taken) : calls = [] ↔ bytes = [] := by
  cases h <;> simp [*]

/-- A call offers all the bytes. Another one follows unless the writer ended it or took them all,
and goes on with what is left. -/
theorem head_call {offer : Bytes} {answer : WriteAnswer} {back : List WriterCall}
    (h : Forwarded bytes ((offer, answer) :: back) taken) :
    offer = bytes ∧ offer ≠ [] ∧ (back = [] ↔ answer.Ends ∨ answer.accepted offer = offer) ∧
      (back ≠ [] → ∃ rest,
        Forwarded (bytes.drop (answer.accepted offer).length) back rest) := by
  cases h with
  | again hb hr =>
    refine ⟨rfl, hb, ?_, fun _ => ⟨_, hr⟩⟩
    simp [hr.calls_eq_nil_iff, WriteAnswer.Ends, WriteAnswer.accepted, hb, hb.symm]
  | ended hb he => exact ⟨rfl, hb, by simp [he], nofun⟩
  | @part _ taken _ n hb hn hr =>
    refine ⟨rfl, hb, ?_, fun _ => ⟨taken, ?_⟩⟩
    · have hne : ¬ (WriteAnswer.takes n).Ends := Nat.pos_iff_ne_zero.1 hn
      simp [hr.calls_eq_nil_iff, hne, WriteAnswer.accepted, List.take_eq_self_iff]
    · rwa [WriteAnswer.accepted, drop_length_take]

/-- Every offer is all that has not been taken yet, and another call follows it unless the writer
ended it or took all of it. -/
theorem offered (h : Forwarded bytes calls taken) {front back : List WriterCall} {offer : Bytes}
    {answer : WriteAnswer} (hc : calls = front ++ (offer, answer) :: back) :
    offer = bytes.drop (acceptedIn front).length ∧ offer ≠ [] ∧
      (back = [] ↔ answer.Ends ∨ answer.accepted offer = offer) := by
  subst hc
  induction front generalizing bytes taken with
  | nil =>
    obtain ⟨ho, hne, hb, -⟩ := h.head_call
    exact ⟨ho, hne, hb⟩
  | cons c front ih =>
    obtain ⟨rfl, -, -, hr⟩ := h.head_call
    obtain ⟨rest, hr⟩ := hr (by simp)
    have ho := ih hr
    rw [List.drop_drop] at ho
    rwa [acceptedIn, List.flatMap_cons, List.length_append]

/-- Bytes are left over exactly when the writer took nothing without being interrupted. -/
theorem short_iff (h : Forwarded bytes calls taken) :
    taken.length < bytes.length ↔ ∃ c ∈ calls, c.2.Ends := by
  induction h with
  | done => simp
  | again _ _ ih => simpa [WriteAnswer.Ends] using ih
  | ended hb he => simpa [he] using List.length_pos_iff.2 hb
  | @part bytes taken calls n _ hn hr ih =>
    have hlen := congrArg List.length (List.take_append_drop n bytes)
    simp only [List.length_append] at hlen
    have hne : ¬ (WriteAnswer.takes n).Ends := Nat.pos_iff_ne_zero.1 hn
    simp only [List.length_append, List.mem_cons, exists_eq_or_imp, hne, false_or, ← ih]
    omega

end Forwarded

/-- **A prefix is forwarded.** Against a writer that gives these answers and then takes all it is
offered, the loop ends: each of its calls has an answer here. The bytes that are taken are the
first `count`, and `count` is the sum of what the calls report. There is a call unless there is
nothing to write; each offers all that has not been taken yet; and the next one follows unless
that was taken entirely, or nothing of it without an interruption. Bytes are left over exactly
when such an answer was met. -/
theorem writeAll_forwards (answers : List WriteAnswer) (bytes : Bytes) :
    let w := writeAll answers bytes
    let calls : List WriterCall := w.offers.zip (answers ++ [.takes bytes.length])
    calls.map (·.1) = w.offers ∧
      w.taken = acceptedIn calls ∧ w.taken = bytes.take w.count ∧
      w.count = (calls.map fun c => (c.2.accepted c.1).length).sum ∧
      (calls = [] ↔ bytes = []) ∧
      (∀ front offer answer back, calls = front ++ (offer, answer) :: back →
        offer = bytes.drop (acceptedIn front).length ∧ offer ≠ [] ∧
          (back = [] ↔ answer.Ends ∨ answer.accepted offer = offer)) ∧
      (w.count < bytes.length ↔ ∃ c ∈ calls, c.2.Ends) := by
  intro w calls
  have hf : Forwarded bytes calls w.taken := forwarded_writeAll answers (Nat.le_refl _)
  have hall : w.offers.length ≤ (answers ++ [WriteAnswer.takes bytes.length]).length := by
    simpa using length_offers_le answers bytes
  have hsum : (acceptedIn calls).length = (calls.map fun c => (c.2.accepted c.1).length).sum :=
    List.length_flatMap
  refine ⟨List.map_fst_zip hall, hf.taken_eq, List.prefix_iff_eq_take.1 hf.taken_prefix, ?_,
    hf.calls_eq_nil_iff, fun front offer answer back hc => hf.offered hc, hf.short_iff⟩
  rw [← hsum, ← hf.taken_eq]
  rfl

/-- An interruption is answered by the same offer, a short write by the rest, and what an error
leaves over is not offered again. -/
example :
    writeAll [.interrupted, .takes 2, .failed] [1, 2, 3] =
      ⟨[1, 2], [[1, 2, 3], [1, 2, 3], [3]]⟩ := by
  decide

end ScriptHost
