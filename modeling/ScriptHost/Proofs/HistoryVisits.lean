import ScriptHost.Engine.Recording
import ScriptHost.Proofs.HistoryReload
import ScriptHost.Proofs.ReplErrors

/-!
# A history over many visits

A visit to the file of a history loads it, adds the lines of any number of loops, and saves it:
what a program does between its start and its end. Visits that follow one another hand their
entries on through the file.

**A visit (`Visit`).** The loops may each have a lifecycle, an engine and files of their own. Only
the history goes from one to the next.

**Visits to one file (`Chained`).** Each finds in the file what the one before left there, and
saves with success. The path leads to no directory and no device.

**What is handed on (`worn`).** Every entry and every line, in order. But a line that ends in CR
is written with CR LF behind it, which the next load takes for the line end: with every visit that
saves it, it loses one CR.

**Results.**
* `Round.run_eq`, `Visit.history_eq`: what loops add to a history.
* `left_of_saved`: what a visit leaves in the file.
* `entries_of_chained`: what is loaded after any sequence of visits.
* `visits_hand_on`: that, and when it is everything unchanged.
-/
namespace ScriptHost

namespace History

/-! ## Loops -/

/-- A loop over some readings; its history is the one it is given. -/
structure Round where
  {σ : Type}
  engine : Engine σ
  view : σ → FileSystem
  repl : Repl σ
  readings : List Reading

namespace Round

def run (r : Round) (h : History) : History :=
  ({ r.repl with history := h }.run r.engine r.view r.readings).2.2.history

/-- The lines that the loop handles and keeps. On a lifecycle that may not open requests it
handles none. -/
def kept (r : Round) : List String :=
  if Lifecycle.isReady r.repl.lifecycle.phase then
    Repl.worthKeeping (Reading.handled r.readings)
  else []

/-- A loop adds the lines that it keeps. -/
theorem run_eq (r : Round) (h : History) :
    r.run h = { h with entries := h.entries ++ r.kept } := by
  unfold run kept
  cases hp : Lifecycle.isReady r.repl.lifecycle.phase with
  | true =>
    exact (Repl.run_keeps_lines r.engine r.view (r := { r.repl with history := h }) hp
      r.readings).history
  | false =>
    obtain ⟨r', hr, -, hu⟩ := Repl.run_unready r.engine r.view
      (r := { r.repl with history := h }) hp r.readings
    simp [hr, hu.history]

end Round

/-! ## Visits -/

/-- The files when the history is loaded, the loops, and the files when it is saved. -/
structure Visit where
  opened : FileSystem
  rounds : List Round
  closing : FileSystem

namespace Visit

variable (s : Visit) (path : Bytes)

def start : History :=
  (resume s.opened path).1

/-- The history at the end of the visit. -/
def history : History :=
  s.rounds.foldl (fun h r => r.run h) (s.start path)

def kept : List String :=
  s.rounds.flatMap Round.kept

/-- The files after the save. -/
def left : FileSystem :=
  ((s.history path).save s.closing).2.2

theorem history_eq :
    s.history path =
      { s.start path with entries := (s.start path).entries ++ s.kept } := by
  unfold history kept
  generalize s.start path = h
  induction s.rounds generalizing h with
  | nil => simp
  | cons r rest ih => rw [List.foldl_cons, ih, r.run_eq, List.flatMap_cons, List.append_assoc]

end Visit

/-- Visits follow one another on the file at `path`, which holds `content` for the first of them
and is found among `next` after the last. -/
inductive Chained (path : Bytes) (next : FileSystem) : Option Bytes → List Visit → Prop
  | done {content : Option Bytes} :
      next.held? path = some content → Chained path next content []
  | visit {content left : Option Bytes} {s : Visit} {later : List Visit} :
      s.opened.held? path = some content → ((s.history path).save s.closing).1 = .ok () →
      (s.left path).held? path = some left → Chained path next left later →
      Chained path next content (s :: later)

section
variable {path : Bytes} {next : FileSystem} {content left : Option Bytes} {s : Visit}

theorem read_found {fs : FileSystem} (h : fs.held? path = some content) :
    fs.read path = found content := by
  rw [FileSystem.read_of_held h]
  cases content <;> rfl

/-- A visit that read its file ends with the entries loaded and the lines kept. -/
theorem history_of_isText (ho : s.opened.held? path = some content) (ht : IsText content) :
    s.history path = ⟨path, loaded content ++ s.kept, .replace⟩ := by
  have hs := settling_resume (read_found ho)
  rw [s.history_eq, Visit.start]
  generalize (resume s.opened path).1 = start at hs
  cases hs with
  | replacing => rw [List.append_nil]
  | extending hf hd => exact absurd hd (ht _ hf)

/-- A visit leaves the entries that it loaded and the lines that it kept. -/
theorem left_of_saved (ho : s.opened.held? path = some content) (ht : IsText content)
    (hs : ((s.history path).save s.closing).1 = .ok ())
    (hl : (s.left path).held? path = some left) :
    left = some (terminated (loaded content ++ s.kept)) := by
  rw [Visit.left, history_of_isText ho ht] at hl
  rw [history_of_isText ho ht] at hs
  exact left_of_replaced hs hl

/-- What is read back of the lines that each visit kept. -/
def worn : List (List String) → List String
  | [] => []
  | kept :: later => kept.map Text.chomp^[later.length + 1] ++ worn later

/-- After any sequence of visits the entries and the lines are loaded, in order, each without a
CR at its end for every save that it went through. -/
theorem entries_of_chained {visits : List Visit} (h : Chained path next content visits)
    (ht : IsText content) (hl : ∀ s ∈ visits, ∀ line ∈ s.kept, Text.IsLine line) :
    (resume next path).1.entries =
      (loaded content).map Text.chomp^[visits.length] ++ worn (visits.map Visit.kept) := by
  induction h with
  | done hn => simp [entries_resume (read_found hn), worn]
  | @visit content left s later ho hs hleft _ ih =>
    obtain ⟨hk, hlater⟩ := List.forall_mem_cons.1 hl
    obtain rfl := left_of_saved ho ht hs hleft
    have hlines : ∀ entry ∈ loaded content ++ s.kept, Text.IsLine entry := fun entry he =>
      (List.mem_append.1 he).elim isLine_of_mem_loaded (hk entry)
    rw [ih (isText_terminated _) hlater, loaded_terminated hlines, List.map_map,
      ← Function.iterate_succ, List.map_append, List.append_assoc]
    simp [worn]

/-- A visit can be saved where its file can still be opened. -/
theorem chained_alone {now : Option Bytes} (ho : s.opened.held? path = some content)
    (ht : IsText content) (hc : s.closing.held? path = some now) :
    ∃ next, Chained path next content [s] := by
  obtain ⟨next, hm, hl⟩ := FileSystem.held_modify hc
    fun _ => Utf8.encode (Text.unlines (loaded content ++ s.kept))
  have hv : (s.history path).save s.closing = (.ok (), s.history path, next) := by
    rw [history_of_isText ho ht]
    simp only [save, store, change?, hm, markSaved]
  refine ⟨next, .visit ho (by rw [hv]) ?_ (.done hl)⟩
  rw [Visit.left, hv]
  exact hl

end

/-! ## Append-only -/

/-- Lines that are read back once or more come back unchanged exactly when none ends in CR. -/
theorem map_iterate_chomp_append_eq_iff (n : Nat) (lines rest rest' : List String) :
    lines.map Text.chomp^[n + 1] ++ rest = lines ++ rest' ↔
      (∀ line ∈ lines, ¬ Text.EndsInCr line) ∧ rest = rest' := by
  have hmap := List.map_inj_left (f := Text.chomp^[n + 1]) (g := id) (l := lines)
  simp only [List.map_id, id, Text.iterate_chomp_eq_self_iff] at hmap
  rw [← hmap]
  exact ⟨fun h => List.append_inj h (List.length_map ..), fun ⟨h, h'⟩ => by rw [h, h']⟩

theorem worn_eq_iff (kept : List (List String)) :
    worn kept = kept.flatten ↔ ∀ line ∈ kept.flatten, ¬ Text.EndsInCr line := by
  induction kept with
  | nil => simp [worn]
  | cons lines later ih =>
    rw [worn, List.flatten_cons, map_iterate_chomp_append_eq_iff, ih, List.forall_mem_append]

/-- **What visits hand on.** On a file that was missing or read as text, the first visit loads
what the file held. After any sequence of visits that kept lines without LF, the entries and the
lines are loaded in order, and each has lost a CR at its end for every visit that saved it. So
they are unchanged exactly when none ends in CR, unless there was no visit at all. -/
theorem visits_hand_on {path : Bytes} {next : FileSystem} {content : Option Bytes}
    {visits : List Visit} (h : Chained path next content visits) (ht : IsText content)
    (hl : ∀ s ∈ visits, ∀ line ∈ s.kept, Text.IsLine line) :
    let entries := (resume next path).1.entries
    let known := loaded content ++ visits.flatMap Visit.kept
    (∀ s ∈ visits.head?, (s.start path).entries = loaded content) ∧
      entries = (loaded content).map Text.chomp^[visits.length] ++
        worn (visits.map Visit.kept) ∧
      (entries = known ↔ visits = [] ∨ ∀ entry ∈ known, ¬ Text.EndsInCr entry) := by
  intro entries known
  have he := entries_of_chained h ht hl
  refine ⟨fun s hs => ?_, he, ?_⟩
  · cases h with
    | done => cases hs
    | visit ho =>
      cases hs
      exact entries_resume (read_found ho)
  · change (resume next path).1.entries = loaded content ++ visits.flatMap Visit.kept ↔ _ ∨
      ∀ entry ∈ loaded content ++ visits.flatMap Visit.kept, _
    rw [he]
    cases visits with
    | nil => simp [worn]
    | cons s later =>
      have hk : (s :: later).flatMap Visit.kept = ((s :: later).map Visit.kept).flatten :=
        List.flatMap_def ..
      rw [hk, List.length_cons, map_iterate_chomp_append_eq_iff, worn_eq_iff,
        List.forall_mem_append]
      simp

theorem visits_hand_on_worn :
    ∃ l, (Lifecycle.create ({} : Recording.State) .default).1 = .ok l ∧
      let files : FileSystem := ⟨[([[0x68]], .file (Utf8.encode "a\r"))], []⟩
      let repl : Repl Recording.State :=
        ⟨(l.startup (Recording.engine {})).2, .empty [], "> ", false, 0, 0, []⟩
      let s : Visit :=
        ⟨files, [⟨Recording.engine {}, fun _ => files, repl, [.line "b\r", .line " "]⟩], files⟩
      ∃ next, Chained [0x68] next (some (Utf8.encode "a\r")) [s] ∧
        (s.start [0x68]).entries = ["a\r"] ∧ s.kept = ["b\r"] ∧
        (resume next [0x68]).1.entries = ["a", "b"] := by
  refine ⟨_, rfl, ?_⟩
  intro files repl s
  have hh : files.held? [0x68] = some (some (Utf8.encode "a\r")) := by
    have hl : files.locate true [0x68] = .ok ([[0x68]], some (.file (Utf8.encode "a\r"))) :=
      FileSystem.locate_ok_iff.2 ⟨by decide, .arrive (by decide) rfl ⟨by simp, by simp⟩⟩
    unfold FileSystem.held?
    rw [hl]
    rfl
  have hload : loaded (some (Utf8.encode "a\r")) = ["a\r"] := by
    simp only [loaded, Option.map_some, Utf8.decode_encode]
    rfl
  have ht : IsText (some (Utf8.encode "a\r")) := by
    rintro _ ⟨⟩
    simp [Utf8.decode_encode]
  have hk : s.kept = ["b\r"] := by decide
  have hlines : ∀ s' ∈ [s], ∀ line ∈ s'.kept, Text.IsLine line := by
    rw [List.forall_mem_singleton, hk]
    decide
  obtain ⟨next, hc⟩ := chained_alone (s := s) hh ht hh
  obtain ⟨hs, he, -⟩ := visits_hand_on hc ht hlines
  refine ⟨next, hc, ?_, hk, ?_⟩
  · rw [hs s rfl, hload]
  · rw [he, hload, List.map_singleton, List.map_singleton, hk]
    decide

/-- One visit is enough to lose a CR at the end of a line. -/
theorem visits_lose_cr :
    ∃ l, (Lifecycle.create ({} : Recording.State) .default).1 = .ok l ∧
      let files : FileSystem := ⟨[], []⟩
      let repl : Repl Recording.State :=
        ⟨(l.startup (Recording.engine {})).2, .empty [], "> ", false, 0, 0, []⟩
      let s : Visit :=
        ⟨files, [⟨Recording.engine {}, fun _ => files, repl, [.line "1+1\r"]⟩], files⟩
      ∃ next, Chained [0x68] next none [s] ∧ IsText none ∧ (∀ line ∈ s.kept, Text.IsLine line) ∧
        loaded none ++ s.kept = ["1+1\r"] ∧ (resume next [0x68]).1.entries = ["1+1"] := by
  refine ⟨_, rfl, ?_⟩
  intro files repl s
  have hh : files.held? [0x68] = some none := by
    have hl : files.locate true [0x68] = .ok ([[0x68]], none) :=
      FileSystem.locate_ok_iff.2 ⟨by decide, .arrive (by decide) rfl ⟨by simp, by simp⟩⟩
    unfold FileSystem.held?
    rw [hl]
  have ht : IsText none := nofun
  have hk : s.kept = ["1+1\r"] := by decide
  have hlines : ∀ line ∈ s.kept, Text.IsLine line := by
    rw [hk]
    decide
  obtain ⟨next, hc⟩ := chained_alone (s := s) hh ht hh
  refine ⟨next, hc, ht, hlines, by rw [hk]; rfl, ?_⟩
  rw [entries_of_chained hc ht (List.forall_mem_singleton.2 hlines), List.map_singleton, hk]
  decide

end History

end ScriptHost
