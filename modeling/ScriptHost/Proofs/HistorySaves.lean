import ScriptHost.History.Basic
import ScriptHost.Proofs.FileWrites
import ScriptHost.Proofs.TextBytes

/-!
# No line of a history is lost

A history that was resumed from a file, under any additions and saves in any order. Between two
uses the files may change as they like, but nobody else changes the history's own file; a save
may find that the file cannot be opened.

**The file (`Stored`).** A history together with what its file holds. A save is given the files
of the moment (`Meets`), and what it leaves in the file is what the next save that can open the
file finds there.

**The law (`settled`).** What the file holds after a save is decided by what it held at first and
by the lines added until then. A file that was missing or read as text holds every entry that was
loaded and every such line. A file that is no text stays as it is until there is a line to add;
then it gains a line end if it lacks one, and every such line.

**The invariant (`Settling`).** One rule for each way to save. A file that is only added to holds
what the law says for the lines that the history counts as saved.

**Results.**
* `settled_extend`: adding the lines not yet saved to a settled file settles the rest.
* `settling_use`, `settling_useAll`: every use, and every run of uses, keeps the invariant.
* `resumed_settles`: no save asks for more lines than there are, a failed save changes nothing,
  and after the last save that succeeded the file holds what the law says.
-/
namespace ScriptHost

namespace History

/-! ## Lines in a file -/

/-- The lines one after another, each followed by LF. -/
def terminated (lines : List String) : Bytes :=
  lines.flatMap fun line => Utf8.encode line ++ [0x0A]

theorem encode_unlines (lines : List String) :
    Utf8.encode (Text.unlines lines) = terminated lines := by
  induction lines with
  | nil => rfl
  | cons line rest ih =>
    have hn : Utf8.encode "\n" = [0x0A] := rfl
    unfold Text.unlines terminated at ih ⊢
    rw [List.map_cons, String.join_cons, Utf8.encode_append, Utf8.encode_append, hn, ih,
      List.flatMap_cons]

theorem terminated_append (xs ys : List String) :
    terminated (xs ++ ys) = terminated xs ++ terminated ys :=
  List.flatMap_append

/-- A file that ends in a line ends in LF. -/
theorem getLast?_append_terminated (content : Bytes) {lines : List String} (h : lines ≠ []) :
    (content ++ terminated lines).getLast? = some 0x0A := by
  obtain ⟨front, line, rfl⟩ := List.eq_nil_or_concat lines |>.resolve_left h
  simp [terminated]

/-! ## The law -/

/-- What a file holds once its unterminated last line, if it has one, is ended. -/
def ended (content : Bytes) : Bytes :=
  if content ≠ [] ∧ content.getLast? ≠ some 0x0A then content ++ [0x0A] else content

/-- What the file holds after a save, by what it held at first and the lines added until then. -/
def settled (first : Option Bytes) (lines : List String) : Bytes :=
  match first with
  | none => terminated lines
  | some bytes =>
    match Utf8.decode? bytes with
    | some text => terminated (Text.lines text ++ lines)
    | none => if lines = [] then bytes else ended bytes ++ terminated lines

theorem append_lineBreak (content : Bytes) : content ++ lineBreak content = ended content := by
  unfold lineBreak ended
  by_cases he : content = []
  · simp [he]
  · by_cases hl : content.getLast? = some 0x0A
    · simp [hl]
    · simp [he, hl]

theorem ended_of_getLast? {content : Bytes} (h : content.getLast? = some 0x0A) :
    ended content = content := by
  simp [ended, h]

/-- Adding the lines not yet saved to a settled file settles the rest. -/
theorem settled_extend {bytes : Bytes} (hd : Utf8.decode? bytes = none) (saved : List String)
    {fresh : List String} (hf : fresh ≠ []) :
    let content := settled (some bytes) saved
    content ++ (lineBreak content ++ Utf8.encode (Text.unlines fresh)) =
      settled (some bytes) (saved ++ fresh) := by
  have hne : saved ++ fresh ≠ [] := by simp [hf]
  simp only [settled, hd, if_neg hne, ← List.append_assoc, append_lineBreak, encode_unlines]
  by_cases hs : saved = []
  · simp [hs]
  · -- What was saved before ended in LF, so no line end is put in between.
    rw [if_neg hs, ended_of_getLast? (getLast?_append_terminated _ hs), terminated_append,
      List.append_assoc]

/-! ## Uses of a history -/

/-- What is done with a history; a save is given the files of the moment. -/
inductive Use where
  | add (line : String)
  | save (files : FileSystem)

def Use.line? : Use → Option String
  | .add line => some line
  | .save _ => none

/-- The lines that are added, in order. -/
def added (uses : List Use) : List String :=
  uses.filterMap Use.line?

/-- A history and what its file holds, or none when there is no file. -/
structure Stored where
  history : History
  content : Option Bytes

namespace Stored

/-- After a save the file holds what can be found in it, or what it held when it cannot be
opened. -/
def use (s : Stored) : Use → Stored
  | .add line => { s with history := s.history.add line }
  | .save files =>
    let (_, history, files) := s.history.save files
    ⟨history, (files.held? s.history.path).getD s.content⟩

def useAll (s : Stored) (uses : List Use) : Stored :=
  uses.foldl use s

/-- The file holds among `files` what it holds, or its path cannot be opened. -/
def Meets (s : Stored) (files : FileSystem) : Prop :=
  files.held? s.history.path = some s.content ∨
    ∀ change, ∃ fault, files.modify s.history.path change = .error fault

/-- Nobody else changes the file between the uses. -/
def Undisturbed (s : Stored) : List Use → Prop
  | [] => True
  | .add line :: rest => (s.use (.add line)).Undisturbed rest
  | .save files :: rest => s.Meets files ∧ (s.use (.save files)).Undisturbed rest

theorem useAll_append (s : Stored) (xs ys : List Use) :
    s.useAll (xs ++ ys) = (s.useAll xs).useAll ys :=
  List.foldl_append

theorem undisturbed_append (s : Stored) (xs ys : List Use) :
    s.Undisturbed (xs ++ ys) ↔ s.Undisturbed xs ∧ (s.useAll xs).Undisturbed ys := by
  induction xs generalizing s with
  | nil => exact ⟨fun h => ⟨trivial, h⟩, And.right⟩
  | cons u rest ih =>
    cases u with
    | add line => exact ih _
    | save files =>
      have h := ih (s.use (.save files))
      exact ⟨fun ⟨hm, hr⟩ => ⟨⟨hm, (h.1 hr).1⟩, (h.1 hr).2⟩,
        fun ⟨⟨hm, hr⟩, hy⟩ => ⟨hm, h.2 ⟨hr, hy⟩⟩⟩

/-- What a save can meet is no other content. -/
theorem Meets.held {s : Stored} {files : FileSystem} (h : s.Meets files) :
    (files.held? s.history.path).getD s.content = s.content := by
  rcases h with h | h
  · rw [h]
    rfl
  · obtain ⟨fault, hf⟩ := h fun content => content
    rw [FileSystem.held_of_refused hf]
    rfl

/-- A save that fails changes nothing at all. -/
theorem use_of_failed {s : Stored} {files : FileSystem} (hm : s.Meets files) {cause : Error}
    (h : (s.history.save files).1 = .error cause) :
    (s.history.save files).2 = (s.history, files) ∧ s.use (.save files) = s := by
  have hs : (s.history.save files).2 = (s.history, files) := by
    unfold save at h ⊢
    split
    · rename_i hk
      rw [hk] at h
      cases h
    · rfl
  refine ⟨hs, ?_⟩
  simp only [use, hs, hm.held]

/-- A save that succeeds leaves what the store makes of the files. -/
theorem use_of_saved {s : Stored} {files : FileSystem} (h : (s.history.save files).1 = .ok ()) :
    ∃ files', s.history.store files = .ok files' ∧
      s.use (.save files) =
        ⟨s.history.markSaved, (files'.held? s.history.path).getD s.content⟩ := by
  cases hk : s.history.store files with
  | ok files' => exact ⟨files', rfl, by simp only [use, save, hk]⟩
  | error cause =>
    simp only [save, hk] at h
    cases h

/-- A file that a save changed was opened with what it held. -/
theorem Meets.held_modified {s : Stored} {files files' : FileSystem} (h : s.Meets files)
    {change : Bytes → Bytes} (hk : files.modify s.history.path change = .ok files') :
    (files'.held? s.history.path).getD s.content = some (change (s.content.getD [])) := by
  rcases h with h | h
  · obtain ⟨files'', hm, hh⟩ := FileSystem.held_modify h change
    rw [hk] at hm
    cases hm
    rw [hh]
    rfl
  · obtain ⟨fault, hf⟩ := h change
    rw [hk] at hf
    cases hf

end Stored

/-- A save whose file can be opened succeeds. -/
theorem save_of_held {h : History} {files : FileSystem} {content : Option Bytes}
    (hh : files.held? h.path = some content) : (h.save files).1 = .ok () := by
  unfold save store
  cases h.change? with
  | none => rfl
  | some change =>
    obtain ⟨files', hm, -⟩ := FileSystem.held_modify hh change
    simp only [hm]

/-! ## The invariant -/

/-- The entries of a file that was read. -/
def loaded (first : Option Bytes) : List String :=
  match first.map Utf8.decode? with
  | some (some text) => Text.lines text
  | _ => []

/-- The file was missing or read as text. -/
def IsText (first : Option Bytes) : Prop :=
  ∀ bytes, first = some bytes → Utf8.decode? bytes ≠ none

theorem settled_of_isText {first : Option Bytes} (h : IsText first) (lines : List String) :
    settled first lines = terminated (loaded first ++ lines) := by
  cases first with
  | none => rfl
  | some bytes =>
    cases hd : Utf8.decode? bytes with
    | none => exact absurd hd (h bytes rfl)
    | some text => simp [settled, loaded, hd]

/-- A history whose file held `first` at first, when `lines` have been added. -/
inductive Settling (path : Bytes) (first : Option Bytes) (lines : List String) : Stored → Prop
  | replacing {content : Option Bytes} :
      IsText first →
      Settling path first lines ⟨⟨path, loaded first ++ lines, .replace⟩, content⟩
  | extending {bytes content : Bytes} {saved : Nat} :
      first = some bytes → Utf8.decode? bytes = none → saved ≤ lines.length →
      content = settled first (lines.take saved) →
      Settling path first lines ⟨⟨path, lines, .extend saved⟩, some content⟩

/-- What a reader finds. -/
def found : Option Bytes → Except Fault Bytes
  | none => .error .notFound
  | some bytes => .ok bytes

section
variable {path : Bytes} {first : Option Bytes} {lines : List String} {s : Stored}

/-- A history is resumed in the mode that its file asks for. -/
theorem settling_resume {files : FileSystem} (h : files.read path = found first) :
    Settling path first [] ⟨(resume files path).1, first⟩ := by
  cases first with
  | none =>
    simp only [resume, load, FileSystem.readText, h, found]
    exact .replacing (by simp [IsText])
  | some bytes =>
    cases hd : Utf8.decode? bytes with
    | none =>
      have hs : settled (some bytes) [] = bytes := by simp [settled, hd]
      simp only [resume, load, FileSystem.readText, h, found, hd]
      exact .extending rfl hd (Nat.le_refl _) hs.symm
    | some text =>
      have hl : Text.lines text = loaded (some bytes) ++ [] := by simp [loaded, hd]
      simp only [resume, load, FileSystem.readText, h, found, hd, hl]
      exact .replacing (by simp [IsText, hd])

theorem path_resume {files : FileSystem} (h : files.read path = found first) :
    (resume files path).1.path = path := by
  have hs := settling_resume h
  generalize (resume files path).1 = history at hs
  cases hs <;> rfl

theorem entries_resume {files : FileSystem} (h : files.read path = found first) :
    (resume files path).1.entries = loaded first := by
  have hs := settling_resume h
  generalize (resume files path).1 = history at hs
  cases hs with
  | replacing => exact List.append_nil _
  | extending hf hd => simp [loaded, hf, hd]

theorem settling_add (h : Settling path first lines s) (line : String) :
    Settling path first (lines ++ [line]) (s.use (.add line)) := by
  cases h with
  | replacing ht =>
    simp only [Stored.use, add, List.append_assoc]
    exact .replacing ht
  | extending hf hd hs hc =>
    refine .extending hf hd (Nat.le_trans hs (by simp)) ?_
    rw [List.take_append_of_le_length hs]
    exact hc

/-- A save keeps the invariant, and one that succeeds settles every line. -/
theorem settling_save (h : Settling path first lines s) {files : FileSystem} (hm : s.Meets files) :
    Settling path first lines (s.use (.save files)) ∧
      ((s.history.save files).1 = .ok () →
        (s.use (.save files)).content = some (settled first lines)) := by
  cases hr : (s.history.save files).1 with
  | error cause =>
    rw [(Stored.use_of_failed hm hr).2]
    exact ⟨h, fun hn => by cases hn⟩
  | ok done =>
    obtain ⟨files', hk, hu⟩ := Stored.use_of_saved hr
    rw [hu]
    cases h with
    | replacing ht =>
      simp only [store, change?] at hk
      rw [hm.held_modified hk, encode_unlines, ← settled_of_isText ht]
      exact ⟨.replacing ht, fun _ => rfl⟩
    | @extending bytes content saved hf hd hs hc =>
      subst hf
      by_cases hfresh : lines.drop saved = []
      · -- Nothing is fresh: the file is not even opened, and every line is in it.
        have hall : lines.take saved = lines :=
          List.take_of_length_le (List.drop_eq_nil_iff.1 hfresh)
        simp only [store, change?, hfresh, if_true, Except.ok.injEq] at hk
        rw [← hk, hm.held, hc, hall]
        exact ⟨.extending rfl hd (Nat.le_refl _) (by rw [List.take_length]), fun _ => rfl⟩
      · simp only [store, change?, hfresh, if_false] at hk
        rw [hm.held_modified hk]
        have hext := settled_extend hd (lines.take saved) hfresh
        rw [List.take_append_drop, ← hc] at hext
        exact ⟨.extending rfl hd (Nat.le_refl _) (by rw [List.take_length]; exact hext),
          fun _ => congrArg some hext⟩

/-! ## Runs -/

theorem settling_useAll (h : Settling path first lines s) {uses : List Use}
    (hu : s.Undisturbed uses) : Settling path first (lines ++ added uses) (s.useAll uses) := by
  induction uses generalizing s lines with
  | nil =>
    rw [added, List.filterMap_nil, List.append_nil]
    exact h
  | cons u rest ih =>
    cases u with
    | add line =>
      have := ih (settling_add h line) hu
      rwa [List.append_assoc] at this
    | save files => exact ih (settling_save h hu.1).1 hu.2

/-- Uses whose saves all fail leave the file alone. -/
theorem content_of_failing {uses : List Use} (hu : s.Undisturbed uses)
    (hf : ∀ front files back, uses = front ++ .save files :: back →
      ((s.useAll front).history.save files).1 ≠ .ok ()) :
    (s.useAll uses).content = s.content := by
  induction uses generalizing s with
  | nil => rfl
  | cons u rest ih =>
    have hrest : (s.use u).Undisturbed rest := by
      cases u with
      | add line => exact hu
      | save files => exact hu.2
    have hkeep : (s.use u).content = s.content := by
      cases u with
      | add line => rfl
      | save files =>
        have h0 : (s.history.save files).1 ≠ .ok () := hf [] files rest rfl
        cases hr : (s.history.save files).1 with
        | ok done => exact absurd hr h0
        | error cause => rw [(Stored.use_of_failed hu.1 hr).2]
    refine (ih hrest fun front files back he => ?_).trans hkeep
    exact hf (u :: front) files back (by rw [he]; rfl)

/-- The mode counts no more lines as saved than there are. -/
theorem Settling.saved_le (h : Settling path first lines s) {saved : Nat}
    (hm : s.history.mode = .extend saved) : saved ≤ s.history.entries.length := by
  cases h with
  | replacing => cases hm
  | extending _ _ hs _ =>
    cases hm
    exact hs

end

/-- **No line is lost.** A history that was resumed from a file starts with what could be loaded.
Used in any order, no save asks for more lines than there are; a save that fails changes neither
the history nor the files; and after the last save that succeeded the file holds what the law
says for the lines added before it. -/
theorem resumed_settles (files : FileSystem) (path : Bytes) (first : Option Bytes)
    (hfirst : files.read path = found first) (uses : List Use)
    (hu : Stored.Undisturbed ⟨(resume files path).1, first⟩ uses) :
    let start : Stored := ⟨(resume files path).1, first⟩
    let s := start.useAll uses
    start.history.entries = loaded first ∧
      (∀ saved, s.history.mode = .extend saved → saved ≤ s.history.entries.length) ∧
      (∀ now cause, s.Meets now → (s.history.save now).1 = .error cause →
        (s.history.save now).2 = (s.history, now) ∧ s.use (.save now) = s) ∧
      ∀ before now after, uses = before ++ .save now :: after →
        ((start.useAll before).history.save now).1 = .ok () →
        (∀ front later back, after = front ++ .save later :: back →
          ((start.useAll (before ++ .save now :: front)).history.save later).1 ≠ .ok ()) →
        s.content = some (settled first (added before)) := by
  intro start s
  have hstart := settling_resume hfirst
  refine ⟨entries_resume hfirst, fun saved hm => (settling_useAll hstart hu).saved_le hm,
    fun now cause hm hr => Stored.use_of_failed hm hr, ?_⟩
  rintro before now after rfl hok hfail
  obtain ⟨hbefore, hm, hafter⟩ := (Stored.undisturbed_append _ _ _).1 hu
  have hsaved := (settling_save (settling_useAll hstart hbefore) hm).2 hok
  have hs : s = ((start.useAll before).use (.save now)).useAll after :=
    Stored.useAll_append _ _ _
  rw [hs, content_of_failing hafter fun front later back he => ?_, hsaved]
  · rfl
  · have := hfail front later back he
    rwa [Stored.useAll_append] at this

theorem resumed_settles_unreadable :
    let files : FileSystem := ⟨[([[0x68]], .file [0xFF])], []⟩
    let start : Stored := ⟨(resume files [0x68]).1, some [0xFF]⟩
    files.read [0x68] = found (some [0xFF]) ∧
      start.Undisturbed [.add "a", .save files, .add "b"] ∧
      (start.useAll [.add "a", .save files, .add "b"]).content =
        some [0xFF, 0x0A, 0x61, 0x0A] := by
  intro files start
  have hh : files.held? [0x68] = some (some [0xFF]) := by
    have hl : files.locate true [0x68] = .ok ([[0x68]], some (.file [0xFF])) :=
      FileSystem.locate_ok_iff.2 ⟨by decide, .arrive (by decide) rfl ⟨by simp, by simp⟩⟩
    unfold FileSystem.held?
    rw [hl]
    rfl
  have hfirst : files.read [0x68] = found (some [0xFF]) := FileSystem.read_of_held hh
  have hpath : start.history.path = [0x68] := path_resume hfirst
  have hu : start.Undisturbed [.add "a", .save files, .add "b"] :=
    ⟨Or.inl (by rw [← hpath] at hh; exact hh), trivial⟩
  have hok : ((start.useAll [.add "a"]).history.save files).1 = .ok () :=
    save_of_held (by rw [← hpath] at hh; exact hh)
  refine ⟨hfirst, hu, (resumed_settles files [0x68] (some [0xFF]) hfirst _ hu).2.2.2
    [.add "a"] files [.add "b"] rfl hok fun front later back he => ?_⟩
  rcases front with _ | ⟨u, _ | ⟨v, front⟩⟩ <;> cases he

end History

end ScriptHost
