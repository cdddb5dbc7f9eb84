import Mathlib.Data.List.Forall2
import Mathlib.Logic.Function.Iterate
import ScriptHost.Proofs.HistorySaves

/-!
# Reading a history back

What a load makes of a file that was written entry by entry.

**Line ends.** An entry is written with an LF behind it. A reader takes a CR before the LF for a
part of the line end, so an entry that ends in CR comes back without it (`chomp`). It is one CR
for each time that the entry is written and read back (`iterate_chomp_eq_self_iff`).

**Results.**
* `Text.lines_unlines`: the lines of entries without LF are the entries, chomped.
* `Text.isLine_of_mem_lines`: what is read as a line holds no LF.
* `Text.lines_unlines_eq_self_iff`: which entries are read back unchanged.
* `History.left_of_replaced`, `History.loaded_terminated`: what a save that replaces the file leaves
  in it, and what is loaded from that.
* `History.reload_saved`: what comes back of any entries, wherever they can be saved.
-/
namespace ScriptHost

theorem Utf8.decode_encode (s : String) : decode? (encode s) = some s := by
  unfold decode? encode String.fromUTF8?
  rw [dif_pos (by simpa using s.isValidUTF8)]
  rfl

theorem FileSystem.readText_of_held {fs : FileSystem} {path : Bytes} {text : String}
    (h : fs.held? path = some (some (Utf8.encode text))) : fs.readText path = .ok text := by
  simp only [readText, read_of_held h, Utf8.decode_encode]

namespace Text

/-! ## A CR at the end of a line -/

/-- A text without a line end inside. -/
def IsLine (line : String) : Prop :=
  '\n' ∉ line.toList

instance (line : String) : Decidable (IsLine line) :=
  inferInstanceAs (Decidable (_ ∉ _))

def EndsInCr (line : String) : Prop :=
  line.toList.getLast? = some '\r'

instance (line : String) : Decidable (EndsInCr line) :=
  inferInstanceAs (Decidable (_ = _))

/-- The line without a CR at its end. -/
def chomp (line : String) : String :=
  String.ofList (closeLine line.toList.reverse)

theorem chomp_of_endsInCr {line : String} (h : EndsInCr line) :
    ∃ front, line.toList = front ++ ['\r'] ∧ (chomp line).toList = front := by
  obtain ⟨front, hf⟩ := List.getLast?_eq_some_iff.1 h
  exact ⟨front, hf, by simp [chomp, hf, closeLine]⟩

theorem chomp_of_not_endsInCr {line : String} (h : ¬ EndsInCr line) : chomp line = line := by
  unfold chomp closeLine
  split
  · rename_i back hb
    exact absurd (by simp [EndsInCr, List.reverse_eq_cons_iff.1 hb]) h
  · simp

theorem length_chomp_le (line : String) : (chomp line).toList.length ≤ line.toList.length := by
  by_cases h : EndsInCr line
  · obtain ⟨front, hf, hc⟩ := chomp_of_endsInCr h
    simp [hf, hc]
  · exact Nat.le_of_eq (by rw [chomp_of_not_endsInCr h])

theorem length_iterate_chomp_le (n : Nat) (line : String) :
    (chomp^[n] line).toList.length ≤ line.toList.length := by
  induction n generalizing line with
  | zero => exact Nat.le_refl _
  | succ n ih => exact Nat.le_trans (ih (chomp line)) (length_chomp_le line)

/-- Only a line that does not end in CR outlives being chomped, however often that is. -/
theorem iterate_chomp_eq_self_iff (n : Nat) (line : String) :
    chomp^[n + 1] line = line ↔ ¬ EndsInCr line := by
  refine ⟨fun h he => ?_, fun h => Function.iterate_fixed (chomp_of_not_endsInCr h) _⟩
  obtain ⟨front, hf, hc⟩ := chomp_of_endsInCr he
  have hlen := length_iterate_chomp_le n (chomp line)
  rw [← Function.iterate_succ_apply, h, hf, hc, List.length_append] at hlen
  exact Nat.not_succ_le_self _ hlen

/-- The line, and the CR that was taken from it. -/
theorem eq_chomp (line : String) :
    line = if EndsInCr line then chomp line ++ "\r" else chomp line := by
  split
  · rename_i h
    obtain ⟨front, hf, hc⟩ := chomp_of_endsInCr h
    exact String.toList_injective (by simp [hf, hc])
  · rename_i h
    exact (chomp_of_not_endsInCr h).symm

/-! ## Lines -/

theorem linesFrom_append {cs : List Char} (h : '\n' ∉ cs) (line rest : List Char) :
    linesFrom line (cs ++ rest) = linesFrom (cs.reverse ++ line) rest := by
  induction cs generalizing line with
  | nil => rfl
  | cons c cs ih =>
    have hc : c ≠ '\n' := fun he => h (he ▸ List.mem_cons_self)
    have hcs : '\n' ∉ cs := fun hm => h (List.mem_cons_of_mem _ hm)
    rw [List.cons_append, linesFrom, if_neg hc, ih hcs]
    simp

theorem toList_unlines (entries : List String) :
    (unlines entries).toList = entries.flatMap fun entry => entry.toList ++ ['\n'] := by
  simp [unlines, List.flatMap_map]

/-- Entries without LF, each ended by one, are read back chomped. -/
theorem lines_unlines {entries : List String} (h : ∀ entry ∈ entries, IsLine entry) :
    lines (unlines entries) = entries.map chomp := by
  unfold lines
  rw [toList_unlines]
  induction entries with
  | nil => rfl
  | cons entry rest ih =>
    obtain ⟨he, hr⟩ := List.forall_mem_cons.1 h
    rw [List.flatMap_cons, List.append_assoc, linesFrom_append he, List.append_nil]
    simp only [List.singleton_append, linesFrom, if_true, List.map_cons, ih hr]
    rfl

theorem closeLine_subset (line : List Char) : ∀ c ∈ closeLine line, c ∈ line := by
  unfold closeLine
  split <;> simp +contextual

/-- What is collected holds no LF, whatever follows. -/
theorem lf_not_mem_linesFrom {line : List Char} (h : '\n' ∉ line) (cs : List Char) :
    ∀ found ∈ linesFrom line cs, '\n' ∉ found := by
  induction cs generalizing line with
  | nil =>
    unfold linesFrom
    split <;> simp [h]
  | cons c rest ih =>
    rw [linesFrom]
    split
    · refine List.forall_mem_cons.2 ⟨fun hm => h (closeLine_subset line _ hm), ih (by simp)⟩
    · rename_i hc
      exact ih (by simpa [Ne.symm hc] using h)

theorem isLine_of_mem_lines {s line : String} (h : line ∈ lines s) : IsLine line := by
  obtain ⟨found, hf, rfl⟩ := List.mem_map.1 h
  simpa [IsLine] using lf_not_mem_linesFrom (by simp) s.toList found hf

/-- Entries are read back unchanged exactly when each is a line that does not end in CR. -/
theorem lines_unlines_eq_self_iff (entries : List String) :
    lines (unlines entries) = entries ↔
      ∀ entry ∈ entries, IsLine entry ∧ ¬ EndsInCr entry := by
  constructor
  · intro h entry he
    have hall : ∀ entry ∈ entries, IsLine entry := fun entry he =>
      isLine_of_mem_lines (h.symm ▸ he)
    rw [lines_unlines hall] at h
    have hc : chomp entry = entry := List.map_inj_left.1 (h.trans (List.map_id _).symm) entry he
    exact ⟨hall entry he, (iterate_chomp_eq_self_iff 0 entry).1 hc⟩
  · intro h
    rw [lines_unlines fun entry he => (h entry he).1]
    exact (List.map_congr_left fun entry he => chomp_of_not_endsInCr (h entry he).2).trans
      (List.map_id _)

end Text

/-! ## A file of entries -/

namespace History

theorem decode_terminated (entries : List String) :
    Utf8.decode? (terminated entries) = some (Text.unlines entries) := by
  rw [← encode_unlines, Utf8.decode_encode]

theorem isText_terminated (entries : List String) : IsText (some (terminated entries)) := by
  rintro _ ⟨⟩
  simp [decode_terminated]

/-- What is loaded from a file that was written with these entries. -/
theorem loaded_terminated {entries : List String} (h : ∀ entry ∈ entries, Text.IsLine entry) :
    loaded (some (terminated entries)) = entries.map Text.chomp := by
  simp only [loaded, Option.map_some, decode_terminated]
  exact Text.lines_unlines h

/-- A save that replaces the file leaves the entries in it. -/
theorem left_of_replaced {path : Bytes} {entries : List String} {files : FileSystem}
    {left : Option Bytes} (hs : (save ⟨path, entries, .replace⟩ files).1 = .ok ())
    (hl : (save ⟨path, entries, .replace⟩ files).2.2.held? path = some left) :
    left = some (terminated entries) := by
  unfold save at hs hl
  split at hs
  · rename_i files' hk
    rw [hk] at hl
    have hm : files.modify path (fun _ => Utf8.encode (Text.unlines entries)) = .ok files' := hk
    obtain ⟨-, -, rfl⟩ := FileSystem.held_of_modified hm hl
    rw [encode_unlines]
  · cases hs

theorem isLine_of_mem_loaded {content : Option Bytes} {entry : String}
    (h : entry ∈ loaded content) : Text.IsLine entry := by
  unfold loaded at h
  split at h
  · exact Text.isLine_of_mem_lines h
  · cases h

/-! ## Saved and loaded -/

theorem load_of_text {fs : FileSystem} {path : Bytes} {text : String}
    (h : fs.readText path = .ok text) : (load fs path).1 = .ok ⟨path, Text.lines text, .replace⟩ := by
  unfold load
  rw [h]

/-- **Round trip.** A history that replaces its file can be saved wherever a file can be written,
and loaded again. The same entries come back exactly when none holds an LF and none ends in CR.
Entries without LF all come back, those that end in CR with one CR less. -/
theorem reload_saved {fs : FileSystem} {path : Bytes} {content : Option Bytes}
    (hw : fs.held? path = some content) (entries : List String) :
    ∃ fs', save ⟨path, entries, .replace⟩ fs = (.ok (), ⟨path, entries, .replace⟩, fs') ∧
      ∃ back, (load fs' path).1 = .ok ⟨path, back, .replace⟩ ∧
        (back = entries ↔ ∀ entry ∈ entries, Text.IsLine entry ∧ ¬ Text.EndsInCr entry) ∧
        ((∀ entry ∈ entries, Text.IsLine entry) →
          List.Forall₂ (fun entry line =>
            entry = if Text.EndsInCr entry then line ++ "\r" else line) entries back) := by
  obtain ⟨fs', hm, hh⟩ :=
    FileSystem.held_modify hw fun _ => Utf8.encode (Text.unlines entries)
  have htext : fs'.readText path = .ok (Text.unlines entries) := FileSystem.readText_of_held hh
  refine ⟨fs', by simp only [save, store, change?, hm, markSaved], Text.lines (Text.unlines entries),
    load_of_text htext, Text.lines_unlines_eq_self_iff entries, fun hl => ?_⟩
  rw [Text.lines_unlines hl, List.forall₂_map_right_iff, List.forall₂_same]
  exact fun entry _ => Text.eq_chomp entry

/-- A file that is yet to be made, and an entry of each kind. -/
theorem reload_saved_worn :
    let files : FileSystem := ⟨[], []⟩
    files.held? [0x68] = some none ∧
      ∃ files', save ⟨[0x68], ["a\rb", "", "c\r\r"], .replace⟩ files =
          (.ok (), ⟨[0x68], ["a\rb", "", "c\r\r"], .replace⟩, files') ∧
        ∃ back, (load files' [0x68]).1 = .ok ⟨[0x68], back, .replace⟩ ∧
          back ≠ ["a\rb", "", "c\r\r"] ∧
          List.Forall₂ (fun entry line =>
            entry = if Text.EndsInCr entry then line ++ "\r" else line)
            ["a\rb", "", "c\r\r"] back := by
  intro files
  have hh : files.held? [0x68] = some none := by
    have hl : files.locate true [0x68] = .ok ([[0x68]], none) :=
      FileSystem.locate_ok_iff.2 ⟨by decide, .arrive (by decide) rfl ⟨by simp, by simp⟩⟩
    unfold FileSystem.held?
    rw [hl]
  obtain ⟨files', hs, back, hl, hiff, hall⟩ := reload_saved hh ["a\rb", "", "c\r\r"]
  exact ⟨hh, files', hs, back, hl, fun he => absurd (hiff.1 he) (by decide), hall (by decide)⟩

end History

end ScriptHost
