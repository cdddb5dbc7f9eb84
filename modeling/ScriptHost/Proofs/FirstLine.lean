import Mathlib.Data.List.DropRight
import ScriptHost.Discovery
import ScriptHost.Proofs.HistoryReload
import ScriptHost.Proofs.TextBytes

/-!
# The first line of what a command prints

A command prints bytes, which may be no text, and the prefix is read off its first line. Where
that line ends is decided by the bytes: no character of the text reaches over an LF, so what
stands behind the first one has no part in the reading.

**Trimming (`Text.Trims`).** A text without the blanks at its ends, said without taking it apart:
the text is blank, then what is left, then blank, and what is left has no blank at either end.
Only one text is left of any (`Trims.eq_trim`), so it does not count how it is found, and a CR
that belongs to the line end is trimmed all the same.

**Results.**
* `Text.trims_trim`, `Text.Trims.eq_trim`: what trimming leaves, and that nothing else does.
* `Text.head?_lines_append`: the first line of a text with an LF.
* `Text.trim_head_lines`: the first printed line, trimmed, for any bytes.
* `Discovery.rootOf?_eq`: the prefix that is read off.
-/
namespace ScriptHost

namespace Text

/-! ## Trimming -/

/-- `s` is what is left of `text` without the blanks at its ends. -/
structure Trims (text s : String) : Prop where
  split : ∃ front back, text = front ++ s ++ back ∧ isBlankText front = true ∧
    isBlankText back = true
  head : ∀ c ∈ s.toList.head?, isBlank c = false
  last : ∀ c ∈ s.toList.getLast?, isBlank c = false

theorem isBlankText_iff {s : String} : isBlankText s = true ↔ ∀ c ∈ s.toList, isBlank c = true := by
  rw [isBlankText, List.all_eq_true]

theorem dropWhile_isBlank_append {front cs : List Char} (hf : ∀ c ∈ front, isBlank c = true)
    (hh : ∀ c ∈ cs.head?, isBlank c = false) : (front ++ cs).dropWhile isBlank = cs := by
  rw [List.dropWhile_append_of_pos hf]
  cases cs with
  | nil => rfl
  | cons c rest => exact List.dropWhile_cons_of_neg (by simp [hh c rfl])

theorem not_isBlank_of_head? {cs : List Char} {c : Char}
    (h : (cs.dropWhile isBlank).head? = some c) : isBlank c = false := by
  have := List.head?_dropWhile_not isBlank cs
  rwa [h] at this

/-- Trimming leaves what is between the blanks. -/
theorem trims_trim (text : String) : Trims text (trim text) := by
  let inner := text.toList.dropWhile isBlank
  have htrim : (trim text).toList = inner.rdropWhile isBlank := String.toList_ofList
  have hleft : text.toList = text.toList.takeWhile isBlank ++ inner :=
    List.takeWhile_append_dropWhile.symm
  have hright : inner = (trim text).toList ++ inner.rtakeWhile isBlank := by
    rw [htrim, List.rdropWhile_append_rtakeWhile]
  refine ⟨⟨String.ofList (text.toList.takeWhile isBlank),
    String.ofList (inner.rtakeWhile isBlank), ?_, ?_, ?_⟩, fun c hc => ?_, fun c hc => ?_⟩
  · apply String.toList_injective
    rw [String.toList_append, String.toList_append, String.toList_ofList, String.toList_ofList,
      List.append_assoc, ← hright, ← hleft]
  · rw [isBlankText_iff, String.toList_ofList]
    exact fun c => List.mem_takeWhile_imp
  · rw [isBlankText_iff, String.toList_ofList]
    exact fun c => List.mem_rtakeWhile_imp
  · have hh : inner.head? = some c := by
      rw [hright, List.head?_append, hc, Option.some_or]
    exact not_isBlank_of_head? hh
  · rw [htrim, List.rdropWhile, List.getLast?_reverse] at hc
    exact not_isBlank_of_head? hc

/-- Nothing else is between the blanks. -/
theorem Trims.eq_trim {text s : String} (h : Trims text s) : trim text = s := by
  obtain ⟨⟨front, back, rfl, hf, hb⟩, hhead, hlast⟩ := h
  rw [isBlankText_iff] at hf hb
  apply String.toList_injective
  rw [trim, String.toList_ofList, trimChars, String.toList_append, String.toList_append,
    List.append_assoc]
  by_cases hs : s.toList = []
  · have hall : (front.toList ++ (s.toList ++ back.toList)).dropWhile isBlank = [] := by
      rw [hs, List.nil_append, List.dropWhile_eq_nil_iff, List.forall_mem_append]
      exact ⟨hf, hb⟩
    rw [hall, hs]
    rfl
  · have hcut : (front.toList ++ (s.toList ++ back.toList)).dropWhile isBlank =
        s.toList ++ back.toList := by
      refine dropWhile_isBlank_append hf fun c hc => hhead c ?_
      rwa [List.head?_append_of_ne_nil _ hs] at hc
    have hcut' : (back.toList.reverse ++ s.toList.reverse).dropWhile isBlank =
        s.toList.reverse := by
      refine dropWhile_isBlank_append (fun c hc => hb c (List.mem_reverse.1 hc)) fun c hc => ?_
      exact hlast c (by rwa [List.head?_reverse] at hc)
    rw [hcut, List.reverse_append, hcut', List.reverse_reverse]

theorem trim_eq_empty_iff {text : String} : trim text = "" ↔ isBlankText text = true := by
  constructor
  · intro h
    obtain ⟨⟨front, back, ht, hf, hb⟩, -, -⟩ := trims_trim text
    rw [isBlankText_iff] at hf hb ⊢
    rw [ht, h, String.append_empty, String.toList_append, List.forall_mem_append]
    exact ⟨hf, hb⟩
  · intro h
    have ht : Trims text "" := ⟨⟨"", text, by simp, rfl, h⟩, by simp, by simp⟩
    exact ht.eq_trim

/-- A CR at the end of a line is trimmed with the blanks. -/
theorem trim_chomp (line : String) : trim (chomp line) = trim line := by
  obtain ⟨⟨front, back, ht, hf, hb⟩, hhead, hlast⟩ := trims_trim (chomp line)
  have h : Trims line (trim (chomp line)) := by
    refine ⟨?_, hhead, hlast⟩
    have hline := eq_chomp line
    split at hline
    · refine ⟨front, back ++ "\r", ?_, hf, ?_⟩
      · rw [← String.append_assoc, ← ht]
        exact hline
      · have hcr : isBlankText "\r" = true := by decide
        rw [isBlankText_iff] at hb hcr ⊢
        rw [String.toList_append, List.forall_mem_append]
        exact ⟨hb, hcr⟩
    · exact ⟨front, back, hline.trans ht, hf, hb⟩
  exact h.eq_trim.symm

theorem Trims.isLine {text s : String} (h : Trims text s) (ht : IsLine text) : IsLine s := by
  obtain ⟨⟨front, back, rfl, -, -⟩, -, -⟩ := h
  intro hn
  apply ht
  rw [String.toList_append, String.toList_append]
  exact List.mem_append_left _ (List.mem_append_right _ hn)

/-! ## The first line of a text -/

theorem head?_lines_append {front : String} (h : IsLine front) (rest : String) :
    (lines (front ++ "\n" ++ rest)).head? = some (chomp front) := by
  have ht : (front ++ "\n" ++ rest).toList = front.toList ++ '\n' :: rest.toList := by
    rw [String.toList_append, String.toList_append, List.append_assoc]
    rfl
  rw [lines, ht, linesFrom_append h, List.append_nil]
  simp [linesFrom, chomp]

theorem head?_lines_of_isLine {s : String} (h : IsLine s) (hne : s ≠ "") :
    (lines s).head? = some s := by
  have hs : s.toList ≠ [] := by simpa using hne
  have ht := linesFrom_append h [] []
  rw [List.append_nil, List.append_nil] at ht
  rw [lines, ht]
  simp [linesFrom, hs]

end Text

/-! ## The first line of some bytes -/

/-- The bytes in front of the first LF. -/
def firstLine (b : Bytes) : Bytes :=
  b.takeWhile (· ≠ 0x0A)

theorem lf_not_mem_firstLine (b : Bytes) : 0x0A ∉ firstLine b := by
  intro h
  have := List.mem_takeWhile_imp h
  simp at this

theorem firstLine_of_not_mem {b : Bytes} (h : 0x0A ∉ b) : firstLine b = b :=
  takeWhile_ne_of_not_mem h

/-- All bytes are the first line, or there is an LF behind it. -/
theorem firstLine_cases (b : Bytes) :
    b = firstLine b ∨ ∃ more, b = firstLine b ++ 0x0A :: more := by
  have hb : b = firstLine b ++ b.dropWhile (· ≠ 0x0A) := List.takeWhile_append_dropWhile.symm
  cases hd : b.dropWhile (· ≠ 0x0A) with
  | nil => exact Or.inl (by rw [hd, List.append_nil] at hb; exact hb)
  | cons x more =>
    have hx := List.head?_dropWhile_not (· ≠ 0x0A) b
    rw [hd] at hx
    have hx : x = 0x0A := by simpa using hx
    exact Or.inr ⟨more, by rw [hd, hx] at hb; exact hb⟩

theorem Utf8.isLine_lossy {b : Bytes} (h : 0x0A ∉ b) : Text.IsLine (lossy b) := by
  rw [Text.IsLine, lossy, String.toList_ofList]
  exact fun hm => h (mem_of_mem_lossyChars (x := 0x0A) (by decide) hm)

theorem Utf8.lossy_append_lf (b more : Bytes) :
    lossy (b ++ 0x0A :: more) = lossy b ++ "\n" ++ lossy more := by
  apply String.toList_injective
  rw [lossy, lossyChars_append_cons (by decide)]
  simp [lossy]
  rfl

/-- The first line of the text, trimmed, is the first line of the bytes, trimmed. -/
theorem Text.trim_head_lines (b : Bytes) :
    (lines (Utf8.lossy b)).head?.elim "" trim = trim (Utf8.lossy (firstLine b)) := by
  have hl := Utf8.isLine_lossy (lf_not_mem_firstLine b)
  have hb := firstLine_cases b
  generalize firstLine b = front at hl hb
  rcases hb with rfl | ⟨more, rfl⟩
  · by_cases he : Utf8.lossy b = ""
    · rw [he]
      decide
    · rw [head?_lines_of_isLine hl he, Option.elim_some]
  · rw [Utf8.lossy_append_lf, head?_lines_append hl, Option.elim_some, trim_chomp]

namespace Discovery

/-- The prefix is the first line of the bytes, read as text and trimmed. -/
theorem rootOf?_eq (stdout : Bytes) :
    rootOf? stdout =
      let root := Text.trim (Utf8.lossy (firstLine stdout))
      if root = "" then none else some (Utf8.encode root) := by
  rw [← Text.trim_head_lines, rootOf?]
  cases (Text.lines (Utf8.lossy stdout)).head? <;> rfl

theorem rootOf?_firstLine (stdout : Bytes) : rootOf? (firstLine stdout) = rootOf? stdout := by
  rw [rootOf?_eq, rootOf?_eq, firstLine_of_not_mem (lf_not_mem_firstLine stdout)]

theorem rootOf?_eq_none_iff (stdout : Bytes) :
    rootOf? stdout = none ↔ Text.isBlankText (Utf8.lossy (firstLine stdout)) = true := by
  rw [rootOf?_eq, ← Text.trim_eq_empty_iff]
  simp

/-- A prefix that is printed by itself is read off unchanged. -/
theorem rootOf?_encode {line root : String} (h : Text.Trims line root) (hl : Text.IsLine root)
    (hne : root ≠ "") : rootOf? (Utf8.encode root) = some (Utf8.encode root) := by
  have hlf : 0x0A ∉ Utf8.encode root := by
    rw [Utf8.mem_encode_iff (by decide)]
    exact hl
  have hself : Text.Trims root root := ⟨⟨"", "", by simp, rfl, rfl⟩, h.head, h.last⟩
  rw [rootOf?_eq, firstLine_of_not_mem hlf, Utf8.lossy_encode, hself.eq_trim]
  exact if_neg hne

end Discovery

end ScriptHost
