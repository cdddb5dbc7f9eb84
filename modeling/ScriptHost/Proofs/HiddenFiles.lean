import ScriptHost.History.Basic
import ScriptHost.Proofs.PathJoin
import ScriptHost.Proofs.TextBytes
import ScriptHost.Settings.File

/-!
# The hidden files beside an executable

The settings and the history are kept in hidden files next to the executable. Their names must be
names: if one could be `..` or hold a separator, a file would land in another directory, and if
two suffixes could give one path, one kind of data would overwrite the other.

**Suffixes (`IsSuffix`).** A suffix is not empty and holds no separator. The executable may be any
bytes: without a file name, with separators or dots at its end, with bytes that are no text.

**Results.**
* `isPlain_hiddenName`: a hidden name is one plain component.
* `same_besideExecutable_iff`: hidden files are the same only for the same suffix.
* `hidden_files_beside`: the name and the directory of a hidden file, and when two are the same.
-/
namespace ScriptHost

/-- A suffix that makes a name out of a stem. -/
structure IsSuffix (suffix : String) : Prop where
  ne_empty : suffix ≠ ""
  slash_not_mem : '/' ∉ suffix.toList

/-- The stem of the executable, as text. -/
def stemText (exe : Bytes) : String :=
  ((Path.fileName? exe).map fun name => Utf8.lossy (Path.stemOf name)).getD "php-meta-sapi"

section
variable {exe : Bytes} {suffix : String}

theorem hiddenName_eq (exe : Bytes) (suffix : String) :
    hiddenName exe suffix = "." ++ stemText exe ++ suffix := by
  unfold hiddenName stemText Path.stem?
  cases Path.fileName? exe <;> rfl

/-! ## The name -/

theorem stemText_ne_empty (exe : Bytes) : stemText exe ≠ "" := by
  unfold stemText
  cases hn : Path.fileName? exe with
  | none => decide
  | some name =>
    have hne := (Path.stemOf_spec (Path.isPlain_of_fileName? hn).ne_nil).2
    intro he
    have ht := congrArg String.toList he
    rw [Option.map_some, Option.getD_some, Utf8.lossy, String.toList_ofList] at ht
    exact Utf8.lossyChars_ne_nil hne ht

theorem slash_not_mem_stemText (exe : Bytes) : '/' ∉ (stemText exe).toList := by
  unfold stemText
  cases hn : Path.fileName? exe with
  | none => decide
  | some name =>
    have hp := Path.isPlain_of_fileName? hn
    intro hm
    rw [Option.map_some, Option.getD_some, Utf8.lossy, String.toList_ofList] at hm
    have hs : Path.slash ∈ Path.stemOf name := Utf8.mem_of_mem_lossyChars (by decide) hm
    exact hp.slash_not_mem ((Path.stemOf_spec hp.ne_nil).1.subset hs)

/-- A hidden name is no dot component, and no separator cuts it. -/
theorem isPlain_hiddenName (exe : Bytes) (h : IsSuffix suffix) :
    Path.IsPlain (Utf8.encode (hiddenName exe suffix)) := by
  have hlen : ∀ s : String, s ≠ "" → 0 < (Utf8.encode s).length := by
    intro s hs
    rw [List.length_pos_iff]
    intro he
    exact hs (Utf8.encode_injective he)
  have hdot : Utf8.encode "." = [Path.dot] := rfl
  have hthree : 3 ≤ (Utf8.encode (hiddenName exe suffix)).length := by
    have h₁ := hlen _ (stemText_ne_empty exe)
    have h₂ := hlen _ h.ne_empty
    rw [hiddenName_eq, Utf8.encode_append, Utf8.encode_append, hdot, List.length_append,
      List.length_append, List.length_singleton]
    omega
  have hne : ∀ short : Bytes, short.length < 3 → Utf8.encode (hiddenName exe suffix) ≠ short := by
    intro short hs he
    rw [he] at hthree
    omega
  refine ⟨hne _ (by decide), hne _ (by decide), hne _ (by decide), ?_⟩
  rw [Utf8.mem_encode_iff (by decide), hiddenName_eq]
  have hslash : Char.ofUInt8 Path.slash = '/' := rfl
  simp [hslash, slash_not_mem_stemText, h.slash_not_mem]

theorem hiddenName_inj {s t : String} : hiddenName exe s = hiddenName exe t ↔ s = t := by
  rw [hiddenName_eq, hiddenName_eq, String.append_right_inj]

/-! ## The path -/

theorem same_besideExecutable_iff (exe : Bytes) {s t : String} (hs : IsSuffix s) (ht : IsSuffix t) :
    Path.same (besideExecutable exe s) (besideExecutable exe t) = true ↔ s = t := by
  rw [Path.same, decide_eq_true_eq, besideExecutable, besideExecutable,
    Path.components_join _ (isPlain_hiddenName exe hs),
    Path.components_join _ (isPlain_hiddenName exe ht), List.append_cancel_left_eq,
    List.singleton_inj, Path.Component.name.injEq, Utf8.encode_injective.eq_iff, hiddenName_inj]

end

theorem isSuffix_settings : IsSuffix "-settings.json" :=
  ⟨by decide, by decide⟩

/-- **Hidden files.** Whatever the path of the executable, the hidden file for a suffix is named
by a dot, the stem of the executable as text, and the suffix; the stem is `php-meta-sapi` if the path
has no file name. It lies in the directory of the executable, and in the working directory if the path
has none. Two suffixes give the same path, byte for byte or by its components, only if they are the
same. So the history is kept in the settings file for one suffix only. -/
theorem hidden_files_beside (exe : Bytes) (suffix : String) (h : IsSuffix suffix) :
    Path.fileName? (besideExecutable exe suffix) =
        some (Utf8.encode ("." ++ stemText exe ++ suffix)) ∧
      (∃ dir, Path.parent? (besideExecutable exe suffix) = some dir ∧
        Path.same dir ((Path.parent? exe).getD [Path.dot]) = true) ∧
      (∀ other, IsSuffix other →
        (Path.same (besideExecutable exe suffix) (besideExecutable exe other) = true ↔
          suffix = other) ∧
        (besideExecutable exe suffix = besideExecutable exe other ↔ suffix = other)) ∧
      (Path.same (History.pathFor exe suffix) (Settings.pathFor exe) = true ↔
        suffix = "-settings.json") := by
  have hp := isPlain_hiddenName exe h
  refine ⟨?_, ?_, fun other ho => ?_, same_besideExecutable_iff exe h isSuffix_settings⟩
  · rw [besideExecutable, Path.fileName?_join _ hp, hiddenName_eq]
  · refine ⟨_, Path.parent?_join _ hp, ?_⟩
    rw [Path.same, decide_eq_true_eq, Path.components_trim]
  · have hsame := same_besideExecutable_iff exe h ho
    refine ⟨hsame, fun he => ?_, fun he => by rw [he]⟩
    rw [he] at hsame
    exact hsame.1 (by simp [Path.same])

/-- An executable whose name is two dots and a letter, so that its stem is a dot. -/
theorem hidden_files_beside_dots :
    let exe := Utf8.encode "/b//..a"
    IsSuffix "." ∧
      Path.fileName? (besideExecutable exe ".") = some (Utf8.encode "...") ∧
      (∃ dir, Path.parent? (besideExecutable exe ".") = some dir ∧
        Path.same dir (Utf8.encode "/b") = true) ∧
      Path.same (History.pathFor exe ".") (Settings.pathFor exe) = false := by
  intro exe
  have hs : IsSuffix "." := ⟨by decide, by decide⟩
  obtain ⟨hname, ⟨dir, hdir, hsame⟩, -, hsettings⟩ := hidden_files_beside exe "." hs
  have hstem : stemText exe = "." := by
    have hn : Path.fileName? exe = some (Utf8.encode "..a") := by decide
    have hd : Path.stemOf (Utf8.encode "..a") = Utf8.encode "." := by decide
    rw [stemText, hn, Option.map_some, Option.getD_some, hd, Utf8.lossy_encode]
  rw [hstem] at hname
  refine ⟨hs, hname, ⟨dir, hdir, hsame⟩, ?_⟩
  rw [Bool.eq_false_iff, Ne, hsettings]
  decide

end ScriptHost
