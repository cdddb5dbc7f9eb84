import ScriptHost.Proofs.FileWrites
import ScriptHost.Proofs.FirstLine
import ScriptHost.Proofs.PathJoin

/-!
# What discovery makes of a command's answer

The command is a program of the user, so it may print any bytes and end in any way (`Answers`).

**The prefix.** Only a command that ends well has one, and only its first line counts: it is that
line without the blanks at its ends, and if nothing is left there is none. A command that prints
the prefix and nothing else has the same one.

**The library (`LiesBelow`).** It lies in `lib` below the prefix, whatever the prefix ends in.

**Results.**
* `installRoot_of_answers`, `findLibrary_result`: discovery is decided by the answer alone.
* `liesBelow_libraryBelow`: where the library is.
* `discovery_of_first_line`: what every answer leads to.
-/
namespace ScriptHost.Discovery

/-- On these files `command` can be run, prints `stdout` and ends so. -/
def Answers (fs : FileSystem) (searchPath : List Bytes) (command : String) (stdout : Bytes)
    (ending : Ending) : Prop :=
  (fs.run searchPath (Utf8.encode command) ["--prefix"]).1 = .ok ⟨stdout, ending⟩

/-- `library` is the library in the directory `lib` of `root`. -/
def LiesBelow (root library : Bytes) : Prop :=
  Path.fileName? library = some (Utf8.encode libraryName) ∧
    ∃ dir above, Path.parent? library = some dir ∧
      Path.fileName? dir = some (Utf8.encode "lib") ∧
      Path.parent? dir = some above ∧ Path.same above root = true

section
variable {fs : FileSystem} {searchPath : List Bytes} {command : String} {stdout : Bytes}
  {ending : Ending}

/-! ## The prefix -/

/-- A program answers what it prints, whether or not its arguments can be noted. -/
theorem answers_of_executable {program : Executable}
    (h : fs.findExecutable searchPath (Utf8.encode command) = .ok program) :
    Answers fs searchPath command program.stdout program.ending := by
  unfold Answers FileSystem.run
  rw [h]
  dsimp only
  split <;> rfl

theorem installRoot_of_answers (h : Answers fs searchPath command stdout ending) :
    (installRoot fs searchPath command).1 =
      if ending ≠ .exited 0 then .error (.failed command ending)
      else match rootOf? stdout with
        | some root => .ok root
        | none => .error (.emptyOutput command) := by
  unfold Answers at h
  unfold installRoot
  cases hr : fs.run searchPath (Utf8.encode command) ["--prefix"] with
  | mk result files =>
    rw [hr] at h
    dsimp only at h
    subst h
    dsimp only
    split
    · rfl
    · cases rootOf? stdout <;> rfl

theorem installRoot_of_failed (h : Answers fs searchPath command stdout ending)
    (he : ending ≠ .exited 0) :
    (installRoot fs searchPath command).1 = .error (.failed command ending) := by
  rw [installRoot_of_answers h, if_pos he]

theorem installRoot_of_root {root : Bytes} (h : Answers fs searchPath command stdout (.exited 0))
    (hr : rootOf? stdout = some root) : (installRoot fs searchPath command).1 = .ok root := by
  rw [installRoot_of_answers h, if_neg (by simp), hr]

theorem installRoot_of_no_root (h : Answers fs searchPath command stdout (.exited 0))
    (hr : rootOf? stdout = none) :
    (installRoot fs searchPath command).1 = .error (.emptyOutput command) := by
  rw [installRoot_of_answers h, if_neg (by simp), hr]

theorem installRoot_eq_empty_iff (h : Answers fs searchPath command stdout (.exited 0)) :
    (installRoot fs searchPath command).1 = .error (.emptyOutput command) ↔
      Text.isBlankText (Utf8.lossy (firstLine stdout)) = true := by
  rw [← rootOf?_eq_none_iff]
  cases hr : rootOf? stdout with
  | none => simp [installRoot_of_no_root h hr]
  | some root => simp [installRoot_of_root h hr]

/-! ## The library -/

/-- What is found and what is reported follow from the prefix. -/
theorem findLibrary_result (fs : FileSystem) (searchPath : List Bytes) (command : String) :
    ((findLibrary fs searchPath command).1, (findLibrary fs searchPath command).2.2) =
      match (installRoot fs searchPath command).1 with
      | .ok root => (.ok (libraryBelow root), [.locatedLibrary root (libraryBelow root)])
      | .error cause => (.error cause, []) := by
  unfold findLibrary
  cases installRoot fs searchPath command with
  | mk result files => cases result <;> rfl

theorem findLibrary_eq_error_iff (cause : Error) :
    (findLibrary fs searchPath command).1 = .error cause ↔
      (installRoot fs searchPath command).1 = .error cause := by
  have h := congrArg Prod.fst (findLibrary_result fs searchPath command)
  dsimp only at h
  rw [h]
  cases (installRoot fs searchPath command).1 <;> simp

theorem findLibrary_of_root {root : Bytes}
    (h : (installRoot fs searchPath command).1 = .ok root) :
    (findLibrary fs searchPath command).1 = .ok (libraryBelow root) := by
  have hr := congrArg Prod.fst (findLibrary_result fs searchPath command)
  rwa [h] at hr

theorem isPlain_lib : Path.IsPlain (Utf8.encode "lib") :=
  ⟨by decide, by decide, by decide, by decide⟩

theorem isPlain_libraryName : Path.IsPlain (Utf8.encode libraryName) :=
  ⟨by decide, by decide, by decide, by decide⟩

theorem liesBelow_libraryBelow (root : Bytes) : LiesBelow root (libraryBelow root) := by
  unfold libraryBelow
  refine ⟨Path.fileName?_join _ isPlain_libraryName, Path.join root (Utf8.encode "lib"),
    Path.trim root, ?_, Path.fileName?_join _ isPlain_lib, Path.parent?_join _ isPlain_lib, ?_⟩
  · rw [Path.parent?_join _ isPlain_libraryName, Path.trim_join _ isPlain_lib]
  · rw [Path.same, decide_eq_true_eq, Path.components_trim]

end

/-- **Discovery.** A command that does not end with status zero has failed, whatever it printed.
Of one that does only the first line counts: any command that is called the same and prints that
line alone leads to the same prefix, library, cause and report. There is no prefix exactly when
that line, read as text, is blank. Otherwise the prefix is the line without the blanks at its ends:
it is not empty and has no LF, a command that prints just this prefix has the same one, and the
library lies in `lib` below it. -/
theorem discovery_of_first_line {fs : FileSystem} {searchPath : List Bytes} {command : String}
    {stdout : Bytes} {ending : Ending} (h : Answers fs searchPath command stdout ending) :
    (ending ≠ .exited 0 →
      (installRoot fs searchPath command).1 = .error (.failed command ending) ∧
        (findLibrary fs searchPath command).1 = .error (.failed command ending)) ∧
    (ending = .exited 0 →
      let line := Utf8.lossy (firstLine stdout)
      (∀ files path, Answers files path command (firstLine stdout) (.exited 0) →
        (installRoot files path command).1 = (installRoot fs searchPath command).1 ∧
          (findLibrary files path command).1 = (findLibrary fs searchPath command).1 ∧
          (findLibrary files path command).2.2 = (findLibrary fs searchPath command).2.2) ∧
      ((installRoot fs searchPath command).1 = .error (.emptyOutput command) ↔
        Text.isBlankText line = true) ∧
      ((findLibrary fs searchPath command).1 = .error (.emptyOutput command) ↔
        Text.isBlankText line = true) ∧
      (Text.isBlankText line = false → ∃ root : String,
        (installRoot fs searchPath command).1 = .ok (Utf8.encode root) ∧
        Text.Trims line root ∧ root ≠ "" ∧ Text.IsLine root ∧
        (∀ files path other, Answers files path other (Utf8.encode root) (.exited 0) →
          (installRoot files path other).1 = .ok (Utf8.encode root)) ∧
        ∃ library, (findLibrary fs searchPath command).1 = .ok library ∧
          LiesBelow (Utf8.encode root) library)) := by
  refine ⟨fun he => ?_, ?_⟩
  · have hr := installRoot_of_failed h he
    exact ⟨hr, (findLibrary_eq_error_iff _).2 hr⟩
  rintro rfl line
  have hempty := installRoot_eq_empty_iff h
  refine ⟨fun files path ha => ?_, hempty, (findLibrary_eq_error_iff _).trans hempty, fun hb => ?_⟩
  · have hsame : (installRoot files path command).1 = (installRoot fs searchPath command).1 := by
      rw [installRoot_of_answers ha, installRoot_of_answers h, rootOf?_firstLine]
    have hfound := findLibrary_result files path command
    rw [hsame, ← findLibrary_result fs searchPath command, Prod.mk.injEq] at hfound
    exact ⟨hsame, hfound⟩
  · have ht : Text.Trims line (Text.trim line) := Text.trims_trim line
    have hne : Text.trim line ≠ "" := by
      rw [Ne, Text.trim_eq_empty_iff, hb]
      decide
    have hl := ht.isLine (Utf8.isLine_lossy (lf_not_mem_firstLine stdout))
    have hroot : rootOf? stdout = some (Utf8.encode (Text.trim line)) := by
      rw [rootOf?_eq]
      exact if_neg hne
    have hok := installRoot_of_root h hroot
    refine ⟨Text.trim line, hok, ht, hne, hl, fun files path other ha => ?_, _,
      findLibrary_of_root hok, liesBelow_libraryBelow _⟩
    exact installRoot_of_root ha (rootOf?_encode ht hl hne)

/-- A prefix between blanks that ends in a dot component, a CR, and a second line that is no text. -/
theorem discovery_of_first_line_dots :
    let stdout := Utf8.encode "\t../. \r" ++ [0x0A, 0xFF, 0x0A]
    let fs : FileSystem := ⟨[([[0x63]], .executable ⟨stdout, [], .exited 0⟩ true)], []⟩
    Answers fs [] "/c" stdout (.exited 0) ∧
      (installRoot fs [] "/c").1 = .ok (Utf8.encode "../.") ∧
      ∃ library, (findLibrary fs [] "/c").1 = .ok library ∧
        LiesBelow (Utf8.encode "../.") library := by
  intro stdout fs
  have hfind : fs.find (Utf8.encode "/c") = .ok (.executable ⟨stdout, [], .exited 0⟩ true) := by
    have hl : fs.locate false (Utf8.encode "/c") =
        .ok ([[0x63]], some (.executable ⟨stdout, [], .exited 0⟩ true)) :=
      FileSystem.locate_ok_iff.2
        ⟨by decide, .arrive ⟨by decide, by decide, by decide⟩ rfl ⟨by simp, by simp⟩⟩
    rw [FileSystem.find, hl]
  have ha : Answers fs [] "/c" stdout (.exited 0) := by
    have hp : fs.findExecutable [] (Utf8.encode "/c") = .ok ⟨stdout, [], .exited 0⟩ := by
      rw [FileSystem.findExecutable, if_neg (by decide), if_neg (by decide), if_pos (by decide),
        FileSystem.executable, hfind]
    exact answers_of_executable hp
  obtain ⟨-, hfirst⟩ := discovery_of_first_line ha
  obtain ⟨-, -, -, hroot⟩ := hfirst rfl
  have hline : Utf8.lossy (firstLine stdout) = "\t../. \r" := by
    have hf : firstLine stdout = Utf8.encode "\t../. \r" := by decide
    rw [hf, Utf8.lossy_encode]
  rw [hline] at hroot
  obtain ⟨root, hr, ht, -, -, -, library, hlib, hlies⟩ := hroot (by decide)
  have hroot : root = "../." := ht.eq_trim.symm.trans (by decide)
  subst hroot
  exact ⟨ha, hr, library, hlib, hlies⟩

end ScriptHost.Discovery
