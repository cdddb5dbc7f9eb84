import Mathlib
import ScriptHost.Proofs.IniLines

/-!
# Reading an ini block back

The runtime is given the options as a text. No two of them may be glued together or lost in it, so
a reader gets back what was written.

**The reader (`ofBlock?`).** It takes the first five lines for the options, each with its key and
a decimal in the range of its field, and all further lines for extra ones.

**Results.**
* `valueOf?_append`, `flagOf?_flag`, `uint32Of?_toString`, `int64Of?_toString`: a line and each kind
  of value are read back.
* `ofBlock?_render`: the reader gets back the options and the extra lines.
* `render_determines`: which settings write the same block.
-/
namespace ScriptHost.RuntimeOptions

/-- The value in a line `key=value`. -/
def valueOf? (key line : String) : Option String :=
  (line.toList.dropPrefix? (key ++ "=").toList).map String.ofList

def flagOf? (value : String) : Option Bool :=
  value.toNat?.bind fun n => if n = 0 then some false else if n = 1 then some true else none

def uint32Of? (value : String) : Option UInt32 :=
  value.toNat?.bind fun n => if n < 2 ^ 32 then some (UInt32.ofNat n) else none

def int64Of? (value : String) : Option Int64 :=
  value.toInt?.bind fun n => if -2 ^ 63 ≤ n ∧ n < 2 ^ 63 then some (Int64.ofInt n) else none

/-- The options that a block sets, and its further lines as extra entries. -/
def ofBlock? (block : String) : Option RuntimeOptions :=
  match (Text.stretches block).dropLast with
  | l₁ :: l₂ :: l₃ :: l₄ :: l₅ :: extra => do
    let htmlErrors ← (valueOf? "html_errors" l₁).bind flagOf?
    let implicitFlush ← (valueOf? "implicit_flush" l₂).bind flagOf?
    let outputBuffering ← (valueOf? "output_buffering" l₃).bind uint32Of?
    let maxExecutionTime ← (valueOf? "max_execution_time" l₄).bind uint32Of?
    let maxInputTime ← (valueOf? "max_input_time" l₅).bind int64Of?
    some { htmlErrors, implicitFlush, outputBuffering, maxExecutionTime, maxInputTime, extra }
  | _ => none

theorem valueOf?_append (key value : String) : valueOf? key (key ++ "=" ++ value) = some value := by
  have h : (key ++ "=" ++ value).toList.dropPrefix? (key ++ "=").toList = some value.toList := by
    rw [List.dropPrefix?_eq_some_iff]
    exact ⟨_, String.toList_append, beq_self_eq_true _⟩
  rw [valueOf?, h, Option.map_some, String.ofList_toList]

theorem flagOf?_flag (b : Bool) : flagOf? (flag b) = some b := by
  cases b
  · have h : (flag false).toNat? = some 0 := Nat.toNat?_repr 0
    simp [flagOf?, h]
  · have h : (flag true).toNat? = some 1 := Nat.toNat?_repr 1
    simp [flagOf?, h]

theorem uint32Of?_toString (n : UInt32) : uint32Of? (toString n.toNat) = some n := by
  have h : (toString n.toNat).toNat? = some n.toNat := Nat.toNat?_repr n.toNat
  have hlt : n.toNat < 2 ^ 32 := n.toNat_lt
  rw [uint32Of?, h, Option.bind_some, if_pos hlt, UInt32.ofNat_toNat]

theorem int64Of?_toString (n : Int64) : int64Of? (toString n.toInt) = some n := by
  have h : (toString n.toInt).toInt? = some n.toInt := by
    rw [Int.toString_eq_repr, Int.toInt?_repr]
  have hle : -2 ^ 63 ≤ n.toInt := n.le_toInt
  have hlt : n.toInt < 2 ^ 63 := n.toInt_lt
  rw [int64Of?, h, Option.bind_some, if_pos ⟨hle, hlt⟩, Int64.ofInt_toInt]

/-- The reader gets back every option, and the extra lines one by one. -/
theorem ofBlock?_render (o : RuntimeOptions) :
    ofBlock? o.render = some { o with extra := o.extraLines } := by
  have h₁ : valueOf? "html_errors" ("html_errors=" ++ flag o.htmlErrors) = _ :=
    valueOf?_append "html_errors" _
  have h₂ : valueOf? "implicit_flush" ("implicit_flush=" ++ flag o.implicitFlush) = _ :=
    valueOf?_append "implicit_flush" _
  have h₃ : valueOf? "output_buffering"
      ("output_buffering=" ++ toString o.outputBuffering.toNat) = _ :=
    valueOf?_append "output_buffering" _
  have h₄ : valueOf? "max_execution_time"
      ("max_execution_time=" ++ toString o.maxExecutionTime.toNat) = _ :=
    valueOf?_append "max_execution_time" _
  have h₅ : valueOf? "max_input_time" ("max_input_time=" ++ toString o.maxInputTime.toInt) = _ :=
    valueOf?_append "max_input_time" _
  unfold ofBlock?
  rw [stretches_render, List.dropLast_concat]
  simp only [optionLines, List.cons_append, List.nil_append, h₁, h₂, h₃, h₄, h₅, Option.bind_some,
    flagOf?_flag, uint32Of?_toString, int64Of?_toString]
  rfl

/-- Blocks are equal exactly when the reader gets the same from both. -/
theorem render_eq_iff (a b : RuntimeOptions) :
    a.render = b.render ↔
      ({ a with extra := a.extraLines } : RuntimeOptions) = { b with extra := b.extraLines } := by
  constructor
  · intro h
    have := congrArg ofBlock? h
    rwa [ofBlock?_render, ofBlock?_render, Option.some_inj] at this
  · intro h
    obtain ⟨h₁, h₂, h₃, h₄, h₅, h₆⟩ := RuntimeOptions.mk.inj h
    rw [render_eq_unlines, render_eq_unlines, optionLines, optionLines, h₁, h₂, h₃, h₄, h₅, h₆]

/-- **The block determines the options.** Two settings write the same block exactly when their five
options are equal and their extra entries, stripped of the LFs behind them and cut at the others,
are the same lines one after another. Every block is the five option lines in order and then the
extra lines, each ended by LF, and a reader of these lines gets back every option in the whole
range of its type. -/
theorem render_determines (a b : RuntimeOptions) :
    (a.render = b.render ↔
      a.htmlErrors = b.htmlErrors ∧ a.implicitFlush = b.implicitFlush ∧
        a.outputBuffering = b.outputBuffering ∧ a.maxExecutionTime = b.maxExecutionTime ∧
        a.maxInputTime = b.maxInputTime ∧ a.extraLines = b.extraLines) ∧
      Text.stretches a.render =
        ["html_errors=" ++ flag a.htmlErrors,
          "implicit_flush=" ++ flag a.implicitFlush,
          "output_buffering=" ++ toString a.outputBuffering.toNat,
          "max_execution_time=" ++ toString a.maxExecutionTime.toNat,
          "max_input_time=" ++ toString a.maxInputTime.toInt] ++ a.extraLines ++ [""] ∧
      ofBlock? a.render = some { a with extra := a.extraLines } := by
  refine ⟨?_, stretches_render a, ofBlock?_render a⟩
  rw [render_eq_iff, RuntimeOptions.mk.injEq]

/-- Entries with LFs inside and behind, and two that are nothing else. -/
example : extraLines { extra := ["a\n\nb\n\n", "", "\n\n"] } = ["a", "", "b", "", ""] := by
  decide

end ScriptHost.RuntimeOptions
