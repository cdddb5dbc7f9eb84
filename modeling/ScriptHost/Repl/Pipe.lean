import ScriptHost.Repl.Basic
import ScriptHost.Text.Grapheme

/-!
# A line editor on a pipe

Stands for a line editor whose input is no terminal. It reads as far as the next LF, drops that and
a CR before it, and lets every backspace take away the cluster before it. Bytes that are not UTF-8
make a reading that failed; they count as read.
-/
namespace ScriptHost

namespace Reading

/-- The stretches of a stream up to and including each LF, the first of which starts with the
bytes `back`, collected back to front. -/
def stretchesFrom (back : Bytes) : Bytes → List Bytes
  | [] => if back = [] then [] else [back.reverse]
  | b :: rest =>
    if b = 0x0A then (b :: back).reverse :: stretchesFrom [] rest
    else stretchesFrom (b :: back) rest

/-- The characters of a stretch without the line end. -/
def withoutLineEnd (cs : List Char) : List Char :=
  match cs.reverse with
  | '\n' :: '\r' :: back => back.reverse
  | '\n' :: back => back.reverse
  | back => back.reverse

def notTextReason : String := "stream did not contain valid UTF-8"

def ofStretch (bytes : Bytes) : Reading :=
  match Utf8.decode? bytes with
  | none => .failed notTextReason
  | some text =>
    .line (Text.Grapheme.eraseBackspaced (String.ofList (withoutLineEnd text.toList)))

/-- mirrors `meta_repl::line_source::EditorSource` -/
def ofPipe (input : Bytes) : List Reading :=
  (stretchesFrom [] input).map ofStretch

end Reading

/-- Whether the line editor takes the terminal for one without editing, and so writes the prompt
even if its input is no terminal. -/
def isPlainTerminal (term : String) : Bool :=
  ["dumb", "cons25", "emacs"].contains term.toLower

end ScriptHost
