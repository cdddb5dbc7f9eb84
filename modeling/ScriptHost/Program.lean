import ScriptHost.Library.Loader
import ScriptHost.Program.Basic
import ScriptHost.Repl.Pipe

/-!
# The program on a pipe

The program with a loader that finds libraries among its files, a line editor that reads a pipe,
and a runtime that changes no files.
-/
namespace ScriptHost.Program

variable {σ : Type}

def Outside.ofPipe (inv : Invocation) : Outside σ where
  exports? := Library.exports?
  readings := Reading.ofPipe inv.stdin
  showsPrompt := isPlainTerminal inv.term
  view files _ := files

def run (e : Engine σ) (s : σ) (inv : Invocation) : Outcome σ :=
  runIn (.ofPipe inv) e s inv

end ScriptHost.Program
