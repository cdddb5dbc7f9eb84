import ScriptHost.Event

/-!
# Standard streams

`writeAll` offers bytes to a writer until it has taken all of them. A writer may take a part
only, and then it is offered the rest; an interruption is answered by the same offer again; a
writer that takes nothing or fails is not asked again.

The console is what the host has written and reported so far.
-/
namespace ScriptHost

/-- A writer's answer to one offer. -/
inductive WriteAnswer where
  /-- It takes this many bytes, or all that are offered if those are fewer. -/
  | takes (count : Nat)
  | interrupted
  | failed
  deriving DecidableEq, Repr

/-- What became of some bytes: those that were taken, and those of each offer. -/
structure Written where
  taken : Bytes
  offers : List Bytes
  deriving DecidableEq, Repr

def Written.count (w : Written) : Nat :=
  w.taken.length

/-- Offers `bytes` to a writer that gives these answers, and takes everything after them.
mirrors `meta_sapi::adapter::write_output` -/
def writeAll (answers : List WriteAnswer) (bytes : Bytes) : Written :=
  if bytes = [] then ⟨[], []⟩
  else match answers with
    | [] => ⟨bytes, [bytes]⟩
    | .interrupted :: more =>
      let w := writeAll more bytes
      { w with offers := bytes :: w.offers }
    | .failed :: _ => ⟨[], [bytes]⟩
    | .takes 0 :: _ => ⟨[], [bytes]⟩
    | .takes (n + 1) :: more =>
      let w := writeAll more (bytes.drop (n + 1))
      ⟨bytes.take (n + 1) ++ w.taken, bytes :: w.offers⟩

/-- The two standard streams and the events. -/
structure Console where
  out : Bytes := []
  err : Bytes := []
  events : List Event := []
  deriving DecidableEq, Repr

namespace Console

/-- Standard output takes everything; the first component is the number of bytes taken.
mirrors `meta_sapi::adapter::ub_write` -/
def write (c : Console) (bytes : Bytes) : Nat × Console :=
  let w := writeAll [] bytes
  (w.count, { c with out := c.out ++ w.taken })

def print (c : Console) (text : String) : Console :=
  { c with out := c.out ++ Utf8.encode text }

def printError (c : Console) (text : String) : Console :=
  { c with err := c.err ++ Utf8.encode text }

def log (c : Console) (e : Event) : Console :=
  { c with events := c.events ++ [e] }

def logAll (c : Console) (es : List Event) : Console :=
  { c with events := c.events ++ es }

end Console

end ScriptHost
