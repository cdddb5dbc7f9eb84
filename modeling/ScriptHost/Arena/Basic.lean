import ScriptHost.Event

/-!
# The string arena

The runtime keeps the addresses of the strings it is given, so their bytes stay where they are
until it has shut down. The arena lays them out one after another in one growing memory, each
followed by a zero byte, and gives them all back at once.

An address is an offset into that memory. What is interned later goes behind what is there, so
a handle reads the same bytes until the arena is released, and no two handles overlap.

**The allocator.** Each string is a block of its own that is never moved. The one memory stands for
an allocator of such blocks: every block is fresh and disjoint from those that are held, and stays
where it is until it is freed. Nothing depends on where the next block is put.
-/
namespace ScriptHost

/-- An interned string: the address of its first byte and its length without the zero byte.
mirrors `meta_sapi::arena::NativeStr` -/
structure StringHandle where
  address : Nat
  length : Nat
  deriving DecidableEq, Repr

/-- mirrors `meta_sapi::arena::StringArena` -/
structure Arena where
  memory : Bytes := []
  /-- The strings in `memory`. -/
  count : Nat := 0
  /-- The bytes ever handed out; a release does not take them back. -/
  bytesAllocated : Nat := 0
  isReleased : Bool := false
  deriving DecidableEq, Repr

namespace Arena

/-- mirrors `meta_sapi::arena::StringArena::intern` -/
def intern (a : Arena) (text : String) : Except Error StringHandle × Arena :=
  let bytes := Utf8.encode text
  if a.isReleased then (.error .released, a)
  else match bytes.findIdx? (· = 0) with
    | some position => (.error (.interiorNul position), a)
    | none =>
      (.ok ⟨a.memory.length, bytes.length⟩,
        { a with
          memory := a.memory ++ (bytes ++ [0])
          count := a.count + 1
          bytesAllocated := a.bytesAllocated + bytes.length + 1 })

/-- The buffer of a string, its zero byte included. -/
def buffer (a : Arena) (s : StringHandle) : Bytes :=
  (a.memory.drop s.address).take (s.length + 1)

/-- What a reader of NUL-terminated strings gets at the address of `s`. -/
def read (a : Arena) (s : StringHandle) : Bytes :=
  untilNul (a.memory.drop s.address)

/-- Gives back every string; the first component tells how many.
mirrors `meta_sapi::arena::StringArena::release_all` -/
def release (a : Arena) : Nat × Arena :=
  (a.count, { a with memory := [], count := 0, isReleased := true })

/-- What `release` reports. -/
def releaseEvents (a : Arena) : List Event :=
  if 0 < a.count then [.releasedStrings a.count a.bytesAllocated] else []

/-- What an arena that goes out of use reports: it is released then, unless it was before.
mirrors the drop of `meta_sapi::arena::StringArena` -/
def dropEvents (a : Arena) : List Event :=
  if a.isReleased then [] else a.releaseEvents

end Arena

end ScriptHost
