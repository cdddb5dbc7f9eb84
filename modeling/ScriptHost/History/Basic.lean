import ScriptHost.Beside
import ScriptHost.Event
import ScriptHost.FileSystem.File
import ScriptHost.Text.Lines

/-!
# Line history

One entry per line, read at start and written at the end. A file that was read is replaced
by one with every entry. A file that could not be read is kept as it is and only gains the new
entries; the first of them starts a line of its own.
-/
namespace ScriptHost

/-- How a save treats the file.
mirrors `meta_services::history::Persistence` -/
inductive SaveMode where
  | replace
  /-- Only entries are added, and this many have been. -/
  | extend (saved : Nat)
  deriving DecidableEq, Repr

/-- mirrors `meta_services::history::History` -/
structure History where
  path : Bytes
  entries : List String
  mode : SaveMode
  deriving DecidableEq, Repr

namespace History

def empty (path : Bytes) : History :=
  ⟨path, [], .replace⟩

/-- The history in the file at `path`; a missing file is an empty history.
mirrors `meta_services::history::History::load` -/
def load (fs : FileSystem) (path : Bytes) : Except Error History × List Event :=
  match fs.readText path with
  | .error .notFound => (.ok (empty path), [])
  | .error cause => (.error (.read path cause), [])
  | .ok text =>
    let entries := Text.lines text
    (.ok ⟨path, entries, .replace⟩, [.loadedHistory path entries.length])

/-- Like `load`, but a file that cannot be read gives an empty history that will be added to it.
mirrors `meta_services::history::History::load_or_preserve` -/
def resume (fs : FileSystem) (path : Bytes) : History × List Event :=
  match load fs path with
  | (.ok history, events) => (history, events)
  | (.error cause, events) =>
    (⟨path, [], .extend 0⟩, events ++ [.historyUnreadable cause])

/-- mirrors `meta_services::history::History::add` -/
def add (h : History) (line : String) : History :=
  { h with entries := h.entries ++ [line] }

/-- What has to be written between the present content and a new line. -/
def lineBreak (content : Bytes) : Bytes :=
  if content = [] || content.getLast? = some 0x0A then [] else [0x0A]

/-- What a save makes of the content of the file, if it opens the file at all.
mirrors `meta_services::history::History::rewrite` and `append` -/
def change? (h : History) : Option (Bytes → Bytes) :=
  match h.mode with
  | .replace => some fun _ => Utf8.encode (Text.unlines h.entries)
  | .extend saved =>
    let fresh := h.entries.drop saved
    if fresh = [] then none
    else some fun content => content ++ (lineBreak content ++ Utf8.encode (Text.unlines fresh))

/-- The files after the entries have been written. -/
def store (h : History) (fs : FileSystem) : Except Fault FileSystem :=
  match h.change? with
  | some change => fs.modify h.path change
  | none => .ok fs

/-- Every entry is in the file now. -/
def markSaved (h : History) : History :=
  match h.mode with
  | .replace => h
  | .extend _ => { h with mode := .extend h.entries.length }

/-- Writes the entries; a failed save changes neither the history nor the files.
mirrors `meta_services::history::History::save` -/
def save (h : History) (fs : FileSystem) : Except Error Unit × History × FileSystem :=
  match h.store fs with
  | .ok fs => (.ok (), h.markSaved, fs)
  | .error cause => (.error (.write h.path cause), h, fs)

/-- Equal paths, entries and mode. -/
def same (h g : History) : Bool :=
  Path.same h.path g.path && h.entries = g.entries && h.mode = g.mode

/-- mirrors `meta_services::history::history_path_for` -/
def pathFor (exe : Bytes) (suffix : String) : Bytes :=
  besideExecutable exe suffix

end History

end ScriptHost
