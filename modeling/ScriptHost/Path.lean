import ScriptHost.Text.Utf8

/-!
# Paths

A path is a byte string; its components are what it means. Repeated and trailing separators and
inner `.` components do not count, a leading `.` does, and nothing is looked up: `..` is a
component like any other.

`parent?` cuts a path without touching the bytes that remain, so that repeated separators inside
them survive.
-/
namespace ScriptHost.Path

def slash : UInt8 := 0x2F

def dot : UInt8 := 0x2E

inductive Component where
  | root
  | here
  | up
  | name (bytes : Bytes)
  deriving DecidableEq, Repr

/-- The stretches of `p` between separators. -/
def pieces : Bytes → List Bytes
  | [] => [[]]
  | c :: rest =>
    if c = slash then [] :: pieces rest
    else match pieces rest with
      | [] => [[c]]
      | piece :: more => (c :: piece) :: more

def isAbsolute (p : Bytes) : Bool :=
  p.head? = some slash

def endsInSlash (p : Bytes) : Bool :=
  p.getLast? = some slash

def innerComponent? (piece : Bytes) : Option Component :=
  if piece = [] || piece = [dot] then none
  else if piece = [dot, dot] then some .up
  else some (.name piece)

def components (p : Bytes) : List Component :=
  let inner := (pieces p).filterMap innerComponent?
  if isAbsolute p then .root :: inner
  else if (pieces p).head? = some [dot] then .here :: inner
  else inner

/-- Two paths are the same when their components are. -/
def same (p q : Bytes) : Bool :=
  components p = components q

/-- The path `right` below `left`; an absolute `right` stands alone. -/
def join (left right : Bytes) : Bytes :=
  if isAbsolute right then right
  else if left = [] || endsInSlash left then left ++ right
  else left ++ slash :: right

/-- A path, back to front, without the separators and `.` components at its end. -/
def trimBack : List UInt8 → List UInt8
  | [] => []
  | [c] => [c]
  | c :: d :: rest =>
    if c = slash || c = dot && d = slash then trimBack (d :: rest) else c :: d :: rest

/-- The path above the last component; none for the root and for the empty path. -/
def parent? (p : Bytes) : Option Bytes :=
  let q := trimBack p.reverse
  if q = [] || q = [slash] then none
  else some (trimBack (q.dropWhile (· ≠ slash))).reverse

def fileName? (p : Bytes) : Option Bytes :=
  match (components p).getLast? with
  | some (.name bytes) => some bytes
  | _ => none

/-- The part of a file name before its last dot. A dot in front starts no extension. -/
def stemOf (name : Bytes) : Bytes :=
  match name.reverse.dropWhile (· ≠ dot) with
  | [] => name
  | _ :: [] => name
  | _ :: front => front.reverse

def stem? (p : Bytes) : Option Bytes :=
  (fileName? p).map stemOf

end ScriptHost.Path
