/-!
# Lines

A line ends at LF. A CR just before that LF belongs to the line end, any other CR to the line.
Text after the last LF is a line too, unless it is empty; a CR at the end of such a line stays.
-/
namespace ScriptHost.Text

/-- The characters of a line that was collected back to front and ended by LF. -/
def closeLine : List Char → List Char
  | '\r' :: line => line.reverse
  | line => line.reverse

/-- The lines of `rest`, the first of which starts with `line`, collected back to front. -/
def linesFrom (line : List Char) : List Char → List (List Char)
  | [] => if line = [] then [] else [line.reverse]
  | c :: rest => if c = '\n' then closeLine line :: linesFrom [] rest else linesFrom (c :: line) rest

def lines (s : String) : List String :=
  (linesFrom [] s.toList).map String.ofList

/-- The entries one after another, each ended by LF. -/
def unlines (entries : List String) : String :=
  String.join (entries.map (· ++ "\n"))

end ScriptHost.Text
