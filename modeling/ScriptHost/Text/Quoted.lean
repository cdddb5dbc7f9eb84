import ScriptHost.Text.Grapheme.Table
import ScriptHost.Text.Printable

/-!
# Quoted text in messages

A text is shown between double quotes. Control characters with a short escape use it, the quote
and the backslash are escaped by a backslash, and a character that is not printable or would
combine with the one before it is shown by its code point.
-/
namespace ScriptHost.Text

def quoteChar (c : Char) : String :=
  match c with
  | '\x00' => "\\0"
  | '\t' => "\\t"
  | '\r' => "\\r"
  | '\n' => "\\n"
  | '"' => "\\\""
  | '\\' => "\\\\"
  | c =>
    if Grapheme.extending.contains c || !isPrintable c then
      "\\u\x7b" ++ String.ofList (Nat.toDigits 16 c.toNat) ++ "\x7d"
    else c.toString

def quote (s : String) : String :=
  "\"" ++ String.join (s.toList.map quoteChar) ++ "\""

end ScriptHost.Text
