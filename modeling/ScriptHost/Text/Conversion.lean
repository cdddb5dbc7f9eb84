/-!
# Format conversions

A message that still holds a conversion was meant to be formatted with arguments. A conversion
is a percent sign and the character after it; two percent signs stand for one and are no
conversion, and neither is a percent sign that ends the message.
-/
namespace ScriptHost.Text

def hasConversionChars : List Char → Bool
  | '%' :: '%' :: rest => hasConversionChars rest
  | '%' :: _ :: _ => true
  | _ :: rest => hasConversionChars rest
  | [] => false

/-- mirrors `meta_sapi::adapter::has_format_arguments` -/
def hasConversion (message : String) : Bool :=
  hasConversionChars message.toList

end ScriptHost.Text
