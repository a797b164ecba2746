import CloudBilling.Text.Hex
import CloudBilling.Text.Unprintable

/-!
# Quoted text

Text between double quotes as diagnostics show it: the quote, the backslash and the usual
controls take a backslash, every other character without a glyph is given by its number in
braces, and all else stands for itself.
-/

namespace CloudBilling.Text

/-- One character inside double quotes. -/
def quotedChar (c : Char) : List Char :=
  if c = '"' then ['\\', '"']
  else if c = '\\' then ['\\', '\\']
  else if c = '\n' then ['\\', 'n']
  else if c = '\r' then ['\\', 'r']
  else if c = '\t' then ['\\', 't']
  else if c = '\x00' then ['\\', '0']
  else if unprintable c then '\\' :: 'u' :: '\x7b' :: hexNumeral c.toNat ++ ['\x7d']
  else [c]

/-- A text in double quotes. -/
def quoted (text : String) : String :=
  String.ofList ('"' :: text.toList.flatMap quotedChar ++ ['"'])

end CloudBilling.Text
