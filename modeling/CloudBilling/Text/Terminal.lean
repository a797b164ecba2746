import CloudBilling.Text.Hex

/-!
# Text that is safe to show

A terminal takes some controls as the start of a command. In lines that people read at a
terminal these controls are spelled out by number, so that text from a document cannot move the
cursor, change colors or ring the bell. Controls that no command starts with stay, and nothing
else is escaped: the result tells what was meant, but it cannot be read back.
-/

namespace CloudBilling.Text

/-- A control below code point 128 with which a terminal is steered: bell, backspace, form feed,
escape and delete. -/
def isShortCommand (c : Char) : Bool :=
  c = '\x07' || c = '\x08' || c = '\x0c' || c = '\x1b' || c = '\x7f'

/-- A control from code point 128 on; each of them can start a command on its own. -/
def isLongCommand (c : Char) : Bool :=
  0x80 ≤ c.toNat && c.toNat ≤ 0x9f

/-- One character of a text that is safe to show. -/
def shownChar (c : Char) : List Char :=
  if isShortCommand c then '\\' :: 'x' :: hexByte c.toNat
  else if isLongCommand c then '\\' :: 'u' :: '\x7b' :: hexNumeral c.toNat ++ ['\x7d']
  else [c]

/-- A text with all controls spelled out that steer a terminal. -/
def shown (text : String) : String :=
  String.ofList (text.toList.flatMap shownChar)

end CloudBilling.Text
