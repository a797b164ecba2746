import CloudBilling.Text.Quoted

/-!
# Inspection texts

The one-line texts that show a value to a person who diagnoses the program: a name with named
fields in braces, a name with a value in parentheses, a list in brackets. Secrets never reach
these functions; the types that hold them show a fixed word instead.
-/

namespace CloudBilling.Inspect

/-- A name with named fields. -/
def record (name : String) (fields : List (String × String)) : String :=
  let inside := ", ".intercalate (fields.map fun field => field.1 ++ ": " ++ field.2)
  name ++ " \x7b " ++ inside ++ " \x7d"

/-- A name with named fields, of which some are not shown. -/
def openRecord (name : String) (fields : List (String × String)) : String :=
  let inside := fields.map fun field => field.1 ++ ": " ++ field.2 ++ ", "
  name ++ " \x7b " ++ String.join inside ++ ".. \x7d"

/-- A name with one value. -/
def tagged (name content : String) : String :=
  name ++ "(" ++ content ++ ")"

/-- A value that may be absent. -/
def optional : Option String → String
  | some content => tagged "Some" content
  | none => "None"

/-- A list of values. -/
def list (contents : List String) : String :=
  "[" ++ ", ".intercalate contents ++ "]"

/-- A text. -/
def text (content : String) : String :=
  Text.quoted content

/-- A text that may be absent. -/
def optionalText (content : Option String) : String :=
  optional (content.map text)

/-- A flag. -/
def flag : Bool → String
  | true => "true"
  | false => "false"

end CloudBilling.Inspect
