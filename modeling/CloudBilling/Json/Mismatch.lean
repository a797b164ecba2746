import CloudBilling.Failure
import CloudBilling.Json.Printer
import CloudBilling.Text.Quoted

/-!
# Values of an unwanted kind

A typed reader of JSON values reports what it found and what it wanted. Atoms are shown, and
containers only named.
-/

namespace CloudBilling.Json

/-- A value as a report shows what was found. -/
def Value.describe : Value → String
  | .null => "null"
  | .bool true => "boolean `true`"
  | .bool false => "boolean `false`"
  | .number (.integer value) => "integer `" ++ toString value ++ "`"
  | .number found => "floating point `" ++ String.ofList found.render ++ "`"
  | .string text => "string " ++ Text.quoted text
  | .array _ => "sequence"
  | .object _ => "map"

/-- The fault of a value that is not of the wanted kind. -/
def mismatch (found : Value) (wanted : String) : Fault :=
  .unfit ("invalid type: " ++ found.describe ++ ", expected " ++ wanted)

/-- A value where a text is wanted. -/
def textOf : Value → Except Fault String
  | .string text => .ok text
  | other => .error (mismatch other "a string")

end CloudBilling.Json
