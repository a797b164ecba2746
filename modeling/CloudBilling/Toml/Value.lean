/-!
# TOML values

The values of a settings document. Numbers and moments are kept as they were written, because
no setting is one; what they look like still decides whether a document can be read.
-/

namespace CloudBilling.Toml

/-- A TOML value. -/
inductive Value where
  | text (content : String)
  | boolean (flag : Bool)
  | integer (value : Int)
  | float (numeral : String)
  /-- A date, a time, or both. -/
  | moment (written : String)
  | array (elements : List Value)
  | table (entries : List (String × Value))
  deriving Repr, Inhabited

end CloudBilling.Toml
