import CloudBilling.Json.Reader
import CloudBilling.Logged

/-!
# Typed readers of texts

A text is read as a typed object by decoding its first value. A value that does not decode is
reported before anything is known of the text behind it.
-/

namespace CloudBilling.Json

/-- Read a text with a decoder of values. -/
def readWith {α : Type} (decode : Value → Decoder α) (text : String) :
    Logged Event (Except Fault α) := do
  match readFirst text with
  | none => return .error .malformed
  | some (value, rest) =>
      match ← (decode value).settle with
      | .error failure => return .error (.unfit failure.message)
      | .ok content =>
          if (skipSpace rest).isEmpty then return .ok content else return .error .malformed

end CloudBilling.Json
