import CloudBilling.Credential.Provider
import CloudBilling.Json.Field
import CloudBilling.Logged

/-!
# Envelopes

An envelope carries a credential between representations: a tag that names the kind of
credential, and a map of values whose shape that kind decides. Secrets in the values can be
located only by the tag.
-/

namespace CloudBilling

open Json (Value)

/-- The word that stands in for a secret. -/
def redacted : String := "REDACTED"

/-- How many credentials may stand inside one another below the outermost one. -/
def maxDepth : Nat := 8

/-- How many nested credentials may still be entered at a depth, the one at that depth included. -/
def levelsAt (depth : UInt64) : Nat :=
  maxDepth + 1 - depth.toNat

/-- The failure of a provider's credential that stands deeper than the limit. -/
def Provider.tooDeep (provider : Provider) : Failure :=
  ⟨[provider.typeName], .nestingTooDeep maxDepth⟩

/-- A tagged map of values. -/
structure Envelope where
  tag : String
  values : Dict Value
  deriving DecidableEq, Repr

namespace Envelope

/-- The envelope that carries nothing. -/
def empty : Envelope :=
  ⟨"", []⟩

/-- Read an envelope out of a map. -/
def ofMap (provider : Provider) (entries : Dict Value) : Outcome Envelope :=
  Outcome.within provider.envelopeName do
    let tag ← Json.field .string entries "type"
    let values ← Json.optionalField .map entries "values"
    return ⟨tag, values.getD []⟩

/-- Read an envelope out of an untyped value. -/
def decode (provider : Provider) (value : Value) : Outcome Envelope := do
  let entries ← (Json.asMap value).within provider.envelopeName
  ofMap provider entries

/-- The envelope as a value; empty values are left out. -/
def toValue (envelope : Envelope) : Value :=
  if envelope.values.isEmpty then .object [("type", .string envelope.tag)]
  else .object [("type", .string envelope.tag), ("values", .object envelope.values)]

/-- The envelope as a record, one field after the other; empty values are left out. -/
def written (envelope : Envelope) : Value :=
  .object <| ("type", .string envelope.tag) ::
    if envelope.values.isEmpty then [] else [("values", .object envelope.values)]

/-- The message about an envelope that could not be turned into a credential. -/
def conversionMessage (provider : Provider) (failure : Failure) : String :=
  if failure.cause.isUnrecognizedTag then
    s!"{provider.envelopeName}: ToConfigurer: {failure.message}"
  else
    s!"{provider.envelopeName}: ToConfigurer: failed to convert to {provider.typeName}: {failure.message}"

variable {γ : Type}

/-- The credential in an envelope. An empty tag means none. An unknown tag, or values that do not
decode, are logged and also give none; only the limit on nesting is a failure. -/
def resolve (provider : Provider) (decodeTagged : String → Dict Value → Decoder γ)
    (envelope : Envelope) : Decoder (Option γ) :=
  if envelope.tag = "" then pure none
  else
    let attempt := decodeTagged envelope.tag envelope.values
    match attempt.outcome with
    | .ok credential => ⟨.ok (some credential), attempt.notes⟩
    | .error failure =>
        if failure.cause.isNestingTooDeep then ⟨.error failure, attempt.notes⟩
        else
          ⟨.ok none,
            attempt.notes ++ [⟨.error, .envelope, conversionMessage provider failure⟩]⟩

/-- The credential in an envelope, where the limit on nesting is logged like every other
failure. -/
def open? (provider : Provider) (decodeTagged : String → Dict Value → Decoder γ)
    (envelope : Envelope) : Logged Event (Option γ) :=
  let attempt := envelope.resolve provider decodeTagged
  match attempt.outcome with
  | .ok credential => ⟨credential, attempt.notes⟩
  | .error failure =>
      ⟨none, attempt.notes ++ [⟨.error, .envelope, conversionMessage provider failure⟩]⟩

/-- A value with its content replaced; an empty value has no content. -/
def redactValue (value : Value) : Value :=
  if value.isEmpty then value else .string redacted

/-- Redact the entry under a key. -/
def redactEntry (key : String) (envelope : Envelope) : Envelope :=
  { envelope with values := envelope.values.update key redactValue }

/-- Whether a map is read by its tag rather than by the shape of its keys. -/
def isReadByTag (provider : Provider) (entries : Dict Value) : Bool :=
  entries.has "type" && !provider.shapeKeys.any fun key => entries.has key

/-- The warning about a nested entry whose secrets cannot be located. -/
def dropMessage (provider : Provider) (key : String) : String :=
  s!"{provider.envelopeName}: Sanitize: dropping undecodable nested '{key}' entry"

/-- The values of an envelope that was read out of a map are smaller than the map. -/
theorem sizeOf_values_lt {provider : Provider} {entries : Dict Value} {envelope : Envelope}
    (read : ofMap provider entries = .ok envelope) : sizeOf envelope.values < sizeOf entries := by
  unfold ofMap at read
  cases tagField : Json.field .string entries "type" with
  | error failure => simp [tagField, bind, Except.bind, Outcome.within] at read
  | ok tag =>
      have nonempty : entries ≠ [] := by
        rintro rfl
        simp [Json.field, Outcome.fail] at tagField
      have positive : 1 < sizeOf entries := by
        cases entries with
        | nil => exact absurd rfl nonempty
        | cons entry rest =>
            obtain ⟨name, value⟩ := entry
            simp only [List.cons.sizeOf_spec, Prod.mk.sizeOf_spec]
            omega
      cases valuesField : Json.optionalField .map entries "values" with
      | error failure =>
          simp [tagField, valuesField, bind, Except.bind, Outcome.within] at read
      | ok values =>
          simp only [tagField, valuesField, bind, Except.bind, pure, Except.pure,
            Outcome.within, Except.ok.injEq] at read
          subst read
          simp only [Json.optionalField, Json.field] at valuesField
          cases found : entries.get? "values" with
          | none =>
              simp only [found, Except.ok.injEq] at valuesField
              subst valuesField
              simpa using positive
          | some value =>
              have smaller := Json.sizeOf_lt_of_get? found
              rw [found] at valuesField
              cases value <;>
                simp [Json.Shape.map, Value.object?, Outcome.fail, Except.map] at valuesField
              · subst valuesField
                simpa using positive
              · subst valuesField
                simp only [Json.Value.object.sizeOf_spec] at smaller
                simp only [Option.getD_some]
                omega

/-- The values of an envelope that stands in an entry of a map are smaller than the map. -/
theorem sizeOf_nested_lt {provider : Provider} {values entries : Dict Value} {key : String}
    {envelope : Envelope} (found : values.get? key = some (.object entries))
    (read : ofMap provider entries = .ok envelope) : sizeOf envelope.values < sizeOf values := by
  have outer := Json.sizeOf_lt_of_get? found
  have inner := sizeOf_values_lt read
  simp only [Value.object.sizeOf_spec] at outer
  omega

end Envelope

end CloudBilling
