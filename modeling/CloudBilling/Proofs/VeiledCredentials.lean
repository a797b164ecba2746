import CloudBilling.Proofs.RoundTrip
import CloudBilling.Proofs.Veil

/-!
# Decoding veiled credentials

A credential whose secrets are veiled is decoded to the credential that it was, with veiled secrets,
or it fails as it did before; and in both cases decoding logs the same.  No decoder looks into a
secret: it asks for its kind, and puts the text away.
-/

namespace CloudBilling

open Json (Value present?)
open Json.Value

namespace Attempt

variable {α β : Type}

theorem map_fail (image : α → β) (failure : Failure) :
    image <$> (fail failure : Decoder α) = fail failure := rfl

theorem some_map (image : α → α) (attempt : Decoder α) :
    (do return some (← image <$> attempt)) = Option.map image <$> (do return some (← attempt)) := by
  simp

end Attempt

open Attempt

variable {entries values : Dict Value}

/-! ## Envelopes -/

namespace Envelope

variable {γ : Type} {provider : Provider} {decodeTagged : String → Dict Value → Decoder γ}
variable {image : γ → γ}

/-- An envelope with the secrets in its values veiled. -/
def veil (envelope : Envelope) : Envelope :=
  { envelope with values := envelope.values.mapValues veilAt }

theorem ofMap_veiled (provider : Provider) (entries : Dict Value) :
    ofMap provider (entries.mapValues veilAt) = (ofMap provider entries).map veil := by
  have tag : Json.field .string (entries.mapValues veilAt) "type" =
      Json.field .string entries "type" :=
    Json.field_mapValues_of_fixed rfl
  have values : Json.optionalField .map (entries.mapValues veilAt) "values" =
      (Json.optionalField .map entries "values").map (Option.map (Dict.mapValues veilAt)) :=
    Json.optionalField_mapValues keepsKind_veil object?_veil
  rw [ofMap, ofMap, tag, values]
  cases Json.field .string entries "type" with
  | error failure => rfl
  | ok tag =>
      cases Json.optionalField .map entries "values" with
      | error failure => rfl
      | ok values => cases values <;> rfl

theorem tolerate_map (image : γ → γ) (attempt : Decoder γ) :
    tolerate provider (image <$> attempt) = Option.map image <$> tolerate provider attempt := by
  obtain ⟨outcome, notes⟩ := attempt
  cases outcome with
  | ok credential => rfl
  | error failure =>
      cases tooDeep : failure.cause.isNestingTooDeep with
      | true =>
          rw [tolerate_of_tooDeep rfl tooDeep, tolerate_of_tooDeep rfl tooDeep]
          rfl
      | false =>
          rw [tolerate_of_other rfl tooDeep, tolerate_of_other rfl tooDeep, notes_map, map_ok,
            Option.map_none]

variable (veiled : ∀ tag values,
  decodeTagged tag (values.mapValues veilAt) = image <$> decodeTagged tag values)

include veiled

theorem resolve_veil (envelope : Envelope) :
    envelope.veil.resolve provider decodeTagged =
      Option.map image <$> envelope.resolve provider decodeTagged := by
  by_cases empty : envelope.tag = ""
  · rw [resolve_of_empty_tag empty, resolve_of_empty_tag (by exact empty)]
    rfl
  · rw [resolve_of_tag empty, resolve_of_tag (by exact empty), ← tolerate_map, ← veiled]
    rfl

theorem readTagged_veiled (entries : Dict Value) :
    (do (← ofMap provider (entries.mapValues veilAt)).resolve provider decodeTagged : Decoder _) =
      Option.map image <$> (do (← ofMap provider entries).resolve provider decodeTagged) := by
  rw [ofMap_veiled]
  cases ofMap provider entries with
  | error failure => rfl
  | ok envelope => exact resolve_veil veiled envelope

end Envelope

/-! ## AWS -/

namespace Aws

theorem AccessKey.ofMap_veiled (entries : Dict Value) :
    ofMap (entries.mapValues veilAt) = (ofMap entries).map redact := by
  have id : Json.field .string (entries.mapValues veilAt) "id" =
      Json.field .string entries "id" :=
    Json.field_mapValues_of_fixed rfl
  have secret : Json.field .string (entries.mapValues veilAt) "secret" =
      (Json.field .string entries "secret").map veilText :=
    Json.field_mapValues keepsKind_veilSecret string?_veilSecret
  rw [ofMap, ofMap, id, secret]
  cases Json.field .string entries "id" with
  | error failure => rfl
  | ok id => cases Json.field .string entries "secret" <;> rfl

namespace Credential

variable {inner : Value → Decoder (Option Credential)}

theorem keyOfMap_veiled (entries : Dict Value) :
    keyOfMap (entries.mapValues veilAt) = redact <$> keyOfMap entries := by
  rw [keyOfMap, keyOfMap, AccessKey.ofMap_veiled]
  cases AccessKey.ofMap entries <;> rfl

theorem roleOver_map (roleArn : String) (base : Decoder (Option Credential)) :
    roleOver roleArn (Option.map redact <$> base) = redact <$> roleOver roleArn base := by
  rw [roleOver, roleOver, map_within]
  simp [redact_assumeRole]

section

variable (below : ∀ value, inner (veil value) = Option.map redact <$> inner value)

include below

theorem roleOfMap_veiled (entries : Dict Value) :
    roleOfMap inner (entries.mapValues veilAt) = redact <$> roleOfMap inner entries := by
  have named : Json.field .string (entries.mapValues veilAt) "roleARN" =
      Json.field .string entries "roleARN" :=
    Json.field_mapValues_of_fixed rfl
  have placed : present? (entries.mapValues veilAt) "configurer" =
      (present? entries "configurer").map veil :=
    Json.present?_mapValues keepsKind_veil
  cases arnField : Json.field .string entries "roleARN" with
  | error failure =>
      rw [roleOfMap_of_unnamed arnField, roleOfMap_of_unnamed (named.trans arnField)]
      rfl
  | ok roleArn =>
      have arn := Json.field_string_eq_ok_iff.mp arnField
      have veiledArn := Json.field_string_eq_ok_iff.mp (named.trans arnField)
      cases present : present? entries "configurer" with
      | none =>
          rw [present] at placed
          rw [roleOfMap_of_bare arn present, roleOfMap_of_bare veiledArn placed]
          rfl
      | some nested =>
          rw [present] at placed
          rw [roleOfMap_of_nested arn present, roleOfMap_of_nested veiledArn placed, below,
            roleOver_map]

theorem ofTagged_veiled (tag : String) (values : Dict Value) :
    ofTagged inner tag (values.mapValues veilAt) = redact <$> ofTagged inner tag values := by
  by_cases key : tag = accessKeyTag
  · rw [key, ofTagged_accessKey, ofTagged_accessKey, keyOfMap_veiled]
  · by_cases account : tag = serviceAccountTag
    · rw [account, ofTagged_serviceAccount, ofTagged_serviceAccount]
      rfl
    · by_cases role : tag = assumeRoleTag
      · rw [role, ofTagged_assumeRole, ofTagged_assumeRole, roleOfMap_veiled below]
      · rw [ofTagged_of_foreign key account role, ofTagged_of_foreign key account role]
        rfl

end

theorem decodeWithin_veiled_object {levels : Nat}
    (below : ∀ value,
      decodeWithin levels (veil value) = Option.map redact <$> decodeWithin levels value)
    (entries : Dict Value) :
    decodeWithin (levels + 1) (.object (entries.mapValues veilAt)) =
      Option.map redact <$> decodeWithin (levels + 1) (.object entries) := by
  cases arn : entries.has "roleARN" with
  | true =>
      rw [decodeWithin_of_roleArn arn, decodeWithin_of_roleArn (by rwa [Dict.has_mapValues]),
        roleOfMap_veiled below, some_map]
  | false =>
      have noArn : (entries.mapValues veilAt).has "roleARN" = false := by rwa [Dict.has_mapValues]
      cases id : entries.has "id" with
      | true =>
          rw [decodeWithin_of_id arn id, decodeWithin_of_id noArn (by rwa [Dict.has_mapValues]),
            keyOfMap_veiled, some_map]
      | false =>
          have noId : (entries.mapValues veilAt).has "id" = false := by rwa [Dict.has_mapValues]
          cases type : entries.has "type" with
          | true =>
              rw [decodeWithin_of_type arn id type,
                decodeWithin_of_type noArn noId (by rwa [Dict.has_mapValues]),
                Envelope.readTagged_veiled (ofTagged_veiled below)]
          | false =>
              by_cases empty : entries = []
              · subst empty
                rfl
              · rw [decodeWithin_of_unrecognized empty arn id type,
                  decodeWithin_of_unrecognized (by simpa [Dict.mapValues]) noArn noId
                    (by rwa [Dict.has_mapValues]), map_fail]

/-- At every level a veiled value is decoded to what the value is decoded to, with veiled secrets. -/
theorem decodeWithin_veil (levels : Nat) (value : Value) :
    decodeWithin levels (veil value) = Option.map redact <$> decodeWithin levels value := by
  induction levels generalizing value with
  | zero =>
      rw [decodeWithin_zero, decodeWithin_zero]
      rfl
  | succ levels ih =>
      cases value with
      | null => rfl
      | bool | number | string | array => rfl
      | object entries =>
          rw [veil_object]
          exact decodeWithin_veiled_object ih entries

end Credential

end Aws

/-! ## The other providers -/

namespace Azure

theorem AccessKey.ofMap_veiled (entries : Dict Value) :
    ofMap (entries.mapValues veilAt) = (ofMap entries).map redact := by
  have spelled : spelling (entries.mapValues veilAt) = spelling entries := by
    rw [spelling, spelling, Dict.has_mapValues]
  have secret : Json.field .string (entries.mapValues veilAt) (spelling entries) =
      (Json.field .string entries (spelling entries)).map veilText := by
    rw [spelling]
    split
    · exact Json.field_mapValues keepsKind_veilSecret string?_veilSecret
    · exact Json.field_mapValues keepsKind_veilSecret string?_veilSecret
  have account : Json.field .string (entries.mapValues veilAt) "account" =
      Json.field .string entries "account" :=
    Json.field_mapValues_of_fixed rfl
  rw [ofMap, ofMap, spelled, secret, account]
  cases Json.field .string entries (spelling entries) with
  | error failure => rfl
  | ok accessKey => cases Json.field .string entries "account" <;> rfl

namespace Credential

theorem ofTagged_veiled (tag : String) (values : Dict Value) :
    ofTagged tag (values.mapValues veilAt) = redact <$> ofTagged tag values := by
  rw [ofTagged.eq_def, ofTagged.eq_def, AccessKey.ofMap_veiled]
  split
  · cases AccessKey.ofMap values <;> rfl
  · rfl

theorem decodeAt_veil (depth : UInt64) (value : Value) :
    decodeAt depth (veil value) = Option.map redact <$> decodeAt depth value := by
  unfold decodeAt
  cases levelsAt depth with
  | zero => rfl
  | succ levels =>
      cases value with
      | null | bool | number | string | array => rfl
      | object entries =>
          rw [veil_object]
          simp only [Json.asMap, object?, Outcome.within_ok, liftM_ok, pure_bind,
            Dict.has_mapValues, AccessKey.ofMap_veiled, Envelope.readTagged_veiled ofTagged_veiled]
          split
          · cases AccessKey.ofMap entries <;> rfl
          · split <;> rfl

end Credential

end Azure

namespace Alibaba

theorem AccessKey.ofMap_veiled (entries : Dict Value) :
    ofMap (entries.mapValues veilAt) = (ofMap entries).map redact := by
  have id : Json.field .string (entries.mapValues veilAt) "id" =
      Json.field .string entries "id" :=
    Json.field_mapValues_of_fixed rfl
  have secret : Json.field .string (entries.mapValues veilAt) "secret" =
      (Json.field .string entries "secret").map veilText :=
    Json.field_mapValues keepsKind_veilSecret string?_veilSecret
  rw [ofMap, ofMap, id, secret]
  cases Json.field .string entries "id" with
  | error failure => rfl
  | ok id => cases Json.field .string entries "secret" <;> rfl

namespace Credential

theorem ofTagged_veiled (tag : String) (values : Dict Value) :
    ofTagged tag (values.mapValues veilAt) = redact <$> ofTagged tag values := by
  rw [ofTagged.eq_def, ofTagged.eq_def, AccessKey.ofMap_veiled]
  split
  · cases AccessKey.ofMap values <;> rfl
  · rfl

theorem decodeAt_veil (depth : UInt64) (value : Value) :
    decodeAt depth (veil value) = Option.map redact <$> decodeAt depth value := by
  unfold decodeAt
  cases levelsAt depth with
  | zero => rfl
  | succ levels =>
      cases value with
      | null | bool | number | string | array => rfl
      | object entries =>
          rw [veil_object]
          simp only [Json.asMap, object?, Outcome.within_ok, liftM_ok, pure_bind,
            Dict.has_mapValues, AccessKey.ofMap_veiled, Envelope.readTagged_veiled ofTagged_veiled]
          split
          · cases AccessKey.ofMap entries <;> rfl
          · split <;> rfl

end Credential

end Alibaba

namespace Gcp

namespace Key

/-- A key file with every text in it veiled. -/
def veil (key : Key) : Key :=
  ⟨key.entries.mapValues fun _ => veilText, Dict.ascending_mapValues key.ascending _⟩

theorem stringEntries_veiled (entries : Dict Value) :
    stringEntries (entries.mapValues fun _ => veilString) =
      (stringEntries entries).map (Dict.mapValues fun _ => veilText) := by
  induction entries with
  | nil => rfl
  | cons entry rest ih =>
      obtain ⟨name, value⟩ := entry
      cases value with
      | null | bool | number | array | object => rfl
      | string text =>
          rw [Dict.mapValues, List.map_cons, veilString, stringEntries, stringEntries]
          rw [Dict.mapValues] at ih
          rw [ih]
          cases stringEntries rest <;> rfl

theorem ofEntries_veiled (entries : List (String × String)) :
    ofEntries (Dict.mapValues (fun _ => veilText) entries) = (ofEntries entries).veil := by
  simp only [ofEntries, veil, Dict.ofEntries_mapValues]

theorem ofMap_veiled (entries : Dict Value) :
    ofMap (entries.mapValues veilAt) = (ofMap entries).map veil := by
  have content : Json.field .map (entries.mapValues veilAt) "key" =
      (Json.field .map entries "key").map (Dict.mapValues fun _ => veilString) :=
    Json.field_mapValues keepsKind_veilSecret object?_veilSecret
  rw [ofMap, ofMap, content]
  cases Json.field .map entries "key" with
  | error failure => rfl
  | ok content =>
      have texts := stringEntries_veiled content
      cases read : stringEntries content with
      | error failure =>
          rw [read] at texts
          simp only [Except.map, bind, Except.bind, texts, read]
          rfl
      | ok entries =>
          rw [read] at texts
          simp only [Except.map, bind, Except.bind, texts, read, pure, Except.pure,
            ofEntries_veiled]
          rfl

end Key

namespace Credential

/-- A credential with its secrets veiled. -/
def veil : Credential → Credential
  | .key file => .key file.veil
  | .workloadIdentity => .workloadIdentity

theorem ofTagged_veiled (tag : String) (values : Dict Value) :
    ofTagged tag (values.mapValues veilAt) = veil <$> ofTagged tag values := by
  rw [ofTagged.eq_def, ofTagged.eq_def, Key.ofMap_veiled]
  split
  · cases Key.ofMap values <;> rfl
  · split <;> rfl

theorem decodeAt_veil (depth : UInt64) (value : Value) :
    decodeAt depth value.veil = Option.map veil <$> decodeAt depth value := by
  unfold decodeAt
  cases levelsAt depth with
  | zero => rfl
  | succ levels =>
      cases value with
      | null | bool | number | string | array => rfl
      | object entries =>
          rw [veil_object]
          simp only [Json.asMap, object?, Outcome.within_ok, liftM_ok, pure_bind,
            Dict.has_mapValues, Dict.isEmpty_mapValues, Key.ofMap_veiled,
            Envelope.readTagged_veiled ofTagged_veiled]
          split
          · rfl
          · split
            · cases Key.ofMap entries <;> rfl
            · split <;> rfl

end Credential

end Gcp

/-! ## Every provider -/

namespace Credential

/-- A credential with its secrets veiled. -/
def veil : (provider : Provider) → Credential provider → Credential provider
  | .aws => Aws.Credential.redact
  | .azure => Azure.Credential.redact
  | .gcp => Gcp.Credential.veil
  | .alibaba => Alibaba.Credential.redact

/-- A veiled value is decoded to what the value is decoded to, with veiled secrets, or it fails alike;
and the same is logged. -/
theorem decodeAt_veil (provider : Provider) (depth : UInt64) (value : Value) :
    decodeAt provider depth value.veil =
      Option.map (veil provider) <$> decodeAt provider depth value := by
  cases provider with
  | aws => exact Aws.Credential.decodeWithin_veil (levelsAt depth) value
  | azure => exact Azure.Credential.decodeAt_veil depth value
  | gcp => exact Gcp.Credential.decodeAt_veil depth value
  | alibaba => exact Alibaba.Credential.decodeAt_veil depth value

end Credential

end CloudBilling
