import CloudBilling.Credential.Envelope
import CloudBilling.Inspect

/-!
# AWS credentials

An AWS credential is an access key, the service account of the place where the program runs, or
a role that is assumed with the help of another credential, which may itself be an assumed
role. Decoding goes by the shape of a map before it goes by its tag, and gives up below the
limit on nesting; encoding, validation and redaction have no limit.
-/

namespace CloudBilling.Aws

open Json (Value)

/-- The tag of an access key, and its name in messages. -/
def accessKeyTag : String := "AWSAccessKey"

/-- The tag of the service account. -/
def serviceAccountTag : String := "AWSServiceAccount"

/-- The tag of an assumed role. -/
def assumeRoleTag : String := "AWSAssumeRole"

/-- The name of an assumed role in messages. -/
def assumeRoleName : String := "AWSAssumeRoleConfigurer"

/-- A static key. -/
structure AccessKey where
  id : String
  secret : String
  deriving DecidableEq, Repr

/-- An AWS credential. -/
inductive Credential where
  | accessKey (key : AccessKey)
  | serviceAccount
  /-- `base` is the credential with which the role is assumed. -/
  | assumeRole (base : Option Credential) (roleArn : String)
  deriving Repr

namespace AccessKey

/-- Read an access key out of a map. -/
def ofMap (entries : Dict Value) : Outcome AccessKey :=
  Outcome.within accessKeyTag do
    let id ← Json.field .string entries "id"
    let secret ← Json.field .string entries "secret"
    return ⟨id, secret⟩

/-- The first problem of an access key. -/
def validate (key : AccessKey) : Outcome Unit := do
  requireField accessKeyTag "ID" key.id
  requireField accessKeyTag "Secret" key.secret

/-- The envelope of an access key. -/
def toEnvelope (key : AccessKey) : Envelope :=
  ⟨accessKeyTag, [("id", .string key.id), ("secret", .string key.secret)]⟩

/-- The key with its secret replaced, unless that is empty. -/
def redact (key : AccessKey) : AccessKey :=
  { key with secret := if key.secret = "" then "" else redacted }

/-- The inspection text of an access key. -/
def inspect (key : AccessKey) : String :=
  Inspect.record "AwsAccessKey"
    [("id", Inspect.text key.id), ("secret", Inspect.text redacted)]

end AccessKey

namespace Credential

/-- Decides whether two credentials are equal. -/
def decEq : (left right : Credential) → Decidable (left = right)
  | .accessKey left, .accessKey right => decidable_of_iff (left = right) (by simp)
  | .serviceAccount, .serviceAccount => isTrue rfl
  | .assumeRole none leftArn, .assumeRole none rightArn =>
      decidable_of_iff (leftArn = rightArn) (by simp)
  | .assumeRole (some left) leftArn, .assumeRole (some right) rightArn =>
      match decEq left right with
      | isTrue same => decidable_of_iff (leftArn = rightArn) (by simp [same])
      | isFalse differ => isFalse (by simp [differ])
  | .assumeRole none _, .assumeRole (some _) _ => isFalse (by simp)
  | .assumeRole (some _) _, .assumeRole none _ => isFalse (by simp)
  | .accessKey _, .serviceAccount | .accessKey _, .assumeRole _ _
  | .serviceAccount, .accessKey _ | .serviceAccount, .assumeRole _ _
  | .assumeRole _ _, .accessKey _ | .assumeRole _ _, .serviceAccount => isFalse (by simp)

instance : DecidableEq Credential := decEq

/-- The number of credentials nested inside a credential. -/
def height : Credential → Nat
  | .assumeRole (some base) _ => base.height + 1
  | _ => 0

/-- Read an assumed role out of a map, with a decoder for the credential inside it. -/
def roleOfMap (inner : Value → Decoder (Option Credential)) (entries : Dict Value) :
    Decoder Credential :=
  Attempt.within assumeRoleName do
    let roleArn ← Json.field .string entries "roleARN"
    match ← Json.optionalField .any entries "configurer" with
    | none => return .assumeRole none roleArn
    | some value =>
        let base ← inner value
        return .assumeRole base roleArn

/-- Read the values of an envelope with a given tag, with a decoder for a credential inside. -/
def ofTagged (inner : Value → Decoder (Option Credential)) (tag : String)
    (values : Dict Value) : Decoder Credential :=
  if tag = accessKeyTag then do return .accessKey (← AccessKey.ofMap values)
  else if tag = serviceAccountTag then return .serviceAccount
  else if tag = assumeRoleTag then roleOfMap inner values
  else .fail (.ofCause (.unrecognizedTag tag))

/-- Read a credential out of an untyped value, when so many levels of nesting may still be
entered. Null means none; an empty map is the service account. -/
def decodeWithin : (levels : Nat) → Value → Decoder (Option Credential)
  | 0, _ => .fail (Provider.tooDeep .aws)
  | _ + 1, .null => return none
  | levels + 1, value => do
      let entries ← (Json.asMap value).within (Provider.typeName .aws)
      if entries.isEmpty then
        logEvent .debug .aws "AWSConfigurer: empty configurer, using service account."
        return some .serviceAccount
      else if entries.has "roleARN" then
        return some (← roleOfMap (decodeWithin levels) entries)
      else if entries.has "id" then
        return some (.accessKey (← AccessKey.ofMap entries))
      else if entries.has "type" then
        let envelope ← Envelope.ofMap .aws entries
        envelope.resolve .aws (ofTagged (decodeWithin levels))
      else
        .fail ⟨[Provider.typeName .aws], .unrecognizedShape⟩

/-- Read a credential out of an untyped value that stands at a depth. -/
def decodeAt (depth : UInt64) (value : Value) : Decoder (Option Credential) :=
  decodeWithin (levelsAt depth) value

/-- Read the values of an envelope that stands at a depth. What is nested inside stands at the
next depth, and the depth after the greatest word is zero. -/
def decodeTagged (depth : UInt64) (tag : String) (values : Dict Value) : Decoder Credential :=
  ofTagged (decodeAt (depth + 1)) tag values

/-- The envelope of a credential. -/
def toEnvelope : Credential → Envelope
  | .accessKey key => key.toEnvelope
  | .serviceAccount => ⟨serviceAccountTag, []⟩
  | .assumeRole none roleArn =>
      ⟨assumeRoleTag, [("configurer", .null), ("roleARN", .string roleArn)]⟩
  | .assumeRole (some base) roleArn =>
      ⟨assumeRoleTag, [("configurer", base.toEnvelope.toValue), ("roleARN", .string roleArn)]⟩

/-- The first problem of a credential, from the innermost credential outwards. -/
def validate : Credential → Outcome Unit
  | .accessKey key => key.validate
  | .serviceAccount => .ok ()
  | .assumeRole none _ => .error (.missingField assumeRoleName "base configurer")
  | .assumeRole (some base) roleArn => do
      base.validate
      requireField assumeRoleName "roleARN" roleArn

/-- The credential with every secret in it replaced, unless that is empty. -/
def redact : Credential → Credential
  | .accessKey key => .accessKey key.redact
  | .serviceAccount => .serviceAccount
  | .assumeRole none roleArn => .assumeRole none roleArn
  | .assumeRole (some base) roleArn => .assumeRole (some base.redact) roleArn

/-- The name of a credential's variant. -/
def variantName : Credential → String
  | .accessKey _ => "AccessKey"
  | .serviceAccount => "ServiceAccount"
  | .assumeRole _ _ => "AssumeRole"

/-- Whether a credential is there and equal to another one. -/
def equals (credential : Credential) (other : Option Credential) : Bool :=
  other = some credential

/-- Whether two assumed roles are equal: their base credentials are both absent or equal, and so
are their names. -/
def rolesEqual (base : Option Credential) (roleArn : String) (otherBase : Option Credential)
    (otherArn : String) : Bool :=
  (match base with
    | some credential => credential.equals otherBase
    | none => otherBase.isNone) && roleArn = otherArn

/-- Whether two credentials of one variant are equal as that variant defines it; nothing for two
variants. -/
def variantEquals : Credential → Credential → Option Bool
  | .accessKey left, .accessKey right => some (left = right)
  | .serviceAccount, .serviceAccount => some true
  | .assumeRole base roleArn, .assumeRole otherBase otherArn =>
      some (rolesEqual base roleArn otherBase otherArn)
  | _, _ => none

/-- The inspection text of a credential. -/
def inspect : Credential → String
  | .accessKey key => Inspect.tagged "AccessKey" key.inspect
  | .serviceAccount => Inspect.tagged "ServiceAccount" "AwsServiceAccount"
  | .assumeRole none roleArn =>
      Inspect.tagged "AssumeRole" (Inspect.record "AwsAssumeRole"
        [("configurer", Inspect.optional none), ("role_arn", Inspect.text roleArn)])
  | .assumeRole (some base) roleArn =>
      Inspect.tagged "AssumeRole" (Inspect.record "AwsAssumeRole"
        [("configurer", Inspect.optional (some base.inspect)),
         ("role_arn", Inspect.text roleArn)])

end Credential

/-- Read a nested entry by shape, redact what it decodes to and put it into its envelope; nothing
if it does not decode to a credential. -/
def sanitizeByShape (nested : Value) : Logged Event (Option Value) := do
  let outcome ← (Credential.decodeAt 0 nested).settle
  return match outcome with
    | .ok (some credential) => some credential.redact.toEnvelope.toValue
    | _ => none

/-- Redact the secrets of an envelope. The credential nested in an assumed role is read in the
order in which decoding reads it: a tagged envelope is redacted in place, any other shape is
decoded first, and an entry that is neither is dropped with a warning, because its secrets
cannot be located. -/
def sanitize (envelope : Envelope) : Logged Event Envelope :=
  if envelope.tag = accessKeyTag then return envelope.redactEntry "secret"
  else if envelope.tag = assumeRoleTag then
    match found : envelope.values.get? "configurer" with
    | none | some .null => return envelope
    | some (.object entries) => do
        let clean ←
          if Envelope.isReadByTag .aws entries then
            match read : Envelope.ofMap .aws entries with
            | .ok nested =>
                have _smaller := Envelope.sizeOf_nested_lt found read
                if (Provider.tags .aws).contains nested.tag then
                  pure (some (← sanitize nested).toValue)
                else pure none
            | .error _ => pure none
          else sanitizeByShape (.object entries)
        putNested envelope clean
    | some _ => putNested envelope none
  else return envelope
termination_by sizeOf envelope.values
decreasing_by exact _smaller
where
  /-- Put the sanitized nested entry in place, or null and a warning if there is none. -/
  putNested (envelope : Envelope) (clean : Option Value) : Logged Event Envelope := do
    if clean.isNone then
      logEvent .warn .envelope (Envelope.dropMessage .aws "configurer")
    return { envelope with
      values := envelope.values.update "configurer" fun _ => clean.getD .null }

end CloudBilling.Aws
