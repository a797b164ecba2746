import CloudBilling.Proofs.Aws.Levels
import CloudBilling.Proofs.Printed
import CloudBilling.Proofs.Veil

/-!
# Redaction of foreign tags

Which entries of an envelope are secrets is told by its tag alone.  Redaction replaces just those,
so an envelope with a tag that the provider does not own keeps whatever it holds, under the names of
secrets too.  Such an envelope is kept where a configuration holds it.  Nested in a role it is not:
nothing is left of it there, at any level.
-/

namespace CloudBilling

open Json (Value)

/-! ## Secrets by tag -/

/-- The names under which an envelope with a tag has its secrets. -/
def Provider.secretsOf : Provider → String → List String
  | .aws, tag => if tag = Aws.accessKeyTag then ["secret"] else []
  | .azure, tag => if tag = Azure.accessKeyTag then ["accessKey", "accesskey"] else []
  | .gcp, tag => if tag = Gcp.accessKeyTag then ["key"] else []
  | .alibaba, tag => if tag = Alibaba.accessKeyTag then ["secret"] else []

/-- There is no secret under a name: no entry, an empty one, or the word that stands in for secrets.
-/
def Dict.SpentAt (values : Dict Value) (name : String) : Prop :=
  ∀ value, values.get? name = some value → value.isEmpty = true ∨ value = .string redacted

/-- There is no secret under any of the names under which credentials have secrets. -/
def Dict.Spent (values : Dict Value) : Prop :=
  ∀ name ∈ Value.secretNames, values.SpentAt name

variable {provider : Provider} {envelope : Envelope} {name tag : String}

/-- Credentials have their secrets under the names of some tag's secrets. -/
theorem mem_secretNames_iff :
    name ∈ Value.secretNames ↔
      ∃ (provider : Provider) (tag : String), name ∈ provider.secretsOf tag := by
  constructor
  · intro secret
    rw [Value.secretNames, List.mem_cons, List.mem_cons, List.mem_cons, List.mem_singleton]
      at secret
    rcases secret with rfl | rfl | rfl | rfl
    · exact ⟨.aws, Aws.accessKeyTag, by decide⟩
    · exact ⟨.azure, Azure.accessKeyTag, by decide⟩
    · exact ⟨.azure, Azure.accessKeyTag, by decide⟩
    · exact ⟨.gcp, Gcp.accessKeyTag, by decide⟩
  · rintro ⟨provider, tag, secret⟩
    have known : ∀ other ∈ provider.secretsOf tag, other ∈ Value.secretNames := by
      cases provider <;> rw [Provider.secretsOf] <;> split <;> decide
    exact known name secret

theorem secretsOf_of_foreign (foreign : tag ∉ provider.tags) : provider.secretsOf tag = [] := by
  have notKey {keyTag : String} (owned : keyTag ∈ provider.tags) : tag ≠ keyTag := by
    rintro rfl
    exact foreign owned
  cases provider <;> exact if_neg (notKey (by decide))

/-! ## Redaction by tag -/

namespace Envelope

/-- Redact the entries under some names. -/
def redactEntries (names : List String) (envelope : Envelope) : Envelope :=
  names.foldl (fun left name => left.redactEntry name) envelope

theorem get?_redactEntries (names : List String) (envelope : Envelope) (name : String) :
    (envelope.redactEntries names).values.get? name =
      if name ∈ names then (envelope.values.get? name).map redactValue
      else envelope.values.get? name := by
  induction names generalizing envelope with
  | nil => rfl
  | cons first rest ih =>
      have step := ih (envelope.redactEntry first)
      rw [redactEntry, Dict.get?_update] at step
      rw [redactEntries, List.foldl_cons]
      refine step.trans ?_
      by_cases here : name = first
      · -- A name may come again in the rest; what is replaced already stays as it is.
        have again : redactValue ∘ redactValue = redactValue := funext redactValue_redactValue
        simp [here, again]
      · simp [here]

/-- Where it redacts no nested entry, redaction replaces the secrets of the envelope's tag. -/
theorem value_sanitize (notRole : provider = .aws → envelope.tag ≠ Aws.assumeRoleTag) :
    (sanitize provider envelope).value =
      envelope.redactEntries (provider.secretsOf envelope.tag) := by
  cases provider with
  | aws =>
      rw [Provider.secretsOf]
      split
      · next key => exact congrArg Logged.value (Aws.sanitize_of_accessKey key)
      · next notKey => exact congrArg Logged.value (Aws.sanitize_of_other notKey (notRole rfl))
  | azure =>
      change Azure.sanitize envelope = _
      rw [Azure.sanitize, Provider.secretsOf]
      split <;> rfl
  | gcp =>
      change Gcp.sanitize envelope = _
      rw [Gcp.sanitize, Provider.secretsOf]
      split <;> rfl
  | alibaba =>
      change Alibaba.sanitize envelope = _
      rw [Alibaba.sanitize, Provider.secretsOf]
      split <;> rfl

/-- Apart from the entry nested in a role, redaction changes what is a secret by the envelope's tag,
and nothing else. -/
theorem get?_sanitize_of_not_nested
    (notNested : envelope.tag = Aws.assumeRoleTag → name ≠ "configurer") :
    (sanitize provider envelope).value.values.get? name =
      if name ∈ provider.secretsOf envelope.tag then (envelope.values.get? name).map redactValue
      else envelope.values.get? name := by
  by_cases role : provider = .aws ∧ envelope.tag = Aws.assumeRoleTag
  · obtain ⟨rfl, role⟩ := role
    have noSecrets : Provider.secretsOf .aws envelope.tag = [] := by
      rw [role]
      rfl
    rw [noSecrets, if_neg List.not_mem_nil]
    exact Aws.get?_sanitize_of_role role (notNested role)
  · rw [value_sanitize (not_and.mp role), get?_redactEntries]

/-- Under the name of a secret, redaction changes what is a secret by the envelope's tag, and
nothing else. -/
theorem get?_sanitize (secret : name ∈ Value.secretNames) :
    (sanitize provider envelope).value.values.get? name =
      if name ∈ provider.secretsOf envelope.tag then (envelope.values.get? name).map redactValue
      else envelope.values.get? name := by
  apply get?_sanitize_of_not_nested
  -- The nested entry stands under no name of a secret.
  rintro _ rfl
  exact absurd secret (by decide)

/-- What is replaced is no secret afterwards. -/
theorem spent_redactValue (value : Value) :
    (redactValue value).isEmpty = true ∨ redactValue value = .string redacted := by
  by_cases empty : value.isEmpty = true
  · rw [redactValue, if_pos empty]
    exact .inl empty
  · exact .inr (if_neg empty)

/-- After redaction there is no secret under any name, just if there was none before under the names
that are none of the tag's. -/
theorem spent_sanitize_iff :
    (sanitize provider envelope).value.values.Spent ↔
      ∀ name ∈ Value.secretNames, name ∉ provider.secretsOf envelope.tag →
        envelope.values.SpentAt name := by
  refine forall₂_congr fun name secret => ?_
  rw [Dict.SpentAt, get?_sanitize secret]
  by_cases own : name ∈ provider.secretsOf envelope.tag
  · rw [if_pos own]
    simp only [own, not_true, false_implies, iff_true]
    intro value found
    obtain ⟨old, _, rfl⟩ := Option.map_eq_some_iff.mp found
    exact spent_redactValue old
  · rw [if_neg own]
    simp only [own, not_false_iff, true_implies]
    rfl

/-- An envelope with a foreign tag has no secret after redaction just if it had none before. -/
theorem spent_sanitize_of_foreign (foreign : envelope.tag ∉ provider.tags) :
    (sanitize provider envelope).value.values.Spent ↔ envelope.values.Spent := by
  rw [spent_sanitize_iff, secretsOf_of_foreign foreign]
  simp only [List.not_mem_nil, not_false_iff, true_implies]
  rfl

end Envelope

/-! ## Foreign tags below roles -/

namespace Aws

open Aws.Credential

variable {value before after : Value} {envelope inner : Envelope} {steps levels : Nat}

/-- An envelope with a foreign tag is never read as a credential. -/
theorem ReadsAs.eq_none_of_foreign {found : Option Credential}
    (reads : ReadsAs levels value found) (read : tagged? value = some inner)
    (foreign : inner.tag ∉ Provider.tags .aws) : found = none := by
  rcases reads with ⟨_, none⟩ | decoded
  · exact none
  · cases found with
    | none => rfl
    | some credential =>
        cases levels with
        | zero =>
            rw [decodeWithin_zero] at decoded
            cases decoded
        | succ levels =>
            rw [decodeWithin_of_tagged read] at decoded
            obtain ⟨_, decodedInside⟩ := Envelope.outcome_resolve_eq_some_iff.mp decoded
            simp only [Provider.tags, List.mem_cons, List.not_mem_nil, or_false, not_or] at foreign
            rw [ofTagged_of_foreign foreign.1 foreign.2.1 foreign.2.2] at decodedInside
            cases decodedInside

/-- Nothing is left of an envelope with a foreign tag that is nested in a role, at any level. -/
theorem down_sanitize_of_foreign
    (reached : down nested? (steps + 1) envelope.toValue = some before)
    (reachedAfter : down nested? (steps + 1) (sanitize envelope).value.toValue = some after)
    (read : tagged? before = some inner) (foreign : inner.tag ∉ Provider.tags .aws) :
    after = .null := by
  have owned : envelope.tag ∈ Provider.tags .aws := by
    rw [role_of_down_toValue reached]
    decide
  rw [← replaced_of_owned (tagged?_toValue envelope) owned] at reachedAfter
  rcases down_replaced reached reachedAfter with ⟨_, same⟩ | ⟨_, levels, found, _, reads, same⟩
  · rw [same, replaced_of_foreign read foreign]
  · rw [same, reads.eq_none_of_foreign read foreign]
    rfl

end Aws

/-! ## Configurations in transit -/

namespace Integration.Transfer

open Aws (down nested? tagged?)

variable {kind : Kind} {transfer : Transfer kind} {envelope : Envelope}

/-- The envelope that a configuration holds stays in it, redacted.  If its tag is foreign, there is
no secret in it just if there was none before.  Nothing is left of an envelope with a foreign tag
that is nested in it. -/
theorem sanitize_foreign_tag (held : Record.credential kind transfer = some envelope) :
    let clean := (Envelope.sanitize kind.provider envelope).value
    Record.credential kind (sanitize kind transfer).value = some clean ∧
    (clean.values.Spent ↔
      ∀ name ∈ Value.secretNames, name ∉ kind.provider.secretsOf envelope.tag →
        envelope.values.SpentAt name) ∧
    (envelope.tag ∉ kind.provider.tags → (clean.values.Spent ↔ envelope.values.Spent)) ∧
    (kind.provider = .aws → ∀ (steps : Nat) (before after : Value) (inner : Envelope),
      down nested? (steps + 1) envelope.toValue = some before →
      down nested? (steps + 1) clean.toValue = some after →
      tagged? before = some inner → inner.tag ∉ Provider.tags .aws → after = .null) := by
  refine ⟨?_, Envelope.spent_sanitize_iff, Envelope.spent_sanitize_of_foreign, ?_⟩
  · rw [credential_sanitize, held, Option.map_some]
  · intro aws steps before after inner reached reachedAfter read foreign
    rw [aws] at reachedAfter
    exact Aws.down_sanitize_of_foreign reached reachedAfter read foreign

/-- A role over an envelope with another provider's tag, and an envelope with a misspelled tag that
holds no secret. -/
theorem sanitize_foreign_tag_below_role :
    let inner : Envelope := ⟨"AzureAccessKey", [("accessKey", .string "secret")]⟩
    let role : Envelope :=
      ⟨Aws.assumeRoleTag, [("configurer", inner.toValue), ("roleARN", .string "arn")]⟩
    let misspelled : Envelope := ⟨"AzureAccesKey", [("account", .string "account")]⟩
    let aws : Transfer .s3 := ⟨"bucket", "region", "account", some role⟩
    let azure : Transfer .azureStorage :=
      ⟨"subscription", "account", "container", "path", "cloud", some misspelled⟩
    let clean := (Aws.sanitize role).value
    (Record.credential .s3 aws = some role ∧
      down nested? 1 role.toValue = some inner.toValue ∧
      down nested? 1 clean.toValue = some .null ∧
      tagged? inner.toValue = some inner ∧ inner.tag ∉ Provider.tags .aws) ∧
    (Record.credential .azureStorage azure = some misspelled ∧
      misspelled.tag ∉ Provider.tags .azure ∧
      (Envelope.sanitize .azure misspelled).value.values.Spent) := by
  intro inner role misspelled aws azure clean
  have held : Record.credential .s3 aws = some role := rfl
  have reached : down nested? 1 role.toValue = some inner.toValue := rfl
  have read : tagged? inner.toValue = some inner := Aws.tagged?_toValue inner
  have foreign : inner.tag ∉ Provider.tags .aws := by decide
  have heldAlone : Record.credential .azureStorage azure = some misspelled := rfl
  have foreignAlone : misspelled.tag ∉ Provider.tags .azure := by decide
  have spent : misspelled.values.Spent := by
    intro name secret value found
    have absent : ∀ other ∈ Value.secretNames, misspelled.values.get? other = none := by decide
    rw [absent name secret] at found
    cases found
  have kept : Aws.replaced role.toValue = clean.toValue :=
    Aws.replaced_of_owned (Aws.tagged?_toValue role) (by decide)
  have reachedAfter : down nested? 1 clean.toValue = some (Aws.replaced inner.toValue) := by
    rw [← kept, down, Aws.nested?_replaced_of_tagged (Aws.tagged?_toValue role) rfl]
    rfl
  have dropped : Aws.replaced inner.toValue = .null :=
    (sanitize_foreign_tag held).2.2.2 rfl 0 _ _ inner reached reachedAfter read foreign
  exact ⟨⟨held, reached, dropped ▸ reachedAfter, read, foreign⟩, heldAlone, foreignAlone,
    ((sanitize_foreign_tag heldAlone).2.2.1 foreignAlone).mpr spent⟩

/-- An access key whose tag is misspelled keeps its secret. -/
theorem sanitize_keeps_secret_of_misspelled_tag :
    let key : Envelope := ⟨"AWSAcessKey", [("id", .string "AKIA"), ("secret", .string "hunter2")]⟩
    let transfer : Transfer .s3 := ⟨"bucket", "region", "account", some key⟩
    key.tag ∉ Provider.tags .aws ∧
      Record.credential .s3 (sanitize .s3 transfer).value = some key ∧ ¬ key.values.Spent := by
  intro key transfer
  refine ⟨by decide, ?_, ?_⟩
  · change some (Aws.sanitize key).value = some key
    rw [Aws.sanitize_of_other (by decide) (by decide)]
    rfl
  · intro spent
    have secret := spent "secret" (by decide) (.string "hunter2") rfl
    revert secret
    decide

end Integration.Transfer

end CloudBilling
