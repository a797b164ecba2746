import CloudBilling.Proofs.Aws.Reading

/-!
# One level of AWS redaction

Redacting an envelope replaces one entry of its values at most, and which one its tag decides.  The
entry of an access key is replaced where it stands.  The entry nested in a role is replaced by what
redaction makes of the nested credential, and by null if that cannot be located.  Envelopes nest
only finitely deep, so a property of every envelope can be proved from the envelopes inside it.
-/

namespace CloudBilling.Aws

open Json (Value present?)

variable {envelope : Envelope} {entries : Dict Value} {nested : Value}

/-- What the entry nested in a role is replaced by; nothing if its secrets cannot be located. -/
def cleanNested : Value → Logged Event (Option Value)
  | .object entries =>
      if Envelope.isReadByTag .aws entries then
        match Envelope.ofMap .aws entries with
        | .ok inner =>
            if inner.tag ∈ Provider.tags .aws then
              (fun clean => some clean.toValue) <$> sanitize inner
            else pure none
        | .error _ => pure none
      else sanitizeByShape (.object entries)
  | _ => pure none

/-! ## The replacement of the nested entry -/

theorem cleanNested_of_not_map (notMap : nested.object? = none) :
    cleanNested nested = pure none := by
  cases nested with
  | object entries => cases notMap
  | null | bool | number | string | array => rfl

theorem cleanNested_of_shape (untagged : Envelope.isReadByTag .aws entries = false) :
    cleanNested (.object entries) = sanitizeByShape (.object entries) := by
  simp [cleanNested, untagged]

theorem cleanNested_of_malformed {failure : Failure}
    (tagged : Envelope.isReadByTag .aws entries = true)
    (malformed : Envelope.ofMap .aws entries = .error failure) :
    cleanNested (.object entries) = pure none := by
  simp [cleanNested, tagged, malformed]

theorem cleanNested_of_foreign {inner : Envelope}
    (tagged : Envelope.isReadByTag .aws entries = true)
    (read : Envelope.ofMap .aws entries = .ok inner) (foreign : inner.tag ∉ Provider.tags .aws) :
    cleanNested (.object entries) = pure none := by
  simp [cleanNested, tagged, read, foreign]

theorem cleanNested_of_owned {inner : Envelope}
    (tagged : Envelope.isReadByTag .aws entries = true)
    (read : Envelope.ofMap .aws entries = .ok inner) (owned : inner.tag ∈ Provider.tags .aws) :
    cleanNested (.object entries) =
      (fun clean => some clean.toValue) <$> sanitize inner := by
  simp [cleanNested, tagged, read, owned]

/-- The value of an envelope is replaced by the value of the redacted envelope. -/
theorem cleanNested_toValue (owned : envelope.tag ∈ Provider.tags .aws) :
    cleanNested envelope.toValue =
      (fun clean => some clean.toValue) <$> sanitize envelope := by
  rw [Envelope.toValue_eq_object]
  exact cleanNested_of_owned (Envelope.isReadByTag_entries .aws envelope)
    (Envelope.ofMap_entries .aws envelope) owned

/-! ## The envelope around it -/

theorem assumeRoleTag_ne_accessKeyTag : assumeRoleTag ≠ accessKeyTag := by
  decide

theorem sanitize_of_accessKey (key : envelope.tag = accessKeyTag) :
    sanitize envelope = pure (envelope.redactEntry "secret") := by
  rw [sanitize, if_pos key]

theorem sanitize_of_bare_role (role : envelope.tag = assumeRoleTag)
    (absent : present? envelope.values "configurer" = none) :
    sanitize envelope = pure envelope := by
  have notKey : envelope.tag ≠ accessKeyTag := role ▸ assumeRoleTag_ne_accessKeyTag
  have nothing := Json.present?_eq_none_iff.mp absent
  rw [sanitize, if_neg notKey, if_pos role]
  split
  · rfl
  · rfl
  · next found => simp [found] at nothing
  · next notNull _ found =>
      rw [found] at nothing
      rcases nothing with impossible | null
      · cases impossible
      · exact (notNull (Option.some.inj null)).elim

theorem sanitize_of_other (notKey : envelope.tag ≠ accessKeyTag)
    (notRole : envelope.tag ≠ assumeRoleTag) : sanitize envelope = pure envelope := by
  rw [sanitize, if_neg notKey, if_neg notRole]

theorem sanitize_of_foreign (foreign : envelope.tag ∉ Provider.tags .aws) :
    sanitize envelope = pure envelope := by
  simp only [Provider.tags, List.mem_cons, List.not_mem_nil, or_false, not_or] at foreign
  exact sanitize_of_other foreign.1 foreign.2.2

theorem sanitize_of_nested (role : envelope.tag = assumeRoleTag)
    (found : envelope.values.get? "configurer" = some nested) (present : nested ≠ .null) :
    sanitize envelope = cleanNested nested >>= sanitize.putNested envelope := by
  have notKey : envelope.tag ≠ accessKeyTag := role ▸ assumeRoleTag_ne_accessKeyTag
  rw [sanitize, if_neg notKey, if_pos role]
  split
  · next absent =>
      rw [found] at absent
      cases absent
  · next null =>
      rw [found] at null
      cases null
      exact absurd rfl present
  · next entries map =>
      rw [found] at map
      cases map
      simp only [cleanNested]
      split
      · split
        · next inner read =>
            by_cases owned : inner.tag ∈ Provider.tags .aws <;> simp [read, owned]
        · next read => simp [read]
      · rfl
  · next other _ notMap same =>
      rw [found] at same
      cases same
      rw [cleanNested_of_not_map]
      · rfl
      · cases nested with
        | object entries => exact absurd rfl (notMap entries)
        | null | bool | number | string | array => rfl

@[simp] theorem putNested_some (envelope : Envelope) (clean : Value) :
    sanitize.putNested envelope (some clean) =
      pure { envelope with values := envelope.values.update "configurer" fun _ => clean } := rfl

@[simp] theorem putNested_none (envelope : Envelope) :
    sanitize.putNested envelope none =
      ⟨{ envelope with values := envelope.values.update "configurer" fun _ => .null },
        [⟨.warn, .envelope, Envelope.dropMessage .aws "configurer"⟩]⟩ := rfl

@[simp] theorem tag_putNested (envelope : Envelope) (clean : Option Value) :
    (sanitize.putNested envelope clean).value.tag = envelope.tag := by
  cases clean <;> rfl

/-- The envelope nested in a role is redacted in place. -/
theorem sanitize_of_envelope {inner : Envelope} (role : envelope.tag = assumeRoleTag)
    (found : envelope.values.get? "configurer" = some inner.toValue)
    (owned : inner.tag ∈ Provider.tags .aws) :
    sanitize envelope = (fun clean => { envelope with
      values := envelope.values.update "configurer" fun _ => clean.toValue }) <$>
        sanitize inner := by
  rw [sanitize_of_nested role found inner.toValue_ne_null, cleanNested_toValue owned,
    bind_map_left]
  exact (map_eq_pure_bind _ _).symm

/-- Redaction never changes a tag. -/
theorem tag_sanitize (envelope : Envelope) : (sanitize envelope).value.tag = envelope.tag := by
  by_cases key : envelope.tag = accessKeyTag
  · rw [sanitize_of_accessKey key]
    rfl
  · by_cases role : envelope.tag = assumeRoleTag
    · cases present : present? envelope.values "configurer" with
      | none => rw [sanitize_of_bare_role role present, Logged.value_pure]
      | some nested =>
          obtain ⟨found, notNull⟩ := Json.present?_eq_some_iff.mp present
          rw [sanitize_of_nested role found notNull, Logged.value_bind, tag_putNested]
    · rw [sanitize_of_other key role, Logged.value_pure]

/-- What holds of an envelope as soon as it holds of the envelope nested in it holds of all. -/
theorem nested_induction {motive : Envelope → Prop}
    (step : ∀ envelope : Envelope,
      (∀ entries inner, envelope.values.get? "configurer" = some (.object entries) →
        Envelope.ofMap .aws entries = .ok inner → motive inner) → motive envelope)
    (envelope : Envelope) : motive envelope := by
  -- The values of an envelope that is read out of an entry are smaller than those around it.
  induction size : sizeOf envelope.values using Nat.strongRecOn generalizing envelope with
  | ind bound ih =>
      apply step
      intro entries inner found read
      refine ih (sizeOf inner.values) ?_ inner rfl
      rw [← size]
      exact Envelope.sizeOf_nested_lt found read

end CloudBilling.Aws
