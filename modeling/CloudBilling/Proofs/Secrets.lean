import CloudBilling.Credential

/-!
# Credentials that differ in their secrets only

Two credentials agree up to secrets if they are built the same way from the same parts, apart from
secrets that are there in both.  An empty secret is no secret: whether one is there may be seen.
-/

namespace CloudBilling

/-- Two secrets that cannot be told apart once they are replaced: they are equal, or there is
something in both. -/
def Interchangeable (left right : String) : Prop :=
  left = right ∨ left ≠ "" ∧ right ≠ ""

/-- What a secret is replaced by depends only on whether there is one. -/
theorem Interchangeable.replaced {left right : String} (same : Interchangeable left right) :
    (if left = "" then "" else redacted) = (if right = "" then "" else redacted) := by
  rcases same with rfl | ⟨leftFilled, rightFilled⟩
  · rfl
  · rw [if_neg leftFilled, if_neg rightFilled]

/-- Two AWS credentials agree up to secrets, at every level of nesting. -/
inductive Aws.Credential.AgreeUpToSecrets : Aws.Credential → Aws.Credential → Prop
  | accessKey (id : String) {left right : String} :
      Interchangeable left right →
      AgreeUpToSecrets (.accessKey ⟨id, left⟩) (.accessKey ⟨id, right⟩)
  | serviceAccount : AgreeUpToSecrets .serviceAccount .serviceAccount
  | bareRole (roleArn : String) :
      AgreeUpToSecrets (.assumeRole none roleArn) (.assumeRole none roleArn)
  | role (roleArn : String) {left right : Aws.Credential} :
      AgreeUpToSecrets left right →
      AgreeUpToSecrets (.assumeRole (some left) roleArn) (.assumeRole (some right) roleArn)

/-- Two Azure credentials agree up to secrets. -/
inductive Azure.Credential.AgreeUpToSecrets : Azure.Credential → Azure.Credential → Prop
  | accessKey (account : String) {left right : String} :
      Interchangeable left right →
      AgreeUpToSecrets (.accessKey ⟨left, account⟩) (.accessKey ⟨right, account⟩)

/-- Two GCP credentials agree up to secrets: a key file is a secret as a whole. -/
inductive Gcp.Credential.AgreeUpToSecrets : Gcp.Credential → Gcp.Credential → Prop
  | sameKey (file : Gcp.Key) : AgreeUpToSecrets (.key file) (.key file)
  | key {left right : Gcp.Key} :
      left.entries ≠ [] → right.entries ≠ [] → AgreeUpToSecrets (.key left) (.key right)
  | workloadIdentity : AgreeUpToSecrets .workloadIdentity .workloadIdentity

/-- Two Alibaba credentials agree up to secrets. -/
inductive Alibaba.Credential.AgreeUpToSecrets : Alibaba.Credential → Alibaba.Credential → Prop
  | accessKey (id : String) {left right : String} :
      Interchangeable left right →
      AgreeUpToSecrets (.accessKey ⟨id, left⟩) (.accessKey ⟨id, right⟩)

/-- Two credentials of a provider agree up to secrets. -/
def Credential.AgreeUpToSecrets :
    (provider : Provider) → Credential provider → Credential provider → Prop
  | .aws => Aws.Credential.AgreeUpToSecrets
  | .azure => Azure.Credential.AgreeUpToSecrets
  | .gcp => Gcp.Credential.AgreeUpToSecrets
  | .alibaba => Alibaba.Credential.AgreeUpToSecrets

end CloudBilling
