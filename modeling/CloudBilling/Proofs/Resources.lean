import CloudBilling.Proofs.Merging

/-!
# Resources and their keys

A key joins the fields that name a resource, with a separator after each but the last.  As long as no
field before a separator has that separator in it, the fields can be told from the key.  A key does
not say of which kind the resource is, so merging keeps the resources of one kind apart, but not those
of two kinds that have one key.
-/

namespace CloudBilling

/-! ## Joined texts -/

/-- What stands before the first separator of a text. -/
theorem takeWhile_append_mark {mark : Char} {front : List Char} (absent : mark ∉ front)
    (back : List Char) : (front ++ mark :: back).takeWhile (· ≠ mark) = front := by
  have clear : ∀ c ∈ front, decide (c ≠ mark) = true := by
    intro c member
    exact decide_eq_true fun same => absent (same ▸ member)
  rw [List.takeWhile_append_of_pos clear, List.takeWhile_cons_of_neg (by simp), List.append_nil]

/-- Two texts before and after a separator can be told from the joined text if the separator does not
occur in the first of them. -/
theorem joined_eq_iff (mark : Char) {front back otherFront otherBack : String}
    (absent : mark ∉ front.toList) (otherAbsent : mark ∉ otherFront.toList) :
    front ++ mark.toString ++ back = otherFront ++ mark.toString ++ otherBack ↔
      front = otherFront ∧ back = otherBack := by
  constructor
  · intro same
    have chars : front.toList ++ mark :: back.toList =
        otherFront.toList ++ mark :: otherBack.toList := by
      simpa using congrArg String.toList same
    have fronts : front.toList = otherFront.toList := by
      rw [← takeWhile_append_mark absent back.toList, chars, takeWhile_append_mark otherAbsent]
    rw [fronts] at chars
    have backs : back.toList = otherBack.toList :=
      List.tail_eq_of_cons_eq (List.append_cancel_left chars)
    exact ⟨String.toList_inj.mp fronts, String.toList_inj.mp backs⟩
  · rintro ⟨rfl, rfl⟩
    rfl

/-! ## Keys -/

namespace Integration.Record

variable {γ : Type}

/-- The fields that name the resource that a record describes. -/
def identity : (kind : Kind) → Record kind γ → List String
  | .s3 => fun (record : S3 γ) => [record.account, record.bucket]
  | .athena => fun (record : Athena γ) => [record.account, record.bucket]
  | .bigQuery => fun (record : BigQuery γ) => [record.projectId, record.dataset, record.table]
  | .azureStorage => fun (record : AzureStorage γ) =>
      [record.subscriptionId, record.container, record.path]
  | .alibaba => fun (record : BillingApi γ) => [record.account, record.region]

/-- The fields of a key that a separator comes after, each with that separator. -/
def leading : (kind : Kind) → Record kind γ → List (Char × String)
  | .s3 => fun (record : S3 γ) => [('/', record.account)]
  | .athena => fun (record : Athena γ) => [('/', record.account)]
  | .bigQuery => fun (record : BigQuery γ) => [('/', record.projectId), ('.', record.dataset)]
  | .azureStorage => fun (record : AzureStorage γ) =>
      [('/', record.subscriptionId), ('/', record.container)]
  | .alibaba => fun (record : BillingApi γ) => [('/', record.account)]

/-- No field of the key has the separator in it that comes after the field. -/
def Separable (kind : Kind) (record : Record kind γ) : Prop :=
  ∀ field ∈ leading kind record, field.1 ∉ field.2.toList

instance (kind : Kind) (record : Record kind γ) : Decidable (Separable kind record) :=
  inferInstanceAs (Decidable (∀ field ∈ leading kind record, field.1 ∉ field.2.toList))

end Integration.Record

namespace Integration

variable {γ δ : Type}

namespace AzureStorage

/-- A container and a path in it, which may be empty. -/
def location (record : AzureStorage γ) : String :=
  if record.path = "" then record.container else record.container ++ "/" ++ record.path

theorem key_eq (record : AzureStorage γ) :
    record.key = record.subscriptionId ++ "/" ++ record.location := by
  rw [key, location]
  split <;> simp only [String.append_assoc]

/-- An empty path adds no separator to a key. -/
theorem key_of_path_eq_empty {record : AzureStorage γ} (bare : record.path = "") :
    record.key = record.subscriptionId ++ "/" ++ record.container := by
  rw [key_eq, location, if_pos bare]

theorem location_eq_iff {left : AzureStorage γ} {right : AzureStorage δ}
    (leftClear : '/' ∉ left.container.toList) (rightClear : '/' ∉ right.container.toList) :
    left.location = right.location ↔
      left.container = right.container ∧ left.path = right.path := by
  -- A container alone has no separator in it, so it is no container with a path.
  have apart {alone front back : String} (clear : '/' ∉ alone.toList) :
      alone ≠ front ++ "/" ++ back := by
    rintro rfl
    exact clear (by simp)
  rw [location, location]
  by_cases leftBare : left.path = ""
  · rw [if_pos leftBare]
    by_cases rightBare : right.path = ""
    · rw [if_pos rightBare, leftBare, rightBare]
      simp
    · rw [if_neg rightBare, leftBare]
      exact ⟨fun same => absurd same (apart leftClear), fun same => absurd same.2.symm rightBare⟩
  · rw [if_neg leftBare]
    by_cases rightBare : right.path = ""
    · rw [if_pos rightBare, rightBare]
      exact ⟨fun same => absurd same.symm (apart rightClear), fun same => absurd same.2 leftBare⟩
    · rw [if_neg rightBare]
      exact joined_eq_iff '/' leftClear rightClear

end AzureStorage

/-- Records of one kind whose fields are free of separators have one key exactly if they describe one
resource. -/
theorem Record.key_eq_iff {kind : Kind} {left : Record kind γ} {right : Record kind δ}
    (leftClear : Separable kind left) (rightClear : Separable kind right) :
    key kind left = key kind right ↔ identity kind left = identity kind right := by
  cases kind with
  | s3 | athena | alibaba =>
      refine (joined_eq_iff '/' (leftClear _ (.head _)) (rightClear _ (.head _))).trans ?_
      simp [identity]
  | bigQuery =>
      have tables : left.qualifiedTable = right.qualifiedTable ↔
          left.dataset = right.dataset ∧ left.table = right.table :=
        joined_eq_iff '.' (leftClear _ (.tail _ (.head _))) (rightClear _ (.tail _ (.head _)))
      refine (joined_eq_iff '/' (leftClear _ (.head _)) (rightClear _ (.head _))).trans ?_
      rw [tables]
      simp [identity]
  | azureStorage =>
      have locations : left.location = right.location ↔
          left.container = right.container ∧ left.path = right.path :=
        AzureStorage.location_eq_iff (leftClear _ (.tail _ (.head _)))
          (rightClear _ (.tail _ (.head _)))
      rw [key, key, AzureStorage.key_eq, AzureStorage.key_eq]
      refine (joined_eq_iff '/' (leftClear _ (.head _)) (rightClear _ (.head _))).trans ?_
      rw [locations]
      simp [identity]

/-- Nothing goes into a key but the fields that name the resource: not the credential, whatever it is
represented by, and no other field. -/
theorem Record.key_eq_of_identity_eq {kind : Kind} {left : Record kind γ} {right : Record kind δ}
    (same : identity kind left = identity kind right) : key kind left = key kind right := by
  cases kind with
  | s3 | athena | alibaba =>
      simp only [identity, List.cons.injEq, and_true] at same
      obtain ⟨sameAccount, sameName⟩ := same
      simp only [key, S3.key, Athena.key, BillingApi.key, sameAccount, sameName]
  | bigQuery =>
      simp only [identity, List.cons.injEq, and_true] at same
      obtain ⟨sameProject, sameDataset, sameTable⟩ := same
      simp only [key, BigQuery.key, BigQuery.qualifiedTable, sameProject, sameDataset, sameTable]
  | azureStorage =>
      simp only [identity, List.cons.injEq, and_true] at same
      obtain ⟨sameSubscription, sameContainer, samePath⟩ := same
      simp only [key, AzureStorage.key, sameSubscription, sameContainer, samePath]

/-- Two records of a kind have one key exactly if they describe one resource, as long as no field of
the keys has the separator in it that comes after the field.  Records that describe one resource have
one key whatever else is in them, and a container as a whole is keyed without a separator at its
end. -/
theorem Record.key_tells_resource :
    (∀ (kind : Kind) (left : Record kind γ) (right : Record kind δ),
      (Separable kind left → Separable kind right →
        (key kind left = key kind right ↔ identity kind left = identity kind right)) ∧
      (identity kind left = identity kind right → key kind left = key kind right)) ∧
    ∀ record : AzureStorage γ, record.path = "" →
      record.key = record.subscriptionId ++ "/" ++ record.container := by
  refine ⟨fun kind left right => ⟨key_eq_iff, key_eq_of_identity_eq⟩, fun record bare => ?_⟩
  exact AzureStorage.key_of_path_eq_empty bare

/-- A container as a whole is no directory in it, and the account and the cloud do not matter. -/
theorem Record.key_tells_resource_of_container :
    let whole : AzureStorage Unit := ⟨"sub", "first", "costs", "", "", some ()⟩
    let again : AzureStorage Unit := ⟨"sub", "second", "costs", "", "AzureGov", none⟩
    let inside : AzureStorage Unit := ⟨"sub", "first", "costs", "2024/05", "", some ()⟩
    (Separable .azureStorage whole ∧ Separable .azureStorage inside ∧ whole.key ≠ inside.key) ∧
      (identity .azureStorage whole = identity .azureStorage again ∧ whole.key = again.key) ∧
      whole.path = "" ∧ whole.key = "sub" ++ "/" ++ "costs" := by
  intro whole again inside
  obtain ⟨keys, containers⟩ := @Record.key_tells_resource Unit Unit
  have wholeClear : Separable .azureStorage whole := by decide
  have insideClear : Separable .azureStorage inside := by decide
  have apart : identity .azureStorage whole ≠ identity .azureStorage inside := by decide
  refine ⟨⟨wholeClear, insideClear, ?_⟩, ⟨rfl, ?_⟩, rfl, containers whole rfl⟩
  · exact fun same => apart (((keys .azureStorage whole inside).1 wholeClear insideClear).mp same)
  · exact (keys .azureStorage whole again).2 rfl

end Integration

/-! ## What merging keeps apart -/

namespace Entry

open Integration

/-- The resource that an entry describes: its kind and the fields that name it. -/
def resource (entry : Entry) : Kind × List String :=
  (entry.integration.kind, Record.identity entry.integration.kind entry.integration.config)

/-- No field of the key of an entry has the separator in it that comes after the field. -/
def Separable (entry : Entry) : Prop :=
  Record.Separable entry.integration.kind entry.integration.config

instance (entry : Entry) : Decidable entry.Separable :=
  inferInstanceAs (Decidable (Record.Separable _ entry.integration.config))

theorem resource_eq_of_key_eq {left right : Entry} (leftClear : left.Separable)
    (rightClear : right.Separable) (sameKind : left.integration.kind = right.integration.kind)
    (sameKey : left.key = right.key) : left.resource = right.resource := by
  obtain ⟨leftSource, leftKind, leftConfig⟩ := left
  obtain ⟨rightSource, rightKind, rightConfig⟩ := right
  cases sameKind
  exact congrArg (Prod.mk leftKind) ((Record.key_eq_iff leftClear rightClear).mp sameKey)

/-- Keys do not say of which kind a resource is, and two resources may have one key if there are
separators in the fields that they join.  Then the second of two entries is lost. -/
theorem merge_loses_other_resource :
    let bucket : Entry := ⟨.helm, .s3, "reports", "eu-west-1", "123", none⟩
    let table : Entry := ⟨.helm, .athena, "reports", "eu-west-1", "billing", "cur", "", "123", none⟩
    let outer : Entry := ⟨.helm, .s3, "b/c", "eu-west-1", "a", none⟩
    let inner : Entry := ⟨.helm, .s3, "c", "eu-west-1", "a/b", none⟩
    (table ∈ [bucket, table] ∧
      ¬∃ kept ∈ (merge [bucket, table]).value, kept.resource = table.resource) ∧
    inner ∈ [outer, inner] ∧
      ¬∃ kept ∈ (merge [outer, inner]).value, kept.resource = inner.resource := by
  decide

/-- Of every entry the key is kept, by one entry, from no lower source.  That one describes the same
resource, if it is of the same kind and no field of the two keys has its separator in it. -/
theorem merge_keeps_resource {entries : List Entry} {entry : Entry} (member : entry ∈ entries) :
    ∃ kept ∈ (merge entries).value, kept ∈ entries ∧ kept.key = entry.key ∧
      (∀ other ∈ (merge entries).value, other.key = entry.key → other = kept) ∧
      entry.source ≤ kept.source ∧
      (kept.integration.kind = entry.integration.kind → kept.Separable → entry.Separable →
        kept.resource = entry.resource) := by
  obtain ⟨kept, keptMember, sameKey, foremost⟩ := exists_mem_merge member
  refine ⟨kept, keptMember, foremost.mem, sameKey, ?_, ?_, ?_⟩
  · intro other otherMember otherKey
    exact eq_of_mem_merge keptMember otherMember (otherKey.trans sameKey.symm)
  · exact foremost.unsurpassed entry member sameKey.symm
  · intro sameKind keptClear clear
    exact resource_eq_of_key_eq keptClear clear sameKind sameKey

/-- One bucket from two sources, with slashes in its name, is one resource. -/
theorem merge_keeps_resource_of_bucket :
    let bucket (source : Source) : Entry := ⟨source, .s3, "s3://a/b", "eu-west-1", "123", none⟩
    let entries := [bucket .configFile, bucket .helm]
    bucket .configFile ∈ entries ∧
      ∃ kept ∈ (merge entries).value, kept.resource = (Kind.s3, ["123", "s3://a/b"]) := by
  intro bucket entries
  have member : bucket .configFile ∈ entries := List.mem_cons_self
  obtain ⟨kept, keptMember, listed, _, _, _, same⟩ := merge_keeps_resource member
  have clear : ∀ other ∈ entries, other.integration.kind = .s3 ∧ other.Separable := by decide
  have sameResource := same (clear kept listed).1 (clear kept listed).2 (clear _ member).2
  exact ⟨member, kept, keptMember, sameResource⟩

end Entry

end CloudBilling
