import CloudBilling.Failure
import Mathlib.Data.List.Induction

/-!
# Contexts around a failure

Contexts are put around a failure one after another, each outside of those before it.  The text of
what comes of it names them outermost first, and its root is the root of the failure.  Whoever goes
from error to source meets the failures that the contexts were put around, down to the failure
itself, and then what that one came from.

Behind a cause there may be errors of other components.  What they came from is left open here.
-/

namespace CloudBilling

variable {ε : Type}

/-! ## From error to source -/

/-- A failure, or an error of another component. -/
inductive AnyError (ε : Type) where
  | here (failure : Failure)
  | elsewhere (error : ε)

/-- What is known of the errors of other components. -/
structure Components (ε : Type) where
  /-- The error that a cause carries the text of. -/
  error : String → ε
  /-- The error that an error came from. -/
  source? : ε → Option ε

/-- Components of whose errors nothing but the texts is known. -/
def Components.texts : Components String :=
  ⟨id, fun _ => none⟩

namespace AnyError

/-- The error that an error came from: behind a context, the failure that it was put around; behind
a cause, the error that it carries the text of, if there is one. -/
def source? (components : Components ε) : AnyError ε → Option (AnyError ε)
  | .here ⟨_ :: contexts, cause⟩ => some (.here ⟨contexts, cause⟩)
  | .here ⟨[], cause⟩ => cause.sources.head?.map fun text => .elsewhere (components.error text)
  | .elsewhere error => (components.source? error).map .elsewhere

/-- The text of an error, when the errors of other components are texts. -/
def text : AnyError String → String
  | .here failure => failure.message
  | .elsewhere text => text

end AnyError

/-- The errors below an error, from source to source until there is none. -/
inductive Chain (components : Components ε) : AnyError ε → List (AnyError ε) → Prop where
  | ends {error : AnyError ε} (bare : error.source? components = none) : Chain components error []
  | goesOn {error source : AnyError ε} {rest : List (AnyError ε)}
      (came : error.source? components = some source) (below : Chain components source rest) :
      Chain components error (source :: rest)

/-- There is one chain below an error at most. -/
theorem Chain.unique {components : Components ε} {error : AnyError ε}
    {left right : List (AnyError ε)} (former : Chain components error left)
    (latter : Chain components error right) : left = right := by
  induction former generalizing right with
  | ends bare =>
      cases latter with
      | ends => rfl
      | goesOn came => cases bare.symm.trans came
  | goesOn came _ ih =>
      cases latter with
      | ends bare => cases bare.symm.trans came
      | goesOn cameToo below =>
          cases came.symm.trans cameToo
          rw [ih below]

namespace Failure

variable {components : Components ε} {links : List (AnyError ε)}

theorem exists_chain_ofCause (cause : Cause) :
    ∃ links, Chain .texts (.here (ofCause cause)) links ∧
      links.map AnyError.text = cause.sources := by
  have carried (text : String) (carries : cause.sources = [text]) :
      ∃ links, Chain .texts (.here (ofCause cause)) links ∧
        links.map AnyError.text = cause.sources := by
    refine ⟨[.elsewhere text], .goesOn ?_ (.ends rfl), ?_⟩
    · simp [AnyError.source?, ofCause, carries, Components.texts]
    · rw [carries]
      rfl
  cases cause with
  | delegated message source =>
      cases source with
      | some text => exact carried text rfl
      | none => exact ⟨[], .ends rfl, rfl⟩
  | json fault => exact carried fault.message rfl
  | _ => exact ⟨[], .ends rfl, rfl⟩

/-- The texts of the errors below a failure are its sources. -/
theorem exists_chain (failure : Failure) :
    ∃ links, Chain .texts (.here failure) links ∧ links.map AnyError.text = failure.sources := by
  obtain ⟨contexts, cause⟩ := failure
  induction contexts with
  | nil => exact exists_chain_ofCause cause
  | cons context contexts ih =>
      obtain ⟨links, chain, texts⟩ := ih
      refine ⟨.here ⟨contexts, cause⟩ :: links, .goesOn rfl chain, ?_⟩
      rw [List.map_cons, texts]
      rfl

theorem chain_within_iff {failure : Failure} {context : String} :
    Chain components (.here (failure.within context)) links ↔
      ∃ rest, links = .here failure :: rest ∧ Chain components (.here failure) rest := by
  constructor
  · intro chain
    cases chain with
    | ends bare => cases bare
    | goesOn came below =>
        cases came
        exact ⟨_, rfl, below⟩
  · rintro ⟨rest, rfl, below⟩
    exact .goesOn rfl below

/-! ## Contexts one after another

The last context is the outermost one, so the inductions go over the contexts from their end. -/

theorem withinAll_concat (failure : Failure) (contexts : List String) (context : String) :
    failure.withinAll (contexts ++ [context]) = (failure.withinAll contexts).within context :=
  List.foldl_append ..

/-- The root is the bare cause, by which failures are told apart. -/
theorem root_eq (failure : Failure) : failure.root = ofCause failure.cause := by
  obtain ⟨contexts, cause⟩ := failure
  induction contexts with
  | nil => rfl
  | cons context contexts ih => exact ih

theorem root_withinAll (failure : Failure) (contexts : List String) :
    (failure.withinAll contexts).root = failure.root := by
  induction contexts using List.reverseRecOn with
  | nil => rfl
  | append_singleton contexts context ih => rw [withinAll_concat, root_within, ih]

theorem message_withinAll (failure : Failure) (contexts : List String) :
    (failure.withinAll contexts).message =
      ": ".intercalate (contexts.reverse ++ [failure.message]) := by
  induction contexts using List.reverseRecOn with
  | nil => exact String.intercalate_singleton.symm
  | append_singleton contexts context ih =>
      have inside : contexts.reverse ++ [failure.message] ≠ [] := by simp
      rw [withinAll_concat, message_within, ih, List.reverse_concat, List.cons_append,
        String.intercalate_cons_of_ne_nil inside]

/-- The failures that contexts are put around, each with the contexts before it: the one inside the
last context first, the failure itself last. -/
def inside (failure : Failure) (contexts : List String) : List Failure :=
  (List.range contexts.length).reverse.map fun count => failure.withinAll (contexts.take count)

theorem inside_concat (failure : Failure) (contexts : List String) (context : String) :
    failure.inside (contexts ++ [context]) =
      failure.withinAll contexts :: failure.inside contexts := by
  have shorter : ∀ count ∈ (List.range contexts.length).reverse,
      failure.withinAll ((contexts ++ [context]).take count) =
        failure.withinAll (contexts.take count) := by
    intro count member
    have bound : count ≤ contexts.length := by
      simp only [List.mem_reverse, List.mem_range] at member
      exact Nat.le_of_lt member
    rw [List.take_append_of_le_length bound]
  rw [inside, List.length_append, List.length_singleton, List.range_succ, List.reverse_concat,
    List.map_cons, List.map_congr_left shorter, List.take_left]
  rfl

theorem chain_withinAll_iff {failure : Failure} {contexts : List String} :
    Chain components (.here (failure.withinAll contexts)) links ↔
      ∃ own, Chain components (.here failure) own ∧
        links = (failure.inside contexts).map .here ++ own := by
  induction contexts using List.reverseRecOn generalizing links with
  | nil => simp [withinAll, inside]
  | append_singleton contexts context ih =>
      rw [withinAll_concat, inside_concat, chain_within_iff]
      constructor
      · rintro ⟨rest, rfl, below⟩
        obtain ⟨own, chain, rfl⟩ := ih.mp below
        exact ⟨own, chain, rfl⟩
      · rintro ⟨own, chain, rfl⟩
        exact ⟨_, rfl, ih.mpr ⟨own, chain, rfl⟩⟩

theorem sources_withinAll (failure : Failure) (contexts : List String) :
    (failure.withinAll contexts).sources =
      (failure.inside contexts).map message ++ failure.sources := by
  obtain ⟨own, chain, texts⟩ := exists_chain failure
  obtain ⟨links, chainAround, textsAround⟩ := exists_chain (failure.withinAll contexts)
  have same := chainAround.unique (chain_withinAll_iff.mpr ⟨own, chain, rfl⟩)
  have textsInside : ((failure.inside contexts).map AnyError.here).map AnyError.text =
      (failure.inside contexts).map message := by
    rw [List.map_map]
    rfl
  rw [← textsAround, same, List.map_append, texts, textsInside]

end Failure

theorem Outcome.withinAll_ok {α : Type} (contexts : List String) (value : α) :
    withinAll contexts (.ok value) = .ok value := by
  induction contexts with
  | nil => rfl
  | cons context contexts ih => exact ih

theorem Outcome.withinAll_error {α : Type} (contexts : List String) (failure : Failure) :
    withinAll (α := α) contexts (.error failure) = .error (failure.withinAll contexts) := by
  induction contexts generalizing failure with
  | nil => rfl
  | cons context contexts ih => exact ih (failure.within context)

/-- Contexts that are put around a failure stand before its text, the last of them first, and leave
its root as it is, the bare cause.  Below the failure in all of them stand the failures in fewer of
them, down to the failure itself, and then what was below that one, whatever other components tell
of it.  A success has no contexts. -/
theorem Failure.withinAll_nests_in_order (components : Components ε) (failure : Failure)
    (contexts : List String) :
    (failure.withinAll contexts).message =
      ": ".intercalate (contexts.reverse ++ [failure.message]) ∧
    (failure.withinAll contexts).root = failure.root ∧
    failure.root = ofCause failure.cause ∧
    (∀ links, Chain components (.here (failure.withinAll contexts)) links ↔
      ∃ own, Chain components (.here failure) own ∧
        links = (failure.inside contexts).map .here ++ own) ∧
    (failure.withinAll contexts).sources =
      (failure.inside contexts).map message ++ failure.sources ∧
    (∀ (α : Type) (value : α), Outcome.withinAll contexts (.ok value) = .ok value) ∧
    ∀ α : Type, Outcome.withinAll (α := α) contexts (.error failure) =
      .error (failure.withinAll contexts) :=
  ⟨failure.message_withinAll contexts, failure.root_withinAll contexts, failure.root_eq,
    fun _ => chain_withinAll_iff, failure.sources_withinAll contexts,
    fun _ => Outcome.withinAll_ok contexts, fun _ => Outcome.withinAll_error contexts failure⟩

example :
    let failure := (Failure.ofCause (.missingField "Secret")).withinAll
      ["AWSAccessKey", "AthenaConfiguration"]
    failure.message = "AthenaConfiguration: AWSAccessKey: missing Secret" ∧
      failure.sources = ["AWSAccessKey: missing Secret", "missing Secret"] := by decide

end CloudBilling
