import CloudBilling.Client.Session

/-!
# Families of contexts

A context is cancelled for one of two reasons: its deadline is over, or a handle was cancelled that
was taken of a context of its family.  Both can be read off what was done in a session: contexts are
of one family if they derive from one that was made anew, and of what was set for a context the last
counts.  A session keeps to this because it numbers the families as the contexts made anew.
-/

namespace CloudBilling.Client

/-! ## What was done -/

/-- Whether an operation cancels a handle. -/
def Operation.isCancel : Operation → Bool
  | .cancel _ => true
  | _ => false

/-- How a context was made: of which other one, if of any, and what was set for it. -/
structure Making where
  parent : Option Nat
  deadline : Option Nat
  environment : Option (String → Option String)

/-- What was done in a session, without what came of it. -/
structure Chronicle where
  /-- How the contexts were made, in their order. -/
  makings : List Making
  /-- The contexts of which the handles were taken, in the order of the handles. -/
  owners : List Nat
  /-- The handles that were cancelled. -/
  cancellations : List Nat
  /-- The time that has passed. -/
  now : Nat

namespace Chronicle

/-- Nothing was done. -/
def blank : Chronicle :=
  ⟨[], [], [], 0⟩

/-- A context was made. -/
def make (chronicle : Chronicle) (making : Making) : Chronicle :=
  { chronicle with makings := chronicle.makings ++ [making] }

/-- One more operation was done. -/
def add (chronicle : Chronicle) : Operation → Chronicle
  | .create environment => chronicle.make ⟨none, none, some environment⟩
  | .clone parent => chronicle.make ⟨some parent, none, none⟩
  | .withEnvironment parent environment => chronicle.make ⟨some parent, none, some environment⟩
  | .withDeadline parent deadline => chronicle.make ⟨some parent, some deadline, none⟩
  | .withTimeout parent seconds =>
      chronicle.make ⟨some parent, some (chronicle.now + seconds), none⟩
  | .handle owner => { chronicle with owners := chronicle.owners ++ [owner] }
  | .cancel handle => { chronicle with cancellations := chronicle.cancellations ++ [handle] }
  | .wait seconds => { chronicle with now := chronicle.now + seconds }

/-- Operations were done one after the other. -/
def addAll (chronicle : Chronicle) (operations : List Operation) : Chronicle :=
  operations.foldl add chronicle

end Chronicle

/-- What was done in a session with a history of operations. -/
def chronicle (history : List Operation) : Chronicle :=
  Chronicle.blank.addAll history

/-- A history without its cancellations. -/
def withoutCancellations (history : List Operation) : List Operation :=
  history.filter fun operation => !operation.isCancel

/-- What a context has from those that it derives from. -/
structure Heritage where
  /-- The context that was made anew. -/
  root : Nat
  /-- The deadline that was set last. -/
  deadline : Option Nat
  /-- The environment that was set last. -/
  environment : Option (String → Option String)

/-- A context that was made anew has what was set for it; any other one has this too, and the rest
from the one that it was made of. -/
inductive Inherits (makings : List Making) : Nat → Heritage → Prop
  | anew {index : Nat} {making : Making} :
      makings[index]? = some making → making.parent = none →
        Inherits makings index ⟨index, making.deadline, making.environment⟩
  | derived {index parent : Nat} {making : Making} {heritage : Heritage} :
      makings[index]? = some making → making.parent = some parent →
        Inherits makings parent heritage →
          Inherits makings index ⟨heritage.root, making.deadline.or heritage.deadline,
            making.environment.or heritage.environment⟩

/-- Two contexts derive from one that was made anew. -/
def OneFamily (makings : List Making) (left right : Nat) : Prop :=
  ∃ former latter, Inherits makings left former ∧ Inherits makings right latter ∧
    former.root = latter.root

variable {makings : List Making} {index : Nat} {heritage : Heritage}

theorem Inherits.deterministic {other : Heritage} (inherits : Inherits makings index heritage)
    (otherwise : Inherits makings index other) : heritage = other := by
  induction inherits generalizing other with
  | anew found root =>
      cases otherwise with
      | anew otherFound otherRoot =>
          cases Option.some.inj (found.symm.trans otherFound)
          rfl
      | derived otherFound parent above =>
          cases Option.some.inj (found.symm.trans otherFound)
          cases root.symm.trans parent
  | derived found parent above ih =>
      cases otherwise with
      | anew otherFound otherRoot =>
          cases Option.some.inj (found.symm.trans otherFound)
          cases parent.symm.trans otherRoot
      | derived otherFound otherParent otherAbove =>
          cases Option.some.inj (found.symm.trans otherFound)
          cases Option.some.inj (parent.symm.trans otherParent)
          rw [ih otherAbove]

theorem getElem?_append_of_some {α : Type} {former : List α} {value : α}
    (found : former[index]? = some value) (latter : List α) :
    (former ++ latter)[index]? = some value := by
  have inside : index < former.length := (List.getElem?_eq_some_iff.mp found).1
  rw [List.getElem?_append_left inside, found]

theorem getElem?_concat_eq_some {α : Type} {former : List α} {value last : α}
    (found : (former ++ [last])[index]? = some value) :
    former[index]? = some value ∨ index = former.length ∧ value = last := by
  grind

/-- Contexts that are made later change nothing. -/
theorem Inherits.append (inherits : Inherits makings index heritage) (later : List Making) :
    Inherits (makings ++ later) index heritage := by
  induction inherits with
  | anew found root => exact .anew (getElem?_append_of_some found later) root
  | derived found parent above ih =>
      exact .derived (getElem?_append_of_some found later) parent ih

/-! ## What one operation does -/

variable {session next : Session}

theorem exists_of_derive {parent : Nat} {change : Context → Context}
    (derived : session.derive parent change = some next) :
    ∃ context, session.contexts[parent]? = some context ∧
      next = { session with
        contexts := session.contexts ++ [{ change context with family := context.family }] } := by
  obtain ⟨context, found, made⟩ := Option.bind_eq_some_iff.mp derived
  exact ⟨context, found, (Option.some.inj made).symm⟩

theorem exists_of_handle {owner : Nat} (taken : session.handle owner = some next) :
    ∃ context, session.contexts[owner]? = some context ∧
      next = { session with handles := session.handles ++ [context.family] } := by
  obtain ⟨context, found, made⟩ := Option.bind_eq_some_iff.mp taken
  exact ⟨context, found, (Option.some.inj made).symm⟩

theorem exists_of_cancel {handle : Nat} (cancelled : session.cancel handle = some next) :
    ∃ family, session.handles[handle]? = some family ∧
      next = { session with cancelled := family :: session.cancelled } := by
  obtain ⟨family, found, made⟩ := Option.bind_eq_some_iff.mp cancelled
  exact ⟨family, found, (Option.some.inj made).symm⟩

/-! ## What a session keeps to -/

/-- The families are numbered as the contexts that were made anew. -/
structure Numbers (roots : List Nat) (families size : Nat) : Prop where
  length_eq : roots.length = families
  lt_size : ∀ root ∈ roots, root < size
  nodup : roots.Nodup

/-- A context has its family, its deadline and its environment from those that it derives from. -/
structure Bears (roots : List Nat) (context : Context) (heritage : Heritage) : Prop where
  root : roots[context.family]? = some heritage.root
  deadline : context.deadline = heritage.deadline
  environment : heritage.environment = some context.environment

/-- A session holds what has come of what was done in it. -/
structure Reflects (roots : List Nat) (done : Chronicle) (session : Session) : Prop where
  now_eq : session.now = done.now
  length_contexts : session.contexts.length = done.makings.length
  length_handles : session.handles.length = done.owners.length
  numbers : Numbers roots session.nextFamily session.contexts.length
  bears : ∀ (index : Nat) (context : Context), session.contexts[index]? = some context →
    ∃ heritage, Inherits done.makings index heritage ∧ Bears roots context heritage
  owner : ∀ handle owner : Nat, done.owners[handle]? = some owner →
    ∃ context, session.contexts[owner]? = some context ∧
      session.handles[handle]? = some context.family
  cancelled : ∀ family ∈ session.cancelled, ∃ handle ∈ done.cancellations,
    session.handles[handle]? = some family
  cancellation : ∀ handle ∈ done.cancellations, ∃ family ∈ session.cancelled,
    session.handles[handle]? = some family

variable {roots : List Nat} {done : Chronicle} {context : Context}

theorem reflects_blank : Reflects [] .blank .blank where
  now_eq := rfl
  length_contexts := rfl
  length_handles := rfl
  numbers := ⟨rfl, fun _ member => (nomatch member), .nil⟩
  bears := fun _ _ found => nomatch found
  owner := fun _ _ taken => nomatch taken
  cancelled := fun _ member => nomatch member
  cancellation := fun _ member => nomatch member

/-- One more context is made. -/
theorem Reflects.make {making : Making} {laterRoots : List Nat} {families : Nat}
    (reflects : Reflects roots done session)
    (numbers : Numbers laterRoots families (session.contexts.length + 1))
    (kept : ∀ family root : Nat, roots[family]? = some root → laterRoots[family]? = some root)
    (inherits : Inherits (done.makings ++ [making]) done.makings.length heritage)
    (bears : Bears laterRoots context heritage) :
    Reflects laterRoots (done.make making)
      { session with contexts := session.contexts ++ [context], nextFamily := families } := by
  refine ⟨reflects.now_eq, ?_, reflects.length_handles, ?_, ?_, ?_, reflects.cancelled,
    reflects.cancellation⟩
  · simp [Chronicle.make, reflects.length_contexts]
  · simpa using numbers
  · intro index other found
    rcases getElem?_concat_eq_some found with earlier | ⟨rfl, rfl⟩
    · obtain ⟨otherHeritage, otherInherits, otherBears⟩ := reflects.bears index other earlier
      exact ⟨otherHeritage, otherInherits.append _, kept _ _ otherBears.root,
        otherBears.deadline, otherBears.environment⟩
    · rw [reflects.length_contexts]
      exact ⟨heritage, inherits, bears⟩
  · intro handle owner taken
    obtain ⟨other, found, same⟩ := reflects.owner handle owner taken
    exact ⟨other, getElem?_append_of_some found _, same⟩

theorem Reflects.create (reflects : Reflects roots done session)
    (environment : String → Option String) :
    Reflects (roots ++ [session.contexts.length]) (done.add (.create environment))
      (session.create environment) := by
  have numbers := reflects.numbers
  refine reflects.make ⟨?_, ?_, ?_⟩ (fun _ _ found => getElem?_append_of_some found _)
    (.anew List.getElem?_concat_length rfl) ⟨?_, rfl, rfl⟩
  · simp [numbers.length_eq]
  · intro root member
    rcases List.mem_append.mp member with earlier | last
    · exact Nat.lt_succ_of_lt (numbers.lt_size root earlier)
    · rw [List.mem_singleton.mp last]
      exact Nat.lt_succ_self _
  · rw [List.nodup_append]
    refine ⟨numbers.nodup, List.pairwise_singleton _ _, ?_⟩
    intro root earlier last member same
    rw [same, List.mem_singleton.mp member] at earlier
    exact Nat.lt_irrefl _ (numbers.lt_size _ earlier)
  · rw [← numbers.length_eq, reflects.length_contexts]
    exact List.getElem?_concat_length

/-- A context that is made of another one has from it what is not set for it. -/
theorem Reflects.derive {parent : Nat} {change : Context → Context} {deadline : Option Nat}
    {environment : Option (String → Option String)} (reflects : Reflects roots done session)
    (derived : session.derive parent change = some next)
    (deadlines : ∀ context, (change context).deadline = deadline.or context.deadline)
    (environments : ∀ context,
      environment.or (some context.environment) = some (change context).environment) :
    Reflects roots (done.make ⟨some parent, deadline, environment⟩) next := by
  obtain ⟨context, found, rfl⟩ := exists_of_derive derived
  obtain ⟨heritage, inherits, bears⟩ := reflects.bears parent context found
  have numbers := reflects.numbers
  refine reflects.make ⟨numbers.length_eq, ?_, numbers.nodup⟩ (fun _ _ kept => kept)
    (.derived List.getElem?_concat_length rfl (inherits.append _)) ⟨bears.root, ?_, ?_⟩
  · intro root member
    exact Nat.lt_succ_of_lt (numbers.lt_size root member)
  · rw [← bears.deadline]
    exact deadlines context
  · rw [bears.environment]
    exact environments context

theorem Reflects.handle {owner : Nat} (reflects : Reflects roots done session)
    (handled : session.handle owner = some next) :
    Reflects roots (done.add (.handle owner)) next := by
  obtain ⟨context, found, rfl⟩ := exists_of_handle handled
  refine ⟨reflects.now_eq, reflects.length_contexts, ?_, reflects.numbers, reflects.bears,
    ?_, ?_, ?_⟩
  · simp [Chronicle.add, reflects.length_handles]
  · intro handle other taken
    rcases getElem?_concat_eq_some taken with earlier | ⟨rfl, rfl⟩
    · obtain ⟨member, memberFound, same⟩ := reflects.owner handle other earlier
      exact ⟨member, memberFound, getElem?_append_of_some same _⟩
    · rw [← reflects.length_handles]
      exact ⟨context, found, List.getElem?_concat_length⟩
  · intro family member
    obtain ⟨handle, cancelled, same⟩ := reflects.cancelled family member
    exact ⟨handle, cancelled, getElem?_append_of_some same _⟩
  · intro handle cancelled
    obtain ⟨family, member, same⟩ := reflects.cancellation handle cancelled
    exact ⟨family, member, getElem?_append_of_some same _⟩

theorem Reflects.cancel {handle : Nat} (reflects : Reflects roots done session)
    (cancelled : session.cancel handle = some next) :
    Reflects roots (done.add (.cancel handle)) next := by
  obtain ⟨family, found, rfl⟩ := exists_of_cancel cancelled
  refine ⟨reflects.now_eq, reflects.length_contexts, reflects.length_handles,
    reflects.numbers, reflects.bears, reflects.owner, ?_, ?_⟩
  · intro other member
    rcases List.mem_cons.mp member with rfl | earlier
    · exact ⟨handle, List.mem_append_right _ List.mem_cons_self, found⟩
    · obtain ⟨target, targetCancelled, same⟩ := reflects.cancelled other earlier
      exact ⟨target, List.mem_append_left _ targetCancelled, same⟩
  · intro target targetCancelled
    rcases List.mem_append.mp targetCancelled with earlier | last
    · obtain ⟨other, member, same⟩ := reflects.cancellation target earlier
      exact ⟨other, List.mem_cons_of_mem _ member, same⟩
    · rw [List.mem_singleton.mp last]
      exact ⟨family, List.mem_cons_self, found⟩

theorem Reflects.wait (reflects : Reflects roots done session) (seconds : Nat) :
    Reflects roots (done.add (.wait seconds)) (session.wait seconds) :=
  { reflects with now_eq := congrArg (· + seconds) reflects.now_eq }

/-- What one operation keeps. -/
theorem Reflects.apply {operation : Operation} (reflects : Reflects roots done session)
    (applied : session.apply operation = some next) :
    ∃ laterRoots, Reflects laterRoots (done.add operation) next := by
  cases operation with
  | create environment =>
      cases applied
      exact ⟨_, reflects.create environment⟩
  | clone parent => exact ⟨roots, reflects.derive applied (fun _ => rfl) fun _ => rfl⟩
  | withEnvironment parent environment =>
      exact ⟨roots, reflects.derive applied (fun _ => rfl) fun _ => rfl⟩
  | withDeadline parent deadline =>
      exact ⟨roots, reflects.derive applied (fun _ => rfl) fun _ => rfl⟩
  | withTimeout parent seconds =>
      change session.withDeadline parent (session.now + seconds) = some next at applied
      rw [reflects.now_eq] at applied
      exact ⟨roots, reflects.derive applied (fun _ => rfl) fun _ => rfl⟩
  | handle owner => exact ⟨roots, reflects.handle applied⟩
  | cancel handle => exact ⟨roots, reflects.cancel applied⟩
  | wait seconds =>
      cases applied
      exact ⟨roots, reflects.wait seconds⟩

/-- A run does its first operation, and then the rest. -/
theorem exists_of_run_cons {operation : Operation} {rest : List Operation}
    (ran : session.run (operation :: rest) = some next) :
    ∃ later, session.apply operation = some later ∧ later.run rest = some next :=
  Option.bind_eq_some_iff.mp ran

/-- What a run of operations keeps. -/
theorem Reflects.run {operations : List Operation} (reflects : Reflects roots done session)
    (ran : session.run operations = some next) :
    ∃ laterRoots, Reflects laterRoots (done.addAll operations) next := by
  induction operations generalizing roots done session with
  | nil =>
      cases ran
      exact ⟨roots, reflects⟩
  | cons operation rest ih =>
      obtain ⟨later, applied, ranRest⟩ := exists_of_run_cons ran
      obtain ⟨laterRoots, laterReflects⟩ := reflects.apply applied
      exact ih laterReflects ranRest

theorem exists_reflects {history : List Operation}
    (ran : Session.blank.run history = some session) :
    ∃ roots, Reflects roots (chronicle history) session :=
  reflects_blank.run ran

/-! ## What lasts -/

/-- A session goes on from another one: nothing that was made or cancelled is undone. -/
structure Extends (session next : Session) : Prop where
  contexts : session.contexts <+: next.contexts
  cancelled : session.cancelled ⊆ next.cancelled
  now : session.now ≤ next.now

theorem extends_of_derive {parent : Nat} {change : Context → Context}
    (derived : session.derive parent change = some next) : Extends session next := by
  obtain ⟨context, found, rfl⟩ := exists_of_derive derived
  exact ⟨List.prefix_append _ _, List.Subset.refl _, Nat.le_refl _⟩

theorem extends_of_apply {operation : Operation} (applied : session.apply operation = some next) :
    Extends session next := by
  cases operation with
  | create environment =>
      cases applied
      exact ⟨List.prefix_append _ _, List.Subset.refl _, Nat.le_refl _⟩
  | clone | withEnvironment | withDeadline | withTimeout => exact extends_of_derive applied
  | handle owner =>
      obtain ⟨context, found, rfl⟩ := exists_of_handle applied
      exact ⟨List.prefix_rfl, List.Subset.refl _, Nat.le_refl _⟩
  | cancel handle =>
      obtain ⟨family, found, rfl⟩ := exists_of_cancel applied
      exact ⟨List.prefix_rfl, List.subset_cons_self _ _, Nat.le_refl _⟩
  | wait seconds =>
      cases applied
      exact ⟨List.prefix_rfl, List.Subset.refl _, Nat.le_add_right _ _⟩

theorem extends_of_run {operations : List Operation} (ran : session.run operations = some next) :
    Extends session next := by
  induction operations generalizing session with
  | nil =>
      cases ran
      exact ⟨List.prefix_rfl, List.Subset.refl _, Nat.le_refl _⟩
  | cons operation rest ih =>
      obtain ⟨later, applied, ranRest⟩ := exists_of_run_cons ran
      have first := extends_of_apply applied
      have second := ih ranRest
      exact ⟨first.contexts.trans second.contexts,
        List.Subset.trans first.cancelled second.cancelled, Nat.le_trans first.now second.now⟩

theorem Extends.isCancelled (extension : Extends session next)
    (cancelled : session.isCancelled context = true) : next.isCancelled context = true := by
  simp only [Session.isCancelled, Session.isFlagged, Bool.or_eq_true, List.contains_iff_mem,
    Option.any_eq_true, decide_eq_true_eq] at cancelled ⊢
  rcases cancelled with flagged | ⟨deadline, own, passed⟩
  · exact .inl (extension.cancelled flagged)
  · exact .inr ⟨deadline, own, Nat.le_trans passed extension.now⟩

/-! ## Who is cancelled -/

/-- Cancellations change nothing about how contexts are made. -/
theorem makings_withoutCancellations {other : Chronicle} (history : List Operation)
    (sameMakings : done.makings = other.makings) (sameNow : done.now = other.now) :
    (done.addAll (withoutCancellations history)).makings = (other.addAll history).makings := by
  induction history generalizing done other with
  | nil => exact sameMakings
  | cons operation rest ih =>
      cases operation with
      | cancel handle => exact ih sameMakings sameNow
      | handle owner => exact ih sameMakings sameNow
      | wait seconds => exact ih sameMakings (congrArg (· + seconds) sameNow)
      | create | clone | withEnvironment | withDeadline =>
          exact ih (congrArg (· ++ _) sameMakings) sameNow
      | withTimeout parent seconds =>
          refine ih ?_ sameNow
          simp only [Chronicle.add, Chronicle.make, sameMakings, sameNow]

/-- Contexts are of one family if their numbers are the same. -/
theorem Reflects.oneFamily_iff {left right : Nat} {former latter : Context}
    (reflects : Reflects roots done session) (leftFound : session.contexts[left]? = some former)
    (rightFound : session.contexts[right]? = some latter) :
    OneFamily done.makings left right ↔ former.family = latter.family := by
  obtain ⟨leftHeritage, leftInherits, leftBears⟩ := reflects.bears left former leftFound
  obtain ⟨rightHeritage, rightInherits, rightBears⟩ := reflects.bears right latter rightFound
  constructor
  · rintro ⟨leftOther, rightOther, leftAgain, rightAgain, sameRoot⟩
    rw [leftAgain.deterministic leftInherits, rightAgain.deterministic rightInherits] at sameRoot
    have inside := (List.getElem?_eq_some_iff.mp leftBears.root).1
    refine (List.getElem?_inj inside reflects.numbers.nodup).mp ?_
    rw [leftBears.root, rightBears.root, sameRoot]
  · intro sameFamily
    refine ⟨leftHeritage, rightHeritage, leftInherits, rightInherits, ?_⟩
    have sameRoot := leftBears.root
    rw [sameFamily, rightBears.root] at sameRoot
    exact (Option.some.inj sameRoot).symm

/-- The flag of a context is set by the handles of its family. -/
theorem Reflects.isFlagged_iff (reflects : Reflects roots done session)
    (found : session.contexts[index]? = some context) :
    session.isFlagged context = true ↔
      ∃ handle ∈ done.cancellations, ∃ owner, done.owners[handle]? = some owner ∧
        OneFamily done.makings owner index := by
  rw [Session.isFlagged, List.contains_iff_mem]
  constructor
  · intro member
    obtain ⟨handle, cancelled, flagged⟩ := reflects.cancelled _ member
    have inside := (List.getElem?_eq_some_iff.mp flagged).1
    rw [reflects.length_handles] at inside
    have taken := List.getElem?_eq_getElem inside
    obtain ⟨other, otherFound, same⟩ := reflects.owner handle _ taken
    rw [flagged] at same
    exact ⟨handle, cancelled, _, taken,
      (reflects.oneFamily_iff otherFound found).mpr (Option.some.inj same).symm⟩
  · rintro ⟨handle, cancelled, owner, taken, oneFamily⟩
    obtain ⟨other, otherFound, same⟩ := reflects.owner handle owner taken
    obtain ⟨family, member, flagged⟩ := reflects.cancellation handle cancelled
    rw [flagged] at same
    rwa [← (reflects.oneFamily_iff otherFound found).mp oneFamily, ← Option.some.inj same]

/-- A context is cancelled exactly if the deadline that was set last for it is over, or a handle of
its family was cancelled; it stays so, whatever is done next.  What it answers about its environment
does not depend on cancellations. -/
theorem cancelled_with_family {history : List Operation}
    (ran : Session.blank.run history = some session)
    (found : session.contexts[index]? = some context) :
    ∃ heritage, Inherits (chronicle history).makings index heritage ∧
      (session.isCancelled context = true ↔
        (∃ deadline, heritage.deadline = some deadline ∧ deadline ≤ (chronicle history).now) ∨
          ∃ handle ∈ (chronicle history).cancellations, ∃ owner,
            (chronicle history).owners[handle]? = some owner ∧
              OneFamily (chronicle history).makings owner index) ∧
      (session.isCancelled context = true → ∀ later next, session.run later = some next →
        next.contexts[index]? = some context ∧ next.isCancelled context = true) ∧
      ∀ other next, Session.blank.run other = some next →
        withoutCancellations other = withoutCancellations history →
          ∃ same, next.contexts[index]? = some same ∧ ∀ name,
            (next.surroundings same).get? name = (session.surroundings context).get? name := by
  obtain ⟨roots, reflects⟩ := exists_reflects ran
  obtain ⟨heritage, inherits, bears⟩ := reflects.bears index context found
  refine ⟨heritage, inherits, ?_, ?_, ?_⟩
  · rw [Session.isCancelled, Bool.or_eq_true, reflects.isFlagged_iff found, bears.deadline,
      reflects.now_eq, Option.any_eq_true]
    simp only [decide_eq_true_eq]
    exact or_comm
  · intro cancelled later next ranLater
    have extension := extends_of_run ranLater
    obtain ⟨more, appended⟩ := extension.contexts
    refine ⟨?_, extension.isCancelled cancelled⟩
    rw [← appended]
    exact getElem?_append_of_some found more
  · intro other next ranOther same
    obtain ⟨otherRoots, otherReflects⟩ := exists_reflects ranOther
    have sameMakings : (chronicle other).makings = (chronicle history).makings := by
      rw [chronicle, ← makings_withoutCancellations other rfl rfl, same]
      exact makings_withoutCancellations history rfl rfl
    have inside : index < next.contexts.length := by
      rw [otherReflects.length_contexts, sameMakings, ← reflects.length_contexts]
      exact (List.getElem?_eq_some_iff.mp found).1
    have foundOther := List.getElem?_eq_getElem inside
    obtain ⟨otherHeritage, otherInherits, otherBears⟩ := otherReflects.bears index _ foundOther
    rw [sameMakings] at otherInherits
    have sameEnvironment := otherBears.environment
    rw [otherInherits.deterministic inherits, bears.environment] at sameEnvironment
    refine ⟨_, foundOther, ?_⟩
    intro name
    rw [Surroundings.get?, Surroundings.get?, Session.surroundings, Session.surroundings,
      Option.some.inj sameEnvironment]

/-- A handle of a context with a deadline far ahead cancels a copy that is made later of the context
that it was made of. -/
theorem cancelled_with_family_later_copy :
    let history : List Operation :=
      [.create fun _ => none, .withTimeout 0 3600, .handle 1, .cancel 0, .wait 1, .clone 0]
    ∃ session context, Session.blank.run history = some session ∧
      session.contexts[2]? = some context ∧ session.isCancelled context = true := by
  intro history
  have ran : Session.blank.run history = some _ := rfl
  refine ⟨_, _, ran, rfl, ?_⟩
  obtain ⟨heritage, inherits, cancelled, _⟩ :=
    cancelled_with_family ran (show (_ : List Context)[2]? = some _ from rfl)
  have root : Inherits (chronicle history).makings 0 _ := .anew rfl rfl
  have timed : Inherits (chronicle history).makings 1 _ := .derived rfl rfl root
  have copy : Inherits (chronicle history).makings 2 _ := .derived rfl rfl root
  exact cancelled.mpr (.inr ⟨0, List.mem_cons_self, 1, rfl, _, _, timed, copy, rfl⟩)

end CloudBilling.Client
