import CloudBilling.Json.Printer
import CloudBilling.Failure

/-!
# Sources of configurations

Where a configuration came from decides which of two configurations of one resource counts: a
source outranks those before it in the list `Source.all`.
-/

namespace CloudBilling

/-- The origin of a configuration, in ascending order of priority. -/
inductive Source where
  | unknown
  | configController
  | multiCloud
  | configFile
  | helm
  deriving DecidableEq, Repr, Inhabited

namespace Source

/-- Every source, in ascending order of priority. -/
def all : List Source :=
  [.unknown, .configController, .multiCloud, .configFile, .helm]

/-- The position of a source in the order of priority. -/
def rank : Source → Nat
  | .unknown => 0
  | .configController => 1
  | .multiCloud => 2
  | .configFile => 3
  | .helm => 4

/-- The name of a source in documents and messages. -/
def name : Source → String
  | .unknown => "unknown"
  | .configController => "configController"
  | .multiCloud => "multicloud"
  | .configFile => "configfile"
  | .helm => "helm"

/-- The source with a given name; every other name is the unknown source. -/
def ofName (name : String) : Source :=
  if name = "configController" then .configController
  else if name = "multicloud" then .multiCloud
  else if name = "configfile" then .configFile
  else if name = "helm" then .helm
  else .unknown

/-- A source is below another when it has the lower priority. -/
instance : LT Source := ⟨fun former latter => former.rank < latter.rank⟩

instance : LE Source := ⟨fun former latter => former.rank ≤ latter.rank⟩

instance (former latter : Source) : Decidable (former < latter) :=
  inferInstanceAs (Decidable (former.rank < latter.rank))

instance (former latter : Source) : Decidable (former ≤ latter) :=
  inferInstanceAs (Decidable (former.rank ≤ latter.rank))

/-- How two sources compare by priority. -/
def compare (former latter : Source) : Ordering :=
  Ord.compare former.rank latter.rank

/-- The source of the higher priority. -/
def max (former latter : Source) : Source :=
  if latter < former then former else latter

/-- Sources in ascending order of priority. -/
def sort (sources : List Source) : List Source :=
  sources.mergeSort fun former latter => former ≤ latter

/-- A source is written as its name. -/
def toValue (source : Source) : Json.Value :=
  .string source.name

@[simp] theorem ofName_name (source : Source) : ofName source.name = source := by
  cases source <;> decide

theorem getElem?_rank (source : Source) : all[source.rank]? = some source := by
  cases source <;> rfl

theorem rank_injective {former latter : Source} (same : former.rank = latter.rank) :
    former = latter := by
  have place := getElem?_rank former
  rw [same, getElem?_rank latter] at place
  exact (Option.some.inj place).symm

end Source

end CloudBilling
