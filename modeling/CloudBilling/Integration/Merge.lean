import CloudBilling.Integration.Entry

/-!
# Merging

Of the entries that describe one resource, merging keeps one: the first of those whose source
ranks highest. Every other entry is dropped. A replacement and a disagreement of two entries
from one source are logged.
-/

namespace CloudBilling.Entry

/-- The entry that is kept of one that was kept so far and a candidate with the same key. -/
def prevail (key : String) (current candidate : Entry) : Logged Event Entry := do
  if current.source < candidate.source then
    logEvent .debug .document
      s!"Integration {key} from {candidate.source.name} overrides {current.source.name}."
    return candidate
  else if candidate.source = current.source ∧ candidate.integration ≠ current.integration then
    logEvent .warn .document
      s!"Conflicting integrations for key {key} from {candidate.source.name}; keeping the first."
    return current
  else
    return current

/-- Take one more entry into those that were kept so far, by key. -/
def absorb (kept : Dict Entry) (candidate : Entry) : Logged Event (Dict Entry) := do
  match kept.get? candidate.key with
  | none => return kept.put candidate.key candidate
  | some current => return kept.put candidate.key (← prevail candidate.key current candidate)

/-- Take entries one by one into those that were kept so far. -/
def absorbAll (kept : Dict Entry) : List Entry → Logged Event (Dict Entry)
  | [] => return kept
  | candidate :: rest => do absorbAll (← absorb kept candidate) rest

/-- One entry for each key, in ascending order of key. -/
def merge (entries : List Entry) : Logged Event (List Entry) := do
  return (← absorbAll [] entries).map (·.2)

end CloudBilling.Entry
