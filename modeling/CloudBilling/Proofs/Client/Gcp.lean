import CloudBilling.Client.Gcp
import CloudBilling.Proofs.JsonReading
import CloudBilling.Proofs.RoundTrip
import CloudBilling.Proofs.Validation
import CloudBilling.Proofs.Veil

/-!
# The text of a key file

A client that authenticates with a key file is given the file as a text.  The text carries the whole
file: what is read back has the same names with the same texts, and as the key file of a credential
it is the file that the text was made from.
-/

namespace CloudBilling

theorem Json.ofTexts_eq_mapValues (texts : List (String × String)) :
    ofTexts texts = Dict.mapValues (fun _ => .string) texts := rfl

namespace Gcp

variable {depth : UInt64}

theorem Key.read?_compact_toValue {file : Key} (filled : file.entries ≠ []) :
    Json.read? file.toValue.compact = some file.toValue := by
  have ascending : Dict.Ascending (Json.ofTexts file.entries) := by
    rw [Json.ofTexts_eq_mapValues]
    exact Dict.ascending_mapValues file.ascending _
  have read := Json.read?_compact filled
  rwa [Dict.ofEntries_of_ascending ascending] at read

/-- A map with nothing but a key file in it is the credential that uses the file. -/
theorem Credential.decodeAt_key (within : depth.toNat ≤ maxDepth) (file : Key) :
    decodeAt depth (.object [("key", file.toValue)]) = pure (some (.key file)) := by
  have read : Key.ofMap [("key", file.toValue)] = .ok file := Key.ofMap_toEnvelope file
  have keyed : Dict.has [("key", file.toValue)] "key" = true := rfl
  unfold decodeAt
  rw [levelsAt_of_le within]
  simp [Json.asMap, Json.Value.object?, keyed, read]

end Gcp

namespace Client.Gcp

open CloudBilling.Gcp

variable {file : Key} {surroundings : Surroundings}

theorem ofKey_eq (filled : file.entries ≠ []) (going : surroundings.cancelled = false) :
    ofKey file surroundings = pure (.credentialsJson file.toValue.compact) := by
  have valid : file.validate = .ok () := Key.validate_eq_ok_iff.mpr filled
  have uncancelled : surroundings.check = .ok () := Surroundings.check_eq_ok_iff.mpr going
  rw [ofKey, valid, uncancelled]
  rfl

/-- As long as nobody has cancelled, a key file that is not empty is given to the client as a text,
and nothing is looked up or logged.  The text is a map with the names of the file, each with the
text that it has in the file, and with this map as its key file a credential is decoded to the one
with the file. -/
theorem create_carries_key_file (filled : file.entries ≠ [])
    (going : surroundings.cancelled = false) :
    ∃ (text : String) (content : Dict Json.Value),
      create surroundings (.key file) = pure (.credentialsJson text) ∧
      Json.read? text = some (.object content) ∧
      content.names = file.entries.names ∧
      (∀ name, content.get? name = (file.entries.get? name).map .string) ∧
      CloudBilling.Credential.decode .gcp (.object [("key", .object content)]) =
        pure (some (.key file)) := by
  refine ⟨file.toValue.compact, Json.ofTexts file.entries, ofKey_eq filled going,
    Key.read?_compact_toValue filled, ?_, ?_, ?_⟩
  · rw [Json.ofTexts_eq_mapValues, Dict.names_mapValues]
  · intro name
    rw [Json.ofTexts_eq_mapValues, Dict.get?_mapValues]
  · have atTop : (0 : UInt64).toNat ≤ maxDepth := Nat.zero_le maxDepth
    exact Credential.decodeAt_key atTop file

/-- A key file whose names and texts hold quotes, backslashes and controls. -/
theorem create_carries_key_file_escaped :
    let file : Key := .ofEntries
      [("private_key", "-----BEGIN\n\"k\\u0041\"\x7f\t\x00-----"), ("na\"me\\", "clé 🔑")]
    let here : Surroundings := ⟨false, fun _ => none⟩
    file.entries ≠ [] ∧ here.cancelled = false ∧
    ∃ (text : String) (content : Dict Json.Value),
      create here (.key file) = pure (.credentialsJson text) ∧
      Json.read? text = some (.object content) ∧
      content.names = file.entries.names ∧
      (∀ name, content.get? name = (file.entries.get? name).map .string) ∧
      CloudBilling.Credential.decode .gcp (.object [("key", .object content)]) =
        pure (some (.key file)) := by
  intro file here
  have filled : file.entries ≠ [] := by decide
  exact ⟨filled, rfl, create_carries_key_file filled rfl⟩

end Client.Gcp

end CloudBilling
