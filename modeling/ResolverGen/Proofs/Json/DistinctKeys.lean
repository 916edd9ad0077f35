import ResolverGen.Json.Parser
import ResolverGen.Proofs.FirstFailures
import ResolverGen.Proofs.Tables

/-!
# Keys of objects in a text

An object that is read from a text has distinct keys, also if the text gives one of them twice.
-/
namespace ResolverGen.Json

variable {fuel : Nat} {negative : Bool} {s start rest : List Char} {entries out : Table Json}

theorem number_ne_obj : number negative start s ≠ .ok (.obj entries, rest) := by
  unfold number
  intro h
  split at h
  · cases h
  · dsimp only at h
    split at h
    · split at h <;> cases h
    · cases h

/-- Reading on in an object keeps its keys distinct. -/
theorem nodup_keys_of_members (h : entries.keys.Nodup)
    (hread : members fuel entries s = .ok (out, rest)) : out.keys.Nodup := by
  induction fuel generalizing entries s with
  | zero => cases hread
  | succ fuel ih =>
    unfold members at hread
    split at hread
    · obtain ⟨⟨key, behind⟩, -, hread⟩ := bind_eq_ok_iff.mp hread
      dsimp only at hread
      split at hread
      · obtain ⟨⟨item, behind⟩, -, hread⟩ := bind_eq_ok_iff.mp hread
        have hput : (entries.put key item).keys.Nodup := Table.nodup_keys_put h key item
        dsimp only at hread
        split at hread
        · cases hread
          exact hput
        · exact ih hput hread
        · cases hread
      · cases hread
    · cases hread

/-- An object that is read has distinct keys. -/
theorem nodup_keys_of_value (hread : value fuel s = .ok (.obj entries, rest)) :
    entries.keys.Nodup := by
  cases fuel with
  | zero => cases hread
  | succ fuel =>
    unfold value at hread
    split at hread
    · obtain ⟨⟨text, behind⟩, -, hread⟩ := bind_eq_ok_iff.mp hread
      cases hread
    · split at hread
      · cases hread
        exact List.nodup_nil
      · obtain ⟨⟨out, behind⟩, hmembers, hread⟩ := bind_eq_ok_iff.mp hread
        cases hread
        have hempty : (Table.keys ([] : Table Json)).Nodup := List.nodup_nil
        exact nodup_keys_of_members hempty hmembers
    · split at hread
      · cases hread
      · obtain ⟨⟨items, behind⟩, -, hread⟩ := bind_eq_ok_iff.mp hread
        cases hread
    · cases hread
    · cases hread
    · cases hread
    · cases hread
    · cases hread
    · cases hread
    · exact absurd hread number_ne_obj
    · exact absurd hread number_ne_obj

theorem nodup_keys_of_parse {text : String} (hread : parse text = .ok (.obj entries)) :
    entries.keys.Nodup := by
  unfold parse at hread
  rw [mapError_eq_ok_iff] at hread
  unfold document at hread
  split at hread
  · cases hread
  · obtain ⟨⟨result, behind⟩, hvalue, hread⟩ := bind_eq_ok_iff.mp hread
    dsimp only at hread
    split at hread
    · cases hread
      exact nodup_keys_of_value hvalue
    · cases hread

end ResolverGen.Json
