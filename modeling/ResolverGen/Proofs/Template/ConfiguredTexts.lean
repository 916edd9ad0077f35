import ResolverGen.Template.Access

/-!
# Texts of configured values

A configured value stands in a template as it does in a message. It has a text there unless it holds
a number with too many digits.
-/
namespace ResolverGen

namespace Template.Value

mutual

/-- A configured value is shown in a template as it is in a message. -/
theorem shown_ofJson : ∀ j : Json, shown (ofJson j) = j.displayChars
  | .null | .bool _ | .int _ | .float _ | .str _ => rfl
  | .arr items => by
    change '[' :: shownItems (ofJsonItems items) ++ [']'] = '[' :: Json.displayItems items ++ [']']
    rw [shownItems_ofJsonItems items]
  | .obj entries => by
    change '\x7b' :: shownEntries (ofJsonEntries entries) ++ ['\x7d'] =
      '\x7b' :: Json.displayEntries entries ++ ['\x7d']
    rw [shownEntries_ofJsonEntries entries]

theorem shownItems_ofJsonItems : ∀ items : List Json,
    shownItems (ofJsonItems items) = Json.displayItems items
  | [] => rfl
  | [item] => shown_ofJson item
  | item :: next :: rest => by
    change shown (ofJson item) ++ ", ".toList ++ shownItems (ofJsonItems (next :: rest)) =
      item.displayChars ++ ", ".toList ++ Json.displayItems (next :: rest)
    rw [shown_ofJson item, shownItems_ofJsonItems (next :: rest)]

theorem shownEntries_ofJsonEntries : ∀ entries : List (String × Json),
    shownEntries (ofJsonEntries entries) = Json.displayEntries entries
  | [] => rfl
  | [(key, value)] => by
    change Text.quoted key.toList ++ ": ".toList ++ shown (ofJson value) =
      Text.quoted key.toList ++ ": ".toList ++ value.displayChars
    rw [shown_ofJson value]
  | (key, value) :: next :: rest => by
    change Text.quoted key.toList ++ ": ".toList ++ shown (ofJson value) ++ ", ".toList ++
        shownEntries (ofJsonEntries (next :: rest)) =
      Text.quoted key.toList ++ ": ".toList ++ value.displayChars ++ ", ".toList ++
        Json.displayEntries (next :: rest)
    rw [shown_ofJson value, shownEntries_ofJsonEntries (next :: rest)]

end

theorem plainText_ofJson (j : Json) : plainText (ofJson j) = j.plain := by
  have hshown := congrArg String.ofList (shown_ofJson j)
  cases j with
  | str s => rfl
  | _ => exact hshown

end Template.Value

open Template

theorem textOf_ofJson (j : Json) :
    textOf (.ofJson j) =
      if (Value.ofJson j).holdsLong then .error (.tooManyDigits Value.digitLimit)
      else .ok j.plain := by
  rw [← Value.plainText_ofJson]
  cases j <;> rfl

/-- Whether a configured value can be written: it holds no number with too many digits. -/
def Json.IsWritable (j : Json) : Prop := textOf (.ofJson j) = .ok j.plain

theorem Json.isWritable_iff (j : Json) : j.IsWritable ↔ (Value.ofJson j).holdsLong = false := by
  unfold Json.IsWritable
  rw [textOf_ofJson]
  cases (Value.ofJson j).holdsLong <;> simp

instance (j : Json) : Decidable j.IsWritable := decidable_of_iff' _ j.isWritable_iff

theorem Json.isWritable_of_textOf {j : Json} {s : String} (h : textOf (.ofJson j) = .ok s) :
    j.IsWritable := by
  rw [textOf_ofJson] at h
  rw [Json.isWritable_iff]
  cases hlong : (Value.ofJson j).holdsLong with
  | true =>
    rw [hlong] at h
    cases h
  | false => rfl

end ResolverGen
