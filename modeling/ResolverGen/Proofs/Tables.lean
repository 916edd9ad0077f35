import ResolverGen.Table

/-!
# Entries of tables

Where the entries of a table come from that was built by putting, and what it gives for a key. A
table over others gives what the uppermost one does that has the key.
-/
namespace ResolverGen.Table

variable {α : Type}

theorem mem_of_get? {table : Table α} {key : String} {value : α}
    (h : table.get? key = some value) : (key, value) ∈ table := by
  induction table with
  | nil => cases h
  | cons entry rest ih =>
    obtain ⟨k, v⟩ := entry
    rw [get?] at h
    split at h
    · rename_i hk
      obtain rfl := Option.some.inj h
      rw [hk]
      exact List.mem_cons_self
    · exact List.mem_cons_of_mem _ (ih h)

/-- The keys of a table are those that it has a value for. -/
theorem mem_keys_iff_exists {table : Table α} {key : String} :
    key ∈ table.keys ↔ ∃ value, table.get? key = some value := by
  rw [← get?_isSome, Option.isSome_iff_exists]

theorem mem_of_mem_put {table : Table α} {key : String} {value : α} {e : String × α}
    (h : e ∈ table.put key value) : e ∈ table ∨ e = (key, value) := by
  induction table with
  | nil => exact Or.inr (List.mem_singleton.mp h)
  | cons entry rest ih =>
    obtain ⟨k, v⟩ := entry
    rw [put] at h
    split at h
    · rename_i hk
      rcases List.mem_cons.mp h with h | h
      · exact Or.inr (by rw [h, hk])
      · exact Or.inl (List.mem_cons_of_mem _ h)
    · rcases List.mem_cons.mp h with h | h
      · exact Or.inl (by rw [h]; exact List.mem_cons_self)
      · rcases ih h with h | h
        · exact Or.inl (List.mem_cons_of_mem _ h)
        · exact Or.inr h

/-- An entry of an overlay comes from the table below or from the one above. -/
theorem mem_of_mem_overlay {upper : Table α} :
    ∀ {table : Table α} {e : String × α}, e ∈ table.overlay upper → e ∈ table ∨ e ∈ upper := by
  induction upper with
  | nil =>
    intro table e h
    exact Or.inl h
  | cons entry rest ih =>
    intro table e h
    rcases @ih (table.put entry.1 entry.2) e h with h | h
    · rcases mem_of_mem_put h with h | h
      · exact Or.inl h
      · exact Or.inr (by rw [h]; exact List.mem_cons_self)
    · exact Or.inr (List.mem_cons_of_mem entry h)

/-- A new key comes last. -/
theorem put_of_get?_eq_none {table : Table α} {key : String} (h : table.get? key = none)
    (value : α) : table.put key value = table ++ [(key, value)] := by
  induction table with
  | nil => rfl
  | cons entry rest ih =>
    obtain ⟨k, v⟩ := entry
    rw [get?] at h
    split at h
    · cases h
    · rename_i hk
      rw [put, if_neg hk, ih h, List.cons_append]

/-- A table made of a list gives the value of the first member with the key. -/
theorem get?_map {β : Type} (key : β → String) (value : β → α) (xs : List β) (k : String) :
    get? (xs.map fun x => (key x, value x)) k = (xs.find? fun x => key x = k).map value := by
  induction xs with
  | nil => rfl
  | cons x rest ih =>
    rw [List.map_cons, get?, List.find?_cons]
    by_cases h : key x = k
    · rw [if_pos h, decide_eq_true h]
      rfl
    · rw [if_neg h, decide_eq_false h, ih]

theorem mem_keys_put {table : Table α} {key other : String} {value : α} :
    other ∈ (table.put key value).keys ↔ other = key ∨ other ∈ table.keys := by
  rw [keys_put]
  split
  · rename_i h
    constructor
    · exact Or.inr
    · rintro (rfl | hother)
      · exact h
      · exact hother
  · rw [List.mem_append, List.mem_singleton, or_comm]

theorem nodup_keys_put {table : Table α} (h : table.keys.Nodup) (key : String) (value : α) :
    (table.put key value).keys.Nodup := by
  rw [keys_put]
  split
  · exact h
  · rename_i hkey
    rw [List.nodup_append]
    refine ⟨h, by simp, ?_⟩
    intro k hk k' hk'
    rw [List.mem_singleton.mp hk']
    exact fun hsame => hkey (hsame ▸ hk)

/-- With distinct keys a table gives for a key what its one entry holds. -/
theorem get?_eq_some_iff {table : Table α} (h : table.keys.Nodup) {key : String} {value : α} :
    table.get? key = some value ↔ (key, value) ∈ table := by
  refine ⟨mem_of_get?, fun hmem => ?_⟩
  induction table with
  | nil => cases hmem
  | cons entry rest ih =>
    obtain ⟨k, v⟩ := entry
    obtain ⟨hk, hrest⟩ := List.nodup_cons.mp h
    rw [get?]
    rcases List.mem_cons.mp hmem with hhead | htail
    · obtain ⟨rfl, rfl⟩ := Prod.mk.inj hhead
      exact if_pos rfl
    · have hne : k ≠ key := by
        rintro rfl
        exact hk (List.mem_map.mpr ⟨_, htail, rfl⟩)
      rw [if_neg hne]
      exact ih hrest htail

theorem get?_eq_none_iff {table : Table α} {key : String} :
    table.get? key = none ↔ key ∉ table.keys := by
  rw [← get?_isSome, Bool.not_eq_true, Option.isSome_eq_false_iff, Option.isNone_iff_eq_none]

/-- Entries kept by their keys: a key that is kept has the value that it had. -/
theorem get?_filter (p : String → Bool) (table : Table α) (key : String) :
    get? (table.filter fun entry => p entry.1) key = if p key then table.get? key else none := by
  induction table with
  | nil => simp [get?]
  | cons entry rest ih =>
    obtain ⟨k, v⟩ := entry
    by_cases hk : k = key
    · subst hk
      by_cases hp : p k <;> simp [get?, hp, ih]
    · by_cases hp : p k <;> simp [get?, hp, hk, ih]

theorem mem_distinct {name : String} {names : List String} :
    name ∈ distinct names ↔ name ∈ names := by
  have hfold : ∀ acc : List String,
      name ∈ names.foldl (fun acc name => if name ∈ acc then acc else acc ++ [name]) acc ↔
        name ∈ acc ∨ name ∈ names := by
    induction names with
    | nil => simp
    | cons first rest ih =>
      intro acc
      rw [List.foldl_cons, ih]
      split
      · grind
      · simp [or_assoc]
  rw [distinct, hfold]
  simp

theorem nodup_distinct (names : List String) : (distinct names).Nodup := by
  have hfold : ∀ acc : List String, acc.Nodup →
      (names.foldl (fun acc name => if name ∈ acc then acc else acc ++ [name]) acc).Nodup := by
    induction names with
    | nil => exact fun _ hacc => hacc
    | cons first rest ih =>
      intro acc hacc
      rw [List.foldl_cons]
      split
      · exact ih acc hacc
      · rename_i hnew
        refine ih _ (List.nodup_append.mpr ⟨hacc, by simp, fun a ha b hb hab => hnew ?_⟩)
        rwa [← List.mem_singleton.mp hb, ← hab]
  exact hfold [] List.nodup_nil

/-! ## A table over another -/

/-- A key that is put twice has the later value. -/
theorem put_put_same (table : Table α) (key : String) (value other : α) :
    (table.put key value).put key other = table.put key other := by
  induction table with
  | nil => simp [put]
  | cons entry rest ih =>
    obtain ⟨k, v⟩ := entry
    by_cases hk : k = key <;> simp [put, hk, ih]

/-- A key that is there already can be put before or after another one. -/
theorem put_put_comm {table : Table α} {key other : String} (hkey : key ∈ table.keys)
    (hne : other ≠ key) (value value' : α) :
    (table.put other value').put key value = (table.put key value).put other value' := by
  induction table with
  | nil => cases hkey
  | cons entry rest ih =>
    obtain ⟨k, v⟩ := entry
    by_cases hk : k = key
    · subst hk
      simp [put, hne.symm]
    · have hrest : key ∈ keys rest := by
        rcases List.mem_cons.mp hkey with he | hrest
        · exact absurd he.symm hk
        · exact hrest
      by_cases ho : k = other
      · subst ho
        simp [put, hk]
      · simp [put, hk, ho, ih hrest]

/-- A key that is there already, and not in the table above, can be put before or after that. -/
theorem put_overlay {table upper : Table α} {key : String} (hkey : key ∈ table.keys)
    (hupper : key ∉ upper.keys) (value : α) :
    (table.overlay upper).put key value = (table.put key value).overlay upper := by
  induction upper generalizing table with
  | nil => rfl
  | cons entry rest ih =>
    obtain ⟨hne, hrest⟩ := not_or.mp (mt List.mem_cons.mpr hupper)
    change ((table.put entry.1 entry.2).overlay rest).put key value =
      ((table.put key value).put entry.1 entry.2).overlay rest
    rw [ih (mem_keys_put.mpr (Or.inr hkey)) hrest, put_put_comm hkey (Ne.symm hne)]

theorem overlay_put {table middle : Table α} (h : middle.keys.Nodup) (key : String) (value : α) :
    table.overlay (middle.put key value) = (table.overlay middle).put key value := by
  induction middle generalizing table with
  | nil => rfl
  | cons entry rest ih =>
    obtain ⟨k, v⟩ := entry
    obtain ⟨hk, hrest⟩ := List.nodup_cons.mp h
    by_cases hkey : k = key
    · subst hkey
      rw [put, if_pos rfl]
      change (table.put k value).overlay rest = ((table.put k v).overlay rest).put k value
      rw [put_overlay (mem_keys_put.mpr (Or.inl rfl)) hk, put_put_same]
    · rw [put, if_neg hkey]
      exact ih hrest

/-- Of three tables the two upper ones can be put together first. -/
theorem overlay_overlay {table middle upper : Table α} (h : middle.keys.Nodup) :
    (table.overlay middle).overlay upper = table.overlay (middle.overlay upper) := by
  induction upper generalizing middle with
  | nil => rfl
  | cons entry rest ih =>
    change ((table.overlay middle).put entry.1 entry.2).overlay rest =
      table.overlay ((middle.put entry.1 entry.2).overlay rest)
    rw [← overlay_put h, ih (nodup_keys_put h _ _)]

theorem put_ne_nil (table : Table α) (key : String) (value : α) : table.put key value ≠ [] := by
  cases table with
  | nil => simp [put]
  | cons entry rest => by_cases hk : entry.1 = key <;> simp [put, hk]

theorem overlay_eq_nil_iff {table upper : Table α} :
    table.overlay upper = [] ↔ table = [] ∧ upper = [] := by
  induction upper generalizing table with
  | nil => simp [overlay]
  | cons entry rest ih =>
    change (table.put entry.1 entry.2).overlay rest = [] ↔ _
    simp [ih, put_ne_nil]

/-- A key has its value from the table above, or else from the one below. -/
theorem get?_overlay {upper : Table α} (h : upper.keys.Nodup) (table : Table α) (key : String) :
    (table.overlay upper).get? key = (upper.get? key).or (table.get? key) := by
  induction upper generalizing table with
  | nil => rfl
  | cons entry rest ih =>
    obtain ⟨k, v⟩ := entry
    obtain ⟨hk, hrest⟩ := List.nodup_cons.mp h
    change ((table.put k v).overlay rest).get? key = _
    rw [ih hrest, get?_put, get?]
    by_cases hkey : k = key
    · subst hkey
      simp [get?_eq_none_iff.mpr hk]
    · simp [hkey]

/-- A table of new keys comes behind the other. -/
theorem overlay_eq_append {table upper : Table α} (h : (table.keys ++ upper.keys).Nodup) :
    table.overlay upper = table ++ upper := by
  induction upper generalizing table with
  | nil => exact (List.append_nil table).symm
  | cons entry rest ih =>
    obtain ⟨k, v⟩ := entry
    have hkeys : table.keys ++ keys ((k, v) :: rest) = keys (table ++ [(k, v)]) ++ keys rest := by
      simp [keys]
    have hnew : table.get? k = none := by
      rw [get?_eq_none_iff]
      intro hk
      exact (List.nodup_append.mp h).2.2 k hk k List.mem_cons_self rfl
    change (table.put k v).overlay rest = _
    rw [put_of_get?_eq_none hnew, ih (hkeys ▸ h)]
    simp

theorem overlay_nil_left {upper : Table α} (h : upper.keys.Nodup) : overlay [] upper = upper :=
  overlay_eq_append h

theorem filter_put (p : String → Bool) (table : Table α) (key : String) (value : α) :
    (table.put key value).filter (fun entry => p entry.1) =
      if p key then put (table.filter fun entry => p entry.1) key value
      else table.filter fun entry => p entry.1 := by
  induction table with
  | nil => by_cases hp : p key <;> simp [put, hp]
  | cons entry rest ih =>
    obtain ⟨k, v⟩ := entry
    by_cases hk : k = key
    · subst hk
      by_cases hp : p k <;> simp [put, hp]
    · by_cases hp : p k <;> by_cases hkey : p key <;> simp_all [put]

/-- Entries can be chosen by their keys before or after a table is put over another. -/
theorem filter_overlay (p : String → Bool) (table upper : Table α) :
    (table.overlay upper).filter (fun entry => p entry.1) =
      overlay (table.filter fun entry => p entry.1) (upper.filter fun entry => p entry.1) := by
  induction upper generalizing table with
  | nil => rfl
  | cons entry rest ih =>
    change ((table.put entry.1 entry.2).overlay rest).filter _ = _
    rw [ih, filter_put]
    by_cases hp : p entry.1
    · simp [hp, overlay]
    · simp [hp]

theorem keys_filter (p : String → Bool) (table : Table α) :
    keys (table.filter fun entry => p entry.1) = table.keys.filter p := by
  rw [keys, keys, List.filter_map]
  rfl

theorem nodup_keys_filter {table : Table α} (h : table.keys.Nodup) (p : String × α → Bool) :
    (keys (table.filter p)).Nodup :=
  h.sublist (List.filter_sublist.map _)

end ResolverGen.Table
