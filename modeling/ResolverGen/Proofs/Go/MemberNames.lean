import ResolverGen.Proofs.Go.ObjectFile

/-!
# Names of the members of a struct

A Go struct may not have two fields, two methods, or a field and a method of one name. A resolver
struct has a field and an accessor for each field of its type. It is told for which names of fields
two of these meet, and so which types come to a struct that Go accepts.
-/
namespace ResolverGen.Go

open Text Naming Template Go.Generator
open Sanitizer (isPlainChar)

variable {m n : String}

/-! ## Identifiers that meet -/

/-- Two fields are stored under one identifier if their names differ in the case of the first
character at most, or if one gets the suffix that the other has. -/
theorem storageName_eq_iff (hm : IsSchemaName m) (hn : IsSchemaName n) :
    storageName m = storageName n ↔
      uncapitalize m = uncapitalize n ∨
        (IsTaken (uncapitalize m) ∧ uncapitalize n = uncapitalize m ++ "_") ∨
        (IsTaken (uncapitalize n) ∧ uncapitalize m = uncapitalize n ++ "_") := by
  rw [storageName_of_isSchemaName hm, storageName_of_isSchemaName hn]
  constructor
  · intro h
    split at h <;> split at h
    · rw [String.append_left_inj] at h
      exact Or.inl h
    · rename_i htaken _
      exact Or.inr (Or.inl ⟨htaken, h.symm⟩)
    · rename_i _ htaken
      exact Or.inr (Or.inr ⟨htaken, h⟩)
    · exact Or.inl h
  · rintro (h | ⟨htaken, h⟩ | ⟨htaken, h⟩)
    · rw [h]
    · rw [if_pos htaken, h, if_neg (not_isTaken_append _)]
    · rw [if_pos htaken, h, if_neg (not_isTaken_append _)]

/-! ## Accessors that meet -/

theorem isIdWord_iff (h : IsSchemaName n) :
    IsIdWord n ↔ n.toList.map Char.toLower = ['i', 'd'] := by
  unfold IsIdWord
  rw [lower_ascii fun c hc => toNat_lt_of_isPlainChar (isPlainChar_of_mem h c hc)]

theorem isIdWord_uncapitalize (h : IsSchemaName n) :
    IsIdWord (uncapitalize n) ↔ IsIdWord n := by
  obtain ⟨c, rest, hn, hc, _⟩ := h.chars
  have hlow : c.toNat < 0x80 := toNat_lt_of_isPlainChar (isPlainChar_of_isAlpha hc)
  rw [isIdWord_iff h, isIdWord_iff h.uncapitalize, uncapitalize_toList hn hlow, hn, List.map_cons,
    List.map_cons, toLower_toLower]

theorem isIdWord_accessorName (h : IsSchemaName n) : IsIdWord (accessorName n) ↔ IsIdWord n := by
  unfold accessorName
  by_cases hid : IsIdWord n
  · rw [capitalize_of_isIdWord hid]
    exact ⟨fun _ => hid, fun _ => by decide⟩
  · obtain ⟨c, rest, hn, hc, _⟩ := h.chars
    have hlow : c.toNat < 0x80 := toNat_lt_of_isPlainChar (isPlainChar_of_isAlpha hc)
    have haccessor := h.accessorName
    unfold Go.accessorName at haccessor
    rw [isIdWord_iff h, isIdWord_iff haccessor, capitalize_toList hn hlow hid, hn, List.map_cons,
      List.map_cons, toLower_toUpper]

/-- Two fields are given by accessors of one name if their names differ in the case of the first
character at most, or if both are the word `id`. -/
theorem accessorName_eq_iff (hm : IsSchemaName m) (hn : IsSchemaName n) :
    accessorName m = accessorName n ↔
      uncapitalize m = uncapitalize n ∨ (IsIdWord m ∧ IsIdWord n) := by
  have hchars : ¬IsIdWord m → ¬IsIdWord n →
      (accessorName m = accessorName n ↔ uncapitalize m = uncapitalize n) := by
    intro hmid hnid
    obtain ⟨c, r, hmc, hc, _⟩ := hm.chars
    obtain ⟨d, s, hnd, hd, _⟩ := hn.chars
    have hclow : c.toNat < 0x80 := toNat_lt_of_isPlainChar (isPlainChar_of_isAlpha hc)
    have hdlow : d.toNat < 0x80 := toNat_lt_of_isPlainChar (isPlainChar_of_isAlpha hd)
    unfold accessorName
    rw [← String.toList_inj, ← String.toList_inj, capitalize_toList hmc hclow hmid,
      capitalize_toList hnd hdlow hnid, uncapitalize_toList hmc hclow,
      uncapitalize_toList hnd hdlow, List.cons_eq_cons, List.cons_eq_cons,
      toUpper_eq_iff_toLower_eq]
  constructor
  · intro h
    have hid : IsIdWord m ↔ IsIdWord n := by
      rw [← isIdWord_accessorName hm, h, isIdWord_accessorName hn]
    by_cases hmid : IsIdWord m
    · exact Or.inr ⟨hmid, hid.mp hmid⟩
    · exact Or.inl ((hchars hmid (mt hid.mpr hmid)).mp h)
  · rintro (h | ⟨hmid, hnid⟩)
    · have hid : IsIdWord m ↔ IsIdWord n := by
        rw [← isIdWord_uncapitalize hm, h, isIdWord_uncapitalize hn]
      by_cases hmid : IsIdWord m
      · unfold accessorName
        rw [capitalize_of_isIdWord hmid, capitalize_of_isIdWord (hid.mp hmid)]
      · exact (hchars hmid (mt hid.mpr hmid)).mpr h
    · unfold accessorName
      rw [capitalize_of_isIdWord hmid, capitalize_of_isIdWord hnid]

/-! ## A field and an accessor that meet -/

/-- A name that opens with an underscore stays as it is, also in upper case. -/
theorem names_of_underscore (h : IsSchemaName n) (hmark : n.toList.head? = some '_') :
    storageName n = n ∧ accessorName n = n := by
  obtain ⟨c, rest, hn, hc, _⟩ := h.chars
  have hlow : c.toNat < 0x80 := toNat_lt_of_isPlainChar (isPlainChar_of_isAlpha hc)
  obtain rfl : c = '_' := by
    rw [hn] at hmark
    exact Option.some.inj hmark
  have hlower : uncapitalize n = n := by
    rw [← String.toList_inj, uncapitalize_toList hn hlow, hn]
    rfl
  have hid : ¬IsIdWord n := by
    rw [isIdWord_iff h, hn]
    intro hc
    exact absurd (List.cons.inj hc).1 (by decide)
  constructor
  · rw [storageName_of_isSchemaName h, hlower, if_neg fun ht => ht.ends.1 hmark]
  · unfold accessorName
    rw [← String.toList_inj, capitalize_toList hn hlow hid, hn]
    rfl

/-- An identifier of a field opens in lower case. -/
theorem head_storageName (h : IsSchemaName n) {c : Char} (hc : n.toList.head? = some c) :
    (storageName n).toList.head? = some c.toLower := by
  obtain ⟨d, rest, hn, hd, _⟩ := h.chars
  have hlow : d.toNat < 0x80 := toNat_lt_of_isPlainChar (isPlainChar_of_isAlpha hd)
  have hfirst := uncapitalize_toList hn hlow
  rw [hn] at hc
  obtain rfl : d = c := Option.some.inj hc
  rw [storageName_of_isSchemaName h]
  split
  · rw [String.toList_append, hfirst]
    rfl
  · rw [hfirst]
    rfl

/-- The name of an accessor opens in upper case. -/
theorem head_accessorName (h : IsSchemaName n) {c : Char} (hc : n.toList.head? = some c) :
    (accessorName n).toList.head? = some c.toUpper := by
  obtain ⟨d, rest, hn, hd, _⟩ := h.chars
  have hlow : d.toNat < 0x80 := toNat_lt_of_isPlainChar (isPlainChar_of_isAlpha hd)
  rw [hn] at hc
  obtain rfl : d = c := Option.some.inj hc
  unfold accessorName
  by_cases hid : IsIdWord n
  · have hchars := (isIdWord_iff h).mp hid
    rw [hn, List.map_cons] at hchars
    have hupper : d.toUpper = 'i'.toUpper :=
      toUpper_eq_iff_toLower_eq.mpr (List.cons.inj hchars).1
    rw [capitalize_of_isIdWord hid, hupper]
    rfl
  · rw [capitalize_toList hn hlow hid]
    rfl

/-- A struct field and an accessor have one name only if it opens with an underscore, and then they
belong to one field. -/
theorem storageName_eq_accessorName_iff (hm : IsSchemaName m) (hn : IsSchemaName n) :
    storageName m = accessorName n ↔ m = n ∧ m.toList.head? = some '_' := by
  constructor
  · intro h
    obtain ⟨c, r, hmc, hc, _⟩ := hm.chars
    obtain ⟨d, s, hnd, hd, _⟩ := hn.chars
    have hmhead : m.toList.head? = some c := by rw [hmc]; rfl
    have hnhead : n.toList.head? = some d := by rw [hnd]; rfl
    -- no letter is both in lower and in upper case, so both names open with the other mark
    have hcase : c.toLower = d.toUpper := by
      have hhead := head_storageName hm hmhead
      rw [h, head_accessorName hn hnhead] at hhead
      exact (Option.some.inj hhead).symm
    have hcmark : c = '_' := by
      rw [isAlpha_of_toLower_eq_toUpper hcase] at hc
      exact hc.resolve_left Bool.false_ne_true
    have hdmark : d = '_' := by
      rw [← isAlpha_toUpper, ← hcase, hcmark] at hd
      exact hd.resolve_left (by decide)
    rw [hcmark] at hmhead
    rw [hdmark] at hnhead
    refine ⟨?_, hmhead⟩
    rw [← (names_of_underscore hm hmhead).1, h, (names_of_underscore hn hnhead).2]
  · rintro ⟨rfl, hmark⟩
    obtain ⟨hstorage, haccessor⟩ := names_of_underscore hm hmark
    rw [hstorage, haccessor]

/-! ## Structs -/

/-- The names of the members of the struct for a type: its fields, and then its accessors. -/
def memberNames (t : SchemaType) : List String :=
  t.fields.map (storageName ·.name) ++ t.fields.map (accessorName ·.name)

/-- Whether neither the identifiers nor the accessors of two fields meet. -/
def AreApart (m n : String) : Prop :=
  uncapitalize m ≠ uncapitalize n ∧ ¬(IsIdWord m ∧ IsIdWord n) ∧
    ¬(IsTaken (uncapitalize m) ∧ uncapitalize n = uncapitalize m ++ "_") ∧
    ¬(IsTaken (uncapitalize n) ∧ uncapitalize m = uncapitalize n ++ "_")

instance (m n : String) : Decidable (AreApart m n) :=
  inferInstanceAs (Decidable (_ ∧ _ ∧ _ ∧ _))

theorem areApart_iff (hm : IsSchemaName m) (hn : IsSchemaName n) :
    AreApart m n ↔ storageName m ≠ storageName n ∧ accessorName m ≠ accessorName n := by
  have hstorage := storageName_eq_iff hm hn
  have haccessor := accessorName_eq_iff hm hn
  constructor
  · rintro ⟨hcase, hid, hleft, hright⟩
    constructor
    · intro he
      rcases hstorage.mp he with h | h | h
      · exact hcase h
      · exact hleft h
      · exact hright h
    · intro he
      rcases haccessor.mp he with h | h
      · exact hcase h
      · exact hid h
  · rintro ⟨hs, ha⟩
    refine ⟨?_, ?_, ?_, ?_⟩
    · exact fun h => hs (hstorage.mpr (Or.inl h))
    · exact fun h => ha (haccessor.mpr (Or.inr h))
    · exact fun h => hs (hstorage.mpr (Or.inr (Or.inl h)))
    · exact fun h => hs (hstorage.mpr (Or.inr (Or.inr h)))

variable {t : SchemaType}

/-- The members of a struct have different names if and only if no field opens with an underscore
and the fields are apart from each other. -/
theorem nodup_memberNames_iff (h : ∀ f ∈ t.fields, IsSchemaName f.name) :
    (memberNames t).Nodup ↔
      (∀ f ∈ t.fields, f.name.toList.head? ≠ some '_') ∧
        t.fields.Pairwise fun f f' => AreApart f.name f'.name := by
  have hpairs : t.fields.Pairwise (fun f f' => AreApart f.name f'.name) ↔
      (t.fields.map (storageName ·.name)).Nodup ∧ (t.fields.map (accessorName ·.name)).Nodup := by
    unfold List.Nodup
    rw [List.pairwise_map, List.pairwise_map, ← List.pairwise_and_iff]
    apply List.Pairwise.iff_of_mem
    intro f f' hf hf'
    exact areApart_iff (h f hf) (h f' hf')
  have hmeet : (∀ a ∈ t.fields.map (storageName ·.name), ∀ b ∈ t.fields.map (accessorName ·.name),
      a ≠ b) ↔ ∀ f ∈ t.fields, f.name.toList.head? ≠ some '_' := by
    constructor
    · intro hne f hf hmark
      refine hne _ (List.mem_map_of_mem hf) _ (List.mem_map_of_mem hf) ?_
      exact (storageName_eq_accessorName_iff (h f hf) (h f hf)).mpr ⟨rfl, hmark⟩
    · intro hne a ha b hb
      obtain ⟨f, hf, rfl⟩ := List.mem_map.mp ha
      obtain ⟨f', hf', rfl⟩ := List.mem_map.mp hb
      intro hsame
      exact hne f hf ((storageName_eq_accessorName_iff (h f hf) (h f' hf')).mp hsame).2
  unfold memberNames
  rw [List.nodup_append, hpairs, hmeet]
  constructor
  · rintro ⟨hstorage, haccessor, hmark⟩
    exact ⟨hmark, hstorage, haccessor⟩
  · rintro ⟨hmark, hstorage, haccessor⟩
    exact ⟨hstorage, haccessor, hmark⟩

/-- An object type comes to a struct with a field and an accessor for each of its fields. Their
names differ if and only if no field opens with an underscore and the fields are apart from each
other. -/
theorem renderType_memberNames {g : Generator} {package : String} {goType : SchemaField → String}
    (h : IsPlain g package t goType) (hkind : t.kind = .object) (files : Files)
    (programs : Programs) {s : RunState} (hs : IsFaithful s) :
    ((g.renderType files programs t).run s).1 =
      .ok (objectText g.formatter package g.settings.addComments.isGiven (g.fieldImports t) t
        goType) ∧
    ((memberNames t).Nodup ↔
      (∀ f ∈ t.fields, f.name.toList.head? ≠ some '_') ∧
        t.fields.Pairwise fun f f' => AreApart f.name f'.name) :=
  ⟨(h.settles_object hkind files programs).result hs, nodup_memberNames_iff h.fields⟩

/-- A type with a field whose identifier gets a suffix. -/
def bookType : SchemaType where
  kind := .object
  name := "Book"
  fields :=
    [{ name := "id", type := .named .scalar "ID", owner := "Book" },
      { name := "type", type := .named .scalar "ID", owner := "Book" },
      { name := "types", type := .named .scalar "ID", owner := "Book" }]

theorem renderType_memberNames_bookType : (memberNames bookType).Nodup := by
  have hplain : IsPlain plainGenerator "resolvers" bookType fun _ => "*graphql.ID" :=
    isPlain_plainGenerator (by decide) (by decide) (by decide) (by decide +kernel)
  obtain ⟨_, hnames⟩ := renderType_memberNames hplain rfl {} [] (isFaithful_initialState [])
  refine hnames.mpr ⟨by decide, ?_⟩
  decide +kernel

/-- A type with a field that opens with an underscore. -/
def markedType : SchemaType where
  kind := .object
  name := "Post"
  fields := [{ name := "_id", type := .named .scalar "String", owner := "Post" }]

/-- The struct of a type has a field and a method of one name, although the type has one field. -/
theorem renderType_markedType :
    (markedType.fields.map (·.name)).Nodup ∧ ¬(memberNames markedType).Nodup ∧
    ((plainGenerator.renderType {} [] markedType).run (initialState [])).1 =
      .ok ("package resolvers\n\ntype PostResolver struct \x7b\n\t_id *string\n\x7d\n\n" ++
        "// _id resolves Post._id.\nfunc (r *PostResolver) _id() *string \x7b\n" ++
        "\treturn r._id\n\x7d\n") := by
  have hplain : IsPlain plainGenerator "resolvers" markedType fun _ => "*string" :=
    isPlain_plainGenerator (by decide) (by decide) (by decide) (by decide +kernel)
  refine ⟨by decide, by decide +kernel, ?_⟩
  rw [(hplain.settles_object rfl {} []).result (isFaithful_initialState [])]
  decide +kernel

end ResolverGen.Go
