import ResolverGen.Proofs.Settings.ReadSettings
import ResolverGen.Proofs.Tables

/-!
# Variants in settings

What a configured value says about variants is a relation of its own: an object says it entry by
entry, a list item by item, and a value that is not given stands for the default variant. Variants are
read off exactly the values that say something, and as these say it. So wherever settings that were
read are asked for variants there are some, and all of them have names.
-/
namespace ResolverGen

/-! ## Lists that are worked through -/

section

variable {ε α β γ : Type}

theorem exists_mem_of_forall₂ {R : α → β → Prop} {xs : List α} {ys : List β}
    (h : List.Forall₂ R xs ys) {y : β} (hy : y ∈ ys) : ∃ x ∈ xs, R x y := by
  induction h with
  | nil => cases hy
  | cons hxy _ ih =>
    rcases List.mem_cons.mp hy with rfl | hy
    · exact ⟨_, List.mem_cons_self, hxy⟩
    · obtain ⟨x, hx, hxy⟩ := ih hy
      exact ⟨x, List.mem_cons_of_mem _ hx, hxy⟩

theorem exists_mem_of_mapM_eq_ok {f : α → Except ε β} {xs : List α} {ys : List β}
    (h : xs.mapM f = .ok ys) {y : β} (hy : y ∈ ys) : ∃ x ∈ xs, f x = .ok y :=
  exists_mem_of_forall₂ (mapM_eq_ok_iff.mp h) hy

/-- Two relations one after the other, on lists and on their members. -/
theorem exists_forall₂_and_iff {R : α → β → Prop} {S : β → γ → Prop} {xs : List α} {zs : List γ} :
    (∃ ys, List.Forall₂ R xs ys ∧ List.Forall₂ S ys zs) ↔
      List.Forall₂ (fun x z => ∃ y, R x y ∧ S y z) xs zs := by
  constructor
  · rintro ⟨ys, hxs, hys⟩
    induction hxs generalizing zs with
    | nil =>
      cases hys
      exact .nil
    | cons hx _ ih =>
      cases hys with
      | cons hy hys => exact .cons ⟨_, hx, hy⟩ (ih hys)
  · intro h
    induction h with
    | nil => exact ⟨[], .nil, .nil⟩
    | cons hxz _ ih =>
      obtain ⟨y, hx, hz⟩ := hxz
      obtain ⟨ys, hxs, hzs⟩ := ih
      exact ⟨y :: ys, .cons hx hxs, .cons hz hzs⟩

end

/-! ## What a value says -/

/-- A variant as an entry of an object gives it: under its name, its parameters or null. -/
inductive EntryDescribes : String × Json → Variant → Prop
  | bare {name : String} (hname : name ≠ "") : EntryDescribes (name, .null) ⟨name, []⟩
  | withParams {name : String} {params : Table Json} (hname : name ≠ "") :
    EntryDescribes (name, .obj params) ⟨name, params⟩

/-- A variant as an item of a list gives it: a name, or an object with a name and perhaps
parameters. -/
inductive ItemDescribes : Json → Variant → Prop
  | name {name : String} (hname : name ≠ "") : ItemDescribes (.str name) ⟨name, []⟩
  | bare {entries : Table Json} {name : String}
    (hentry : Json.valueAt? entries "name" = some (.str name)) (hname : name ≠ "")
    (hparams : (Json.entryOrNull entries "params").isGiven = false) :
    ItemDescribes (.obj entries) ⟨name, []⟩
  | withParams {entries params : Table Json} {name : String}
    (hentry : Json.valueAt? entries "name" = some (.str name)) (hname : name ≠ "")
    (hparams : Json.valueAt? entries "params" = some (.obj params)) :
    ItemDescribes (.obj entries) ⟨name, params⟩

/-- The variants that a configured value stands for, in order. -/
inductive Describes : Json → List Variant → Prop
  | nothing {raw : Json} (h : raw.isGiven = false) : Describes raw [⟨"default", []⟩]
  | table {entries : Table Json} {variants : List Variant} (h : entries ≠ [])
    (hentries : List.Forall₂ EntryDescribes entries variants) : Describes (.obj entries) variants
  | list {items : List Json} {variants : List Variant} (h : items ≠ [])
    (hitems : List.Forall₂ ItemDescribes items variants) : Describes (.arr items) variants

variable {owner : String} {raw name params : Json} {v : Variant} {variants : List Variant}

/-! ## One variant -/

theorem variantOf_eq_ok_iff :
    variantOf owner name params = .ok v ↔
      ∃ text, name = .str text ∧ text ≠ "" ∧
        ((params = .null ∧ v = ⟨text, []⟩) ∨
          ∃ entries, params = .obj entries ∧ v = ⟨text, entries⟩) := by
  constructor
  · intro h
    cases name with
    | str text =>
      unfold variantOf at h
      dsimp only at h
      split at h
      · cases h
      · rename_i htext
        refine ⟨text, rfl, htext, ?_⟩
        cases params with
        | null => exact Or.inl ⟨rfl, (Except.ok.inj h).symm⟩
        | obj entries => exact Or.inr ⟨entries, rfl, (Except.ok.inj h).symm⟩
        | _ => cases h
    | _ => cases h
  · rintro ⟨text, rfl, htext, ⟨rfl, rfl⟩ | ⟨entries, rfl, rfl⟩⟩ <;> exact if_neg htext

theorem variantOf_entry_iff {entry : String × Json} :
    variantOf owner (.str entry.1) entry.2 = .ok v ↔ EntryDescribes entry v := by
  obtain ⟨key, params⟩ := entry
  rw [variantOf_eq_ok_iff]
  constructor
  · rintro ⟨text, htext, hne, ⟨rfl, rfl⟩ | ⟨entries, rfl, rfl⟩⟩
    · obtain rfl := Json.str.inj htext
      exact .bare hne
    · obtain rfl := Json.str.inj htext
      exact .withParams hne
  · rintro (hne | hne)
    · exact ⟨_, rfl, hne, Or.inl ⟨rfl, rfl⟩⟩
    · exact ⟨_, rfl, hne, Or.inr ⟨_, rfl, rfl⟩⟩

theorem entryOrNull_eq_obj_iff {entries params : Table Json} {key : String} :
    Json.entryOrNull entries key = .obj params ↔
      Json.valueAt? entries key = some (.obj params) := by
  unfold Json.entryOrNull Json.valueAt?
  cases entries.get? key <;> simp

/-- An item of a list is read in two steps, the first of which does not look at what stands for the
name. -/
theorem variantOf_item_iff {item : Json} :
    (∃ entry, variantEntry owner item = .ok entry ∧ variantOf owner entry.1 entry.2 = .ok v) ↔
      ItemDescribes item v := by
  constructor
  · rintro ⟨⟨name, params⟩, hentry, hv⟩
    obtain ⟨text, rfl, htext, hparams⟩ := variantOf_eq_ok_iff.mp hv
    cases item with
    | str s =>
      cases hentry
      rcases hparams with ⟨hnull, -⟩ | ⟨entries, hobj, rfl⟩
      · cases hnull
      · cases hobj
        exact .name htext
    | obj entries =>
      rw [variantEntry] at hentry
      split at hentry
      · cases hentry
      · rename_i name hname
        obtain ⟨rfl, hvalue⟩ := Prod.mk.inj (Except.ok.inj hentry)
        by_cases hgiven : (Json.entryOrNull entries "params").isGiven = true
        · rw [if_pos hgiven] at hvalue
          rcases hparams with ⟨rfl, -⟩ | ⟨params, rfl, rfl⟩
          · rw [hvalue] at hgiven
            cases hgiven
          · exact .withParams hname htext (entryOrNull_eq_obj_iff.mp hvalue)
        · rw [if_neg hgiven] at hvalue
          rcases hparams with ⟨rfl, -⟩ | ⟨params, rfl, rfl⟩
          · cases hvalue
          · cases hvalue
            exact .bare hname htext (Bool.eq_false_iff.mpr hgiven)
    | _ => cases hentry
  · intro h
    cases h with
    | name hname => exact ⟨_, rfl, if_neg hname⟩
    | bare hentry hname hparams =>
      refine ⟨(.str _, .obj []), ?_, if_neg hname⟩
      rw [variantEntry, hentry]
      simp only [hparams, Bool.false_eq_true, if_false]
    | @withParams entries params text hentry hname hparams =>
      have hvalue : Json.entryOrNull entries "params" = .obj params :=
        entryOrNull_eq_obj_iff.mpr hparams
      refine ⟨(.str text, .obj params), ?_, if_neg hname⟩
      rw [variantEntry, hentry]
      simp only [hvalue]
      cases params <;> rfl

/-! ## All variants -/

/-- A value that is given says something if it is an object or a list, about each entry or item. -/
theorem readVariants_given (hgiven : raw.isGiven = true) :
    readVariants owner raw = .ok variants ↔
      (∃ entries, raw = .obj entries ∧ List.Forall₂ EntryDescribes entries variants) ∨
        ∃ items, raw = .arr items ∧ List.Forall₂ ItemDescribes items variants := by
  rw [readVariants, if_pos hgiven]
  cases raw with
  | obj entries =>
    have hread : (variantEntries owner (.obj entries) >>= fun read =>
        read.mapM fun entry => variantOf owner entry.1 entry.2) = .ok variants ↔
          List.Forall₂ EntryDescribes entries variants := by
      change (entries.map fun entry => (Json.str entry.1, entry.2)).mapM _ = _ ↔ _
      simp only [mapM_eq_ok_iff, List.forall₂_map_left_iff, variantOf_entry_iff]
    simp [hread]
  | arr items =>
    have hread : (variantEntries owner (.arr items) >>= fun read =>
        read.mapM fun entry => variantOf owner entry.1 entry.2) = .ok variants ↔
          List.Forall₂ ItemDescribes items variants := by
      simp only [variantEntries, bind_eq_ok_iff, mapM_eq_ok_iff, exists_forall₂_and_iff,
        variantOf_item_iff]
    simp [hread]
  | _ => simp [variantEntries, bind, Except.bind]

/-- Variants are read off the values that stand for some, and these are read. -/
theorem readVariants_eq_ok_iff :
    readVariants owner raw = .ok variants ↔ Describes raw variants := by
  cases hgiven : raw.isGiven with
  | false =>
    rw [readVariants, hgiven, if_neg (by decide)]
    constructor
    · intro h
      cases h
      exact .nothing hgiven
    · rintro (_ | ⟨hne, _⟩ | ⟨hne, _⟩)
      · rfl
      · simp [Json.isGiven, hne] at hgiven
      · simp [Json.isGiven, hne] at hgiven
  | true =>
    rw [readVariants_given hgiven]
    constructor
    · rintro (⟨entries, rfl, h⟩ | ⟨items, rfl, h⟩)
      · exact .table (by rintro rfl; cases hgiven) h
      · exact .list (by rintro rfl; cases hgiven) h
    · rintro (hnone | ⟨_, h⟩ | ⟨_, h⟩)
      · rw [hgiven] at hnone
        cases hnone
      · exact Or.inl ⟨_, rfl, h⟩
      · exact Or.inr ⟨_, rfl, h⟩

/-! ## Variants that are looked up -/

/-- Variants of which there are some, all with names. -/
def AreNamed (variants : List Variant) : Prop := variants ≠ [] ∧ ∀ v ∈ variants, v.name ≠ ""

theorem areNamed_default : AreNamed defaultVariants := by
  simp [AreNamed, defaultVariants, defaultVariant]

theorem areNamed_of_forall₂ {α : Type} {R : α → Variant → Prop} {xs : List α} (hne : xs ≠ [])
    (hall : List.Forall₂ R xs variants) (hnamed : ∀ x v, R x v → v.name ≠ "") :
    AreNamed variants := by
  constructor
  · rintro rfl
    exact hne (List.forall₂_nil_right_iff.mp hall)
  · intro v hv
    obtain ⟨x, -, hx⟩ := exists_mem_of_forall₂ hall hv
    exact hnamed x v hx

theorem Describes.areNamed (h : Describes raw variants) : AreNamed variants := by
  cases h with
  | nothing _ => exact areNamed_default
  | table hne hentries =>
    exact areNamed_of_forall₂ hne hentries fun entry v hv => by cases hv <;> assumption
  | list hne hitems =>
    exact areNamed_of_forall₂ hne hitems fun item v hv => by cases hv <;> assumption

theorem AreNamed.orDefault (h : AreNamed variants) : AreNamed (orDefault variants) := by
  rw [orDefault_of_ne_nil h.1]
  exact h

theorem FieldSettings.areNamed_of_read {f : FieldSettings}
    (h : FieldSettings.read owner raw = .ok f) : AreNamed f.templates := by
  obtain ⟨entries, -, h⟩ := bind_eq_ok_iff.mp h
  obtain ⟨variants, hread, h⟩ := bind_eq_ok_iff.mp h
  cases h
  exact (readVariants_eq_ok_iff.mp hread).areNamed.orDefault

/-- Settings of a type whose variants, and those of its fields, are named. -/
structure TypeSettings.AreNamed (t : TypeSettings) : Prop where
  templates : ResolverGen.AreNamed t.templates
  fields : ∀ entry ∈ t.fields, ResolverGen.AreNamed entry.2.templates

theorem TypeSettings.areNamed_of_read {t : TypeSettings} (h : TypeSettings.read owner raw = .ok t) :
    t.AreNamed := by
  obtain ⟨entries, -, h⟩ := bind_eq_ok_iff.mp h
  obtain ⟨rawFields, -, h⟩ := bind_eq_ok_iff.mp h
  obtain ⟨variants, hread, h⟩ := bind_eq_ok_iff.mp h
  obtain ⟨fields, hfields, h⟩ := bind_eq_ok_iff.mp h
  cases h
  refine ⟨(readVariants_eq_ok_iff.mp hread).areNamed.orDefault, fun entry hentry => ?_⟩
  obtain ⟨rawField, -, hfield⟩ := exists_mem_of_mapM_eq_ok hfields hentry
  obtain ⟨f, hf, hentry⟩ := bind_eq_ok_iff.mp hfield
  cases hentry
  exact FieldSettings.areNamed_of_read hf

theorem TypeSettings.AreNamed.field {t : TypeSettings} (h : t.AreNamed) (name : String) :
    ResolverGen.AreNamed (t.field name).templates := by
  rw [TypeSettings.field]
  cases hget : t.fields.get? name with
  | none => exact areNamed_default
  | some f => exact h.fields _ (Table.mem_of_get? hget)

theorem areNamed_of_readTypes {types : Table TypeSettings} (h : readTypes raw = .ok types) :
    ∀ entry ∈ types, entry.2.AreNamed := by
  intro entry hentry
  unfold readTypes at h
  split at h
  · split at h
    · obtain ⟨rawType, -, htype⟩ := exists_mem_of_mapM_eq_ok h hentry
      obtain ⟨t, ht, hentry⟩ := bind_eq_ok_iff.mp htype
      cases hentry
      exact TypeSettings.areNamed_of_read ht
    · cases h
  · cases h
    cases hentry

theorem Settings.areNamed_of_read {values : Table Json} {settings : Settings}
    (h : Settings.read values = .ok settings) (name : String) : (settings.type name).AreNamed := by
  have htypes := (Settings.read_eq_ok_iff.mp h).types
  rw [Settings.type]
  cases hget : Table.get? settings.types name with
  | none => exact ⟨areNamed_default, fun entry hentry => by cases hentry⟩
  | some t => exact areNamed_of_readTypes htypes _ (Table.mem_of_get? hget)

/-- The variants of a type by their names, and those of one of its fields as a list. -/
def blogVariants : Json :=
  .obj [("default", .null), ("constructor", .obj [("name", .str "MakePost")])]

def blogFieldVariants : Json :=
  .arr [.str "default", .obj [("name", .str "setter"), ("params", .arr [])]]

def blogSettings : Table Json :=
  [("types", .obj [("Post", .obj
    [("templates", blogVariants),
      ("fields", .obj [("id", .obj [("templates", blogFieldVariants)])])])])]

end ResolverGen
