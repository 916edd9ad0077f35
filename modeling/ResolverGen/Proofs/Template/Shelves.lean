import ResolverGen.Proofs.Files.Trees
import ResolverGen.Proofs.FirstFailures
import ResolverGen.Go.Templates
import ResolverGen.Template.Store

/-!
# What stands on shelves

A shelf holds a text under the names that lead down to its file, put together by slashes. Under such a
name the text is read, and of the names that open with a scope a shelf lists just those that it holds.
-/
namespace ResolverGen

open Text

/-! ## Names of files in directories -/

/-- A name that leads down from a shelf, directory by directory. -/
def IsDownward (name : String) : Prop :=
  ∀ part ∈ splitAt '/' name.toList, Files.IsFileName (String.ofList part)

theorem toList_intercalate_slash (names : List String) :
    ("/".intercalate names).toList = joinWith ['/'] (names.map String.toList) := by
  rw [String.toList_intercalate]
  change List.intercalate ['/'] (names.map String.toList) = _
  induction names with
  | nil => rfl
  | cons name rest ih =>
    cases rest with
    | nil => simp [joinWith]
    | cons next rest =>
      rw [List.map_cons, joinWith_cons _ _ (by simp), ← ih]
      simp [List.intercalate]

/-- Names that were put together are taken apart again. -/
theorem splitAt_intercalate {names : List String} (hne : names ≠ [])
    (h : ∀ name ∈ names, Files.IsFileName name) :
    splitAt '/' ("/".intercalate names).toList = names.map String.toList := by
  rw [toList_intercalate_slash]
  refine splitAt_joinWith (by simpa using hne) ?_
  intro part hpart
  obtain ⟨name, hname, rfl⟩ := List.mem_map.mp hpart
  exact (Files.isFileName_iff.mp (h name hname)).2.2.2

theorem isDownward_intercalate {names : List String} (hne : names ≠ [])
    (h : ∀ name ∈ names, Files.IsFileName name) : IsDownward ("/".intercalate names) := by
  unfold IsDownward
  rw [splitAt_intercalate hne h]
  intro part hpart
  obtain ⟨name, hname, rfl⟩ := List.mem_map.mp hpart
  rw [String.ofList_toList]
  exact h name hname

/-- The names that a downward name leads through. -/
def partsOf (name : String) : List String := (splitAt '/' name.toList).map String.ofList

theorem IsDownward.isFileName {name : String} (h : IsDownward name) :
    ∀ part ∈ partsOf name, Files.IsFileName part := by
  intro part hpart
  obtain ⟨chars, hchars, rfl⟩ := List.mem_map.mp hpart
  exact h chars hchars

theorem intercalate_partsOf (name : String) : "/".intercalate (partsOf name) = name := by
  apply String.toList_injective
  rw [toList_intercalate_slash, partsOf, List.map_map]
  have hid : String.toList ∘ String.ofList = id := funext fun _ => String.toList_ofList
  rw [hid, List.map_id, joinWith_splitAt]

theorem partsOf_intercalate {names : List String} (hne : names ≠ [])
    (h : ∀ name ∈ names, Files.IsFileName name) : partsOf ("/".intercalate names) = names := by
  rw [partsOf, splitAt_intercalate hne h, List.map_map]
  have hid : String.ofList ∘ String.toList = id := funext fun _ => String.ofList_toList
  rw [hid, List.map_id]

theorem pieces?_of_isDownward {name : String} (h : IsDownward name) :
    Shelf.pieces? name = some (partsOf name) := by
  have hup : ['.', '.'] ∉ splitAt '/' name.toList := fun hmem => (h _ hmem).2 rfl
  have hkept : ∀ part ∈ splitAt '/' name.toList,
      (decide (part ≠ []) && decide (part ≠ ['.'])) = true := by
    intro part hpart
    obtain ⟨hne, hdot, -, -⟩ := Files.isFileName_iff.mp (h part hpart)
    have hne' : part ≠ [] := by
      rintro rfl
      exact hne rfl
    have hdot' : part ≠ ['.'] := by
      rintro rfl
      exact hdot rfl
    simp [hne', hdot']
  unfold Shelf.pieces? Path.namesOf
  rw [if_neg hup, List.filter_eq_self.mpr hkept]
  rfl

/-- A name that leads down still does with a mark in it. -/
theorem IsDownward.insert {name longer : String} {s t mark : List Char} (h : IsDownward name)
    (hname : name.toList = s ++ t) (hlonger : longer.toList = s ++ (mark ++ t))
    (hmark : '/' ∉ mark) (hlength : 2 < mark.length) : IsDownward longer := by
  obtain ⟨before, a, b, after, hparts, hinserted⟩ := exists_splitAt_insert hmark s t
  unfold IsDownward at h ⊢
  rw [hname, hparts] at h
  rw [hlonger]
  intro part hpart
  have hslash : '/' ∉ part := not_mem_of_mem_splitAt hpart
  rw [hinserted] at hpart
  rcases List.mem_append.mp hpart with hpart | hpart
  · exact h part (List.mem_append_left _ hpart)
  rcases List.mem_cons.mp hpart with rfl | hpart
  · -- with the mark it is too long for a name of dots
    refine Files.isFileName_of_not_mem (by simpa using hslash) ?_
    simp only [String.toList_ofList, List.length_append]
    omega
  · exact h part (List.mem_append_right before (List.mem_cons_of_mem _ hpart))

/-! ## Shelves -/

/-- Whether a file is a text in UTF-8. -/
def Node.isText : Node → Bool
  | .file content => (ofFile content).isOk
  | .directory => true

namespace Shelf

variable {files : Files} {shelf : Shelf} {name text : String} {scope : TemplateScope}

/-- A shelf has a text under a name: the file that the name leads down to. -/
inductive Holds (files : Files) : Shelf → String → String → Prop
  | packaged {templates : Table String} {name text : String} :
      templates.get? name = some text → Holds files (.packaged templates) name text
  | directory {path : Path} {names : List String} {content : Text.Bytes} {name text : String} :
      files.HoldsBelow path names content → "/".intercalate names = name →
        ofFile content = .ok text → Holds files (.directory path) name text

/-- What stands on a shelf: packaged templates have the names of files, and a directory, whose path
systems can be asked about, holds texts in UTF-8. -/
def IsSound (files : Files) : Shelf → Prop
  | packaged templates => ∀ name ∈ templates.keys, IsDownward name
  | directory path =>
    (∀ part ∈ path.parts, '\x00' ∉ part.toList) ∧
      ∀ names content, files.HoldsBelow path names content → ∃ text, ofFile content = .ok text

theorem IsSound.checkName (h : shelf.IsSound files) : shelf.checkName = .ok () := by
  cases shelf with
  | packaged templates => rfl
  | directory path =>
    change (Files.checkCharacters path.parts).mapError _ = _
    rw [Files.checkCharacters_eq_ok_iff.mpr h.1]
    rfl

theorem isSound_directory {path : Path} (hpath : ∀ part ∈ path.parts, '\x00' ∉ part.toList)
    (htexts : ∀ entry ∈ files.nodes, entry.2.isText = true) :
    (Shelf.directory path).IsSound files := by
  refine ⟨hpath, fun names content hholds => ?_⟩
  obtain ⟨-, place, -, hmem⟩ := hholds
  exact exists_of_isOk (htexts _ hmem)

theorem holds_packaged_iff {templates : Table String} :
    Holds files (.packaged templates) name text ↔ templates.get? name = some text :=
  ⟨fun h => by cases h; assumption, .packaged⟩

theorem holds_directory_iff {path : Path} (hname : IsDownward name) :
    Holds files (.directory path) name text ↔
      ∃ content, files.HoldsBelow path (partsOf name) content ∧ ofFile content = .ok text := by
  constructor
  · intro h
    cases h with
    | directory hbelow hjoined htext =>
      rename_i names content
      have hne : names ≠ [] := by
        rintro rfl
        have hempty : Files.IsFileName "" := by
          subst hjoined
          exact hname [] (by simp [splitAt])
        exact (Files.isFileName_iff.mp hempty).1 rfl
      have hparts : partsOf name = names := by
        rw [← hjoined]
        exact partsOf_intercalate hne fun part hpart => (hbelow.1 part hpart).isFileName
      exact ⟨content, hparts ▸ hbelow, htext⟩
  · rintro ⟨content, hbelow, htext⟩
    exact .directory hbelow (intercalate_partsOf name) htext

/-- What is read under a name that leads down is what the shelf holds. -/
theorem source_of_holds (htree : files.IsTree) (hname : IsDownward name)
    (h : shelf.Holds files name text) : shelf.source files name = .ok (some text) := by
  cases shelf with
  | packaged templates =>
    rw [source, pieces?_of_isDownward hname, Option.bind_some, intercalate_partsOf]
    rw [holds_packaged_iff.mp h]
  | directory path =>
    obtain ⟨content, hbelow, htext⟩ := (holds_directory_iff hname).mp h
    rw [source, pieces?_of_isDownward hname, Option.bind_some,
      (htree.file?_join_iff hname.isFileName).mpr hbelow]
    simp [htext, Except.map]

theorem source_of_not_holds (htree : files.IsTree) (hsound : shelf.IsSound files)
    (hname : IsDownward name) (h : ∀ text, ¬shelf.Holds files name text) :
    shelf.source files name = .ok none := by
  cases shelf with
  | packaged templates =>
    rw [source, pieces?_of_isDownward hname, Option.bind_some, intercalate_partsOf]
    cases hget : templates.get? name with
    | none => rfl
    | some text => exact absurd (.packaged hget) (h text)
  | directory path =>
    rw [source, pieces?_of_isDownward hname, Option.bind_some]
    cases hfile : files.file? (path.join ⟨"", partsOf name⟩) with
    | none => rfl
    | some content =>
      have hbelow := (htree.file?_join_iff hname.isFileName).mp hfile
      obtain ⟨text, htext⟩ := hsound.2 _ content hbelow
      exact absurd ((holds_directory_iff hname).mpr ⟨content, hbelow, htext⟩) (h text)

/-- A name with a scope in front. -/
def Opens (scope : TemplateScope) (name : String) : Prop :=
  ∃ rest : List Char, name.toList = scope.label.toList ++ '/' :: rest

/-- A name that opens with a scope does not open with a base. -/
theorem Opens.of_intercalate {names : List String} {first : String}
    (h : Opens scope ("/".intercalate names)) (hfirst : first ∈ names.head?) :
    first ≠ ".." ∧ first ≠ "/" := by
  obtain ⟨rest, hrest⟩ := h
  obtain ⟨others, rfl⟩ := List.head?_eq_some_iff.mp hfirst
  have hhead : ∀ c, first.toList.head? = some c → scope.label.toList.head? = some c := by
    intro c hc
    obtain ⟨chars, hchars⟩ := List.head?_eq_some_iff.mp hc
    have hopen : (joinWith ['/'] ((first :: others).map String.toList)).head? = some c := by
      cases others with
      | nil => simp [joinWith, hchars]
      | cons next others =>
        rw [List.map_cons, joinWith_cons _ _ (by simp), hchars]
        rfl
    rw [← toList_intercalate_slash, hrest] at hopen
    cases scope <;> exact hopen
  constructor
  · rintro rfl
    have hdot := hhead '.' rfl
    cases scope <;> exact absurd hdot (by decide)
  · rintro rfl
    have hslash := hhead '/' rfl
    cases scope <;> exact absurd hslash (by decide)

/-- A shelf lists the names with a scope in front under which it holds a text. -/
theorem mem_names_iff (htree : files.IsTree) (hsound : shelf.IsSound files)
    (hname : Opens scope name) :
    name ∈ shelf.names files ↔ ∃ text, shelf.Holds files name text := by
  cases shelf with
  | packaged templates =>
    simp only [holds_packaged_iff]
    rw [← Option.isSome_iff_exists, Table.get?_isSome]
    rfl
  | directory path =>
    change name ∈ (files.below path).map ("/".intercalate ·) ↔ _
    rw [List.mem_map]
    constructor
    · rintro ⟨names, hbelow, rfl⟩
      obtain ⟨place, hwalk, content, hmem⟩ := Files.mem_below_iff.mp hbelow
      have hnode : files.node? (place ++ names) ≠ none := by simp [htree.node?_of_mem hmem]
      have hentries : ∀ part ∈ names, Files.IsEntryName part := by
        rcases htree.isEntryName_below hnode with hentries | ⟨first, hfirst, hbase⟩
        · exact hentries
        · obtain ⟨hup, hroot⟩ := hname.of_intercalate hfirst
          exact absurd hbase (by simp [hup, hroot])
      have hholds : files.HoldsBelow path names content := ⟨hentries, place, hwalk, hmem⟩
      obtain ⟨text, htext⟩ := hsound.2 names content hholds
      exact ⟨text, .directory hholds rfl htext⟩
    · rintro ⟨text, h⟩
      cases h with
      | directory hbelow hjoined htext =>
        obtain ⟨-, place, hwalk, hmem⟩ := hbelow
        exact ⟨_, Files.mem_below_iff.mpr ⟨place, hwalk, _, hmem⟩, hjoined⟩

/-- Names under which a shelf holds a text lead down from it. -/
theorem isDownward_of_holds (hsound : shelf.IsSound files) (hname : Opens scope name)
    (h : shelf.Holds files name text) : IsDownward name := by
  cases h with
  | packaged hget =>
    refine hsound name ((Table.get?_isSome _ _).mp ?_)
    rw [hget]
    rfl
  | directory hbelow hjoined htext =>
    rw [← hjoined]
    refine isDownward_intercalate ?_ fun part hpart => (hbelow.1 part hpart).isFileName
    rintro rfl
    obtain ⟨rest, hrest⟩ := hname
    rw [← hjoined] at hrest
    cases scope <;> cases hrest

end Shelf

instance (name : String) : Decidable (IsDownward name) :=
  inferInstanceAs (Decidable (∀ part ∈ splitAt '/' name.toList, _))

theorem Go.isSound_packagedTemplates (files : Files) :
    (Shelf.packaged Go.packagedTemplates).IsSound files := by
  have hnames : ∀ name ∈ Go.packagedTemplates.keys, IsDownward name := by decide
  exact hnames

end ResolverGen
