import Mathlib.Data.List.Induction
import ResolverGen.Proofs.Files.Questions
import ResolverGen.Proofs.Files.Writing
import ResolverGen.Proofs.Text.EndedLines

/-!
# Files as a tree

Every file and every directory stands in a directory, under a name that systems take. So what is
listed below a directory is found again by the names that lead down to it, and no other way down leads
to a file.
-/
namespace ResolverGen.Files

variable {files : Files} {p : Path} {origin place : Place} {names rest : List String} {name : String}
  {content : Text.Bytes}

/-! ## Names -/

/-- Parts of a path that was read are no dots alone, and hold no slash. -/
theorem of_mem_namesOf {s : List Char} (h : name ∈ Path.namesOf s) :
    name ≠ "" ∧ name ≠ "." ∧ '/' ∉ name.toList := by
  obtain ⟨part, hpart, rfl⟩ := List.mem_map.mp h
  obtain ⟨hpart, hkept⟩ := List.mem_filter.mp hpart
  obtain ⟨hne, hdot⟩ : part ≠ [] ∧ part ≠ ['.'] := by simpa using hkept
  refine ⟨?_, ?_, ?_⟩
  · simpa using hne
  · exact fun h => hdot (String.ofList_injective h)
  · simpa using Text.not_mem_of_mem_splitAt hpart

/-- Names of files are those that are left alone when a path is read, and do not lead up. -/
theorem isFileName_iff :
    IsFileName name ↔ name ≠ "" ∧ name ≠ "." ∧ name ≠ ".." ∧ '/' ∉ name.toList := by
  constructor
  · rintro ⟨hpath, hup⟩
    obtain ⟨-, hnames⟩ := Path.mk.inj hpath
    obtain ⟨hne, hdot, hslash⟩ := of_mem_namesOf (hnames ▸ List.mem_singleton_self name)
    exact ⟨hne, hdot, hup, hslash⟩
  · rintro ⟨hne, hdot, hup, hslash⟩
    have hroot : Path.rootOf name.toList = "" := by
      have hnone : name.toList.takeWhile (· = '/') = [] := by
        rw [List.takeWhile_eq_nil_iff]
        intro hpos h
        exact hslash (by simpa using (of_decide_eq_true h) ▸ List.getElem_mem hpos)
      unfold Path.rootOf
      rw [hnone]
      rfl
    have hdot' : name.toList ≠ ['.'] := fun h => hdot (String.toList_injective h)
    have hnames : Path.namesOf name.toList = [name] := by
      unfold Path.namesOf
      rw [Text.splitAt_of_not_mem hslash]
      simp [hne, hdot']
    exact ⟨by rw [Path.ofText, hroot, hnames], hup⟩

/-- A name without slashes, which no name of one or two dots is, stands for one file. -/
theorem isFileName_of_not_mem (hslash : '/' ∉ name.toList) (hlength : 2 < name.toList.length) :
    IsFileName name := by
  refine isFileName_iff.mpr ⟨?_, ?_, ?_, hslash⟩ <;>
  · rintro rfl
    simp at hlength

/-- A name that something in a directory can have. -/
structure IsEntryName (name : String) : Prop where
  isFileName : IsFileName name
  null : '\x00' ∉ name.toList
  short : name.utf8ByteSize ≤ nameLimit

/-! ## Places -/

theorem isBase_iff : isBase place = true ↔ place = ["/"] ∨ ∀ name ∈ place, name = ".." := by
  simp [isBase]

/-- What a base leads through is a base. -/
theorem isBase_of_append (h : isBase (place ++ names) = true) : isBase place = true := by
  rw [isBase_iff] at h ⊢
  rcases h with h | h
  · rcases List.append_eq_singleton_iff.mp h with ⟨rfl, -⟩ | ⟨rfl, -⟩
    · exact Or.inr (by simp)
    · exact Or.inl rfl
  · exact Or.inr fun name hname => h name (List.mem_append_left names hname)

theorem not_isBase_concat (h : IsEntryName name) : isBase (place ++ [name]) = false := by
  obtain ⟨-, -, hup, hslash⟩ := isFileName_iff.mp h.isFileName
  rw [Bool.eq_false_iff, ne_eq, isBase_iff]
  rintro (hroot | hall)
  · rcases List.append_eq_singleton_iff.mp hroot with ⟨-, hname⟩ | ⟨-, hname⟩
    · obtain rfl : name = "/" := by simpa using hname
      exact hslash (by decide)
    · cases hname
  · exact hup (hall name (by simp))

theorem mem_of_node? {node : Node} (h : files.node? place = some node)
    (hbase : isBase place = false) : (place, node) ∈ files.nodes := by
  rw [node?, hbase] at h
  obtain ⟨before, after, hnodes, -⟩ := List.lookup_eq_some_iff.mp h
  rw [hnodes]
  exact List.mem_append_right before List.mem_cons_self

theorem mem_of_node?_file (h : files.node? place = some (.file content)) :
    (place, .file content) ∈ files.nodes := by
  have hne : files.node? place ≠ some .directory := by simp [h]
  exact mem_of_node? h (not_isBase hne)

instance (name : String) : Decidable (IsFileName name) := decidable_of_iff _ isFileName_iff.symm

instance (name : String) : Decidable (IsEntryName name) :=
  decidable_of_iff
    (IsFileName name ∧ '\x00' ∉ name.toList ∧ name.utf8ByteSize ≤ nameLimit)
    ⟨fun h => ⟨h.1, h.2.1, h.2.2⟩, fun h => ⟨h.isFileName, h.null, h.short⟩⟩

/-- Files as a file system has them: no two things stand at one place, and each stands in a directory,
under a name of its own. -/
structure IsTree (files : Files) : Prop where
  distinct : (files.nodes.map (·.1)).Nodup
  named : ∀ entry ∈ files.nodes, ∃ name ∈ entry.1.getLast?, IsEntryName name
  parents : ∀ entry ∈ files.nodes, files.node? entry.1.dropLast = some .directory

instance (files : Files) : Decidable files.IsTree :=
  decidable_of_iff
    ((files.nodes.map (·.1)).Nodup ∧
      (∀ entry ∈ files.nodes, ∃ name ∈ entry.1.getLast?, IsEntryName name) ∧
      ∀ entry ∈ files.nodes, files.node? entry.1.dropLast = some .directory)
    ⟨fun h => ⟨h.1, h.2.1, h.2.2⟩, fun h => ⟨h.distinct, h.named, h.parents⟩⟩

namespace IsTree

variable (h : files.IsTree)
include h

theorem isEntryName_of_mem {node : Node} (hmem : (place ++ [name], node) ∈ files.nodes) :
    IsEntryName name := by
  obtain ⟨last, hlast, hname⟩ := h.named _ hmem
  rw [List.getLast?_concat] at hlast
  obtain rfl := Option.some.inj hlast
  exact hname

theorem node?_of_mem {node : Node} (hmem : (place, node) ∈ files.nodes) :
    files.node? place = some node := by
  have hbase : isBase place = false := by
    obtain ⟨last, hlast, hname⟩ := h.named _ hmem
    obtain ⟨init, rfl⟩ := List.getLast?_eq_some_iff.mp hlast
    exact not_isBase_concat hname
  obtain ⟨before, after, hnodes⟩ := List.append_of_mem hmem
  have hdistinct := h.distinct
  rw [hnodes, List.map_append, List.map_cons] at hdistinct
  unfold node?
  rw [hbase, if_neg Bool.false_ne_true, List.lookup_eq_some_iff]
  refine ⟨before, after, hnodes, fun entry hentry => ?_⟩
  have hne := (List.nodup_append.mp hdistinct).2.2 entry.1 (List.mem_map_of_mem hentry) place
    List.mem_cons_self
  simpa using Ne.symm hne

/-- What leads to a place is a directory. -/
theorem directory_above (hrest : rest ≠ []) (hplace : files.node? (place ++ rest) ≠ none) :
    files.node? place = some .directory := by
  induction rest using List.reverseRecOn with
  | nil => exact absurd rfl hrest
  | append_singleton init last ih =>
    cases hbase : isBase (place ++ (init ++ [last])) with
    | true =>
      unfold node?
      rw [isBase_of_append hbase, if_pos rfl]
    | false =>
      obtain ⟨node, hnode⟩ := Option.ne_none_iff_exists'.mp hplace
      have hparent := h.parents _ (mem_of_node? hnode hbase)
      rw [← List.append_assoc, List.dropLast_concat] at hparent
      by_cases hinit : init = []
      · rwa [hinit, List.append_nil] at hparent
      · exact ih hinit (by simp [hparent])

/-- The names below a place are all names of entries, unless the first one leads to a base. -/
theorem isEntryName_below (hplace : files.node? (place ++ names) ≠ none) :
    (∀ name ∈ names, IsEntryName name) ∨ ∃ first ∈ names.head?, first = ".." ∨ first = "/" := by
  induction names using List.reverseRecOn with
  | nil => exact Or.inl (by simp)
  | append_singleton init last ih =>
    cases hbase : isBase (place ++ (init ++ [last])) with
    | true =>
      right
      obtain ⟨first, hfirst⟩ : ∃ first, (init ++ [last]).head? = some first := by
        cases init <;> simp
      have hmem : first ∈ place ++ (init ++ [last]) :=
        List.mem_append_right place (List.mem_of_head? hfirst)
      refine ⟨first, hfirst, ?_⟩
      rcases isBase_iff.mp hbase with hroot | hall
      · rw [hroot] at hmem
        exact Or.inr (by simpa using hmem)
      · exact Or.inl (hall first hmem)
    | false =>
      obtain ⟨node, hnode⟩ := Option.ne_none_iff_exists'.mp hplace
      have hmem := mem_of_node? hnode hbase
      have hparent := h.parents _ hmem
      rw [← List.append_assoc] at hmem hparent
      rw [List.dropLast_concat] at hparent
      rcases ih (by simp [hparent]) with hinit | ⟨first, hfirst, hup⟩
      · left
        intro name hname
        rcases List.mem_append.mp hname with hname | hname
        · exact hinit name hname
        · rw [List.mem_singleton.mp hname]
          exact h.isEntryName_of_mem hmem
      · refine Or.inr ⟨first, ?_, hup⟩
        rw [Option.mem_def] at hfirst ⊢
        rw [List.head?_append, hfirst, Option.some_or]

end IsTree

/-! ## Ways down -/

/-- A way that never leads up leads to what stands below. -/
theorem place_of_walk (hnames : ∀ name ∈ names, name ≠ "..")
    (h : files.walk origin names = .ok place) : place = origin ++ names := by
  induction names generalizing origin with
  | nil => simpa using (Except.ok.inj h).symm
  | cons name names ih =>
    obtain ⟨hname, hrest⟩ := List.forall_mem_cons.mp hnames
    obtain ⟨-, -, -, hwalk⟩ := walk_cons_iff.mp h
    rw [ih hrest hwalk, onward, if_neg hname, List.append_assoc, List.singleton_append]

/-- A name too long leads nowhere. -/
theorem short_of_walk (h : files.walk origin names = .ok place) :
    ∀ name ∈ names, name.utf8ByteSize ≤ nameLimit := by
  induction names generalizing origin with
  | nil => simp
  | cons name names ih =>
    obtain ⟨hname, -, -, hwalk⟩ := walk_cons_iff.mp h
    exact List.forall_mem_cons.mpr ⟨checkName_eq_ok_iff.mp hname, ih hwalk⟩

namespace IsTree

variable (h : files.IsTree)
include h

/-- Names lead down to whatever stands below. -/
theorem walk_below (hnames : ∀ name ∈ names, IsEntryName name)
    (hplace : files.node? (origin ++ names) ≠ none) :
    files.walk origin names = .ok (origin ++ names) := by
  induction names generalizing origin with
  | nil => simp [walk]
  | cons name names ih =>
    obtain ⟨hname, hrest⟩ := List.forall_mem_cons.mp hnames
    have hup : name ≠ ".." := hname.isFileName.2
    have hsplit : origin ++ name :: names = (origin ++ [name]) ++ names := by simp
    rw [walk_cons_iff, onward, if_neg hup, hsplit]
    rw [hsplit] at hplace
    refine ⟨checkName_eq_ok_iff.mpr hname.short, ?_, ?_, ih hrest hplace⟩
    · rw [List.append_assoc] at hplace
      exact h.directory_above (by simp) hplace
    · by_cases hnil : names = []
      · rwa [hnil, List.append_nil] at hplace
      · simp [h.directory_above hnil hplace]

/-- No name on a way holds a null character. -/
theorem checkCharacters_of_walk (hwalk : files.walk origin names = .ok place) :
    checkCharacters names = .ok () := by
  rw [checkCharacters_eq_ok_iff]
  induction names generalizing origin with
  | nil => simp
  | cons name names ih =>
    obtain ⟨-, -, hnext, hwalk⟩ := walk_cons_iff.mp hwalk
    refine List.forall_mem_cons.mpr ⟨?_, ih hwalk⟩
    by_cases hup : name = ".."
    · rw [hup]
      decide
    · rw [onward, if_neg hup] at hnext
      rcases h.isEntryName_below hnext with hentry | ⟨first, hfirst, hbase⟩
      · exact (hentry name (by simp)).null
      · obtain rfl : name = first := by simpa using hfirst
        rcases hbase with rfl | rfl <;> decide

end IsTree

/-! ## Files below a directory -/

/-- The names lead down from a directory to a file with that content. -/
def HoldsBelow (files : Files) (p : Path) (names : List String) (content : Text.Bytes) : Prop :=
  (∀ name ∈ names, IsEntryName name) ∧
    ∃ place, files.walk (start p) p.parts = .ok place ∧ (place ++ names, .file content) ∈ files.nodes

theorem mem_below_iff :
    names ∈ files.below p ↔
      ∃ place, files.walk (start p) p.parts = .ok place ∧
        ∃ content, (place ++ names, .file content) ∈ files.nodes := by
  unfold below
  cases files.walk (start p) p.parts with
  | error cause => simp
  | ok place =>
    simp only [List.mem_filterMap, Except.ok.injEq, exists_eq_left']
    constructor
    · rintro ⟨⟨key, node⟩, hmem, hentry⟩
      cases node with
      | directory => cases hentry
      | file content =>
        dsimp only at hentry
        split at hentry
        · rename_i hprefix
          obtain ⟨names', rfl⟩ := List.isPrefixOf_iff_prefix.mp hprefix
          obtain rfl : names' = names := by simpa using hentry
          exact ⟨content, hmem⟩
        · cases hentry
    · rintro ⟨content, hmem⟩
      refine ⟨_, hmem, ?_⟩
      simp

/-- Names that do not lead up lead down to a file just if it is below the directory. -/
theorem IsTree.file?_join_iff (h : files.IsTree) (hnames : ∀ name ∈ names, IsFileName name) :
    files.file? (p.join ⟨"", names⟩) = some content ↔ files.HoldsBelow p names content := by
  rw [file?_eq_some_iff, Path.join_relative, find_eq_ok_iff, checkCharacters_eq_ok_iff]
  change ((∀ name ∈ p.parts ++ names, _) ∧
    ∃ place, files.walk (start p) (p.parts ++ names) = .ok place ∧ _) ↔ _
  constructor
  · rintro ⟨hnull, place, hwalk, hnode⟩
    obtain ⟨middle, hfirst, hsecond⟩ := walk_append_iff.mp hwalk
    obtain rfl := place_of_walk (fun name hname => (hnames name hname).2) hsecond
    refine ⟨fun name hname => ⟨hnames name hname, ?_, short_of_walk hsecond name hname⟩, middle,
      hfirst, mem_of_node?_file hnode⟩
    exact hnull name (List.mem_append_right p.parts hname)
  · rintro ⟨hentries, place, hwalk, hmem⟩
    have hnode := h.node?_of_mem hmem
    have hall : files.walk (start p) (p.parts ++ names) = .ok (place ++ names) :=
      walk_append_iff.mpr ⟨place, hwalk, h.walk_below hentries (by simp [hnode])⟩
    exact ⟨checkCharacters_eq_ok_iff.mp (h.checkCharacters_of_walk hall), _, hall, hnode⟩

end ResolverGen.Files
