import ResolverGen.Artifacts
import ResolverGen.Proofs.Files.Questions

/-!
# What writing changes

Writing files into a directory stores their texts at their places, and besides these only directories
come to be. Directories are never lost on the way, so that a path leads to the same place before and
after.
-/
namespace ResolverGen.Files

/-- The bytes of the file that stands at a place. -/
def content? (files : Files) (place : Place) : Option Text.Bytes :=
  match files.node? place with
  | some (.file content) => some content
  | _ => none

/-- What can come of files by a change of the files at some places: directories stay directories,
nothing goes away, and files at other places stay as they are. -/
structure Changes (places : List Place) (earlier later : Files) : Prop where
  directory : ∀ {place}, earlier.node? place = some .directory → later.node? place = some .directory
  present : ∀ {place}, earlier.node? place ≠ none → later.node? place ≠ none
  content : ∀ place ∉ places, later.content? place = earlier.content? place

variable {files earlier later between : Files} {places places' : List Place} {place : Place}

theorem Changes.refl : Changes [] files files := ⟨id, id, fun _ _ => rfl⟩

theorem Changes.trans (h : Changes places earlier between) (h' : Changes places' between later) :
    Changes (places ++ places') earlier later where
  directory := fun hplace => h'.directory (h.directory hplace)
  present := fun hplace => h'.present (h.present hplace)
  content := by
    intro place hplace
    rw [List.mem_append, not_or] at hplace
    rw [h'.content place hplace.2, h.content place hplace.1]

/-! ## Nodes -/

theorem lookup_cons_eq (key other : Place) (node : Node) (rest : List (Place × Node)) :
    ((key, node) :: rest).lookup other = if other = key then some node else rest.lookup other := by
  by_cases h : other = key
  · rw [h, List.lookup_cons_self, if_pos rfl]
  · rw [List.lookup_cons, beq_eq_false_iff_ne.mpr h, if_neg h]

theorem lookup_map_replace {nodes : List (Place × Node)} {node : Node} {other : Place} :
    (nodes.map fun entry => if entry.1 = place then (place, node) else entry).lookup other =
      if other = place then (nodes.lookup place).map fun _ => node else nodes.lookup other := by
  induction nodes with
  | nil => simp
  | cons entry rest ih =>
    obtain ⟨key, value⟩ := entry
    rw [List.map_cons]
    by_cases hkey : key = place
    · subst hkey
      rw [if_pos rfl, lookup_cons_eq, lookup_cons_eq, lookup_cons_eq, ih]
      by_cases h : other = key <;> simp [h]
    · rw [if_neg hkey, lookup_cons_eq, lookup_cons_eq, lookup_cons_eq, ih,
        if_neg (Ne.symm hkey)]
      by_cases h : other = key <;> by_cases hother : other = place <;> simp_all

theorem lookup_isSome {nodes : List (Place × Node)} :
    (nodes.lookup place).isSome = nodes.any (·.1 = place) := by
  induction nodes with
  | nil => rfl
  | cons entry rest ih =>
    obtain ⟨key, value⟩ := entry
    rw [lookup_cons_eq, List.any_cons, ← ih]
    by_cases h : place = key <;> simp [h, eq_comm]

/-- A node that is put stands at its place, unless that is a directory anyway. -/
theorem node?_put (place other : Place) (node : Node) :
    (files.put place node).node? other =
      if other = place ∧ isBase place = false then some node else files.node? other := by
  have hlookup : (files.put place node).nodes.lookup other =
      if other = place then some node else files.nodes.lookup other := by
    unfold put
    cases hthere : files.nodes.any (·.1 = place) with
    | true =>
      obtain ⟨old, hold⟩ := Option.isSome_iff_exists.mp (lookup_isSome.trans hthere)
      rw [if_pos rfl, lookup_map_replace, hold, Option.map_some]
    | false =>
      have hnone : files.nodes.lookup place = none := by
        simpa using lookup_isSome.trans hthere
      rw [if_neg (by decide), List.lookup_append, lookup_cons_eq]
      by_cases h : other = place
      · simp [h, hnone]
      · simp [h]
  unfold node?
  rw [hlookup]
  by_cases h : other = place
  · subst h
    cases isBase other <;> simp
  · simp [h]

/-- A node at a place where there was no directory changes that place alone. -/
theorem changes_put (node : Node) (h : files.node? place ≠ some .directory) :
    Changes [place] files (files.put place node) where
  directory := by
    intro other hother
    rw [node?_put, if_neg]
    · exact hother
    · rintro ⟨rfl, -⟩
      exact h hother
  present := by
    intro other hother
    rw [node?_put]
    split
    · simp
    · exact hother
  content := by
    intro other hother
    unfold content?
    rw [node?_put, if_neg]
    rintro ⟨rfl, -⟩
    exact hother List.mem_cons_self

theorem not_isBase (h : files.node? place ≠ some .directory) : isBase place = false := by
  unfold node? at h
  cases hbase : isBase place with
  | false => rfl
  | true => simp [hbase] at h

theorem content?_put (content : Text.Bytes) (h : files.node? place ≠ some .directory) :
    (files.put place (.file content)).content? place = some content := by
  unfold content?
  rw [node?_put, if_pos ⟨rfl, not_isBase h⟩]

/-- A new directory changes no file. -/
theorem changes_put_directory (h : files.node? place = none) :
    Changes [] files (files.put place .directory) := by
  have hnone : files.node? place ≠ some .directory := by simp [h]
  have hput := changes_put .directory hnone
  refine ⟨hput.directory, hput.present, fun other _ => ?_⟩
  by_cases hother : other = place
  · subst hother
    unfold content?
    rw [node?_put, if_pos ⟨rfl, not_isBase hnone⟩, h]
  · exact hput.content other (by simpa using hother)

/-! ## Ways through files -/

/-- Where a name leads from a place. -/
def onward (origin : Place) (name : String) : Place :=
  if name = ".." then above origin else origin ++ [name]

theorem walk_cons_iff {origin : Place} {name : String} {rest : List String} :
    files.walk origin (name :: rest) = .ok place ↔
      checkName name = .ok () ∧ files.node? origin = some .directory ∧
        files.node? (onward origin name) ≠ none ∧
        files.walk (onward origin name) rest = .ok place := by
  rw [walk]
  unfold onward
  cases checkName name with
  | error cause => simp [bind, Except.bind]
  | ok u =>
    rcases files.node? origin with _ | (content | _)
    · simp [bind, Except.bind, throw, throwThe, MonadExceptOf.throw]
    · simp [bind, Except.bind, throw, throwThe, MonadExceptOf.throw]
    · cases hnext : files.node? (if name = ".." then above origin else origin ++ [name]) <;>
        simp [bind, Except.bind, throw, throwThe, MonadExceptOf.throw, hnext]

/-- Names lead on to the same place. -/
theorem Changes.walk (h : Changes places earlier later) {names : List String} :
    ∀ {origin : Place}, earlier.walk origin names = .ok place →
      later.walk origin names = .ok place := by
  induction names with
  | nil => exact id
  | cons name rest ih =>
    intro origin hwalk
    obtain ⟨hname, horigin, hnext, hrest⟩ := walk_cons_iff.mp hwalk
    exact walk_cons_iff.mpr ⟨hname, h.directory horigin, h.present hnext, ih hrest⟩

/-- A way is taken name by name, the first part before the second. -/
theorem walk_append_iff {origin : Place} {names rest : List String} :
    files.walk origin (names ++ rest) = .ok place ↔
      ∃ middle, files.walk origin names = .ok middle ∧ files.walk middle rest = .ok place := by
  induction names generalizing origin with
  | nil => simp [walk]
  | cons name names ih =>
    rw [List.cons_append, walk_cons_iff, ih]
    simp only [walk_cons_iff]
    constructor
    · rintro ⟨hname, horigin, hnext, middle, hfirst, hsecond⟩
      exact ⟨middle, ⟨hname, horigin, hnext, hfirst⟩, hsecond⟩
    · rintro ⟨middle, ⟨hname, horigin, hnext, hfirst⟩, hsecond⟩
      exact ⟨hname, horigin, hnext, middle, hfirst, hsecond⟩

theorem placeIn_eq_ok_iff {directory : Path} {name : String} :
    files.placeIn directory name = .ok place ↔
      checkCharacters (directory.parts ++ [name]) = .ok () ∧
        ∃ origin, files.walk (start directory) directory.parts = .ok origin ∧
          checkName name = .ok () ∧ files.node? origin = some .directory ∧
          place = onward origin name := by
  unfold placeIn
  cases checkCharacters (directory.parts ++ [name]) with
  | error cause => simp [bind, Except.bind]
  | ok u =>
    cases files.walk (start directory) directory.parts with
    | error cause => simp [bind, Except.bind]
    | ok origin =>
      cases checkName name with
      | error cause => simp [bind, Except.bind]
      | ok u =>
        rcases hnode : files.node? origin with _ | (content | _) <;>
          simp [bind, Except.bind, throw, throwThe, MonadExceptOf.throw, pure, Except.pure,
            onward, hnode, @eq_comm _ place]

theorem Changes.placeIn (h : Changes places earlier later) {directory : Path} {name : String}
    (hplace : earlier.placeIn directory name = .ok place) :
    later.placeIn directory name = .ok place := by
  obtain ⟨hchars, origin, hwalk, hname, hdirectory, rfl⟩ := placeIn_eq_ok_iff.mp hplace
  exact placeIn_eq_ok_iff.mpr ⟨hchars, origin, h.walk hwalk, hname, h.directory hdirectory, rfl⟩

/-- Different names in a directory stand for different places, unless one leads up. -/
theorem placeIn_injective {directory : Path} {name other : String}
    (hplace : files.placeIn directory name = .ok place)
    (hother : files.placeIn directory other = .ok place) (hname : name ≠ "..")
    (hother' : other ≠ "..") : name = other := by
  obtain ⟨-, origin, hwalk, -, -, hat⟩ := placeIn_eq_ok_iff.mp hplace
  obtain ⟨-, origin', hwalk', -, -, hat'⟩ := placeIn_eq_ok_iff.mp hother
  obtain rfl : origin = origin' := Except.ok.inj (hwalk.symm.trans hwalk')
  rw [hat, onward, onward, if_neg hname, if_neg hother'] at hat'
  simpa using hat'

/-- What stands at the place of a name in a directory is found there. -/
theorem file?_of_placeIn {root : String} {parts : List String} {name : String}
    {content : Text.Bytes} (hplace : files.placeIn ⟨root, parts⟩ name = .ok place)
    (hcontent : files.content? place = some content) :
    files.file? ⟨root, parts ++ [name]⟩ = some content := by
  obtain ⟨hchars, origin, hwalk, hname, hdirectory, rfl⟩ := placeIn_eq_ok_iff.mp hplace
  have hnode : files.node? (onward origin name) = some (.file content) := by
    unfold content? at hcontent
    split at hcontent
    · rename_i h
      rw [h, Option.some.inj hcontent]
    · cases hcontent
  have hlast : files.walk origin [name] = .ok (onward origin name) :=
    walk_cons_iff.mpr ⟨hname, hdirectory, by simp [hnode], rfl⟩
  have hwalks : files.walk (start ⟨root, parts⟩) (parts ++ [name]) = .ok (onward origin name) :=
    walk_append_iff.mpr ⟨origin, hwalk, hlast⟩
  exact file?_eq_some_iff.mpr (find_eq_ok_iff.mpr ⟨hchars, _, hwalks, hnode⟩)

/-! ## Directories and files -/

theorem makeDirectory_eq_ok_iff {parent : Path} {name : String} :
    earlier.makeDirectory parent name = .ok later ↔
      ∃ place, earlier.placeIn parent name = .ok place ∧ earlier.node? place = none ∧
        later = earlier.put place .directory := by
  unfold makeDirectory
  cases earlier.placeIn parent name with
  | error cause => simp [bind, Except.bind]
  | ok place =>
    cases hnode : earlier.node? place <;>
      simp [bind, Except.bind, throw, throwThe, MonadExceptOf.throw, pure, Except.pure, hnode,
        @eq_comm _ later]

theorem changes_makeDirectory {parent : Path} {name : String}
    (h : earlier.makeDirectory parent name = .ok later) : Changes [] earlier later := by
  obtain ⟨place, -, hnode, rfl⟩ := makeDirectory_eq_ok_iff.mp h
  exact changes_put_directory hnode

/-- What is kept by making one directory is kept by making several. -/
theorem makeDirectories_induction {motive : Files → Prop} {root : String} {names : List String}
    (hmake : ∀ files later parent, ∀ name ∈ names, motive files →
      files.makeDirectory parent name = .ok later → motive later)
    (hearlier : motive earlier) (h : earlier.makeDirectories root names = .ok later) :
    motive later := by
  induction names generalizing later with
  | nil =>
    cases h
    exact hearlier
  | cons name upper ih =>
    have hfirst := fun files later parent => hmake files later parent name List.mem_cons_self
    have hupper : ∀ {between}, earlier.makeDirectories root upper = .ok between → motive between :=
      ih fun files later parent other hother =>
        hmake files later parent other (List.mem_cons_of_mem name hother)
    rw [makeDirectories] at h
    split at h
    · rename_i made hmade
      obtain rfl := Except.ok.inj h
      exact hfirst _ _ _ hearlier hmade
    · cases habove : earlier.makeDirectories root upper with
      | error fault =>
        rw [habove] at h
        cases h
      | ok between =>
        rw [habove] at h
        dsimp only [bind, Except.bind] at h
        cases hmade : between.makeDirectory ⟨root, upper.reverse⟩ name with
        | ok made =>
          rw [hmade] at h
          cases h
          exact hfirst _ _ _ (hupper habove) hmade
        | error cause =>
          rw [hmade] at h
          dsimp only at h
          split at h
          · obtain rfl := Except.ok.inj h
            exact hupper habove
          · cases h
    · dsimp only at h
      split at h
      · obtain rfl := Except.ok.inj h
        exact hearlier
      · cases h

/-- Directories that are made change no file. -/
theorem changes_makeDirectories {root : String} {names : List String}
    (h : earlier.makeDirectories root names = .ok later) : Changes [] earlier later :=
  makeDirectories_induction (fun _ _ _ _ _ hchanges hmade =>
    hchanges.trans (changes_makeDirectory hmade)) .refl h

/-- A name of its own for a file: it is one part of a path, and does not lead up. -/
def IsFileName (name : String) : Prop := Path.ofText name = ⟨"", [name]⟩ ∧ name ≠ ".."

theorem IsFileName.join {name : String} (h : IsFileName name) (directory : Path) :
    directory.join (.ofText name) = ⟨directory.root, directory.parts ++ [name]⟩ := by
  rw [h.1, Path.join_relative]

theorem write_eq_ok_iff {p : Path} {content : Text.Bytes} :
    earlier.write p content = .ok later ↔
      ∃ name, p.parts.getLast? = some name ∧ ∃ place, earlier.placeIn p.parent name = .ok place ∧
        earlier.node? place ≠ some .directory ∧ later = earlier.put place (.file content) := by
  unfold write
  cases p.parts.getLast? with
  | none => simp
  | some name =>
    simp only [Option.some.injEq, exists_eq_left']
    cases earlier.placeIn p.parent name with
    | error cause => simp
    | ok place =>
      rcases hnode : earlier.node? place with _ | (old | _) <;> simp [hnode, @eq_comm _ later]

theorem write_eq_ok {directory : Path} {name : String} {content : Text.Bytes}
    (hname : IsFileName name)
    (h : earlier.write (directory.join (.ofText name)) content = .ok later) :
    ∃ place, earlier.placeIn directory name = .ok place ∧
      earlier.node? place ≠ some .directory ∧ later = earlier.put place (.file content) := by
  have hparent : Path.parent ⟨directory.root, directory.parts ++ [name]⟩ = directory := by
    simp [Path.parent]
  rw [hname.join, write_eq_ok_iff, hparent] at h
  obtain ⟨last, hlast, hplace⟩ := h
  rw [List.getLast?_concat] at hlast
  obtain rfl := Option.some.inj hlast
  exact hplace

/-- Texts that are in files of a directory by their names, while all other files are as before. -/
structure Stores (directory : Path) (artifacts : Table String) (earlier later : Files) : Prop where
  stored : ∀ entry ∈ artifacts,
    later.file? (directory.join (.ofText entry.1)) = some (Text.toFile entry.2)
  kept : ∀ place, (∀ entry ∈ artifacts, later.placeIn directory entry.1 ≠ .ok place) →
    later.content? place = earlier.content? place

/-- Writing goes from name to name, and what was written stays. -/
theorem holds_of_writeEach {directory : Path} {artifacts : Table String} :
    ∀ {w w' : Writing}, (∀ entry ∈ artifacts, IsFileName entry.1) → artifacts.keys.Nodup →
      writeEach directory w artifacts = (w', .ok ()) →
      ∃ places, Changes places w.files w'.files ∧
        (∀ place ∈ places, ∃ entry ∈ artifacts, w'.files.placeIn directory entry.1 = .ok place) ∧
        ∀ entry ∈ artifacts, ∃ place, w'.files.placeIn directory entry.1 = .ok place ∧
          w'.files.content? place = some (Text.toFile entry.2) := by
  induction artifacts with
  | nil =>
    intro w w' _ _ h
    cases h
    exact ⟨[], .refl, by simp, by simp⟩
  | cons entry rest ih =>
    intro w w' hnames hdistinct h
    obtain ⟨name, text⟩ := entry
    rw [writeEach] at h
    cases hwrite : w.files.write (directory.join (.ofText name)) (Text.toFile text) with
    | error fault =>
      rw [hwrite] at h
      cases h
    | ok files =>
      rw [hwrite] at h
      obtain ⟨hname, hnames⟩ := List.forall_mem_cons.mp hnames
      obtain ⟨hfirst, hdistinct⟩ := List.nodup_cons.mp hdistinct
      obtain ⟨place, hplace, hnode, hfiles⟩ := write_eq_ok hname hwrite
      obtain ⟨places, hchanges, horigin, hrest⟩ := ih hnames hdistinct h
      have hlater := (hfiles ▸ changes_put _ hnode : Changes [place] w.files files).trans hchanges
      -- the names behind the first one lead elsewhere
      have hfree : place ∉ places := by
        intro hmem
        obtain ⟨other, hother, hsame⟩ := horigin place hmem
        have heq : name = other.1 :=
          placeIn_injective (hlater.placeIn hplace) hsame hname.2 (hnames other hother).2
        exact hfirst (List.mem_map.mpr ⟨other, hother, heq.symm⟩)
      refine ⟨place :: places, hlater, ?_, ?_⟩
      · intro q hq
        rcases List.mem_cons.mp hq with rfl | hq
        · exact ⟨_, List.mem_cons_self, hlater.placeIn hplace⟩
        · obtain ⟨other, hother, hsame⟩ := horigin q hq
          exact ⟨other, List.mem_cons_of_mem _ hother, hsame⟩
      · refine List.forall_mem_cons.mpr ⟨⟨place, hlater.placeIn hplace, ?_⟩, hrest⟩
        rw [hchanges.content place hfree, hfiles]
        exact content?_put _ hnode

/-- Files that were written into a directory are stored there, and no other file is touched. -/
theorem stores_writeArtifacts {artifacts : Table String} {directory : String} {w : Writing}
    (hnames : ∀ entry ∈ artifacts, IsFileName entry.1) (hdistinct : artifacts.keys.Nodup)
    (h : writeArtifacts files artifacts directory = (w, .ok ())) :
    Stores (.ofText directory) artifacts files w.files := by
  unfold writeArtifacts at h
  dsimp only at h
  cases hmade : files.makeDirectories (Path.ofText directory).root
      (Path.ofText directory).parts.reverse with
  | error fault =>
    rw [hmade] at h
    cases h
  | ok made =>
    rw [hmade] at h
    obtain ⟨places, hchanges, horigin, hstored⟩ := holds_of_writeEach hnames hdistinct h
    have hall : Changes places files w.files := (changes_makeDirectories hmade).trans hchanges
    refine ⟨fun entry hentry => ?_, fun place hplace => hall.content place fun hmem => ?_⟩
    · obtain ⟨place, hat, hcontent⟩ := hstored entry hentry
      rw [(hnames entry hentry).join]
      exact file?_of_placeIn hat hcontent
    · obtain ⟨entry, hentry, hat⟩ := horigin place hmem
      exact hplace entry hentry hat

end ResolverGen.Files
