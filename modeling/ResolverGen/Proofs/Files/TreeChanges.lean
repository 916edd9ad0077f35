import ResolverGen.Proofs.CommandLine.Stages
import ResolverGen.Proofs.Files.Trees

/-!
# Trees that are written to

Files stay a tree whatever is written to them: a name in a directory leads either up, where there is a
directory already, or to a place in this directory. So directories and files only come where they can
stand, also if writing breaks off, and a run of the program leaves a tree behind.
-/
namespace ResolverGen

open Files

variable {files earlier later : Files} {origin place : Place} {name : String} {node : Node}

/-! ## Paths -/

/-- A path as it is read: all its parts are names, or lead up. -/
def Path.IsRead (p : Path) : Prop := ∀ part ∈ p.parts, part = ".." ∨ IsFileName part

theorem Path.isRead_ofText (s : String) : (Path.ofText s).IsRead := by
  intro part hpart
  obtain ⟨hne, hdot, hslash⟩ := of_mem_namesOf hpart
  by_cases hup : part = ".."
  · exact Or.inl hup
  · exact Or.inr (isFileName_iff.mpr ⟨hne, hdot, hup, hslash⟩)

theorem Path.IsRead.join {p q : Path} (hp : p.IsRead) (hq : q.IsRead) : (p.join q).IsRead := by
  unfold Path.join
  split
  · intro part hpart
    rcases List.mem_append.mp hpart with hpart | hpart
    · exact hp part hpart
    · exact hq part hpart
  · exact hq

namespace Files

/-! ## One node -/

theorem of_mem_put {entry : Place × Node} (h : entry ∈ (files.put place node).nodes) :
    entry.1 = place ∨ entry ∈ files.nodes := by
  unfold put at h
  split at h
  · obtain ⟨old, hold, rfl⟩ := List.mem_map.mp h
    split
    · exact Or.inl rfl
    · exact Or.inr hold
  · rcases List.mem_append.mp h with h | h
    · exact Or.inr h
    · exact Or.inl (congrArg Prod.fst (List.mem_singleton.mp h))

theorem nodup_put (h : (files.nodes.map (·.1)).Nodup) (place : Place) (node : Node) :
    ((files.put place node).nodes.map (·.1)).Nodup := by
  unfold put
  split
  · have hkeys : (fun entry : Place × Node => entry.1) ∘
        (fun entry => if entry.1 = place then (place, node) else entry) = (·.1) := by
      funext entry
      by_cases hentry : entry.1 = place <;> simp [hentry]
    rwa [List.map_map, hkeys]
  · rename_i hthere
    rw [List.map_append, List.nodup_append]
    refine ⟨h, by simp, ?_⟩
    intro key hkey other hother
    obtain rfl : other = place := by simpa using hother
    rintro rfl
    obtain ⟨entry, hentry, rfl⟩ := List.mem_map.mp hkey
    exact hthere (List.any_eq_true.mpr ⟨entry, hentry, by simp⟩)

namespace IsTree

theorem nil : IsTree {} := ⟨List.nodup_nil, by simp, by simp⟩

/-- Something in a directory may be put where there is no directory. -/
theorem put (h : files.IsTree) (hname : IsEntryName name)
    (horigin : files.node? origin = some .directory)
    (hnode : files.node? (origin ++ [name]) ≠ some .directory) :
    (files.put (origin ++ [name]) node).IsTree where
  distinct := nodup_put h.distinct _ _
  named := by
    intro entry hentry
    rcases of_mem_put hentry with hplace | hold
    · exact ⟨name, by simp [hplace], hname⟩
    · exact h.named entry hold
  parents := by
    intro entry hentry
    have hchanges := changes_put node hnode
    rcases of_mem_put hentry with hplace | hold
    · rw [hplace, List.dropLast_concat]
      exact hchanges.directory horigin
    · exact hchanges.directory (h.parents entry hold)

theorem node?_above (h : files.IsTree) (horigin : files.node? origin = some .directory) :
    files.node? (above origin) = some .directory := by
  unfold above
  by_cases hroot : origin = ["/"]
  · rwa [if_pos hroot]
  rw [if_neg hroot]
  by_cases hall : origin.all (· = "..") = true
  · have hbase : isBase (origin ++ [".."]) = true := by
      refine isBase_iff.mpr (Or.inr fun name hname => ?_)
      rcases List.mem_append.mp hname with hname | hname
      · simpa using List.all_eq_true.mp hall name hname
      · exact List.mem_singleton.mp hname
    rw [if_pos hall, node?, if_pos hbase]
  · rw [if_neg hall]
    have hbase : isBase origin = false := by simp [isBase, hroot, hall]
    exact h.parents _ (mem_of_node? horigin hbase)

/-- A name that leads up never leads to a place for something new. -/
theorem put_placeIn (h : files.IsTree) {directory : Path} (hname : name = ".." ∨ IsFileName name)
    (hplace : files.placeIn directory name = .ok place)
    (hnode : files.node? place ≠ some .directory) : (files.put place node).IsTree := by
  obtain ⟨hchars, origin, -, hshort, horigin, rfl⟩ := placeIn_eq_ok_iff.mp hplace
  rcases hname with rfl | hfile
  · exact absurd (h.node?_above horigin) hnode
  · rw [onward, if_neg hfile.2] at hnode ⊢
    have hnull := checkCharacters_eq_ok_iff.mp hchars name (by simp)
    exact h.put ⟨hfile, hnull, checkName_eq_ok_iff.mp hshort⟩ horigin hnode

/-! ## Directories and files -/

theorem makeDirectory (h : earlier.IsTree) {parent : Path} (hname : name = ".." ∨ IsFileName name)
    (hmade : earlier.makeDirectory parent name = .ok later) : later.IsTree := by
  obtain ⟨place, hplace, hnode, rfl⟩ := makeDirectory_eq_ok_iff.mp hmade
  exact h.put_placeIn hname hplace (by simp [hnode])

theorem makeDirectories (h : earlier.IsTree) {p : Path} (hp : p.IsRead)
    (hmade : earlier.makeDirectories p.root p.parts.reverse = .ok later) : later.IsTree := by
  refine makeDirectories_induction ?_ h hmade
  intro files later parent name hname htree
  exact htree.makeDirectory (hp name (List.mem_reverse.mp hname))

theorem write (h : earlier.IsTree) {p : Path} (hp : p.IsRead) {content : Text.Bytes}
    (hwrite : earlier.write p content = .ok later) : later.IsTree := by
  obtain ⟨name, hname, place, hplace, hnode, rfl⟩ := write_eq_ok_iff.mp hwrite
  exact h.put_placeIn (hp name (List.mem_of_getLast? hname)) hplace hnode

theorem writeEach {directory : Path} (hdirectory : directory.IsRead) {w : Writing}
    (h : w.files.IsTree) (artifacts : Table String) :
    (writeEach directory w artifacts).1.files.IsTree := by
  induction artifacts generalizing w with
  | nil => exact h
  | cons entry rest ih =>
    obtain ⟨name, text⟩ := entry
    rw [ResolverGen.writeEach]
    cases hwrite : w.files.write (directory.join (.ofText name)) (Text.toFile text) with
    | error fault => exact h
    | ok files => exact ih (h.write (hdirectory.join (Path.isRead_ofText name)) hwrite)

/-- Files stay a tree when others are written into a directory, whether or not all can be. -/
theorem writeArtifacts (h : files.IsTree) (artifacts : Table String) (directory : String) :
    (writeArtifacts files artifacts directory).1.files.IsTree := by
  unfold ResolverGen.writeArtifacts
  dsimp only
  cases hmade : files.makeDirectories (Path.ofText directory).root
      (Path.ofText directory).parts.reverse with
  | error fault => exact h
  | ok made =>
    have hread := Path.isRead_ofText directory
    exact writeEach hread (h.makeDirectories hread hmade) artifacts

end IsTree

end Files

/-! ## Runs of the program -/

namespace CommandLine

theorem isTree_finish (h : files.IsTree) (o : Options) (rest : Except Interruption Remainder) :
    (finish o files rest).2.IsTree := by
  rcases rest with i | (code | artifacts)
  · exact h
  · exact h
  · unfold finish delivery
    cases given? o.outputDir? with
    | none => exact h
    | some directory => exact h.writeArtifacts artifacts directory

/-- However a run ends, the files after it are a tree if those before it were. -/
theorem isTree_run {world : World} (h : world.files.IsTree) (arguments : List String) :
    (run world arguments).2.files.IsTree := by
  unfold run
  cases Options.parse arguments with
  | ok o =>
    have hfinish := isTree_finish h o (stages world o)
    obtain ⟨hrejected, haccepted⟩ := runWith_eq world o
    dsimp only
    cases hshown : (displaysOf world o).any world.console.rejects with
    | true =>
      rcases (hrejected hshown).2 with hfiles | hfiles
      · rw [hfiles]
        exact h
      · rw [hfiles]
        exact hfinish
    | false =>
      rw [(haccepted hshown).2]
      exact hfinish
  | error halt => cases halt <;> exact h

end CommandLine

end ResolverGen
