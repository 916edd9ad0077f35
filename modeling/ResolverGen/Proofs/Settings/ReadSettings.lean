import Mathlib.Tactic.MkIffOfInductiveProp
import ResolverGen.Proofs.FirstFailures
import ResolverGen.Settings.Layers

/-!
# Settings by their keys

Settings hold what is given for each of their keys, and defaults for the others. Of what is given
only types and scalars can be refused; types are looked at first.
-/
namespace ResolverGen

/-- Settings hold what is given for their keys; a key without a value leaves the default. -/
@[mk_iff]
structure Settings.HasValues (s : Settings) (value? : String → Option Json) : Prop where
  packageName : s.packageName = (value? "package_name").getD (.str "resolvers")
  fileSuffix : s.fileSuffix = (value? "file_suffix").getD (.str "_gen")
  templateDir : s.templateDir = (value? "template_dir").getD .null
  formatter : s.formatter = (value? "formatter").getD (.str "basic")
  addComments : s.addComments = (value? "add_comments").getD (.bool true)
  types : readTypes ((value? "types").getD (.obj [])) = .ok s.types
  scalars : readScalars ((value? "scalars").getD (.obj [])) = .ok s.scalars
  custom : s.custom = (value? "custom").getD (.obj [])

/-- What is given for types, or else for scalars, is refused with a fault. -/
def IsRefusedFor (value? : String → Option Json) (fault : ConfigFault) : Prop :=
  readTypes ((value? "types").getD (.obj [])) = .error fault ∨
    (∃ types, readTypes ((value? "types").getD (.obj [])) = .ok types) ∧
      readScalars ((value? "scalars").getD (.obj [])) = .error fault

section

variable {values : Table Json} {s : Settings} {fault : ConfigFault}
  {value? other? : String → Option Json}

/-- Of types and scalars nothing stands for an empty object. -/
theorem readTypes_null (raw? : Option Json) :
    readTypes (raw?.getD .null) = readTypes (raw?.getD (.obj [])) := by
  cases raw? <;> rfl

theorem readScalars_null (raw? : Option Json) :
    readScalars (raw?.getD .null) = readScalars (raw?.getD (.obj [])) := by
  cases raw? <;> rfl

theorem Settings.read_eq_ok_iff : Settings.read values = .ok s ↔ s.HasValues values.get? := by
  unfold Settings.read
  rw [readTypes_null, readScalars_null]
  constructor
  · intro h
    obtain ⟨types, htypes, h⟩ := bind_eq_ok_iff.mp h
    obtain ⟨scalars, hscalars, h⟩ := bind_eq_ok_iff.mp h
    cases h
    exact ⟨rfl, rfl, rfl, rfl, rfl, htypes, hscalars, rfl⟩
  · rintro ⟨h₁, h₂, h₃, h₄, h₅, htypes, hscalars, h₈⟩
    refine bind_eq_ok_iff.mpr ⟨s.types, htypes, bind_eq_ok_iff.mpr ⟨s.scalars, hscalars, ?_⟩⟩
    rw [← h₁, ← h₂, ← h₃, ← h₄, ← h₅, ← h₈]
    rfl

theorem Settings.read_eq_error_iff :
    Settings.read values = .error fault ↔ IsRefusedFor values.get? fault := by
  unfold Settings.read IsRefusedFor
  rw [readTypes_null, readScalars_null, bind_eq_error_iff]
  refine or_congr_right ?_
  constructor
  · rintro ⟨types, htypes, h⟩
    rcases bind_eq_error_iff.mp h with hscalars | ⟨scalars, -, h⟩
    · exact ⟨⟨types, htypes⟩, hscalars⟩
    · cases h
  · rintro ⟨⟨types, htypes⟩, hscalars⟩
    exact ⟨types, htypes, bind_eq_error_iff.mpr (Or.inl hscalars)⟩

/-- Nothing but the values of settings counts. -/
theorem Settings.hasValues_congr (h : ∀ key ∈ settingKeys, value? key = other? key) :
    s.HasValues value? ↔ s.HasValues other? := by
  simp only [settingKeys, List.forall_mem_cons] at h
  obtain ⟨h₁, h₂, h₃, h₄, h₅, h₆, h₇, h₈, -⟩ := h
  simp only [Settings.hasValues_iff, h₁, h₂, h₃, h₄, h₅, h₆, h₇, h₈]

theorem isRefusedFor_congr (h : ∀ key ∈ settingKeys, value? key = other? key) :
    IsRefusedFor value? fault ↔ IsRefusedFor other? fault := by
  simp only [IsRefusedFor, h "types" (by simp [settingKeys]), h "scalars" (by simp [settingKeys])]

end

end ResolverGen
