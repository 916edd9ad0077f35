import ResolverGen.Mini.Generator
import ResolverGen.Proofs.FirstFailures
import ResolverGen.Proofs.Registry.Registrations

/-!
# Names lead to languages

In a registry that registrations lead to, a name is supported exactly if it stands for a language.
This language is one of the list and stands for itself, so that whatever is asked for by a name comes
out as if it were asked for by the language, but for the name in the report of a refused
configuration.
-/
namespace ResolverGen.Registry

variable {r : Registry} {name language : String}

theorem mem_languages : language ∈ r.languages ↔ language ∈ r.generators.keys := by
  unfold languages TemplateStore.sorted
  rw [List.mem_mergeSort, Table.mem_distinct]

theorem mem_aliasesOf {nickname : String} :
    nickname ∈ r.aliasesOf name ↔ (nickname, key name) ∈ r.aliases := by
  unfold aliasesOf TemplateStore.sorted
  rw [List.mem_mergeSort, Table.mem_distinct]
  simp

/-- A name stands for the language that it is, or else for the one that its alias leads to. -/
theorem resolve_eq_ok_iff : r.resolve name = .ok language ↔
    key name ∈ r.generators.keys ∧ language = key name ∨
      key name ∉ r.generators.keys ∧ r.aliases.get? (key name) = some language := by
  unfold resolve
  rw [← Table.has_iff]
  split
  · rename_i h
    simp [h, eq_comm]
  · rename_i h
    cases r.aliases.get? (key name) <;> simp [h]

theorem supports_iff :
    r.supports name = true ↔ ∃ language, r.resolve name = .ok language := by
  simp only [supports, Bool.or_eq_true, Table.has_iff, resolve_eq_ok_iff]
  by_cases h : key name ∈ r.generators.keys
  · simp [h]
  · simp only [h, false_or, false_and, not_false_eq_true, true_and]
    exact Table.mem_keys_iff_exists

namespace Sound

theorem mem_of_resolve (h : Sound r) (hresolve : r.resolve name = .ok language) :
    language ∈ r.generators.keys := by
  rcases resolve_eq_ok_iff.mp hresolve with ⟨hmem, rfl⟩ | ⟨-, halias⟩
  · exact hmem
  · exact h.target_registered _ (Table.mem_of_get? halias)

theorem resolve_language (h : Sound r) (hmem : language ∈ r.generators.keys) :
    r.resolve language = .ok language := by
  have hkey := h.key_language language hmem
  exact resolve_eq_ok_iff.mpr (Or.inl ⟨hkey.symm ▸ hmem, hkey.symm⟩)

/-- The class of a name is the one that its language is registered with. -/
theorem class?_of_resolve (h : Sound r) (hresolve : r.resolve name = .ok language) :
    ∃ c, r.generators.get? language = some c ∧ r.class? name = .ok c := by
  obtain ⟨c, hc⟩ := Table.mem_keys_iff_exists.mp (h.mem_of_resolve hresolve)
  refine ⟨c, hc, ?_⟩
  unfold class?
  rw [hresolve]
  dsimp only
  rw [hc]

theorem class?_ne_dangling (h : Sound r) : r.class? name ≠ .error .dangling := by
  cases hresolve : r.resolve name with
  | error fault =>
    unfold class?
    rw [hresolve]
    simp
  | ok language =>
    obtain ⟨c, -, hc⟩ := h.class?_of_resolve hresolve
    rw [hc]
    simp

end Sound

/-! ## Generators by name and by language -/

/-- A refusal as it is told to someone who asked by a name. -/
def Refusal.toldTo (name : String) : Refusal → Refusal
  | .registry (.config _ fault) => .registry (.config name fault)
  | refusal => refusal

theorem settingsFrom_toldTo (files : Files) (name language other : String)
    (source : ConfigSource) :
    settingsFrom files name language source =
      ((settingsFrom files other language source).1.mapError (Refusal.toldTo name),
        (settingsFrom files other language source).2) := by
  have hrefine : ∀ loaded : Except SettingsFailure Settings × Log,
      settingsFrom.refine name loaded =
        ((settingsFrom.refine other loaded).1.mapError (Refusal.toldTo name),
          (settingsFrom.refine other loaded).2) := by
    rintro ⟨failure | settings, log⟩
    · cases failure <;> rfl
    · rfl
  cases source with
  | settings s => rfl
  | file path => exact hrefine _
  | overrides values => exact hrefine _
  | nothing => exact hrefine _
  | unusable kind => rfl

/-- A name and the language that it stands for come to one generator, or are refused alike. -/
theorem create_of_resolve (hname : r.resolve name = .ok language)
    (hlanguage : r.resolve language = .ok language) (files : Files) (source : ConfigSource) :
    r.create files name source =
      ((r.create files language source).1.mapError (Refusal.toldTo name),
        (r.create files language source).2) := by
  unfold create
  rw [hname, hlanguage]
  dsimp only
  cases r.generators.get? language with
  | none => rfl
  | some c =>
    dsimp only
    rw [settingsFrom_toldTo files name language language source]
    rcases settingsFrom files language language source with ⟨refusal | settings, log⟩
    · rfl
    · cases hmake : c.make settings <;> simp [hmake, Refusal.toldTo]

/-- In every registry that calls lead to, aliases stand for languages of the list, and a name is
supported exactly if it stands for a language. The language is one of the list and stands for itself;
there is a class for it; and a generator for the name is one for the language. -/
theorem resolve_registered (calls : List Registration) :
    (∀ entry ∈ (registered calls).aliases, entry.2 ∈ (registered calls).languages) ∧
    ∀ name,
      ((registered calls).supports name = true ↔
        ∃ language, (registered calls).resolve name = .ok language) ∧
      (registered calls).class? name ≠ .error .dangling ∧
      ∀ language, (registered calls).resolve name = .ok language →
        language ∈ (registered calls).languages ∧
        (registered calls).resolve language = .ok language ∧
        (∃ c, (registered calls).class? name = .ok c ∧
          (registered calls).class? language = .ok c) ∧
        ∀ files source,
          (registered calls).create files name source =
            (((registered calls).create files language source).1.mapError (Refusal.toldTo name),
              ((registered calls).create files language source).2) := by
  have hsound := sound_registered calls
  refine ⟨fun entry hentry => mem_languages.mpr (hsound.target_registered entry hentry), ?_⟩
  intro name
  refine ⟨supports_iff, hsound.class?_ne_dangling, ?_⟩
  intro language hname
  have hmem := hsound.mem_of_resolve hname
  have hlanguage := hsound.resolve_language hmem
  obtain ⟨c, hget, hclass⟩ := hsound.class?_of_resolve hname
  obtain ⟨c', hget', hclass'⟩ := hsound.class?_of_resolve hlanguage
  obtain rfl : c = c' := Option.some.inj (hget.symm.trans hget')
  exact ⟨mem_languages.mpr hmem, hlanguage, ⟨c, hclass, hclass'⟩,
    create_of_resolve hname hlanguage⟩

/-- Two languages with aliases, the second of which is refused at an alias of the first. -/
def gopherCalls : List Registration :=
  [{ language := "Go", candidate := .generator Go.generatorClass, aliases := ["golang", "Gopher"] },
    { language := "mini", candidate := .generator Mini.generatorClass,
      aliases := ["m", "GOLANG", "small"] }]

/-- An alias in another case leads to Go, and one kept from the refused call to the other language. -/
theorem resolve_gopherCalls :
    (registered gopherCalls).resolve "GOPHER" = .ok "go" ∧
    (registered gopherCalls).resolve "M" = .ok "mini" ∧
    (registered gopherCalls).resolve "go" = .ok "go" ∧
    (registered gopherCalls).resolve "mini" = .ok "mini" := by
  have hgopher : (registered gopherCalls).resolve "GOPHER" = .ok "go" := rfl
  have hmini : (registered gopherCalls).resolve "M" = .ok "mini" := rfl
  obtain ⟨-, hnames⟩ := resolve_registered gopherCalls
  obtain ⟨-, -, hgo⟩ := hnames "GOPHER"
  obtain ⟨-, -, hm⟩ := hnames "M"
  exact ⟨hgopher, hmini, (hgo "go" hgopher).2.1, (hm "mini" hmini).2.1⟩

end ResolverGen.Registry
