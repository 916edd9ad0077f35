import ResolverGen.Proofs.Registry.Resolution

/-!
# Names of languages that are aliases

An alias is looked up only if there is no language of its name, so an alias that shares its name with
a language does not lead where it is said to. A registration brings such a name about in two ways: its
language is an alias already, or it replaces and one of its aliases is another language. Names are
never taken away, so what is shared once remains so, and the main statement is that all aliases of a
registry lead to their languages exactly if no call on the way shares a name.
-/
namespace ResolverGen

/-- A call makes a name both that of a language and an alias. -/
def Registration.Shares (call : Registration) (r : Registry) (name : String) : Prop :=
  call.TakesEffect r ∧
    (name = Registry.key call.language ∧ name ∈ r.aliases.keys ∨
      call.replace = true ∧ name ≠ Registry.key call.language ∧
        name ∈ call.aliases.map Registry.key ∧ name ∈ r.generators.keys)

namespace Registry

/-- A name is that of a language and an alias of another one. -/
def IsShared (r : Registry) (name : String) : Prop :=
  name ∈ r.generators.keys ∧ name ∈ r.aliases.keys

variable {r : Registry} {name language : String}

/-! ## Aliases that a call adds -/

/-- No alias is lost. -/
theorem mem_addAliases_of_mem {replace : Bool} (names : List String) (h : name ∈ r.aliases.keys) :
    name ∈ (addAliases language replace names r).1.aliases.keys :=
  addAliases_induction (P := fun s => name ∈ s.aliases.keys) h
    fun _ _ _ _ hs _ _ => Table.mem_keys_put.mpr (Or.inr hs)

/-- An alias was there before or is one of those to add, and then no language unless it replaces. -/
theorem of_mem_addAliases {replace : Bool} {names : List String}
    (h : name ∈ (addAliases language replace names r).1.aliases.keys) :
    name ∈ r.aliases.keys ∨ name ≠ language ∧ name ∈ names.map key ∧
      (replace = false → name ∉ r.generators.keys) := by
  refine addAliases_induction (P := fun s => name ∈ s.aliases.keys →
    name ∈ r.aliases.keys ∨ name ≠ language ∧ name ∈ names.map key ∧
      (replace = false → name ∉ r.generators.keys)) Or.inl ?_ h
  intro s nickname hnickname hsame hold hne hcheck hmem
  rcases Table.mem_keys_put.mp hmem with rfl | hmem
  · refine Or.inr ⟨hne, List.mem_map_of_mem hnickname, fun hreplace => ?_⟩
    exact hsame ▸ (checkAlias_eq_ok_iff.mp (hcheck hreplace)).1
  · exact hold hmem

/-- A call that replaces adds every alias that is not its language. -/
theorem mem_addAliases_of_replace {names : List String} (hne : name ≠ language)
    (h : name ∈ names.map key) : name ∈ (addAliases language true names r).1.aliases.keys := by
  induction names generalizing r with
  | nil => cases h
  | cons nickname rest ih =>
    rw [addAliases]
    rcases List.mem_cons.mp h with rfl | h
    · rw [if_neg hne]
      exact mem_addAliases_of_mem rest (Table.mem_keys_put.mpr (Or.inl rfl))
    · split
      · exact ih h
      · exact ih h

/-! ## Names that calls share -/

theorem isShared_after_of_takesEffect {call : Registration} (h : call.TakesEffect r) :
    (r.after call).IsShared name ↔ r.IsShared name ∨ call.Shares r name := by
  obtain ⟨c, -, hanswer⟩ := answer_of_takesEffect h
  have haliases : (r.after call).aliases = (addAliases (key call.language) call.replace
      call.aliases { r with generators := r.generators.put (key call.language) c }).1.aliases := by
    rw [after, hanswer]
  unfold IsShared
  rw [keys_generators_after h, haliases]
  constructor
  · rintro ⟨hlanguage, halias⟩
    rcases of_mem_addAliases halias with hold | ⟨hne, hadded, hfree⟩
    · exact hlanguage.elim (fun hnew => Or.inr ⟨h, Or.inl ⟨hnew, hold⟩⟩)
        fun hmem => Or.inl ⟨hmem, hold⟩
    · -- a new alias that is a language can only come with a replacement
      have hmem := hlanguage.resolve_left hne
      refine Or.inr ⟨h, Or.inr ⟨?_, hne, hadded, hmem⟩⟩
      cases hreplace : call.replace with
      | true => rfl
      | false => exact absurd (Table.mem_keys_put.mpr (Or.inr hmem)) (hfree hreplace)
  · rintro (⟨hmem, hold⟩ | ⟨-, ⟨rfl, hold⟩ | ⟨hreplace, hne, hadded, hmem⟩⟩)
    · exact ⟨Or.inr hmem, mem_addAliases_of_mem call.aliases hold⟩
    · exact ⟨Or.inl rfl, mem_addAliases_of_mem call.aliases hold⟩
    · rw [hreplace]
      exact ⟨Or.inr hmem, mem_addAliases_of_replace hne hadded⟩

/-- After a call the names are shared that were before it, and those that it shares. -/
theorem isShared_after_iff (call : Registration) :
    (r.after call).IsShared name ↔ r.IsShared name ∨ call.Shares r name := by
  by_cases h : call.TakesEffect r
  · exact isShared_after_of_takesEffect h
  · rw [after_of_not_takesEffect h]
    exact (or_iff_left fun hshares => h hshares.1).symm

/-- What is shared after all calls was shared by one of them. -/
theorem isShared_registered_iff (calls : List Registration) :
    (registered calls).IsShared name ↔ ∃ before call rest, calls = before ++ call :: rest ∧
      call.Shares (registered before) name := by
  have hrun : ∀ r : Registry, (calls.foldl after r).IsShared name ↔ r.IsShared name ∨
      ∃ before call rest, calls = before ++ call :: rest ∧
        call.Shares (before.foldl after r) name := by
    induction calls with
    | nil => simp
    | cons first rest ih =>
      intro r
      rw [List.foldl_cons, ih, isShared_after_iff, or_assoc]
      refine or_congr_right ?_
      constructor
      · rintro (hfirst | ⟨before, call, rest', rfl, hshares⟩)
        · exact ⟨[], first, rest, rfl, hfirst⟩
        · exact ⟨first :: before, call, rest', rfl, hshares⟩
      · rintro ⟨before, call, rest', hcalls, hshares⟩
        rcases List.cons_eq_append_iff.mp hcalls with ⟨rfl, htail⟩ | ⟨before', rfl, rfl⟩
        · obtain ⟨rfl, -⟩ := List.cons.inj htail
          exact Or.inl hshares
        · exact Or.inr ⟨before', call, rest', rfl, hshares⟩
  rw [registered, hrun]
  exact or_iff_right fun hempty => by cases hempty.1

/-! ## Where aliases lead -/

/-- An alias leads to its language exactly if it is not a language itself. -/
theorem Sound.resolve_alias_iff (h : Sound r) {nickname : String}
    (halias : (nickname, language) ∈ r.aliases) :
    r.resolve nickname = .ok language ↔ ¬r.IsShared nickname := by
  have hmem : nickname ∈ r.aliases.keys := List.mem_map.mpr ⟨_, halias, rfl⟩
  have hget := (Table.get?_eq_some_iff h.nodup_aliases).mpr halias
  have hne : language ≠ nickname := h.target_ne _ halias
  rw [resolve_eq_ok_iff, h.key_alias nickname hmem, hget]
  simp [IsShared, hmem, hne]

theorem Sound.aliases_lead_iff (h : Sound r) :
    (∀ language ∈ r.languages, ∀ nickname ∈ r.aliasesOf language,
      r.resolve nickname = .ok language) ↔ ∀ name, ¬r.IsShared name := by
  constructor
  · intro hlead name hshared
    obtain ⟨⟨nickname, language⟩, halias, rfl⟩ := List.mem_map.mp hshared.2
    have hlanguage := h.target_registered _ halias
    refine (h.resolve_alias_iff halias).mp ?_ hshared
    refine hlead language (mem_languages.mpr hlanguage) nickname (mem_aliasesOf.mpr ?_)
    rwa [h.key_language language hlanguage]
  · intro hfree language hlanguage nickname hnickname
    rw [mem_aliasesOf, h.key_language language (mem_languages.mp hlanguage)] at hnickname
    exact (h.resolve_alias_iff hnickname).mpr (hfree nickname)

/-- After calls all aliases lead to the languages that they are told for, exactly if none of the
calls shared a name. -/
theorem aliases_lead_registered_iff (calls : List Registration) :
    (∀ language ∈ (registered calls).languages,
      ∀ nickname ∈ (registered calls).aliasesOf language,
        (registered calls).resolve nickname = .ok language) ↔
    ∀ before call rest, calls = before ++ call :: rest →
      ∀ name, ¬call.Shares (registered before) name := by
  rw [(sound_registered calls).aliases_lead_iff]
  simp only [isShared_registered_iff]
  grind

/-- Go with an alias that is then registered as a language of its own. -/
def takenCalls : List Registration :=
  [{ language := "go", candidate := .generator Go.generatorClass, aliases := ["mini"] },
    { language := "mini", candidate := .generator Mini.generatorClass }]

/-- Both calls are accepted; the alias is told for Go and leads to the other language. -/
theorem aliases_takenCalls :
    ((registered []).answer takenCalls[0]).2 = .ok () ∧
    ((registered [takenCalls[0]]).answer takenCalls[1]).2 = .ok () ∧
    "go" ∈ (registered takenCalls).languages ∧
    "mini" ∈ (registered takenCalls).aliasesOf "go" ∧
    (registered takenCalls).resolve "mini" = .ok "mini" ∧
    ¬∀ language ∈ (registered takenCalls).languages,
      ∀ nickname ∈ (registered takenCalls).aliasesOf language,
        (registered takenCalls).resolve nickname = .ok language := by
  have hgo : "go" ∈ (registered takenCalls).languages :=
    mem_languages.mpr (show "go" ∈ ["go", "mini"] by decide)
  have hmini : "mini" ∈ (registered takenCalls).aliasesOf "go" :=
    mem_aliasesOf.mpr (show ("mini", "go") ∈ [("mini", "go")] by decide)
  have hresolve : (registered takenCalls).resolve "mini" = .ok "mini" := rfl
  refine ⟨rfl, rfl, hgo, hmini, hresolve, fun hlead => ?_⟩
  have hboth := hresolve.symm.trans (hlead "go" hgo "mini" hmini)
  exact absurd (Except.ok.inj hboth) (by decide)

end Registry

end ResolverGen
