import ResolverGen.Proofs.Registry.SharedNames

/-!
# What a refused registration leaves

What makes no generators is refused before the tables are touched. An alias is refused only when the
language and the aliases before it are in the tables, and there they stay: the registry is the one that
the call would have led to without the refused alias and those behind it.
-/
namespace ResolverGen.Registry

variable {r : Registry} {fault : RegistryFault}

/-- Aliases are refused at the first that cannot be added, once those before it were. -/
theorem addAliases_refused {language : String} {replace : Bool} {names : List String}
    (h : (addAliases language replace names r).2 = .error fault) :
    replace = false ∧ ∃ kept nickname rest, names = kept ++ nickname :: rest ∧
      key nickname ≠ language ∧
      addAliases language replace kept r = ((addAliases language replace names r).1, .ok ()) ∧
      (addAliases language replace names r).1.checkAlias language nickname = .error fault := by
  induction names generalizing r with
  | nil => cases h
  | cons nickname rest ih =>
    rw [addAliases] at h ⊢
    by_cases hname : key nickname = language
    · rw [if_pos hname] at h ⊢
      obtain ⟨hreplace, kept, other, behind, rfl, hother, hkept, hcheck⟩ := ih h
      refine ⟨hreplace, nickname :: kept, other, behind, rfl, hother, ?_, hcheck⟩
      rw [addAliases, if_pos hname, hkept]
    · rw [if_neg hname] at h ⊢
      cases hadd : (if replace then .ok () else r.checkAlias language nickname :
          Except RegistryFault Unit) with
      | error fault' =>
        rw [hadd] at h
        obtain rfl : fault' = fault := Except.error.inj h
        cases replace with
        | true => cases hadd
        | false => exact ⟨rfl, [], nickname, rest, rfl, hname, rfl, hadd⟩
      | ok _ =>
        rw [hadd] at h
        obtain ⟨hreplace, kept, other, behind, rfl, hother, hkept, hcheck⟩ := ih h
        refine ⟨hreplace, nickname :: kept, other, behind, rfl, hother, ?_, hcheck⟩
        rw [addAliases, if_neg hname, hadd]
        exact hkept

/-- A refused call leaves the registry as it was exactly if what it brings makes no generators. In any
other case its language was unknown and is known now, and the registry is the one that it leads to with
the aliases before the refused one. -/
theorem after_of_refused {call : Registration} (h : (r.answer call).2 = .error fault) :
    (r.after call = r ↔ fault = .notGenerator) ∧
    (fault ≠ .notGenerator →
      key call.language ∉ r.generators.keys ∧
      key call.language ∈ (r.after call).generators.keys ∧
      ∃ kept nickname rest, call.aliases = kept ++ nickname :: rest ∧
        r.answer { call with aliases := kept } = (r.after call, .ok ()) ∧
        (r.after call).checkAlias (key call.language) nickname = .error fault) := by
  by_cases heffect : call.TakesEffect r
  · obtain ⟨c, hc, hanswer⟩ := answer_of_takesEffect heffect
    rw [hanswer] at h
    obtain ⟨hreplace, kept, nickname, rest, haliases, -, hkept, hcheck⟩ := addAliases_refused h
    have hunknown : key call.language ∉ r.generators.keys := fun hmem =>
      absurd (heffect.2 hmem) (by simp [hreplace])
    have hknown : key call.language ∈ (r.after call).generators.keys :=
      (keys_generators_after heffect).mpr (Or.inl rfl)
    have hfault : fault ≠ .notGenerator := by
      rintro rfl
      unfold checkAlias at hcheck
      split at hcheck
      · cases hcheck
      · split at hcheck
        · split at hcheck <;> cases hcheck
        · cases hcheck
    refine ⟨iff_of_false (fun hsame => hunknown (hsame ▸ hknown)) hfault, fun _ => ?_⟩
    refine ⟨hunknown, hknown, kept, nickname, rest, haliases, ?_, ?_⟩
    · have heffect' : { call with aliases := kept : Registration }.TakesEffect r := heffect
      obtain ⟨c', hc', hanswer'⟩ := answer_of_takesEffect heffect'
      obtain rfl : c = c' := Candidate.generator.inj (hc.symm.trans hc')
      rw [hanswer', after, hanswer]
      exact hkept
    · rw [after, hanswer]
      exact hcheck
  · have hother : fault = .notGenerator := by
      rcases answer_of_not_takesEffect heffect with ⟨-, hanswer⟩ | hanswer
      · rw [hanswer] at h
        exact (Except.error.inj h).symm
      · rw [hanswer] at h
        cases h
    exact ⟨iff_of_true (after_of_not_takesEffect heffect) hother, fun hne => absurd hother hne⟩

/-- A registry with an alias for Go. -/
def goRegistry : Registry :=
  registered [{ language := "go", candidate := .generator Go.generatorClass, aliases := ["golang"] }]

/-- A language that wants this alias beside another one. -/
def greedyCall : Registration where
  language := "mini"
  candidate := .generator Mini.generatorClass
  aliases := ["m", "golang"]

/-- The refused call leaves what a call without the alias would have led to. -/
theorem after_greedyCall_refused :
    (goRegistry.answer greedyCall).2 = .error (.aliasTaken "golang" "go") ∧
    goRegistry.after greedyCall ≠ goRegistry ∧
    key "mini" ∈ (goRegistry.after greedyCall).generators.keys := by
  have h : (goRegistry.answer greedyCall).2 = .error (.aliasTaken "golang" "go") := rfl
  obtain ⟨hsame, hleft⟩ := after_of_refused h
  refine ⟨h, ?_, (hleft (by simp)).2.1⟩
  intro heq
  cases hsame.mp heq

/-- It is refused, and both its language and its first alias are kept. -/
theorem after_greedyCall :
    (goRegistry.answer greedyCall).2 = .error (.aliasTaken "golang" "go") ∧
    goRegistry.resolve "mini" = .error (.unknownLanguage "mini" goRegistry.languages) ∧
    (goRegistry.after greedyCall).resolve "mini" = .ok "mini" ∧
    (goRegistry.after greedyCall).resolve "m" = .ok "mini" ∧
    goRegistry.after greedyCall ≠ goRegistry := by
  have hbefore : goRegistry.resolve "mini" =
      .error (.unknownLanguage "mini" goRegistry.languages) := rfl
  have hafter : (goRegistry.after greedyCall).resolve "mini" = .ok "mini" := rfl
  refine ⟨rfl, hbefore, hafter, rfl, fun hsame => ?_⟩
  rw [hsame, hbefore] at hafter
  cases hafter

end ResolverGen.Registry
