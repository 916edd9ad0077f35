import ResolverGen.Proofs.Registry.Resolution

/-!
# Names that stay as they are

A registration without replacement adds to the tables only: a class that is registered and an alias
that is taken are kept, wherever the call ends. A name could then change its meaning only by becoming
a language while it is an alias. So whatever is known keeps its language and its class under every
call whose language is no alias.
-/
namespace ResolverGen.Registry

variable {r : Registry} {call : Registration} {name language : String}

/-- An alias that is taken stays when others are added, since it is added again for its own language
only. -/
theorem get?_aliases_addAliases {nickname target : String} (names : List String)
    (h : r.aliases.get? nickname = some target) :
    (addAliases language false names r).1.aliases.get? nickname = some target := by
  refine addAliases_induction (P := fun s => s.aliases.get? nickname = some target) h ?_
  intro s other _ _ hkept _ hcheck
  rw [Table.get?_put]
  split
  · rename_i hsame
    have hfree := (checkAlias_eq_ok_iff.mp (hcheck rfl)).2
    rw [hsame] at hfree
    rw [hfree target hkept]
  · exact hkept

section

variable (hreplace : call.replace = false)
include hreplace

theorem get?_aliases_after {nickname target : String} (h : r.aliases.get? nickname = some target) :
    (r.after call).aliases.get? nickname = some target := by
  by_cases heffect : call.TakesEffect r
  · obtain ⟨c, -, hanswer⟩ := answer_of_takesEffect heffect
    rw [after, hanswer, hreplace]
    exact get?_aliases_addAliases call.aliases h
  · rw [after_of_not_takesEffect heffect]
    exact h

theorem get?_generators_after {c : GeneratorClass} (h : r.generators.get? language = some c) :
    (r.after call).generators.get? language = some c := by
  by_cases heffect : call.TakesEffect r
  · obtain ⟨c', -, hanswer⟩ := answer_of_takesEffect heffect
    have hne : key call.language ≠ language := by
      rintro rfl
      have hreplaced := heffect.2 (Table.mem_keys_iff_exists.mpr ⟨c, h⟩)
      exact Bool.false_ne_true (hreplace.symm.trans hreplaced)
    rw [after, hanswer, generators_addAliases, Table.get?_put, if_neg hne]
    exact h
  · rw [after_of_not_takesEffect heffect]
    exact h

/-- A name keeps its language if the call does not make it one while it is an alias. -/
theorem resolve_after (hfresh : key call.language ∉ r.aliases.keys)
    (h : r.resolve name = .ok language) : (r.after call).resolve name = .ok language := by
  rcases resolve_eq_ok_iff.mp h with ⟨hmem, rfl⟩ | ⟨hmem, halias⟩
  · obtain ⟨c, hc⟩ := Table.mem_keys_iff_exists.mp hmem
    have hkept := get?_generators_after hreplace hc
    exact resolve_eq_ok_iff.mpr (Or.inl ⟨Table.mem_keys_iff_exists.mpr ⟨c, hkept⟩, rfl⟩)
  · have hkey : key name ∈ r.aliases.keys := Table.mem_keys_iff_exists.mpr ⟨language, halias⟩
    have hmem' : key name ∉ (r.after call).generators.keys := by
      by_cases heffect : call.TakesEffect r
      · rw [keys_generators_after heffect, not_or]
        exact ⟨fun hsame => hfresh (hsame ▸ hkey), hmem⟩
      · rw [after_of_not_takesEffect heffect]
        exact hmem
    exact resolve_eq_ok_iff.mpr (Or.inr ⟨hmem', get?_aliases_after hreplace halias⟩)

end

/-- After a call without replacement, whose language is no alias, every name that was supported stands
for the language that it stood for, and for the same class, whether the call was accepted, ignored or
refused on its way. -/
theorem supported_after (calls : List Registration) (hreplace : call.replace = false)
    (hfresh : key call.language ∉ (registered calls).aliases.keys)
    (hname : (registered calls).supports name = true) :
    ∃ language c,
      (registered calls).resolve name = .ok language ∧
      (registered calls).class? name = .ok c ∧
      ((registered calls).after call).resolve name = .ok language ∧
      ((registered calls).after call).class? name = .ok c := by
  have hsound := sound_registered calls
  obtain ⟨language, hresolve⟩ := supports_iff.mp hname
  obtain ⟨c, hget, hclass⟩ := hsound.class?_of_resolve hresolve
  have hresolve' := resolve_after hreplace hfresh hresolve
  obtain ⟨c', hget', hclass'⟩ := (hsound.after call).class?_of_resolve hresolve'
  have hsame := (get?_generators_after hreplace hget).symm.trans hget'
  obtain rfl : c = c' := Option.some.inj hsame
  exact ⟨language, c, hresolve, hclass, hresolve', hclass'⟩

/-- A call that is refused at an alias of Go, after one of its own was added. -/
def nimbleCall : Registration where
  language := "nim"
  candidate := .generator Mini.generatorClass
  aliases := ["nimble", "Golang"]

/-- The names that Go has go on to lead to it. -/
theorem supported_after_nimbleCall :
    ((registered gopherCalls).answer nimbleCall).2 = .error (.aliasTaken "Golang" "go") ∧
    ((registered gopherCalls).after nimbleCall).resolve "nimble" = .ok "nim" ∧
    ∃ language c,
      (registered gopherCalls).resolve "GOPHER" = .ok language ∧
      (registered gopherCalls).class? "GOPHER" = .ok c ∧
      ((registered gopherCalls).after nimbleCall).resolve "GOPHER" = .ok language ∧
      ((registered gopherCalls).after nimbleCall).class? "GOPHER" = .ok c := by
  refine ⟨rfl, rfl, supported_after gopherCalls rfl ?_ rfl⟩
  show "nim" ∉ ["golang", "gopher", "m"]
  decide

end ResolverGen.Registry
