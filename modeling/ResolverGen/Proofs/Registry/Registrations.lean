import ResolverGen.Proofs.Tables
import ResolverGen.Proofs.Text.LowerCase
import ResolverGen.Registry

/-!
# Registries that calls lead to

A registry starts empty and changes by registrations only, each of which may be ignored, or refused
on its way. What one of them does to the two tables is said here once. From it follows what holds in
every registry that registrations lead to: names are kept in lower case, an alias stands for one
language, and that language is there and is called differently.
-/
namespace ResolverGen

/-- What a call asks to register. -/
structure Registration where
  language : String
  candidate : Candidate
  aliases : List String := []
  replace : Bool := false

namespace Registry

/-- The registry after a call and the answer to it. -/
def answer (r : Registry) (call : Registration) : Registry × Except RegistryFault Unit :=
  r.register call.language call.candidate call.aliases call.replace

/-- The registry after a call, also after one that was refused. -/
def after (r : Registry) (call : Registration) : Registry := (r.answer call).1

/-- The registry that calls lead to. -/
def registered (calls : List Registration) : Registry := calls.foldl after {}

theorem key_key (name : String) : key (key name) = key name := by
  unfold key
  rw [Text.onChars_onChars]
  exact congrArg String.ofList (Text.lower_lower name.toList)

/-! ## Aliases -/

/-- An alias may be added if it is no language and stands for no other one. -/
theorem checkAlias_eq_ok_iff {r : Registry} {language nickname : String} :
    r.checkAlias language nickname = .ok () ↔ key nickname ∉ r.generators.keys ∧
      ∀ target, r.aliases.get? (key nickname) = some target → target = language := by
  unfold checkAlias
  rw [← Table.has_iff]
  split
  · rename_i hlanguage
    simp [hlanguage]
  · rename_i hlanguage
    cases r.aliases.get? (key nickname) with
    | none => simp [hlanguage]
    | some target => by_cases htarget : target = language <;> simp [hlanguage, htarget]

section

variable {language : String} {replace : Bool}

/-- What holds of a registry, and is kept when one of the aliases is put that may be put, holds after
the aliases were added. Languages stay as they are meanwhile. -/
theorem addAliases_induction {P : Registry → Prop} {names : List String} {r : Registry} (hr : P r)
    (hput : ∀ s : Registry, ∀ nickname ∈ names, s.generators = r.generators → P s →
      key nickname ≠ language → (replace = false → s.checkAlias language nickname = .ok ()) →
      P { s with aliases := s.aliases.put (key nickname) language }) :
    P (addAliases language replace names r).1 := by
  induction names generalizing r with
  | nil => exact hr
  | cons nickname rest ih =>
    have hrest {s : Registry} (hs : P s) (hsame : s.generators = r.generators) :
        P (addAliases language replace rest s).1 := by
      refine ih hs fun s' name hname hsame' => ?_
      exact hput s' name (List.mem_cons_of_mem nickname hname) (hsame'.trans hsame)
    have hhead := hput r nickname List.mem_cons_self rfl hr
    rw [addAliases]
    split
    · exact hrest hr rfl
    · rename_i hname
      cases replace with
      | true => exact hrest (hhead hname (by simp)) rfl
      | false =>
        rw [if_neg Bool.false_ne_true]
        split
        · exact hr
        · rename_i hcheck
          exact hrest (hhead hname fun _ => hcheck) rfl

theorem generators_addAliases (names : List String) (r : Registry) :
    (addAliases language replace names r).1.generators = r.generators :=
  addAliases_induction (P := fun s => s.generators = r.generators) rfl fun _ _ _ hs _ _ _ => hs

end

/-! ## One call -/

end Registry

/-- Whether a call gets as far as its language: what it brings makes generators, and the language is
new or to be replaced. -/
def Registration.TakesEffect (call : Registration) (r : Registry) : Prop :=
  (∃ c, call.candidate = .generator c) ∧
    (Registry.key call.language ∈ r.generators.keys → call.replace = true)

namespace Registry

variable {r : Registry} {call : Registration}

/-- A call that takes effect puts its language and goes on to its aliases. -/
theorem answer_of_takesEffect (h : call.TakesEffect r) : ∃ c, call.candidate = .generator c ∧
    r.answer call = addAliases (key call.language) call.replace call.aliases
      { r with generators := r.generators.put (key call.language) c } := by
  obtain ⟨⟨c, hc⟩, hreplace⟩ := h
  refine ⟨c, hc, ?_⟩
  unfold answer register
  rw [hc]
  dsimp only
  rw [if_neg]
  simpa [Table.has_iff] using hreplace

/-- Any other call is refused at once or ignored. -/
theorem answer_of_not_takesEffect (h : ¬call.TakesEffect r) :
    call.candidate = .other ∧ r.answer call = (r, .error .notGenerator) ∨
      r.answer call = (r, .ok ()) := by
  unfold answer register
  cases hc : call.candidate with
  | other => exact Or.inl ⟨rfl, rfl⟩
  | generator c =>
    right
    dsimp only
    rw [if_pos]
    simpa [Registration.TakesEffect, hc, Table.has_iff] using h

theorem after_of_not_takesEffect (h : ¬call.TakesEffect r) : r.after call = r := by
  unfold after
  rcases answer_of_not_takesEffect h with ⟨-, hanswer⟩ | hanswer
  · rw [hanswer]
  · rw [hanswer]

theorem keys_generators_after (h : call.TakesEffect r) {name : String} :
    name ∈ (r.after call).generators.keys ↔
      name = key call.language ∨ name ∈ r.generators.keys := by
  obtain ⟨c, -, hanswer⟩ := answer_of_takesEffect h
  rw [after, hanswer, generators_addAliases, Table.mem_keys_put]

/-! ## What holds after all calls -/

/-- What the tables of a registry keep to. -/
structure Sound (r : Registry) : Prop where
  key_language : ∀ language ∈ r.generators.keys, key language = language
  key_alias : ∀ nickname ∈ r.aliases.keys, key nickname = nickname
  nodup_aliases : r.aliases.keys.Nodup
  target_registered : ∀ entry ∈ r.aliases, entry.2 ∈ r.generators.keys
  target_ne : ∀ entry ∈ r.aliases, entry.2 ≠ entry.1

theorem sound_empty : Sound {} where
  key_language := by simp [Table.keys]
  key_alias := by simp [Table.keys]
  nodup_aliases := List.nodup_nil
  target_registered := by simp
  target_ne := by simp

theorem Sound.putLanguage (h : Sound r) (name : String) (c : GeneratorClass) :
    Sound { r with generators := r.generators.put (key name) c } where
  key_language := by
    intro language hlanguage
    rcases Table.mem_keys_put.mp hlanguage with rfl | hlanguage
    · exact key_key name
    · exact h.key_language language hlanguage
  key_alias := h.key_alias
  nodup_aliases := h.nodup_aliases
  target_registered := fun entry hentry =>
    Table.mem_keys_put.mpr (Or.inr (h.target_registered entry hentry))
  target_ne := h.target_ne

theorem Sound.putAlias (h : Sound r) {nickname language : String}
    (hlanguage : language ∈ r.generators.keys) (hne : key nickname ≠ language) :
    Sound { r with aliases := r.aliases.put (key nickname) language } where
  key_language := h.key_language
  key_alias := by
    intro name hname
    rcases Table.mem_keys_put.mp hname with rfl | hname
    · exact key_key nickname
    · exact h.key_alias name hname
  nodup_aliases := Table.nodup_keys_put h.nodup_aliases _ _
  target_registered := by
    intro entry hentry
    rcases Table.mem_of_mem_put hentry with hentry | rfl
    · exact h.target_registered entry hentry
    · exact hlanguage
  target_ne := by
    intro entry hentry
    rcases Table.mem_of_mem_put hentry with hentry | rfl
    · exact h.target_ne entry hentry
    · exact hne.symm

/-- A call keeps a registry sound, however far it gets. -/
theorem Sound.after (h : Sound r) (call : Registration) : Sound (r.after call) := by
  by_cases heffect : call.TakesEffect r
  · obtain ⟨c, -, hanswer⟩ := answer_of_takesEffect heffect
    rw [Registry.after, hanswer]
    -- the aliases find the language registered, since nothing takes it away
    refine addAliases_induction (h.putLanguage call.language c) ?_
    intro s nickname _ hsame hs hne _
    refine hs.putAlias ?_ hne
    rw [hsame]
    exact Table.mem_keys_put.mpr (Or.inl rfl)
  · rw [after_of_not_takesEffect heffect]
    exact h

/-- Every registry that calls lead to is sound. -/
theorem sound_registered (calls : List Registration) : Sound (registered calls) := by
  have hrun : ∀ r : Registry, Sound r → Sound (calls.foldl Registry.after r) := by
    induction calls with
    | nil =>
      intro r hr
      exact hr
    | cons call rest ih =>
      intro r hr
      exact ih _ (hr.after call)
  exact hrun {} sound_empty

end Registry

end ResolverGen
