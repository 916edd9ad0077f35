import Mathlib.Data.List.Basic
import ResolverGen.Naming.Sanitizer

/-!
# Calls that share a key

A sanitizer remembers its answers under keys that put name, style and suffix together with
underscores. All three may hold underscores themselves, so two calls can share a key, and then the
one that comes later gets the answer of the other. The first main statement says which calls share
a key; the second, that calls made one after another are all answered as by a sanitizer that has
not been asked before exactly when no two of them share a key and differ in their answers.
-/
namespace ResolverGen

/-- Two texts parted at a separator are equal if they are parted at one place, or if one of them
holds the separator of the other before or behind its own. -/
theorem append_cons_eq_append_cons {α : Type} {sep : α} {a b c d : List α} :
    a ++ sep :: b = c ++ sep :: d ↔
      (a = c ∧ b = d) ∨ (∃ m, c = a ++ sep :: m ∧ b = m ++ sep :: d) ∨
        ∃ m, a = c ++ sep :: m ∧ d = m ++ sep :: b := by
  constructor
  · intro h
    rcases List.append_eq_append_iff.mp h with ⟨m, rfl, hm⟩ | ⟨m, rfl, hm⟩
    all_goals rcases List.cons_eq_append_iff.mp hm with ⟨rfl, he⟩ | ⟨m', rfl, he⟩
    · obtain ⟨-, rfl⟩ := List.cons.inj he
      simp
    · exact Or.inr (Or.inl ⟨m', rfl, he⟩)
    · obtain ⟨-, rfl⟩ := List.cons.inj he
      simp
    · exact Or.inr (Or.inr ⟨m', rfl, he⟩)
  · rintro (⟨rfl, rfl⟩ | ⟨m, rfl, rfl⟩ | ⟨m, rfl, rfl⟩) <;> simp

namespace NameCase

/-- The words of styles differ before their first underscore. -/
theorem label_append_inj {a b : NameCase} {s t : List Char}
    (h : a.label.toList ++ '_' :: s = b.label.toList ++ '_' :: t) : a = b ∧ s = t := by
  cases a <;> cases b <;> simp_all [label]

/-- One style alone has a word with an underscore in it. -/
theorem label_eq_append {a : NameCase} {before behind : List Char}
    (h : a.label.toList = before ++ '_' :: behind) :
    a = .screamingSnake ∧ before = "screaming".toList ∧ behind = snake.label.toList := by
  have hmem : '_' ∈ a.label.toList := by
    rw [h]
    exact List.mem_append_right before List.mem_cons_self
  cases a with
  | screamingSnake =>
    have h : "screaming".toList ++ '_' :: snake.label.toList = before ++ '_' :: behind := h
    rcases append_cons_eq_append_cons.mp h with ⟨hbefore, hbehind⟩ | ⟨m, -, hm⟩ | ⟨m, hm, -⟩
    · exact ⟨rfl, hbefore.symm, hbehind.symm⟩
    · have : '_' ∈ snake.label.toList := hm ▸ List.mem_append_right m List.mem_cons_self
      exact absurd this (by decide)
    · have : '_' ∈ "screaming".toList := hm ▸ List.mem_append_right before List.mem_cons_self
      exact absurd this (by decide)
  | _ => exact absurd hmem (by decide)

end NameCase

namespace Sanitizer

/-- What a sanitizer is asked: the safe form of a name in a style, with a suffix for clashes. -/
structure Call where
  name : String
  style : NameCase
  suffix : String := defaultSuffix
deriving DecidableEq, Repr

namespace Call

/-- The key under which the answer is remembered. -/
def key (c : Call) : String := answerKey c.name c.style c.suffix

/-- The key of a call, read with more of it as the name: the style, or the first word of a style of
two, goes to the name, and the suffix has the other style in it. -/
inductive ReadsAs : Call → Call → Prop
  | firstWord (name suffix : String) :
    ReadsAs ⟨name, .screamingSnake, suffix⟩ ⟨name ++ "_" ++ "screaming", .snake, suffix⟩
  | style (name : String) (style other : NameCase) (suffix : String) :
    ReadsAs ⟨name, style, other.label ++ "_" ++ suffix⟩ ⟨name ++ "_" ++ style.label, other, suffix⟩
  | styleAndText (name : String) (style : NameCase) (middle : String) (other : NameCase)
      (suffix : String) :
    ReadsAs ⟨name, style, middle ++ "_" ++ other.label ++ "_" ++ suffix⟩
      ⟨name ++ "_" ++ style.label ++ "_" ++ middle, other, suffix⟩

theorem toList_key (c : Call) :
    c.key.toList = c.name.toList ++ '_' :: (c.style.label.toList ++ '_' :: c.suffix.toList) := by
  simp [key, answerKey]

theorem ReadsAs.key_eq {c d : Call} (h : c.ReadsAs d) : c.key = d.key := by
  cases h with
  | firstWord name suffix =>
    apply String.toList_inj.mp
    simp [toList_key, NameCase.label]
  | style name style other suffix =>
    apply String.toList_inj.mp
    simp [toList_key]
  | styleAndText name style middle other suffix =>
    apply String.toList_inj.mp
    simp [toList_key]

/-- A call whose name goes on from that of another with the same key reads as it. -/
theorem readsAs_of_name {c d : Call} {m : List Char}
    (hname : d.name.toList = c.name.toList ++ '_' :: m)
    (hrest : c.style.label.toList ++ '_' :: c.suffix.toList =
      m ++ '_' :: (d.style.label.toList ++ '_' :: d.suffix.toList)) : c.ReadsAs d := by
  obtain ⟨name, style, suffix⟩ := c
  obtain ⟨name', style', suffix'⟩ := d
  dsimp only at hname hrest
  rcases append_cons_eq_append_cons.mp hrest with ⟨rfl, hsuffix⟩ | ⟨w, rfl, hsuffix⟩ |
    ⟨w, hstyle, hw⟩
  · obtain rfl : name' = name ++ "_" ++ style.label := String.toList_inj.mp (by simp [hname])
    obtain rfl : suffix = style'.label ++ "_" ++ suffix' := String.toList_inj.mp (by simp [hsuffix])
    exact .style name style style' suffix'
  · obtain rfl : name' = name ++ "_" ++ style.label ++ "_" ++ String.ofList w :=
      String.toList_inj.mp (by simp [hname])
    obtain rfl : suffix = String.ofList w ++ "_" ++ style'.label ++ "_" ++ suffix' :=
      String.toList_inj.mp (by simp [hsuffix])
    exact .styleAndText name style _ style' suffix'
  · obtain ⟨rfl, rfl, rfl⟩ := NameCase.label_eq_append hstyle
    obtain ⟨rfl, hs⟩ := NameCase.label_append_inj hw
    obtain rfl : suffix = suffix' := String.toList_inj.mp hs.symm
    obtain rfl : name' = name ++ "_" ++ "screaming" := String.toList_inj.mp (by simp [hname])
    exact .firstWord name suffix

/-- Calls share a key exactly if they are the same or one reads as the other. -/
theorem key_eq_iff (c d : Call) : c.key = d.key ↔ c = d ∨ c.ReadsAs d ∨ d.ReadsAs c := by
  constructor
  · intro h
    have hlists := congrArg String.toList h
    rw [toList_key, toList_key] at hlists
    rcases append_cons_eq_append_cons.mp hlists with ⟨hname, hrest⟩ | ⟨m, hname, hrest⟩ |
      ⟨m, hname, hrest⟩
    · obtain ⟨hstyle, hsuffix⟩ := NameCase.label_append_inj hrest
      obtain ⟨name, style, suffix⟩ := c
      obtain rfl := String.toList_inj.mp hname
      obtain rfl := String.toList_inj.mp hsuffix
      obtain rfl := hstyle
      exact Or.inl rfl
    · exact Or.inr (Or.inl (readsAs_of_name hname hrest))
    · exact Or.inr (Or.inr (readsAs_of_name hname hrest))
  · rintro (rfl | h | h)
    · rfl
    · exact h.key_eq
    · exact h.key_eq.symm

end Call

/-! ## Calls made one after another -/

/-- The answers of a sanitizer to calls made one after another. -/
def outcomes : List Call → Sanitizer → List String
  | [], _ => []
  | c :: rest, s =>
    let answered := (sanitize c.name c.style c.suffix).run s
    answered.1 :: outcomes rest answered.2

/-- The answer of a sanitizer with the same words that has not been asked before. -/
def freshAnswer (s : Sanitizer) (c : Call) : String :=
  ((sanitize c.name c.style c.suffix).run { s with answers := [] }).1

/-- Two calls can share a key only if they are answered alike. -/
def Agree (s : Sanitizer) (c d : Call) : Prop :=
  c.key = d.key → s.freshAnswer c = s.freshAnswer d

/-- The answers to calls are remembered, and nothing else is. -/
structure Remembers (s : Sanitizer) (done : List Call) : Prop where
  given : ∀ c ∈ done, s.answers.lookup c.key = some (s.freshAnswer c)
  none_else : ∀ c : Call, (∀ d ∈ done, d.key ≠ c.key) → s.answers.lookup c.key = none

theorem agree_iff {s : Sanitizer} (c d : Call) :
    s.Agree c d ↔ (c.ReadsAs d ∨ d.ReadsAs c → s.freshAnswer c = s.freshAnswer d) := by
  unfold Agree
  rw [Call.key_eq_iff]
  constructor
  · exact fun h hreads => h (Or.inr hreads)
  · rintro h (rfl | hreads)
    · rfl
    · exact h hreads

theorem sanitize_of_remembered {s : Sanitizer} {c : Call} {answer : String}
    (h : s.answers.lookup c.key = some answer) :
    (sanitize c.name c.style c.suffix).run s = (answer, s) := by
  change sanitize c.name c.style c.suffix s = _
  unfold sanitize
  rw [show s.answers.lookup (answerKey c.name c.style c.suffix) = some answer from h]

theorem sanitize_of_new {s : Sanitizer} {c : Call} (h : s.answers.lookup c.key = none) :
    (sanitize c.name c.style c.suffix).run s =
      (s.freshAnswer c, { s with answers := s.answers ++ [(c.key, s.freshAnswer c)] }) := by
  change sanitize c.name c.style c.suffix s = _
  unfold sanitize
  rw [show s.answers.lookup (answerKey c.name c.style c.suffix) = none from h]
  rfl

/-- What holds of each answer given afresh, and of those that are remembered, holds of all. -/
theorem forall_outcomes {P : String → Prop} {calls : List Call} {s : Sanitizer}
    (hanswers : ∀ entry ∈ s.answers, P entry.2) (hcalls : ∀ c ∈ calls, P (s.freshAnswer c)) :
    ∀ answer ∈ outcomes calls s, P answer := by
  induction calls generalizing s with
  | nil => simp [outcomes]
  | cons c rest ih =>
    obtain ⟨hc, hrest⟩ := List.forall_mem_cons.mp hcalls
    rw [outcomes, List.forall_mem_cons]
    cases hlookup : s.answers.lookup c.key with
    | some answer =>
      obtain ⟨before, after, hentry, -⟩ := List.lookup_eq_some_iff.mp hlookup
      rw [sanitize_of_remembered hlookup]
      exact ⟨hanswers (c.key, answer) (by simp [hentry]), ih hanswers hrest⟩
    | none =>
      rw [sanitize_of_new hlookup]
      refine ⟨hc, ih ?_ hrest⟩
      intro entry hentry
      rcases List.mem_append.mp hentry with hentry | hentry
      · exact hanswers entry hentry
      · rw [List.mem_singleton.mp hentry]
        exact hc

theorem Remembers.new {s : Sanitizer} {done : List Call} {c : Call} (h : s.Remembers done)
    (hnew : s.answers.lookup c.key = none) :
    Remembers { s with answers := s.answers ++ [(c.key, s.freshAnswer c)] } (done ++ [c]) where
  given := by
    intro d hd
    rw [List.lookup_append]
    rcases List.mem_append.mp hd with hd | hd
    · rw [h.given d hd]
      rfl
    · obtain rfl := List.mem_singleton.mp hd
      rw [hnew]
      simp
      rfl
  none_else := by
    intro d hd
    have hc : c.key ≠ d.key := hd c (List.mem_append_right done List.mem_cons_self)
    rw [List.lookup_append, h.none_else d fun e he => hd e (List.mem_append_left [c] he)]
    have hb : (d.key == c.key) = false := by simpa using hc.symm
    simp [hb]

theorem Remembers.again {s : Sanitizer} {done : List Call} {c : Call} (h : s.Remembers done)
    (hc : s.answers.lookup c.key = some (s.freshAnswer c)) : s.Remembers (done ++ [c]) where
  given := by
    intro d hd
    rcases List.mem_append.mp hd with hd | hd
    · exact h.given d hd
    · obtain rfl := List.mem_singleton.mp hd
      exact hc
  none_else := fun d hd => h.none_else d fun e he => hd e (List.mem_append_left [c] he)

/-- A call is new, or it gets the answer of one that was made before under its key. -/
theorem Remembers.new_or_again {s : Sanitizer} {done : List Call} (h : s.Remembers done) (c : Call) :
    (s.answers.lookup c.key = none ∧ ∀ b ∈ done, b.key ≠ c.key) ∨
      ∃ b ∈ done, b.key = c.key ∧ s.answers.lookup c.key = some (s.freshAnswer b) := by
  by_cases hb : ∃ b ∈ done, b.key = c.key
  · obtain ⟨b, hb, hkey⟩ := hb
    exact Or.inr ⟨b, hb, hkey, hkey ▸ h.given b hb⟩
  · push Not at hb
    exact Or.inl ⟨h.none_else c hb, hb⟩

/-- Calls that follow others are answered afresh exactly if they agree with those before them and
among each other, as long as those before them were answered afresh. -/
theorem outcomes_eq_iff (calls : List Call) : ∀ {s : Sanitizer} {done : List Call},
    s.Remembers done → (outcomes calls s = calls.map s.freshAnswer ↔
      (∀ c ∈ done, ∀ d ∈ calls, s.Agree c d) ∧ calls.Pairwise s.Agree) := by
  induction calls with
  | nil =>
    intro s done _
    simp [outcomes]
  | cons c rest ih =>
    intro s done h
    -- the calls after `c` go on from those before it and `c` itself
    have hsplit : ((∀ b ∈ done, ∀ d ∈ c :: rest, s.Agree b d) ∧ (c :: rest).Pairwise s.Agree) ↔
        (∀ b ∈ done, s.Agree b c) ∧ (∀ b ∈ done ++ [c], ∀ d ∈ rest, s.Agree b d) ∧
          rest.Pairwise s.Agree := by
      simp only [List.forall_mem_cons, List.pairwise_cons, List.forall_mem_append]
      grind
    rw [hsplit]
    rcases h.new_or_again c with ⟨hnew, hkeys⟩ | ⟨b, hb, hkey, hagain⟩
    · have hagree : ∀ b ∈ done, s.Agree b c := fun b hb hkey => absurd hkey (hkeys b hb)
      rw [outcomes, sanitize_of_new hnew]
      simp only [List.map_cons, List.cons.injEq, true_and]
      rw [and_iff_right hagree]
      exact ih (h.new hnew)
    · have hsame : (∀ e ∈ done, s.Agree e c) ↔ s.freshAnswer b = s.freshAnswer c := by
        refine ⟨fun hagree => hagree b hb hkey, fun hbc e he hkey' => ?_⟩
        have hgiven := h.given e he
        rw [hkey', hagain] at hgiven
        exact (Option.some.inj hgiven).symm.trans hbc
      rw [outcomes, sanitize_of_remembered hagain, hsame]
      simp only [List.map_cons, List.cons.injEq]
      refine and_congr_right fun hbc => ?_
      exact ih (h.again (hbc ▸ hagain))

/-- Calls made one after another are all answered as by a sanitizer that has not been asked before
if and only if none of them reads as another one that is answered differently. -/
theorem outcomes_eq_fresh_iff (reserved builtins : List String) (calls : List Call) :
    outcomes calls { reserved, builtins } = calls.map (freshAnswer { reserved, builtins }) ↔
      calls.Pairwise fun c d => c.ReadsAs d ∨ d.ReadsAs c →
        freshAnswer { reserved, builtins } c = freshAnswer { reserved, builtins } d := by
  have hnew : Remembers { reserved, builtins } [] :=
    ⟨fun _ hc => absurd hc List.not_mem_nil, fun _ _ => rfl⟩
  rw [outcomes_eq_iff calls hnew]
  simp only [List.not_mem_nil, false_implies, implies_true, true_and]
  exact List.Pairwise.iff agree_iff

/-- A name in snake case and a shorter one in screaming snake case. -/
def screamingCalls : List Call :=
  [{ name := "user_screaming", style := .snake }, { name := "user", style := .screamingSnake }]

/-- The second call gets the answer of the first. -/
theorem outcomes_screamingCalls :
    outcomes screamingCalls { reserved := [], builtins := [] } =
        ["user_screaming", "user_screaming"] ∧
      screamingCalls.map (freshAnswer { reserved := [], builtins := [] }) =
        ["user_screaming", "USER"] := by
  decide

end Sanitizer

end ResolverGen
