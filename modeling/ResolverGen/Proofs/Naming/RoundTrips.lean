import ResolverGen.Proofs.Naming.SnakeForm

/-!
# Ways back to snake case

Camel and Pascal case put the parts of a name together, with a capital where a part begins. Snake
case finds the beginning of a part again if it is a letter and a lower-case letter or a digit stands
before it. So it is told for which names the way through camel or Pascal case leads back to the same
snake case.
-/
namespace ResolverGen

open Text
open Sanitizer (isPlainChar)

namespace Naming

variable {c d : Char} {s t w : List Char}

/-! ## Boundaries alone -/

theorem head?_markBoundaries (s : List Char) : (markBoundaries s).head? = s.head? := by
  fun_cases markBoundaries s <;> rfl

theorem getLast?_markBoundaries (s : List Char) : (markBoundaries s).getLast? = s.getLast? := by
  fun_induction markBoundaries s with
  | case1 => rfl
  | case2 c => rfl
  | case3 c d rest hmark ih => simp [List.getLast?_cons, ih]
  | case4 c d rest hmark ih => simp [List.getLast?_cons, ih]

theorem isChain_markBoundaries (h : ∀ c ∈ s, c ≠ '_') : (markBoundaries s).IsChain NotTwoMarks := by
  fun_induction markBoundaries s with
  | case1 => exact List.isChain_nil
  | case2 c => exact List.isChain_singleton c
  | case3 c d rest hmark ih =>
    obtain ⟨hc, hrest⟩ := List.forall_mem_cons.mp h
    have hmarked : ('_' :: markBoundaries (d :: rest)).IsChain NotTwoMarks := by
      refine List.isChain_cons.mpr ⟨fun e he hboth => ?_, ih hrest⟩
      rw [head?_markBoundaries, List.head?_cons, Option.mem_some] at he
      exact h d (by simp) (he.trans hboth.2)
    exact List.isChain_cons.mpr ⟨fun e _ hboth => hc hboth.1, hmarked⟩
  | case4 c d rest hmark ih =>
    obtain ⟨hc, hrest⟩ := List.forall_mem_cons.mp h
    exact List.isChain_cons.mpr ⟨fun e _ hboth => hc hboth.1, ih hrest⟩

/-- A text without underscores gets some between other characters only. -/
theorem hasInnerMarks_markBoundaries (h : ∀ c ∈ s, c ≠ '_') : HasInnerMarks (markBoundaries s) where
  single := isChain_markBoundaries h
  first := by
    rw [head?_markBoundaries]
    exact fun hfirst => h '_' (List.mem_of_head? hfirst) rfl
  last := by
    rw [getLast?_markBoundaries]
    exact fun hlast => h '_' (List.mem_of_getLast? hlast) rfl

/-- Letters and digits alone are put in snake case by their boundaries and lower case. -/
theorem snakeChars_of_alphanum (h : ∀ c ∈ s, c.isAlphanum = true) :
    snakeChars s = (markBoundaries s).map Char.toLower := by
  have hplain : ∀ c ∈ s, isPlainChar c = true := fun c hc => isPlainChar_iff.mpr (Or.inl (h c hc))
  have hmark : ∀ c ∈ s, c ≠ '_' := by
    rintro c hc rfl
    exact absurd (h '_' hc) (by decide)
  rw [snakeChars_ascii (isAscii_of_isPlainChar hplain), joinSeparators_of_plain hplain,
    (hasInnerMarks_markBoundaries hmark).map_toLower.trim_joinUnderscores]

/-! ## Words put together -/

/-- Letters and digits, of which the first may be a capital. -/
structure IsWord (w : List Char) : Prop where
  ne_nil : w ≠ []
  alphanum : ∀ c ∈ w, c.isAlphanum = true
  tail : ∀ c ∈ w.tail, c.isUpper = false

/-- Whether the second text opens with a capital behind a lower-case letter or digit that ends the
first one. -/
def opensBehind (s t : List Char) : Bool := s.getLast?.any closesPart && t.head?.any Char.isUpper

/-- Within a word there is no boundary. -/
theorem markBoundaries_append (hne : w ≠ []) (h : ∀ c ∈ w.tail, c.isUpper = false)
    (t : List Char) :
    markBoundaries (w ++ t) =
      w ++ if opensBehind w t then '_' :: markBoundaries t else markBoundaries t := by
  induction w with
  | nil => exact absurd rfl hne
  | cons c rest ih =>
    cases rest with
    | nil =>
      cases t with
      | nil => simp [opensBehind, markBoundaries]
      | cons d t =>
        have hopens : opensBehind [c] (d :: t) = (closesPart c && d.isUpper) := rfl
        rw [List.singleton_append, markBoundaries, hopens]
        split <;> rfl
    | cons d rest =>
      have hd : d.isUpper = false := h d (by simp)
      have hrest := ih (List.cons_ne_nil d rest) fun e he => h e (List.mem_cons_of_mem d he)
      have hlast : opensBehind (c :: d :: rest) t = opensBehind (d :: rest) t := by
        rw [opensBehind, opensBehind, List.getLast?_cons_cons]
      rw [List.cons_append, List.cons_append, markBoundaries, if_neg (by simp [hd]),
        ← List.cons_append, hrest, hlast]
      rfl

theorem head?_flatten_cons {ws : List (List Char)} (h : w ≠ []) :
    (w :: ws).flatten.head? = w.head? := by
  obtain ⟨c, rest, rfl⟩ := List.exists_cons_of_ne_nil h
  rfl

/-- Words put together come apart in snake case if and only if each but the first opens with a
capital behind a lower-case letter or digit. -/
theorem snakeChars_flatten_iff {first : List Char} {others : List (List Char)}
    (h : ∀ w ∈ first :: others, IsWord w) :
    snakeChars (first :: others).flatten =
        joinWith ['_'] ((first :: others).map (·.map Char.toLower)) ↔
      (first :: others).IsChain fun v w => opensBehind v w = true := by
  have halphanum : ∀ c ∈ (first :: others).flatten, c.isAlphanum = true := by
    intro c hc
    obtain ⟨w, hw, hc⟩ := List.mem_flatten.mp hc
    exact (h w hw).alphanum c hc
  rw [snakeChars_of_alphanum halphanum]
  clear halphanum
  induction others generalizing first with
  | nil =>
    have hfirst := h first List.mem_cons_self
    have halone : markBoundaries [first].flatten = first := by
      simpa [opensBehind, markBoundaries] using markBoundaries_append hfirst.ne_nil hfirst.tail []
    rw [halone]
    exact iff_of_true rfl (List.isChain_singleton first)
  | cons next rest ih =>
    obtain ⟨hfirst, hrest⟩ := List.forall_mem_cons.mp h
    have hnext := hrest next List.mem_cons_self
    have hopens : opensBehind first (next :: rest).flatten = opensBehind first next := by
      rw [opensBehind, opensBehind, head?_flatten_cons hnext.ne_nil]
    have ih := ih hrest
    rw [List.flatten_cons, markBoundaries_append hfirst.ne_nil hfirst.tail, hopens,
      List.map_cons, joinWith_cons _ _ (by simp), List.isChain_cons_cons, List.map_append,
      List.append_assoc, List.append_right_inj, List.singleton_append]
    cases opensBehind first next with
    | true =>
      rw [if_pos rfl, List.map_cons, and_iff_right rfl]
      exact (List.cons_inj_right '_').trans ih
    | false =>
      -- the next word does not open with the underscore that would have to stand there
      rw [if_neg (by simp)]
      refine iff_of_false (fun heq => ?_) (by simp)
      obtain ⟨c, word, hword⟩ := List.exists_cons_of_ne_nil hnext.ne_nil
      have hhead : (markBoundaries (next :: rest).flatten).head? = some c := by
        rw [head?_markBoundaries, head?_flatten_cons hnext.ne_nil, hword, List.head?_cons]
      have hmark := congrArg List.head? heq
      rw [List.head?_map, hhead, Option.map_some, List.head?_cons, Option.some_inj,
        toLower_eq_underscore_iff] at hmark
      have hc := hnext.alphanum c (by simp [hword])
      rw [hmark] at hc
      exact absurd hc (by decide)

/-! ## Parts and their title case -/

/-- A part of a name in snake case: lower-case letters and digits. -/
structure IsPart (p : List Char) : Prop where
  ne_nil : p ≠ []
  closes : ∀ c ∈ p, closesPart c = true

def OpensWithLetter (p : List Char) : Prop := ∃ c, p.head? = some c ∧ c.isAlpha = true

def IsLetter (p : List Char) : Prop := ∃ c, p = [c] ∧ c.isAlpha = true

theorem closesPart_iff : closesPart c = true ↔ c.isAlphanum = true ∧ c.isUpper = false := by
  unfold closesPart
  rw [Bool.or_eq_true, Bool.eq_false_iff, ne_eq, isLower_iff, isDigit_iff, isAlphanum_iff,
    isUpper_iff]
  omega

/-- A capital closes no part, a digit stays as it is. -/
theorem closesPart_toUpper (h : closesPart c = true) : closesPart c.toUpper = !c.isAlpha := by
  obtain ⟨halphanum, -⟩ := closesPart_iff.mp h
  rw [Bool.eq_iff_iff, closesPart_iff, isAlphanum_toUpper, isUpper_toUpper, and_iff_right halphanum,
    Bool.not_eq_true']

variable {p q : List Char}

theorem OpensWithLetter.two_le_length_iff (h : OpensWithLetter p) :
    2 ≤ p.length ↔ ¬IsLetter p := by
  obtain ⟨c, hhead, hc⟩ := h
  obtain ⟨rest, rfl⟩ := List.head?_eq_some_iff.mp hhead
  cases rest with
  | nil => exact iff_of_false (by simp) (not_not_intro ⟨c, rfl, hc⟩)
  | cons d rest => exact iff_of_true (by simp) (by simp [IsLetter])

theorem IsPart.isAscii (h : IsPart p) : IsAscii p := by
  intro c hc
  have halphanum := (closesPart_iff.mp (h.closes c hc)).1
  exact toNat_lt_of_isPlainChar (isPlainChar_iff.mpr (Or.inl halphanum))

theorem IsPart.map_toLower (h : IsPart p) : p.map Char.toLower = p :=
  map_toLower_of_not_isUpper fun c hc => (closesPart_iff.mp (h.closes c hc)).2

theorem IsPart.titleWord_cons {rest : List Char} (h : IsPart (c :: rest)) :
    titleWord (c :: rest) = c.toUpper :: rest := by
  have hrest := (List.cons.inj h.map_toLower).2
  rw [titleWord_ascii h.isAscii, hrest]

theorem IsPart.isWord (h : IsPart p) : IsWord p where
  ne_nil := h.ne_nil
  alphanum := fun c hc => (closesPart_iff.mp (h.closes c hc)).1
  tail := fun c hc => (closesPart_iff.mp (h.closes c (List.mem_of_mem_tail hc))).2

theorem IsPart.isWord_titleWord (h : IsPart p) : IsWord (titleWord p) := by
  obtain ⟨c, rest, rfl⟩ := List.exists_cons_of_ne_nil h.ne_nil
  obtain ⟨-, halphanum, htail⟩ := h.isWord
  obtain ⟨hc, hrest⟩ := List.forall_mem_cons.mp halphanum
  rw [h.titleWord_cons]
  refine ⟨List.cons_ne_nil _ rest, List.forall_mem_cons.mpr ⟨?_, hrest⟩, htail⟩
  rw [isAlphanum_toUpper, hc]

theorem IsPart.closes_last (h : IsPart p) : p.getLast?.any closesPart = true := by
  rw [List.getLast?_eq_some_getLast h.ne_nil, Option.any_some]
  exact h.closes _ (List.getLast_mem h.ne_nil)

theorem IsPart.opens_titleWord_iff (h : IsPart p) :
    (titleWord p).head?.any Char.isUpper = true ↔ OpensWithLetter p := by
  obtain ⟨c, rest, rfl⟩ := List.exists_cons_of_ne_nil h.ne_nil
  rw [h.titleWord_cons, List.head?_cons, Option.any_some, isUpper_toUpper]
  simp [OpensWithLetter]

/-- In title case a part ends as before unless it is a single letter, which is a capital then. -/
theorem IsPart.closes_titleWord_iff (h : IsPart p) :
    (titleWord p).getLast?.any closesPart = true ↔ ¬IsLetter p := by
  obtain ⟨c, rest, rfl⟩ := List.exists_cons_of_ne_nil h.ne_nil
  rw [h.titleWord_cons]
  cases rest with
  | nil =>
    rw [List.getLast?_singleton, Option.any_some, closesPart_toUpper (h.closes c (by simp))]
    simp [IsLetter]
  | cons d rest =>
    have hlast := h.closes_last
    rw [List.getLast?_cons_cons] at hlast ⊢
    exact iff_of_true hlast (by simp [IsLetter])

/-- Behind a part another one in title case opens if it opens with a letter. -/
theorem opensBehind_titleWord_iff (hq : IsPart q) (hp : IsPart p) :
    opensBehind q (titleWord p) = true ↔ OpensWithLetter p := by
  rw [opensBehind, hq.closes_last, Bool.true_and, hp.opens_titleWord_iff]

theorem opensBehind_titleWords_iff (hq : IsPart q) (hp : IsPart p) :
    opensBehind (titleWord q) (titleWord p) = true ↔ ¬IsLetter q ∧ OpensWithLetter p := by
  rw [opensBehind, Bool.and_eq_true, hq.closes_titleWord_iff, hp.opens_titleWord_iff]

/-- Neighbours meet two conditions if all but the last meet the one, and all but the first the
other. -/
theorem isChain_and_iff {α : Type} {A B : α → Prop} {x : α} {l : List α} :
    (x :: l).IsChain (fun a b => A a ∧ B b) ↔ (∀ b ∈ l, B b) ∧ ∀ a ∈ (x :: l).dropLast, A a := by
  induction l generalizing x with
  | nil => simp
  | cons y l ih =>
    rw [List.isChain_cons_cons, ih, List.dropLast_cons_cons, List.forall_mem_cons,
      List.forall_mem_cons]
    tauto

section

variable {first : List Char} {others : List (List Char)}
  (h : ∀ p ∈ first :: others, IsPart p)

include h

theorem isChain_titleWords_iff :
    ((first :: others).map titleWord).IsChain (fun v w => opensBehind v w = true) ↔
      (∀ p ∈ others, OpensWithLetter p) ∧ ∀ p ∈ (first :: others).dropLast, ¬IsLetter p := by
  rw [List.isChain_map, ← isChain_and_iff]
  exact List.IsChain.iff_of_mem_imp fun q p hq hp => opensBehind_titleWords_iff (h q hq) (h p hp)

theorem isChain_cons_titleWords_iff :
    (first :: others.map titleWord).IsChain (fun v w => opensBehind v w = true) ↔
      (∀ p ∈ others, OpensWithLetter p) ∧ ∀ p ∈ others.dropLast, 2 ≤ p.length := by
  obtain ⟨hfirst, hothers⟩ := List.forall_mem_cons.mp h
  cases others with
  | nil => simp
  | cons next rest =>
    have hnext := hothers next List.mem_cons_self
    have htitle := isChain_titleWords_iff hothers
    rw [List.map_cons] at htitle
    rw [List.map_cons, List.isChain_cons_cons, opensBehind_titleWord_iff hfirst hnext, htitle,
      ← and_assoc, ← List.forall_mem_cons]
    refine and_congr_right fun hletters => forall₂_congr fun p hp => ?_
    exact (hletters p (List.dropLast_subset _ hp)).two_le_length_iff.symm

end

/-! ## Ways back -/

theorem map_toLower_titleWords {parts : List (List Char)} (h : ∀ p ∈ parts, IsPart p) :
    (parts.map titleWord).map (·.map Char.toLower) = parts := by
  rw [List.map_map]
  have hid : ∀ p ∈ parts, ((·.map Char.toLower) ∘ titleWord) p = id p := by
    intro p hp
    rw [Function.comp_apply, map_toLower_titleWord (h p hp).isAscii, (h p hp).map_toLower]
    rfl
  rw [List.map_congr_left hid, List.map_id]

section

variable {first : List Char} {others : List (List Char)}
  (h : ∀ c ∈ s, isPlainChar c = true) (hparts : nameParts s = first :: others)
  (hne : ∀ p ∈ first :: others, p ≠ [])

include h hparts hne

theorem isPart_of_nameParts : ∀ p ∈ first :: others, IsPart p := by
  intro p hp
  rw [← hparts] at hp
  refine ⟨hne p (hparts ▸ hp), fun c hc => closesPart_iff.mpr ⟨?_, ?_⟩⟩
  · refine (isPlainChar_iff.mp (isPlainChar_of_mem_nameParts h hp hc)).resolve_right ?_
    rintro rfl
    exact not_mem_of_mem_splitAt hp hc
  · exact isUpper_of_mem_snakeChars (isAscii_of_isPlainChar h) (mem_of_mem_splitAt hp hc)

theorem snakeChars_camelChars_iff :
    snakeChars (camelChars s) = snakeChars s ↔
      (∀ p ∈ others, OpensWithLetter p) ∧ ∀ p ∈ others.dropLast, 2 ≤ p.length := by
  have hpart := isPart_of_nameParts h hparts hne
  obtain ⟨hfirst, hothers⟩ := List.forall_mem_cons.mp hpart
  have hwords : ∀ w ∈ first :: others.map titleWord, IsWord w := by
    refine List.forall_mem_cons.mpr ⟨hfirst.isWord, List.forall_mem_map.mpr fun p hp => ?_⟩
    exact (hothers p hp).isWord_titleWord
  have hcamel : camelChars s = (first :: others.map titleWord).flatten := by
    rw [camelChars, hparts, List.flatten_cons, ← List.flatMap_def]
    dsimp only
    rw [lower_ascii hfirst.isAscii, hfirst.map_toLower]
  rw [hcamel, ← isChain_cons_titleWords_iff hpart, ← snakeChars_flatten_iff hwords, List.map_cons,
    hfirst.map_toLower, map_toLower_titleWords hothers, ← hparts, joinWith_nameParts]

theorem snakeChars_pascalChars_iff :
    snakeChars (pascalChars s) = snakeChars s ↔
      (∀ p ∈ others, OpensWithLetter p) ∧ ∀ p ∈ (first :: others).dropLast, ¬IsLetter p := by
  have hpart := isPart_of_nameParts h hparts hne
  have hwords : ∀ w ∈ (first :: others).map titleWord, IsWord w :=
    List.forall_mem_map.mpr fun p hp => (hpart p hp).isWord_titleWord
  rw [pascalChars, hparts, List.flatMap_def, ← isChain_titleWords_iff hpart, List.map_cons,
    ← snakeChars_flatten_iff hwords, ← List.map_cons, map_toLower_titleWords hpart, ← hparts,
    joinWith_nameParts]

end

theorem toList_camelCase (name : String) : (camelCase name).toList = camelChars name.toList :=
  toList_onChars camelChars name

theorem toList_pascalCase (name : String) : (pascalCase name).toList = pascalChars name.toList :=
  toList_onChars pascalChars name

/-- A name of letters, digits and underscores whose snake case has the parts `first` and `others`
comes back to it by way of camel case if and only if all parts behind the first open with a letter,
and those between the first and the last have two characters or more. By way of Pascal case it does
if and only if all parts behind the first open with a letter, and none but the last is a single
letter. -/
theorem snakeCase_roundTrips {name : String} (h : ∀ c ∈ name.toList, isPlainChar c = true)
    {first : List Char} {others : List (List Char)}
    (hjoin : (snakeCase name).toList = joinWith ['_'] (first :: others))
    (hparts : ∀ p ∈ first :: others, p ≠ [] ∧ '_' ∉ p) :
    (snakeCase (camelCase name) = snakeCase name ↔
      (∀ p ∈ others, OpensWithLetter p) ∧ ∀ p ∈ others.dropLast, 2 ≤ p.length) ∧
    (snakeCase (pascalCase name) = snakeCase name ↔
      (∀ p ∈ others, OpensWithLetter p) ∧ ∀ p ∈ (first :: others).dropLast, ¬IsLetter p) := by
  have hne : ∀ p ∈ first :: others, p ≠ [] := fun p hp => (hparts p hp).1
  have hnames : nameParts name.toList = first :: others := by
    rw [nameParts, ← toList_snakeCase, hjoin]
    exact splitAt_joinWith (List.cons_ne_nil first others) fun p hp => (hparts p hp).2
  simp only [← String.toList_inj, toList_snakeCase, toList_camelCase, toList_pascalCase]
  exact ⟨snakeChars_camelChars_iff h hnames hne, snakeChars_pascalChars_iff h hnames hne⟩

/-- A single letter that a name opens with is found again behind camel case only. -/
theorem snakeCase_roundTrips_userName :
    snakeCase "aUser_id" = "a_user_id" ∧
      snakeCase (camelCase "aUser_id") = snakeCase "aUser_id" ∧
      snakeCase (pascalCase "aUser_id") ≠ snakeCase "aUser_id" := by
  have hplain : ∀ c ∈ "aUser_id".toList, isPlainChar c = true := isPlainChar_of_mem (by decide)
  have hjoin : (snakeCase "aUser_id").toList =
      joinWith ['_'] (['a'] :: ["user".toList, "id".toList]) := by decide
  obtain ⟨hcamel, hpascal⟩ := snakeCase_roundTrips hplain hjoin (by decide)
  refine ⟨by decide, hcamel.mpr ⟨?_, by decide⟩, fun hback => ?_⟩
  · simp [OpensWithLetter]
  · exact (hpascal.mp hback).2 ['a'] (by simp) ⟨'a', rfl, by decide⟩

end Naming

end ResolverGen
