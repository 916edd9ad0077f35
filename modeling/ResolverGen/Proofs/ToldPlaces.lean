import Mathlib.Data.List.Basic
import ResolverGen.Failure.Tagged

/-!
# The places that failures tell

A failure is told its place part by part on the way out. Each part keeps the first name it was given,
the cause is never touched, and the text always tells the place as it stands, once, before the text of
the cause.
-/
namespace ResolverGen

/-- A name that is missing or empty. -/
def IsVoid (name? : Option String) : Prop := name? = none ∨ name? = some ""

/-- The first of some names that is not void; if all are, a void one. -/
inductive IsFirstGiven : List (Option String) → Option String → Prop
  | none {name? : Option String} : IsVoid name? → IsFirstGiven [] name?
  | here {name : String} {rest : List (Option String)} :
      name ≠ "" → IsFirstGiven (some name :: rest) (some name)
  | later {void? name? : Option String} {rest : List (Option String)} :
      IsVoid void? → IsFirstGiven rest name? → IsFirstGiven (void? :: rest) name?

variable {first? second? name? : Option String} {rest : List (Option String)}

/-! ## Known names -/

theorem isVoid_or_exists (name? : Option String) :
    IsVoid name? ∨ ∃ name, name? = some name ∧ name ≠ "" := by
  cases name? with
  | none => exact Or.inl (Or.inl rfl)
  | some name =>
    by_cases h : name = ""
    · exact Or.inl (Or.inr (congrArg some h))
    · exact Or.inr ⟨name, rfl, h⟩

theorem knownName?_of_isVoid (h : IsVoid name?) : knownName? name? = none := by
  rcases h with rfl | rfl <;> rfl

theorem knownName?_of_ne {name : String} (h : name ≠ "") : knownName? (some name) = some name := by
  simp [knownName?, Option.filter, h]

theorem firstKnown_of_isVoid (h : IsVoid first?) (second? : Option String) :
    firstKnown first? second? = second? := by
  simp [firstKnown, knownName?_of_isVoid h]

theorem firstKnown_of_ne {name : String} (h : name ≠ "") (second? : Option String) :
    firstKnown (some name) second? = some name := by
  simp [firstKnown, knownName?_of_ne h]

theorem isFirstGiven_singleton (name? : Option String) : IsFirstGiven [name?] name? := by
  rcases isVoid_or_exists name? with hvoid | ⟨name, rfl, hname⟩
  · exact .later hvoid (.none hvoid)
  · exact .here hname

/-- Two names that were given may be taken for the one that is kept of them. -/
theorem IsFirstGiven.of_firstKnown (h : IsFirstGiven (firstKnown first? second? :: rest) name?) :
    IsFirstGiven (first? :: second? :: rest) name? := by
  rcases isVoid_or_exists first? with hvoid | ⟨name, rfl, hname⟩
  · rw [firstKnown_of_isVoid hvoid] at h
    exact .later hvoid h
  · rw [firstKnown_of_ne hname] at h
    cases h with
    | here => exact .here hname
    | later hvoid _ =>
      rcases hvoid with hvoid | hvoid
      · cases hvoid
      · exact absurd (Option.some.inj hvoid) hname

/-! ## One call after another -/

/-- A failure that was told its place by some calls. -/
def Tagged.tags {Cause : Type} (e : Tagged Cause) (calls : List Location) : Tagged Cause :=
  calls.foldl Tagged.tag e

/-- A part of a place, in which calls fill in what is not known. -/
theorem Tagged.isFirstGiven_tags {Cause : Type} (part : Location → Option String)
    (hpart : ∀ l other : Location, part (l.tag other) = firstKnown (part l) (part other))
    (e : Tagged Cause) (calls : List Location) :
    IsFirstGiven (part e.location :: calls.map part) (part (e.tags calls).location) := by
  induction calls generalizing e with
  | nil => exact isFirstGiven_singleton _
  | cons call calls ih =>
    have hcall := ih (e.tag call)
    rw [location_tag, hpart] at hcall
    exact hcall.of_firstKnown

theorem Tagged.cause_tags {Cause : Type} (e : Tagged Cause) (calls : List Location) :
    (e.tags calls).cause = e.cause := by
  induction calls generalizing e with
  | nil => rfl
  | cons call calls ih => exact ih (e.tag call)

/-! ## Texts -/

/-- What a text tells of a place, before the text of the cause. -/
def Location.heading (l : Location) : String :=
  match knownName? l.typeName?, knownName? l.fieldName?, knownName? l.variant? with
  | none, _, none => ""
  | none, _, some variant => "template '" ++ variant ++ "': "
  | some type, none, none => type ++ ": "
  | some type, some field, none => type ++ "." ++ field ++ ": "
  | some type, none, some variant => type ++ ", template '" ++ variant ++ "': "
  | some type, some field, some variant =>
    type ++ "." ++ field ++ ", template '" ++ variant ++ "': "

theorem Location.describe_eq (l : Location) (message : String) :
    l.describe message = l.heading ++ message := by
  have hmark : ", template '" = ", " ++ "template '" := rfl
  have hend : "': " = "'" ++ ": " := rfl
  unfold describe heading target? variantText?
  cases knownName? l.typeName? with
  | none =>
    cases knownName? l.variant? <;>
      simp only [Option.map_none, Option.map_some, hend, String.append_assoc, String.empty_append]
  | some type =>
    cases knownName? l.fieldName? <;> cases knownName? l.variant? <;>
      simp only [Option.map_none, Option.map_some, hmark, hend, String.append_assoc]

/-- Whatever place a failure is made with and told of, each part of it is the first name that was
given for that part and is not empty. The cause stays, and the text is that of the cause behind the
place as it is known now. -/
theorem Tagged.tags_told {Cause : Type} (causeText : Cause → String) (cause : Cause)
    (place : Location) (calls : List Location) :
    let e := (Tagged.mk cause place).tags calls
    IsFirstGiven ((place :: calls).map Location.typeName?) e.location.typeName? ∧
      IsFirstGiven ((place :: calls).map Location.fieldName?) e.location.fieldName? ∧
      IsFirstGiven ((place :: calls).map Location.variant?) e.location.variant? ∧
      e.cause = cause ∧
      e.text causeText = e.location.heading ++ causeText cause := by
  intro e
  have hcause : e.cause = cause := cause_tags _ calls
  refine ⟨?_, ?_, ?_, hcause, ?_⟩
  · exact isFirstGiven_tags Location.typeName? (fun _ _ => rfl) ⟨cause, place⟩ calls
  · exact isFirstGiven_tags Location.fieldName? (fun _ _ => rfl) ⟨cause, place⟩ calls
  · exact isFirstGiven_tags Location.variant? (fun _ _ => rfl) ⟨cause, place⟩ calls
  · rw [text, Location.describe_eq, hcause]

/-- What a call gives for a part that is known already is not taken. -/
example :
    ((Tagged.mk "gone" { variant? := some "" }).tags
      [{ typeName? := some "Post", variant? := some "setter" },
        { typeName? := some "Query", fieldName? := some "url" }]).text id =
      "Post.url, template 'setter': gone" := by decide

end ResolverGen
