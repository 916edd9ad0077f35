import ResolverGen.GraphQL.TypeMap
import ResolverGen.Proofs.FirstFailures
import ResolverGen.Proofs.Go.FieldNames
import ResolverGen.Proofs.GraphQL.References
import ResolverGen.Proofs.Schema.Layers

/-!
# Types that are read from a text

Every type of a schema that is read from a text has a name as schemas have them, and no mark that
forbids null stands right under another one in the types of its fields. Names come from the tokens of
the text, where they hold letters, digits and underscores only. No reader makes up a token: it takes
some from the front and leaves the rest. A mark is read once behind a list or a name.
-/
namespace ResolverGen.GraphQL

open Go (IsSchemaName)
open Text (isPlainChar_iff)

/-! ## Tokens -/

/-- Lexemes in which all names are names as schemas have them. -/
def HasNames (lexemes : List Lexeme) : Prop :=
  ∀ text, Lexeme.token (.name text) ∈ lexemes → IsSchemaName text

theorem HasNames.tail {lexemes : List Lexeme} (h : HasNames lexemes) : HasNames lexemes.tail :=
  fun text hmem => h text (List.mem_of_mem_tail hmem)

theorem isSchemaName_takeWhile {c : Char} {rest : List Char} (h : isNameStart c = true) :
    IsSchemaName (String.ofList ((c :: rest).takeWhile isNameRest)) := by
  have hc : c.isAlpha = true ∨ c = '_' := by simpa [isNameStart] using h
  have hrest : isNameRest c = true := Text.isPlainChar_of_isAlpha hc
  unfold IsSchemaName
  rw [String.toList_ofList, List.takeWhile_cons_of_pos hrest]
  exact Text.isAsciiIdentifier_iff.mpr ⟨c, _, rfl, hc, fun d hd => List.mem_takeWhile_imp hd⟩

/-- A number is not a name. -/
theorem number_ne_name {s rest : List Char} {text : String} :
    number s ≠ .ok (.name text, rest) := by
  intro h
  unfold number at h
  obtain ⟨⟨whole, rest₁⟩, -, h⟩ := bind_eq_ok_iff.mp h
  obtain ⟨⟨fraction, rest₂⟩, -, h⟩ := bind_eq_ok_iff.mp h
  obtain ⟨⟨exponent, rest₃⟩, -, h⟩ := bind_eq_ok_iff.mp h
  dsimp only at h
  split at h
  · split at h
    · cases h
    · split at h <;> cases h
  · split at h <;> cases h

theorem isSchemaName_of_token {c : Char} {rest behind : List Char} {text : String}
    (h : token (c :: rest) c rest = .ok (.name text, behind)) : IsSchemaName text := by
  unfold token at h
  split at h
  · cases h
  · split at h
    · split at h
      · obtain ⟨raw, -, h⟩ := bind_eq_ok_iff.mp h
        cases h
      · obtain ⟨value, -, h⟩ := bind_eq_ok_iff.mp h
        cases h
    · split at h
      · exact absurd h number_ne_name
      · split at h
        · rename_i hstart
          cases h
          exact isSchemaName_takeWhile hstart
        · split at h
          · cases h
          · split at h <;> cases h

theorem hasNames_lexemesFrom {fuel : Nat} : ∀ s, HasNames (lexemesFrom fuel s) := by
  induction fuel with
  | zero => exact fun s text h => by simp [lexemesFrom] at h
  | succ fuel ih =>
    intro s text h
    cases s with
    | nil => simp [lexemesFrom] at h
    | cons c rest =>
      rw [lexemesFrom] at h
      split at h
      · exact ih _ text h
      · split at h
        · exact ih _ text h
        · split at h
          · rename_i t behind htoken
            rcases List.mem_cons.mp h with h | h
            · cases h
              exact isSchemaName_of_token htoken
            · exact ih _ text h
          · simp at h

/-! ## Well-formed types -/

/-- The name of a type is one as schemas have them, and its fields have types with single marks. -/
def IsWellFormed (name : String) (body : TypeBody) : Prop :=
  IsSchemaName name ∧ ∀ f ∈ body.fields, ¬Doubled f.type.layers

instance (name : String) (body : TypeBody) : Decidable (IsWellFormed name body) :=
  inferInstanceAs (Decidable (_ ∧ _))

theorem isWellFormed_of_no_fields {name : String} {body : TypeBody} (hname : IsSchemaName name)
    (hbody : body.fields = []) : IsWellFormed name body :=
  ⟨hname, by simp [hbody]⟩

/-- What a definition defines, if it is a type, is well-formed. -/
def Definition.IsWellFormed : Definition → Prop
  | .type _ _ name _ body => GraphQL.IsWellFormed name body
  | _ => True

instance (d : Definition) : Decidable d.IsWellFormed :=
  match d with
  | .type _ _ name _ body => inferInstanceAs (Decidable (IsWellFormed name body))
  | .operation .. | .fragment .. | .schema .. | .directive _ => inferInstanceAs (Decidable True)

/-! ## Readers -/

namespace Reader

variable {α β : Type}

/-- Readers that leave lexemes with names as schemas have them, and read things with a property. -/
def Reads (r : Reader α) (P : α → Prop) : Prop :=
  ∀ s a s', HasNames s → r s = .ok (a, s') → HasNames s' ∧ P a

/-- Readers that leave lexemes with names as schemas have them, whatever they read. -/
def Keeps (r : Reader α) : Prop := Reads r fun _ => True

theorem Reads.keeps {r : Reader α} {P : α → Prop} (h : Reads r P) : Keeps r :=
  fun s a s' hs hrun => ⟨(h s a s' hs hrun).1, trivial⟩

theorem reads_pure {a : α} {P : α → Prop} (h : P a) : Reads (pure a) P := by
  intro s b s' hs hrun
  cases hrun
  exact ⟨hs, h⟩

theorem Reads.bind {x : Reader α} {f : α → Reader β} {P : α → Prop} {Q : β → Prop}
    (hx : Reads x P) (hf : ∀ a, P a → Reads (f a) Q) : Reads (x >>= f) Q := by
  intro s b s' hs hrun
  obtain ⟨⟨a, t⟩, hfirst, hrest⟩ :=
    bind_eq_ok_iff.mp (show (x s >>= fun p => f p.1 p.2) = _ from hrun)
  obtain ⟨ht, ha⟩ := hx s a t hs hfirst
  exact hf a ha t b s' ht hrest

theorem Keeps.reads {x : Reader α} {f : α → Reader β} {Q : β → Prop} (hx : Keeps x)
    (hf : ∀ a, Reads (f a) Q) : Reads (x >>= f) Q :=
  hx.bind fun a _ => hf a

theorem reads_fail {f : SyntaxFault} {P : α → Prop} : Reads (fail f : Reader α) P := by
  rintro s a s' hs ⟨⟩

theorem keeps_pure (a : α) : Keeps (pure a : Reader α) := reads_pure trivial

theorem Keeps.bind {x : Reader α} {f : α → Reader β} (hx : Keeps x) (hf : ∀ a, Keeps (f a)) :
    Keeps (x >>= f) := hx.reads hf

theorem Reads.ite {c : Prop} [Decidable c] {x y : Reader α} {P : α → Prop} (hx : Reads x P)
    (hy : Reads y P) : Reads (if c then x else y) P := by
  split
  · exact hx
  · exact hy

theorem keeps_ite {c : Prop} [Decidable c] {x y : Reader α} (hx : Keeps x) (hy : Keeps y) :
    Keeps (if c then x else y) := Reads.ite hx hy

/-- The next token, if it is a name, is one as schemas have them. -/
theorem reads_peek : Reads peek fun t => ∀ text, t = .name text → IsSchemaName text := by
  intro s t s' hs hrun
  unfold peek at hrun
  split at hrun
  · cases hrun
    exact ⟨hs, by rintro text ⟨⟩⟩
  · cases hrun
    exact ⟨hs, fun text h => hs text (h ▸ List.mem_cons_self)⟩
  · cases hrun

theorem keeps_peek : Keeps peek := reads_peek.keeps

theorem keeps_peekSecond : Keeps peekSecond := by
  intro s t s' hs hrun
  unfold peekSecond at hrun
  split at hrun
  · cases hrun
    exact ⟨hs, trivial⟩
  · cases hrun
  · rename_i first rest
    cases hpeek : peek rest with
    | error f =>
      rw [hpeek] at hrun
      cases hrun
    | ok next =>
      rw [hpeek] at hrun
      cases hrun
      exact ⟨hs, trivial⟩

theorem keeps_skip : Keeps skip := by
  intro s u s' hs hrun
  cases hrun
  exact ⟨hs.tail, trivial⟩

theorem reads_unexpected {P : α → Prop} : Reads unexpected P :=
  keeps_peek.reads fun _ => reads_fail

theorem keeps_unexpected : Keeps (unexpected : Reader α) := reads_unexpected

theorem keeps_at? (p : Punctuator) : Keeps (at? p) := keeps_peek.bind fun _ => keeps_pure _

theorem keeps_expect (p : Punctuator) : Keeps (expect p) :=
  keeps_peek.bind fun _ => keeps_ite keeps_skip reads_fail

theorem keeps_optional (p : Punctuator) : Keeps (optional p) := by
  refine (keeps_at? p).bind fun _ => ?_
  exact keeps_ite (keeps_skip.bind fun _ => keeps_pure _) (keeps_pure _)

theorem keeps_expectWord (word : String) : Keeps (expectWord word) :=
  keeps_peek.bind fun _ => keeps_ite keeps_skip reads_fail

theorem keeps_optionalWord (word : String) : Keeps (optionalWord word) := by
  refine keeps_peek.bind fun _ => ?_
  exact keeps_ite (keeps_skip.bind fun _ => keeps_pure _) (keeps_pure _)

theorem reads_name : Reads name IsSchemaName := by
  refine reads_peek.bind fun t ht => ?_
  cases t with
  | name text => exact keeps_skip.reads fun _ => reads_pure (ht text rfl)
  | _ => exact reads_fail

theorem keeps_name : Keeps name := reads_name.keeps

theorem reads_untilClosed {item : Reader α} {P : α → Prop} (h : Reads item P) (close : Punctuator) :
    ∀ fuel, Reads (untilClosed item close fuel) fun items => ∀ a ∈ items, P a
  | 0 => reads_unexpected
  | fuel + 1 => by
    refine (keeps_optional close).reads fun _ => Reads.ite (reads_pure (by simp)) ?_
    exact h.bind fun _ hfirst => (reads_untilClosed h close fuel).bind fun _ hrest =>
      reads_pure (List.forall_mem_cons.mpr ⟨hfirst, hrest⟩)

section

variable {item : Reader α} {P : α → Prop} (h : Reads item P) (fuel : Nat)
include h

theorem reads_many (openMark close : Punctuator) :
    Reads (many fuel openMark item close) fun items => ∀ a ∈ items, P a :=
  (keeps_expect openMark).reads fun _ => h.bind fun _ hfirst =>
    (reads_untilClosed h close fuel).bind fun _ hrest =>
      reads_pure (List.forall_mem_cons.mpr ⟨hfirst, hrest⟩)

theorem reads_optionalMany (openMark close : Punctuator) :
    Reads (optionalMany fuel openMark item close) fun items => ∀ a ∈ items, P a :=
  (keeps_at? openMark).reads fun _ =>
    Reads.ite (reads_many h fuel openMark close) (reads_pure (by simp))

end

section

variable {item : Reader α} (h : Keeps item) (fuel : Nat)
include h

theorem keeps_untilClosed (close : Punctuator) : Keeps (untilClosed item close fuel) :=
  (reads_untilClosed h close fuel).keeps

theorem keeps_many (openMark close : Punctuator) : Keeps (many fuel openMark item close) :=
  (reads_many h fuel openMark close).keeps

theorem keeps_optionalMany (openMark close : Punctuator) :
    Keeps (optionalMany fuel openMark item close) :=
  (reads_optionalMany h fuel openMark close).keeps

theorem keeps_anyBetween (openMark close : Punctuator) :
    Keeps (anyBetween fuel openMark item close) :=
  (keeps_expect openMark).bind fun _ => keeps_untilClosed h fuel close

end

theorem keeps_separatedFrom {item : Reader α} (h : Keeps item) (mark : Punctuator) :
    ∀ fuel, Keeps (separatedFrom mark item fuel)
  | 0 => keeps_unexpected
  | fuel + 1 => by
    refine h.bind fun _ => (keeps_optional mark).bind fun _ => keeps_ite ?_ (keeps_pure _)
    exact (keeps_separatedFrom h mark fuel).bind fun _ => keeps_pure _

theorem keeps_separated {item : Reader α} (h : Keeps item) (fuel : Nat) (mark : Punctuator) :
    Keeps (separated fuel mark item) :=
  (keeps_optional mark).bind fun _ => keeps_separatedFrom h mark fuel

theorem keeps_description : Keeps description := by
  refine keeps_peek.bind fun t => ?_
  split
  · exact keeps_skip.bind fun _ => keeps_pure _
  · exact keeps_skip.bind fun _ => keeps_pure _
  · exact keeps_pure _

/-! ### Values and types -/

theorem keeps_literal (const : Bool) : ∀ fuel, Keeps (literal const fuel)
  | 0 => keeps_unexpected
  | fuel + 1 => by
    have hinner := keeps_literal const fuel
    refine keeps_peek.bind fun t => ?_
    split
    · exact (keeps_anyBetween hinner fuel _ _).bind fun _ => keeps_pure _
    · refine (keeps_anyBetween ?_ fuel _ _).bind fun _ => keeps_pure _
      exact keeps_name.bind fun _ => (keeps_expect _).bind fun _ =>
        hinner.bind fun _ => keeps_pure _
    · exact keeps_skip.bind fun _ => keeps_pure _
    · exact keeps_skip.bind fun _ => keeps_pure _
    · exact keeps_skip.bind fun _ => keeps_pure _
    · exact keeps_skip.bind fun _ => keeps_pure _
    · exact keeps_skip.bind fun _ => keeps_pure _
    · refine keeps_ite ?_ (keeps_skip.bind fun _ => keeps_name.bind fun _ => keeps_pure _)
      refine keeps_peek.bind fun _ => keeps_skip.bind fun _ => keeps_peek.bind fun _ => ?_
      split <;> exact reads_fail
    · exact keeps_unexpected

variable (fuel : Nat)

theorem keeps_argument (const : Bool) : Keeps (argument const fuel) :=
  keeps_name.bind fun _ => (keeps_expect _).bind fun _ =>
    (keeps_literal const fuel).bind fun _ => keeps_pure _

theorem keeps_arguments (const : Bool) : Keeps (arguments const fuel) :=
  keeps_optionalMany (keeps_argument fuel const) fuel _ _

theorem keeps_directives (const : Bool) : ∀ fuel, Keeps (directives const fuel)
  | 0 => keeps_unexpected
  | fuel + 1 => by
    refine (keeps_at? _).bind fun _ => keeps_ite ?_ (keeps_pure _)
    refine keeps_skip.bind fun _ => keeps_name.bind fun _ => ?_
    exact (keeps_arguments fuel const).bind fun _ =>
      (keeps_directives const fuel).bind fun _ => keeps_pure _

/-- Only one mark is read behind a list or a name. -/
theorem reads_typeNode : ∀ fuel, Reads (typeNode fuel) fun t => ¬Doubled t.layers
  | 0 => reads_unexpected
  | fuel + 1 => by
    have hend : ∀ base : TypeNode, base.layers.head? ≠ some .nonNull ∧ ¬Doubled base.layers →
        Reads (do
          if ← optional .bang then
            return .nonNull base
          return base) fun t => ¬Doubled t.layers := by
      intro base ⟨hhead, hbase⟩
      refine (keeps_optional _).reads fun _ => Reads.ite (reads_pure ?_) (reads_pure hbase)
      exact fun hdoubled => (doubled_nonNull.mp hdoubled).elim hhead hbase
    refine (keeps_optional _).reads fun _ => Reads.ite ?_ ?_
    · refine (reads_typeNode fuel).bind fun inner hinner => (keeps_expect _).reads fun _ => ?_
      exact (reads_pure ⟨by simp [TypeNode.layers], mt doubled_list.mp hinner⟩).bind hend
    · refine keeps_name.reads fun text => ?_
      exact (reads_pure ⟨by simp [TypeNode.layers], not_doubled_nil⟩).bind hend

theorem keeps_typeNode : Keeps (typeNode fuel) := (reads_typeNode fuel).keeps

theorem keeps_defaultValue : Keeps (defaultValue fuel) :=
  (keeps_optional _).bind fun _ =>
    keeps_ite ((keeps_literal true fuel).bind fun _ => keeps_pure _) (keeps_pure _)

/-! ### Definitions of types -/

theorem keeps_inputValue : Keeps (inputValue fuel) :=
  keeps_description.bind fun _ => keeps_name.bind fun _ => (keeps_expect _).bind fun _ =>
    (keeps_typeNode fuel).bind fun _ => (keeps_defaultValue fuel).bind fun _ =>
      (keeps_directives true fuel).bind fun _ => keeps_pure _

theorem keeps_argumentDefinitions : Keeps (argumentDefinitions fuel) :=
  keeps_optionalMany (keeps_inputValue fuel) fuel _ _

theorem reads_fieldDefinition : Reads (fieldDefinition fuel) fun f => ¬Doubled f.type.layers :=
  keeps_description.reads fun _ => keeps_name.reads fun _ =>
    (keeps_argumentDefinitions fuel).reads fun _ => (keeps_expect _).reads fun _ =>
      (reads_typeNode fuel).bind fun _ htype => (keeps_directives true fuel).reads fun _ =>
        reads_pure htype

theorem reads_fieldDefinitions :
    Reads (fieldDefinitions fuel) fun fields => ∀ f ∈ fields, ¬Doubled f.type.layers :=
  reads_optionalMany (reads_fieldDefinition fuel) fuel _ _

theorem keeps_interfaces : Keeps (interfaces fuel) :=
  (keeps_optionalWord _).bind fun _ =>
    keeps_ite (keeps_separated keeps_name fuel _) (keeps_pure _)

theorem keeps_unionMembers : Keeps (unionMembers fuel) :=
  (keeps_optional _).bind fun _ => keeps_ite (keeps_separated keeps_name fuel _) (keeps_pure _)

theorem keeps_enumValue : Keeps (enumValue fuel) := by
  refine keeps_description.bind fun _ => keeps_peek.bind fun _ => ?_
  refine keeps_ite (reads_fail (P := fun _ => True)) ?_
  exact keeps_name.bind fun _ => (keeps_directives true fuel).bind fun _ => keeps_pure _

/-- The parts of a type of any kind. -/
theorem reads_typeParts (word : String) :
    Reads (typeParts fuel word) fun parts => IsWellFormed parts.1 parts.2.2 := by
  refine (keeps_expectWord word).reads fun _ => reads_name.bind fun key hkey => ?_
  have hnotes := keeps_directives true fuel
  split
  · exact (keeps_interfaces fuel).reads fun _ => hnotes.reads fun _ =>
      (reads_fieldDefinitions fuel).bind fun _ hfields => reads_pure ⟨hkey, hfields⟩
  · exact (keeps_interfaces fuel).reads fun _ => hnotes.reads fun _ =>
      (reads_fieldDefinitions fuel).bind fun _ hfields => reads_pure ⟨hkey, hfields⟩
  · exact hnotes.reads fun _ =>
      (keeps_unionMembers fuel).reads fun _ => reads_pure (isWellFormed_of_no_fields hkey rfl)
  · exact hnotes.reads fun _ => (keeps_optionalMany (keeps_enumValue fuel) fuel _ _).reads fun _ =>
      reads_pure (isWellFormed_of_no_fields hkey rfl)
  · exact hnotes.reads fun _ => (keeps_optionalMany (keeps_inputValue fuel) fuel _ _).reads fun _ =>
      reads_pure (isWellFormed_of_no_fields hkey rfl)
  · exact hnotes.reads fun _ => reads_pure (isWellFormed_of_no_fields hkey rfl)

/-! ### Other definitions -/

theorem keeps_operationKind : Keeps operationKind := by
  refine keeps_peek.bind fun t => ?_
  split
  · split
    · exact keeps_skip.bind fun _ => keeps_peek.bind fun _ => keeps_pure _
    · exact keeps_peek.bind fun _ => keeps_skip.bind fun _ => keeps_peek.bind fun _ => reads_fail
  · exact reads_fail

theorem keeps_root : Keeps root :=
  keeps_operationKind.bind fun _ => (keeps_expect _).bind fun _ =>
    keeps_name.bind fun _ => keeps_pure _

theorem keeps_directiveLocation : Keeps directiveLocation := by
  refine keeps_peek.bind fun _ => keeps_name.bind fun _ => keeps_peek.bind fun _ => ?_
  split
  · exact keeps_pure _
  · exact reads_fail

theorem reads_directiveDefinition : Reads (directiveDefinition fuel) Definition.IsWellFormed :=
  (keeps_expectWord _).reads fun _ => (keeps_expect _).reads fun _ => keeps_name.reads fun _ =>
    (keeps_argumentDefinitions fuel).reads fun _ => (keeps_optionalWord _).reads fun _ =>
      (keeps_expectWord _).reads fun _ =>
        (keeps_separated keeps_directiveLocation fuel _).reads fun _ => reads_pure trivial

theorem keeps_variableDefinition : Keeps (variableDefinition fuel) :=
  (keeps_expect _).bind fun _ => keeps_name.bind fun _ => (keeps_expect _).bind fun _ =>
    (keeps_typeNode fuel).bind fun _ => (keeps_defaultValue fuel).bind fun _ =>
      (keeps_directives true fuel).bind fun _ => keeps_pure _

theorem keeps_selection : ∀ fuel, Keeps (selection fuel)
  | 0 => keeps_unexpected
  | fuel + 1 => by
    have hinner := keeps_selection fuel
    have hnotes := keeps_directives false fuel
    refine (keeps_optional _).bind fun _ => keeps_ite ?_ ?_
    · refine (keeps_optionalWord _).bind fun _ => keeps_ite ?_ ?_
      · exact keeps_name.bind fun _ => hnotes.bind fun _ =>
          (keeps_many hinner fuel _ _).bind fun _ => keeps_pure _
      · refine keeps_peek.bind fun t => ?_
        split
        · exact keeps_skip.bind fun _ => hnotes.bind fun _ => keeps_pure _
        · exact hnotes.bind fun _ => (keeps_many hinner fuel _ _).bind fun _ => keeps_pure _
    · have hend : ∀ key : String, Keeps (do
          let inputs ← arguments false fuel
          let notes ← directives false fuel
          let inner ← optionalMany fuel .braceL (selection fuel) .braceR
          return Selection.field key inputs notes inner) := fun _ =>
        (keeps_arguments fuel false).bind fun _ => hnotes.bind fun _ =>
          (keeps_optionalMany hinner fuel _ _).bind fun _ => keeps_pure _
      exact keeps_name.bind fun _ => (keeps_optional _).bind fun _ =>
        keeps_ite (keeps_name.bind hend) ((keeps_pure _).bind hend)

theorem keeps_selectionSet : Keeps (selectionSet fuel) :=
  keeps_many (keeps_selection fuel) fuel _ _

theorem reads_operation : Reads (operation fuel) Definition.IsWellFormed := by
  have hset := keeps_selectionSet fuel
  refine (keeps_at? _).reads fun _ => Reads.ite (hset.reads fun _ => reads_pure trivial) ?_
  refine keeps_operationKind.reads fun _ => keeps_peek.reads fun _ => ?_
  have hparameters := keeps_optionalMany (keeps_variableDefinition fuel) fuel .parenL .parenR
  have hnotes := keeps_directives false fuel
  dsimp only
  split
  · exact keeps_skip.reads fun _ => hparameters.reads fun _ => hnotes.reads fun _ =>
      hset.reads fun _ => reads_pure trivial
  · exact hparameters.reads fun _ => hnotes.reads fun _ => hset.reads fun _ => reads_pure trivial

theorem reads_fragment : Reads (fragment fuel) Definition.IsWellFormed := by
  refine (keeps_expectWord _).reads fun _ => keeps_peek.reads fun _ => ?_
  refine Reads.ite (reads_fail (P := Definition.IsWellFormed)) ?_
  exact keeps_name.reads fun _ => (keeps_expectWord _).reads fun _ => keeps_name.reads fun _ =>
    (keeps_directives false fuel).reads fun _ => (keeps_selectionSet fuel).reads fun _ =>
      reads_pure trivial

theorem reads_extension : Reads (extension fuel) Definition.IsWellFormed := by
  refine keeps_peekSecond.reads fun t => ?_
  split
  · refine Reads.ite ?_ (Reads.ite ?_ reads_fail)
    · refine keeps_skip.reads fun _ => keeps_skip.reads fun _ =>
        (keeps_directives true fuel).reads fun _ =>
          (keeps_optionalMany keeps_root fuel _ _).reads fun _ => ?_
      exact Reads.ite (keeps_unexpected.reads fun _ => reads_pure trivial) (reads_pure trivial)
    · refine keeps_skip.reads fun _ => (reads_typeParts fuel _).bind fun parts hparts => ?_
      exact Reads.ite (keeps_unexpected.reads fun _ => reads_pure hparts) (reads_pure hparts)
  · exact reads_fail

theorem reads_typeDefinition (word : String) : Reads (do
      let text ← description
      let (key, notes, body) ← typeParts fuel word
      return .type false text key notes body) Definition.IsWellFormed :=
  keeps_description.reads fun _ =>
    (reads_typeParts fuel word).bind fun _ hparts => reads_pure hparts

theorem reads_schemaDefinition : Reads (do
      let _ ← description
      expectWord "schema"
      let notes ← directives true fuel
      return .schema false notes (← many fuel .braceL root .braceR)) Definition.IsWellFormed :=
  keeps_description.reads fun _ => (keeps_expectWord _).reads fun _ =>
    (keeps_directives true fuel).reads fun _ =>
      (keeps_many keeps_root fuel _ _).reads fun _ => reads_pure trivial

theorem reads_definition : Reads (definition fuel) Definition.IsWellFormed := by
  refine keeps_peek.reads fun first => Reads.ite (reads_operation fuel) ?_
  -- with and without a description it goes on by the keyword alike
  dsimp only
  split
  all_goals first
    | refine keeps_peekSecond.reads fun _ => (keeps_pure _).reads ?_
    | refine (keeps_pure _).reads ?_
  all_goals
    rintro ⟨described, keyword⟩
    dsimp only
    split
    · refine Reads.ite (reads_schemaDefinition fuel) (Reads.ite (reads_typeDefinition fuel _) ?_)
      refine Reads.ite ?_ (Reads.ite reads_fail (Reads.ite (reads_operation fuel) ?_))
      · exact keeps_description.reads fun _ => reads_directiveDefinition fuel
      · exact Reads.ite (reads_fragment fuel) (Reads.ite (reads_extension fuel) reads_fail)
    · exact reads_fail

theorem reads_definitions : ∀ steps,
    Reads (definitions fuel steps) fun document => ∀ d ∈ document, d.IsWellFormed
  | 0 => reads_peek.bind fun _ _ => reads_fail
  | steps + 1 => by
    refine (reads_definition fuel).bind fun first hfirst => keeps_peek.reads fun _ => ?_
    refine Reads.ite (reads_pure (by simpa using hfirst)) ?_
    exact (reads_definitions steps).bind fun rest hrest =>
      reads_pure (List.forall_mem_cons.mpr ⟨hfirst, hrest⟩)

end Reader

/-! ## Types of documents -/

section

variable {doc : Document} {t : MergedType}

/-- The definitions of types in a document that is read are well-formed. -/
theorem isWellFormed_of_parseDocument {text : String} (h : parseDocument text = .ok doc) :
    ∀ d ∈ doc, d.IsWellFormed := by
  unfold parseDocument at h
  dsimp only at h
  cases hread : Reader.definitions ((lexemes text.toList).length + 1)
      ((lexemes text.toList).length + 1) (lexemes text.toList) with
  | error f =>
    rw [hread] at h
    cases h
  | ok result =>
    rw [hread] at h
    cases h
    exact (Reader.reads_definitions _ _ _ _ _ (hasNames_lexemesFrom _) hread).2

theorem isWellFormed_standardTypes : ∀ d ∈ standardTypes, d.IsWellFormed := by
  decide

theorem IsStandard.isWellFormed {name : String} (h : IsStandard name t) :
    IsWellFormed t.name t.body := by
  obtain ⟨d, hd, -, ht⟩ := h.mem_standardTypes
  have hformed := isWellFormed_standardTypes d hd
  cases d with
  | type isExtension description? name directives body =>
    cases ht
    exact hformed
  | _ => cases ht

theorem fields_merge {body other : TypeBody} {f : FieldNode} (h : f ∈ (body.merge other).fields) :
    f ∈ body.fields ∨ f ∈ other.fields := by
  unfold TypeBody.merge at h
  split at h
  all_goals simp only [TypeBody.fields, List.mem_append] at *
  all_goals grind

/-- A type is as well-formed as its definition and the extensions of it. -/
theorem isWellFormed_definedTypes (h : ∀ d ∈ doc, d.IsWellFormed) (ht : t ∈ definedTypes doc) :
    IsWellFormed t.name t.body := by
  obtain ⟨_, type, _, _, hd, hstandard | ⟨-, rfl⟩⟩ := mem_definedTypes_iff.mp ht
  · exact hstandard.isWellFormed
  · obtain ⟨hname, hbody⟩ := h _ hd
    refine ⟨hname, fun f hf => ?_⟩
    rcases mem_foldl_merge (fun _ _ _ => fields_merge) hf with hown | ⟨other, hother, hextends⟩
    · exact hbody f hown
    · obtain ⟨_, _, he⟩ := mem_extensionsOf hother
      exact (h _ he).2 f hextends

/-- The types of a document that is read are well-formed. -/
theorem isWellFormed_typeMap {text : String} (h : parseDocument text = .ok doc)
    (ht : t ∈ (typeMap doc).types) : IsWellFormed t.name t.body := by
  obtain ⟨name, -, hfound⟩ := List.mem_filterMap.mp ht
  rcases of_findType? hfound with ⟨hmem, -⟩ | ⟨-, hstandard⟩
  · exact isWellFormed_definedTypes (isWellFormed_of_parseDocument h) hmem
  · exact hstandard.isWellFormed

end

/-! ## Schemas -/

section

variable {text : String} {doc : Document} {schema : Schema}

/-- A text that describes a schema is a document that keeps the rules. -/
theorem schemaOf_eq_ok (h : schemaOf text = .ok schema) :
    ∃ doc, parseDocument text = .ok doc ∧ violations doc = [] ∧ catalogue doc = .ok schema := by
  unfold schemaOf at h
  obtain ⟨doc, hdoc, h⟩ := bind_eq_ok_iff.mp h
  refine ⟨doc, mapError_eq_ok_iff.mp hdoc, ?_⟩
  split at h
  · rename_i hviolations
    exact ⟨hviolations, h⟩
  · cases h

/-- A catalogue shows the types of the document, and references in it take the kinds of these. -/
theorem catalogue_eq_ok (h : catalogue doc = .ok schema) :
    schema = { (typeMap doc).views with
      types := (typeMap doc).types.map (typeOf (typeMap doc).types fun name =>
        ((findType? (definedTypes doc) name).map (·.body.kind)).getD .scalar) } := by
  unfold catalogue at h
  obtain ⟨_, -, h⟩ := bind_eq_ok_iff.mp h
  obtain ⟨_, -, h⟩ := bind_eq_ok_iff.mp h
  obtain ⟨_, -, h⟩ := bind_eq_ok_iff.mp h
  exact (Except.ok.inj h).symm

/-- The types of a schema that a text describes have names as schemas have them. -/
theorem isSchemaName_of_schemaOf (h : schemaOf text = .ok schema) :
    ∀ t ∈ schema.types, IsSchemaName t.name := by
  obtain ⟨doc, hparse, -, hcatalogue⟩ := schemaOf_eq_ok h
  intro t ht
  rw [catalogue_eq_ok hcatalogue] at ht
  obtain ⟨merged, hmerged, rfl⟩ := List.mem_map.mp ht
  exact (isWellFormed_typeMap hparse hmerged).1

end

end ResolverGen.GraphQL
