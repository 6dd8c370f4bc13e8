import Mathlib.Tactic.MkIffOfInductiveProp
import ScopedSearch.Schema.Sdl
import ScopedSearch.Proofs.Schema.References
import ScopedSearch.Proofs.Text.Codes

/-!
# Fields from their lines

What a schema must be made of for its text to tell it (`Schema.Legible`), and the lines of a field, which
tell the field: name, arguments, type, and whether there is a description (`signature_inj`,
`prefixCode_field`).
-/

namespace ScopedSearch

/-! ### Schemas that their text tells -/

namespace Sdl

def isNameChar (c : Char) : Bool := c.isAlphanum || c == '_'

@[mk_iff]
structure Identifier (s : String) : Prop where
  ne_empty : s ≠ ""
  all_isNameChar : s.toList.all isNameChar
  head_not_digit : s.toList.head?.any Char.isDigit = false

/-- A type by its name, perhaps in one pair of brackets. -/
def TypeReference (s : String) : Prop := ∃ name, Identifier name ∧ (s = name ∨ s = Schema.listOf name)

/-- A line of a text with something on it. -/
@[mk_iff]
structure Line (s : String) : Prop where
  ne_empty : s ≠ ""
  no_break : '\n' ∉ s.toList

end Sdl

open Sdl

attribute [ext] Argument FieldDef ObjectType EnumType Schema

@[mk_iff]
structure Argument.Legible (a : Argument) : Prop where
  name : Identifier a.name
  type : TypeReference a.type
  default : ∀ d ∈ a.default, Identifier d

/-- The names of a field are identifiers and its description is a line.  Quotes in that line do no harm:
the description ends with the line. -/
@[mk_iff]
structure FieldDef.Legible (f : FieldDef) : Prop where
  name : Identifier f.name
  type : TypeReference f.type
  arguments : ∀ a ∈ f.arguments, a.Legible
  description : ∀ d ∈ f.description, Line d

@[mk_iff]
structure ObjectType.Legible (t : ObjectType) : Prop where
  name : Identifier t.name
  fields : ∀ f ∈ t.fields, f.Legible

@[mk_iff]
structure EnumType.Legible (e : EnumType) : Prop where
  name : Identifier e.name
  values : ∀ v ∈ e.values, Identifier v

@[mk_iff]
structure Schema.Legible (s : Schema) : Prop where
  scalars : ∀ n ∈ s.scalars, Identifier n
  enums : ∀ e ∈ s.enums, e.Legible
  types : ∀ t ∈ s.types, t.Legible

namespace Sdl

instance (s : String) : Decidable (Identifier s) := decidable_of_iff' _ (identifier_iff s)

theorem typeReference_iff (s : String) :
    TypeReference s ↔ Identifier s ∨ Identifier (Schema.bare s) ∧ s = Schema.listOf (Schema.bare s) := by
  constructor
  · rintro ⟨name, h, rfl | rfl⟩
    · exact .inl h
    · rw [Schema.bare_listOf]
      exact .inr ⟨h, rfl⟩
  · rintro (h | ⟨h, heq⟩)
    · exact ⟨s, h, .inl rfl⟩
    · exact ⟨_, h, .inr heq⟩

instance (s : String) : Decidable (TypeReference s) := decidable_of_iff' _ (typeReference_iff s)

instance (s : String) : Decidable (Line s) := decidable_of_iff' _ (line_iff s)

instance (a : Argument) : Decidable a.Legible := decidable_of_iff' _ a.legible_iff

instance (f : FieldDef) : Decidable f.Legible := decidable_of_iff' _ f.legible_iff

instance (t : ObjectType) : Decidable t.Legible := decidable_of_iff' _ t.legible_iff

instance (e : EnumType) : Decidable e.Legible := decidable_of_iff' _ e.legible_iff

instance (s : Schema) : Decidable s.Legible := decidable_of_iff' _ s.legible_iff

/-! ### Characters -/

def isTypeChar (c : Char) : Bool := isNameChar c || c == '[' || c == ']'

def isArgumentChar (c : Char) : Bool := isTypeChar c || c == ' '

theorem isTypeChar_of_isNameChar {c : Char} (h : isNameChar c) : isTypeChar c := by
  simp [isTypeChar, h]

theorem ne_break_of_isTypeChar {c : Char} (h : isTypeChar c) : c ≠ '\n' := by
  rintro rfl
  exact absurd h (by decide)

theorem Identifier.chars {s : String} (h : Identifier s) : ∀ c ∈ s.toList, isNameChar c :=
  List.all_eq_true.mp h.all_isNameChar

theorem TypeReference.chars {s : String} (h : TypeReference s) : ∀ c ∈ s.toList, isTypeChar c := by
  intro c hc
  obtain ⟨name, hname, rfl | rfl⟩ := h
  · exact isTypeChar_of_isNameChar (hname.chars c hc)
  · simp only [Schema.listOf, String.toList_append, List.mem_append] at hc
    rcases hc with (hc | hc) | hc
    · rw [List.mem_singleton.mp hc]; rfl
    · exact isTypeChar_of_isNameChar (hname.chars c hc)
    · rw [List.mem_singleton.mp hc]; rfl

theorem stops_isTypeChar {r : List Char} (h : Stops isArgumentChar r) : Stops isTypeChar r := by
  intro c hc
  have hargument : isArgumentChar c = false := h c hc
  simp only [isArgumentChar, Bool.or_eq_false_iff] at hargument
  exact hargument.1

/-! ### Arguments -/

/-- The characters of a default, from the blank in front of its sign. -/
def defaultChars : Option String → List Char
  | some d => ' ' :: '=' :: ' ' :: d.toList
  | none => []

theorem toList_argument (a : Argument) :
    (argument a).toList = a.name.toList ++ ':' :: ' ' :: (a.type.toList ++ defaultChars a.default) := by
  unfold argument
  cases a.default <;> simp [String.toList_append, defaultChars, toString]

theorem defaultChars_append_inj {d e : Option String} {r s : List Char} (hd : ∀ x ∈ d, Identifier x)
    (he : ∀ x ∈ e, Identifier x) (hr : Stops isArgumentChar r) (hs : Stops isArgumentChar s)
    (h : defaultChars d ++ r = defaultChars e ++ s) : d = e ∧ r = s := by
  cases d with
  | none =>
    cases e with
    | none => exact ⟨rfl, h⟩
    | some y =>
      -- the rest on the left would begin with a blank
      simp only [defaultChars, List.nil_append] at h
      rw [h, List.cons_append, stops_cons] at hr
      exact absurd hr (by decide)
  | some x =>
    cases e with
    | none =>
      simp only [defaultChars, List.nil_append] at h
      rw [← h, List.cons_append, stops_cons] at hs
      exact absurd hs (by decide)
    | some y =>
      simp only [defaultChars, List.cons_append, List.cons.injEq, true_and] at h
      have hx : ∀ c ∈ x.toList, isTypeChar c := fun c hc => isTypeChar_of_isNameChar ((hd x rfl).chars c hc)
      have hy : ∀ c ∈ y.toList, isTypeChar c := fun c hc => isTypeChar_of_isNameChar ((he y rfl).chars c hc)
      obtain ⟨hxy, hrs⟩ := append_inj_of_stops hx hy (stops_isTypeChar hr) (stops_isTypeChar hs) h
      rw [String.toList_inj.mp hxy]
      exact ⟨rfl, hrs⟩

theorem stops_defaultChars (d : Option String) {r : List Char} (hr : Stops isArgumentChar r) :
    Stops isTypeChar (defaultChars d ++ r) := by
  cases d with
  | none => exact stops_isTypeChar hr
  | some x => exact (stops_cons _ _ _).mpr rfl

theorem argument_append_inj {a b : Argument} {r s : List Char} (ha : a.Legible) (hb : b.Legible)
    (hr : Stops isArgumentChar r) (hs : Stops isArgumentChar s)
    (h : (argument a).toList ++ r = (argument b).toList ++ s) : a = b ∧ r = s := by
  simp only [toList_argument, List.append_assoc, List.cons_append] at h
  have hcolon : ∀ l, Stops isNameChar (':' :: l) := fun l => (stops_cons _ _ l).mpr rfl
  obtain ⟨hname, h⟩ := append_inj_of_stops ha.name.chars hb.name.chars (hcolon _) (hcolon _) h
  simp only [List.cons.injEq, true_and] at h
  obtain ⟨htype, h⟩ := append_inj_of_stops ha.type.chars hb.type.chars (stops_defaultChars _ hr)
    (stops_defaultChars _ hs) h
  obtain ⟨hdefault, hrs⟩ := defaultChars_append_inj ha.default hb.default hr hs h
  exact ⟨Argument.ext (String.toList_inj.mp hname) (String.toList_inj.mp htype) hdefault, hrs⟩

/-- The characters of the arguments after the first, up to the closing parenthesis. -/
def moreArguments (as : List Argument) (r : List Char) : List Char :=
  as.flatMap (fun a => ',' :: ' ' :: (argument a).toList) ++ ')' :: r

theorem stops_moreArguments (as : List Argument) (r : List Char) :
    Stops isArgumentChar (moreArguments as r) := by
  cases as <;> exact (stops_cons _ _ _).mpr rfl

theorem moreArguments_inj {as bs : List Argument} {r s : List Char} (ha : ∀ a ∈ as, a.Legible)
    (hb : ∀ b ∈ bs, b.Legible) (h : moreArguments as r = moreArguments bs s) : as = bs ∧ r = s := by
  induction as generalizing bs with
  | nil =>
    cases bs with
    | nil => exact ⟨rfl, (List.cons.inj h).2⟩
    | cons b bs => exact absurd (List.cons.inj h).1 (by decide)
  | cons a as ih =>
    cases bs with
    | nil => exact absurd (List.cons.inj h).1 (by decide)
    | cons b bs =>
      rw [List.forall_mem_cons] at ha hb
      have h : (argument a).toList ++ moreArguments as r = (argument b).toList ++ moreArguments bs s := by
        simpa [moreArguments] using h
      obtain ⟨hab, htail⟩ :=
        argument_append_inj ha.1 hb.1 (stops_moreArguments as r) (stops_moreArguments bs s) h
      obtain ⟨hmore, hrs⟩ := ih ha.2 hb.2 htail
      rw [hab, hmore]
      exact ⟨rfl, hrs⟩

theorem toList_arguments_append (as : List Argument) (r : List Char) :
    (arguments as).toList ++ r = match as with
      | [] => r
      | a :: as => '(' :: ((argument a).toList ++ moreArguments as r) := by
  cases as with
  | nil => rfl
  | cons a as =>
    simp [arguments, moreArguments, String.toList_append, String.toList_intercalate, intercalate_cons,
      List.flatMap_map, Function.comp_def]

theorem arguments_append_inj {as bs : List Argument} {r s : List Char} (ha : ∀ a ∈ as, a.Legible)
    (hb : ∀ b ∈ bs, b.Legible)
    (h : (arguments as).toList ++ ':' :: r = (arguments bs).toList ++ ':' :: s) : as = bs ∧ r = s := by
  rw [toList_arguments_append, toList_arguments_append] at h
  cases as with
  | nil =>
    cases bs with
    | nil => exact ⟨rfl, (List.cons.inj h).2⟩
    | cons b bs => exact absurd (List.cons.inj h).1 (by decide)
  | cons a as =>
    cases bs with
    | nil => exact absurd (List.cons.inj h).1 (by decide)
    | cons b bs =>
      rw [List.forall_mem_cons] at ha hb
      obtain ⟨hab, htail⟩ := argument_append_inj ha.1 hb.1 (stops_moreArguments _ _)
        (stops_moreArguments _ _) (List.cons.inj h).2
      obtain ⟨hmore, hrs⟩ := moreArguments_inj ha.2 hb.2 htail
      rw [hab, hmore]
      exact ⟨rfl, (List.cons.inj hrs).2⟩

/-! ### Fields -/

def signature (f : FieldDef) : String := "  " ++ f.name ++ arguments f.arguments ++ ": " ++ f.type

theorem field_eq (f : FieldDef) : field f = description f.description ++ [signature f] := rfl

theorem toList_signature (f : FieldDef) :
    (signature f).toList = ' ' :: ' ' :: (f.name.toList ++
      ((arguments f.arguments).toList ++ ':' :: ' ' :: f.type.toList)) := by
  simp [signature, String.toList_append]

theorem stops_arguments (as : List Argument) (r : List Char) :
    Stops isNameChar ((arguments as).toList ++ ':' :: r) := by
  rw [toList_arguments_append]
  cases as <;> exact (stops_cons _ _ _).mpr rfl

theorem signature_inj {f g : FieldDef} (hf : f.Legible) (hg : g.Legible) (h : signature f = signature g) :
    f.name = g.name ∧ f.arguments = g.arguments ∧ f.type = g.type := by
  have h := congrArg String.toList h
  simp only [toList_signature, List.cons.injEq, true_and] at h
  obtain ⟨hname, h⟩ := append_inj_of_stops hf.name.chars hg.name.chars (stops_arguments _ _)
    (stops_arguments _ _) h
  obtain ⟨harguments, h⟩ := arguments_append_inj hf.arguments hg.arguments h
  exact ⟨String.toList_inj.mp hname, harguments, String.toList_inj.mp (List.cons.inj h).2⟩

def descriptionLine (d : String) : String := "  \"\"\"" ++ d ++ "\"\"\""

theorem descriptionLine_inj {d e : String} (h : descriptionLine d = descriptionLine e) : d = e := by
  simpa [descriptionLine] using h

/-- A description begins with a quote, a signature with a name. -/
theorem descriptionLine_ne_signature (d : String) {f : FieldDef} (hf : f.Legible) :
    descriptionLine d ≠ signature f := by
  intro h
  have h := congrArg String.toList h
  obtain ⟨c, cs, hname⟩ := List.exists_cons_of_ne_nil (mt String.toList_eq_nil_iff.mp hf.name.ne_empty)
  have hc : isNameChar c := hf.name.chars c (by rw [hname]; exact List.mem_cons_self)
  simp only [toList_signature, hname, descriptionLine, String.toList_append] at h
  have hquote : c = '"' := by
    have := (List.cons.inj (List.cons.inj (List.cons.inj h).2).2).1
    exact this.symm
  subst hquote
  exact absurd hc (by decide)

theorem field_of_description {f : FieldDef} (hf : f.Legible) :
    field f = f.description.toList.map descriptionLine ++ [signature f] := by
  rw [field_eq]
  cases hd : f.description with
  | none => rfl
  | some d =>
    have hne : d ≠ "" := (hf.description d hd).ne_empty
    simp [description, descriptionLine, hne]

/-- The fields of a type can be read off its lines one after the other. -/
theorem prefixCode_field : PrefixCode field {f | f.Legible} where
  ne_nil f _ := by simp [field_eq]
  read f hf g hg r s h := by
    have hf : f.Legible := hf
    have hg : g.Legible := hg
    -- a description in front of one signature only would be equal to the other one
    have hparts : f.description = g.description ∧ signature f = signature g ∧ r = s := by
      rw [field_of_description hf, field_of_description hg] at h
      cases hd : f.description with
      | none =>
        cases he : g.description with
        | none => simpa [hd, he] using h
        | some e =>
          rw [hd, he] at h
          exact absurd (List.cons.inj h).1.symm (descriptionLine_ne_signature e hf)
      | some d =>
        cases he : g.description with
        | none =>
          rw [hd, he] at h
          exact absurd (List.cons.inj h).1 (descriptionLine_ne_signature d hg)
        | some e =>
          rw [hd, he] at h
          obtain ⟨hde, h⟩ := List.cons.inj h
          obtain ⟨hsig, hrs⟩ := List.cons.inj h
          exact ⟨congrArg some (descriptionLine_inj hde), hsig, hrs⟩
    obtain ⟨hdescription, hsig, hrs⟩ := hparts
    obtain ⟨hname, harguments, htype⟩ := signature_inj hf hg hsig
    exact ⟨FieldDef.ext hname htype harguments hdescription, hrs⟩

end Sdl

end ScopedSearch
