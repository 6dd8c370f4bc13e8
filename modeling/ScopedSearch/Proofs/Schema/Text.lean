import ScopedSearch.Proofs.Schema.Signature

/-!
# Schemas from their text

The text of a schema has three levels of separators and parts that may be missing, and all the same no two
schemas share a text (`render_injOn`), as long as names are identifiers and a description takes one line.
The runs of lines between empty lines are the definitions (`blocksOf_render`), and these are told apart by
their first characters and read line by line (`blocks_inj`).
-/

namespace ScopedSearch

namespace Sdl

/-! ### Definitions -/

def enumLines (e : EnumType) : List String :=
  ("enum " ++ e.name ++ " \x7b") :: (e.values.map ("  " ++ ·) ++ ["\x7d"])

def typeLines (t : ObjectType) : List String :=
  ("type " ++ t.name ++ " \x7b") :: (t.fields.flatMap field ++ ["\x7d"])

def blocks (s : Schema) : List (List String) :=
  s.scalars.map (fun n => [scalar n]) ++ (s.enums.map enumLines ++ s.types.map typeLines)

theorem definitions_eq (s : Schema) : definitions s = (blocks s).map joinLines := by
  have hscalar : joinLines ∘ (fun n => [scalar n]) = scalar := by
    funext n
    simp [joinLines]
  have henum : joinLines ∘ enumLines = enumType := rfl
  have htype : joinLines ∘ typeLines = objectType := rfl
  simp [definitions, blocks, hscalar, henum, htype]

theorem enumLines_injOn : Set.InjOn enumLines {e | e.Legible} := by
  intro e _ f _ h
  obtain ⟨hname, hvalues⟩ := List.cons.inj h
  have hname : e.name = f.name := by simpa using hname
  have hvalues : e.values = f.values := by
    have hinj : Function.Injective ("  " ++ · : String → String) := fun _ _ => (String.append_right_inj _).mp
    exact hinj.list_map (List.append_cancel_right hvalues)
  exact EnumType.ext hname hvalues

theorem typeLines_injOn : Set.InjOn typeLines {t | t.Legible} := by
  intro t ht u hu h
  obtain ⟨hname, hfields⟩ := List.cons.inj h
  have hname : t.name = u.name := by simpa using hname
  have hfields : t.fields = u.fields :=
    prefixCode_field.flatMap_injOn ht.fields hu.fields (List.append_cancel_right hfields)
  exact ObjectType.ext hname hfields

def initial (b : List String) : Option Char := b.head?.bind (·.toList.head?)

@[simp] theorem initial_scalar (n : String) : initial [scalar n] = some 's' := by
  simp [initial, scalar, String.toList_append]

@[simp] theorem initial_enumLines (e : EnumType) : initial (enumLines e) = some 'e' := by
  simp [initial, enumLines, String.toList_append]

@[simp] theorem initial_typeLines (t : ObjectType) : initial (typeLines t) = some 't' := by
  simp [initial, typeLines, String.toList_append]

theorem blocks_inj {s t : Schema} (hs : s.Legible) (ht : t.Legible) (h : blocks s = blocks t) : s = t := by
  -- scalars come first, then enumerations, and their first characters differ
  have hscalarStops : ∀ u : Schema,
      Stops (initial · == some 's') (u.enums.map enumLines ++ u.types.map typeLines) := fun u =>
    stops_of_forall (by simp [or_imp, forall_and])
  have henumStops : ∀ u : Schema, Stops (initial · == some 'e') (u.types.map typeLines) := fun u =>
    stops_of_forall (by simp)
  obtain ⟨hscalars, h⟩ := append_inj_of_stops (by simp) (by simp) (hscalarStops s) (hscalarStops t) h
  obtain ⟨henums, htypes⟩ := append_inj_of_stops (by simp) (by simp) (henumStops s) (henumStops t) h
  have hscalarInj : Function.Injective (fun n => [scalar n]) := fun m n hmn => by
    simpa [scalar] using hmn
  have hscalars : s.scalars = t.scalars := hscalarInj.list_map hscalars
  have henums : s.enums = t.enums := map_injOn enumLines_injOn hs.enums ht.enums henums
  have htypes : s.types = t.types := map_injOn typeLines_injOn hs.types ht.types htypes
  exact Schema.ext hscalars henums htypes

/-! ### Lines -/

theorem Identifier.no_break {s : String} (h : Identifier s) : '\n' ∉ s.toList := fun hb =>
  ne_break_of_isTypeChar (isTypeChar_of_isNameChar (h.chars _ hb)) rfl

theorem TypeReference.no_break {s : String} (h : TypeReference s) : '\n' ∉ s.toList := fun hb =>
  ne_break_of_isTypeChar (h.chars _ hb) rfl

theorem no_break_argument {a : Argument} (h : a.Legible) : '\n' ∉ (argument a).toList := by
  rw [toList_argument]
  have hdefault : '\n' ∉ defaultChars a.default := by
    cases hd : a.default with
    | none => simp [defaultChars]
    | some d => simp [defaultChars, (h.default d hd).no_break]
  simp [h.name.no_break, h.type.no_break, hdefault]

theorem no_break_arguments {as : List Argument} (h : ∀ a ∈ as, a.Legible) :
    '\n' ∉ (arguments as).toList := by
  have heq := toList_arguments_append as []
  rw [List.append_nil] at heq
  rw [heq]
  cases as with
  | nil => simp
  | cons a as =>
    rw [List.forall_mem_cons] at h
    have hmore : ∀ b ∈ as, '\n' ∉ (argument b).toList := fun b hb => no_break_argument (h.2 b hb)
    simpa [moreArguments, no_break_argument h.1] using hmore

theorem line_signature {f : FieldDef} (h : f.Legible) : Line (signature f) where
  ne_empty := by simp [signature, String.append_eq_empty_iff]
  no_break := by
    simp [toList_signature, h.name.no_break, h.type.no_break, no_break_arguments h.arguments]

theorem line_of_mem_field {f : FieldDef} (h : f.Legible) : ∀ l ∈ field f, Line l := by
  intro l hl
  rw [field_of_description h, List.mem_append, List.mem_map] at hl
  rcases hl with ⟨d, hd, rfl⟩ | hl
  · have hline : Line d := h.description d (by simpa using hd)
    exact ⟨by simp [descriptionLine, String.append_eq_empty_iff],
      by simp [descriptionLine, String.toList_append, hline.no_break]⟩
  · rw [List.mem_singleton.mp hl]
    exact line_signature h

/-- A line with a name between two fixed texts. -/
theorem Identifier.line {n : String} (h : Identifier n) (before after : String) (hb : '\n' ∉ before.toList)
    (ha : '\n' ∉ after.toList) : Line (before ++ n ++ after) where
  ne_empty := by simp [String.append_eq_empty_iff, h.ne_empty]
  no_break := by simp [String.toList_append, hb, h.no_break, ha]

theorem line_of_mem_enumLines {e : EnumType} (h : e.Legible) : ∀ l ∈ enumLines e, Line l := by
  intro l hl
  simp only [enumLines, List.mem_cons, List.mem_append, List.mem_map, List.mem_nil_iff, or_false] at hl
  rcases hl with rfl | ⟨v, hv, rfl⟩ | rfl
  · exact h.name.line _ _ (by decide) (by decide)
  · simpa using (h.values v hv).line "  " "" (by decide) (by decide)
  · decide

theorem line_of_mem_typeLines {t : ObjectType} (h : t.Legible) : ∀ l ∈ typeLines t, Line l := by
  intro l hl
  simp only [typeLines, List.mem_cons, List.mem_append, List.mem_flatMap, List.mem_nil_iff, or_false] at hl
  rcases hl with rfl | ⟨f, hf, hl⟩ | rfl
  · exact h.name.line _ _ (by decide) (by decide)
  · exact line_of_mem_field (h.fields f hf) l hl
  · decide

theorem line_of_mem_blocks {s : Schema} (h : s.Legible) {b : List String} (hb : b ∈ blocks s) :
    b ≠ [] ∧ ∀ l ∈ b, Line l := by
  simp only [blocks, List.mem_append, List.mem_map] at hb
  rcases hb with ⟨n, hn, rfl⟩ | ⟨e, he, rfl⟩ | ⟨t, ht, rfl⟩
  · refine ⟨List.cons_ne_nil _ _, fun l hl => ?_⟩
    rw [List.mem_singleton.mp hl]
    simpa [scalar] using (h.scalars n hn).line "scalar " "" (by decide) (by decide)
  · exact ⟨List.cons_ne_nil _ _, line_of_mem_enumLines (h.enums e he)⟩
  · exact ⟨List.cons_ne_nil _ _, line_of_mem_typeLines (h.types t ht)⟩

/-! ### The text -/

def linesOf (text : String) : List String := (text.toList.splitOn '\n').map String.ofList

/-- The runs of lines between empty lines. -/
def blocksOf (text : String) : List (List String) := ((linesOf text).splitOn "").filter (· ≠ [])

theorem linesOf_joinLines {ls : List String} (h : ∀ l ∈ ls, '\n' ∉ l.toList) (hne : ls ≠ []) :
    linesOf (joinLines ls) = ls := by
  have hbreaks : ∀ l ∈ ls.map String.toList, '\n' ∉ l := by simpa using h
  have hsplit : (['\n'].intercalate (ls.map String.toList)).splitOn '\n' = ls.map String.toList :=
    List.splitOn_intercalate '\n' hbreaks (by simpa using hne)
  have hchars : (joinLines ls).toList = ['\n'].intercalate (ls.map String.toList) := String.toList_intercalate
  simp [linesOf, hchars, hsplit, Function.comp_def]

theorem break_joinLines {ls : List String} (hne : ls ≠ []) :
    '\n' :: (joinLines ls).toList = ls.flatMap fun l => '\n' :: l.toList := by
  cases ls with
  | nil => exact absurd rfl hne
  | cons l ls => simp [joinLines, String.toList_intercalate, intercalate_cons, List.flatMap_map]

theorem intercalate_ne_nil {bs : List (List String)} (hne : bs ≠ []) : [""].intercalate (bs ++ [[]]) ≠ [] := by
  obtain ⟨b, bs, rfl⟩ := List.exists_cons_of_ne_nil hne
  simp [intercalate_cons]

/-- Texts of blocks, with an empty line between them and a break at the end, as one list of lines. -/
theorem intercalate_joinLines {bs : List (List String)} (hne : bs ≠ []) (h : ∀ b ∈ bs, b ≠ []) :
    "\n\n".intercalate (bs.map joinLines) ++ "\n" = joinLines ([""].intercalate (bs ++ [[]])) := by
  have hnil := intercalate_ne_nil hne
  obtain ⟨b, bs, rfl⟩ := List.exists_cons_of_ne_nil hne
  rw [List.forall_mem_cons] at h
  have hmore : bs.flatMap (fun c => '\n' :: '\n' :: (joinLines c).toList) =
      bs.flatMap (fun c => '\n' :: c.flatMap fun l => '\n' :: l.toList) :=
    List.flatMap_congr fun c hc => by rw [break_joinLines (h.2 c hc)]
  -- with a break in front, every line of either side has one
  apply String.toList_inj.mp
  apply List.cons_injective (a := '\n')
  rw [break_joinLines hnil, List.cons_append, intercalate_cons, List.flatMap_append, ← break_joinLines h.1]
  simp [String.toList_append, String.toList_intercalate, intercalate_cons, List.flatMap_map, hmore,
    List.flatMap_assoc]

/-- The lines of a schema: those of its definitions with an empty line after each. -/
theorem linesOf_render {s : Schema} (h : s.Legible) (hne : blocks s ≠ []) :
    linesOf (render s) = [""].intercalate (blocks s ++ [[]]) := by
  have htext : render s = joinLines ([""].intercalate (blocks s ++ [[]])) := by
    rw [render, definitions_eq]
    exact intercalate_joinLines hne fun b hb => (line_of_mem_blocks h hb).1
  have hbreaks : ∀ l ∈ [""].intercalate (blocks s ++ [[]]), '\n' ∉ l.toList := by
    intro l hl
    rcases mem_of_mem_intercalate hl with hl | ⟨b, hb, hl⟩
    · rw [List.mem_singleton.mp hl]
      decide
    · rcases List.mem_append.mp hb with hb | hb
      · exact ((line_of_mem_blocks h hb).2 l hl).no_break
      · rw [List.mem_singleton.mp hb] at hl
        contradiction
  rw [htext, linesOf_joinLines hbreaks (intercalate_ne_nil hne)]

theorem blocksOf_render {s : Schema} (h : s.Legible) : blocksOf (render s) = blocks s := by
  by_cases hne : blocks s = []
  · have htext : render s = "\n" := by simp [render, definitions_eq, hne]
    rw [hne, htext]
    decide
  · have hempty : ∀ b ∈ blocks s ++ [[]], "" ∉ b := by
      intro b hb hl
      rcases List.mem_append.mp hb with hb | hb
      · exact ((line_of_mem_blocks h hb).2 "" hl).ne_empty rfl
      · rw [List.mem_singleton.mp hb] at hl
        contradiction
    have hblocks : (blocks s).filter (· ≠ []) = blocks s :=
      List.filter_eq_self.mpr fun b hb => decide_eq_true (line_of_mem_blocks h hb).1
    rw [blocksOf, linesOf_render h hne, List.splitOn_intercalate "" hempty (by simp), List.filter_append,
      hblocks]
    simp

/-- **A schema is told by its text.**  No two legible schemas share one: the text tells every definition,
field, argument and value in its order, and which defaults and descriptions are there. -/
theorem render_injOn : Set.InjOn render {s | s.Legible} := by
  intro s hs t ht h
  apply blocks_inj hs ht
  rw [← blocksOf_render hs, h, blocksOf_render ht]

def visitSchema (default description : Option String) : Schema where
  scalars := ["JSON"]
  enums := [⟨"Accessibility", ["all", "accessible"]⟩, ⟨"Ward", []⟩]
  types := [
    ⟨"Query", [{
      name := "visit", type := "[Visit]",
      arguments := [{ name := "first", type := "Int" },
        { name := "accessibility", type := "Accessibility", default }] }]⟩,
    ⟨"Visit", [{ name := "day", type := "String", description }, .plain "ward" "Ward"]⟩]

theorem render_injOn_of_visits :
    (visitSchema (some "all") none).Legible ∧ (visitSchema none (some "Day of arrival")).Legible ∧
      render (visitSchema (some "all") none) ≠ render (visitSchema none (some "Day of arrival")) := by
  have hdefault : (visitSchema (some "all") none).Legible := by decide +kernel
  have hdescription : (visitSchema none (some "Day of arrival")).Legible := by decide +kernel
  exact ⟨hdefault, hdescription, fun h => absurd (render_injOn hdefault hdescription h) (by decide +kernel)⟩

end Sdl

end ScopedSearch
