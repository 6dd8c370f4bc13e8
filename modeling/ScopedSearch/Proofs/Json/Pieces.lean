import ScopedSearch.Proofs.Json.RoundTrip

/-!
# Lists that are sent in pieces

The pieces in which a list of documents is sent have another separator than the lists inside the documents:
the comma stands right before the next document.  All of them together are plain ASCII, and are read as the
documents in their order (`read_arrayChunks`).
-/

namespace ScopedSearch

namespace Json

/-! ### Plain text -/

def Plain (v : Value) : Prop := ∀ c ∈ write v, IsAscii c

theorem isAscii_of_all {cs : List Char} (h : (cs.all fun c => decide (IsAscii c)) = true) :
    ∀ c ∈ cs, IsAscii c := by
  simpa using h

theorem isAscii_of_mem_writeItems {vs : List Value} (h : ∀ v ∈ vs, Plain v) :
    ∀ c ∈ writeItems vs, IsAscii c := by
  induction vs with
  | nil =>
    rw [writeItems]
    exact isAscii_of_all (by decide)
  | cons v vs ih =>
    have hrest := ih fun w hw => h w (List.mem_cons_of_mem v hw)
    have hv : Plain v := h v List.mem_cons_self
    intro c hc
    rw [writeItems] at hc
    simp only [List.mem_cons, List.mem_append] at hc
    rcases hc with rfl | rfl | hc | hc
    · decide
    · decide
    · exact hv c hc
    · exact hrest c hc

theorem isAscii_of_mem_writeEntries {es : Entries} (h : ∀ e ∈ es, Plain e.2) :
    ∀ c ∈ writeEntries es, IsAscii c := by
  induction es with
  | nil =>
    rw [writeEntries]
    exact isAscii_of_all (by decide)
  | cons e es ih =>
    obtain ⟨k, v⟩ := e
    have hrest := ih fun e he => h e (List.mem_cons_of_mem (k, v) he)
    have hv : Plain v := h (k, v) List.mem_cons_self
    intro c hc
    rw [writeEntries] at hc
    simp only [List.mem_cons, List.mem_append] at hc
    rcases hc with rfl | rfl | hc | rfl | rfl | hc | hc
    · decide
    · decide
    · exact isAscii_of_mem_writeText hc
    · decide
    · decide
    · exact hv c hc
    · exact hrest c hc

theorem plain_of_exact {v : Value} (h : v.Exact) : Plain v := by
  induction h with
  | null =>
    rw [Plain, write]
    exact isAscii_of_all (by decide)
  | bool b =>
    cases b <;> rw [Plain, write] <;> exact isAscii_of_all (by decide)
  | int n =>
    rw [Plain, write]
    exact fun c hc => isAscii_of_mem_writeInt hc
  | str s =>
    rw [Plain, write]
    exact fun c hc => isAscii_of_mem_writeText hc
  | @arr vs h ih =>
    cases vs with
    | nil =>
      rw [Plain, write]
      exact isAscii_of_all (by decide)
    | cons v vs =>
      -- After its bracket a list writes what more items write after their comma and blank.
      have hitems := isAscii_of_mem_writeItems ih
      rw [writeItems] at hitems
      intro c hc
      rw [write] at hc
      rcases List.mem_cons.mp hc with rfl | hc
      · decide
      · exact hitems c (List.mem_cons_of_mem _ (List.mem_cons_of_mem _ hc))
  | @obj es hkeys h ih =>
    cases es with
    | nil =>
      rw [Plain, write]
      exact isAscii_of_all (by decide)
    | cons e es =>
      have hentries := isAscii_of_mem_writeEntries ih
      rw [writeEntries] at hentries
      intro c hc
      rw [write] at hc
      rcases List.mem_cons.mp hc with rfl | hc
      · decide
      · exact hentries c (List.mem_cons_of_mem _ (List.mem_cons_of_mem _ hc))

/-! ### Lists in pieces -/

/-- The pieces after the first one are some more items, with nothing between a comma and its item. -/
theorem moreItems_laterChunks {vs : List Value} (h : ∀ v ∈ vs, ReadBack v) :
    MoreItems vs ((laterChunks vs).flatMap String.toList) := by
  induction vs with
  | nil =>
    have hclose : (laterChunks []).flatMap String.toList = [']'] := by simp [laterChunks]
    rw [hclose]
    exact .close
  | cons v vs ih =>
    obtain ⟨hbegins, hv⟩ := h v List.mem_cons_self
    have hrest := ih fun w hw => h w (List.mem_cons_of_mem v hw)
    rw [laterChunks, List.flatMap_cons, String.toList_ofList]
    have hblank : ∀ c ∈ [], isBlank c = true := List.forall_mem_nil _
    exact .item hblank hbegins hv hrest

theorem isAscii_of_mem_laterChunks {vs : List Value} (h : ∀ v ∈ vs, Plain v) :
    ∀ c ∈ (laterChunks vs).flatMap String.toList, IsAscii c := by
  induction vs with
  | nil =>
    have hclose : (laterChunks []).flatMap String.toList = [']'] := by simp [laterChunks]
    rw [hclose]
    exact isAscii_of_all (by decide)
  | cons v vs ih =>
    have hrest := ih fun w hw => h w (List.mem_cons_of_mem v hw)
    have hv : Plain v := h v List.mem_cons_self
    intro c hc
    rw [laterChunks, List.flatMap_cons, String.toList_ofList] at hc
    rcases List.mem_append.mp hc with hc | hc
    · rcases List.mem_cons.mp hc with rfl | hc
      · decide
      · exact hv c hc
    · exact hrest c hc

theorem toList_arrayChunks_nil : ("".intercalate (arrayChunks [])).toList = ['[', ']'] := by
  simp [arrayChunks]

theorem toList_arrayChunks_cons (v : Value) (vs : List Value) :
    ("".intercalate (arrayChunks (v :: vs))).toList =
      '[' :: (write v ++ (laterChunks vs).flatMap String.toList) := by
  simp [arrayChunks, render, String.toList_intercalate, intercalate_cons, List.flatMap_map]

theorem read_of_readsAs {text : String} {v : Value} (hbegins : Begins text.toList)
    (h : ReadsAs text.toList v) : read text = some v := by
  have hskip := skipBlanks_of_begins hbegins []
  have hread := h (text.toList.length + 1) 0 [] (by omega) (by simp [Stops])
  rw [List.append_nil] at hskip hread
  rw [read, readWithin, hskip, hread]
  rfl

/-- **A list of documents that is sent in pieces is plain ASCII, and is read back as the documents**, in
their order. -/
theorem read_arrayChunks (documents : List Value) (h : ∀ d ∈ documents, d.Exact) :
    (∀ c ∈ ("".intercalate (arrayChunks documents)).toList, IsAscii c) ∧
      read ("".intercalate (arrayChunks documents)) = some (.arr documents) := by
  have hback : ∀ d ∈ documents, ReadBack d :=
    fun d hd => ⟨begins_write (h d hd), readsAs_write (h d hd)⟩
  have hplain : ∀ d ∈ documents, Plain d := fun d hd => plain_of_exact (h d hd)
  cases documents with
  | nil =>
    have htext := toList_arrayChunks_nil
    refine ⟨?_, read_of_readsAs ?_ ?_⟩
    · rw [htext]
      exact isAscii_of_all (by decide)
    · rw [htext]
      exact ⟨'[', _, rfl, by decide, by decide⟩
    · rw [htext]
      exact readsAs_emptyList
  | cons d ds =>
    have htext := toList_arrayChunks_cons d ds
    have hmore := moreItems_laterChunks fun e he => hback e (List.mem_cons_of_mem d he)
    have hascii := isAscii_of_mem_laterChunks fun e he => hplain e (List.mem_cons_of_mem d he)
    obtain ⟨hbegins, hd⟩ := hback d List.mem_cons_self
    refine ⟨?_, read_of_readsAs ?_ ?_⟩
    · intro c hc
      rw [htext] at hc
      simp only [List.mem_cons, List.mem_append] at hc
      rcases hc with rfl | hc | hc
      · decide
      · exact hplain d List.mem_cons_self c hc
      · exact hascii c hc
    · rw [htext]
      exact ⟨'[', _, rfl, by decide, by decide⟩
    · rw [htext]
      exact readsAs_items hbegins hd hmore

-- Only the comma between documents is without its blank.
example : "".intercalate (arrayChunks [.int (-1), .arr [.null, .str "é"]]) =
    "[-1,[null, \"\\u00e9\"]]" := by decide

/-- A text with a quote, a control character, a letter outside ASCII and one that takes two units; a negative
number and one beyond a machine word; and values inside each other. -/
def record : Value :=
  .obj [("title", .str "\"Wind\"\x01 é 𝄞"),
    ("sizes", .arr [.int (-12), .int 340282366920938463463374607431768211456]),
    ("origin", .obj [("known", .bool false), ("place", .null)])]

theorem read_arrayChunks_of_record :
    (∀ d ∈ [record, .obj []], d.Exact) ∧
      (∀ c ∈ ("".intercalate (arrayChunks [record, .obj []])).toList, IsAscii c) ∧
      read ("".intercalate (arrayChunks [record, .obj []])) = some (.arr [record, .obj []]) := by
  have hexact : ∀ d ∈ [record, .obj []], d.Exact := by
    have hsizes : (Value.arr [.int (-12), .int 340282366920938463463374607431768211456]).Exact :=
      .arr (by simpa using ⟨.int _, .int _⟩)
    have horigin : (Value.obj [("known", .bool false), ("place", .null)]).Exact :=
      .obj (by decide) (by simpa using ⟨.bool _, .null⟩)
    have hrecord : record.Exact :=
      .obj (by decide) (by simpa using ⟨.str _, hsizes, horigin⟩)
    intro d hd
    rcases List.mem_pair.mp hd with rfl | rfl
    · exact hrecord
    · exact .obj List.nodup_nil (by simp)
  exact ⟨hexact, read_arrayChunks [record, .obj []] hexact⟩

end Json

end ScopedSearch
