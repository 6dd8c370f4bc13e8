import Mathlib.Data.List.Nodup
import ScopedSearch.Proofs.Json.Numbers

/-!
# What is written is read back

The values without fractions (`Value.Exact`) are read back from the text that is written for them, whatever
comes after it that cannot go on a number (`readsAs_write`).  The items of a list may be apart by any blanks
(`MoreItems`); a list writes one blank after each comma.
-/

namespace ScopedSearch

/-- The values that are built from null, booleans, integers, texts, lists, and objects in which no key is
written twice. -/
inductive Value.Exact : Value → Prop where
  | null : Exact .null
  | bool (b : Bool) : Exact (.bool b)
  | int (n : Int) : Exact (.int n)
  | str (s : String) : Exact (.str s)
  | arr {vs : List Value} (h : ∀ v ∈ vs, Exact v) : Exact (.arr vs)
  | obj {es : Entries} (hkeys : (es.map Prod.fst).Nodup) (h : ∀ e ∈ es, Exact e.2) : Exact (.obj es)

/-! ### Keys -/

theorem Value.putEntry_of_notMem {k : String} {v : Value} {es : Entries} (h : k ∉ es.map Prod.fst) :
    Value.putEntry k v es = es ++ [(k, v)] := by
  induction es with
  | nil => rfl
  | cons e es ih =>
    simp only [List.map_cons, List.mem_cons, not_or] at h
    have hne : (e.1 == k) = false := by simpa using Ne.symm h.1
    rw [Value.putEntry, hne, ih h.2]
    rfl

theorem Value.collect_of_nodup {es : Entries} (h : (es.map Prod.fst).Nodup) : Value.collect es = es := by
  have hfold : ∀ before : Entries, ((before ++ es).map Prod.fst).Nodup →
      es.foldl (fun acc e => Value.putEntry e.1 e.2 acc) before = before ++ es := by
    clear h
    induction es with
    | nil => simp
    | cons e es ih =>
      intro before hnodup
      have hnew : e.1 ∉ before.map Prod.fst := by
        have hmiddle := hnodup
        rw [List.map_append, List.map_cons, List.nodup_middle, List.nodup_cons] at hmiddle
        exact fun hmem => hmiddle.1 (List.mem_append_left _ hmem)
      rw [List.foldl_cons, Value.putEntry_of_notMem hnew, ih]
      · simp
      · simpa using hnodup
  exact hfold [] h

namespace Json

/-! ### Values -/

/-- A text is read as a value wherever it stands before something that does not go on a number, when there
is fuel for its length. -/
def ReadsAs (cs : List Char) (v : Value) : Prop :=
  ∀ fuel depth r, cs.length ≤ fuel → Stops isNumberChar r →
    readValue {} fuel depth (cs ++ r) = .ok (v, r)

/-- A text begins with something that is neither blank nor the end of a list. -/
def Begins (cs : List Char) : Prop := ∃ c rest, cs = c :: rest ∧ isBlank c = false ∧ c ≠ ']'

def ReadBack (v : Value) : Prop := Begins (write v) ∧ ReadsAs (write v) v

theorem skipBlanks_cons {c : Char} (h : isBlank c = false) (r : List Char) :
    skipBlanks (c :: r) = c :: r :=
  List.dropWhile_cons_of_neg (by simp [h])

theorem skipBlanks_of_begins {cs : List Char} (h : Begins cs) (r : List Char) :
    skipBlanks (cs ++ r) = cs ++ r := by
  obtain ⟨c, rest, rfl, hblank, -⟩ := h
  exact skipBlanks_cons hblank (rest ++ r)

theorem begins_writeInt (n : Int) : Begins (writeInt n) := by
  have hdigit : ∀ d : Char, d.isDigit = true → isBlank d = false ∧ d ≠ ']' := by
    intro d hd
    refine ⟨?_, ?_⟩
    · by_contra hblank
      simp only [isBlank, Bool.not_eq_false, Bool.or_eq_true, beq_iff_eq] at hblank
      rcases hblank with ((rfl | rfl) | rfl) | rfl <;> simp at hd
    · rintro rfl
      simp at hd
  rcases writeInt_cases n with ⟨d, ds, hd, hd', -⟩ | ⟨d, ds, -, -, hwrite, -⟩
  · exact ⟨d, ds, hd, hdigit d hd'⟩
  · exact ⟨'-', _, hwrite, by decide, by decide⟩

theorem begins_write {v : Value} (h : v.Exact) : Begins (write v) := by
  cases h with
  | null => exact ⟨'n', _, rfl, by decide, by decide⟩
  | bool b => cases b <;> exact ⟨_, _, rfl, by decide, by decide⟩
  | int n => exact begins_writeInt n
  | str s => exact ⟨'"', _, rfl, by decide, by decide⟩
  | @arr vs h => cases vs <;> exact ⟨'[', _, rfl, by decide, by decide⟩
  | @obj es hkeys h => cases es <;> exact ⟨'\x7b', _, rfl, by decide, by decide⟩

/-- It is enough to read on after the first character, which takes one step of the fuel. -/
theorem readsAs_cons {c : Char} {cs : List Char} {v : Value}
    (h : ∀ fuel depth r, cs.length ≤ fuel → Stops isNumberChar r →
      readValue {} (fuel + 1) depth (c :: (cs ++ r)) = .ok (v, r)) : ReadsAs (c :: cs) v := by
  intro fuel depth r hfuel hr
  cases fuel with
  | zero => simp at hfuel
  | succ fuel => exact h fuel depth r (by simpa using hfuel) hr

/-! ### Leaves -/

theorem readsAs_writeInt (n : Int) : ReadsAs (writeInt n) (.int n) := by
  have hfirst : ∃ c cs, writeInt n = c :: cs ∧ (c.isDigit = true ∨ c = '-') := by
    rcases writeInt_cases n with ⟨d, ds, hd, hdigit, -⟩ | ⟨d, ds, -, -, hwrite, -⟩
    · exact ⟨d, ds, hd, .inl hdigit⟩
    · exact ⟨'-', _, hwrite, .inr rfl⟩
  obtain ⟨c, cs, hc, hdigit⟩ := hfirst
  have hne : ∀ x : Char, x.isDigit = false → x ≠ '-' → (c == x) = false := by
    intro x hx hsign
    rw [beq_eq_false_iff_ne]
    rintro rfl
    rcases hdigit with hdigit | hdigit
    · simp [hx] at hdigit
    · exact hsign hdigit
  rw [hc]
  refine readsAs_cons fun fuel depth r hfuel hr => ?_
  have hnumber := readNumber_writeInt n hr
  rw [hc, List.cons_append] at hnumber
  rw [readValue]
  simp only [hne '"' (by decide) (by decide), hne '[' (by decide) (by decide),
    hne '\x7b' (by decide) (by decide), hne 'n' (by decide) (by decide), hne 't' (by decide) (by decide),
    hne 'f' (by decide) (by decide), hne 'N' (by decide) (by decide), hne 'I' (by decide) (by decide)]
  exact hnumber

theorem readsAs_writeText (s : String) : ReadsAs (writeText s) (.str s) := by
  refine readsAs_cons fun fuel depth r hfuel _ => ?_
  obtain ⟨cs, hcs, hread⟩ := readText_writeText s r
  have hbody : s.toList.flatMap writeChar ++ ['"'] ++ r = cs := (List.cons.inj hcs).2
  rw [hbody, readValue]
  simp [hread, require, bind, Except.bind, pure, Except.pure]

theorem readsAs_null : ReadsAs (write .null) .null := by
  have hword : write .null = ['n', 'u', 'l', 'l'] := by simp [write]
  rw [hword]
  refine readsAs_cons fun fuel depth r _ _ => ?_
  rw [readValue]
  simp [afterWord, require]

theorem readsAs_bool (b : Bool) : ReadsAs (write (.bool b)) (.bool b) := by
  cases b with
  | false =>
    have hword : write (.bool false) = ['f', 'a', 'l', 's', 'e'] := by simp [write]
    rw [hword]
    refine readsAs_cons fun fuel depth r _ _ => ?_
    rw [readValue]
    simp [afterWord, require]
  | true =>
    have hword : write (.bool true) = ['t', 'r', 'u', 'e'] := by simp [write]
    rw [hword]
    refine readsAs_cons fun fuel depth r _ _ => ?_
    rw [readValue]
    simp [afterWord, require]

/-! ### Lists -/

/-- The texts of some more items of a list, each after its comma, and the end of the list.  There may be
blanks after a comma. -/
inductive MoreItems : List Value → List Char → Prop where
  | close : MoreItems [] [']']
  | item {blanks cs rest : List Char} {v : Value} {vs : List Value}
      (hblanks : ∀ c ∈ blanks, isBlank c = true) (hbegins : Begins cs) (hv : ReadsAs cs v)
      (hrest : MoreItems vs rest) : MoreItems (v :: vs) (',' :: (blanks ++ (cs ++ rest)))

theorem skipBlanks_append {blanks cs : List Char} (h : ∀ c ∈ blanks, isBlank c = true) :
    skipBlanks (blanks ++ cs) = skipBlanks cs :=
  List.dropWhile_append_of_pos h

theorem readItems_of_moreItems {cs rest : List Char} {v : Value} {vs : List Value} (hv : ReadsAs cs v)
    (h : MoreItems vs rest) {fuel : Nat} (hfuel : (cs ++ rest).length ≤ fuel) (depth : Nat)
    (r : List Char) : readItems {} fuel depth (cs ++ (rest ++ r)) = .ok (v :: vs, r) := by
  -- An item takes one step of the fuel, for which its comma or the bracket is there.
  induction h generalizing cs v fuel with
  | close =>
    rw [List.length_append, List.length_singleton] at hfuel
    obtain ⟨k, rfl⟩ := Nat.exists_eq_add_one.mpr (show 0 < fuel by omega)
    have hread := hv k depth (']' :: r) (by omega) ((stops_cons _ _ _).mpr (by decide))
    rw [List.singleton_append, readItems, hread]
    rfl
  | @item blanks cs' rest v' vs hblanks hbegins hv' hrest ih =>
    simp only [List.length_append, List.length_cons] at hfuel
    obtain ⟨k, rfl⟩ := Nat.exists_eq_add_one.mpr (show 0 < fuel by omega)
    have hread := hv k depth (',' :: (blanks ++ (cs' ++ rest) ++ r)) (by omega)
      ((stops_cons _ _ _).mpr (by decide))
    have hskip : skipBlanks (blanks ++ (cs' ++ rest) ++ r) = cs' ++ (rest ++ r) := by
      rw [List.append_assoc, List.append_assoc, skipBlanks_append hblanks, skipBlanks_of_begins hbegins]
    have hmore := @ih cs' v' hv' k (by rw [List.length_append]; omega)
    rw [List.cons_append, readItems, hread]
    show (do
      let p ← readItems {} k depth (skipBlanks (blanks ++ (cs' ++ rest) ++ r))
      return (v :: p.1, p.2) : Except JsonError (List Value × List Char)) = _
    rw [hskip, hmore]
    rfl

theorem readsAs_items {cs rest : List Char} {v : Value} {vs : List Value} (hbegins : Begins cs)
    (hv : ReadsAs cs v) (h : MoreItems vs rest) : ReadsAs ('[' :: (cs ++ rest)) (.arr (v :: vs)) := by
  refine readsAs_cons fun fuel depth r hfuel _ => ?_
  have hread := readItems_of_moreItems hv h hfuel (depth + 1) r
  have hskip := skipBlanks_of_begins hbegins (rest ++ r)
  obtain ⟨c, cs, rfl, -, hne⟩ := hbegins
  rw [List.append_assoc, readValue]
  simp only [hskip]
  rw [List.cons_append] at hread ⊢
  simp [Limits.checkDepth, hne, hread, bind, Except.bind, pure, Except.pure]

theorem readsAs_emptyList : ReadsAs ['[', ']'] (.arr []) := by
  refine readsAs_cons fun fuel depth r _ _ => ?_
  have hskip : skipBlanks (']' :: r) = ']' :: r := skipBlanks_cons (by decide) r
  rw [List.singleton_append, readValue]
  simp [Limits.checkDepth, hskip, bind, Except.bind, pure, Except.pure]

/-- The items that a list writes after its first one are some more items, with a blank after each comma. -/
theorem moreItems_writeItems {vs : List Value} (h : ∀ v ∈ vs, ReadBack v) :
    MoreItems vs (writeItems vs) := by
  induction vs with
  | nil =>
    rw [writeItems]
    exact .close
  | cons v vs ih =>
    obtain ⟨hbegins, hv⟩ := h v List.mem_cons_self
    have hrest := ih fun w hw => h w (List.mem_cons_of_mem v hw)
    rw [writeItems]
    have hblank : ∀ c ∈ [' '], isBlank c = true := List.forall_mem_singleton.mpr (by decide)
    exact .item hblank hbegins hv hrest

/-! ### Objects -/

theorem skipBlanks_blank (cs : List Char) : skipBlanks (' ' :: cs) = skipBlanks cs :=
  List.dropWhile_cons_of_pos (by decide)

theorem readsAs_emptyObject : ReadsAs ['\x7b', '\x7d'] (.obj []) := by
  refine readsAs_cons fun fuel depth r _ _ => ?_
  have hskip : skipBlanks ('\x7d' :: r) = '\x7d' :: r := skipBlanks_cons (by decide) r
  rw [List.singleton_append, readValue]
  simp [Limits.checkDepth, hskip, bind, Except.bind, pure, Except.pure]

theorem readKey_writeText (k : String) {cs : List Char} (hbegins : Begins cs) (r : List Char) :
    readKey (writeText k ++ ':' :: ' ' :: (cs ++ r)) = some (k, cs ++ r) := by
  obtain ⟨text, htext, hread⟩ := readText_writeText k (':' :: ' ' :: (cs ++ r))
  have hcolon : skipBlanks (':' :: ' ' :: (cs ++ r)) = ':' :: ' ' :: (cs ++ r) :=
    skipBlanks_cons (by decide) _
  have hvalue : skipBlanks (' ' :: (cs ++ r)) = cs ++ r := by
    rw [skipBlanks_blank, skipBlanks_of_begins hbegins]
  rw [htext, readKey, hread]
  simp [hcolon, hvalue]

theorem readEntries_last {k : String} {v : Value} (hv : ReadBack v) {n : Nat}
    (hfuel : (write v).length ≤ n) (depth : Nat) (r : List Char) :
    readEntries {} (n + 1) depth (writeText k ++ ':' :: ' ' :: (write v ++ '\x7d' :: r)) =
      .ok ([(k, v)], r) := by
  have hread := hv.2 n depth ('\x7d' :: r) hfuel ((stops_cons _ _ _).mpr (by decide))
  rw [readEntries, readKey_writeText k hv.1]
  simp only [require, bind, Except.bind, hread]
  rfl

theorem readEntries_comma {k : String} {v : Value} (hv : ReadBack v) {n : Nat}
    (hfuel : (write v).length ≤ n) {depth : Nat} {more r : List Char} {es : Entries}
    (hmore : readEntries {} n depth (skipBlanks more) = .ok (es, r)) :
    readEntries {} (n + 1) depth (writeText k ++ ':' :: ' ' :: (write v ++ ',' :: more)) =
      .ok ((k, v) :: es, r) := by
  have hread := hv.2 n depth (',' :: more) hfuel ((stops_cons _ _ _).mpr (by decide))
  have hskip : skipBlanks (',' :: more) = ',' :: more := skipBlanks_cons (by decide) more
  rw [readEntries, readKey_writeText k hv.1]
  simp only [require, bind, Except.bind, hread, hskip, hmore]
  rfl

theorem skipBlanks_writeText (s : String) (r : List Char) :
    skipBlanks (writeText s ++ r) = writeText s ++ r :=
  skipBlanks_cons (by decide) _

theorem readEntries_writeEntries {k : String} {v : Value} {es : Entries} (hv : ReadBack v)
    (h : ∀ e ∈ es, ReadBack e.2) {fuel : Nat}
    (hfuel : (writeText k ++ ':' :: ' ' :: (write v ++ writeEntries es)).length ≤ fuel) (depth : Nat)
    (r : List Char) :
    readEntries {} fuel depth (writeText k ++ ':' :: ' ' :: (write v ++ (writeEntries es ++ r))) =
      .ok ((k, v) :: es, r) := by
  induction es generalizing k v fuel with
  | nil =>
    rw [writeEntries, List.singleton_append]
    simp only [List.length_append, List.length_cons] at hfuel
    obtain ⟨n, rfl⟩ := Nat.exists_eq_add_one.mpr (show 0 < fuel by omega)
    exact readEntries_last hv (by omega) depth r
  | cons e es ih =>
    obtain ⟨k', v'⟩ := e
    rw [writeEntries] at hfuel ⊢
    simp only [List.length_append, List.length_cons] at hfuel
    obtain ⟨n, rfl⟩ := Nat.exists_eq_add_one.mpr (show 0 < fuel by omega)
    have hv' : ReadBack v' := h (k', v') List.mem_cons_self
    have hes : ∀ e ∈ es, ReadBack e.2 := fun e he => h e (List.mem_cons_of_mem _ he)
    have hmore := @ih k' v' hv' hes n (by simp only [List.length_append, List.length_cons]; omega)
    rw [List.cons_append, List.cons_append, List.append_assoc, List.cons_append, List.cons_append,
      List.append_assoc]
    refine readEntries_comma hv (by omega) ?_
    rw [skipBlanks_blank, skipBlanks_writeText]
    exact hmore

/-- An object is read when its entries are, and keeps them when no key is written twice. -/
theorem readsAs_entries {k : String} {v : Value} {es : Entries}
    (hkeys : (((k, v) :: es).map Prod.fst).Nodup) (hv : ReadBack v) (h : ∀ e ∈ es, ReadBack e.2) :
    ReadsAs (write (.obj ((k, v) :: es))) (.obj ((k, v) :: es)) := by
  rw [write]
  refine readsAs_cons fun fuel depth r hfuel _ => ?_
  have hread := readEntries_writeEntries hv h hfuel (depth + 1) r
  have hskip := skipBlanks_writeText k (':' :: ' ' :: (write v ++ (writeEntries es ++ r)))
  have hcollect := Value.collect_of_nodup hkeys
  -- The first character of the key is all that the reader looks at before it reads the entries.
  obtain ⟨cs, hcs⟩ : ∃ cs,
      writeText k ++ ':' :: ' ' :: (write v ++ (writeEntries es ++ r)) = '"' :: cs := ⟨_, rfl⟩
  rw [List.append_assoc, List.cons_append, List.cons_append, List.append_assoc, readValue]
  rw [hcs] at hskip hread ⊢
  simp [Limits.checkDepth, hskip, hread, hcollect, bind, Except.bind, pure, Except.pure]

/-! ### The round trip -/

/-- **A value without fractions is read back from its text**, whatever comes after it that does not go on a
number. -/
theorem readsAs_write {v : Value} (h : v.Exact) : ReadsAs (write v) v := by
  induction h with
  | null => exact readsAs_null
  | bool b => exact readsAs_bool b
  | int n =>
    rw [write]
    exact readsAs_writeInt n
  | str s =>
    rw [write]
    exact readsAs_writeText s
  | @arr vs h ih =>
    have hvs : ∀ v ∈ vs, ReadBack v := fun v hv => ⟨begins_write (h v hv), ih v hv⟩
    cases vs with
    | nil =>
      rw [write]
      exact readsAs_emptyList
    | cons v vs =>
      obtain ⟨hbegins, hv⟩ := hvs v List.mem_cons_self
      have hmore := moreItems_writeItems fun w hw => hvs w (List.mem_cons_of_mem v hw)
      rw [write]
      exact readsAs_items hbegins hv hmore
  | @obj es hkeys h ih =>
    have hes : ∀ e ∈ es, ReadBack e.2 := fun e he => ⟨begins_write (h e he), ih e he⟩
    cases es with
    | nil =>
      rw [write]
      exact readsAs_emptyObject
    | cons e es =>
      exact readsAs_entries hkeys (hes e List.mem_cons_self)
        fun e' he' => hes e' (List.mem_cons_of_mem e he')

end Json

end ScopedSearch
