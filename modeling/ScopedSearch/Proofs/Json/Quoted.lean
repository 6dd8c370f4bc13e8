import Mathlib.Data.List.Basic
import ScopedSearch.Json.Reader
import ScopedSearch.Json.Writer

/-!
# Quoted texts are read back

A character between quotes is written by itself, behind a backslash, or by its 16-bit units, and each of
these is read as that character wherever it stands (`StandsFor`).  So a text is read back from its quoted
form, whatever comes after it (`readText_writeText`), and the quoted form is plain ASCII
(`isAscii_of_mem_writeText`).
-/

namespace ScopedSearch

namespace Json

open Text (isHighUnit isLowUnit joinUnits unitChar)

/-! ### Characters -/

def IsAscii (c : Char) : Prop := c.toNat < 128

instance (c : Char) : Decidable (IsAscii c) := inferInstanceAs (Decidable (_ < _))

/-- No character has the number of half of a pair. -/
theorem toNat_valid (c : Char) : c.toNat < 0xD800 ∨ 0xDFFF < c.toNat ∧ c.toNat < 0x110000 :=
  c.valid

theorem isAscii_hexDigit : ∀ n < 16, IsAscii (hexDigit n) := by decide

theorem isAscii_of_mem_writeUnit {u : Nat} {c : Char} (h : c ∈ writeUnit u) : IsAscii c := by
  simp only [writeUnit, List.mem_cons, List.not_mem_nil, or_false] at h
  rcases h with rfl | rfl | rfl | rfl | rfl | rfl
  · decide
  · decide
  all_goals exact isAscii_hexDigit _ (Nat.mod_lt _ (by decide))

/-- The characters that are written behind a backslash, with the letters that stand there. -/
def escapes : List (Char × Char) :=
  [('"', '"'), ('\\', '\\'), ('\n', 'n'), ('\r', 'r'), ('\t', 't'), ('\x0c', 'f'), ('\x08', 'b')]

theorem writeChar_cases (c : Char) :
    (∃ e, writeChar c = ['\\', e] ∧ plainEscape? e = some c ∧ IsAscii e) ∨
    (writeChar c = [c] ∧ c ≠ '"' ∧ c ≠ '\\' ∧ 0x20 ≤ c.toNat ∧ IsAscii c) ∨
    writeChar c = writeUnits c := by
  by_cases hescaped : ∃ p ∈ escapes, p.1 = c
  · obtain ⟨p, hp, rfl⟩ := hescaped
    have hall : ∀ p ∈ escapes, writeChar p.1 = ['\\', p.2] ∧ plainEscape? p.2 = some p.1 ∧
        IsAscii p.2 := by decide
    exact .inl ⟨p.2, hall p hp⟩
  · simp only [escapes, List.exists_mem_cons_iff, List.not_mem_nil, false_and, exists_false, or_false,
      not_or] at hescaped
    obtain ⟨hquote, hbackslash, hn, hr, ht, hf, hb⟩ := hescaped
    have hne : ∀ d : Char, ¬ d = c → (c == d) = false := fun d hd => by simpa using Ne.symm hd
    simp only [writeChar, hne _ hquote, hne _ hbackslash, hne _ hn, hne _ hr, hne _ ht, hne _ hf,
      hne _ hb]
    by_cases hplain : 0x20 ≤ c.toNat ∧ c.toNat < 0x7F
    · refine .inr (.inl ⟨by simp [hplain], Ne.symm hquote, Ne.symm hbackslash, hplain.1, ?_⟩)
      rw [IsAscii]
      omega
    · have hunits : (decide (0x20 ≤ c.toNat) && decide (c.toNat < 0x7F)) = false := by simpa using hplain
      exact .inr (.inr (by simp [hunits]))

theorem isAscii_of_mem_writeChar {c d : Char} (h : d ∈ writeChar c) : IsAscii d := by
  rcases writeChar_cases c with ⟨e, hc, -, he⟩ | ⟨hc, -, -, -, hascii⟩ | hc
  · rw [hc] at h
    rcases List.mem_pair.mp h with rfl | rfl
    · decide
    · exact he
  · rw [hc] at h
    rw [List.mem_singleton.mp h]
    exact hascii
  · rw [hc, writeUnits] at h
    by_cases hsingle : c.toNat < 0x10000
    · rw [if_pos hsingle] at h
      exact isAscii_of_mem_writeUnit h
    · rw [if_neg hsingle] at h
      rcases List.mem_append.mp h with h | h
      · exact isAscii_of_mem_writeUnit h
      · exact isAscii_of_mem_writeUnit h

theorem isAscii_of_mem_writeText {s : String} {c : Char} (h : c ∈ writeText s) : IsAscii c := by
  simp only [writeText, List.mem_cons, List.mem_append, List.mem_flatMap, List.not_mem_nil,
    or_false] at h
  rcases h with rfl | ⟨d, -, hd⟩ | rfl
  · decide
  · exact isAscii_of_mem_writeChar hd
  · decide

/-! ### One character -/

/-- Some characters of a quoted text are read as one character, wherever they stand. -/
def StandsFor (cs : List Char) (c : Char) : Prop :=
  ∃ ps, (∀ r, readParts (cs ++ r) = (readParts r).map fun p => (ps ++ p.1, p.2)) ∧
    ∀ rest, charsOfParts (ps ++ rest) = c :: charsOfParts rest

theorem standsFor_itself {c : Char} (hquote : c ≠ '"') (hbackslash : c ≠ '\\') (hcontrol : 0x20 ≤ c.toNat) :
    StandsFor [c] c := by
  refine ⟨[.char c], ?_, fun rest => rfl⟩
  intro r
  have hnot : ¬ c.toNat < 0x20 := by omega
  rw [List.singleton_append, readParts]
  · rw [if_neg hnot]
    cases readParts r <;> rfl
  · exact hquote
  · exact fun _ _ _ _ _ h _ => hbackslash h
  · exact fun _ _ h _ => hbackslash h

theorem standsFor_escape {e c : Char} (he : plainEscape? e = some c) : StandsFor ['\\', e] c := by
  refine ⟨[.char c], ?_, fun rest => rfl⟩
  intro r
  have hu : e ≠ 'u' := by
    rintro rfl
    simp [plainEscape?] at he
  rw [List.cons_append, List.singleton_append, readParts]
  · rw [he]
    cases readParts r <;> rfl
  · exact fun _ _ _ _ _ h _ => hu h

theorem hexValue?_hexDigit : ∀ n < 16, hexValue? (hexDigit n) = some n := by decide

theorem unit?_hexDigit {u : Nat} (hu : u < 0x10000) :
    unit? (hexDigit (u / 4096 % 16)) (hexDigit (u / 256 % 16)) (hexDigit (u / 16 % 16))
      (hexDigit (u % 16)) = some u := by
  have hdigit : ∀ n, hexValue? (hexDigit (n % 16)) = some (n % 16) :=
    fun n => hexValue?_hexDigit _ (Nat.mod_lt _ (by decide))
  have hsum : ((u / 4096 % 16 * 16 + u / 256 % 16) * 16 + u / 16 % 16) * 16 + u % 16 = u := by omega
  simp only [unit?, hdigit, bind, Option.bind, pure, hsum]

theorem readParts_writeUnit {u : Nat} (hu : u < 0x10000) (r : List Char) :
    readParts (writeUnit u ++ r) = (readParts r).map fun p => (.unit u :: p.1, p.2) := by
  simp only [writeUnit, List.cons_append, List.nil_append]
  rw [readParts, unit?_hexDigit hu]
  cases readParts r <;> rfl

theorem standsFor_unit {c : Char} (hc : c.toNat < 0x10000) : StandsFor (writeUnit c.toNat) c := by
  refine ⟨[.unit c.toNat], readParts_writeUnit hc, ?_⟩
  intro rest
  have hvalid := toNat_valid c
  have hhigh : isHighUnit c.toNat = false := by
    simp only [isHighUnit, Bool.and_eq_false_iff, decide_eq_false_iff_not]
    omega
  have hlow : isLowUnit c.toNat = false := by
    simp only [isLowUnit, Bool.and_eq_false_iff, decide_eq_false_iff_not]
    omega
  have hchar : unitChar c.toNat = c := by
    rw [unitChar, hhigh, hlow]
    exact Char.ofNat_toNat c
  rw [List.singleton_append, ← hchar]
  rcases rest with _ | ⟨_ | u, rest⟩
  · simp [charsOfParts, hchar]
  · simp [charsOfParts, hchar]
  · simp [charsOfParts, hchar, hhigh]

/-- A high unit and a low one are the character beyond the single units that they were taken from. -/
theorem standsFor_pair {c : Char} (hc : 0x10000 ≤ c.toNat) :
    StandsFor (writeUnit (0xD800 + (c.toNat - 0x10000) / 0x400) ++
      writeUnit (0xDC00 + (c.toNat - 0x10000) % 0x400)) c := by
  have hvalid := toNat_valid c
  have hhigh : isHighUnit (0xD800 + (c.toNat - 0x10000) / 0x400) = true := by
    simp only [isHighUnit, Bool.and_eq_true, decide_eq_true_eq]
    omega
  have hlow : isLowUnit (0xDC00 + (c.toNat - 0x10000) % 0x400) = true := by
    simp only [isLowUnit, Bool.and_eq_true, decide_eq_true_eq]
    omega
  have hjoin : joinUnits (0xD800 + (c.toNat - 0x10000) / 0x400)
      (0xDC00 + (c.toNat - 0x10000) % 0x400) = c := by
    have hsum : 0x10000 + (0xD800 + (c.toNat - 0x10000) / 0x400 - 0xD800) * 0x400 +
        (0xDC00 + (c.toNat - 0x10000) % 0x400 - 0xDC00) = c.toNat := by omega
    rw [joinUnits, hsum, Char.ofNat_toNat]
  refine ⟨[.unit (0xD800 + (c.toNat - 0x10000) / 0x400),
    .unit (0xDC00 + (c.toNat - 0x10000) % 0x400)], ?_, ?_⟩
  · intro r
    rw [List.append_assoc, readParts_writeUnit (by omega), readParts_writeUnit (by omega)]
    cases readParts r <;> rfl
  · intro rest
    simp [charsOfParts, hhigh, hlow, hjoin]

theorem standsFor_writeChar (c : Char) : StandsFor (writeChar c) c := by
  rcases writeChar_cases c with ⟨e, hc, he, -⟩ | ⟨hc, hquote, hbackslash, hcontrol, -⟩ | hc
  · rw [hc]
    exact standsFor_escape he
  · rw [hc]
    exact standsFor_itself hquote hbackslash hcontrol
  · rw [hc, writeUnits]
    by_cases hsingle : c.toNat < 0x10000
    · rw [if_pos hsingle]
      exact standsFor_unit hsingle
    · rw [if_neg hsingle]
      exact standsFor_pair (by omega)

/-! ### Whole texts -/

theorem readParts_flatMap (cs r : List Char) :
    ∃ ps, readParts (cs.flatMap writeChar ++ '"' :: r) = some (ps, r) ∧ charsOfParts ps = cs := by
  induction cs with
  | nil => exact ⟨[], by simp [readParts], rfl⟩
  | cons c cs ih =>
    obtain ⟨ps, hread, hchars⟩ := ih
    obtain ⟨qs, hstands, hmore⟩ := standsFor_writeChar c
    refine ⟨qs ++ ps, ?_, ?_⟩
    · rw [List.flatMap_cons, List.append_assoc, hstands, hread]
      rfl
    · rw [hmore, hchars]

/-- **A text is read back from its quoted form**, whatever comes after it. -/
theorem readText_writeText (s : String) (r : List Char) :
    ∃ cs, writeText s ++ r = '"' :: cs ∧ readText cs = some (s, r) := by
  obtain ⟨ps, hread, hchars⟩ := readParts_flatMap s.toList r
  refine ⟨s.toList.flatMap writeChar ++ '"' :: r, by simp [writeText], ?_⟩
  simp [readText, hread, hchars]

end Json

end ScopedSearch
