import ScopedSearch.Proofs.Json.Quoted
import ScopedSearch.Proofs.Text.Codes

/-!
# Integers are read back

An integer is written by its decimal digits, which begin with a zero only when they are a zero alone, and is
read back where nothing comes that goes on a number (`readNumber_writeInt`).
-/

namespace ScopedSearch

namespace Json

/-! ### Digits -/

def isNumberChar (c : Char) : Bool := c.isDigit || c == '.' || c == 'e' || c == 'E'

theorem isDigit_of_mem_writeNat {n : Nat} {c : Char} (h : c ∈ writeNat n) : c.isDigit = true :=
  Nat.isDigit_of_mem_toDigits (by decide) (by decide) h

theorem ofDigits_writeNat (n : Nat) : ofDigits (writeNat n) = n := by
  have hfold : ofDigits (writeNat n) = Nat.ofDigitChars 10 (writeNat n) 0 := by
    rw [Nat.ofDigitChars_eq_foldl]
    rfl
  rw [hfold, writeNat, Nat.ofDigitChars_ten_toDigits]

/-- The digits of a number are a zero alone, or they do not begin with a zero. -/
theorem writeNat_cases (n : Nat) : writeNat n = ['0'] ∨ ∃ d ds, writeNat n = d :: ds ∧ d ≠ '0' := by
  induction n using Nat.strongRecOn with
  | _ n ih =>
    by_cases hsmall : n < 10
    · rw [writeNat, Nat.toDigits_of_lt_base hsmall]
      by_cases hzero : n = 0
      · subst hzero
        exact .inl rfl
      · exact .inr ⟨_, _, rfl, fun h => hzero (Nat.digitChar_eq_zero.mp h)⟩
    · have hten : 10 ≤ n := by omega
      rw [writeNat, Nat.toDigits_of_base_le (by decide) hten]
      rcases ih (n / 10) (by omega) with hzero | ⟨d, ds, hd, hne⟩
      · have hvalue := ofDigits_writeNat (n / 10)
        rw [hzero] at hvalue
        have : n / 10 = 0 := hvalue.symm
        omega
      · rw [writeNat] at hd
        exact .inr ⟨d, ds ++ [(n % 10).digitChar], by rw [hd]; rfl, hne⟩

theorem spanDigits_append {ds r : List Char} (hds : ∀ c ∈ ds, c.isDigit = true)
    (hr : Stops Char.isDigit r) : spanDigits (ds ++ r) = (ds, r) := by
  have hstop : r.takeWhile Char.isDigit = [] ∧ r.dropWhile Char.isDigit = r := by
    cases r with
    | nil => exact ⟨rfl, rfl⟩
    | cons c r =>
      have hc : c.isDigit = false := by simpa using hr
      simp [hc]
  rw [spanDigits, List.takeWhile_append_of_pos hds, List.dropWhile_append_of_pos hds, hstop.1, hstop.2,
    List.append_nil]

theorem readWhole_writeNat (n : Nat) {r : List Char} (hr : Stops Char.isDigit r) :
    readWhole (writeNat n ++ r) = some (writeNat n, r) := by
  rcases writeNat_cases n with hzero | ⟨d, ds, hd, hne⟩
  · rw [hzero]
    rfl
  · have hspan := spanDigits_append (fun c => isDigit_of_mem_writeNat (n := n)) hr
    rw [hd, List.cons_append] at hspan ⊢
    unfold readWhole
    split
    · rename_i h
      exact absurd (List.cons.inj h).1 hne
    · rw [hspan]

/-! ### Numbers -/

/-- Nothing that goes on a number is neither a digit, nor a point, nor the letter of an exponent. -/
theorem Stops.number {r : List Char} (h : Stops isNumberChar r) :
    Stops Char.isDigit r ∧ readFraction r = ([], r) ∧ readExponent r = (none, r) := by
  cases r with
  | nil => exact ⟨by simp [Stops], rfl, rfl⟩
  | cons c r =>
    rw [stops_cons, isNumberChar] at h
    simp only [Bool.or_eq_false_iff, beq_eq_false_iff_ne] at h
    obtain ⟨⟨⟨hdigit, hpoint⟩, hsmall⟩, hcapital⟩ := h
    refine ⟨by rw [stops_cons, hdigit], ?_, ?_⟩
    · rw [readFraction]
      exact fun _ hc => hpoint (List.cons.inj hc).1
    · simp [readExponent, hsmall, hcapital]

theorem readMagnitude_writeNat (n : Nat) (negative : Bool) {r : List Char} (hr : Stops isNumberChar r) :
    readMagnitude {} negative (writeNat n ++ r) =
      .ok (.int (if negative then -(n : Int) else n), r) := by
  obtain ⟨hdigit, hfraction, hexponent⟩ := Stops.number hr
  simp [readMagnitude, readWhole_writeNat n hdigit, hfraction, hexponent, ofDigits_writeNat, require,
    Limits.checkDigits, bind, Except.bind, pure, Except.pure]

theorem writeInt_cases (n : Int) :
    (∃ d ds, writeInt n = d :: ds ∧ d.isDigit = true ∧ writeInt n = writeNat n.natAbs ∧ 0 ≤ n) ∨
    (∃ d ds, writeNat n.natAbs = d :: ds ∧ d.isDigit = true ∧
      writeInt n = '-' :: writeNat n.natAbs ∧ n < 0) := by
  have hne : writeNat n.natAbs ≠ [] := Nat.toDigits_ne_nil
  obtain ⟨d, ds, hd⟩ := List.exists_cons_of_ne_nil hne
  have hdigit : d.isDigit = true := isDigit_of_mem_writeNat (n := n.natAbs) (by simp [hd])
  rw [writeInt]
  by_cases hn : n < 0
  · rw [if_pos hn]
    exact .inr ⟨d, ds, hd, hdigit, rfl, hn⟩
  · rw [if_neg hn]
    exact .inl ⟨d, ds, hd, hdigit, rfl, by omega⟩

theorem readNumber_writeInt (n : Int) {r : List Char} (hr : Stops isNumberChar r) :
    readNumber {} (writeInt n ++ r) = .ok (.int n, r) := by
  rcases writeInt_cases n with ⟨d, ds, hd, hdigit, hwrite, hn⟩ | ⟨d, ds, hd, hdigit, hwrite, hn⟩
  · have hmagnitude := readMagnitude_writeNat n.natAbs false hr
    rw [← hwrite, hd] at hmagnitude
    have hsign : d ≠ '-' := by
      rintro rfl
      simp at hdigit
    have hvalue : ((n.natAbs : Nat) : Int) = n := by omega
    rw [hd, List.cons_append]
    rw [List.cons_append] at hmagnitude
    unfold readNumber
    split
    · rename_i h
      exact absurd (List.cons.inj h).1 hsign
    · rw [hmagnitude]
      simp [hvalue]
  · have hmagnitude := readMagnitude_writeNat n.natAbs true hr
    have hvalue : -((n.natAbs : Nat) : Int) = n := by omega
    have hword : afterWord "Infinity".toList (writeNat n.natAbs ++ r) = none := by
      have hletter : ('I' == d) = false := by
        rw [beq_eq_false_iff_ne]
        rintro rfl
        simp at hdigit
      rw [hd]
      simp [afterWord, hletter]
    rw [hwrite, List.cons_append, readNumber, hword]
    simp only [hmagnitude, if_true, hvalue]

theorem isAscii_of_mem_writeInt {n : Int} {c : Char} (h : c ∈ writeInt n) : IsAscii c := by
  have hdigit : ∀ c ∈ writeNat n.natAbs, IsAscii c := by
    intro c hc
    have hle : c.toNat ≤ '9'.toNat := (Char.isDigit_iff_toNat.mp (isDigit_of_mem_writeNat hc)).2
    have hnine : '9'.toNat < 128 := by decide
    exact Nat.lt_of_le_of_lt hle hnine
  rw [writeInt] at h
  by_cases hn : n < 0
  · rw [if_pos hn] at h
    rcases List.mem_cons.mp h with rfl | h
    · decide
    · exact hdigit c h
  · rw [if_neg hn] at h
    exact hdigit c h

end Json

end ScopedSearch
