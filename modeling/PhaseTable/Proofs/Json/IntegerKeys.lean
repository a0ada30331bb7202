/-
# PhaseTable.Proofs.Json.IntegerKeys -- integers as the keys of members

The key of a member is a text, so a map with integers for keys is written with the texts of the
integers.  Such a text has no superfluous zero, which JSON would not take for a number
(`head?_decimalDigits`), and so it is scanned as a whole (`Json.scanNumber_intText`) and is read as
the integer again (`Decode.keyInt32_intText`).
-/
import PhaseTable.Proofs.Json.Valid
import PhaseTable.Proofs.Number.IntegerTexts

namespace PhaseTable

set_option autoImplicit false

/-- The digits of a number do not begin with a zero, unless the number is zero. -/
theorem head?_decimalDigits {n : Nat} (positive : 0 < n) : (decimalDigits n).head? ≠ some '0' := by
  induction n using Nat.strongRecOn with
  | ind n ih =>
      by_cases single : n < 10
      · rw [decimalDigits, Nat.toDigits_of_lt_base single, List.head?_cons, Ne, Option.some.injEq,
          Nat.digitChar_eq_zero]
        omega
      · have fewer : (decimalDigits (n / 10)).head? ≠ some '0' := ih (n / 10) (by omega) (by omega)
        have lastDigit : decimalDigits n = decimalDigits (n / 10) ++ [(n % 10).digitChar] :=
          Nat.toDigits_of_base_le (by decide) (by omega)
        rw [lastDigit, List.head?_append_of_ne_nil _ (decimalDigits_ne_nil _)]
        exact fewer

namespace Json

theorem scanWhole_decimalDigits (n : Nat) :
    scanWhole (decimalDigits n) = .ok (decimalDigits n, []) := by
  have all : Numeral.spanDigits (decimalDigits n) = (decimalDigits n, []) := by
    have digits : ∀ c ∈ decimalDigits n, c.isDigit = true :=
      fun _ listed => isDigit_of_mem_decimalDigits listed
    have span : Numeral.spanDigits (decimalDigits n ++ []) = (decimalDigits n, []) :=
      Numeral.spanDigits_append digits nofun
    rwa [List.append_nil] at span
  unfold scanWhole
  rw [all]
  dsimp only
  split
  · next none_ => exact absurd none_ (decimalDigits_ne_nil n)
  · next second others digits =>
    -- a number with two digits is not zero, so a zero is not the first of them
    have positive : 0 < n := by
      rcases Nat.eq_zero_or_pos n with rfl | positive
      · cases digits
      · exact positive
    exact absurd (by rw [digits, List.head?_cons]) (head?_decimalDigits positive)
  · rfl

theorem scanNumber_intText (i : Int) :
    scanNumber (intText i).toList =
      .ok (⟨decide (i < 0), decimalDigits i.natAbs, none, none⟩, []) := by
  have signApart : (if (intText i).toList.head? = some '-' then (true, (intText i).toList.drop 1)
      else (false, (intText i).toList)) = (decide (i < 0), decimalDigits i.natAbs) := by
    rw [toList_intText]
    by_cases negative : i < 0
    · rw [if_pos negative, decide_eq_true negative]
      rfl
    · obtain ⟨c, rest, digits, digit⟩ := (spells_decimalDigits i.natAbs).exists_cons
      have noSign : c ≠ '-' := by
        rintro rfl
        cases digit
      rw [if_neg negative, decide_eq_false negative, digits, List.head?_cons,
        if_neg (by simpa using noSign)]
  unfold scanNumber
  rw [signApart]
  simp only [scanWhole_decimalDigits, bind, Except.bind, scanFraction, scanExponent]
  rfl

/-- An integer that JSON has is the value of its parts. -/
theorem value_of_integer {i : Int} (valid : (JsonNumber.int i).Valid) :
    NumberParts.value ⟨decide (i < 0), decimalDigits i.natAbs, none, none⟩ = some (.int i) := by
  obtain ⟨least, greatest⟩ := valid
  have whole : Nat.ofDigitChars 10 (decimalDigits i.natAbs) 0 = i.natAbs :=
    Nat.ofDigitChars_ten_toDigits
  have fits : (if decide (i < 0) then decide (0 < i.natAbs) && decide (i.natAbs ≤ twoPow 63)
      else decide (i.natAbs < twoPow 64)) = true := by
    by_cases negative : i < 0
    · simp only [negative, decide_true, if_true, Bool.and_eq_true, decide_eq_true_eq]
      omega
    · simp only [negative, decide_false, Bool.false_eq_true, if_false, decide_eq_true_eq]
      omega
  have value : (if decide (i < 0) then -(i.natAbs : Int) else i.natAbs) = i := by
    by_cases negative : i < 0
    · simp only [negative, decide_true, if_true]
      omega
    · simp only [negative, decide_false, Bool.false_eq_true, if_false]
      omega
  simp only [NumberParts.value, whole, true_and]
  rw [if_pos fits, value]

end Json

namespace Decode

/-- **An integer that is written as a key is read again.** -/
theorem keyInt32_intText (i : Int32) :
    keyInt32 .value ⟨.ok (intText i.toInt), (intText i.toInt).toList⟩ = .ok i := by
  have begins : (intText i.toInt).toList.head?.any (fun c => c == '-' || c.isDigit) = true := by
    obtain ⟨c, rest, text⟩ := List.exists_cons_of_ne_nil (trimmed_intText i.toInt).toList_ne_nil
    have first : c ∈ (intText i.toInt).toList := text ▸ List.mem_cons_self
    rw [text, List.head?_cons, Option.any_some]
    simpa using mem_intText first
  have value := Json.value_of_integer (JsonNumber.valid_int32 i)
  have read : wholeNumber int32? "i32" (.int i.toInt) = .ok i := by
    rw [wholeNumber, int32?_toInt]
  have scanned : scanInt32 (intText i.toInt).toList = .ok (i, []) := by
    unfold scanInt32
    rw [Json.scanNumber_intText]
    simp only [value, read]
  unfold keyInt32
  rw [begins, scanned]
  rfl

end Decode

end PhaseTable
