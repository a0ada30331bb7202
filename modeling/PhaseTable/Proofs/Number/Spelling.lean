/-
# PhaseTable.Proofs.Number.Spelling -- digits and a point are read as they are

A numeral without a sign and an exponent is spelled in digits, with a point and more digits behind
it or without (`Numeral.Spells`).  Its characters determine both runs of digits, whatever the sign
in front of them (`Numeral.Spells.read?`).  So a text that is read as an integer is a numeral of
digits alone (`read?_of_readInt?`).

The words for infinity and no number begin with a letter, so no numeral is taken for one of them
(`Numeral.readBinary64?_of_read?`).
-/
import PhaseTable.Proofs.Number.LetterCase
import PhaseTable.Proofs.Text.Runs

namespace PhaseTable

set_option autoImplicit false

namespace Numeral

/-- Digits, and a point with more of them if there are any. -/
def withPoint (whole fraction : List Char) : List Char :=
  if fraction = [] then whole else whole ++ '.' :: fraction

/-- The characters are digits before a point and behind it, or digits without a point. -/
structure Spells (cs whole fraction : List Char) : Prop where
  eq : cs = withPoint whole fraction
  nonempty : whole ≠ []
  whole : ∀ c ∈ whole, c.isDigit = true
  fraction : ∀ c ∈ fraction, c.isDigit = true

theorem spanDigits_append {digits rest : List Char} (each : ∀ c ∈ digits, c.isDigit = true)
    (ends : ∀ c ∈ rest.head?, c.isDigit = false) :
    spanDigits (digits ++ rest) = (digits, rest) :=
  Prod.ext (Text.span_run each ends).1 (Text.span_run each ends).2

namespace Spells

variable {cs whole fraction : List Char}

theorem mem (spells : Spells cs whole fraction) {c : Char} (listed : c ∈ cs) :
    c.isDigit = true ∨ c = '.' := by
  rw [spells.eq, withPoint] at listed
  split at listed
  · exact .inl (spells.whole c listed)
  · rcases List.mem_append.mp listed with before | behind
    · exact .inl (spells.whole c before)
    · exact (List.mem_cons.mp behind).symm.imp_left (spells.fraction c)

/-- The first character is a digit. -/
theorem exists_cons (spells : Spells cs whole fraction) :
    ∃ c rest, cs = c :: rest ∧ c.isDigit = true := by
  obtain ⟨c, rest, rfl⟩ := List.exists_cons_of_ne_nil spells.nonempty
  have first : c.isDigit = true := spells.whole c List.mem_cons_self
  rw [spells.eq, withPoint]
  split
  · exact ⟨c, rest, rfl, first⟩
  · exact ⟨c, rest ++ '.' :: fraction, rfl, first⟩

theorem readSign (spells : Spells cs whole fraction) (negative : Bool) :
    readSign (if negative then '-' :: cs else cs) = (negative, cs) := by
  cases negative with
  | true => rfl
  | false =>
      obtain ⟨c, rest, rfl, digit⟩ := spells.exists_cons
      have bounds := isDigit_iff.mp digit
      refine readSign_of_ne rest ?_ ?_
      · rintro rfl
        exact absurd bounds.1 (by decide)
      · rintro rfl
        exact absurd bounds.1 (by decide)

/-- Behind any sign the characters are read as the digits that they are. -/
theorem read?_of_readSign (spells : Spells cs whole fraction) {s : String} {negative : Bool}
    (sign : PhaseTable.readSign s.toList = (negative, cs)) :
    Numeral.read? s = some ⟨negative, whole, fraction, 0⟩ := by
  have end_ : ∀ {digits : List Char}, (∀ c ∈ digits, c.isDigit = true) →
      spanDigits digits = (digits, []) := by
    intro digits each
    have all : spanDigits (digits ++ []) = (digits, []) := spanDigits_append each nofun
    rwa [List.append_nil] at all
  have parts : ∃ rest, spanDigits cs = (whole, rest) ∧ readFraction rest = (fraction, []) := by
    rw [spells.eq, withPoint]
    split
    · next none_ => exact ⟨[], end_ spells.whole, by rw [none_]; rfl⟩
    · refine ⟨'.' :: fraction, spanDigits_append spells.whole ?_, end_ spells.fraction⟩
      rintro _ ⟨⟩
      rfl
  obtain ⟨rest, wholeRead, fractionRead⟩ := parts
  simp only [Numeral.read?, sign, wholeRead, fractionRead, spells.nonempty, false_and, if_false,
    readExponent?, Option.map_some]

theorem read? (spells : Spells cs whole fraction) (negative : Bool) :
    Numeral.read? (String.ofList (if negative then '-' :: cs else cs)) =
      some ⟨negative, whole, fraction, 0⟩ := by
  refine spells.read?_of_readSign ?_
  rw [String.toList_ofList]
  exact spells.readSign negative

end Spells

/-- Digits alone are spelled without a point. -/
theorem spells_digits {cs : List Char} (nonempty : cs ≠ []) (digits : cs.all Char.isDigit = true) :
    Spells cs cs [] where
  eq := rfl
  nonempty := nonempty
  whole := List.all_eq_true.mp digits
  fraction _ none_ := nomatch none_

/-! ## Words -/

/-- Behind its sign a numeral begins with a digit or a point. -/
theorem begins_of_read? {s : String} {n : Numeral} (read : read? s = some n) :
    ∃ c rest, readSign s.toList = (n.negative, c :: rest) ∧ (c.isDigit = true ∨ c = '.') := by
  rcases sign : readSign s.toList with ⟨negative, cs⟩
  simp only [read?, sign] at read
  cases cs with
  | nil => cases read
  | cons c rest =>
      split at read
      · cases read
      · next some_ =>
        obtain ⟨exponent, -, rfl⟩ := Option.map_eq_some_iff.mp read
        refine ⟨c, rest, rfl, ?_⟩
        by_contra! neither
        obtain ⟨digit, point⟩ := neither
        have digits : spanDigits (c :: rest) = ([], c :: rest) :=
          spanDigits_append (List.forall_mem_nil _) (by simpa using digit)
        have fraction : readFraction (c :: rest) = ([], c :: rest) := by
          unfold readFraction
          split
          · next same => exact absurd (List.cons.inj same).1 point
          · rfl
        rw [digits, fraction] at some_
        exact some_ ⟨rfl, rfl⟩

/-- What begins with a digit or a point is not a word of letters. -/
theorem not_word {c : Char} (rest : List Char) (begins : c.isDigit = true ∨ c = '.')
    (word : String) (letter : word.toList.head?.all (97 ≤ ·.toNat) = true) :
    Text.sameIgnoringAsciiCase (String.ofList (c :: rest)) word = false := by
  rw [← Bool.not_eq_true, Text.sameIgnoringAsciiCase, beq_iff_eq, String.toList_ofList]
  intro same
  cases letters : word.toList with
  | nil =>
      rw [letters] at same
      cases same
  | cons first others =>
      rw [letters, List.map_cons, List.map_cons] at same
      rw [letters] at letter
      have heads := congrArg Char.toNat (List.cons.inj same).1
      have high : 97 ≤ first.toNat := of_decide_eq_true letter
      have low : c.toNat ≤ 57 := by
        rcases begins with digit | rfl
        · exact (isDigit_iff.mp digit).2
        · decide
      rcases Text.toLower_cases c with ⟨_, _, _⟩ | ⟨-, kept⟩
      · omega
      · rcases Text.toLower_cases first with ⟨_, _, _⟩ | ⟨-, keptFirst⟩
        · omega
        · rw [kept, keptFirst] at heads
          omega

/-- **A numeral is read as its value**: it is none of the words for infinity and no number. -/
theorem readBinary64?_of_read? {s : String} {n : Numeral} (read : read? s = some n) :
    readBinary64? s = some n.value := by
  obtain ⟨c, rest, sign, begins⟩ := begins_of_read? read
  have inf := not_word rest begins "inf" (by decide)
  have infinity := not_word rest begins "infinity" (by decide)
  have nan := not_word rest begins "nan" (by decide)
  simp only [readBinary64?, sign, inf, infinity, nan, Bool.or_self, Bool.false_eq_true, if_false,
    read, Option.map_some]

end Numeral

/-- **A text that is read as an integer is a numeral of digits alone.** -/
theorem read?_of_readInt? {s : String} {i : Int} (read : readInt? s = some i) :
    ∃ negative digits, Numeral.read? s = some ⟨negative, digits, [], 0⟩ ∧
      i = if negative then -(Nat.ofDigitChars 10 digits 0 : Int)
        else Nat.ofDigitChars 10 digits 0 := by
  rcases sign : readSign s.toList with ⟨negative, digits⟩
  simp only [readInt?, sign] at read
  split at read
  · next valid =>
    have spells := Numeral.spells_digits valid.1 valid.2
    exact ⟨negative, digits, spells.read?_of_readSign sign, (Option.some.inj read).symm⟩
  · cases read

end PhaseTable
