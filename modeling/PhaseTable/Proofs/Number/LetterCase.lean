/-
# PhaseTable.Proofs.Number.LetterCase -- numerals up to the case of their letters

A numeral is written in digits, signs, points and the letter `e`, and the words for infinity
and no number in ASCII letters (`plain_of_readBinary64?`).  Reading makes no difference
between ASCII capitals and small letters (`readBinary64?_map`).  So texts that are equal up
to the case of their letters, in whatever script, are one number or none
(`parseNumber_congr`).
-/
import PhaseTable.Number.Numeral
import PhaseTable.Proofs.Text.LetterCase

namespace PhaseTable

set_option autoImplicit false

open Text

/-! ## Characters of numerals -/

theorem isDigit_iff {c : Char} : c.isDigit = true ↔ 48 ≤ c.toNat ∧ c.toNat ≤ 57 := by
  rw [Char.isDigit, Bool.and_eq_true, decide_eq_true_eq, decide_eq_true_eq]
  exact Iff.rfl

theorem isBlank_of_isDigit {c : Char} (digit : c.isDigit = true) : isBlank c = false := by
  have bounds := isDigit_iff.mp digit
  grind [isBlank]

/-- A mark is no capital and the small form of none. -/
theorem toLower_eq_iff {c mark : Char} (other : mark.toNat < 65) :
    c.toLower = mark ↔ c = mark := by
  rcases toLower_cases c with ⟨low, high, shifted⟩ | ⟨-, kept⟩
  · constructor
    · rintro rfl
      omega
    · rintro rfl
      omega
  · rw [kept]

theorem isDigit_toLower (c : Char) : c.toLower.isDigit = c.isDigit :=
  apply_toLower (by decide) c

theorem map_toLower_of_digits {cs : List Char} (digits : cs.all Char.isDigit = true) :
    cs.map Char.toLower = cs := by
  refine (List.map_congr_left fun c member => ?_).trans (List.map_id cs)
  have bounds := isDigit_iff.mp (List.all_eq_true.mp digits c member)
  rcases toLower_cases c with ⟨low, high, -⟩ | ⟨-, kept⟩
  · omega
  · exact kept

theorem plain_of_lt {c : Char} (low : c.toNat < 65) : plain c = true := by
  have kept : c.toLower = c := (toLower_eq_iff low).mpr rfl
  have other : c ≠ 'k' := by
    rintro rfl
    revert low
    decide
  simp only [plain, kept, Bool.and_eq_true, decide_eq_true_eq]
  exact ⟨by omega, other⟩

theorem all_plain_of_digits {cs : List Char} (digits : cs.all Char.isDigit = true) :
    cs.all plain = true := by
  rw [List.all_eq_true] at digits ⊢
  intro c member
  have bounds := isDigit_iff.mp (digits c member)
  exact plain_of_lt (by omega)

/-! ## Capitals and small letters -/

theorem readSign_of_ne {c : Char} (cs : List Char) (minus : c ≠ '-') (plus : c ≠ '+') :
    readSign (c :: cs) = (false, c :: cs) := by
  unfold readSign
  split
  · next same => exact absurd (List.cons.inj same).1 minus
  · next same => exact absurd (List.cons.inj same).1 plus
  · rfl

theorem readSign_map (cs : List Char) :
    readSign (cs.map Char.toLower) =
      ((readSign cs).1, (readSign cs).2.map Char.toLower) := by
  cases cs with
  | nil => rfl
  | cons c cs =>
      by_cases minus : c = '-'
      · subst minus
        rfl
      · by_cases plus : c = '+'
        · subst plus
          rfl
        · have noMinus : c.toLower ≠ '-' := by rwa [Ne, toLower_eq_iff (by decide)]
          have noPlus : c.toLower ≠ '+' := by rwa [Ne, toLower_eq_iff (by decide)]
          rw [readSign_of_ne cs minus plus, List.map_cons, readSign_of_ne _ noMinus noPlus]

theorem readInt?_map (cs : List Char) :
    readInt? (String.ofList (cs.map Char.toLower)) = readInt? (String.ofList cs) := by
  simp only [readInt?, String.toList_ofList, readSign_map]
  generalize (readSign cs).1 = negative
  generalize (readSign cs).2 = digits
  have same : (digits.map Char.toLower).all Char.isDigit = digits.all Char.isDigit := by
    simp only [List.all_map, Function.comp_def, isDigit_toLower]
  cases all_ : digits.all Char.isDigit with
  | true => rw [map_toLower_of_digits all_, all_]
  | false => simp [same, all_]

theorem spanDigits_map (cs : List Char) :
    Numeral.spanDigits (cs.map Char.toLower) =
      ((Numeral.spanDigits cs).1, (Numeral.spanDigits cs).2.map Char.toLower) := by
  have digits : (cs.takeWhile Char.isDigit).all Char.isDigit = true := List.all_takeWhile
  have same : Char.isDigit ∘ Char.toLower = Char.isDigit := funext isDigit_toLower
  rw [Numeral.spanDigits, List.takeWhile_map, List.dropWhile_map, same,
    map_toLower_of_digits digits]
  rfl

theorem readFraction_of_ne {c : Char} (cs : List Char) (point : c ≠ '.') :
    Numeral.readFraction (c :: cs) = ([], c :: cs) := by
  unfold Numeral.readFraction
  split
  · next same => exact absurd (List.cons.inj same).1 point
  · rfl

theorem readFraction_map (cs : List Char) :
    Numeral.readFraction (cs.map Char.toLower) =
      ((Numeral.readFraction cs).1, (Numeral.readFraction cs).2.map Char.toLower) := by
  cases cs with
  | nil => rfl
  | cons c cs =>
      by_cases point : c = '.'
      · subst point
        exact spanDigits_map cs
      · have noPoint : c.toLower ≠ '.' := by rwa [Ne, toLower_eq_iff (by decide)]
        rw [readFraction_of_ne cs point, List.map_cons, readFraction_of_ne _ noPoint]

theorem isExponentMark_toLower (c : Char) :
    (c.toLower = 'e' ∨ c.toLower = 'E') ↔ (c = 'e' ∨ c = 'E') :=
  decide_eq_decide.mp (apply_toLower (f := fun c => decide (c = 'e' ∨ c = 'E')) (by decide) c)

theorem readExponent?_map (cs : List Char) :
    Numeral.readExponent? (cs.map Char.toLower) = Numeral.readExponent? cs := by
  cases cs with
  | nil => rfl
  | cons c cs =>
      simp only [List.map_cons, Numeral.readExponent?, isExponentMark_toLower, readInt?_map]

/-- A numeral can be written in capitals and in small letters. -/
theorem read?_map (cs : List Char) :
    Numeral.read? (String.ofList (cs.map Char.toLower)) = Numeral.read? (String.ofList cs) := by
  simp only [Numeral.read?, String.toList_ofList, readSign_map, spanDigits_map, readFraction_map,
    readExponent?_map]

theorem readBinary64?_map (cs : List Char) :
    readBinary64? (String.ofList (cs.map Char.toLower)) = readBinary64? (String.ofList cs) := by
  have twice : Char.toLower ∘ Char.toLower = Char.toLower :=
    funext toLower_toLower
  simp only [readBinary64?, String.toList_ofList, readSign_map, sameIgnoringAsciiCase, List.map_map,
    twice, read?_map]

/-! ## The characters of what is read -/

theorem all_plain_readSign (cs : List Char) : (readSign cs).2.all plain = cs.all plain := by
  unfold readSign
  split
  · rw [List.all_cons, show plain '-' = true by decide, Bool.true_and]
  · rw [List.all_cons, show plain '+' = true by decide, Bool.true_and]
  · rfl

theorem plain_of_readInt? {cs : List Char} {i : Int}
    (read : readInt? (String.ofList cs) = some i) : cs.all plain = true := by
  simp only [readInt?, String.toList_ofList] at read
  split at read
  · next digits => rw [← all_plain_readSign, all_plain_of_digits digits.2]
  · cases read

/-- What is left after digits that were split off is plain only if all of it was. -/
theorem all_plain_spanDigits (cs : List Char) :
    (Numeral.spanDigits cs).2.all plain = cs.all plain := by
  have digits : (cs.takeWhile Char.isDigit).all plain = true :=
    all_plain_of_digits List.all_takeWhile
  conv_rhs => rw [← List.takeWhile_append_dropWhile (p := Char.isDigit) (l := cs)]
  rw [List.all_append, digits, Bool.true_and]
  rfl

theorem all_plain_readFraction (cs : List Char) :
    (Numeral.readFraction cs).2.all plain = cs.all plain := by
  unfold Numeral.readFraction
  split
  · rw [all_plain_spanDigits, List.all_cons, show plain '.' = true by decide, Bool.true_and]
  · rfl

theorem plain_of_readExponent? {cs : List Char} {e : Int}
    (read : Numeral.readExponent? cs = some e) : cs.all plain = true := by
  cases cs with
  | nil => rfl
  | cons c cs =>
      rw [Numeral.readExponent?] at read
      split at read
      · next mark =>
        have first : plain c = true := by rcases mark with rfl | rfl <;> decide
        rw [List.all_cons, first, plain_of_readInt? read, Bool.and_self]
      · cases read

theorem plain_of_read? {s : String} {n : Numeral} (read : Numeral.read? s = some n) :
    s.toList.all plain = true := by
  simp only [Numeral.read?] at read
  split at read
  · cases read
  · obtain ⟨e, exponent, -⟩ := Option.map_eq_some_iff.mp read
    rw [← all_plain_readSign, ← all_plain_spanDigits, ← all_plain_readFraction,
      plain_of_readExponent? exponent]

/-- Everything that is read as a number is written in plain characters. -/
theorem plain_of_readBinary64? {s : String} {x : Binary64} (read : readBinary64? s = some x) :
    s.toList.all plain = true := by
  have word : ∀ name : String, name.toList.all plain = true →
      sameIgnoringAsciiCase (String.ofList (readSign s.toList).2) name = true →
        s.toList.all plain = true := by
    intro name allPlain found
    have letters := plain_of_sameIgnoringAsciiCase allPlain found
    rwa [String.toList_ofList, all_plain_readSign] at letters
  simp only [readBinary64?] at read
  split at read
  · next infinite =>
    rcases Bool.or_eq_true _ _ |>.mp infinite with short | long
    · exact word "inf" (by decide) short
    · exact word "infinity" (by decide) long
  · split at read
    · next nan => exact word "nan" (by decide) nan
    · obtain ⟨n, numeral, -⟩ := Option.map_eq_some_iff.mp read
      exact plain_of_read? numeral

/-! ## Texts that are equal up to case -/

theorem readBinary64?_congr {s t : String} (same : foldText s = foldText t) :
    readBinary64? s = readBinary64? t := by
  have refuse : ∀ u : String, u.toList.all plain = false → readBinary64? u = none := by
    intro u other
    cases read : readBinary64? u with
    | none => rfl
    | some x =>
        rw [plain_of_readBinary64? read] at other
        cases other
  rcases plain_or_not same with ⟨-, -, letters⟩ | ⟨first, second⟩
  · rw [← String.ofList_toList (s := s), ← readBinary64?_map, letters, readBinary64?_map,
      String.ofList_toList]
  · rw [refuse s first, refuse t second]

/-- **Texts that are equal up to the case of their letters are one number, or none is.** -/
theorem parseNumber_congr {s t : String} (same : foldText s = foldText t) :
    parseNumber s = parseNumber t := by
  rw [parseNumber, parseNumber, readBinary64?_congr (trim_congr same)]

end PhaseTable
