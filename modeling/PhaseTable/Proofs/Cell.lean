/-
# PhaseTable.Proofs.Cell -- conversions of typed values

A conversion gives a cell of the type that is asked for, or an empty one (`ofType_convert`).  Only
the conversion of a text to a text leaves a text as it is; every other text comes in trimmed
(`tidy_convert_iff`).

A 32-bit integer may have become a number or a text before it is converted.  That makes no
difference to what it is converted to (`convert_number_int32`, `convert_text_int32`), but for one
case: numbers are true unless they are zero, and of texts only the words for true are.
-/
import PhaseTable.Cell
import PhaseTable.Proofs.Number.IntegerTexts

namespace PhaseTable

set_option autoImplicit false

open Text

/-- An integer is among words of which only one is read as an integer. -/
theorem any_sameIgnoringAsciiCase_intText (i : Int) {words : List String} {j : Int}
    (small : ∀ word ∈ words, asciiLower word = word) (read : words.filterMap readInt? = [j])
    (listed : intText j ∈ words) :
    words.any (sameIgnoringAsciiCase (intText i)) = decide (i = j) := by
  rw [Bool.eq_iff_iff, List.any_eq_true, decide_eq_true_eq]
  constructor
  · rintro ⟨word, member, same⟩
    rw [sameIgnoringAsciiCase_intText i (small word member), decide_eq_true_eq] at same
    have found : i ∈ words.filterMap readInt? :=
      List.mem_filterMap.mpr ⟨word, member, same ▸ readInt?_intText i⟩
    rw [read] at found
    exact List.mem_singleton.mp found
  · rintro rfl
    refine ⟨intText i, listed, ?_⟩
    rw [sameIgnoringAsciiCase_intText i (small _ listed), decide_eq_true_eq]

/-- Of the texts of integers only those of 1 and 0 are words for true and false. -/
theorem parseBool_intText (i : Int) :
    parseBool (intText i) = if i = 1 then some true else if i = 0 then some false else none := by
  have true_ : trueWords.any (sameIgnoringAsciiCase (intText i)) = decide (i = 1) :=
    any_sameIgnoringAsciiCase_intText i (by decide) (by decide) (by decide)
  have false_ : falseWords.any (sameIgnoringAsciiCase (intText i)) = decide (i = 0) :=
    any_sameIgnoringAsciiCase_intText i (by decide) (by decide) (by decide)
  simp only [parseBool, (trimmed_intText i).1, true_, false_, decide_eq_true_eq]

namespace Cell

/-! ## Conversions -/

section Conversions

variable {c : Cell}

theorem convert_self {t : ValueType} (same : c.valueType? = some t) : c.convert t = c := by
  rw [convert.eq_def, if_pos same]

theorem convert_string (other : c.valueType? ≠ some .string) :
    c.convert .string = text c.display :=
  if_neg other

theorem convert_number (other : c.valueType? ≠ some .number) :
    c.convert .number = c.asNumber.elim .empty .number :=
  if_neg other

theorem convert_integer (other : c.valueType? ≠ some .integer) :
    c.convert .integer = c.asInteger.elim .empty .integer :=
  if_neg other

theorem convert_boolean (other : c.valueType? ≠ some .boolean) :
    c.convert .boolean = c.asBool.elim .empty .boolean :=
  if_neg other

end Conversions

/-- The cell is empty or has a value of the type. -/
def OfType (c : Cell) (t : ValueType) : Prop :=
  c = .empty ∨ c.valueType? = some t

instance (c : Cell) (t : ValueType) : Decidable (c.OfType t) :=
  inferInstanceAs (Decidable (_ ∨ _))

theorem ofType_elim {α : Type} {make : α → Cell} {t : ValueType}
    (typed : ∀ a, (make a).valueType? = some t) (found : Option α) :
    (found.elim .empty make).OfType t := by
  cases found with
  | none => exact .inl rfl
  | some a => exact .inr (typed a)

/-- **A cell that is converted to a type has that type or is empty.** -/
theorem ofType_convert (c : Cell) (t : ValueType) : (c.convert t).OfType t := by
  by_cases same : c.valueType? = some t
  · rw [convert_self same]
    exact .inr same
  · cases t with
    | string =>
        rw [convert_string same]
        exact ofType_elim (fun _ => rfl) _
    | number =>
        rw [convert_number same]
        exact ofType_elim (fun _ => rfl) _
    | integer =>
        rw [convert_integer same]
        exact ofType_elim (fun _ => rfl) _
    | boolean =>
        rw [convert_boolean same]
        exact ofType_elim (fun _ => rfl) _

@[simp] theorem convert_empty (t : ValueType) : empty.convert t = .empty := by
  cases t with
  | string => decide
  | number | integer | boolean => rfl

/-! ## Tidy texts -/

theorem tidy_text (s : String) : (text s).Tidy := by
  rw [text]
  cases found : nonBlank? s with
  | none => trivial
  | some t => exact trimmed_of_nonBlank? found

/-- Only texts can be untidy. -/
theorem tidy_of_valueType? {c : Cell} (other : c.valueType? ≠ some .string) : c.Tidy := by
  cases c with
  | string s => exact absurd rfl other
  | empty | number _ | integer _ | boolean _ => trivial

theorem OfType.tidy {c : Cell} {t : ValueType} (typed : c.OfType t) (other : t ≠ .string) :
    c.Tidy := by
  rcases typed with rfl | same
  · trivial
  · refine tidy_of_valueType? ?_
    rw [same]
    exact fun equal => other (Option.some.inj equal)

/-- **A conversion gives an untidy text only from an untidy text**, and only as a text. -/
theorem tidy_convert_iff {c : Cell} {t : ValueType} :
    (c.convert t).Tidy ↔ (t = .string → c.Tidy) := by
  by_cases texts : t = .string
  · subst texts
    rw [forall_prop_of_true rfl]
    by_cases same : c.valueType? = some .string
    · rw [convert_self same]
    · rw [convert_string same]
      exact iff_of_true (tidy_text _) (tidy_of_valueType? same)
  · exact iff_of_true ((ofType_convert c t).tidy texts) fun same => absurd same texts

/-! ## Integers of 32 bits -/

theorem text_intText (i : Int) : text (intText i) = .string (intText i) := by
  rw [text, (trimmed_intText i).nonBlank?]
  rfl

theorem int64?_eq_some_iff {i : Int} {j : Int64} : int64? i = some j ↔ i = j.toInt := by
  have low : -9223372036854775808 ≤ j.toInt := j.minValue_le_toInt
  have high : j.toInt ≤ 9223372036854775807 := j.toInt_le
  rw [int64?]
  split
  · next bounds =>
    have same : (Int64.ofInt i).toInt = i := Int64.toInt_ofInt_of_le (by omega) (by omega)
    rw [Option.some.injEq, ← Int64.toInt_inj, same]
  · next bounds => exact iff_of_false nofun (by omega)

theorem int64?_eq_none_iff {i : Int} : int64? i = none ↔ i < -2 ^ 63 ∨ 2 ^ 63 ≤ i := by
  rw [int64?, ite_eq_right_iff]
  constructor
  · intro outside
    by_contra inside
    cases outside (by omega)
  · intro outside inside
    omega

theorem int64?_int32 (n : Int32) : int64? n.toInt = some n.toInt64 :=
  int64?_eq_some_iff.mpr n.toInt_toInt64.symm

theorem asNumber_ofInt32 (n : Int32) : (ofInt32 n).asNumber = some (.ofInt n.toInt) := by
  rw [ofInt32, asNumber, Int32.toInt_toInt64]

theorem display_ofInt32 (n : Int32) : (ofInt32 n).display = intText n.toInt := by
  rw [ofInt32, display, Int32.toInt_toInt64]

theorem toInt64_eq_iff {m n : Int32} : m.toInt64 = n.toInt64 ↔ m = n := by
  rw [← Int64.toInt_inj, Int32.toInt_toInt64, Int32.toInt_toInt64, Int32.toInt_inj]

/-- What the integer is converted to. -/
theorem convert_int32 (n : Int32) (t : ValueType) :
    (ofInt32 n).convert t =
      match t with
      | .string => .string (intText n.toInt)
      | .number => .number (.ofInt n.toInt)
      | .integer => .integer n.toInt64
      | .boolean => .boolean (decide (n ≠ 0)) := by
  cases t with
  | string =>
      rw [convert_string, display_ofInt32, text_intText]
      nofun
  | number =>
      rw [convert_number, asNumber_ofInt32, Option.elim_some]
      nofun
  | integer => exact convert_self rfl
  | boolean =>
      have zero_iff : n.toInt64 = 0 ↔ n = 0 := toInt64_eq_iff (n := 0)
      rw [convert_boolean, ofInt32, asBool, Option.elim_some]
      · simp only [ne_eq, zero_iff]
      · nofun

/-- **An integer that has become a number is converted like the integer.** -/
theorem convert_number_int32 (n : Int32) (t : ValueType) :
    (number (.ofInt n.toInt)).convert t = (ofInt32 n).convert t := by
  have small := Binary64.natAbs_int32_lt n
  rw [convert_int32]
  cases t with
  | string =>
      rw [convert_string, display, formatNumber_ofInt small, text_intText]
      nofun
  | number => exact convert_self rfl
  | integer =>
      rw [convert_integer, asInteger, Binary64.wholeNumber?, Binary64.toInt?_ofInt small,
        Option.bind_some, int64?_int32, Option.elim_some]
      nofun
  | boolean =>
      have zero_iff : n.toInt = 0 ↔ n = 0 := Int32.toInt_inj (y := 0)
      rw [convert_boolean, asBool, Binary64.exceedsEpsilon_ofInt small, Option.elim_some]
      · simp only [ne_eq, zero_iff]
      · nofun

/-- **An integer that has become a text is converted like the integer**, except that as a truth
value it is empty unless it is 0 or 1. -/
theorem convert_text_int32 (n : Int32) (t : ValueType) :
    (string (intText n.toInt)).convert t =
      if t = .boolean ∧ n ≠ 0 ∧ n ≠ 1 then .empty else (ofInt32 n).convert t := by
  have small := Binary64.natAbs_int32_lt n
  rw [convert_int32]
  cases t with
  | string => exact convert_self rfl
  | number =>
      rw [convert_number, asNumber, parseNumber_intText (Binary64.isFinite_ofInt small)]
      · rfl
      · nofun
  | integer =>
      rw [convert_integer, asInteger, (trimmed_intText _).1, parseInt64, readInt?_intText,
        Option.bind_some, int64?_int32]
      · rfl
      · nofun
  | boolean =>
      have one : n.toInt = 1 ↔ n = 1 := Int32.toInt_inj (y := 1)
      have zero_iff : n.toInt = 0 ↔ n = 0 := Int32.toInt_inj (y := 0)
      rw [convert_boolean, asBool, parseBool_intText]
      · simp only [one, zero_iff]
        by_cases isOne : n = 1
        · subst isOne
          rfl
        · by_cases isZero : n = 0
          · subst isZero
            rfl
          · simp [isOne, isZero]
      · nofun

end Cell

end PhaseTable
