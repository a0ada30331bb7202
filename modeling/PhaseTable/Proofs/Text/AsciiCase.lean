/-
# PhaseTable.Proofs.Text.AsciiCase -- lower case does not see the case of ASCII letters

Keys are made unique by `lowerCase` and looked up by `sameIgnoringAsciiCase`.  The look-up tells
no more keys apart: texts that differ in the case of ASCII letters only have one lower case
(`lowerCase_congr`).  A small letter stands where its capital stood: it has the same small form,
has a case as well, and neither is looked through when the end of a word is sought, so each Σ
in the text becomes the same letter.
-/
import PhaseTable.Proofs.Text.Trimming
import PhaseTable.Text.LowerCase

namespace PhaseTable.Text

set_option autoImplicit false

/-- Folding is lower case as the library has it, but on a list of characters, which evaluates. -/
theorem asciiLower_eq_toLower (s : String) : asciiLower s = s.toLower := by
  rw [← String.toList_inj, asciiLower, String.toList_ofList]
  exact String.toList_map.symm

-- The tables hold the capitals A to Z and their small letters alike.

theorem caseIgnorable_toLower (c : Char) : caseIgnorable c.toLower = caseIgnorable c :=
  apply_toLower (by decide +kernel) c

theorem cased_toLower (c : Char) : cased c.toLower = cased c :=
  apply_toLower (by decide +kernel) c

theorem lowerChar_toLower (c : Char) : lowerChar c.toLower = lowerChar c :=
  apply_toLower (by decide) c

/-- Σ is not an ASCII letter, and no other character is folded to it. -/
theorem toLower_eq_sigma_iff {c : Char} : c.toLower = 'Σ' ↔ c = 'Σ' :=
  decide_eq_decide.mp (apply_toLower (f := fun c => decide (c = 'Σ')) (by decide) c)

theorem meetsLetter_map (cs : List Char) :
    meetsLetter (cs.map Char.toLower) = meetsLetter cs := by
  have ignored : caseIgnorable ∘ Char.toLower = caseIgnorable :=
    funext caseIgnorable_toLower
  rw [meetsLetter, meetsLetter, List.dropWhile_map, ignored]
  cases cs.dropWhile caseIgnorable with
  | nil => rfl
  | cons c _ => exact cased_toLower c

/-- The small form of a text is that of its folded form, after any characters or their folded
forms. -/
theorem lowerAfter_map (before cs : List Char) :
    lowerAfter (before.map Char.toLower) (cs.map Char.toLower) = lowerAfter before cs := by
  induction cs generalizing before with
  | nil => rfl
  | cons c rest ih =>
      have ends : endsWord (before.map Char.toLower) (rest.map Char.toLower) =
          endsWord before rest := by
        rw [endsWord, endsWord, meetsLetter_map, meetsLetter_map]
      rw [List.map_cons, lowerAfter, lowerAfter, ← List.map_cons, ih, ends,
        lowerChar_toLower]
      simp only [toLower_eq_sigma_iff]

/-- **Texts that differ in the case of ASCII letters only have the same lower case.** -/
theorem lowerCase_congr {s t : String} (same : sameIgnoringAsciiCase s t = true) :
    lowerCase s = lowerCase t := by
  rw [sameIgnoringAsciiCase, beq_iff_eq] at same
  rw [lowerCase, lowerCase, ← lowerAfter_map [] s.toList, same, lowerAfter_map]

end PhaseTable.Text
