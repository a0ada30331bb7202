/-
# PhaseTable.Proofs.Text.Trimming -- what trimming leaves alone

A text that trimming leaves alone has no blank at either end
(`trimChars_eq_self_iff`), and what trimming returns is such a text
(`trim_trim`).  So `nonBlank?` fails on blank texts only, returns `Trimmed` ones
and is the identity on them.  Folding ASCII letters keeps blanks where they are, so
a text that equals a trimmed one up to case is trimmed.
-/
import Mathlib.Data.List.DropRight
import PhaseTable.Text.Blank
import PhaseTable.Text.LowerCase

namespace PhaseTable.Text

set_option autoImplicit false

/-! ## Characters -/

theorem trimChars_eq_rdropWhile (cs : List Char) :
    trimChars cs = (cs.dropWhile isBlank).rdropWhile isBlank := rfl

/-- What trimming leaves alone: characters without a blank at either end. -/
theorem trimChars_eq_self_iff {cs : List Char} :
    trimChars cs = cs ↔ cs.dropWhile isBlank = cs ∧ cs.rdropWhile isBlank = cs := by
  rw [trimChars_eq_rdropWhile]
  constructor
  · intro trimmed
    have front := List.dropWhile_suffix (l := cs) isBlank
    have back := List.rdropWhile_prefix isBlank (cs.dropWhile isBlank)
    have kept : cs.dropWhile isBlank = cs := by
      apply front.eq_of_length
      have shorter := back.length_le
      rw [trimmed] at shorter
      exact le_antisymm front.length_le shorter
    rw [kept] at trimmed
    exact ⟨kept, trimmed⟩
  · rintro ⟨front, back⟩
    rw [front, back]

theorem dropWhile_eq_self_of_prefix {p : Char → Bool} {cs ds : List Char} (start : cs <+: ds)
    (kept : ds.dropWhile p = ds) : cs.dropWhile p = cs := by
  cases cs with
  | nil => rfl
  | cons c cs =>
      obtain ⟨rest, rfl⟩ := start
      cases first : p c with
      | false => rw [List.dropWhile_cons_of_neg (by simp [first])]
      | true =>
          have shorter := (List.dropWhile_suffix (l := cs ++ rest) p).length_le
          rw [List.cons_append, List.dropWhile_cons_of_pos first] at kept
          rw [kept, List.length_cons] at shorter
          omega

theorem trimChars_isInfix (cs : List Char) : trimChars cs <:+: cs :=
  (List.rdropWhile_prefix _ _).isInfix.trans (List.dropWhile_suffix _).isInfix

theorem trimChars_trimChars (cs : List Char) : trimChars (trimChars cs) = trimChars cs := by
  refine trimChars_eq_self_iff.mpr ⟨?_, List.rdropWhile_idempotent isBlank _⟩
  exact dropWhile_eq_self_of_prefix (List.rdropWhile_prefix isBlank _)
    (List.dropWhile_idempotent isBlank cs)

theorem trimChars_eq_nil_iff {cs : List Char} :
    trimChars cs = [] ↔ ∀ c ∈ cs, isBlank c = true := by
  rw [trimChars_eq_rdropWhile, List.rdropWhile_eq_nil_iff]
  constructor
  · intro dropped
    by_contra some_
    obtain ⟨c, rest, found⟩ : ∃ c rest, cs.dropWhile isBlank = c :: rest := by
      apply List.exists_cons_of_ne_nil
      rwa [Ne, List.dropWhile_eq_nil_iff]
    have first := List.head_dropWhile_not isBlank (l := cs) (by simp [found])
    simp only [found, List.head_cons] at first
    have idle := dropped c (by simp [found])
    rw [first] at idle
    cases idle
  · intro blanks c member
    exact blanks c ((List.dropWhile_suffix isBlank).subset member)

/-! ## Texts -/

theorem toList_trim (s : String) : (trim s).toList = trimChars s.toList := by
  rw [trim, String.toList_ofList]

theorem trim_eq_self_iff {s : String} : trim s = s ↔ trimChars s.toList = s.toList := by
  rw [← toList_trim, String.toList_inj]

@[simp] theorem trim_trim (s : String) : trim (trim s) = trim s := by
  rw [trim_eq_self_iff, toList_trim, trimChars_trimChars]

theorem blank_iff_trim_eq_empty {s : String} : blank s = true ↔ trim s = "" := by
  rw [← String.toList_inj, toList_trim, String.toList_empty, trimChars_eq_nil_iff, blank,
    List.all_eq_true]

@[simp] theorem blank_empty : blank "" = true := rfl

theorem Trimmed.not_blank {s : String} (trimmed : Trimmed s) : blank s = false := by
  rw [Bool.eq_false_iff, Ne, blank_iff_trim_eq_empty, trimmed.1]
  exact trimmed.2

/-- Trimming cuts nothing off a text without blanks. -/
theorem trimmed_of_solid {s : String} (solid : ∀ c ∈ s.toList, isBlank c = false)
    (nonempty : s.toList ≠ []) : Trimmed s := by
  refine ⟨?_, fun empty => nonempty (String.toList_eq_nil_iff.mpr empty)⟩
  rw [trim_eq_self_iff, trimChars_eq_self_iff]
  constructor
  · obtain ⟨c, rest, starts⟩ := List.exists_cons_of_ne_nil nonempty
    have first : isBlank c = false := solid c (starts ▸ List.mem_cons_self)
    rw [starts, List.dropWhile_cons_of_neg (by simp [first])]
  · rw [List.rdropWhile_eq_self_iff]
    intro some_
    rw [solid _ (List.getLast_mem some_)]
    exact Bool.false_ne_true

theorem Trimmed.toList_ne_nil {s : String} (trimmed : Trimmed s) : s.toList ≠ [] :=
  fun empty => trimmed.2 (String.toList_eq_nil_iff.mp empty)

theorem Trimmed.append {s t : String} (first : Trimmed s) (second : Trimmed t) :
    Trimmed (s ++ t) := by
  obtain ⟨front, -⟩ := trimChars_eq_self_iff.mp (trim_eq_self_iff.mp first.1)
  obtain ⟨-, back⟩ := trimChars_eq_self_iff.mp (trim_eq_self_iff.mp second.1)
  have nonempty : s.toList ++ t.toList ≠ [] := by simp [first.toList_ne_nil]
  refine ⟨?_, fun empty => nonempty ?_⟩
  · rw [trim_eq_self_iff, trimChars_eq_self_iff, String.toList_append]
    refine ⟨?_, ?_⟩
    · obtain ⟨c, cs, starts⟩ := List.exists_cons_of_ne_nil first.toList_ne_nil
      rw [starts, List.dropWhile_eq_self_iff] at front
      rw [starts, List.dropWhile_eq_self_iff]
      simpa using front
    · rw [List.rdropWhile_eq_self_iff] at back ⊢
      intro _
      rw [List.getLast_append_of_ne_nil _ second.toList_ne_nil]
      exact back second.toList_ne_nil
  · rw [← String.toList_append, empty, String.toList_empty]

/-! ## Texts that are not blank -/

theorem nonBlank?_eq_some_iff {s t : String} : nonBlank? s = some t ↔ trim s = t ∧ t ≠ "" := by
  simp only [nonBlank?]
  split
  · next empty => simp [empty, eq_comm]
  · next text =>
    rw [Option.some.injEq]
    exact ⟨fun same => ⟨same, same ▸ text⟩, And.left⟩

theorem trimmed_of_nonBlank? {s t : String} (found : nonBlank? s = some t) : Trimmed t := by
  obtain ⟨rfl, text⟩ := nonBlank?_eq_some_iff.mp found
  exact ⟨trim_trim s, text⟩

theorem nonBlank?_eq_none_iff {s : String} : nonBlank? s = none ↔ blank s = true := by
  rw [blank_iff_trim_eq_empty, nonBlank?]
  split
  · next empty => exact iff_of_true rfl empty
  · next text => exact iff_of_false (Option.some_ne_none _) text

theorem nonBlank?_of_not_blank {s : String} (text : blank s = false) :
    nonBlank? s = some (trim s) := by
  refine nonBlank?_eq_some_iff.mpr ⟨rfl, fun empty => ?_⟩
  rw [blank_iff_trim_eq_empty.mpr empty] at text
  cases text

theorem Trimmed.nonBlank? {s : String} (trimmed : Trimmed s) : nonBlank? s = some s :=
  nonBlank?_eq_some_iff.mpr trimmed

@[simp] theorem nonBlank?_empty : nonBlank? "" = none := rfl

/-! ## Case -/

/-- Folding adds 32 to the code point of a capital from A to Z, and keeps any other character. -/
theorem toLower_cases (c : Char) :
    (65 ≤ c.toNat ∧ c.toNat ≤ 90 ∧ c.toLower.toNat = c.toNat + 32) ∨
      ((c.toNat < 65 ∨ 90 < c.toNat) ∧ c.toLower = c) := by
  by_cases capital : 'A'.val ≤ c.val ∧ c.val ≤ 'Z'.val
  · have bounds : 65 ≤ c.toNat ∧ c.toNat ≤ 90 := capital
    have shifted : c.toLower.toNat = (c.toNat + 32) % 2 ^ 32 :=
      congrArg Char.toNat (dif_pos capital)
    exact .inl ⟨bounds.1, bounds.2, by omega⟩
  · have bounds : ¬ (65 ≤ c.toNat ∧ c.toNat ≤ 90) := capital
    exact .inr ⟨by omega, dif_neg capital⟩

/-- What treats each capital from A to Z like its small letter does not see folding. -/
theorem apply_toLower {α : Type} {f : Char → α}
    (alike : ∀ k < 26, f (Char.ofNat (97 + k)) = f (Char.ofNat (65 + k))) (c : Char) :
    f c.toLower = f c := by
  rcases toLower_cases c with ⟨low, high, shifted⟩ | ⟨-, kept⟩
  · obtain ⟨k, capital⟩ := Nat.exists_eq_add_of_le low
    have small : 97 + k = c.toLower.toNat := by omega
    have letter := alike k (by omega)
    rwa [← capital, small, Char.ofNat_toNat, Char.ofNat_toNat] at letter
  · rw [kept]

theorem toLower_toLower (c : Char) : c.toLower.toLower = c.toLower :=
  apply_toLower (by decide) c

theorem isBlank_toLower (c : Char) : isBlank c.toLower = isBlank c :=
  apply_toLower (by decide) c

theorem trimChars_map {f : Char → Char} (blanks : ∀ c, isBlank (f c) = isBlank c)
    (cs : List Char) : trimChars (cs.map f) = (trimChars cs).map f := by
  have same : isBlank ∘ f = isBlank := funext blanks
  simp only [trimChars, List.dropWhile_map, ← List.map_reverse, same]

theorem sameIgnoringAsciiCase_iff {s t : String} :
    sameIgnoringAsciiCase s t = true ↔ asciiLower s = asciiLower t := by
  rw [sameIgnoringAsciiCase, beq_iff_eq, asciiLower, asciiLower, String.ofList_inj]

@[simp] theorem sameIgnoringAsciiCase_self (s : String) : sameIgnoringAsciiCase s s = true :=
  sameIgnoringAsciiCase_iff.mpr rfl

/-- Trimming looks at blanks only, so a text that equals a trimmed one up to case is trimmed. -/
theorem Trimmed.of_sameIgnoringAsciiCase {s t : String} (trimmed : Trimmed t)
    (same : sameIgnoringAsciiCase s t = true) : Trimmed s := by
  rw [sameIgnoringAsciiCase, beq_iff_eq] at same
  refine ⟨?_, ?_⟩
  · have kept : (trimChars s.toList).map Char.toLower = s.toList.map Char.toLower := by
      rw [← trimChars_map isBlank_toLower, same, trimChars_map isBlank_toLower,
        trim_eq_self_iff.mp trimmed.1]
    rw [trim_eq_self_iff]
    apply (trimChars_isInfix _).eq_of_length
    simpa using congrArg List.length kept
  · rintro rfl
    have empty : t.toList = [] := by simpa using same.symm
    exact trimmed.2 (String.toList_eq_nil_iff.mp empty)

end PhaseTable.Text
