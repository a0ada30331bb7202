/-
# PhaseTable.Proofs.Text.Search -- looking for a needle in a text that others were put into

A message is made of words of its own with texts of a user between them.  A needle does not begin
in a word that is `Apart` from it, and so in none that lacks its first character, and what begins in
the text before a word ends there unless the word goes on like the needle.  A word that does neither
`Stops` the needle: it occurs in the text before the word or in what follows it
(`contains_between`).
-/
import Mathlib.Data.List.Infix
import PhaseTable.Text.Pieces

namespace PhaseTable.Text

set_option autoImplicit false

/-! ## Characters -/

theorem occursIn_iff {needle cs : List Char} : occursIn needle cs = true ↔ needle <:+: cs := by
  induction cs with
  | nil => rw [occursIn, List.isEmpty_iff, List.infix_nil]
  | cons c cs ih =>
      rw [occursIn, Bool.or_eq_true, List.isPrefixOf_iff_prefix, ih, List.infix_cons_iff]

section Needle

variable {c : Char} {needle q w r : List Char}

/-- No end of the word begins a needle, or has one at its beginning. -/
def Apart (needle w : List Char) : Prop :=
  ∀ rest ∈ w.tails, rest ≠ [] → ¬ rest <+: needle ∧ ¬ needle <+: rest

instance (needle w : List Char) : Decidable (Apart needle w) :=
  inferInstanceAs (Decidable (∀ rest ∈ w.tails, _))

/-- A needle does not begin in a word that is apart from it. -/
theorem infix_append_iff_of_apart (apart : Apart needle w) :
    needle <:+: w ++ r ↔ needle <:+: r := by
  induction w with
  | nil => rw [List.nil_append]
  | cons d w ih =>
      have here : ¬ needle <+: d :: (w ++ r) := by
        intro begins
        have both := apart _ ((List.mem_tails _ _).mpr List.suffix_rfl) (List.cons_ne_nil d w)
        rcases List.prefix_or_prefix_of_prefix (List.prefix_append (d :: w) r) begins with
          into | past
        · exact both.1 into
        · exact both.2 past
      have later : Apart needle w :=
        fun rest ends => apart rest ((List.mem_tails _ _).mpr
          (((List.mem_tails _ _).mp ends).trans (List.suffix_cons d w)))
      rw [List.cons_append, List.infix_cons_iff, ih later, or_iff_right here]

/-- A needle does not begin in a word that lacks its first character. -/
theorem infix_append_iff_of_absent (absent : c ∉ w) :
    c :: needle <:+: w ++ r ↔ c :: needle <:+: r := by
  refine infix_append_iff_of_apart fun rest ends filled => ?_
  obtain ⟨d, ds, rfl⟩ := List.exists_cons_of_ne_nil filled
  have inside : d ∈ w := ((List.mem_tails _ _).mp ends).subset List.mem_cons_self
  have other : c ≠ d := fun same => absent (same ▸ inside)
  simp [List.cons_prefix_cons, other, other.symm]

/-- The word lacks the first character of the needle, and no end of the needle goes on in it. -/
def Stops (needle w : List Char) : Prop :=
  needle.head?.all (· ∉ w) = true ∧
    ∀ rest ∈ needle.tail.tails, rest ≠ [] → ¬ rest <+: w ∧ ¬ w <+: rest

instance (needle w : List Char) : Decidable (Stops needle w) :=
  inferInstanceAs (Decidable (_ ∧ _))

/-- A needle that a word stops does not reach over it. -/
theorem infix_between_iff (stops : Stops (c :: needle) w) :
    c :: needle <:+: q ++ (w ++ r) ↔ c :: needle <:+: q ∨ c :: needle <:+: r := by
  obtain ⟨absent, apart⟩ := stops
  have absent : c ∉ w := by simpa using absent
  constructor
  · rintro ⟨before, after, same⟩
    rw [List.append_assoc, List.append_eq_append_iff] at same
    rcases same with ⟨inside, rfl, same⟩ | ⟨inside, rfl, same⟩
    · cases inside with
      | nil => exact .inr ((infix_append_iff_of_absent absent).mp ⟨[], after, same⟩)
      | cons d inside =>
          -- the needle begins before the word, so it ends there
          obtain ⟨rfl, goesOn⟩ := List.cons.inj same
          left
          rcases List.append_eq_append_iff.mp goesOn with ⟨more, rfl, -⟩ | ⟨rest, rfl, beyond⟩
          · exact ⟨before, more, by simp⟩
          · cases rest with
            | nil => exact ⟨before, [], by simp⟩
            | cons e rest =>
                have listed : e :: rest ∈ (c :: (inside ++ e :: rest)).tail.tails :=
                  (List.mem_tails _ _).mpr (List.suffix_append _ _)
                have neither := apart _ listed (List.cons_ne_nil _ _)
                have starts : e :: rest <+: w ++ r := ⟨after, beyond.symm⟩
                rcases List.prefix_or_prefix_of_prefix starts (List.prefix_append w r) with
                  into | past
                · exact absurd into neither.1
                · exact absurd past neither.2
    · exact .inr ((infix_append_iff_of_absent absent).mp ⟨inside, after, by simp [same]⟩)
  · rintro (inside | inside)
    · exact inside.trans (List.prefix_append _ _).isInfix
    · exact inside.trans ((List.suffix_append _ _).trans (List.suffix_append _ _)).isInfix

end Needle

/-! ## Texts -/

theorem contains_iff {s needle : String} : contains s needle = true ↔ needle.toList <:+: s.toList :=
  occursIn_iff

theorem contains_append_of_left {s t needle : String} (found : contains s needle = true) :
    contains (s ++ t) needle = true := by
  rw [contains_iff] at found ⊢
  rw [String.toList_append]
  exact found.trans (List.prefix_append _ _).isInfix

theorem contains_append_of_right {s t needle : String} (found : contains t needle = true) :
    contains (s ++ t) needle = true := by
  rw [contains_iff] at found ⊢
  rw [String.toList_append]
  exact found.trans (List.suffix_append _ _).isInfix

section Word

variable {s w r needle : String}

theorem contains_append_of_apart (apart : Apart needle.toList w.toList) :
    contains (w ++ r) needle = contains r needle := by
  rw [Bool.eq_iff_iff, contains_iff, contains_iff, String.toList_append,
    infix_append_iff_of_apart apart]

theorem contains_append_of_absent (absent : ∀ c ∈ needle.toList.head?, c ∉ w.toList)
    (some_ : needle ≠ "") : contains (w ++ r) needle = contains r needle := by
  rw [Bool.eq_iff_iff, contains_iff, contains_iff, String.toList_append]
  cases letters : needle.toList with
  | nil => exact absurd (String.toList_eq_nil_iff.mp letters) some_
  | cons c rest => exact infix_append_iff_of_absent (absent c (by rw [letters]; rfl))

theorem contains_between (stops : Stops needle.toList w.toList) (some_ : needle ≠ "") :
    contains (s ++ (w ++ r)) needle = (contains s needle || contains r needle) := by
  rw [Bool.eq_iff_iff, Bool.or_eq_true, contains_iff, contains_iff, contains_iff,
    String.toList_append, String.toList_append]
  cases letters : needle.toList with
  | nil => exact absurd (String.toList_eq_nil_iff.mp letters) some_
  | cons c rest => exact infix_between_iff (letters ▸ stops)

end Word

end PhaseTable.Text
