/-
# PhaseTable.Proofs.Reduction.DistinctValues -- different values in one text are read again

A cell of different values lists their texts, each where it is first seen in lower case, with a
semicolon and a space between two of them.  Texts of values have no separators and no blank ends,
if the values that are texts have none.  So the list that is read from the cell is the list that was
written in it (`Aggregate.splitValues_reduce`).
-/
import PhaseTable.Proofs.Cell.TextForm
import PhaseTable.Proofs.Reduction

namespace PhaseTable

set_option autoImplicit false

open Text

namespace Cell

theorem display_text (s : String) : (text s).display = trim s := by
  rw [text]
  cases found : nonBlank? s with
  | none => exact (blank_iff_trim_eq_empty.mp (nonBlank?_eq_none_iff.mp found)).symm
  | some t => exact (nonBlank?_eq_some_iff.mp found).1.symm

theorem hasValue_iff {c : Cell} : c.hasValue = true ↔ c ≠ .empty := by
  cases c with
  | empty => exact iff_of_false nofun (fun valued => valued rfl)
  | string _ | number _ | integer _ | boolean _ => exact iff_of_true rfl nofun

section Distinct

variable {cells : List Cell} (texts : ∀ s, .string s ∈ cells → Listable s)

include texts

/-- The texts of the values are not blank, so it is the empty cells that are left out. -/
theorem distinctTexts_eq :
    distinctTexts cells = distinctBy lowerCase ((cells.filter hasValue).map display) := by
  rw [distinctTexts, List.filter_map]
  refine congrArg (fun kept => distinctBy lowerCase (kept.map display))
    (List.filter_congr fun c listed => ?_)
  by_cases valued : c = .empty
  · rw [valued]
    decide
  · have shown := listable_display valued fun s same => texts s (same ▸ listed)
    rw [Function.comp_apply, shown.1.not_blank, hasValue_iff.mpr valued]
    rfl

theorem listable_distinctTexts : ∀ s ∈ distinctTexts cells, Listable s := by
  intro s listed
  rw [distinctTexts_eq texts] at listed
  obtain ⟨c, member, rfl⟩ := List.mem_map.mp ((distinctBy_sublist _).subset listed)
  obtain ⟨among, valued⟩ := List.mem_filter.mp member
  exact listable_display (hasValue_iff.mp valued) fun s same => texts s (same ▸ among)

/-- **The texts are read from the cell again.** -/
theorem splitValues_distinctOf : splitValues (distinctOf cells).display = distinctTexts cells := by
  rw [distinctOf, display_text, splitValues_trim]
  by_cases none_ : distinctTexts cells = []
  · rw [none_]
    decide
  · have between : distinctSeparator.toList = ';' :: [' '] := rfl
    have space : ∀ c ∈ [' '], isBlank c = true := List.forall_mem_singleton.mpr rfl
    have joined := joined_intercalate between (by decide) space none_
    exact splitValues_of_joined joined (listable_distinctTexts texts)
      (List.Nodup.of_map lowerCase (nodup_distinctBy _))

theorem distinctOf_eq_empty_iff : distinctOf cells = .empty ↔ ∀ c ∈ cells, c = .empty := by
  refine ⟨fun vacant c listed => ?_, distinctOf_of_empty⟩
  by_contra valued
  have shown : c.display ∈ (cells.filter hasValue).map display :=
    List.mem_map_of_mem (List.mem_filter.mpr ⟨listed, hasValue_iff.mpr valued⟩)
  obtain ⟨s, kept, -⟩ : ∃ s ∈ distinctBy lowerCase ((cells.filter hasValue).map display),
      lowerCase s = lowerCase c.display := exists_kept_of_mem shown
  have nothing : splitValues empty.display = [] := by decide
  rw [← distinctTexts_eq texts, ← splitValues_distinctOf texts, vacant, nothing] at kept
  cases kept

end Distinct

end Cell

namespace Aggregate

open Cell

/-- **The different values are read from their cell again**, and it is empty only if there are
none. -/
theorem splitValues_reduce {cells : List Cell} (texts : ∀ s, .string s ∈ cells → Listable s)
    (objectCount : Nat) :
    splitValues (Aggregate.distinct.reduce cells objectCount).display =
        firstsBy lowerCase ((cells.filter hasValue).map display) ∧
      (Aggregate.distinct.reduce cells objectCount = .empty ↔ ∀ c ∈ cells, c = .empty) := by
  rw [reduce]
  refine ⟨?_, distinctOf_eq_empty_iff texts⟩
  rw [splitValues_distinctOf texts, distinctTexts_eq texts, distinctBy_eq_firstsBy]

/-- Steel grades in both letter cases, an empty cell and an integer. -/
theorem splitValues_reduce_grades :
    (∀ s, .string s ∈ [string "S355", .empty, .string "s355", .integer 12] → Listable s) ∧
      splitValues (Aggregate.distinct.reduce
          [.string "S355", .empty, .string "s355", .integer 12] 4).display = ["S355", "12"] ∧
      (Aggregate.distinct.reduce [.string "S355", .empty, .string "s355", .integer 12] 4 = .empty ↔
        ∀ c ∈ [string "S355", .empty, .string "s355", .integer 12], c = .empty) := by
  have texts : ∀ s, .string s ∈ [string "S355", .empty, .string "s355", .integer 12] →
      Listable s := by
    intro s listed
    simp only [List.mem_cons, string.injEq, reduceCtorEq, List.not_mem_nil, or_false,
      false_or] at listed
    rcases listed with rfl | rfl
    · decide
    · decide
  obtain ⟨read, vacant⟩ := splitValues_reduce texts 4
  have firsts : firstsBy lowerCase (([string "S355", .empty, .string "s355", .integer 12].filter
      hasValue).map display) = ["S355", "12"] := by decide +kernel
  exact ⟨texts, read.trans firsts, vacant⟩

end Aggregate

end PhaseTable
