/-
# PhaseTable.Proofs.Text.Pieces -- the values of a list that is written in a text

What is read from a list is trimmed and not blank (`trimmed_of_mem_splitValues`), and
nothing is read from it only if all of its pieces are blank (`splitValues_eq_nil_iff`).
-/
import PhaseTable.Proofs.Text.Distinct
import PhaseTable.Proofs.Text.Trimming

namespace PhaseTable.Text

set_option autoImplicit false

theorem mem_distinctNonBlank {texts : List String} {v : String} :
    v ∈ distinctNonBlank texts ↔ ∃ t ∈ texts, nonBlank? t = some v := by
  rw [distinctNonBlank, mem_distinct, List.mem_filterMap]

theorem trimmed_of_mem_distinctNonBlank {texts : List String} {v : String}
    (listed : v ∈ distinctNonBlank texts) : Trimmed v := by
  obtain ⟨t, -, found⟩ := mem_distinctNonBlank.mp listed
  exact trimmed_of_nonBlank? found

theorem distinctNonBlank_eq_nil_iff {texts : List String} :
    distinctNonBlank texts = [] ↔ ∀ t ∈ texts, blank t = true := by
  rw [List.eq_nil_iff_forall_not_mem]
  constructor
  · intro none_ t listed
    rw [← nonBlank?_eq_none_iff, Option.eq_none_iff_forall_ne_some]
    exact fun v found => none_ v (mem_distinctNonBlank.mpr ⟨t, listed, found⟩)
  · intro blanks v listed
    obtain ⟨t, member, found⟩ := mem_distinctNonBlank.mp listed
    rw [nonBlank?_eq_none_iff.mpr (blanks t member)] at found
    cases found

theorem trimmed_of_mem_splitValues {s v : String} (listed : v ∈ splitValues s) : Trimmed v :=
  trimmed_of_mem_distinctNonBlank listed

theorem splitValues_eq_nil_iff {s : String} :
    splitValues s = [] ↔ ∀ piece ∈ pieces s.toList, ∀ c ∈ piece, isBlank c = true := by
  simp only [splitValues, distinctNonBlank_eq_nil_iff, List.forall_mem_map, blank,
    String.toList_ofList, List.all_eq_true]

theorem filterMap_nonBlank?_of_trimmed {texts : List String}
    (trimmed : ∀ s ∈ texts, Trimmed s) : texts.filterMap nonBlank? = texts := by
  rw [List.filterMap_congr fun s member => (trimmed s member).nonBlank?, List.filterMap_some]

/-! ## Pieces -/

theorem pieces_ne_nil (cs : List Char) : pieces cs ≠ [] := by
  cases cs with
  | nil => simp [pieces]
  | cons c cs =>
      rw [pieces]
      split
      · exact List.cons_ne_nil _ _
      · split <;> exact List.cons_ne_nil _ _

/-- Characters that separate nothing are put before the first piece. -/
theorem pieces_append {cs : List Char} (plain : ∀ c ∈ cs, isSeparator c = false)
    (ds : List Char) : pieces (cs ++ ds) = (pieces ds).modifyHead (cs ++ ·) := by
  induction cs with
  | nil =>
      obtain ⟨piece, rest, made⟩ := List.exists_cons_of_ne_nil (pieces_ne_nil ds)
      simp [made]
  | cons c cs ih =>
      obtain ⟨piece, rest, made⟩ := List.exists_cons_of_ne_nil (pieces_ne_nil ds)
      have first : isSeparator c = false := plain c List.mem_cons_self
      have later := ih fun d member => plain d (List.mem_cons_of_mem c member)
      rw [List.cons_append, pieces, if_neg (by simp [first]), later, made]
      rfl

/-! ## Parts -/

theorem infix_of_nonBlank? {s t : String} (found : nonBlank? s = some t) :
    t.toList <:+: s.toList := by
  obtain ⟨rfl, -⟩ := nonBlank?_eq_some_iff.mp found
  rw [toList_trim]
  exact trimChars_isInfix _

/-- The first piece is where the characters begin, so that it can get one more in front. -/
theorem parts_of_pieces (cs : List Char) :
    (∀ piece ∈ (pieces cs).head?, piece <+: cs) ∧ ∀ piece ∈ pieces cs, piece <:+: cs := by
  induction cs with
  | nil => simp [pieces]
  | cons c cs ih =>
      obtain ⟨front, parts⟩ := ih
      rw [pieces]
      split
      · refine ⟨by simp, fun piece listed => ?_⟩
        rcases List.mem_cons.mp listed with rfl | listed
        · exact List.nil_infix
        · exact List.infix_cons (parts piece listed)
      · split
        · simp [List.infix_cons_iff]
        · next first rest later =>
          rw [later] at front parts
          have longer : c :: first <+: c :: cs := List.cons_prefix_cons.mpr ⟨rfl, front first rfl⟩
          refine ⟨by simpa using longer, fun piece listed => ?_⟩
          rcases List.mem_cons.mp listed with rfl | listed
          · exact longer.isInfix
          · exact List.infix_cons (parts piece (List.mem_cons_of_mem first listed))

theorem infix_of_mem_splitValues {s v : String} (listed : v ∈ splitValues s) :
    v.toList <:+: s.toList := by
  obtain ⟨t, member, found⟩ := mem_distinctNonBlank.mp listed
  obtain ⟨piece, inside, rfl⟩ := List.mem_map.mp member
  have part := infix_of_nonBlank? found
  rw [String.toList_ofList] at part
  exact part.trans ((parts_of_pieces s.toList).2 piece inside)

end PhaseTable.Text
