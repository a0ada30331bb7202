/-
# PhaseTable.Proofs.Text.SplitValues -- the list that a text is

`splitValues` cuts a text at its commas and semicolons and keeps the trimmed pieces that are not
blank, each where it is first seen.  The pieces are those that the library's `List.splitOnP` makes
(`pieces_eq_splitOnP`), and a piece counts as first seen if no piece before it is the same
(`firstsBy`).  A value that is read can be written in a list again (`listable_of_mem_splitValues`),
so a list that is read, written in any way and read again is the same list.
-/
import PhaseTable.Proofs.Text.Joining

namespace PhaseTable.Text

set_option autoImplicit false

/-! ## Pieces -/

/-- The pieces of a text are what is left between the separators. -/
theorem pieces_eq_splitOnP (cs : List Char) : pieces cs = cs.splitOnP isSeparator := by
  induction cs with
  | nil => rfl
  | cons c cs ih =>
      rw [List.splitOnP_cons_eq_if_modifyHead, ← ih]
      cases separates : isSeparator c with
      | true => rw [pieces_separator separates, if_pos rfl]
      | false =>
          have alone : ∀ d ∈ [c], isSeparator d = false := by simpa using separates
          rw [← List.singleton_append, pieces_append alone, if_neg Bool.false_ne_true]
          rfl

theorem plain_of_mem_pieces {cs piece : List Char} (listed : piece ∈ pieces cs) :
    ∀ c ∈ piece, isSeparator c = false := by
  induction cs generalizing piece with
  | nil =>
      obtain rfl := List.mem_singleton.mp listed
      exact fun c inside => absurd inside List.not_mem_nil
  | cons d cs ih =>
      cases separates : isSeparator d with
      | true =>
          rw [pieces_separator separates] at listed
          rcases List.mem_cons.mp listed with rfl | later
          · exact fun c inside => absurd inside List.not_mem_nil
          · exact ih later
      | false =>
          -- the character is put in front of the first piece
          obtain ⟨first, rest, made⟩ := List.exists_cons_of_ne_nil (pieces_ne_nil cs)
          have alone : ∀ c ∈ [d], isSeparator c = false := by simpa using separates
          rw [← List.singleton_append, pieces_append alone, made, List.modifyHead_cons] at listed
          rw [made] at ih
          rcases List.mem_cons.mp listed with rfl | later
          · intro c inside
            rcases List.mem_cons.mp inside with rfl | inside
            · exact separates
            · exact ih List.mem_cons_self c inside
          · exact ih (List.mem_cons_of_mem first later)

/-! ## Values -/

/-- The trimmed texts that are not blank, with repeats. -/
theorem filterMap_nonBlank?_eq (texts : List String) :
    texts.filterMap nonBlank? = (texts.map trim).filter (· ≠ "") := by
  induction texts with
  | nil => rfl
  | cons s texts ih =>
      by_cases empty : trim s = ""
      · have nothing : nonBlank? s = none := by simp only [nonBlank?, if_pos empty]
        rw [List.filterMap_cons_none nothing, ih, List.map_cons,
          List.filter_cons_of_neg (by simpa using empty)]
      · have found : nonBlank? s = some (trim s) := by simp only [nonBlank?, if_neg empty]
        rw [List.filterMap_cons_some found, ih, List.map_cons,
          List.filter_cons_of_pos (by simpa using empty)]

/-- A value that is read from a list can be written in a list. -/
theorem listable_of_mem_splitValues {s v : String} (listed : v ∈ splitValues s) : Listable v := by
  obtain ⟨t, member, found⟩ := mem_distinctNonBlank.mp listed
  obtain ⟨piece, inside, rfl⟩ := List.mem_map.mp member
  have part := infix_of_nonBlank? found
  rw [String.toList_ofList] at part
  exact ⟨trimmed_of_nonBlank? found, fun c member =>
    plain_of_mem_pieces inside c (part.subset member)⟩

/-- **Lists are read from texts exactly, and read again.**  From a text are read the pieces between
its commas and semicolons, trimmed and without the blank ones, each where no piece before it is the
same.  Values that are trimmed, not empty, without commas and semicolons and all different are read
from every text in which they are strewn.  In particular the values that are read from one text are
read again from every text in which they are strewn. -/
theorem splitValues_exact (s : String) :
    splitValues s = firstsBy id
        (((s.toList.splitOnP fun c => c == ',' || c == ';').map fun piece =>
          trim (String.ofList piece)).filter (· ≠ "")) ∧
      (∀ values : List String, ∀ t : String, values.Nodup →
        (∀ v ∈ values, Trimmed v ∧ ',' ∉ v.toList ∧ ';' ∉ v.toList) → Strewn values t.toList →
          splitValues t = values) ∧
      ∀ t : String, Strewn (splitValues s) t.toList → splitValues t = splitValues s := by
  have separators : isSeparator = fun c => c == ',' || c == ';' := rfl
  refine ⟨?_, fun values t nodup plain strewn => ?_, fun t strewn => ?_⟩
  · rw [splitValues, distinctNonBlank, filterMap_nonBlank?_eq, distinct_eq_distinctBy,
      distinctBy_eq_firstsBy, pieces_eq_splitOnP, separators, List.map_map]
    rfl
  · refine splitValues_of_strewn strewn (fun v member => ?_) nodup
    obtain ⟨trimmed, comma, semicolon⟩ := plain v member
    refine ⟨trimmed, fun c inside => ?_⟩
    rw [isSeparator, Bool.or_eq_false_iff, beq_eq_false_iff_ne, beq_eq_false_iff_ne]
    exact ⟨fun same => comma (same ▸ inside), fun same => semicolon (same ▸ inside)⟩
  · exact splitValues_of_strewn strewn (fun _ => listable_of_mem_splitValues) (nodup_distinct _)

/-- Two profiles, one of them with a blank. -/
def profileList : List String :=
  ["HEA200", "HEB 300"]

/-- The profiles behind a comma, between two semicolons and before a comma, with a wide blank. -/
def strewnProfiles : String :=
  ",HEA200 ;;\u3000HEB 300, "

theorem strewn_strewnProfiles : Strewn profileList strewnProfiles.toList := by
  have text : strewnProfiles.toList = [] ++ ',' :: ("HEA200 ".toList ++ ';' ::
      ([] ++ ';' :: ("\u3000HEB 300".toList ++ ',' :: [' ']))) := rfl
  have narrow : ∀ c ∈ [' '], isBlank c = true := List.forall_mem_singleton.mpr rfl
  have wide : ∀ c ∈ ['\u3000'], isBlank c = true := List.forall_mem_singleton.mpr rfl
  have first : Padded "HEA200".toList "HEA200 ".toList :=
    ⟨[], [' '], List.forall_mem_nil _, narrow, rfl⟩
  have second : Padded "HEB 300".toList "\u3000HEB 300".toList :=
    ⟨['\u3000'], [], wide, List.forall_mem_nil _, rfl⟩
  rw [text]
  refine .skip (List.forall_mem_nil _) rfl (.cons first rfl ?_)
  exact .skip (List.forall_mem_nil _) rfl (.cons second rfl (.nil narrow))

theorem splitValues_exact_profiles :
    profileList.Nodup ∧ (∀ v ∈ profileList, Trimmed v ∧ ',' ∉ v.toList ∧ ';' ∉ v.toList) ∧
    Strewn profileList strewnProfiles.toList ∧ splitValues strewnProfiles = profileList ∧
    Strewn (splitValues "HEA200;HEB 300 , HEA200") strewnProfiles.toList ∧
    splitValues strewnProfiles = splitValues "HEA200;HEB 300 , HEA200" := by
  have nodup : profileList.Nodup := by decide
  have plain : ∀ v ∈ profileList, Trimmed v ∧ ',' ∉ v.toList ∧ ';' ∉ v.toList := by decide
  have listed : splitValues "HEA200;HEB 300 , HEA200" = profileList := by decide
  obtain ⟨-, read, again⟩ := splitValues_exact "HEA200;HEB 300 , HEA200"
  rw [listed] at again ⊢
  have strewn := strewn_strewnProfiles
  exact ⟨nodup, plain, strewn, read profileList strewnProfiles nodup plain strewn, strewn,
    again strewnProfiles strewn⟩

end PhaseTable.Text
