/-
# PhaseTable.Proofs.Text.Runs -- where a part of a text ends

A part of a text ends where its kind of character does (`run_inj`), or at a quote that is not
doubled (`quoted_inj`).  So the part can be told from what follows it.
-/
import PhaseTable.Text.Quoted

namespace PhaseTable.Text

set_option autoImplicit false

section Runs

variable {p : Char → Bool} {run other rest rest' : List Char}

theorem span_run (each : ∀ c ∈ run, p c = true) (ends : ∀ c ∈ rest.head?, p c = false) :
    (run ++ rest).takeWhile p = run ∧ (run ++ rest).dropWhile p = rest := by
  have nothing : rest.takeWhile p = [] ∧ rest.dropWhile p = rest := by
    cases rest with
    | nil => exact ⟨rfl, rfl⟩
    | cons c rest => simp [ends c rfl]
  rw [List.takeWhile_append_of_pos each, List.dropWhile_append_of_pos each, nothing.1, nothing.2,
    List.append_nil]
  exact ⟨rfl, rfl⟩

/-- Characters of one kind are told from what follows if that begins with another kind. -/
theorem run_inj (each : ∀ c ∈ run, p c = true) (each' : ∀ c ∈ other, p c = true)
    (ends : ∀ c ∈ rest.head?, p c = false) (ends' : ∀ c ∈ rest'.head?, p c = false)
    (same : run ++ rest = other ++ rest') : run = other ∧ rest = rest' := by
  obtain ⟨taken, dropped⟩ := span_run each ends
  obtain ⟨taken', dropped'⟩ := span_run each' ends'
  rw [same] at taken dropped
  exact ⟨taken.symm.trans taken', dropped.symm.trans dropped'⟩

end Runs

/-! ## Quotes -/

/-- The characters with each quote among them twice. -/
def doubled (cs : List Char) : List Char :=
  cs.flatMap fun c => if c = '\'' then ['\'', '\''] else [c]

theorem toList_doubleQuotes (s : String) : (doubleQuotes s).toList = doubled s.toList :=
  String.toList_ofList

theorem doubled_quote (cs : List Char) : doubled ('\'' :: cs) = '\'' :: '\'' :: doubled cs :=
  rfl

theorem doubled_cons {c : Char} (other : c ≠ '\'') (cs : List Char) :
    doubled (c :: cs) = c :: doubled cs := by
  rw [doubled, List.flatMap_cons, if_neg other]
  rfl

/-- A quoted text goes on after a quote only if there is another one. -/
theorem doubled_ne_end {cs rest rest' : List Char} (some_ : cs ≠ [])
    (ends : ∀ c ∈ rest'.head?, c ≠ '\'') : doubled cs ++ rest ≠ '\'' :: rest' := by
  intro same
  obtain ⟨c, cs, rfl⟩ := List.exists_cons_of_ne_nil some_
  by_cases quote : c = '\''
  · subst quote
    rw [doubled_quote] at same
    exact ends '\'' (by rw [← (List.cons.inj same).2]; rfl) rfl
  · rw [doubled_cons quote] at same
    exact quote (List.cons.inj same).1

/-- The quote at the end of a quoted text is the first one that is not doubled. -/
theorem quoted_inj {cs ds rest rest' : List Char} (ends : ∀ c ∈ rest.head?, c ≠ '\'')
    (ends' : ∀ c ∈ rest'.head?, c ≠ '\'')
    (same : doubled cs ++ '\'' :: rest = doubled ds ++ '\'' :: rest') : cs = ds ∧ rest = rest' := by
  induction cs generalizing ds with
  | nil =>
      by_cases none_ : ds = []
      · subst none_
        exact ⟨rfl, (List.cons.inj same).2⟩
      · exact absurd same.symm (doubled_ne_end none_ ends)
  | cons c cs ih =>
      cases ds with
      | nil => exact absurd same (doubled_ne_end (List.cons_ne_nil c cs) ends')
      | cons d ds =>
          have next : c = d ∧ doubled cs ++ '\'' :: rest = doubled ds ++ '\'' :: rest' := by
            by_cases quote : c = '\''
            · by_cases quote' : d = '\''
              · rw [quote, quote', doubled_quote, doubled_quote] at same
                exact ⟨quote.trans quote'.symm, (List.cons.inj (List.cons.inj same).2).2⟩
              · rw [quote, doubled_quote, doubled_cons quote'] at same
                exact absurd (List.cons.inj same).1.symm quote'
            · by_cases quote' : d = '\''
              · rw [quote', doubled_quote, doubled_cons quote] at same
                exact absurd (List.cons.inj same).1 quote
              · rw [doubled_cons quote, doubled_cons quote'] at same
                exact List.cons.inj same
          obtain ⟨rfl, later⟩ := next
          obtain ⟨rfl, rests⟩ := ih later
          exact ⟨rfl, rests⟩

end PhaseTable.Text
