/-
# PhaseTable.Proofs.Operator -- the names of operators are read back

Each operator is the one that its own name names (`FilterOp.parse_name`,
`RuleOp.parse_name`), so different operators have different names and a checked
configuration can list operators by name.

The name of an operator can be written in any case (`RuleOp.parse_congr`).
-/
import PhaseTable.Operator
import PhaseTable.Proofs.Text.LetterCase

namespace PhaseTable

set_option autoImplicit false

open Text

/-- The characters that do not count in the name of an operator, but for blanks. -/
def isJoint (c : Char) : Bool :=
  c == '_' || c == '-'

theorem keptByCase_isJoint : KeptByCase isJoint := by
  refine keptByCase_of_marks fun c mark => ?_
  simp only [isJoint, Bool.or_eq_true, beq_iff_eq] at mark
  rcases mark with rfl | rfl
  · exact .inr (.inl (by decide))
  · exact .inl (by decide)

/-- Names of operators are compared in their folded form, but for ς. -/
theorem map_joinSigma_operatorToken (s : String) :
    (operatorToken s).toList.map joinSigma = (trimChars (fold s.toList)).filter (!isJoint ·) := by
  have joints : ∀ cs : List Char,
      cs.filter (fun c => c ≠ '_' ∧ c ≠ '-') = cs.filter (!isJoint ·) := fun cs =>
    List.filter_congr fun c _ => by simp [isJoint, Bool.beq_eq_decide_eq]
  rw [operatorToken, String.toList_ofList, joints, lowerCharwise, List.map_flatMap,
    ← fold_trimChars, ← keptByCase_isJoint.fold_filter_not]
  rfl

namespace FilterOp

@[simp] theorem parse_name (op : FilterOp) : parse op.name = some op := by
  cases op <;> decide

theorem name_injective : Function.Injective name := by
  intro op other same
  have read := parse_name op
  rw [same, parse_name] at read
  exact (Option.some.inj read).symm

end FilterOp

namespace RuleOp

@[simp] theorem parse_name (op : RuleOp) : parse op.name = some op := by
  cases op <;> decide

/-- The names of operators have no Greek letters. -/
theorem joinSigma_of_parse {s : String} {op : RuleOp} (known : parse s = some op) :
    ∀ c ∈ (operatorToken s).toList, joinSigma c = c ∧ c ≠ 'σ' := by
  have greekless : (operatorToken s).toList.all (fun c => joinSigma c = c ∧ c ≠ 'σ') = true := by
    unfold parse at known
    split at known <;> first
      | next name => rw [name]; decide
      | cases known
  intro c member
  exact of_decide_eq_true (List.all_eq_true.mp greekless c member)

/-- An operator is known by its name whatever the case of the letters. -/
theorem parse_congr {s t : String} (same : foldText s = foldText t) : parse s = parse t := by
  have known : ∀ {u v : String}, foldText u = foldText v → ∀ op, parse u = some op →
      parse v = some op := by
    intro u v same op found
    have greekless := joinSigma_of_parse found
    have kept : (operatorToken u).toList.map joinSigma = (operatorToken u).toList :=
      (List.map_congr_left fun c member => (greekless c member).1).trans (List.map_id _)
    have tokens : (operatorToken v).toList.map joinSigma = (operatorToken u).toList := by
      rw [foldText_inj] at same
      rw [map_joinSigma_operatorToken, ← same, ← map_joinSigma_operatorToken, kept]
    have keptOther : (operatorToken v).toList.map joinSigma = (operatorToken v).toList := by
      refine (List.map_congr_left fun c member => ?_).trans (List.map_id _)
      rcases joinSigma_cases c with same | ⟨-, joined⟩
      · exact same
      · have listed : joinSigma c ∈ (operatorToken u).toList :=
          tokens ▸ List.mem_map_of_mem member
        exact absurd joined (greekless _ listed).2
    have sameTokens : operatorToken v = operatorToken u :=
      String.toList_inj.mp (keptOther.symm.trans tokens)
    rw [← found]
    unfold parse
    rw [sameTokens]
  exact Option.ext fun op => ⟨known same op, known same.symm op⟩

end RuleOp

end PhaseTable
