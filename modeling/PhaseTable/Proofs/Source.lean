/-
# PhaseTable.Proofs.Source -- stored attributes resolve to themselves

`ObjectType.Stores` lists the forms in which attributes are stored: those of phases in
small letters, those of parts in small letters or as `ua.` with a trimmed name, those
of assemblies and bolts trimmed.  `ModelSource.resolve` returns nothing else
(`stores_of_resolve`) and changes none of them (`resolve_of_stores`), so the stored
attribute resolves to itself.

The five attributes of parts are recognized in any case (`templateField?_part`), and all other
targets are taken as they are, so the field for a target does not depend on the case of its
letters (`foldText_templateField?_congr`).
-/
import Mathlib.Data.List.Find
import PhaseTable.Proofs.Text.LetterCase
import PhaseTable.Source

namespace PhaseTable

set_option autoImplicit false

open Text

/-- The attribute has the form in which the kind of object stores attributes. -/
def ObjectType.Stores : ObjectType → String → Prop
  | .phase, attr => attr ∈ phaseAttributes
  | .part, attr =>
      attr ∈ partAttributes.map (·.1) ∨ ∃ name, Trimmed name ∧ attr = userAttributeHead ++ name
  | .assembly, attr | .bolt, attr => Trimmed attr

/-! ## The attributes that have names -/

theorem phaseAttributes_stored :
    ∀ attr ∈ phaseAttributes, Trimmed attr ∧ asciiLower attr = attr := by
  decide

theorem partAttributes_stored :
    ∀ attr ∈ partAttributes.map (·.1),
      Trimmed attr ∧ asciiLower attr = attr ∧ userAttribute? attr = none := by
  decide

theorem trimmed_userAttributeHead : Trimmed userAttributeHead := by
  decide

theorem userAttribute?_head (name : String) :
    userAttribute? (userAttributeHead ++ name) = some name := by
  have head : userAttributeHead.toList = ['u', 'a', '.'] := by decide
  simp [userAttribute?, head, afterIgnoringAsciiCase?]

/-! ## Resolving -/

namespace ModelSource

theorem resolve_trim (type : ObjectType) (attr : String) :
    resolve type (trim attr) = resolve type attr := by
  simp only [resolve, trim_trim]

/-- No kind of object has a blank attribute. -/
theorem not_blank_of_resolve {type : ObjectType} {attr : String} {source : ModelSource}
    (resolved : resolve type attr = .ok source) : Text.blank attr = false := by
  by_contra text
  have empty : trim attr = "" := by
    rw [← blank_iff_trim_eq_empty]
    simpa using text
  rw [← resolve_trim, empty] at resolved
  cases type <;> cases resolved

theorem stores_of_partAttribute {attr stored : String}
    (accepted : partAttribute attr = .ok stored) : ObjectType.part.Stores stored := by
  unfold partAttribute at accepted
  split at accepted
  · split at accepted
    · cases accepted
    · next name found =>
      rw [Except.ok.injEq] at accepted
      exact .inr ⟨name, trimmed_of_nonBlank? found, accepted.symm⟩
  · by_cases known : asciiLower attr ∈ partAttributes.map (·.1)
    · simp only [if_pos known, Except.ok.injEq] at accepted
      exact .inl (accepted ▸ known)
    · simp only [if_neg known, reduceCtorEq] at accepted

theorem partAttribute_of_stores {attr : String} (stored : ObjectType.part.Stores attr) :
    Trimmed attr ∧ partAttribute attr = .ok attr := by
  rcases stored with known | ⟨name, trimmed, rfl⟩
  · obtain ⟨trimmed, small, other⟩ := partAttributes_stored attr known
    exact ⟨trimmed, by simp only [partAttribute, other, small, if_pos known]⟩
  · refine ⟨trimmed_userAttributeHead.append trimmed, ?_⟩
    simp only [partAttribute, userAttribute?_head, trimmed.nonBlank?]

/-- What resolving returns is stored in one of the listed forms. -/
theorem stores_of_resolve {type : ObjectType} {attr : String} {source : ModelSource}
    (resolved : resolve type attr = .ok source) :
    source = of type source.attr ∧ type.Stores source.attr := by
  cases type with
  | phase =>
      by_cases known : asciiLower (trim attr) ∈ phaseAttributes
      · simp only [resolve, if_pos known, Except.ok.injEq] at resolved
        exact resolved ▸ ⟨rfl, known⟩
      · simp only [resolve, if_neg known, reduceCtorEq] at resolved
  | part =>
      by_cases empty : trim attr = ""
      · simp only [resolve, if_pos empty, reduceCtorEq] at resolved
      · cases accepted : partAttribute (trim attr) with
        | error reason =>
            simp only [resolve, if_neg empty, accepted, Except.map, reduceCtorEq] at resolved
        | ok stored =>
            simp only [resolve, if_neg empty, accepted, Except.map, Except.ok.injEq] at resolved
            exact resolved ▸ ⟨rfl, stores_of_partAttribute accepted⟩
  | assembly | bolt =>
      by_cases empty : trim attr = ""
      · simp only [resolve, if_pos empty, reduceCtorEq] at resolved
      · simp only [resolve, if_neg empty, Except.ok.injEq] at resolved
        exact resolved ▸ ⟨rfl, trim_trim attr, empty⟩

/-- Resolving changes none of the listed forms. -/
theorem resolve_of_stores {type : ObjectType} {attr : String} (stored : type.Stores attr) :
    Trimmed attr ∧ resolve type attr = .ok (of type attr) := by
  cases type with
  | phase =>
      obtain ⟨trimmed, small⟩ := phaseAttributes_stored attr stored
      refine ⟨trimmed, ?_⟩
      simp only [resolve, trimmed.1, small]
      exact if_pos stored
  | part =>
      obtain ⟨trimmed, accepted⟩ := partAttribute_of_stores stored
      refine ⟨trimmed, ?_⟩
      simp only [resolve, trimmed.1, if_neg trimmed.2, accepted, Except.map]
  | assembly | bolt =>
      exact ⟨stored, by simp only [resolve, stored.1, if_neg stored.2]⟩

/-- **The stored attribute resolves to itself.** -/
theorem resolve_stored {type : ObjectType} {attr : String} {source : ModelSource}
    (resolved : resolve type attr = .ok source) : resolve type source.attr = .ok source := by
  obtain ⟨same, stored⟩ := stores_of_resolve resolved
  rw [(resolve_of_stores stored).2, ← same]

/-- The name of a user attribute may look like a user attribute itself. -/
example : resolve .part "\tUa. ua. Höhe " = .ok ⟨"ua.ua. Höhe", "part.ua.ua. Höhe"⟩ ∧
    resolve .part "ua.ua. Höhe" = .ok ⟨"ua.ua. Höhe", "part.ua.ua. Höhe"⟩ := by
  decide

end ModelSource

/-! ## Fields of the query language -/

theorem templateField?_trim (type : ObjectType) (attr : String) :
    templateField? type (trim attr) = templateField? type attr := by
  rw [templateField?, templateField?, ModelSource.resolve_trim]

theorem afterIgnoringAsciiCase?_map (head cs : List Char) :
    afterIgnoringAsciiCase? head (cs.map Char.toLower) =
      (afterIgnoringAsciiCase? head cs).map (List.map Char.toLower) := by
  induction head generalizing cs with
  | nil => rfl
  | cons h head ih =>
      cases cs with
      | nil => rfl
      | cons c cs =>
          simp only [List.map_cons, afterIgnoringAsciiCase?, toLower_toLower]
          split
          · exact ih cs
          · rfl

theorem userAttribute?_asciiLower {attr : String}
    (other : userAttribute? (asciiLower attr) = none) :
    userAttribute? attr = none := by
  rw [userAttribute?, asciiLower, String.toList_ofList, afterIgnoringAsciiCase?_map, Option.map_map,
    Option.map_eq_none_iff] at other
  rw [userAttribute?, other, Option.map_none]

/-- The attributes of parts that have a field are recognized in any case. -/
theorem templateField?_part (attr : String) :
    templateField? .part attr =
      (partAttributes.find? (·.1 = asciiLower (trim attr))).map (·.2) := by
  by_cases known : asciiLower (trim attr) ∈ partAttributes.map (·.1)
  · obtain ⟨-, -, other⟩ := partAttributes_stored _ known
    have nonempty : trim attr ≠ "" := by
      intro empty
      rw [empty] at known
      revert known
      decide
    have accepted : ModelSource.partAttribute (trim attr) = .ok (asciiLower (trim attr)) := by
      simp only [ModelSource.partAttribute, userAttribute?_asciiLower other, if_pos known]
    simp only [templateField?, ModelSource.resolve, if_neg nonempty, accepted, Except.map,
      ModelSource.of, other, Option.isSome_none, Bool.false_eq_true, if_false]
  · have missing : partAttributes.find? (·.1 = asciiLower (trim attr)) = none := by
      rw [List.find?_eq_none]
      intro entry listed same
      exact known (of_decide_eq_true same ▸ List.mem_map_of_mem listed)
    rw [missing, Option.map_none]
    by_cases empty : trim attr = ""
    · simp only [templateField?, ModelSource.resolve, if_pos empty]
    · cases user : userAttribute? (trim attr) with
      | none =>
          simp only [templateField?, ModelSource.resolve, if_neg empty, ModelSource.partAttribute,
            user, if_neg known, Except.map]
      | some name =>
          cases named : nonBlank? name with
          | none =>
              simp only [templateField?, ModelSource.resolve, if_neg empty,
                ModelSource.partAttribute, user, named, Except.map]
          | some name =>
              simp only [templateField?, ModelSource.resolve, if_neg empty,
                ModelSource.partAttribute, user, named, Except.map, ModelSource.of,
                userAttribute?_head, Option.isSome_some, if_true]

/-- Any other kind of object has no field for a target, or the target itself. -/
theorem templateField?_of_ne_part {type : ObjectType} (other : type ≠ .part) {target : String}
    (trimmed : trim target = target) : (templateField? type target).getD target = target := by
  unfold templateField?
  split
  · rfl
  · next source resolved =>
    split
    · rfl
    · cases type with
      | phase => rfl
      | part => exact absurd rfl other
      | assembly | bolt =>
          by_cases empty : target = ""
          · simp only [ModelSource.resolve, trimmed, if_pos empty, reduceCtorEq] at resolved
          · simp only [ModelSource.resolve, trimmed, if_neg empty, Except.ok.injEq] at resolved
            rw [← resolved]
            rfl

/-- Targets that are equal up to case have fields that are. -/
theorem foldText_templateField?_congr (type : ObjectType) {s t : String}
    (same : foldText s = foldText t) (trimmed : trim s = s) (trimmed' : trim t = t) :
    foldText ((templateField? type s).getD s) = foldText ((templateField? type t).getD t) := by
  by_cases part : type = .part
  · subst part
    have found : partAttributes.find? (·.1 = asciiLower s) =
        partAttributes.find? (·.1 = asciiLower t) := by
      refine List.find?_congr fun entry listed => decide_eq_decide.mpr ?_
      obtain ⟨-, small, -⟩ := partAttributes_stored _ (List.mem_map_of_mem listed)
      have allPlain : entry.1.toList.all plain = true := by
        revert entry
        decide
      rw [eq_comm, ← small, ← sameIgnoringAsciiCase_iff, sameIgnoringAsciiCase_congr same allPlain,
        sameIgnoringAsciiCase_iff, small, eq_comm]
    rw [templateField?_part, templateField?_part, trimmed, trimmed', found]
    cases (partAttributes.find? (·.1 = asciiLower t)).map (·.2) with
    | none => exact same
    | some field => rfl
  · rw [templateField?_of_ne_part part trimmed, templateField?_of_ne_part part trimmed', same]

end PhaseTable
