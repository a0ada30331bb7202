/-
# PhaseTable.Proofs.Text.LetterCase -- texts up to the case of their letters

`foldText` makes each letter of a text small by itself, and takes ς for σ.  It looks at no
neighbours, so it can be followed through the parts of a text, and texts with the same
`lowerCase` have the same folded form (`foldText_eq_of_lowerCase_eq`).

What is not a letter stays where it is (`KeptByCase`): blanks, and the marks among the ASCII
characters.  So folding commutes with trimming (`trim_foldText`) and with the reading of
lists (`pieces_fold`).  A text that folds to a word of ASCII letters is written in them, unless
the word has a `k`, which the Kelvin sign folds to (`all_plain_fold`); on texts of such letters
folding is that of ASCII.
-/
import Mathlib.Data.List.DropRight
import PhaseTable.Proofs.Text.Pieces
import PhaseTable.Text.LowerCase

namespace PhaseTable.Text

set_option autoImplicit false

/-- The letter σ for its form at the end of words. -/
def joinSigma (c : Char) : Char :=
  if c = 'ς' then 'σ' else c

/-- The small form of a character wherever it stands. -/
def foldChar (c : Char) : List Char :=
  (lowerChar c).map joinSigma

def fold (cs : List Char) : List Char :=
  cs.flatMap foldChar

/-- The text without regard to the case of its letters. -/
def foldText (s : String) : String :=
  String.ofList (fold s.toList)

@[simp] theorem fold_nil : fold [] = [] := rfl

@[simp] theorem fold_cons (c : Char) (cs : List Char) : fold (c :: cs) = foldChar c ++ fold cs :=
  rfl

@[simp] theorem fold_append (cs ds : List Char) : fold (cs ++ ds) = fold cs ++ fold ds :=
  List.flatMap_append

@[simp] theorem toList_foldText (s : String) : (foldText s).toList = fold s.toList :=
  String.toList_ofList

theorem foldText_inj {s t : String} : foldText s = foldText t ↔ fold s.toList = fold t.toList :=
  String.ofList_inj

/-- The place of a letter in its word decides between ς and σ only. -/
theorem map_joinSigma_lowerAfter (before cs : List Char) :
    (lowerAfter before cs).map joinSigma = fold cs := by
  induction cs generalizing before with
  | nil => rfl
  | cons c rest ih =>
      rw [lowerAfter, List.map_append, ih, fold_cons]
      congr 1
      by_cases sigma : c = 'Σ'
      · have small : foldChar 'Σ' = ['σ'] := by decide +kernel
        subst sigma
        rw [if_pos rfl, small]
        split <;> rfl
      · rw [if_neg sigma, foldChar]

theorem foldText_eq_of_lowerCase_eq {s t : String} (same : lowerCase s = lowerCase t) :
    foldText s = foldText t := by
  rw [lowerCase, lowerCase, String.ofList_inj] at same
  rw [foldText_inj, ← map_joinSigma_lowerAfter [], ← map_joinSigma_lowerAfter [], same]

/-! ## One character -/

theorem foldChar_of_ascii {c : Char} (ascii : c.toNat < 128) : foldChar c = [c.toLower] := by
  have small : lowerChar c = [c.toLower] := by
    rw [lowerChar]
    exact if_pos ascii
  have other : c.toLower ≠ 'ς' := by
    intro same
    have wide : c.toLower.toNat = 962 := by rw [same]; rfl
    rcases toLower_cases c with ⟨-, upper, shifted⟩ | ⟨-, kept⟩
    · omega
    · rw [kept] at wide
      omega
  rw [foldChar, small, List.map_singleton, joinSigma, if_neg other]

/-- The blanks beyond ASCII. -/
def wideBlanks : List (Nat × Nat) :=
  [(0x85, 0x85), (0xA0, 0xA0), (0x1680, 0x1680), (0x2000, 0x200A), (0x2028, 0x2029),
    (0x202F, 0x202F), (0x205F, 0x205F), (0x3000, 0x3000)]

theorem isBlank_iff_wide {c : Char} (wide : 128 ≤ c.toNat) :
    isBlank c = true ↔ ∃ range ∈ wideBlanks, range.1 ≤ c.toNat ∧ c.toNat ≤ range.2 := by
  simp only [isBlank, wideBlanks, List.exists_mem_cons_iff, Bool.or_eq_true, Bool.and_eq_true,
    decide_eq_true_eq, beq_iff_eq, List.not_mem_nil, false_and, exists_false, or_false]
  omega

/-- The capitals of a run and their small letters are no blanks, and the small letters are beyond
ASCII, but for `k`. -/
def CaseRun.Regular (run : CaseRun) : Prop :=
  (128 ≤ run.first + run.shift ∨ run.first = run.last ∧ run.first + run.shift = 107) ∧
    (run.last + run.shift < 0xD800 ∨
      0xDFFF < run.first + run.shift ∧ run.last + run.shift < 0x110000) ∧
    ∀ range ∈ wideBlanks, (run.last < range.1 ∨ range.2 < run.first) ∧
      (run.last + run.shift < range.1 ∨ range.2 < run.first + run.shift)

instance (run : CaseRun) : Decidable run.Regular :=
  inferInstanceAs (Decidable (_ ∧ _))

theorem caseRuns_regular : ∀ run ∈ caseRuns, run.last < 128 ∨ run.Regular := by
  decide +kernel

theorem toNat_ofNat {n : Nat} (valid : n.isValidChar) : (Char.ofNat n).toNat = n := by
  rw [Char.ofNat, dif_pos valid]
  rfl

/-- The small letter of a capital beyond ASCII. -/
theorem shifted_of_covers {run : CaseRun} {c : Char} (wide : 128 ≤ c.toNat)
    (listed : run ∈ caseRuns) (covers : run.covers c.toNat = true) :
    (128 ≤ (Char.ofNat (c.toNat + run.shift).toNat).toNat ∨
        Char.ofNat (c.toNat + run.shift).toNat = 'k') ∧
      isBlank c = false ∧ isBlank (Char.ofNat (c.toNat + run.shift).toNat) = false := by
  simp only [CaseRun.covers, Bool.and_eq_true, decide_eq_true_eq] at covers
  obtain ⟨⟨low, high⟩, -⟩ := covers
  obtain ⟨small, valid, apart⟩ := (caseRuns_regular run listed).resolve_left (by omega)
  generalize shifted : (c.toNat + run.shift).toNat = n
  have value : (Char.ofNat n).toNat = n := by
    refine toNat_ofNat ?_
    rcases valid with below | ⟨above, below⟩
    · exact Or.inl (by omega)
    · exact Or.inr ⟨by omega, by omega⟩
  refine ⟨?_, ?_, ?_⟩
  · rcases small with wideSmall | ⟨single, kelvin⟩
    · exact .inl (by omega)
    · obtain rfl : n = 107 := by omega
      exact .inr rfl
  · rw [Bool.eq_false_iff, Ne, isBlank_iff_wide wide]
    rintro ⟨range, member, above, below⟩
    have := (apart range member).1
    omega
  · by_cases wideSmall : 128 ≤ (Char.ofNat n).toNat
    · rw [Bool.eq_false_iff, Ne, isBlank_iff_wide wideSmall]
      rintro ⟨range, member, above, below⟩
      have := (apart range member).2
      omega
    · obtain rfl : n = 107 := by omega
      rfl

theorem joinSigma_cases (c : Char) : joinSigma c = c ∨ c = 'ς' ∧ joinSigma c = 'σ' := by
  rw [joinSigma]
  split
  · next final => exact .inr ⟨final, rfl⟩
  · exact .inl rfl

/-- The small form of a character beyond ASCII that is not İ. -/
theorem foldChar_of_wide {c : Char} (wide : 128 ≤ c.toNat) (plain : c ≠ 'İ') :
    ∃ d, foldChar c = [d] ∧ (128 ≤ d.toNat ∨ d = 'k') ∧ (isBlank c = true → d = c) ∧
      (isBlank c = false → isBlank d = false) := by
  have narrow : ¬ c.toNat < 0x80 := by omega
  cases found : caseRuns.find? (·.covers c.toNat) with
  | none =>
      have kept : lowerChar c = [c] := by
        simp only [lowerChar, if_neg narrow, if_neg plain, found]
      refine ⟨joinSigma c, by rw [foldChar, kept, List.map_singleton], ?_⟩
      rcases joinSigma_cases c with same | ⟨rfl, joined⟩
      · rw [same]
        exact ⟨.inl wide, fun _ => rfl, id⟩
      · rw [joined]
        exact ⟨by decide, by decide, by decide⟩
  | some run =>
      have covers := List.find?_some found
      obtain ⟨small, text, textSmall⟩ :=
        shifted_of_covers wide (List.mem_of_find?_eq_some found) covers
      have made : lowerChar c = [Char.ofNat (c.toNat + run.shift).toNat] := by
        simp only [lowerChar, if_neg narrow, if_neg plain, found]
      refine ⟨_, by rw [foldChar, made, List.map_singleton], ?_⟩
      rw [text]
      generalize Char.ofNat (c.toNat + run.shift).toNat = d at small textSmall
      rcases joinSigma_cases d with same | ⟨rfl, joined⟩
      · rw [same]
        exact ⟨small, nofun, fun _ => textSmall⟩
      · rw [joined]
        exact ⟨by decide, nofun, by decide⟩

theorem foldChar_dotted : foldChar 'İ' = ['i', '\u0307'] := by
  decide +kernel

/-! ## What is no letter -/

/-- Folding leaves the characters of a class alone and makes no others into them. -/
structure KeptByCase (p : Char → Bool) : Prop where
  same : ∀ c, p c = true → foldChar c = [c]
  other : ∀ c, p c = false → foldChar c ≠ [] ∧ ∀ d ∈ foldChar c, p d = false

theorem keptByCase_isBlank : KeptByCase isBlank where
  same c blank_ := by
    by_cases wide : 128 ≤ c.toNat
    · have plain : c ≠ 'İ' := by
        rintro rfl
        revert blank_
        decide
      obtain ⟨d, small, -, same, -⟩ := foldChar_of_wide wide plain
      rw [small, same blank_]
    · rw [foldChar_of_ascii (by omega)]
      rcases toLower_cases c with ⟨low, high, -⟩ | ⟨-, kept⟩
      · have text : isBlank c = false := by grind [isBlank]
        rw [text] at blank_
        cases blank_
      · rw [kept]
  other c text := by
    by_cases wide : 128 ≤ c.toNat
    · by_cases dotted : c = 'İ'
      · rw [dotted, foldChar_dotted]
        refine ⟨List.cons_ne_nil _ _, ?_⟩
        rw [List.forall_mem_cons, List.forall_mem_singleton]
        decide
      · obtain ⟨d, small, -, -, other⟩ := foldChar_of_wide wide dotted
        rw [small]
        exact ⟨List.cons_ne_nil _ _, by simpa using other text⟩
    · rw [foldChar_of_ascii (by omega)]
      exact ⟨List.cons_ne_nil _ _, by simpa [isBlank_toLower] using text⟩

/-- The ASCII characters that are no letters are left alone. -/
theorem keptByCase_of_marks {p : Char → Bool}
    (marks : ∀ c, p c = true → c.toNat < 65 ∨ 90 < c.toNat ∧ c.toNat < 97 ∨
      122 < c.toNat ∧ c.toNat < 128) : KeptByCase p where
  same c mark := by
    have bounds := marks c mark
    rw [foldChar_of_ascii (by omega)]
    rcases toLower_cases c with ⟨low, high, -⟩ | ⟨-, kept⟩
    · omega
    · rw [kept]
  other c letter := by
    have apart : ∀ d : Char, 128 ≤ d.toNat ∨ 97 ≤ d.toNat ∧ d.toNat ≤ 122 → p d = false := by
      intro d wide
      rw [Bool.eq_false_iff]
      intro mark
      have bounds := marks d mark
      omega
    by_cases wide : 128 ≤ c.toNat
    · by_cases dotted : c = 'İ'
      · rw [dotted, foldChar_dotted]
        refine ⟨List.cons_ne_nil _ _, ?_⟩
        simp only [List.mem_cons, List.not_mem_nil, or_false, forall_eq_or_imp, forall_eq]
        exact ⟨apart _ (by decide), apart _ (by decide)⟩
      · obtain ⟨d, small, beyond, -⟩ := foldChar_of_wide wide dotted
        rw [small]
        refine ⟨List.cons_ne_nil _ _, ?_⟩
        rw [List.forall_mem_singleton]
        rcases beyond with beyond | rfl
        · exact apart d (.inl beyond)
        · exact apart _ (by decide)
    · rw [foldChar_of_ascii (by omega)]
      refine ⟨List.cons_ne_nil _ _, ?_⟩
      rw [List.forall_mem_singleton]
      rcases toLower_cases c with ⟨low, high, shifted⟩ | ⟨-, kept⟩
      · exact apart _ (.inr (by omega))
      · rwa [kept]

namespace KeptByCase

variable {p : Char → Bool}

theorem fold_dropWhile (kept : KeptByCase p) (cs : List Char) :
    fold (cs.dropWhile p) = (fold cs).dropWhile p := by
  induction cs with
  | nil => rfl
  | cons c cs ih =>
      rw [fold_cons]
      cases member : p c with
      | true =>
          rw [List.dropWhile_cons_of_pos member, ih, kept.same c member, List.singleton_append,
            List.dropWhile_cons_of_pos member]
      | false =>
          obtain ⟨nonempty, others⟩ := kept.other c member
          obtain ⟨d, ds, made⟩ := List.exists_cons_of_ne_nil nonempty
          have other : p d = false := others d (by rw [made]; exact List.mem_cons_self)
          rw [List.dropWhile_cons_of_neg (by simp [member]), fold_cons, made, List.cons_append,
            List.dropWhile_cons_of_neg (by simp [other])]

theorem fold_rdropWhile (kept : KeptByCase p) (cs : List Char) :
    fold (cs.rdropWhile p) = (fold cs).rdropWhile p := by
  induction cs using List.reverseRecOn with
  | nil => rfl
  | append_singleton cs c ih =>
      rw [fold_append, fold_cons, fold_nil, List.append_nil]
      cases member : p c with
      | true =>
          rw [List.rdropWhile_concat_pos _ _ _ member, ih, kept.same c member,
            List.rdropWhile_concat_pos _ _ _ member]
      | false =>
          obtain ⟨nonempty, others⟩ := kept.other c member
          have other : ¬ p ((foldChar c).getLast nonempty) = true := by
            simp [others _ (List.getLast_mem nonempty)]
          rw [List.rdropWhile_concat_neg _ _ _ (by simp [member]), fold_append, fold_cons,
            fold_nil, List.append_nil, ← List.dropLast_append_getLast nonempty,
            ← List.append_assoc, List.rdropWhile_concat_neg _ _ _ other]

/-- Leaving the characters of a class out commutes with folding. -/
theorem fold_filter_not (kept : KeptByCase p) (cs : List Char) :
    fold (cs.filter (!p ·)) = (fold cs).filter (!p ·) := by
  induction cs with
  | nil => rfl
  | cons c cs ih =>
      rw [fold_cons, List.filter_append, ← ih]
      cases member : p c with
      | true => simp [kept.same c member, member]
      | false =>
          have all_ : (foldChar c).filter (!p ·) = foldChar c :=
            List.filter_eq_self.mpr fun d made => by simp [(kept.other c member).2 d made]
          rw [List.filter_cons_of_pos (by simp [member]), fold_cons, all_]

theorem all_not_fold (kept : KeptByCase p) (cs : List Char) :
    (fold cs).all (!p ·) = cs.all (!p ·) := by
  induction cs with
  | nil => rfl
  | cons c cs ih =>
      rw [fold_cons, List.all_append, ih, List.all_cons]
      congr 1
      cases member : p c with
      | true => simp [kept.same c member, member]
      | false =>
          rw [Bool.not_false, List.all_eq_true]
          exact fun d made => by simp [(kept.other c member).2 d made]

end KeptByCase

/-! ## Trimming -/

theorem fold_trimChars (cs : List Char) : fold (trimChars cs) = trimChars (fold cs) := by
  rw [trimChars_eq_rdropWhile, trimChars_eq_rdropWhile, keptByCase_isBlank.fold_rdropWhile,
    keptByCase_isBlank.fold_dropWhile]

theorem trim_foldText (s : String) : trim (foldText s) = foldText (trim s) := by
  rw [← String.toList_inj, toList_trim, toList_foldText, toList_foldText, toList_trim,
    fold_trimChars]

theorem foldChar_ne_nil (c : Char) : foldChar c ≠ [] := by
  cases text : isBlank c with
  | true => simp [keptByCase_isBlank.same c text]
  | false => exact (keptByCase_isBlank.other c text).1

theorem fold_eq_nil_iff {cs : List Char} : fold cs = [] ↔ cs = [] := by
  cases cs with
  | nil => simp
  | cons c cs => simp [foldChar_ne_nil c]

theorem foldText_eq_empty_iff {s : String} : foldText s = "" ↔ s = "" := by
  rw [← String.toList_inj, toList_foldText, String.toList_empty, fold_eq_nil_iff,
    String.toList_eq_nil_iff]

theorem nonBlank?_foldText (s : String) : nonBlank? (foldText s) = (nonBlank? s).map foldText := by
  simp only [nonBlank?, trim_foldText, foldText_eq_empty_iff]
  split <;> rfl

theorem blank_foldText (s : String) : blank (foldText s) = blank s := by
  rw [Bool.eq_iff_iff, blank_iff_trim_eq_empty, blank_iff_trim_eq_empty, trim_foldText,
    foldText_eq_empty_iff]

theorem nonBlank?_congr {s t : String} (same : foldText s = foldText t) :
    (nonBlank? s).map foldText = (nonBlank? t).map foldText := by
  rw [← nonBlank?_foldText, same, nonBlank?_foldText]

theorem trim_congr {s t : String} (same : foldText s = foldText t) :
    foldText (trim s) = foldText (trim t) := by
  rw [← trim_foldText, same, trim_foldText]

theorem blank_congr {s t : String} (same : foldText s = foldText t) : blank s = blank t := by
  rw [← blank_foldText, same, blank_foldText]

/-! ## Lists in one text -/

theorem keptByCase_isSeparator : KeptByCase isSeparator := by
  refine keptByCase_of_marks fun c mark => ?_
  simp only [isSeparator, Bool.or_eq_true, beq_iff_eq] at mark
  rcases mark with rfl | rfl
  · exact .inl (by decide)
  · exact .inl (by decide)

/-- The pieces between the separators are folded one by one. -/
theorem pieces_fold (cs : List Char) : pieces (fold cs) = (pieces cs).map fold := by
  induction cs with
  | nil => rfl
  | cons c cs ih =>
      rw [fold_cons]
      cases mark : isSeparator c with
      | true =>
          rw [keptByCase_isSeparator.same c mark, List.singleton_append, pieces, if_pos mark, ih,
            pieces, if_pos mark, List.map_cons, fold_nil]
      | false =>
          obtain ⟨piece, rest, made⟩ := List.exists_cons_of_ne_nil (pieces_ne_nil cs)
          rw [pieces_append (keptByCase_isSeparator.other c mark).2, ih, pieces,
            if_neg (by simp [mark]), made]
          simp

/-! ## Words in ASCII letters -/

/-- An ASCII character that only it and its capital fold to: not `k`, which is the small form of
the Kelvin sign too. -/
def plain (c : Char) : Bool :=
  c.toNat < 128 && c.toLower ≠ 'k'

theorem plain_of_wide {c : Char} (wide : 128 ≤ c.toNat) : plain c = false := by
  simp [plain, Nat.not_lt.mpr wide]

theorem plain_toLower (c : Char) : plain c.toLower = plain c :=
  apply_toLower (by decide) c

/-- A text is written in plain characters if it folds to them. -/
theorem all_plain_fold (cs : List Char) : (fold cs).all plain = cs.all plain := by
  induction cs with
  | nil => rfl
  | cons c cs ih =>
      rw [fold_cons, List.all_append, ih, List.all_cons]
      congr 1
      by_cases wide : 128 ≤ c.toNat
      · rw [plain_of_wide wide]
        by_cases dotted : c = 'İ'
        · rw [dotted, foldChar_dotted]
          decide
        · obtain ⟨d, small, beyond, -⟩ := foldChar_of_wide wide dotted
          rw [small, List.all_cons, List.all_nil, Bool.and_true]
          rcases beyond with beyond | rfl
          · exact plain_of_wide beyond
          · decide
      · rw [foldChar_of_ascii (by omega), List.all_cons, List.all_nil, Bool.and_true,
          plain_toLower]

/-- On plain characters folding is that of ASCII letters. -/
theorem fold_of_plain {cs : List Char} (allPlain : cs.all plain = true) :
    fold cs = cs.map Char.toLower := by
  induction cs with
  | nil => rfl
  | cons c cs ih =>
      rw [List.all_cons, Bool.and_eq_true] at allPlain
      obtain ⟨first, later⟩ := allPlain
      have narrow : c.toNat < 128 := by
        rw [plain, Bool.and_eq_true, decide_eq_true_eq] at first
        exact first.1
      rw [fold_cons, foldChar_of_ascii narrow, ih later, List.map_cons, List.singleton_append]

theorem all_plain_map (cs : List Char) : (cs.map Char.toLower).all plain = cs.all plain := by
  rw [List.all_map]
  congr 1
  funext c
  exact plain_toLower c

/-- Texts with one folded form are written in plain characters, and are then equal up to the case of
ASCII letters, or none of them is. -/
theorem plain_or_not {s t : String} (same : foldText s = foldText t) :
    (s.toList.all plain = true ∧ t.toList.all plain = true ∧
        s.toList.map Char.toLower = t.toList.map Char.toLower) ∨
      (s.toList.all plain = false ∧ t.toList.all plain = false) := by
  rw [foldText_inj] at same
  have both : s.toList.all plain = t.toList.all plain := by
    rw [← all_plain_fold, same, all_plain_fold]
  cases first : s.toList.all plain with
  | true =>
      have second : t.toList.all plain = true := both ▸ first
      rw [fold_of_plain first, fold_of_plain second] at same
      exact .inl ⟨rfl, second, same⟩
  | false => exact .inr ⟨rfl, both ▸ first⟩

theorem plain_of_sameIgnoringAsciiCase {s word : String} (allPlain : word.toList.all plain = true)
    (found : sameIgnoringAsciiCase s word = true) : s.toList.all plain = true := by
  rw [sameIgnoringAsciiCase, beq_iff_eq] at found
  rw [← all_plain_map, found, all_plain_map, allPlain]

/-- A plain word is recognized up to the case of ASCII letters in texts with one folded form. -/
theorem sameIgnoringAsciiCase_congr {s t word : String} (same : foldText s = foldText t)
    (allPlain : word.toList.all plain = true) :
    sameIgnoringAsciiCase s word = sameIgnoringAsciiCase t word := by
  have refuse : ∀ u : String, u.toList.all plain = false →
      sameIgnoringAsciiCase u word = false := by
    intro u other
    rw [Bool.eq_false_iff]
    intro found
    rw [plain_of_sameIgnoringAsciiCase allPlain found] at other
    cases other
  rcases plain_or_not same with ⟨-, -, letters⟩ | ⟨first, second⟩
  · rw [sameIgnoringAsciiCase, sameIgnoringAsciiCase, letters]
  · rw [refuse s first, refuse t second]

end PhaseTable.Text
