/-
# PhaseTable.Proofs.Text.Joining -- lists that are written as one text, and read again

`Joined` says in which ways a list of values can be written as one text: with a comma or a
semicolon between two values, and with any blanks around each.  `Strewn` is looser: any mix of
separators and blanks may stand between two values and at both ends.  Values that are trimmed,
differ from each other and have no separator of their own are read from each of these texts again
(`splitValues_of_strewn`).  Blanks at the ends of a text belong to its first and its last piece, so
trimming a text does not change the list that is read from it (`splitValues_trim`).
-/
import PhaseTable.Proofs.Text.Pieces

namespace PhaseTable.Text

set_option autoImplicit false

/-! ## Blanks around characters -/

/-- Characters with blanks around them. -/
def Padded (cs padded : List Char) : Prop :=
  ∃ before after, (∀ c ∈ before, isBlank c = true) ∧ (∀ c ∈ after, isBlank c = true) ∧
    padded = before ++ cs ++ after

theorem Padded.refl (cs : List Char) : Padded cs cs :=
  ⟨[], [], nofun, nofun, by simp⟩

theorem Padded.blanks_append {cs padded before : List Char} (around : Padded cs padded)
    (blanks : ∀ c ∈ before, isBlank c = true) : Padded cs (before ++ padded) := by
  obtain ⟨front, after, blanksFront, blanksAfter, rfl⟩ := around
  refine ⟨before ++ front, after, fun c listed => ?_, blanksAfter, by simp⟩
  exact (List.mem_append.mp listed).elim (blanks c) (blanksFront c)

/-- What is known to be neither of the two separators separates nothing. -/
theorem isSeparator_of_kind {kind : Char → Bool} (comma : kind ',' = false)
    (semicolon : kind ';' = false) {c : Char} (of_kind : kind c = true) :
    isSeparator c = false := by
  cases separates : isSeparator c with
  | false => rfl
  | true =>
      simp only [isSeparator, Bool.or_eq_true, beq_iff_eq] at separates
      rcases separates with rfl | rfl
      · rw [comma] at of_kind
        cases of_kind
      · rw [semicolon] at of_kind
        cases of_kind

theorem isSeparator_of_isBlank {c : Char} : isBlank c = true → isSeparator c = false :=
  isSeparator_of_kind (by decide) (by decide)

theorem isSeparator_of_isDigit {c : Char} : c.isDigit = true → isSeparator c = false :=
  isSeparator_of_kind (by decide) (by decide)

theorem trimChars_append_blanks (cs : List Char) {after : List Char}
    (blanks : ∀ c ∈ after, isBlank c = true) : trimChars (cs ++ after) = trimChars cs := by
  by_cases empty : cs.dropWhile isBlank = []
  · have all : ∀ c ∈ cs, isBlank c = true := List.dropWhile_eq_nil_iff.mp empty
    rw [trimChars_eq_nil_iff.mpr all, trimChars_eq_nil_iff]
    intro c member
    rcases List.mem_append.mp member with inside | behind
    · exact all c inside
    · exact blanks c behind
  · have front : (cs ++ after).dropWhile isBlank = cs.dropWhile isBlank ++ after := by
      rw [List.dropWhile_append, if_neg (by simpa using empty)]
    rw [trimChars, front, List.reverse_append, List.dropWhile_append_of_pos, trimChars]
    exact fun c member => blanks c (List.mem_reverse.mp member)

theorem trimChars_padded {cs padded : List Char} (around : Padded cs padded) :
    trimChars padded = trimChars cs := by
  obtain ⟨before, after, blanks, blanksAfter, rfl⟩ := around
  rw [trimChars_append_blanks _ blanksAfter, trimChars, List.dropWhile_append_of_pos blanks,
    trimChars]

/-- A text is what is left of it by trimming, with blanks around. -/
theorem padded_trim (s : String) : Padded (trim s).toList s.toList := by
  have front := List.takeWhile_append_dropWhile (p := isBlank) (l := s.toList)
  have back : (s.toList.dropWhile isBlank).rdropWhile isBlank ++
      (s.toList.dropWhile isBlank).rtakeWhile isBlank = s.toList.dropWhile isBlank :=
    List.rdropWhile_append_rtakeWhile
  refine ⟨s.toList.takeWhile isBlank, (s.toList.dropWhile isBlank).rtakeWhile isBlank,
    fun c member => List.mem_takeWhile_imp member, fun c member => ?_, ?_⟩
  · exact List.mem_rtakeWhile_imp member
  · rw [toList_trim, trimChars_eq_rdropWhile, List.append_assoc, back, front]

theorem nonBlank?_padded {cs padded : List Char} (around : Padded cs padded) :
    nonBlank? (String.ofList padded) = nonBlank? (String.ofList cs) := by
  simp only [nonBlank?, trim, String.toList_ofList, trimChars_padded around]

/-! ## Pieces -/

theorem pieces_separator {c : Char} (separates : isSeparator c = true) (cs : List Char) :
    pieces (c :: cs) = [] :: pieces cs := by
  rw [pieces, if_pos separates]

/-- Characters without a separator are one piece. -/
theorem pieces_of_plain {cs : List Char} (plain : ∀ c ∈ cs, isSeparator c = false) :
    pieces cs = [cs] := by
  simpa [pieces] using pieces_append plain []

/-- The characters before a separator are the first piece. -/
theorem pieces_append_separator {cs : List Char} (plain : ∀ c ∈ cs, isSeparator c = false)
    {c : Char} (separates : isSeparator c = true) (ds : List Char) :
    pieces (cs ++ c :: ds) = cs :: pieces ds := by
  rw [pieces_append plain, pieces_separator separates, List.modifyHead_cons, List.append_nil]

theorem Padded.plain {cs padded : List Char} (around : Padded cs padded)
    (plain : ∀ c ∈ cs, isSeparator c = false) : ∀ c ∈ padded, isSeparator c = false := by
  obtain ⟨before, after, blanks, blanksAfter, rfl⟩ := around
  intro c member
  rcases List.mem_append.mp member with member | behind
  · rcases List.mem_append.mp member with front | inside
    · exact isSeparator_of_isBlank (blanks c front)
    · exact plain c inside
  · exact isSeparator_of_isBlank (blanksAfter c behind)

/-! ## Reading -/

/-- The values of the pieces of a text, with repeats. -/
def readPieces (cs : List Char) : List String :=
  ((pieces cs).map String.ofList).filterMap nonBlank?

theorem splitValues_eq (s : String) : splitValues s = distinct (readPieces s.toList) := rfl

/-- Blanks in front belong to the first piece. -/
theorem readPieces_blanks_append {before : List Char} (blanks : ∀ c ∈ before, isBlank c = true)
    (cs : List Char) : readPieces (before ++ cs) = readPieces cs := by
  have plain : ∀ c ∈ before, isSeparator c = false :=
    fun c member => isSeparator_of_isBlank (blanks c member)
  obtain ⟨piece, rest, made⟩ := List.exists_cons_of_ne_nil (pieces_ne_nil cs)
  have around : Padded piece (before ++ piece) := ⟨before, [], blanks, nofun, by simp⟩
  rw [readPieces, pieces_append plain, made, readPieces, made]
  simp only [List.modifyHead_cons, List.map_cons, List.filterMap_cons, nonBlank?_padded around]

/-- Blanks behind belong to the last piece. -/
theorem exists_pieces_append_blanks {after : List Char} (blanks : ∀ c ∈ after, isBlank c = true)
    (cs : List Char) : ∃ front last,
      pieces cs = front ++ [last] ∧ pieces (cs ++ after) = front ++ [last ++ after] := by
  have plain : ∀ c ∈ after, isSeparator c = false :=
    fun c member => isSeparator_of_isBlank (blanks c member)
  induction cs with
  | nil => exact ⟨[], [], rfl, pieces_of_plain plain⟩
  | cons c cs ih =>
      obtain ⟨front, last, made, madeLonger⟩ := ih
      cases separates : isSeparator c with
      | true =>
          refine ⟨[] :: front, last, ?_, ?_⟩
          · rw [pieces_separator separates, made, List.cons_append]
          · rw [List.cons_append, pieces_separator separates, madeLonger, List.cons_append]
      | false =>
          have alone : ∀ d ∈ [c], isSeparator d = false := by simpa using separates
          have first := pieces_append alone
          simp only [List.singleton_append] at first
          cases front with
          | nil => exact ⟨[], c :: last, by simp [first, made], by simp [first, madeLonger]⟩
          | cons piece front =>
              exact ⟨(c :: piece) :: front, last, by simp [first, made],
                by simp [first, madeLonger]⟩

theorem readPieces_append_blanks {after : List Char} (blanks : ∀ c ∈ after, isBlank c = true)
    (cs : List Char) : readPieces (cs ++ after) = readPieces cs := by
  obtain ⟨front, last, made, madeLonger⟩ := exists_pieces_append_blanks blanks cs
  have around : Padded last (last ++ after) := ⟨[], after, nofun, blanks, by simp⟩
  rw [readPieces, madeLonger, readPieces, made]
  simp only [List.map_append, List.map_cons, List.map_nil, List.filterMap_append,
    List.filterMap_cons, nonBlank?_padded around]

/-- Trimming a text does not change the list that is read from it. -/
theorem splitValues_trim (s : String) : splitValues (trim s) = splitValues s := by
  obtain ⟨before, after, blanks, blanksAfter, whole⟩ := padded_trim s
  rw [splitValues_eq, splitValues_eq, whole, readPieces_append_blanks blanksAfter,
    readPieces_blanks_append blanks]

/-! ## Lists as texts -/

/-- The characters write the values as a list: with blanks around each, and a separator between
two of them. -/
inductive Joined : List String → List Char → Prop where
  | last {value : String} {padded : List Char} (around : Padded value.toList padded) :
      Joined [value] padded
  | cons {value : String} {padded : List Char} (around : Padded value.toList padded)
      {separator : Char} (separates : isSeparator separator = true)
      {values : List String} {rest : List Char} (later : Joined values rest) :
      Joined (value :: values) (padded ++ separator :: rest)

/-- The characters write the values as a list in the loosest way: separators and blanks stand
between two values in any mix, with one separator at least, and more of them may stand in front of
the first value and behind the last.  No value is written by blanks and separators alone. -/
inductive Strewn : List String → List Char → Prop where
  | nil {blanks : List Char} (allBlank : ∀ c ∈ blanks, isBlank c = true) : Strewn [] blanks
  | last {value : String} {padded : List Char} (around : Padded value.toList padded) :
      Strewn [value] padded
  | skip {blanks : List Char} (allBlank : ∀ c ∈ blanks, isBlank c = true)
      {separator : Char} (separates : isSeparator separator = true)
      {values : List String} {rest : List Char} (later : Strewn values rest) :
      Strewn values (blanks ++ separator :: rest)
  | cons {value : String} {padded : List Char} (around : Padded value.toList padded)
      {separator : Char} (separates : isSeparator separator = true)
      {values : List String} {rest : List Char} (later : Strewn values rest) :
      Strewn (value :: values) (padded ++ separator :: rest)

theorem Joined.strewn {values : List String} {cs : List Char} (joined : Joined values cs) :
    Strewn values cs := by
  induction joined with
  | last around => exact .last around
  | cons around separates _ ih => exact .cons around separates ih

theorem Joined.blanks_append {values : List String} {cs : List Char} (joined : Joined values cs)
    {before : List Char} (blanks : ∀ c ∈ before, isBlank c = true) :
    Joined values (before ++ cs) := by
  cases joined with
  | last around => exact .last (around.blanks_append blanks)
  | cons around separates later =>
      rw [← List.append_assoc]
      exact .cons (around.blanks_append blanks) separates later

/-- Values with a separator and blanks between them are written as a list. -/
theorem joined_intercalate {between : String} {separator : Char} {blanks : List Char}
    (begins : between.toList = separator :: blanks) (separates : isSeparator separator = true)
    (allBlank : ∀ c ∈ blanks, isBlank c = true) {values : List String} (some_ : values ≠ []) :
    Joined values (between.intercalate values).toList := by
  induction values with
  | nil => exact absurd rfl some_
  | cons first rest ih =>
      cases rest with
      | nil =>
          rw [String.intercalate_singleton]
          exact .last (.refl first.toList)
      | cons second rest =>
          rw [String.intercalate_cons_cons, String.toList_append, String.toList_append, begins,
            List.append_assoc, List.cons_append]
          exact .cons (.refl first.toList) separates
            ((ih (List.cons_ne_nil second rest)).blanks_append allBlank)

/-- A value that can be a member of a list in a text: trimmed, and without a separator. -/
def Listable (value : String) : Prop :=
  Trimmed value ∧ ∀ c ∈ value.toList, isSeparator c = false

instance (value : String) : Decidable (Listable value) :=
  decidable_of_iff (Trimmed value ∧ value.toList.all (!isSeparator ·) = true) (by simp [Listable])

theorem distinctNonBlank_of_listable {values : List String} (listable : ∀ v ∈ values, Listable v)
    (nodup : values.Nodup) : distinctNonBlank values = values := by
  rw [distinctNonBlank, filterMap_nonBlank?_of_trimmed fun v member => (listable v member).1,
    distinct_of_nodup nodup]

theorem Listable.nonBlank?_padded {value : String} (listable : Listable value) {padded : List Char}
    (around : Padded value.toList padded) : nonBlank? (String.ofList padded) = some value := by
  rw [Text.nonBlank?_padded around, String.ofList_toList, listable.1.nonBlank?]

/-- The values of a list are read again, piece by piece; nothing is read from idle pieces. -/
theorem Strewn.readPieces {values : List String} {cs : List Char} (strewn : Strewn values cs)
    (listable : ∀ v ∈ values, Listable v) : readPieces cs = values := by
  have idle : ∀ {blanks : List Char}, (∀ c ∈ blanks, isBlank c = true) →
      nonBlank? (String.ofList blanks) = none ∧ ∀ c ∈ blanks, isSeparator c = false := by
    intro blanks allBlank
    refine ⟨?_, fun c member => isSeparator_of_isBlank (allBlank c member)⟩
    rwa [nonBlank?_eq_none_iff, blank, String.toList_ofList, List.all_eq_true]
  induction strewn with
  | nil allBlank =>
      obtain ⟨nothing, plain⟩ := idle allBlank
      rw [Text.readPieces, pieces_of_plain plain, List.map_singleton,
        List.filterMap_cons_none nothing, List.filterMap_nil]
  | last around =>
      have member := listable _ (List.mem_singleton_self _)
      rw [Text.readPieces, pieces_of_plain (around.plain member.2), List.map_singleton,
        List.filterMap_cons_some (member.nonBlank?_padded around), List.filterMap_nil]
  | skip allBlank separates later ih =>
      obtain ⟨nothing, plain⟩ := idle allBlank
      rw [Text.readPieces, pieces_append_separator plain separates, List.map_cons,
        List.filterMap_cons_none nothing]
      exact ih listable
  | cons around separates later ih =>
      obtain ⟨first, rest⟩ := List.forall_mem_cons.mp listable
      rw [Text.readPieces, pieces_append_separator (around.plain first.2) separates, List.map_cons,
        List.filterMap_cons_some (first.nonBlank?_padded around)]
      exact congrArg _ (ih rest)

theorem Joined.readPieces {values : List String} {cs : List Char} (joined : Joined values cs)
    (listable : ∀ v ∈ values, Listable v) : readPieces cs = values :=
  joined.strewn.readPieces listable

/-- **What is written as a list is read again**, however the values are strewn, if they are
trimmed, have no separators and differ from each other. -/
theorem splitValues_of_strewn {values : List String} {s : String} (strewn : Strewn values s.toList)
    (listable : ∀ v ∈ values, Listable v) (nodup : values.Nodup) : splitValues s = values := by
  rw [splitValues_eq, strewn.readPieces listable, distinct_of_nodup nodup]

theorem splitValues_of_joined {values : List String} {s : String} (joined : Joined values s.toList)
    (listable : ∀ v ∈ values, Listable v) (nodup : values.Nodup) : splitValues s = values :=
  splitValues_of_strewn joined.strewn listable nodup

theorem Listable.splitValues {value : String} (listable : Listable value) :
    splitValues value = [value] := by
  refine splitValues_of_joined (.last (.refl value.toList)) ?_ (List.pairwise_singleton _ value)
  intro v member
  rwa [List.mem_singleton.mp member]

end PhaseTable.Text
