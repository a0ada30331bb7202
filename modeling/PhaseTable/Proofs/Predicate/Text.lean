/-
# PhaseTable.Proofs.Predicate.Text -- a tree can be told from its text

Two trees with one text are equal, but for the sign of zero (`Predicate.same`), if the names of
their fields are plain and if their groups have two members or more.  A tree stands in the text of
a group and something follows it, so what is proved by induction says more: whatever follows, it is
known where the tree ends (`Predicate.Told`).

A field ends at a blank and a number at what is neither digit nor point.  The quotes of a text are
told from those inside it, which are doubled.  A group begins with a parenthesis, and the word
after its first member tells its kind; that is why a group needs a second one.
-/
import PhaseTable.Proofs.Number.NumberTexts
import PhaseTable.Proofs.Predicate.Proper

namespace PhaseTable

set_option autoImplicit false

open Text

/-! ## Equal trees -/

/-- The tests are equal; numbers are compared as numbers, so that the two zeros are equal. -/
def Test.same : Test → Test → Bool
  | .number op x, .number other y => op == other && x.same y
  | .text op s, .text other t => op == other && s == t
  | _, _ => false

/-- The comparisons are equal, but for the sign of zero. -/
def Comparison.same (c d : Comparison) : Bool :=
  c.field == d.field && c.test.same d.test

namespace Predicate

mutual

/-- The trees are equal, but for the sign of zero. -/
def same : Predicate → Predicate → Bool
  | .leaf c, .leaf d => c.same d
  | .and items, .and others => sameItems items others
  | .or items, .or others => sameItems items others
  | _, _ => false

def sameItems : List Predicate → List Predicate → Bool
  | [], [] => true
  | item :: items, other :: others => item.same other && sameItems items others
  | _, _ => false

end

end Predicate

/-! ## Names -/

/-- A custom field has a name of ASCII letters, digits, underscores and points. -/
def Field.isPlain : Field → Bool
  | .phaseNumber => true
  | .custom name => name.toList.all fun c => c.isAlphanum || c == '_' || c == '.'

/-- A plain name has neither a blank nor a parenthesis. -/
theorem Field.ne_of_isPlain {field : Field} (plain : field.isPlain = true) :
    ∀ c ∈ field.name.toList, c ≠ ' ' ∧ c ≠ '(' := by
  have letters : field.name.toList.all (fun c => c.isAlphanum || c == '_' || c == '.') = true := by
    cases field with
    | phaseNumber => rfl
    | custom name => exact plain
  intro c listed
  have kind := List.all_eq_true.mp letters c listed
  constructor
  · rintro rfl
    exact absurd kind (by decide)
  · rintro rfl
    exact absurd kind (by decide)

theorem Field.solid_of_isPlain {field : Field} (plain : field.isPlain = true) :
    ∀ c ∈ field.name.toList, (c != ' ') = true := fun c listed =>
  bne_iff_ne.mpr (ne_of_isPlain plain c listed).1

/-! ## What follows -/

/-- What can follow a comparison in the text of a tree: the word between two members of a group,
or the end of the group. -/
def Follows (rest : List Char) : Prop :=
  ∀ c ∈ rest.head?, c = ' ' ∨ c = ')'

theorem follows_blank (rest : List Char) : Follows (' ' :: rest) := by
  rintro _ ⟨⟩
  exact .inl rfl

theorem follows_parenthesis (rest : List Char) : Follows (')' :: rest) := by
  rintro _ ⟨⟩
  exact .inr rfl

theorem Follows.head_eq_false {rest : List Char} (follows : Follows rest) {p : Char → Bool}
    (blank : p ' ' = false) (parenthesis : p ')' = false) : ∀ c ∈ rest.head?, p c = false := by
  intro c first
  rcases follows c first with rfl | rfl
  · exact blank
  · exact parenthesis

theorem Follows.head_ne_quote {rest : List Char} (follows : Follows rest) :
    ∀ c ∈ rest.head?, c ≠ '\'' := fun c first =>
  beq_eq_false_iff_ne.mp (follows.head_eq_false (p := (· == '\'')) rfl rfl c first)

/-! ## Comparisons -/

theorem NumberOp.sign_injective : Function.Injective NumberOp.sign := by
  intro op other same
  cases op <;> cases other <;> first | rfl | exact absurd same (by decide)

theorem TextOp.sign_injective : Function.Injective TextOp.sign := by
  intro op other same
  cases op <;> cases other <;> first | rfl | exact absurd same (by decide)

theorem NumberOp.sign_solid (op : NumberOp) : op.sign.toList.all (· != ' ') = true := by
  cases op <;> rfl

theorem TextOp.sign_solid (op : TextOp) : op.sign.toList.all (· != ' ') = true := by
  cases op <;> rfl

/-- The character can stand in the text of a finite number. -/
def isNumberChar (c : Char) : Bool :=
  c.isDigit || c == '-' || c == '.'

theorem isNumberChar_of_mem {x : Binary64} (finite : x.isFinite = true) {c : Char}
    (listed : c ∈ (formatNumber x).toList) : isNumberChar c = true := by
  simpa [isNumberChar, or_assoc] using Binary64.mem_formatNumber finite listed

def Test.Finite (t : Test) : Prop :=
  ∀ op value, t = .number op value → value.isFinite = true

namespace Test

def sign : Test → String
  | .number op _ => op.sign
  | .text op _ => op.sign

/-- What a test compares with, as it is written. -/
def operand : Test → List Char
  | .number _ value => (formatNumber value).toList
  | .text _ value => '\'' :: (doubled value.toList ++ ['\''])

theorem sign_solid (t : Test) : ∀ c ∈ t.sign.toList, (c != ' ') = true := by
  cases t with
  | number op value => exact List.all_eq_true.mp op.sign_solid
  | text op value => exact List.all_eq_true.mp op.sign_solid

theorem number_append_ne_quote {x : Binary64} (finite : x.isFinite = true) {rest : List Char}
    (follows : Follows rest) (others : List Char) :
    (formatNumber x).toList ++ rest ≠ '\'' :: others := by
  intro same
  cases text : (formatNumber x).toList with
  | nil =>
      rw [text, List.nil_append] at same
      rcases follows '\'' (by rw [same]; rfl) with impossible | impossible
      · cases impossible
      · cases impossible
  | cons c cs =>
      rw [text, List.cons_append] at same
      obtain rfl := (List.cons.inj same).1
      have listed : '\'' ∈ (formatNumber x).toList := text ▸ List.mem_cons_self
      exact absurd (isNumberChar_of_mem finite listed) (by decide)

/-- Tests are told apart by their signs and operands, whatever follows. -/
theorem told {t u : Test} (finite : t.Finite) (finite' : u.Finite) {rest rest' : List Char}
    (follows : Follows rest) (follows' : Follows rest') (signs : t.sign = u.sign)
    (operands : t.operand ++ rest = u.operand ++ rest') : t.same u = true ∧ rest = rest' := by
  cases t with
  | number op x =>
      cases u with
      | number other y =>
          have number := finite op x rfl
          have number' := finite' other y rfl
          obtain ⟨texts, rests⟩ := run_inj (fun _ => isNumberChar_of_mem number)
            (fun _ => isNumberChar_of_mem number') (follows.head_eq_false rfl rfl)
            (follows'.head_eq_false rfl rfl) operands
          have numbers := Binary64.same_of_formatNumber number number' (String.toList_inj.mp texts)
          have ops : op = other := NumberOp.sign_injective signs
          exact ⟨by simp [same, ops, numbers], rests⟩
      | text other value =>
          exact absurd operands (number_append_ne_quote (finite op x rfl) follows _)
  | text op value =>
      cases u with
      | number other y =>
          exact absurd operands.symm (number_append_ne_quote (finite' other y rfl) follows' _)
      | text other value' =>
          simp only [operand, List.cons_append, List.append_assoc, List.cons.injEq, true_and,
            List.nil_append] at operands
          obtain ⟨values, rests⟩ := quoted_inj follows.head_ne_quote follows'.head_ne_quote operands
          have ops : op = other := TextOp.sign_injective signs
          exact ⟨by simp [same, ops, String.toList_inj.mp values], rests⟩

end Test

namespace Comparison

theorem toList_text (c : Comparison) : c.text.toList =
    c.field.name.toList ++ ' ' :: (c.test.sign.toList ++ ' ' :: c.test.operand) := by
  obtain ⟨field, test⟩ := c
  cases test with
  | number op value => simp [text, Test.sign, Test.operand]
  | text op value => simp [text, Test.sign, Test.operand, toList_doubleQuotes]

/-- Comparisons are told apart by their texts, whatever follows, but for a field that has the name
of the phase. -/
theorem told {c d : Comparison} (plain : c.field.isPlain = true) (plain' : d.field.isPlain = true)
    (finite : c.test.Finite) (finite' : d.test.Finite)
    (named : c.field.name = d.field.name → c.field = d.field) {rest rest' : List Char}
    (follows : Follows rest) (follows' : Follows rest')
    (texts : c.text.toList ++ rest = d.text.toList ++ rest') :
    c.same d = true ∧ rest = rest' := by
  have blank : ∀ cs : List Char, ∀ ch ∈ (' ' :: cs).head?, (ch != ' ') = false := by
    rintro cs _ ⟨⟩
    rfl
  simp only [toList_text, List.append_assoc, List.cons_append] at texts
  obtain ⟨names, tests⟩ := run_inj (Field.solid_of_isPlain plain) (Field.solid_of_isPlain plain')
    (blank _) (blank _) texts
  obtain ⟨signs, operands⟩ := run_inj c.test.sign_solid d.test.sign_solid (blank _) (blank _)
    (List.cons.inj tests).2
  obtain ⟨equal, rests⟩ := Test.told finite finite' follows follows'
    (String.toList_inj.mp signs) (List.cons.inj operands).2
  exact ⟨by simp [same, named (String.toList_inj.mp names), equal], rests⟩

end Comparison

/-! ## Groups -/

namespace Predicate

/-- The trees can be told apart, or are equal, whatever follows their texts, and where they end is
known. -/
def Told (p q : Predicate) : Prop :=
  ∀ {rest rest' : List Char}, Follows rest → Follows rest' →
    p.text.toList ++ rest = q.text.toList ++ rest' → p.same q = true ∧ rest = rest'

def joints : List String :=
  [" AND ", " OR "]

theorem mem_joints {joint : String} : joint ∈ joints ↔ joint = " AND " ∨ joint = " OR " := by
  rw [joints, List.mem_cons, List.mem_singleton]

/-- The members of a group after the first one, each with the word before it. -/
def tail (joint : String) (items : List Predicate) : List Char :=
  items.flatMap fun p => joint.toList ++ p.text.toList

theorem tail_cons_append (joint : String) (p : Predicate) (items : List Predicate)
    (rest : List Char) : tail joint (p :: items) ++ rest =
      joint.toList ++ (p.text.toList ++ (tail joint items ++ rest)) := by
  simp only [tail, List.flatMap_cons, List.append_assoc]

theorem toList_textsWith (joint : String) (p : Predicate) (items : List Predicate) :
    (textsWith joint (p :: items)).toList = p.text.toList ++ tail joint items := by
  induction items generalizing p with
  | nil => simp [textsWith, tail]
  | cons q items ih =>
      rw [textsWith, String.toList_append, String.toList_append, ih, tail, tail,
        List.flatMap_cons, List.append_assoc, List.append_assoc]

/-- The tree is a group of the members with the word between them. -/
inductive Group (joint : String) (items : List Predicate) : Predicate → Prop
  | and (word : joint = " AND ") : Group joint items (.and items)
  | or (word : joint = " OR ") : Group joint items (.or items)

namespace Group

variable {joint : String} {items others : List Predicate} {p q : Predicate}

theorem listed (group : Group joint items p) : joint ∈ joints := by
  rw [mem_joints]
  cases group with
  | and word => exact .inl word
  | or word => exact .inr word

theorem toList_text (group : Group joint items p) :
    p.text.toList = '(' :: ((textsWith joint items).toList ++ [')']) := by
  cases group with
  | and word => simp [text, word]
  | or word => simp [text, word]

theorem same_eq (group : Group joint items p) (group' : Group joint others q) :
    p.same q = sameItems items others := by
  cases group with
  | and word =>
      cases group' with
      | and => rw [same]
      | or word' => exact absurd (word.symm.trans word') (by decide)
  | or word =>
      cases group' with
      | and word' => exact absurd (word.symm.trans word') (by decide)
      | or => rw [same]

end Group

section Groups

variable {joint joint' : String} {rest rest' : List Char}

theorem joint_inj (listed : joint ∈ joints) (listed' : joint' ∈ joints)
    (same : joint.toList ++ rest = joint'.toList ++ rest') : joint = joint' ∧ rest = rest' := by
  rcases mem_joints.mp listed with rfl | rfl <;> rcases mem_joints.mp listed' with rfl | rfl
  · simpa using same
  · simp at same
  · simp at same
  · simpa using same

/-- What follows a member of a group. -/
theorem follows_tail (listed : joint ∈ joints) (items : List Predicate) (rest : List Char) :
    Follows (tail joint items ++ ')' :: rest) := by
  cases items with
  | nil => exact follows_parenthesis rest
  | cons p items =>
      rcases mem_joints.mp listed with rfl | rfl
      · exact follows_blank _
      · exact follows_blank _

/-- The word before a further member does not close the group. -/
theorem tail_ne_end (listed : joint ∈ joints) (p : Predicate) (items : List Predicate) :
    tail joint (p :: items) ++ rest ≠ ')' :: rest' := by
  intro same
  rcases mem_joints.mp listed with rfl | rfl
  · cases (List.cons.inj same).1
  · cases (List.cons.inj same).1

/-- The further members of two groups are told apart one by one. -/
theorem tail_told (listed : joint ∈ joints) (listed' : joint' ∈ joints)
    {ps qs : List Predicate} (each : ∀ p ∈ ps, ∀ q ∈ qs, p.Told q)
    (same : tail joint ps ++ ')' :: rest = tail joint' qs ++ ')' :: rest') :
    sameItems ps qs = true ∧ (ps ≠ [] → joint = joint') ∧ rest = rest' := by
  induction ps generalizing qs with
  | nil =>
      cases qs with
      | nil => exact ⟨rfl, fun some_ => absurd rfl some_, (List.cons.inj same).2⟩
      | cons q qs => exact absurd same.symm (tail_ne_end listed' q qs)
  | cons p ps ih =>
      cases qs with
      | nil => exact absurd same (tail_ne_end listed p ps)
      | cons q qs =>
          rw [tail_cons_append, tail_cons_append] at same
          obtain ⟨words, same⟩ := joint_inj listed listed' same
          obtain ⟨first, same⟩ := each p List.mem_cons_self q List.mem_cons_self
            (follows_tail listed ps rest) (follows_tail listed' qs rest') same
          have others : ∀ p ∈ ps, ∀ q ∈ qs, p.Told q := fun p listed q listed' =>
            each p (List.mem_cons_of_mem _ listed) q (List.mem_cons_of_mem _ listed')
          obtain ⟨equal, -, rests⟩ := ih others same
          exact ⟨by rw [sameItems, first, equal]; rfl, fun _ => words, rests⟩

/-- The members of two groups are told apart.  A second member tells the kind of the group. -/
theorem items_told (listed : joint ∈ joints) (listed' : joint' ∈ joints)
    {p q : Predicate} {ps qs : List Predicate} (first : p.Told q)
    (others : ∀ p ∈ ps, ∀ q ∈ qs, p.Told q)
    (same : (textsWith joint (p :: ps)).toList ++ ')' :: rest =
      (textsWith joint' (q :: qs)).toList ++ ')' :: rest') :
    sameItems (p :: ps) (q :: qs) = true ∧ (ps ≠ [] → joint = joint') ∧ rest = rest' := by
  rw [toList_textsWith, toList_textsWith, List.append_assoc, List.append_assoc] at same
  obtain ⟨equal, same⟩ := first (follows_tail listed ps rest) (follows_tail listed' qs rest') same
  obtain ⟨equalTail, words, rests⟩ := tail_told listed listed' others same
  exact ⟨by rw [sameItems, equal, equalTail]; rfl, words, rests⟩

/-- Groups of two members or more are told apart if their members are. -/
theorem Group.told {items others : List Predicate} {p q : Predicate} (group : Group joint items p)
    (group' : Group joint' others q) (several : 2 ≤ items.length) (several' : 2 ≤ others.length)
    (each : ∀ p ∈ items, ∀ q ∈ others, p.Told q) : p.Told q := by
  intro rest rest' _ _ texts
  match items, others with
  | first :: next :: ps, first' :: qs =>
    simp only [group.toList_text, group'.toList_text, List.cons_append, List.append_assoc,
      List.nil_append, List.cons.injEq, true_and] at texts
    have later : ∀ p ∈ next :: ps, ∀ q ∈ qs, p.Told q := fun p listed q listed' =>
      each p (List.mem_cons_of_mem _ listed) q (List.mem_cons_of_mem _ listed')
    obtain ⟨equal, words, rests⟩ := items_told group.listed group'.listed
      (each first List.mem_cons_self first' List.mem_cons_self) later texts
    obtain rfl := words (List.cons_ne_nil _ _)
    exact ⟨(group.same_eq group').trans equal, rests⟩

end Groups

/-! ## Trees -/

/-- The tree has custom fields with plain names only. -/
def PlainNames (p : Predicate) : Prop :=
  ∀ c ∈ p.comparisons, c.field.isPlain = true

instance (p : Predicate) : Decidable p.PlainNames :=
  inferInstanceAs (Decidable (∀ c ∈ p.comparisons, _))

theorem mem_comparisonsOf {items : List Predicate} {p : Predicate} (listed : p ∈ items)
    {c : Comparison} (member : c ∈ p.comparisons) : c ∈ comparisonsOf items := by
  induction items with
  | nil => cases listed
  | cons item items ih =>
      rw [comparisonsOf, List.mem_append]
      rcases List.mem_cons.mp listed with rfl | later
      · exact .inl member
      · exact .inr (ih later)

theorem PlainNames.of_mem {items : List Predicate}
    (plain : ∀ c ∈ comparisonsOf items, c.field.isPlain = true)
    {p : Predicate} (listed : p ∈ items) : p.PlainNames :=
  fun c member => plain c (mem_comparisonsOf listed member)

section Leaves

variable {c d : Comparison}

theorem isPlain_field (plain : (leaf c).PlainNames) : c.field.isPlain = true :=
  plain c (List.mem_singleton_self c)

theorem leaf_told (proper : c.Proper) (plain : (leaf c).PlainNames) (proper' : d.Proper)
    (plain' : (leaf d).PlainNames) : (leaf c).Told (leaf d) := by
  intro rest rest' follows follows' texts
  obtain ⟨name, field, -⟩ := proper.field
  obtain ⟨name', field', -⟩ := proper'.field
  rw [text, text] at texts
  rw [same]
  refine Comparison.told (isPlain_field plain) (isPlain_field plain') proper.number proper'.number
    ?_ follows follows' texts
  rw [field, field']
  exact congrArg Field.custom

/-- A comparison does not begin as a group does. -/
theorem leaf_ne_group (plain : (leaf c).PlainNames) {joint : String} {items : List Predicate}
    {q : Predicate} (group : Group joint items q) (rest rest' : List Char) :
    (leaf c).text.toList ++ rest ≠ q.text.toList ++ rest' := by
  intro same
  have solid := Field.ne_of_isPlain (isPlain_field plain)
  rw [text, Comparison.toList_text, group.toList_text] at same
  cases chars : c.field.name.toList with
  | nil =>
      rw [chars] at same
      cases (List.cons.inj same).1
  | cons first others =>
      rw [chars] at same solid
      exact (solid first List.mem_cons_self).2 (List.cons.inj same).1

end Leaves

/-- A group is told from every tree if its members are. -/
theorem Group.told_of_proper {joint : String} {items : List Predicate} {p q : Predicate}
    (group : Group joint items p) (several : 2 ≤ items.length)
    (each : ∀ p ∈ items, ∀ q : Predicate, q.Proper → q.PlainNames → p.Told q) (proper : q.Proper)
    (plain : q.PlainNames) : p.Told q := by
  cases proper with
  | leaf d =>
      intro rest rest' _ _ texts
      exact absurd texts.symm (leaf_ne_group plain group rest' rest)
  | and several' each' =>
      exact group.told (.and rfl) several several' fun p listed q listed' =>
        each p listed q (each' q listed') (.of_mem plain listed')
  | or several' each' =>
      exact group.told (.or rfl) several several' fun p listed q listed' =>
        each p listed q (each' q listed') (.of_mem plain listed')

/-- **Conditions are told apart by their texts**, whatever follows. -/
theorem told_of_proper {p : Predicate} (proper : p.Proper) (plain : p.PlainNames) :
    ∀ q : Predicate, q.Proper → q.PlainNames → p.Told q := by
  induction proper with
  | leaf c =>
      intro q proper' plain'
      cases proper' with
      | leaf d => exact leaf_told c plain d plain'
      | and _ _ =>
          intro rest rest' _ _ texts
          exact absurd texts (leaf_ne_group plain (.and rfl) rest rest')
      | or _ _ =>
          intro rest rest' _ _ texts
          exact absurd texts (leaf_ne_group plain (.or rfl) rest rest')
  | and several _ ih =>
      intro q
      exact (Group.and rfl).told_of_proper several fun p listed =>
        ih p listed (.of_mem plain listed)
  | or several _ ih =>
      intro q
      exact (Group.or rfl).told_of_proper several fun p listed => ih p listed (.of_mem plain listed)

end Predicate

end PhaseTable
