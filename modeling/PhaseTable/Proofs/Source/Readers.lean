/-
# PhaseTable.Proofs.Source.Readers -- all readers of a source agree on it

An attribute is resolved by everyone who reads it: by the check of a configuration, which
stores what resolving returns; by the columns, which read it in the objects; and by the
filters, which take it for a field.  Each of them may get the attribute as it was written
or as it is stored.  Both resolve to the same source, so a column is checked and read
alike with either of them (`checkColumn_stored`, `Column.readValue_of_resolve`).

A filter that no rule describes compares `targetField` with its values
(`Filter.condition_of_target`).  For the attributes of parts that have a field it is the
attribute in capitals (`targetField_part`); for all kinds of objects but parts it is the
trimmed attribute (`targetField_of_ne_part`), since `ua.` marks nothing in their
attributes: such an attribute has no field in the query language, and the filter then
takes the attribute itself.
-/
import PhaseTable.Proofs.Filter.Silence
import PhaseTable.Proofs.Source
import PhaseTable.Proofs.Table.StandIns
import PhaseTable.Proofs.Text.AsciiCase

namespace PhaseTable

set_option autoImplicit false

open Text

/-! ## Capitals -/

def Text.asciiUpper (s : String) : String :=
  String.ofList (s.toList.map Char.toUpper)

/-- A text has the capitals of its small letters. -/
theorem Text.asciiUpper_asciiLower (s : String) : asciiUpper (asciiLower s) = asciiUpper s := by
  have same : Char.toUpper ∘ Char.toLower = Char.toUpper := funext (apply_toLower (by decide))
  rw [asciiUpper, asciiUpper, asciiLower, String.toList_ofList, List.map_map, same]

/-! ## Columns -/

namespace Column

variable {c : Column} {type : ObjectType} {source : ModelSource}

def withAttr (c : Column) (attr : String) : Column :=
  { c with attr }

theorem modelBinding_stored (bound : c.objectType = some type)
    (resolved : ModelSource.resolve type c.attr = .ok source) :
    (c.withAttr source.attr).modelBinding = c.modelBinding := by
  have written : nonBlank? c.attr = some (trim c.attr) :=
    nonBlank?_of_not_blank (ModelSource.not_blank_of_resolve resolved)
  have stored : Trimmed source.attr :=
    (ModelSource.resolve_of_stores (ModelSource.stores_of_resolve resolved).2).1
  have again := ModelSource.resolve_stored resolved
  simp only [modelBinding, withAttr, bound, written, stored.nonBlank?, ModelSource.resolve_trim,
    resolved, again]

theorem editableBinding_of_bound (bound : c.objectType = some type) :
    c.editableBinding = .error .sourceOnEditableColumn := by
  rw [editableBinding, bound]
  rfl

theorem check_stored (bound : c.objectType = some type)
    (resolved : ModelSource.resolve type c.attr = .ok source) (key : String) :
    (c.withAttr source.attr).check key = c.check key := by
  have stillBound : (c.withAttr source.attr).objectType = some type := bound
  have valueType : (c.withAttr source.attr).valueType = c.valueType := rfl
  have filterOps : (c.withAttr source.attr).filterOps = c.filterOps := rfl
  have ops : (c.withAttr source.attr).legalFilterOps = c.legalFilterOps := by
    rw [legalFilterOps, legalFilterOps, valueType, filterOps]
  have notices : (c.withAttr source.attr).filterOpNotices = c.filterOpNotices := by
    rw [filterOpNotices, filterOpNotices, valueType, filterOps]
  rw [check, check, modelBinding_stored bound resolved, editableBinding_of_bound bound,
    editableBinding_of_bound stillBound, ops, notices]
  rfl

theorem readValue_of_resolve (bound : c.objectType = some type)
    (resolved : ModelSource.resolve type c.attr = .ok source) (o : ObjectRecord) :
    c.readValue o = o.readValue type source := by
  rw [readValue, source?_eq_some_iff.mpr ⟨bound, resolved⟩]

end Column

/-- Checking does not see whether the attribute of a column was stored before. -/
theorem checkColumn_stored {c : Column} {type : ObjectType} {source : ModelSource}
    (bound : c.objectType = some type) (resolved : ModelSource.resolve type c.attr = .ok source)
    (seen : List String) : checkColumn seen (c.withAttr source.attr) = checkColumn seen c := by
  have key : (c.withAttr source.attr).key = c.key := rfl
  simp only [checkColumn, key, c.check_stored bound resolved]

/-! ## Targets -/

/-- The field for a target: that of the query language, or else the trimmed target itself. -/
def targetField (type : ObjectType) (target : String) : String :=
  (templateField? type target).getD (trim target)

theorem partAttributes_fields :
    ∀ entry ∈ partAttributes,
      partAttributes.find? (·.1 = entry.1) = some entry ∧ entry.2 = asciiUpper entry.1 := by
  decide

theorem targetField_part {target : String}
    (known : asciiLower (trim target) ∈ partAttributes.map (·.1)) :
    targetField .part target = asciiUpper (trim target) := by
  obtain ⟨entry, listed, same⟩ := List.mem_map.mp known
  obtain ⟨found, capitals⟩ := partAttributes_fields entry listed
  rw [targetField, templateField?_part, ← same, found]
  calc entry.2 = asciiUpper entry.1 := capitals
    _ = asciiUpper (trim target) := by rw [same, asciiUpper_asciiLower]

theorem targetField_of_ne_part {type : ObjectType} (other : type ≠ .part) (target : String) :
    targetField type target = trim target := by
  rw [targetField, ← templateField?_trim]
  exact templateField?_of_ne_part other (trim_trim target)

/-- The field equals one of the values; nothing is asked if there are none. -/
def Predicate.oneOf? (field : String) : List String → Option Predicate
  | [] => none
  | values => some (.anyOf (values.map (.compareText (.custom field) .equals)))

/-- A filter that is neither ruled nor an old one compares the field for its target. -/
theorem Filter.condition_of_target {f : Filter} {type : ObjectType}
    (typed : f.targetType = some type) (named : Text.blank f.targetAttr = false)
    (unruled : f.rule = none) (other : ¬ f.AsksPositive) (new : ¬ f.HasOldTarget) :
    f.condition =
      .ok (Predicate.oneOf? (targetField type f.targetAttr) (splitValues f.value)) := by
  have unrecognized : f.legacy = .notRecognized := by
    rcases legacy_cases named with ⟨active, -⟩ | ⟨-, old, -⟩ | ⟨-, -, unrecognized⟩
    · exact absurd (active.resolve_left other).1 new
    · exact absurd old new
    · exact unrecognized
  simp only [condition, named, unruled, unrecognized, Option.isSome_none, Bool.false_eq_true,
    if_false, targetCondition, typed, templateField?_trim]
  cases splitValues f.value with
  | nil => rfl
  | cons first others => rfl

/-! ## Readers -/

namespace ModelSource

/-- **All readers of a source agree on it.**  Let an attribute of a kind of object resolve to a
source.  The attribute that is stored resolves to the same source, the key of the source is the
stored attribute after the head of the kind, and the query language has the same field for both
attributes, or none.  A column is checked alike with either attribute and reads the source in every
object.  A filter that has the attribute for its target, no rule, and is not an old one, asks that
a field equals one of its values, and no message is added.  For the five attributes of parts, in
whatever case they are written, the field is the attribute in capitals; for other kinds of objects
than parts it is the trimmed attribute, whatever that begins with. -/
theorem shared_by_readers {type : ObjectType} {attr : String} {source : ModelSource}
    (resolved : resolve type attr = .ok source) :
    resolve type source.attr = .ok source ∧
    source.key = type.keyHead ++ source.attr ∧
    templateField? type attr = templateField? type source.attr ∧
    (∀ c : Column, c.objectType = some type → c.attr = attr →
      (∀ seen, checkColumn seen (c.withAttr source.attr) = checkColumn seen c) ∧
      ∀ o : ObjectRecord, c.readValue o = o.readValue type source ∧
        (c.withAttr source.attr).readValue o = o.readValue type source) ∧
    (∀ f : Filter, f.targetType = some type → f.targetAttr = attr → f.rule = none →
      ¬ f.AsksPositive → ¬ f.HasOldTarget → ∀ phase said, (f.build phase).run said =
        some (Predicate.oneOf? (targetField type attr) (splitValues f.value), said)) ∧
    (type = .part →
      asciiLower (trim attr) ∈ ["profile", "material", "class", "name", "finish"] →
        targetField type attr = asciiUpper (trim attr)) ∧
    (type ≠ .part → targetField type attr = trim attr) := by
  have again : resolve type source.attr = .ok source := resolve_stored resolved
  refine ⟨again, ?key, ?field, ?column, ?filter, ?part, ?other⟩
  case key => exact congrArg ModelSource.key (stores_of_resolve resolved).1
  case field => rw [templateField?, templateField?, resolved, again]
  case column =>
    rintro c bound rfl
    have stillBound : (c.withAttr source.attr).objectType = some type := bound
    refine ⟨checkColumn_stored bound resolved, fun o => ⟨?_, ?_⟩⟩
    · exact Column.readValue_of_resolve bound resolved o
    · exact Column.readValue_of_resolve stillBound again o
  case filter =>
    rintro f typed rfl unruled other new phase said
    have condition :=
      Filter.condition_of_target typed (not_blank_of_resolve resolved) unruled other new
    rw [f.build_eq, condition]
    rfl
  case part =>
    rintro rfl known
    exact targetField_part known
  case other =>
    intro other
    exact targetField_of_ne_part other attr

end ModelSource

/-- A column of the heights of assemblies, which is written like a user attribute of parts. -/
def Column.heights : Column :=
  { blank with key := "height", objectType := some .assembly, attr := " UA. Höhe\u3000" }

def Filter.ofHeights : Filter :=
  { blank with targetType := some .assembly, targetAttr := Column.heights.attr, value := "3; 4" }

def Filter.ofName : Filter :=
  { blank with targetType := some .part, targetAttr := "\tnaMe ", value := "B1" }

namespace ModelSource

theorem shared_by_readers_careless :
    (resolve .assembly Column.heights.attr = .ok ⟨"UA. Höhe", "assembly.UA. Höhe"⟩ ∧
      checkColumn [] (Column.heights.withAttr "UA. Höhe") = checkColumn [] Column.heights ∧
      ∀ phase said, (Filter.ofHeights.build phase).run said =
        some (Predicate.oneOf? "UA. Höhe" ["3", "4"], said)) ∧
    (resolve .part Filter.ofName.targetAttr = .ok ⟨"name", "part.name"⟩ ∧
      ∀ phase said, (Filter.ofName.build phase).run said =
        some (Predicate.oneOf? "NAME" ["B1"], said)) := by
  have new : ∀ f ∈ [Filter.ofHeights, Filter.ofName], ¬ f.AsksPositive ∧ ¬ f.HasOldTarget := by
    unfold Filter.AsksPositive Filter.HasOldTarget
    decide
  constructor
  · have resolved : resolve .assembly Column.heights.attr =
        .ok ⟨"UA. Höhe", "assembly.UA. Höhe"⟩ := by decide
    obtain ⟨-, -, -, column, filter, -, other⟩ := shared_by_readers resolved
    obtain ⟨unmoded, untargeted⟩ := new Filter.ofHeights (.head _)
    have field : targetField .assembly Column.heights.attr = "UA. Höhe" := other (by decide)
    have values : splitValues Filter.ofHeights.value = ["3", "4"] := by decide
    have built := filter Filter.ofHeights rfl rfl rfl unmoded untargeted
    simp only [field, values] at built
    exact ⟨resolved, (column Column.heights rfl rfl).1 [], built⟩
  · have resolved : resolve .part Filter.ofName.targetAttr = .ok ⟨"name", "part.name"⟩ := by decide
    obtain ⟨-, -, -, -, filter, part, -⟩ := shared_by_readers resolved
    obtain ⟨unmoded, untargeted⟩ := new Filter.ofName (.tail _ (.head _))
    have field : targetField .part Filter.ofName.targetAttr = "NAME" := part rfl (by decide)
    have values : splitValues Filter.ofName.value = ["B1"] := by decide
    have built := filter Filter.ofName rfl rfl rfl unmoded untargeted
    simp only [field, values] at built
    exact ⟨resolved, built⟩

end ModelSource

end PhaseTable
