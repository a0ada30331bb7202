/-
# PhaseTable.Source -- where a column finds its values

A column that shows model data names a kind of object and an attribute of it.
`ModelSource.resolve` settles how the attribute is stored and under which key the
objects carry its values; `templateField?` is the field of the query language for it.

Phases have a number and a name.  Parts have five attributes, in any case, and user
attributes `ua.<name>` whose name is kept as it is written.  Attributes of assemblies
and bolts are fields of the host and are only trimmed.
-/
import PhaseTable.Setting

namespace PhaseTable

set_option autoImplicit false

open Text

/-- Why an attribute of a kind of object cannot be read. -/
inductive SourceError where
  | emptyAttribute
  | unsupportedPhaseAttribute
  | unsupportedPartAttribute
  | emptyUserAttribute
deriving DecidableEq

namespace SourceError

def message : SourceError → String
  | .emptyAttribute => "attribute cannot be empty"
  | .unsupportedPhaseAttribute => "phase attribute must be 'number' or 'name'"
  | .unsupportedPartAttribute =>
      "attribute must be one of profile/material/class/name/finish or ua.<name>"
  | .emptyUserAttribute => "ua.<name> requires a non-empty user attribute name"

def name : SourceError → String
  | .emptyAttribute => "EmptyAttribute"
  | .unsupportedPhaseAttribute => "UnsupportedPhaseAttribute"
  | .unsupportedPartAttribute => "UnsupportedPartAttribute"
  | .emptyUserAttribute => "EmptyUserAttribute"

end SourceError

/-- What the keys of a kind of object begin with. -/
def ObjectType.keyHead : ObjectType → String
  | .phase => "phase."
  | .part => "part."
  | .assembly => "assembly."
  | .bolt => "bolt."

def phaseAttributes : List String :=
  ["number", "name"]

/-- The attributes of every part, with their fields in the query language. -/
def partAttributes : List (String × String) :=
  [("profile", "PROFILE"), ("material", "MATERIAL"), ("class", "CLASS"), ("name", "NAME"),
    ("finish", "FINISH")]

/-- What the name of a user attribute follows. -/
def userAttributeHead : String :=
  "ua."

/-- The name of a user attribute, with its blanks. -/
def userAttribute? (attr : String) : Option String :=
  (afterIgnoringAsciiCase? userAttributeHead.toList attr.toList).map String.ofList

/-- A resolved source: the attribute as it is stored, and the key of its values. -/
structure ModelSource where
  attr : String
  key : String
deriving DecidableEq

namespace ModelSource

def of (objectType : ObjectType) (attr : String) : ModelSource :=
  ⟨attr, objectType.keyHead ++ attr⟩

/-- The attribute of a part as it is stored. -/
def partAttribute (attr : String) : Except SourceError String :=
  match userAttribute? attr with
  | some name =>
      match nonBlank? name with
      | none => .error .emptyUserAttribute
      | some name => .ok (userAttributeHead ++ name)
  | none =>
      let attr := asciiLower attr
      if attr ∈ partAttributes.map (·.1) then .ok attr
      else .error .unsupportedPartAttribute

/-- The source of an attribute, if the kind of object has such an attribute. -/
def resolve (objectType : ObjectType) (attr : String) : Except SourceError ModelSource :=
  let attr := trim attr
  match objectType with
  | .phase =>
      let attr := asciiLower attr
      if attr ∈ phaseAttributes then .ok (of .phase attr)
      else .error .unsupportedPhaseAttribute
  | .part =>
      if attr = "" then .error .emptyAttribute
      else (partAttribute attr).map (of .part)
  | .assembly | .bolt =>
      if attr = "" then .error .emptyAttribute else .ok (of objectType attr)

/-- The key of a part that stands in for a value that the main part of an assembly lacks. -/
def partFallbackKey (source : ModelSource) : String :=
  ObjectType.part.keyHead ++ source.attr

end ModelSource

/-- The field of the query language for an attribute; user attributes have none. -/
def templateField? (objectType : ObjectType) (attr : String) : Option String :=
  match ModelSource.resolve objectType attr with
  | .error _ => none
  | .ok source =>
      if (userAttribute? source.attr).isSome then none
      else
        match objectType with
        | .phase => none
        | .part => (partAttributes.find? (·.1 = source.attr)).map (·.2)
        | .assembly | .bolt => some source.attr

end PhaseTable
