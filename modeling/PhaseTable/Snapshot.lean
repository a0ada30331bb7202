/-
# PhaseTable.Snapshot -- what was found in the model

A snapshot is what one look at the model gives: its objects with their attributes, the
phases that the model knows of, and the numbers of objects of some phases where they
are known better than by counting.

An attribute is kept under the key of its source.  The main part of an assembly may lack
a value of the assembly; then the attribute of the same name of the part stands in.
-/
import PhaseTable.Cell
import PhaseTable.Config
import PhaseTable.OrderedMap
import PhaseTable.Source

namespace PhaseTable

set_option autoImplicit false

open Text

structure ObjectRecord where
  phase : Int32
  phaseName : String
  attributes : OrderedMap String Cell
deriving DecidableEq

/-- A phase that the model knows of. -/
structure CatalogEntry where
  phase : Int32
  phaseName : String
deriving DecidableEq

structure Snapshot where
  objects : List ObjectRecord
  catalog : List CatalogEntry
  objectCounts : OrderedMap Int32 UInt64
deriving DecidableEq

/-! ## Values of an object -/

/-- A value that stands in for one that an object lacks. -/
structure StandIn where
  source : ModelSource
  value : Cell
deriving DecidableEq

namespace ObjectRecord

/-- The value under a key; an exact key comes before one in another case. -/
def value? (o : ObjectRecord) (key : String) : Option Cell :=
  o.attributes.lookup key

/-- The value of the part for a value of its assembly that the object lacks. -/
def standIn? (o : ObjectRecord) (type : ObjectType) (source : ModelSource) : Option StandIn :=
  if type = .assembly ∧ o.value? source.key = none then
    (o.value? source.partFallbackKey).map (⟨source, ·⟩)
  else none

def phaseValue (o : ObjectRecord) (source : ModelSource) : Cell :=
  if source.attr = "number" then .ofInt32 o.phase else .text o.phaseName

/-- The value that the object has for a source of a type of object. -/
def sourceValue (o : ObjectRecord) (type : ObjectType) (source : ModelSource) : Cell :=
  match type with
  | .phase => o.phaseValue source
  | type =>
      ((o.value? source.key).or ((o.standIn? type source).map StandIn.value)).getD .empty

end ObjectRecord

namespace Column

def source? (c : Column) : Option (ObjectType × ModelSource) :=
  c.objectType.bind fun type =>
    match ModelSource.resolve type c.attr with
    | .ok source => some (type, source)
    | .error _ => none

def valueIn (c : Column) (o : ObjectRecord) : Cell :=
  match c.source? with
  | some (type, source) => o.sourceValue type source
  | none => .empty

/-- The value that stands in for the one that an object lacks for the column. -/
def standInFor? (c : Column) (o : ObjectRecord) : Option StandIn :=
  c.source?.bind fun (type, source) => o.standIn? type source

end Column

/-! ## JSON form -/

def cellsToJson (cells : OrderedMap String Cell) : Json :=
  .obj (cells.entries.map fun entry => (entry.1, entry.2.toJson))

def decodeCells (origin : Origin) : Document → Decoded (OrderedMap String Cell) :=
  Decode.map Decode.keyText (Cell.decode origin)

namespace ObjectRecord

def toJson (o : ObjectRecord) : Json :=
  .obj [("attributes", cellsToJson o.attributes), ("phaseName", .str o.phaseName),
    ("phaseNumber", .int o.phase.toInt)]

def shape (origin : Origin) : Shape ObjectRecord where
  name := "ObjectRecord"
  keys := ["phaseNumber", "phaseName", "attributes"]
  required := ["phaseNumber"]
  start := ⟨0, "", ∅⟩
  set o key d :=
    match key with
    | "phaseNumber" => do return { o with phase := ← Decode.int32 d }
    | "phaseName" => do return { o with phaseName := ← Decode.text d }
    | _ => do return { o with attributes := ← decodeCells origin d }

end ObjectRecord

namespace CatalogEntry

def toJson (e : CatalogEntry) : Json :=
  .obj [("phaseName", .str e.phaseName), ("phaseNumber", .int e.phase.toInt)]

def shape : Shape CatalogEntry where
  name := "CatalogEntry"
  keys := ["phaseNumber", "phaseName"]
  required := ["phaseNumber"]
  start := ⟨0, ""⟩
  set e key d :=
    match key with
    | "phaseNumber" => do return { e with phase := ← Decode.int32 d }
    | _ => do return { e with phaseName := ← Decode.text d }

end CatalogEntry

namespace Snapshot

def empty : Snapshot :=
  ⟨[], [], ∅⟩

def isEmpty (s : Snapshot) : Bool :=
  s.objects.isEmpty && s.catalog.isEmpty && s.objectCounts.entries.isEmpty

def toJson (s : Snapshot) : Json :=
  .obj [("allPhases", .arr (s.catalog.map CatalogEntry.toJson)),
    ("objects", .arr (s.objects.map ObjectRecord.toJson)),
    ("phaseObjectCounts",
      .ofEntries (s.objectCounts.entries.map fun entry =>
        (intText entry.1.toInt, .int entry.2.toNat)))]

def shape (origin : Origin) : Shape Snapshot where
  name := "Snapshot"
  keys := ["objects", "allPhases", "phaseObjectCounts"]
  required := []
  start := empty
  set s key d :=
    match key with
    | "objects" => do
        return { s with objects := ← Decode.list ((ObjectRecord.shape origin).decode origin) d }
    | "allPhases" => do
        return { s with catalog := ← Decode.list (CatalogEntry.shape.decode origin) d }
    | _ => do
        let objectCounts ← Decode.map (Decode.keyInt32 origin) Decode.count d
        return { s with objectCounts }

def decode (origin : Origin) : Document → Decoded Snapshot :=
  (shape origin).decode origin

end Snapshot

end PhaseTable
