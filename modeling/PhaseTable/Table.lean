/-
# PhaseTable.Table -- the rows of the phase table

A table is made in one pass over a snapshot (`Table.ofSnapshot`).  The objects are put in
groups by phase, and each group makes a row.  Then the entries of the catalog are merged
into the rows one by one: an entry is put into the row of its phase, or into a new row at the
end.  Then the numbers of objects that are known better than by counting take the place of
those that were counted, and the rows are sorted.  All groups share one log of the sources
for which a part stood in for its assembly (`StandInLog`).

What the table holds does not depend on that order.  It has one row for each phase that an
object or the catalog names, ascending, and a row is a function of what belongs to its phase
(`Snapshot.row`): its cells come from a list of writes, of which the last one to a key counts.
-/
import PhaseTable.Reduction
import PhaseTable.Snapshot

namespace PhaseTable

set_option autoImplicit false

open Text

structure Row where
  phase : Int32
  phaseName : String
  objectCount : Nat
  cells : OrderedMap String Cell
deriving DecidableEq

namespace Row

/-- The cell under the key of a column; an exact key comes before one in another case. -/
def cell? (r : Row) (key : String) : Option Cell :=
  r.cells.lookup key

/-- The row with another name of its phase, unless that is blank. -/
def rename (r : Row) (name : String) : Row :=
  { r with phaseName := (nonBlank? name).getD r.phaseName }

def toJson (r : Row) : Json :=
  .obj [("cells", cellsToJson r.cells), ("objectCount", .int r.objectCount),
    ("phaseName", .str r.phaseName), ("phaseNumber", .int r.phase.toInt)]

end Row

/-! ## Cells -/

abbrev CellWrite := String × Cell

namespace Column

def counts (c : Column) : Bool :=
  c.aggregate = .count

def write (c : Column) (cell : Cell) : CellWrite :=
  (c.key, cell.convert c.valueType)

/-- What the column makes of the objects of a phase. -/
def objectsWrite (c : Column) (objects : List ObjectRecord) : CellWrite :=
  c.write (c.aggregate.reduce (objects.map c.valueIn) objects.length)

/-- What the column shows of an entry of the catalog, for a phase with so many objects. -/
def entryWrite? (c : Column) (objectCount : Nat) (e : CatalogEntry) : Option CellWrite :=
  if c.counts then some (c.write (.ofCount objectCount))
  else if c.showsPhase "number" then some (c.write (.ofInt32 e.phase))
  else if c.showsPhase "name" && !Text.blank e.phaseName then some (c.write (.text e.phaseName))
  else none

/-- What the column shows of a number of objects. -/
def countWrite? (c : Column) (objectCount : Nat) : Option CellWrite :=
  if c.counts then some (c.write (.ofCount objectCount)) else none

end Column

/-! ## Rows by phase -/

namespace Snapshot

/-- The phases that are named by an object or in the catalog, ascending. -/
def phases (s : Snapshot) : List Int32 :=
  OrderedMap.keysOf (s.objects.map ObjectRecord.phase ++ s.catalog.map CatalogEntry.phase)

def objectsOf (s : Snapshot) (phase : Int32) : List ObjectRecord :=
  s.objects.filter (·.phase = phase)

def catalogOf (s : Snapshot) (phase : Int32) : List CatalogEntry :=
  s.catalog.filter (·.phase = phase)

/-- The name of a phase: the first one that an object gives, or else the catalog. -/
def phaseName (s : Snapshot) (phase : Int32) : String :=
  let names := (s.objectsOf phase).map ObjectRecord.phaseName ++
    (s.catalogOf phase).map CatalogEntry.phaseName
  (names.findSome? nonBlank?).getD ""

def cellWrites (s : Snapshot) (columns : List Column) (phase : Int32) : List CellWrite :=
  let objects := s.objectsOf phase
  columns.map (·.objectsWrite objects) ++
    (s.catalogOf phase).flatMap (fun e => columns.filterMap (·.entryWrite? objects.length e)) ++
    match s.objectCounts.get? phase with
    | some n => columns.filterMap (·.countWrite? n.toNat)
    | none => []

def objectCount (s : Snapshot) (phase : Int32) : Nat :=
  match s.objectCounts.get? phase with
  | some n => n.toNat
  | none => (s.objectsOf phase).length

def row (s : Snapshot) (columns : List Column) (phase : Int32) : Row :=
  ⟨phase, s.phaseName phase, s.objectCount phase, .ofList (s.cellWrites columns phase)⟩

/-- The values that stand in for others, in the order in which they are met. -/
def standIns (s : Snapshot) (columns : List Column) : List StandIn :=
  s.phases.flatMap fun phase =>
    (columns.filter (!·.counts)).flatMap fun c => (s.objectsOf phase).filterMap c.standInFor?

end Snapshot

/-! ## Reading the objects -/

/-- The sources for which a part stood in for its assembly so far, each once up to case. -/
abbrev StandInLog := List ModelSource

def StandInLog.note (log : StandInLog) (source : ModelSource) : StandInLog :=
  if log.any fun known => lowerCase known.key = lowerCase source.key then log else log ++ [source]

/-- A step of reading objects, which may note that a part stood in for its assembly. -/
abbrev Reading (α : Type) := StateM StandInLog α

namespace ObjectRecord

/-- Reads the attribute of a source, for which that of the part may stand in. -/
def readAttribute (o : ObjectRecord) (type : ObjectType) (source : ModelSource) : Reading Cell :=
  match o.value? source.key with
  | some value => return value
  | none =>
      match o.standIn? type source with
      | some standIn => do
          modify (·.note standIn.source)
          return standIn.value
      | none => return .empty

def readValue (o : ObjectRecord) (type : ObjectType) (source : ModelSource) : Reading Cell :=
  match type with
  | .phase => return o.phaseValue source
  | type => o.readAttribute type source

end ObjectRecord

namespace Column

def readValue (c : Column) (o : ObjectRecord) : Reading Cell :=
  match c.source? with
  | some (type, source) => o.readValue type source
  | none => return .empty

def readWrite (c : Column) (objects : List ObjectRecord) : Reading CellWrite := do
  if c.counts then return c.write (.ofCount objects.length)
  let values ← objects.mapM c.readValue
  return c.write (c.aggregate.reduce values objects.length)

end Column

/-- The objects in groups by phase, each in the order in which it is met. -/
def groupObjects (objects : List ObjectRecord) : OrderedMap Int32 (List ObjectRecord) :=
  objects.foldl (fun groups o => groups.insert o.phase ((groups.get? o.phase).getD [] ++ [o])) ∅

/-! ## Making the rows -/

namespace Row

def put (r : Row) (write : CellWrite) : Row :=
  { r with cells := r.cells.insert write.1 write.2 }

def putAll (r : Row) (writes : List CellWrite) : Row :=
  writes.foldl put r

def ofObjects (columns : List Column) (phase : Int32) (objects : List ObjectRecord) :
    Reading Row :=
  let name := ((objects.map ObjectRecord.phaseName).findSome? nonBlank?).getD ""
  columns.foldlM (fun row c => row.put <$> c.readWrite objects) ⟨phase, name, objects.length, ∅⟩

def vacant (columns : List Column) (phase : Int32) : Row :=
  putAll ⟨phase, "", 0, ∅⟩ (columns.map fun c => (c.key, .empty))

/-- The row with the name that the catalog has for its phase.  A row without a name is renamed. -/
def identify (columns : List Column) (r : Row) (name : String) : Row :=
  let named := if Text.blank r.phaseName then r.rename name else r
  named.putAll (columns.filterMap (·.entryWrite? r.objectCount ⟨r.phase, name⟩))

/-- The row with the number of objects that is known for its phase. -/
def recount (columns : List Column) (counts : OrderedMap Int32 UInt64) (r : Row) : Row :=
  match counts.get? r.phase with
  | some n => putAll { r with objectCount := n.toNat } (columns.filterMap (·.countWrite? n.toNat))
  | none => r

/-- The order of rows: by phase, and then by name up to case. -/
def comesBefore (r s : Row) : Bool :=
  r.phase < s.phase || r.phase = s.phase && lowerCase r.phaseName ≤ lowerCase s.phaseName

end Row

/-- The rows with an entry of the catalog put into the row of its phase, or into a new one. -/
def mergeEntry (columns : List Column) (rows : List Row) (e : CatalogEntry) : List Row :=
  match rows.findIdx? (·.phase = e.phase) with
  | some i => rows.modify i fun r => r.identify columns e.phaseName
  | none => rows ++ [(Row.vacant columns e.phase).identify columns e.phaseName]

namespace Snapshot

/-- Reads the rows of the objects, ascending by phase. -/
def readRows (s : Snapshot) (columns : List Column) : Reading (List Row) :=
  (groupObjects s.objects).entries.mapM fun (phase, objects) => Row.ofObjects columns phase objects

/-- The rows of the table, from those of the objects. -/
def completeRows (s : Snapshot) (columns : List Column) (rows : List Row) : List Row :=
  let rows := s.catalog.foldl (mergeEntry columns) rows
  (rows.map (Row.recount columns s.objectCounts)).mergeSort Row.comesBefore

end Snapshot

/-! ## Tables -/

inductive TableNotice where
  | noColumn
deriving DecidableEq

def TableNotice.message : TableNotice → String
  | .noColumn => "build rows skipped: config has no columns."

/-- The rows of a table, what keeps them from being made, and the sources for which a part stood in
for its assembly, each once up to case. -/
structure Table where
  rows : List Row
  notices : List TableNotice
  standInSources : List ModelSource
deriving DecidableEq

namespace Table

def empty : Table :=
  ⟨[], [], []⟩

def ofSnapshot (s : Snapshot) (columns : List Column) : Table :=
  if s.isEmpty then empty
  else if columns.isEmpty then { empty with notices := [.noColumn] }
  else
    let (rows, standInSources) := (s.readRows columns).run []
    { rows := s.completeRows columns rows, notices := [], standInSources }

end Table

end PhaseTable
