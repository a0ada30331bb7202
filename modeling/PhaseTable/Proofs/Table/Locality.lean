/-
# PhaseTable.Proofs.Table.Locality -- the phases of a table do not touch each other

`Snapshot.only` is what a snapshot holds of one phase.  The rows of a table for a phase are the
whole table of that (`Table.rowsOf_eq`), so no other phase has a say in them, though the pass
that makes the table changes rows in their places and all groups share one log.  Hence the order
in which the phases are mixed in a snapshot does not matter: snapshots that agree phase by phase
(`Snapshot.SameByPhase`) have one table (`Table.ofSnapshot_congr`).
-/
import PhaseTable.Config.Defaults
import PhaseTable.Proofs.Table.Merging

namespace PhaseTable

set_option autoImplicit false

namespace Snapshot

/-- What the snapshot holds of a phase, in the order of the snapshot. -/
def only (s : Snapshot) (n : Int32) : Snapshot where
  objects := s.objectsOf n
  catalog := s.catalogOf n
  objectCounts := ⟨s.objectCounts.entries.filter (·.1 = n), s.objectCounts.ascending.filter _⟩

theorem objectsOf_only (s : Snapshot) (n : Int32) : (s.only n).objectsOf n = s.objectsOf n := by
  simp [only, objectsOf]

theorem catalogOf_only (s : Snapshot) (n : Int32) : (s.only n).catalogOf n = s.catalogOf n := by
  simp [only, catalogOf]

theorem get?_objectCounts_only (s : Snapshot) (n : Int32) :
    (s.only n).objectCounts.get? n = s.objectCounts.get? n := by
  simp [only, OrderedMap.get?, List.find?_filter]

theorem phases_only (s : Snapshot) (n : Int32) :
    (s.only n).phases = s.phases.filter (· = n) := by
  refine OrderedMap.eq_of_ascending (ascending_phases _) (s.ascending_phases.filter _) fun m => ?_
  simp only [List.mem_filter, mem_phases, only, objectsOf, catalogOf, decide_eq_true_eq]
  constructor
  · rintro (⟨o, ⟨member, own⟩, rfl⟩ | ⟨e, ⟨member, own⟩, rfl⟩)
    · exact ⟨.inl ⟨o, member, rfl⟩, own⟩
    · exact ⟨.inr ⟨e, member, rfl⟩, own⟩
  · rintro ⟨⟨o, member, rfl⟩ | ⟨e, member, rfl⟩, own⟩
    · exact .inl ⟨o, ⟨member, own⟩, rfl⟩
    · exact .inr ⟨e, ⟨member, own⟩, rfl⟩

/-- The snapshots hold the same of each phase; how the phases are mixed may differ. -/
structure SameByPhase (s t : Snapshot) : Prop where
  objects : ∀ n, s.objectsOf n = t.objectsOf n
  catalog : ∀ n, s.catalogOf n = t.catalogOf n
  counts : s.objectCounts = t.objectCounts

namespace SameByPhase

variable {s t : Snapshot}

theorem phases (same : SameByPhase s t) : s.phases = t.phases := by
  refine OrderedMap.eq_of_ascending s.ascending_phases t.ascending_phases fun n => ?_
  have named : ∀ u : Snapshot, n ∈ u.phases ↔ u.objectsOf n ≠ [] ∨ u.catalogOf n ≠ [] := by
    intro u
    simp [mem_phases, objectsOf, catalogOf]
  rw [named, named, same.objects, same.catalog]

theorem row (same : SameByPhase s t) (columns : List Column) (n : Int32) :
    s.row columns n = t.row columns n :=
  row_congr (same.objects n) (same.catalog n) (by rw [same.counts])

theorem standIns (same : SameByPhase s t) (columns : List Column) :
    s.standIns columns = t.standIns columns := by
  have objects : s.objectsOf = t.objectsOf := funext same.objects
  rw [Snapshot.standIns, Snapshot.standIns, same.phases, objects]

theorem isEmpty (same : SameByPhase s t) : s.isEmpty = t.isEmpty := by
  rw [Bool.eq_iff_iff, isEmpty_iff, isEmpty_iff, same.phases, same.counts]

end SameByPhase

end Snapshot

namespace Table

def rowsOf (t : Table) (n : Int32) : List Row :=
  t.rows.filter (·.phase = n)

theorem rowsOf_eq (s : Snapshot) (columns : List Column) (n : Int32) :
    (ofSnapshot s columns).rowsOf n = (ofSnapshot (s.only n) columns).rows := by
  rw [rowsOf, rows_ofSnapshot, rows_ofSnapshot]
  split
  · rfl
  · rw [List.filter_map, Snapshot.phases_only]
    refine List.map_congr_left fun m listed => ?_
    obtain rfl : m = n := of_decide_eq_true (List.mem_filter.mp listed).2
    exact (Snapshot.row_congr (s.objectsOf_only m) (s.catalogOf_only m)
      (s.get?_objectCounts_only m)).symm

theorem ofSnapshot_congr {s t : Snapshot} (same : s.SameByPhase t) (columns : List Column) :
    ofSnapshot s columns = ofSnapshot t columns := by
  have rows : s.row columns = t.row columns := funext (same.row columns)
  rw [ofSnapshot_eq, ofSnapshot_eq, same.isEmpty, same.phases, same.standIns, rows]

/-- **Phases are aggregated each by itself.**  The rows of a table for a phase are the whole table
of what the snapshot holds of that phase: its objects, its entries in the catalog and its number of
objects, in their order.  So it does not matter how the phases are mixed: snapshots that hold the
same of each phase have one table. -/
theorem aggregates_phase_by_phase (columns : List Column) :
    (∀ s n, (ofSnapshot s columns).rowsOf n = (ofSnapshot (s.only n) columns).rows) ∧
      ∀ s t : Snapshot, s.SameByPhase t → ofSnapshot s columns = ofSnapshot t columns :=
  ⟨fun s n => rowsOf_eq s columns n, fun _ _ same => ofSnapshot_congr same columns⟩

/-- Objects and entries of two phases in turns. -/
def mixed : Snapshot :=
  ⟨[⟨2, "Roof", ∅⟩, ⟨1, "", ∅⟩, ⟨2, "Deck", ∅⟩], [⟨1, "Base"⟩, ⟨2, "Top"⟩, ⟨1, "Pit"⟩], ∅⟩

def unmixed : Snapshot :=
  ⟨[⟨1, "", ∅⟩, ⟨2, "Roof", ∅⟩, ⟨2, "Deck", ∅⟩], [⟨1, "Base"⟩, ⟨1, "Pit"⟩, ⟨2, "Top"⟩], ∅⟩

/-- Phases in turns make the table of phases that follow each other. -/
theorem aggregates_phase_by_phase_mixed :
    mixed.SameByPhase unmixed ∧ mixed ≠ unmixed ∧
      ofSnapshot mixed Config.default.columns = ofSnapshot unmixed Config.default.columns := by
  have same : mixed.SameByPhase unmixed := by
    refine ⟨fun n => ?_, fun n => ?_, rfl⟩
    · by_cases first : 1 = n
      · subst first
        decide
      · simp [Snapshot.objectsOf, mixed, unmixed, List.filter_cons, first]
    · by_cases second : 2 = n
      · subst second
        decide
      · simp [Snapshot.catalogOf, mixed, unmixed, List.filter_cons, second]
  exact ⟨same, by decide, (aggregates_phase_by_phase _).2 mixed unmixed same⟩

end Table

end PhaseTable
