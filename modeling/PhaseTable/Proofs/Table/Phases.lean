/-
# PhaseTable.Proofs.Table.Phases -- which rows a table has, and what they count

Objects, catalog and known numbers of objects are gathered apart from each other.  A table has a
row for each phase that an object or the catalog names, whatever else they say, and for no other
phase; the rows ascend.  A row counts the objects of its phase unless their number is known, so
where it is not known no object is lost and none counts twice (`sum_length_filter`).
`Table.CountsPhases` says this of a table and its snapshot.
-/
import Mathlib.Algebra.GroupWithZero.Nat
import PhaseTable.Config.Defaults
import PhaseTable.Proofs.Table.Merging

namespace PhaseTable

set_option autoImplicit false

/-- Groups by phase have as many members as there are, if they are for different phases and leave
out none. -/
theorem sum_length_filter {α : Type} {phase : α → Int32} {phases : List Int32} (xs : List α)
    (nodup : phases.Nodup) (covers : ∀ x ∈ xs, phase x ∈ phases) :
    (phases.map fun n => (xs.filter (phase · = n)).length).sum = xs.length := by
  induction phases generalizing xs with
  | nil =>
      have vacant : xs = [] := List.eq_nil_iff_forall_not_mem.mpr fun x member =>
        List.not_mem_nil (covers x member)
      rw [vacant]
      rfl
  | cons p rest ih =>
      obtain ⟨fresh, nodup⟩ := List.nodup_cons.mp nodup
      let others := xs.filter fun x => !decide (phase x = p)
      have covered : ∀ x ∈ others, phase x ∈ rest := by
        intro x member
        obtain ⟨listed, other⟩ := List.mem_filter.mp member
        have other : phase x ≠ p := by simpa using other
        exact (List.mem_cons.mp (covers x listed)).resolve_left other
      have same : ∀ n ∈ rest, others.filter (phase · = n) = xs.filter (phase · = n) := by
        intro n member
        rw [List.filter_filter]
        refine List.filter_congr fun x _ => ?_
        by_cases own : phase x = n
        · have other : n ≠ p := fun equal => fresh (equal ▸ member)
          simp [own, other]
        · simp [own]
      have counted : (rest.map fun n => (xs.filter (phase · = n)).length).sum = others.length := by
        rw [← ih others nodup covered]
        exact congrArg List.sum (List.map_congr_left fun n member => by rw [same n member])
      rw [List.map_cons, List.sum_cons, counted]
      exact (List.length_eq_length_filter_add _).symm

namespace Table

/-- The rows of the table are those of the phases of the snapshot, ascending, with the known numbers
of objects or else the counted ones. -/
structure CountsPhases (t : Table) (s : Snapshot) : Prop where
  /-- Phases ascend, so there is one row for each. -/
  ascending : (t.rows.map Row.phase).Pairwise (· < ·)
  /-- A phase has a row if an object or the catalog names it. -/
  named : ∀ n, n ∈ t.rows.map Row.phase ↔
    (∃ o ∈ s.objects, o.phase = n) ∨ ∃ e ∈ s.catalog, e.phase = n
  /-- A known number of objects comes before the counted one. -/
  counted : ∀ r ∈ t.rows, r.objectCount =
    ((s.objectCounts.get? r.phase).map UInt64.toNat).getD
      (s.objects.filter (·.phase = r.phase)).length
  /-- Where no number is known all objects are counted. -/
  total : (∀ r ∈ t.rows, s.objectCounts.get? r.phase = none) →
    (t.rows.map Row.objectCount).sum = s.objects.length

theorem countsPhases_of_rows {t : Table} {s : Snapshot} {columns : List Column}
    (rows : t.rows = s.phases.map (s.row columns)) : t.CountsPhases s := by
  have phases : t.rows.map Row.phase = s.phases := by
    rw [rows, s.map_phase_row]
  have counted : ∀ n, (s.row columns n).objectCount =
      ((s.objectCounts.get? n).map UInt64.toNat).getD (s.objectsOf n).length := by
    intro n
    show s.objectCount n = _
    rw [Snapshot.objectCount]
    cases s.objectCounts.get? n <;> rfl
  constructor
  case ascending =>
    rw [phases]
    exact s.ascending_phases
  case named =>
    intro n
    rw [phases, s.mem_phases]
  case counted =>
    intro r member
    rw [rows] at member
    obtain ⟨n, -, rfl⟩ := List.mem_map.mp member
    exact counted n
  case total =>
    intro unknown
    have scanned : ∀ n ∈ s.phases, (s.row columns n).objectCount = (s.objectsOf n).length := by
      intro n member
      have none : s.objectCounts.get? n = none :=
        unknown (s.row columns n) (rows ▸ List.mem_map_of_mem member)
      rw [counted, none]
      rfl
    have covers : ∀ o ∈ s.objects, o.phase ∈ s.phases :=
      fun o member => s.mem_phases.mpr (.inl ⟨o, member, rfl⟩)
    rw [rows, List.map_map, ← sum_length_filter s.objects s.nodup_phases covers]
    exact congrArg List.sum (List.map_congr_left scanned)

/-- **The rows of a table are the phases of the model.**  If there are columns, the rows ascend
strictly by phase, they are those of the phases that an object or the catalog names, and each has
the known number of its objects or else as many as there are; where no number is known the rows
count all objects. -/
theorem ofSnapshot_countsPhases {columns : List Column} (listed : columns ≠ []) (s : Snapshot) :
    (ofSnapshot s columns).CountsPhases s := by
  have rows : (ofSnapshot s columns).rows = s.phases.map (s.row columns) := by
    rw [rows_ofSnapshot, if_neg listed]
  exact countsPhases_of_rows rows

/-- A phase below zero, one that only the catalog names, and a number for a phase that there is
not. -/
def sparse : Snapshot :=
  ⟨[⟨2, "Roof", ∅⟩, ⟨-1, "", ∅⟩, ⟨2, "", ∅⟩], [⟨7, "Yard"⟩, ⟨2, "Top"⟩, ⟨7, "Yard"⟩],
    .ofList [(2, 5), (9, 4)]⟩

/-- The built-in columns have a row for each phase of a sparse model. -/
theorem ofSnapshot_countsPhases_sparse :
    Config.default.columns ≠ [] ∧
      (ofSnapshot sparse Config.default.columns).CountsPhases sparse := by
  have listed : Config.default.columns ≠ [] := List.cons_ne_nil _ _
  exact ⟨listed, ofSnapshot_countsPhases listed sparse⟩

example : sparse.phases.map (fun n => (n, sparse.objectCount n)) = [(-1, 1), (2, 5), (7, 0)] := by
  decide +kernel

end Table

end PhaseTable
