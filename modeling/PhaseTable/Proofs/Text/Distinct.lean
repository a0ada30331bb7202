/-
# PhaseTable.Proofs.Text.Distinct -- lists without repeats

`distinctBy` keeps the first member with each key.  Its result is a sublist whose
keys do not repeat (`nodup_distinctBy`), and a list whose keys do not repeat is
its own result (`distinctBy_of_nodup`); so is `distinct`, which is `distinctBy`
with the members as their own keys.

No key is lost (`exists_kept_of_mem`), and a member that is added at the end is kept
exactly if its key is new (`distinctBy_concat`).  So the members that are kept are those at
places where their key is new (`distinctBy_eq_firstsBy`), which a look-up finds
(`mem_distinctBy_iff`), and a member whose key occurs before it has no influence
(`distinctBy_remove`).
-/
import Mathlib.Data.List.Induction
import PhaseTable.Text.Pieces

namespace PhaseTable.Text

set_option autoImplicit false

section Keys

variable {α κ : Type} [DecidableEq κ] {key : α → κ}

theorem distinctByFrom_sublist (seen : List κ) (xs : List α) :
    (distinctByFrom key seen xs).Sublist xs := by
  induction xs generalizing seen with
  | nil => exact .slnil
  | cons x xs ih =>
      rw [distinctByFrom]
      split
      · exact (ih seen).cons x
      · exact (ih _).cons_cons x

/-- The keys that are kept do not repeat and are not among those seen before. -/
theorem distinctByFrom_spec (seen : List κ) (xs : List α) :
    ((distinctByFrom key seen xs).map key).Nodup ∧
      ∀ x ∈ distinctByFrom key seen xs, key x ∉ seen := by
  induction xs generalizing seen with
  | nil => simp [distinctByFrom]
  | cons x xs ih =>
      rw [distinctByFrom]
      split
      · exact ih seen
      · next fresh =>
        obtain ⟨nodup, later⟩ := ih (key x :: seen)
        simp only [List.mem_cons, not_or] at later
        refine ⟨?_, ?_⟩
        · rw [List.map_cons, List.nodup_cons]
          refine ⟨?_, nodup⟩
          rw [List.mem_map]
          rintro ⟨y, member, same⟩
          exact (later y member).1 same
        · intro y member
          rcases List.mem_cons.mp member with rfl | member
          · exact fresh
          · exact (later y member).2

theorem distinctByFrom_of_nodup {seen : List κ} {xs : List α} (nodup : (xs.map key).Nodup)
    (fresh : ∀ x ∈ xs, key x ∉ seen) : distinctByFrom key seen xs = xs := by
  induction xs generalizing seen with
  | nil => rfl
  | cons x xs ih =>
      rw [List.map_cons, List.nodup_cons] at nodup
      rw [distinctByFrom, if_neg (fresh x List.mem_cons_self), ih nodup.2]
      intro y member
      rw [List.mem_cons, not_or]
      refine ⟨fun same => nodup.1 ?_, fresh y (List.mem_cons_of_mem x member)⟩
      exact same ▸ List.mem_map_of_mem member

theorem distinctBy_sublist (xs : List α) : (distinctBy key xs).Sublist xs :=
  distinctByFrom_sublist [] xs

theorem nodup_distinctBy (xs : List α) : ((distinctBy key xs).map key).Nodup :=
  (distinctByFrom_spec [] xs).1

theorem distinctBy_of_nodup {xs : List α} (nodup : (xs.map key).Nodup) : distinctBy key xs = xs :=
  distinctByFrom_of_nodup nodup fun _ _ => List.not_mem_nil

theorem exists_kept_of_mem_from {seen : List κ} {xs : List α} {x : α} (member : x ∈ xs)
    (fresh : key x ∉ seen) : ∃ y ∈ distinctByFrom key seen xs, key y = key x := by
  induction xs generalizing seen with
  | nil => cases member
  | cons first rest ih =>
      rw [distinctByFrom]
      by_cases known : key first ∈ seen
      · rw [if_pos known]
        rcases List.mem_cons.mp member with rfl | later
        · exact absurd known fresh
        · exact ih later fresh
      · rw [if_neg known]
        by_cases same : key x = key first
        · exact ⟨first, List.mem_cons_self, same.symm⟩
        · rcases List.mem_cons.mp member with rfl | later
          · exact absurd rfl same
          · have stillFresh : key x ∉ key first :: seen := by simp [same, fresh]
            obtain ⟨y, kept, equal⟩ := ih later stillFresh
            exact ⟨y, List.mem_cons_of_mem first kept, equal⟩

/-- For every member there is one that is kept and has its key. -/
theorem exists_kept_of_mem {xs : List α} {x : α} (member : x ∈ xs) :
    ∃ y ∈ distinctBy key xs, key y = key x :=
  exists_kept_of_mem_from member List.not_mem_nil

theorem mem_map_distinctBy {xs : List α} {k : κ} :
    k ∈ (distinctBy key xs).map key ↔ k ∈ xs.map key := by
  constructor
  · exact fun kept => ((distinctBy_sublist xs).map key).subset kept
  · intro member
    obtain ⟨x, listed, rfl⟩ := List.mem_map.mp member
    obtain ⟨y, kept, same⟩ : ∃ y ∈ distinctBy key xs, key y = key x := exists_kept_of_mem listed
    exact List.mem_map.mpr ⟨y, kept, same⟩

theorem distinctByFrom_concat (seen : List κ) (xs : List α) (x : α) :
    distinctByFrom key seen (xs ++ [x]) =
      distinctByFrom key seen xs ++ if key x ∈ seen ∨ key x ∈ xs.map key then [] else [x] := by
  induction xs generalizing seen with
  | nil => simp [distinctByFrom]
  | cons first rest ih =>
      simp only [List.cons_append, distinctByFrom, List.map_cons, List.mem_cons]
      by_cases known : key first ∈ seen
      · have redundant : key x = key first → key x ∈ seen := fun same => same ▸ known
        simp only [if_pos known, ih, ← or_assoc, or_iff_left_of_imp redundant]
      · simp only [if_neg known, ih, List.cons_append, List.mem_cons, or_assoc, or_left_comm]

theorem distinctBy_concat (xs : List α) (x : α) :
    distinctBy key (xs ++ [x]) =
      distinctBy key xs ++ if key x ∈ xs.map key then [] else [x] := by
  rw [distinctBy, distinctByFrom_concat, distinctBy]
  simp only [List.not_mem_nil, false_or]

/-- The members of a list whose key none of those before them has. -/
def firstsBy (key : α → κ) (xs : List α) : List α :=
  (xs.zipIdx.filter fun entry => key entry.1 ∉ (xs.take entry.2).map key).map (·.1)

theorem firstsBy_concat (xs : List α) (x : α) :
    firstsBy key (xs ++ [x]) = firstsBy key xs ++ if key x ∈ xs.map key then [] else [x] := by
  have kept : xs.zipIdx.filter (fun entry => key entry.1 ∉ ((xs ++ [x]).take entry.2).map key) =
      xs.zipIdx.filter fun entry => key entry.1 ∉ (xs.take entry.2).map key := by
    refine List.filter_congr fun entry listed => ?_
    have inside := List.snd_lt_of_mem_zipIdx listed
    rw [List.take_append_of_le_length (by omega)]
  rw [firstsBy, List.zipIdx_append, List.filter_append, kept, List.map_append, ← firstsBy]
  by_cases known : key x ∈ xs.map key
  · simp [known]
  · simp [known]

/-- The first member with each key is the one whose key is new. -/
theorem distinctBy_eq_firstsBy (xs : List α) : distinctBy key xs = firstsBy key xs := by
  induction xs using List.reverseRecOn with
  | nil => rfl
  | append_singleton xs x ih => rw [distinctBy_concat, firstsBy_concat, ih]

/-- A member is kept if it is what a look-up of its key finds. -/
theorem mem_distinctBy_iff {xs : List α} {x : α} :
    x ∈ distinctBy key xs ↔ xs.find? (key · = key x) = some x := by
  induction xs using List.reverseRecOn with
  | nil => exact iff_of_false List.not_mem_nil (Option.some_ne_none x).symm
  | append_singleton xs last ih =>
      have added : x ∈ (if key last ∈ xs.map key then [] else [last]) ↔
          (∀ y ∈ xs, key y ≠ key x) ∧ last = x := by
        constructor
        · intro listed
          split at listed
          · cases listed
          · next fresh =>
            obtain rfl := List.mem_singleton.mp listed
            exact ⟨fun y inside same => fresh (List.mem_map.mpr ⟨y, inside, same⟩), rfl⟩
        · rintro ⟨absent, rfl⟩
          have fresh : key last ∉ xs.map key := by simpa using absent
          rw [if_neg fresh]
          exact List.mem_singleton_self last
      rw [distinctBy_concat, List.mem_append, ih, added, List.find?_append, Option.or_eq_some_iff,
        List.find?_eq_none, List.find?_singleton]
      by_cases same : last = x <;> simp [same]

theorem distinctByFrom_remove {seen : List κ} {before : List α} {x : α} (after : List α)
    (known : key x ∈ seen ∨ key x ∈ before.map key) :
    distinctByFrom key seen (before ++ x :: after) = distinctByFrom key seen (before ++ after) := by
  induction before generalizing seen with
  | nil =>
      have repeated : key x ∈ seen := known.resolve_right List.not_mem_nil
      rw [List.nil_append, List.nil_append, distinctByFrom, if_pos repeated]
  | cons first rest ih =>
      rw [List.map_cons, List.mem_cons] at known
      simp only [List.cons_append, distinctByFrom]
      split
      · next listed =>
        refine ih ?_
        rcases known with inside | same | later
        · exact .inl inside
        · exact .inl (same ▸ listed)
        · exact .inr later
      · refine congrArg (first :: ·) (ih ?_)
        rcases known with inside | same | later
        · exact .inl (List.mem_cons_of_mem _ inside)
        · exact .inl (same ▸ List.mem_cons_self)
        · exact .inr later

/-- A member whose key occurs before it has no influence. -/
theorem distinctBy_remove {before : List α} {x : α} (after : List α)
    (known : key x ∈ before.map key) :
    distinctBy key (before ++ x :: after) = distinctBy key (before ++ after) :=
  distinctByFrom_remove after (.inr known)

theorem distinctByFrom_of_seen {seen : List κ} {xs : List α} (known : ∀ x ∈ xs, key x ∈ seen) :
    distinctByFrom key seen xs = [] := by
  induction xs with
  | nil => rfl
  | cons x xs ih =>
      obtain ⟨first, rest⟩ := List.forall_mem_cons.mp known
      rw [distinctByFrom, if_pos first, ih rest]

theorem distinctBy_replicate (x : α) (more : Nat) :
    distinctBy key (List.replicate (more + 1) x) = [x] := by
  have known : ∀ y ∈ List.replicate more x, key y ∈ [key x] := by
    intro y repeated
    rw [(List.mem_replicate.mp repeated).2]
    exact List.mem_singleton_self _
  rw [List.replicate_succ, distinctBy, distinctByFrom, if_neg List.not_mem_nil,
    distinctByFrom_of_seen known]

end Keys

section Members

variable {α : Type} [DecidableEq α]

theorem distinctFrom_eq_distinctByFrom (seen xs : List α) :
    distinctFrom seen xs = distinctByFrom id seen xs := by
  induction xs generalizing seen with
  | nil => rfl
  | cons x xs ih => simp only [distinctFrom, distinctByFrom, ih, id]

theorem distinct_eq_distinctBy (xs : List α) : distinct xs = distinctBy id xs :=
  distinctFrom_eq_distinctByFrom [] xs

theorem distinct_sublist (xs : List α) : (distinct xs).Sublist xs := by
  rw [distinct_eq_distinctBy]
  exact distinctBy_sublist xs

theorem nodup_distinct (xs : List α) : (distinct xs).Nodup := by
  rw [distinct_eq_distinctBy]
  have nodup : ((distinctBy id xs).map id).Nodup := nodup_distinctBy xs
  rwa [List.map_id] at nodup

theorem mem_distinct {xs : List α} {x : α} : x ∈ distinct xs ↔ x ∈ xs := by
  have same : x ∈ (distinctBy id xs).map id ↔ x ∈ xs.map id := mem_map_distinctBy
  rwa [List.map_id, List.map_id, ← distinct_eq_distinctBy] at same

theorem head?_distinct (xs : List α) : (distinct xs).head? = xs.head? := by
  cases xs with
  | nil => rfl
  | cons x xs =>
      rw [distinct, distinctFrom, if_neg List.not_mem_nil, List.head?_cons, List.head?_cons]

theorem distinct_of_nodup {xs : List α} (nodup : xs.Nodup) : distinct xs = xs := by
  rw [distinct_eq_distinctBy]
  exact distinctBy_of_nodup (by simpa using nodup)

end Members

end PhaseTable.Text
