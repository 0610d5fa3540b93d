import EvGrpc.Lib.Relational
import Mathlib.Logic.Function.Basic

/-!
# Rows with distinct keys as a map

A table whose rows have distinct keys is a finite map from keys to rows, and nothing else:
two such tables are the same map if and only if they have the same rows (`index_eq_iff`).
Adding, replacing and deleting a row are updates of the map.
-/

namespace EvGrpc.Lib

variable {α κ : Type} [DecidableEq κ] {key : α → κ} {rows rows' : List α} {row : α} {k : κ}

/-- The row with a given key. -/
def index (key : α → κ) (rows : List α) (k : κ) : Option α := rows.find? fun r => key r = k

@[simp] theorem index_nil : index key [] k = none := rfl

theorem index_cons : index key (row :: rows) k = if key row = k then some row else index key rows k := by
  by_cases h : key row = k
  · simp [index, h]
  · simp [index, h]

/-- A row that is found is there and has the key. -/
theorem mem_of_index (h : index key rows k = some row) : row ∈ rows ∧ key row = k :=
  ⟨List.mem_of_find?_eq_some h, by simpa using List.find?_some h⟩

theorem index_eq_some_iff (hnodup : (rows.map key).Nodup) :
    index key rows k = some row ↔ row ∈ rows ∧ key row = k := by
  refine ⟨mem_of_index, ?_⟩
  rintro ⟨hmem, rfl⟩
  induction rows with
  | nil => cases hmem
  | cons r rows ih =>
      rw [List.map_cons, List.nodup_cons] at hnodup
      rw [index_cons]
      rcases List.mem_cons.mp hmem with rfl | hmem
      · simp
      · have hne : key r ≠ key row := fun h => hnodup.1 (h ▸ List.mem_map_of_mem hmem)
        rw [if_neg hne, ih hnodup.2 hmem]

theorem index_eq_none_iff : index key rows k = none ↔ k ∉ rows.map key := by
  simp [index]

theorem index_ne_none_iff : index key rows k ≠ none ↔ k ∈ rows.map key := by
  rw [ne_eq, index_eq_none_iff, not_not]

/-- The rows with a key are the row that is found, if there is one. -/
theorem filter_key_eq (hnodup : (rows.map key).Nodup) :
    (rows.filter fun r => key r = k) = (index key rows k).toList := by
  cases h : index key rows k with
  | none =>
      rw [index_eq_none_iff] at h
      refine List.filter_eq_nil_iff.mpr fun r hr => ?_
      simp only [decide_eq_true_eq]
      exact fun hk => h (hk ▸ List.mem_map_of_mem hr)
  | some row =>
      obtain ⟨hmem, rfl⟩ := mem_of_index h
      exact filter_key_eq_singleton hnodup hmem

/-- Rows with distinct keys are the same map if and only if they are the same rows. -/
theorem index_eq_iff (h : (rows.map key).Nodup) (h' : (rows'.map key).Nodup) :
    index key rows = index key rows' ↔ rows.Perm rows' := by
  constructor
  · intro heq
    refine (List.perm_ext_iff_of_nodup h.of_map h'.of_map).mpr fun r => ?_
    have hr : index key rows (key r) = some r ↔ r ∈ rows ∧ key r = key r := index_eq_some_iff h
    have hr' : index key rows' (key r) = some r ↔ r ∈ rows' ∧ key r = key r :=
      index_eq_some_iff h'
    rw [heq] at hr
    simpa using hr.symm.trans hr'
  · intro hperm
    funext k
    cases hk : index key rows' k with
    | none =>
        rw [index_eq_none_iff] at hk ⊢
        rwa [(hperm.map key).mem_iff]
    | some row =>
        obtain ⟨hmem, hkey⟩ := mem_of_index hk
        exact (index_eq_some_iff h).mpr ⟨hperm.mem_iff.mpr hmem, hkey⟩

/-- A new row is an update of the map. -/
theorem index_cons_eq (row : α) (rows : List α) :
    index key (row :: rows) = Function.update (index key rows) (key row) (some row) := by
  funext k
  rw [index_cons]
  by_cases h : key row = k
  · subst h
    simp
  · rw [if_neg h, Function.update_of_ne (Ne.symm h)]

/-- And so is another row under the same key. -/
theorem index_replaceBy (hnodup : (rows.map key).Nodup) (h : key row ∈ rows.map key) :
    index key (replaceBy key row rows) = Function.update (index key rows) (key row) (some row) := by
  have hnodup' : ((replaceBy key row rows).map key).Nodup := by rwa [map_key_replaceBy]
  funext k
  by_cases hk : k = key row
  · subst hk
    rw [Function.update_self]
    exact (index_eq_some_iff hnodup').mpr ⟨mem_replaceBy_self h, rfl⟩
  · rw [Function.update_of_ne hk]
    ext r
    rw [index_eq_some_iff hnodup', index_eq_some_iff hnodup]
    exact and_congr_left fun hkey => mem_replaceBy_of_key_ne (hkey ▸ hk)

/-- A deleted row is no longer found. -/
theorem index_deleteBy (hnodup : (rows.map key).Nodup) :
    index key (deleteBy key k rows) = Function.update (index key rows) k none := by
  funext j
  by_cases hj : j = k
  · subst hj
    rw [Function.update_self, index_eq_none_iff, List.mem_map]
    rintro ⟨r, hr, hkey⟩
    exact (mem_deleteBy.mp hr).2 hkey
  · rw [Function.update_of_ne hj]
    ext r
    rw [index_eq_some_iff (nodup_map_deleteBy hnodup), index_eq_some_iff hnodup]
    exact and_congr_left fun hkey => mem_deleteBy_of_key_ne (hkey ▸ hj)

/-- A condition on the rows, read off the map. -/
theorem exists_index_iff (hnodup : (rows.map key).Nodup) {P : κ → α → Prop} :
    (∃ k r, index key rows k = some r ∧ P k r) ↔ ∃ r ∈ rows, P (key r) r := by
  constructor
  · intro ⟨k, r, hr, hP⟩
    obtain ⟨hmem, rfl⟩ := mem_of_index hr
    exact ⟨r, hmem, hP⟩
  · intro ⟨r, hr, hP⟩
    exact ⟨key r, r, (index_eq_some_iff hnodup).mpr ⟨hr, rfl⟩, hP⟩

end EvGrpc.Lib
