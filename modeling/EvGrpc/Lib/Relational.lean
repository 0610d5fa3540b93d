import Mathlib.Algebra.BigOperators.Group.List.Basic
import Mathlib.Data.List.Dedup

/-!
# Sums over tables

A table is a list of rows; a report is a sum over some of them.  The reports of a
server cut the same table in different ways — by the value of a column, by a
partner in another table, by a window — and the results here say when two ways of
cutting give the same total: `sum_filter_partition` for a set of values that
covers the rows, `sum_groupBy` for the groups of a column, `join_eq_map` for a
join along a key that is unique and present on the other side.

Sums are taken in a commutative monoid, so the same results count rows, add
amounts and add amounts some of which are not numbers.  `sumM` is the sum of a
column whose entries may fail to evaluate.
-/

namespace EvGrpc.Lib

variable {α β κ M ε : Type} [AddCommMonoid M]

/-! ## Cutting by the values of a column -/

/-- The sum of `f` over the rows that satisfy `p`. -/
def sumWhere (p : α → Bool) (f : α → M) (rows : List α) : M := ((rows.filter p).map f).sum

theorem sumWhere_cons (p : α → Bool) (f : α → M) (a : α) (rows : List α) :
    sumWhere p f (a :: rows) = (if p a then f a else 0) + sumWhere p f rows := by
  unfold sumWhere
  by_cases h : p a <;> simp [h]

theorem sumWhere_congr {p q : α → Bool} (f : α → M) {rows : List α}
    (h : ∀ a ∈ rows, p a = q a) : sumWhere p f rows = sumWhere q f rows := by
  unfold sumWhere
  rw [List.filter_congr h]

private theorem sum_indicator [DecidableEq κ] (ks : List κ) (hks : ks.Nodup) (k : κ) (m : M) :
    (ks.map fun k' => if k' = k then m else 0).sum = if k ∈ ks then m else 0 := by
  induction ks with
  | nil => simp
  | cons x ks ih =>
      obtain ⟨hx, hks⟩ := List.nodup_cons.mp hks
      rw [List.map_cons, List.sum_cons, ih hks]
      by_cases h : x = k
      · subst h; simp [hx]
      · have h' : ¬ k = x := fun e => h e.symm
        simp [h, h']

/-- Adding up the parts of a partition gives the whole: over distinct values `ks`
of a column, the sums over the rows with each value add up to the sum over the
rows with any of them. -/
theorem sum_filter_partition [DecidableEq κ] (key : α → κ) (p : α → Bool) (f : α → M)
    (ks : List κ) (hks : ks.Nodup) (rows : List α) :
    (ks.map fun k => sumWhere (fun a => p a && decide (key a = k)) f rows).sum =
      sumWhere (fun a => p a && decide (key a ∈ ks)) f rows := by
  induction rows with
  | nil => simp [sumWhere]
  | cons a rows ih =>
      simp only [sumWhere_cons, List.sum_map_add, ih]
      congr 1
      by_cases hp : p a
      · simpa [hp, eq_comm] using sum_indicator ks hks (key a) (f a)
      · simp [hp]

/-- When the values cover the rows, the parts add up to the whole. -/
theorem sum_filter_cover [DecidableEq κ] {key : α → κ} {p : α → Bool} {ks : List κ} {rows : List α}
    (f : α → M) (hks : ks.Nodup) (hcover : ∀ a ∈ rows, p a = true → key a ∈ ks) :
    (ks.map fun k => sumWhere (fun a => p a && decide (key a = k)) f rows).sum =
      sumWhere p f rows := by
  rw [sum_filter_partition key p f ks hks]
  refine sumWhere_congr f fun a ha => ?_
  by_cases hp : p a = true
  · simp [hp, hcover a ha hp]
  · simp [hp]

/-- A sum does not depend on the order of the rows. -/
theorem sumWhere_perm {p : α → Bool} {f : α → M} {rows rows' : List α} (h : rows.Perm rows') :
    sumWhere p f rows = sumWhere p f rows' :=
  ((h.filter p).map f).sum_eq

/-! ## Groups -/

/-- `GROUP BY`: the values of a column that occur, each with its rows. -/
def groupBy [DecidableEq κ] (key : α → κ) (rows : List α) : List (κ × List α) :=
  (rows.map key).dedup.map fun k => (k, rows.filter fun a => decide (key a = k))

theorem groupBy_keys [DecidableEq κ] (key : α → κ) (rows : List α) :
    (groupBy key rows).map Prod.fst = (rows.map key).dedup := by
  simp [groupBy, Function.comp_def]

/-- No value has two groups. -/
theorem nodup_groupBy_keys [DecidableEq κ] (key : α → κ) (rows : List α) :
    ((groupBy key rows).map Prod.fst).Nodup := by
  rw [groupBy_keys]
  exact List.nodup_dedup _

/-- A group consists of rows of the table that carry its value, and has one. -/
theorem mem_groupBy [DecidableEq κ] {key : α → κ} {rows : List α} {g : κ × List α}
    (h : g ∈ groupBy key rows) :
    g.2 = rows.filter (fun a => decide (key a = g.1)) ∧ ∃ a ∈ g.2, key a = g.1 := by
  obtain ⟨k, hk, rfl⟩ := List.mem_map.mp h
  obtain ⟨a, ha, rfl⟩ := List.mem_map.mp (List.mem_dedup.mp hk)
  exact ⟨rfl, a, List.mem_filter.mpr ⟨ha, by simp⟩, rfl⟩

/-- The aggregate of a group, looked up by its key. -/
theorem find?_groupBy [DecidableEq κ] (key : α → κ) (f : List α → β) (rows : List α) (k : κ) :
    ((groupBy key rows).map fun g => (g.1, f g.2)).find? (fun x => decide (x.1 = k)) =
      if k ∈ rows.map key then some (k, f (rows.filter fun a => decide (key a = k))) else none := by
  rw [groupBy, List.map_map]
  by_cases hk : k ∈ rows.map key
  · rw [if_pos hk]
    have hmem := List.mem_dedup.mpr hk
    generalize (rows.map key).dedup = ks at hmem
    induction ks with
    | nil => cases hmem
    | cons x ks ih =>
        by_cases hx : x = k
        · simp [hx]
        · have htail : k ∈ ks := by simpa [Ne.symm hx] using hmem
          simpa [hx] using ih htail
  · rw [if_neg hk, List.find?_eq_none]
    intro x hx
    obtain ⟨x', hx', rfl⟩ := List.mem_map.mp hx
    have hne : x' ≠ k := fun e => hk (e ▸ List.mem_dedup.mp hx')
    simpa using hne

/-- Distinct keys in the order of a list of all of them are what is left of it. -/
theorem eq_filter_of_ranked [DecidableEq κ] (rank : κ → ℕ) {ks all : List κ} (hks : ks.Nodup)
    (hall : all.Pairwise fun a b => rank a < rank b) (hsub : ∀ k ∈ ks, k ∈ all)
    (hrank : ks.Pairwise fun a b => rank a ≤ rank b) :
    ks = all.filter fun k => decide (k ∈ ks) := by
  have hranks : (all.map rank).Nodup := by
    rw [List.Nodup, List.pairwise_map]
    exact hall.imp Nat.ne_of_lt
  have hfilter : (all.filter fun k => decide (k ∈ ks)).Pairwise fun a b => rank a ≤ rank b :=
    (hall.imp Nat.le_of_lt).filter _
  refine List.Perm.eq_of_pairwise ?_ hrank hfilter ?_
  · intro a b ha hb hab hba
    exact List.inj_on_of_nodup_map hranks (hsub a ha) (List.mem_filter.mp hb).1
      (Nat.le_antisymm hab hba)
  · rw [List.perm_ext_iff_of_nodup hks ((List.Nodup.of_map rank hranks).filter _)]
    intro k
    rw [List.mem_filter, decide_eq_true_iff]
    constructor
    · intro hk
      exact ⟨hsub k hk, hk⟩
    · intro hk
      exact hk.2

/-- The groups add up to the table. -/
theorem sum_groupBy [DecidableEq κ] (key : α → κ) (f : α → M) (rows : List α) :
    ((groupBy key rows).map fun g => (g.2.map f).sum).sum = (rows.map f).sum := by
  have h := sum_filter_partition key (fun _ => true) f _ (List.nodup_dedup (rows.map key)) rows
  simp only [sumWhere, Bool.true_and] at h
  rw [List.filter_eq_self.mpr (by
    intro a ha
    simpa using ⟨a, ha, rfl⟩)] at h
  rw [← h, groupBy, List.map_map]
  rfl

/-! ## Joins -/

/-- `JOIN … ON`: the pairs of rows with equal columns. -/
def join [DecidableEq κ] (ka : α → κ) (kb : β → κ) (as : List α) (bs : List β) : List (α × β) :=
  as.flatMap fun a => (bs.filter fun b => decide (kb b = ka a)).map fun b => (a, b)

/-- `FULL OUTER JOIN … ON`: the pairs of rows with equal columns, and every row that
has no partner, alone. -/
def fullOuterJoin [DecidableEq κ] (ka : α → κ) (kb : β → κ) (as : List α) (bs : List β) :
    List (Option α × Option β) :=
  (join ka kb as bs).map (fun p => (some p.1, some p.2)) ++
    (as.filter fun a => decide (ka a ∉ bs.map kb)).map (fun a => (some a, none)) ++
    (bs.filter fun b => decide (kb b ∉ as.map ka)).map fun b => (none, some b)

theorem filter_key_eq_singleton [DecidableEq κ] {kb : β → κ} {bs : List β}
    (hbs : (bs.map kb).Nodup) {b : β} (hb : b ∈ bs) :
    (bs.filter fun x => decide (kb x = kb b)) = [b] := by
  induction bs with
  | nil => cases hb
  | cons x bs ih =>
      obtain ⟨hx, hbs⟩ := List.nodup_cons.mp hbs
      rcases List.mem_cons.mp hb with rfl | hb
      · have : (bs.filter fun x => decide (kb x = kb b)) = [] := by
          rw [List.filter_eq_nil_iff]
          intro y hy he
          exact hx (List.mem_map.mpr ⟨y, hy, by simpa using he⟩)
        simp [this]
      · have hne : ¬ kb x = kb b := fun e => hx (e ▸ List.mem_map.mpr ⟨b, hb, rfl⟩)
        simp [hne, ih hbs hb]

/-- A join along a unique key that every row refers to keeps every row exactly
once, and pairs it with its partner. -/
theorem join_eq_map [DecidableEq κ] {ka : α → κ} {kb : β → κ} {as : List α} {bs : List β}
    (hbs : (bs.map kb).Nodup) (partner : α → β)
    (h : ∀ a ∈ as, partner a ∈ bs ∧ kb (partner a) = ka a) :
    join ka kb as bs = as.map fun a => (a, partner a) := by
  induction as with
  | nil => rfl
  | cons a as ih =>
      obtain ⟨hm, hk⟩ := h a (by simp)
      have hone := filter_key_eq_singleton hbs hm
      rw [hk] at hone
      have htail := ih fun x hx => h x (by simp [hx])
      simp only [join] at htail
      simp only [join, List.flatMap_cons, hone, htail, List.map_cons, List.map_nil,
        List.cons_append, List.nil_append]

/-- Two tables with the same unique keys: every row has its partner, and none is alone. -/
theorem fullOuterJoin_map [DecidableEq κ] {ka : α → κ} {kb : β → κ} {f : κ → α} {g : κ → β}
    {ks : List κ} (hks : ks.Nodup) (hf : ∀ k, ka (f k) = k) (hg : ∀ k, kb (g k) = k) :
    fullOuterJoin ka kb (ks.map f) (ks.map g) = ks.map fun k => (some (f k), some (g k)) := by
  have hkb : (ks.map g).map kb = ks := by simp [Function.comp_def, hg]
  have hka : (ks.map f).map ka = ks := by simp [Function.comp_def, hf]
  have hjoin : join ka kb (ks.map f) (ks.map g) = (ks.map f).map fun a => (a, g (ka a)) := by
    apply join_eq_map
    · rw [hkb]
      exact hks
    · intro a ha
      obtain ⟨k, hk, rfl⟩ := List.mem_map.mp ha
      rw [hf]
      exact ⟨List.mem_map_of_mem hk, hg k⟩
  have hleft : ((ks.map f).filter fun a => decide (ka a ∉ (ks.map g).map kb)) = [] := by
    rw [hkb, List.filter_eq_nil_iff]
    intro a ha
    obtain ⟨k, hk, rfl⟩ := List.mem_map.mp ha
    simp [hf, hk]
  have hright : ((ks.map g).filter fun b => decide (kb b ∉ (ks.map f).map ka)) = [] := by
    rw [hka, List.filter_eq_nil_iff]
    intro b hb
    obtain ⟨k, hk, rfl⟩ := List.mem_map.mp hb
    simp [hg, hk]
  rw [fullOuterJoin, hjoin, hleft, hright]
  simp [Function.comp_def, hf]

/-! ## Keyed tables -/

/-- Put `row` in the place of the rows with its key. -/
def replaceBy [DecidableEq κ] (key : α → κ) (row : α) (rows : List α) : List α :=
  rows.map fun a => if key a = key row then row else a

/-- Remove the rows with the key `k`. -/
def deleteBy [DecidableEq κ] (key : α → κ) (k : κ) (rows : List α) : List α :=
  rows.filter fun a => decide (key a ≠ k)

theorem mem_replaceBy [DecidableEq κ] {key : α → κ} {row a : α} {rows : List α}
    (h : a ∈ replaceBy key row rows) : a = row ∨ (a ∈ rows ∧ key a ≠ key row) := by
  obtain ⟨b, hb, rfl⟩ := List.mem_map.mp h
  by_cases hk : key b = key row
  · exact .inl (if_pos hk)
  · rw [if_neg hk]
    exact .inr ⟨hb, hk⟩

theorem mem_replaceBy_self [DecidableEq κ] {key : α → κ} {row : α} {rows : List α}
    (h : key row ∈ rows.map key) : row ∈ replaceBy key row rows := by
  obtain ⟨a, ha, hkey⟩ := List.mem_map.mp h
  exact List.mem_map.mpr ⟨a, ha, if_pos hkey⟩

theorem mem_deleteBy [DecidableEq κ] {key : α → κ} {k : κ} {a : α} {rows : List α} :
    a ∈ deleteBy key k rows ↔ a ∈ rows ∧ key a ≠ k := by
  simp [deleteBy]

/-! Rows with another key are not affected. -/

theorem mem_cons_of_key_ne (key : α → κ) {row a : α} {rows : List α} (h : key a ≠ key row) :
    a ∈ row :: rows ↔ a ∈ rows := by
  rw [List.mem_cons, or_iff_right]
  rintro rfl
  exact h rfl

theorem mem_replaceBy_of_key_ne [DecidableEq κ] {key : α → κ} {row a : α} {rows : List α}
    (h : key a ≠ key row) : a ∈ replaceBy key row rows ↔ a ∈ rows := by
  constructor
  · intro ha
    rcases mem_replaceBy ha with rfl | ⟨ha, -⟩
    · exact absurd rfl h
    · exact ha
  · exact fun ha => List.mem_map.mpr ⟨a, ha, if_neg h⟩

theorem mem_deleteBy_of_key_ne [DecidableEq κ] {key : α → κ} {k : κ} {a : α} {rows : List α}
    (h : key a ≠ k) : a ∈ deleteBy key k rows ↔ a ∈ rows := by
  rw [mem_deleteBy, and_iff_left h]

/-- Replacing a row keeps the keys. -/
@[simp] theorem map_key_replaceBy [DecidableEq κ] (key : α → κ) (row : α) (rows : List α) :
    (replaceBy key row rows).map key = rows.map key := by
  rw [replaceBy, List.map_map]
  refine List.map_congr_left fun a _ => ?_
  by_cases hk : key a = key row
  · simp [hk]
  · simp [hk]

theorem nodup_map_deleteBy [DecidableEq κ] {γ : Type} {key : α → κ} {k : κ} {f : α → γ}
    {rows : List α} (h : (rows.map f).Nodup) : ((deleteBy key k rows).map f).Nodup :=
  (List.filter_sublist.map f).nodup h

/-- A unique column stays unique when the new row's value occurs in no other row. -/
theorem nodup_map_replaceBy [DecidableEq κ] {γ : Type} {key : α → κ} {f : α → γ} {row : α}
    {rows : List α} (hkey : (rows.map key).Nodup) (hf : (rows.map f).Nodup)
    (hrow : ∀ a ∈ rows, key a ≠ key row → f a ≠ f row) :
    ((replaceBy key row rows).map f).Nodup := by
  induction rows with
  | nil => simp [replaceBy]
  | cons a rows ih =>
      obtain ⟨hka, hkey⟩ := List.nodup_cons.mp hkey
      obtain ⟨hfa, hf⟩ := List.nodup_cons.mp hf
      have htail := ih hkey hf fun b hb => hrow b (by simp [hb])
      have hcons : replaceBy key row (a :: rows) =
          (if key a = key row then row else a) :: replaceBy key row rows := rfl
      rw [hcons, List.map_cons, List.nodup_cons]
      refine ⟨?_, htail⟩
      intro hmem
      obtain ⟨b, hb, he⟩ := List.mem_map.mp hmem
      rcases mem_replaceBy hb with rfl | ⟨hb, hkb⟩
      · -- The new row has already replaced a row further down, so not this one.
        obtain ⟨c, hc, hce⟩ := List.mem_map.mp
          ((map_key_replaceBy key b rows) ▸ List.mem_map_of_mem hb)
        have hne : key a ≠ key b := fun e => hka (List.mem_map.mpr ⟨c, hc, hce.trans e.symm⟩)
        rw [if_neg hne] at he
        exact hrow a (by simp) hne he.symm
      · by_cases hk : key a = key row
        · rw [if_pos hk] at he
          exact hrow b (by simp [hb]) hkb he
        · rw [if_neg hk] at he
          exact hfa (List.mem_map.mpr ⟨b, hb, he⟩)

/-! ## Columns that may fail -/

/-- The sum of a column whose entries may fail to evaluate. -/
def sumM (f : α → Except ε M) (rows : List α) : Except ε M := do
  let xs ← rows.mapM f
  pure xs.sum

theorem mapM_congr {f g : α → Except ε β} {rows : List α} (h : ∀ a ∈ rows, f a = g a) :
    rows.mapM f = rows.mapM g := by
  induction rows with
  | nil => rfl
  | cons a rows ih => rw [List.mapM_cons, List.mapM_cons, h a (by simp), ih fun x hx => h x (by simp [hx])]

/-- When every entry evaluates, the column is the list of the values. -/
theorem mapM_eq_ok {f : α → Except ε β} {g : α → β} {rows : List α}
    (h : ∀ a ∈ rows, f a = .ok (g a)) : rows.mapM f = (.ok (rows.map g) : Except ε (List β)) := by
  induction rows with
  | nil => rfl
  | cons a rows ih =>
      rw [List.mapM_cons, h a (by simp), ih fun x hx => h x (by simp [hx])]
      rfl

/-- When the entries that fail all fail alike, so does the column. -/
theorem mapM_eq_ite {f : α → Except ε β} {g : α → β} {e : ε} {P : α → Prop} [DecidablePred P]
    {rows : List α} (h : ∀ a ∈ rows, f a = if P a then .ok (g a) else .error e) :
    rows.mapM f =
      if ∀ a ∈ rows, P a then (.ok (rows.map g) : Except ε (List β)) else .error e := by
  induction rows with
  | nil => rfl
  | cons a rows ih =>
      rw [List.mapM_cons, h a (by simp), ih fun x hx => h x (by simp [hx])]
      by_cases ha : P a
      · by_cases hrows : ∀ x ∈ rows, P x
        · rw [if_pos ha, if_pos hrows, if_pos (by simpa [ha] using hrows)]
          rfl
        · rw [if_pos ha, if_neg hrows, if_neg (by simpa [ha] using hrows)]
          rfl
      · have hnot : ¬ ∀ x ∈ a :: rows, P x := fun hx => ha (hx a (by simp))
        rw [if_neg ha, if_neg hnot]
        rfl

/-- And the sum is the sum of the values. -/
theorem sumM_eq_ok {f : α → Except ε M} {g : α → M} {rows : List α}
    (h : ∀ a ∈ rows, f a = .ok (g a)) : sumM f rows = .ok (rows.map g).sum := by
  simp only [sumM, mapM_eq_ok h]
  rfl

end EvGrpc.Lib
