import Mathlib.Data.List.Basic
import Mathlib.Data.List.Perm.Basic
import Mathlib.Order.Lattice
import Mathlib.Tactic.Ring

/-!
# Paging by offset

A table is read page by page: each query sorts the rows anew and returns those from an
offset on, and the next page starts where the last one ended.  When the order does not
decide between two rows, every query may arrange them as it likes.

`Pages` are the walks one can make that way.  If only one arrangement is possible, a walk
has read a beginning of it (`Pages.eq_take`).  If several are, what a walk has read is a
rearrangement of a beginning as long as no page ends between two rows the order does not
tell apart (`Pages.perm_take`), and as soon as one does there is a walk that reads a row
twice (`exists_pages_repeating`).

## Main definitions

* `Arranges le rows B` — `B` is `rows` in an order that `le` permits.
* `page p o B` — the `p` rows from offset `o` on.
* `StrictAt le B o` — the order separates the first `o` rows from the others.
* `Pages` — walks.
-/

namespace EvGrpc.Lib

variable {α : Type}

/-! ## Arrangements -/

/-- `B` is `rows`, in an order that `le` permits. -/
structure Arranges (le : α → α → Bool) (rows B : List α) : Prop where
  perm : B.Perm rows
  sorted : B.Pairwise fun a b => le a b = true

/-- A relation by which rows can be sorted. -/
structure Sorts (le : α → α → Bool) : Prop where
  trans : ∀ a b c, le a b = true → le b c = true → le a c = true
  total : ∀ a b, (le a b || le b a) = true

theorem Sorts.refl {le : α → α → Bool} (h : Sorts le) (a : α) : le a a = true := by
  simpa using h.total a a

/-- Sorting arranges. -/
theorem arranges_mergeSort {le : α → α → Bool} (h : Sorts le) {rows rows' : List α}
    (hperm : rows'.Perm rows) : Arranges le rows (rows'.mergeSort le) where
  perm := (List.mergeSort_perm rows' le).trans hperm
  sorted := List.pairwise_mergeSort h.trans h.total rows'

/-- An arrangement is not changed by sorting. -/
theorem Arranges.mergeSort_eq {le : α → α → Bool} {rows B : List α} (h : Arranges le rows B) :
    B.mergeSort le = B :=
  List.mergeSort_of_pairwise h.sorted

/-- An antisymmetric order permits one arrangement. -/
theorem Arranges.unique {le : α → α → Bool} {rows B B' : List α} (h : Arranges le rows B)
    (h' : Arranges le rows B')
    (hanti : ∀ a ∈ rows, ∀ b ∈ rows, le a b = true → le b a = true → a = b) : B = B' := by
  refine List.Perm.eq_of_pairwise ?_ h.sorted h'.sorted (h.perm.trans h'.perm.symm)
  intro a b ha hb hab hba
  exact hanti a (h.perm.mem_iff.mp ha) b (h'.perm.mem_iff.mp hb) hab hba

/-! ## Pages of one arrangement -/

/-- `LIMIT p OFFSET o` -/
def page (p o : ℕ) (B : List α) : List α := (B.drop o).take p

/-- A page continues what was read before it. -/
theorem take_append_page (p o : ℕ) (B : List α) : B.take o ++ page p o B = B.take (o + p) :=
  List.take_add.symm

/-- The order separates the first `o` rows from the others. -/
def StrictAt (le : α → α → Bool) (B : List α) (o : ℕ) : Prop :=
  ∀ a ∈ B.take o, ∀ b ∈ B.drop o, le b a = false

theorem strictAt_of_length_le {le : α → α → Bool} {B : List α} {o : ℕ} (h : B.length ≤ o) :
    StrictAt le B o := by
  intro a _ b hb
  rw [List.drop_eq_nil_of_le h] at hb
  cases hb

/-- In a sorted list it is enough to compare the two rows at the seam. -/
theorem strictAt_iff {le : α → α → Bool} (hle : Sorts le) {B : List α}
    (hB : B.Pairwise fun a b => le a b = true) {o : ℕ} (ho : o + 1 < B.length) :
    StrictAt le B (o + 1) ↔ le B[o + 1] B[o] = false := by
  have hdrop : B.drop (o + 1) = B[o + 1] :: B.drop (o + 2) := List.drop_eq_getElem_cons ho
  have htake : B.take (o + 1) = B.take o ++ [B[o]] := by
    rw [List.take_add_one, List.getElem?_eq_getElem (by omega)]
    rfl
  constructor
  · intro h
    refine h _ ?_ _ ?_
    · rw [htake]
      exact List.mem_append_right _ (List.mem_singleton_self _)
    · rw [hdrop]
      exact List.mem_cons_self
  · intro h a ha b hb
    -- Everything before the seam is at most its left row, everything after at least its right.
    have hleft : le a B[o] = true := by
      rw [htake] at ha
      rcases List.mem_append.mp ha with ha | ha
      · obtain ⟨i, hi, rfl⟩ := List.getElem_of_mem ha
        rw [List.getElem_take]
        rw [List.length_take] at hi
        exact List.pairwise_iff_getElem.mp hB i o _ _ (by omega)
      · rw [List.mem_singleton.mp ha]
        exact hle.refl _
    have hright : le B[o + 1] b = true := by
      rw [hdrop] at hb
      rcases List.mem_cons.mp hb with rfl | hb
      · exact hle.refl _
      · obtain ⟨i, hi, rfl⟩ := List.getElem_of_mem hb
        rw [List.getElem_drop]
        rw [List.length_drop] at hi
        exact List.pairwise_iff_getElem.mp hB (o + 1) (o + 2 + i) _ _ (by omega)
    by_contra hba
    rw [Bool.not_eq_false] at hba
    rw [hle.trans _ _ _ hright (hle.trans _ _ _ hba hleft)] at h
    cases h

/-- Of a sorted list, a condition that smaller rows inherit selects a beginning. -/
theorem filter_eq_take {le : α → α → Bool} {q : α → Bool}
    (hq : ∀ a b, le a b = true → q b = true → q a = true) {B : List α}
    (hB : B.Pairwise fun a b => le a b = true) : B.filter q = B.take (B.filter q).length := by
  induction B with
  | nil => rfl
  | cons b B ih =>
      obtain ⟨hb, hB⟩ := List.pairwise_cons.mp hB
      by_cases hqb : q b = true
      · rw [List.filter_cons_of_pos hqb, List.length_cons, List.take_succ_cons, ← ih hB]
      · have hnil : B.filter q = [] := by
          rw [List.filter_eq_nil_iff]
          intro c hc hqc
          exact hqb (hq b c (hb c hc) hqc)
        rw [List.filter_cons_of_neg hqb, hnil]
        rfl

/-- Where the order separates, all arrangements agree on which rows come first. -/
theorem Arranges.take_perm {le : α → α → Bool} (hle : Sorts le) {rows R B : List α}
    (hR : Arranges le rows R) (hB : Arranges le rows B) {o : ℕ} (h : StrictAt le R o) :
    (B.take o).Perm (R.take o) := by
  -- The rows before the seam are those that none of the rows after it is at most.
  let q : α → Bool := fun a => (R.drop o).all fun b => !le b a
  have hdown : ∀ a b, le a b = true → q b = true → q a = true := by
    intro a b hab hqb
    simp only [q, List.all_eq_true, Bool.not_eq_true'] at hqb ⊢
    intro c hc
    by_contra hca
    rw [Bool.not_eq_false] at hca
    have hcb := hqb c hc
    rw [hle.trans _ _ _ hca hab] at hcb
    cases hcb
  have hRfilter : R.filter q = R.take o := by
    have hfirst : (R.take o).filter q = R.take o := by
      rw [List.filter_eq_self]
      intro a ha
      simp only [q, List.all_eq_true, Bool.not_eq_true']
      exact h a ha
    have hrest : (R.drop o).filter q = [] := by
      rw [List.filter_eq_nil_iff]
      intro b hb hqb
      simp only [q, List.all_eq_true, Bool.not_eq_true'] at hqb
      have := hqb b hb
      rw [hle.refl b] at this
      cases this
    conv_lhs => rw [← List.take_append_drop o R]
    rw [List.filter_append, hfirst, hrest, List.append_nil]
  have hperm : (B.filter q).Perm (R.take o) := by
    rw [← hRfilter]
    exact (hB.perm.trans hR.perm.symm).filter q
  have hlen : (B.filter q).length = min o B.length := by
    rw [hperm.length_eq, List.length_take, hR.perm.length_eq, hB.perm.length_eq]
  rw [filter_eq_take hdown hB.sorted, hlen] at hperm
  rwa [List.take_eq_take_min]

/-! ## Walks -/

/-- Walks over `n` rows in arrangements from `Arr`, with page sizes from `Size`: the
number of pages, the rows read, and the offset of the next page.  There always is a
first page; another one follows as long as its offset is inside the table. -/
inductive Pages (Arr : List α → Prop) (Size : ℕ → Prop) (n : ℕ) : ℕ → List α → ℕ → Prop
  | first {B : List α} {p : ℕ} (hB : Arr B) (hp : Size p) : Pages Arr Size n 1 (page p 0 B) p
  | more {k o p : ℕ} {acc B : List α} (h : Pages Arr Size n k acc o) (ho : o < n) (hB : Arr B)
      (hp : Size p) : Pages Arr Size n (k + 1) (acc ++ page p o B) (o + p)

namespace Pages
variable {Arr : List α → Prop} {Size : ℕ → Prop} {n k o : ℕ} {acc : List α}

/-- Pages are not empty, so a walk has no more pages than there are rows. -/
theorem count_le (hSize : ∀ p, Size p → 0 < p) (h : Pages Arr Size n k acc o) :
    k ≤ o ∧ k ≤ max 1 n := by
  induction h with
  | first hB hp =>
      have := hSize _ hp
      omega
  | more h ho hB hp ih =>
      have := hSize _ hp
      omega

/-- With one arrangement, a walk has read a beginning of it. -/
theorem eq_take {R : List α} (hArr : ∀ B, Arr B → B = R) (h : Pages Arr Size n k acc o) :
    acc = R.take o := by
  induction h with
  | first hB hp =>
      rw [hArr _ hB]
      rfl
  | more h ho hB hp ih => rw [hArr _ hB, ih, take_append_page]

/-- Pages of one size end at the multiples of the size. -/
theorem offset_eq {p : ℕ} (h : Pages Arr (· = p) n k acc o) : o = k * p := by
  induction h with
  | first hB hp => rw [hp, Nat.one_mul]
  | more h ho hB hp ih => rw [ih, hp, Nat.succ_mul]

/-- When the order separates the rows wherever a page ends, a walk has read the rows of a
beginning, each once. -/
theorem perm_take {le : α → α → Bool} (hle : Sorts le) {rows R : List α} {p : ℕ}
    (hArr : ∀ B, Arr B → Arranges le rows B) (hR : Arranges le rows R)
    (hstrict : ∀ k, 0 < k → StrictAt le R (k * p)) (h : Pages Arr (· = p) n k acc o) :
    acc.Perm (R.take o) := by
  have htake : ∀ B k, Arr B → (B.take (k * p)).Perm (R.take (k * p)) := by
    intro B k hB
    rcases Nat.eq_zero_or_pos k with rfl | hk
    · simp
    · exact hR.take_perm hle (hArr B hB) (hstrict k hk)
  induction h with
  | first hB hp =>
      subst hp
      have := htake _ 1 hB
      rwa [Nat.one_mul] at this
  | more h ho hB hp ih =>
      rename_i k o q acc B
      subst hp
      have hoff := h.offset_eq
      have hnext : o + q = (k + 1) * q := by rw [hoff, Nat.succ_mul]
      have hfirst : (B.take o).Perm (R.take o) := hoff ▸ htake B k hB
      have hboth : (B.take (o + q)).Perm (R.take (o + q)) := hnext ▸ htake B (k + 1) hB
      rw [← take_append_page] at hboth
      exact (ih.append_right _).trans ((hfirst.symm.append_right _).trans hboth)

/-- A walk can be continued to its end; it keeps what it has read. -/
theorem exists_end {B : List α} (hB : Arr B) {p : ℕ} (hp : Size p) (hpos : 0 < p)
    (h : Pages Arr Size n k acc o) :
    ∃ k' acc' o', Pages Arr Size n k' (acc ++ acc') o' ∧ n ≤ o' := by
  induction hgap : n - o using Nat.strong_induction_on generalizing k acc o with
  | _ gap ih =>
      by_cases ho : o < n
      · obtain ⟨k', acc', o', hend, hle⟩ := ih (n - (o + p)) (by omega) (h.more ho hB hp) rfl
        rw [List.append_assoc] at hend
        exact ⟨k', _, o', hend, hle⟩
      · exact ⟨k, [], o, by rwa [List.append_nil], by omega⟩

/-- The walk that always meets the same arrangement. -/
theorem same {R : List α} (hR : Arr R) {p : ℕ} (hp : Size p) {k : ℕ} (hk : 0 < k)
    (hin : ∀ j, 0 < j → j < k → j * p < n) : Pages Arr Size n k (R.take (k * p)) (k * p) := by
  induction k with
  | zero => cases hk
  | succ k ih =>
      rcases Nat.eq_zero_or_pos k with rfl | hpos
      · rw [Nat.one_mul]
        exact .first hR hp
      · have h := ih hpos fun j h₁ h₂ => hin j h₁ (by omega)
        have hnext := h.more (hin k hpos (by omega)) hR hp
        rw [take_append_page] at hnext
        rwa [Nat.succ_mul]

/-- A walk reads nothing but rows. -/
theorem mem {rows : List α} (hArr : ∀ B, Arr B → B.Perm rows) (h : Pages Arr Size n k acc o)
    {a : α} (ha : a ∈ acc) : a ∈ rows := by
  have hpage : ∀ p o B, Arr B → a ∈ page p o B → a ∈ rows := by
    intro p o B hB hmem
    exact (hArr B hB).mem_iff.mp (List.mem_of_mem_drop (List.mem_of_mem_take hmem))
  induction h with
  | first hB hp => exact hpage _ _ _ hB ha
  | more h ho hB hp ih =>
      rcases List.mem_append.mp ha with ha | ha
      · exact ih ha
      · exact hpage _ _ _ hB ha

/-- A walk with pages of one size can read every row once. -/
theorem exists_all {le : α → α → Bool} {rows R : List α} (hR : Arranges le rows R) {p : ℕ}
    (hp : Size p) (hpos : 0 < p) :
    ∃ k acc o, Pages (Arranges le rows) Size rows.length k acc o ∧ rows.length ≤ o ∧
      acc.Perm rows := by
  have hlen := hR.perm.length_eq
  obtain ⟨k, hk⟩ : ∃ k, k = (rows.length - 1) / p + 1 := ⟨_, rfl⟩
  have hend : rows.length ≤ k * p := by
    have := Nat.lt_div_mul_add hpos (a := rows.length - 1)
    rw [hk, Nat.succ_mul]
    omega
  have hin : ∀ j, 0 < j → j < k → j * p < rows.length := by
    intro j hj hlt
    have hle : j * p ≤ rows.length - 1 :=
      (Nat.le_div_iff_mul_le hpos).mp (by omega)
    have : 0 < j * p := Nat.mul_pos hj hpos
    omega
  refine ⟨k, _, _, Pages.same hR hp (hk ▸ Nat.succ_pos _) hin, hend, ?_⟩
  have hall : R.length ≤ k * p := hlen.trans_le hend
  rw [List.take_of_length_le hall]
  exact hR.perm

end Pages

/-! ## Ties at a seam -/

/-- Exchange the rows at a seam. -/
def exchange (R : List α) (o : ℕ) (a b : α) : List α := R.take o ++ b :: a :: R.drop (o + 2)

/-- Two rows that the order does not tell apart may be exchanged. -/
theorem Arranges.exchange {le : α → α → Bool} {rows R : List α} (hR : Arranges le rows R)
    {o : ℕ} (ho : o + 1 < R.length) (htie : le R[o + 1] R[o] = true) :
    Arranges le rows (exchange R o R[o] R[o + 1]) := by
  have hsplit : R = R.take o ++ R[o] :: R[o + 1] :: R.drop (o + 2) := by
    rw [← List.drop_eq_getElem_cons ho, ← List.drop_eq_getElem_cons (by omega),
      List.take_append_drop]
  have hsorted := hR.sorted
  rw [hsplit, List.pairwise_append] at hsorted
  obtain ⟨hfirst, hlast, hacross⟩ := hsorted
  obtain ⟨ha, hlast⟩ := List.pairwise_cons.mp hlast
  obtain ⟨hb, hlast⟩ := List.pairwise_cons.mp hlast
  refine ⟨?_, ?_⟩
  · refine List.Perm.trans ?_ hR.perm
    conv_rhs => rw [hsplit]
    exact (List.Perm.swap _ _ _).append_left _
  · unfold Lib.exchange
    rw [List.pairwise_append]
    refine ⟨hfirst, ?_, ?_⟩
    · refine List.pairwise_cons.mpr ⟨?_, List.pairwise_cons.mpr ⟨?_, hlast⟩⟩
      · intro c hc
        rcases List.mem_cons.mp hc with rfl | hc
        · exact htie
        · exact hb c hc
      · intro c hc
        exact ha c (List.mem_cons_of_mem _ hc)
    · intro c hc d hd
      exact hacross c hc d ((List.Perm.swap _ _ _).mem_iff.mp hd)

private theorem mem_take_cons {p : ℕ} (hp : 0 < p) (a : α) (l : List α) : a ∈ (a :: l).take p := by
  cases p with
  | zero => cases hp
  | succ p => exact List.mem_cons_self

/-- When a page ends between two rows that the order does not tell apart, some walk to
the end reads a row twice. -/
theorem exists_pages_repeating {le : α → α → Bool} (hle : Sorts le) {Arr : List α → Prop}
    {Size : ℕ → Prop} {rows R : List α} {p k : ℕ} (hArr : ∀ B, Arranges le rows B → Arr B)
    (hR : Arranges le rows R) (hp : Size p) (hpos : 0 < p) (hk : 0 < k) (hin : k * p < R.length)
    (htie : ¬ StrictAt le R (k * p)) :
    ∃ k' acc o, Pages Arr Size R.length k' acc o ∧ R.length ≤ o ∧ ¬ acc.Nodup := by
  obtain ⟨o, ho⟩ : ∃ o, k * p = o + 1 := ⟨k * p - 1, by have := Nat.mul_pos hk hpos; omega⟩
  have hlt : o + 1 < R.length := by omega
  have htie' : le R[o + 1] R[o] = true := by
    rw [ho, strictAt_iff hle hR.sorted hlt] at htie
    simpa using htie
  -- Read with `R` up to the seam, and then one page with the two rows exchanged.
  have hwalk := Pages.same (n := R.length) (hArr R hR) hp hk fun j _ hj => by
    have := Nat.mul_le_mul_right p (Nat.le_of_lt hj)
    omega
  have hstep := hwalk.more hin (hArr _ (hR.exchange hlt htie')) hp
  obtain ⟨k', acc', o', hend, hle'⟩ := hstep.exists_end (hArr R hR) hp hpos
  refine ⟨k', _, o', hend, hle', ?_⟩
  intro hnodup
  have hdisjoint := (List.nodup_append.mp (List.nodup_append.mp hnodup).1).2.2
  -- The row before the seam comes again as the first one behind it.
  have hmem₁ : R[o] ∈ R.take (k * p) := by
    rw [ho, List.mem_take_iff_getElem]
    exact ⟨o, by omega, rfl⟩
  have hmem₂ : R[o] ∈ page p (k * p) (exchange R o R[o] R[o + 1]) := by
    have hdrop : (exchange R o R[o] R[o + 1]).drop (o + 1) = R[o] :: R.drop (o + 2) := by
      unfold exchange
      rw [List.drop_append, List.length_take, List.drop_eq_nil_of_le (by simp)]
      rw [show o + 1 - min o R.length = 1 by omega]
      rfl
    rw [page, ho, hdrop]
    exact mem_take_cons hpos _ _
  exact hdisjoint _ hmem₁ _ hmem₂ rfl

end EvGrpc.Lib
