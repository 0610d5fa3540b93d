import EvGrpc.Invariant.Charging
import EvGrpc.Lists.Walk
import EvGrpc.Services.Answers

/-!
# Walking through chargings and consumptions

`ListChargings` and `ListConsumptions` sort by start time alone.  Rows that start at the
same time may be arranged differently by every query, and when a page ends between two
of them a client can get a row twice and miss another.

`pagesExactly_filtered_iff` says exactly when that cannot happen, for any table listed this way: at
every seam between two pages the start times differ, and the offset of the page fits an
`int`.
-/

namespace EvGrpc

open Lib

/-! ## Statements -/

section Statements
variable {Col Row : Type}

/-- Every clause refers to a parameter that was bound. -/
def Listing.Bound (l : Listing Col) : Prop :=
  ∀ c ∈ l.clauses, 1 ≤ c.param ∧ c.param ≤ l.params.length

theorem Listing.bound_start : (Listing.start : Listing Col).Bound := by
  intro c hc
  cases hc

theorem Listing.Bound.andWhere {l : Listing Col} (h : l.Bound) {set : Bool} {column : Col}
    {cmp : Cmp} {p : Param} : (l.andWhere set column cmp p).Bound := by
  unfold Listing.andWhere
  split
  · intro c hc
    simp only [List.length_append, List.length_singleton]
    rcases List.mem_append.mp hc with hc | hc
    · have := h c hc
      omega
    · rw [List.mem_singleton.mp hc]
      simp
  · exact h

/-- Parameters that come after the clauses' own do not change the conditions. -/
theorem Listing.Bound.conditions_append {T : Listed Col Row} {l : Listing Col} (h : l.Bound)
    (ps : List Param) : ({ l with params := l.params ++ ps } : Listing Col).conditions T =
      l.conditions T := by
  unfold Listing.conditions
  refine mapM_congr fun c hc => ?_
  obtain ⟨h₁, h₂⟩ := h c hc
  have hparam : placeholder (l.params ++ ps) c.param = placeholder l.params c.param := by
    unfold placeholder
    rw [List.getD_eq_getElem?_getD, List.getD_eq_getElem?_getD,
      List.getElem?_append_left (by omega)]
  rw [hparam]

/-- The rows the filters select. -/
def Listed.matching (T : Listed Col Row) (conds : List (Col × Cmp × Option SqlValue))
    (db : Database) : List Row :=
  (T.rows db).filter (T.satisfies conds)

theorem placeholder_append_left (ps : List Param) (p q : Param) :
    placeholder (ps ++ [p, q]) (ps.length + 1) = p := by
  simp [placeholder]

theorem placeholder_append_right (ps : List Param) (p q : Param) :
    placeholder (ps ++ [p, q]) (ps.length + 2) = q := by
  simp [placeholder]

/-- The statement sorts the selected rows and cuts. -/
theorem Listing.Bound.run_eq {T : Listed Col Row} {l : Listing Col} (h : l.Bound)
    {conds : List (Col × Cmp × Option SqlValue)} (hconds : l.conditions T = .ok conds)
    {limit offset : Param} {m o : ℤ} (hlimit : limit.asCount = .ok m)
    (hoffset : offset.asCount = .ok o) (db : Database) :
    l.run T limit offset db = .ok (limitOffset m o ((T.matching conds db).mergeSort T.order)) := by
  unfold Listing.run
  simp only [h.conditions_append, hconds, placeholder_append_left, placeholder_append_right,
    hlimit, hoffset]
  rfl

theorem sorts_order (T : Listed Col Row) : Sorts T.order where
  trans := by
    intro a b c hab hbc
    simp only [Listed.order, decide_eq_true_eq] at hab hbc ⊢
    exact hbc.trans hab
  total := by
    intro a b
    simp only [Listed.order, Bool.or_eq_true, decide_eq_true_eq]
    exact le_total _ _

/-- Rows that start at different times are told apart. -/
theorem order_eq_false {T : Listed Col Row} {a b : Row} :
    T.order b a = false ↔ T.startTime b < T.startTime a := by
  simp [Listed.order]

/-- A table whose rows may be met in any order. -/
def Listed.Shuffles (T : Listed Col Row) : Prop :=
  (∀ db v, db.SameRows v → (T.rows v).Perm (T.rows db)) ∧
    ∀ (db : Database) (rows : List Row), rows.Perm (T.rows db) →
      ∃ v, db.SameRows v ∧ T.rows v = rows

/-- The results a query may give are the pages of all arrangements. -/
theorem run_results {T : Listed Col Row} (hT : T.Shuffles) {l : Listing Col} (h : l.Bound)
    {conds : List (Col × Cmp × Option SqlValue)} (hconds : l.conditions T = .ok conds)
    {limit offset : Param} {m o : ℤ} (hlimit : limit.asCount = .ok m)
    (hoffset : offset.asCount = .ok o) (db : Database) (x : Except Exn (List Row)) :
    (∃ v, db.SameRows v ∧ l.run T limit offset v = x) ↔
      ∃ B, Arranges T.order (T.matching conds db) B ∧ x = .ok (limitOffset m o B) := by
  simp only [h.run_eq hconds hlimit hoffset]
  constructor
  · rintro ⟨v, hv, rfl⟩
    exact ⟨_, arranges_mergeSort (sorts_order T) ((hT.1 db v hv).filter _), rfl⟩
  · rintro ⟨B, hB, rfl⟩
    -- Meet the selected rows in the order of the arrangement, and then the others.
    have hperm : (B ++ (T.rows db).filter fun r => !T.satisfies conds r).Perm (T.rows db) :=
      (hB.perm.append_right _).trans (List.filter_append_perm _ _)
    obtain ⟨v, hv, hrows⟩ := hT.2 db _ hperm
    refine ⟨v, hv, ?_⟩
    have hmatching : T.matching conds v = B := by
      have hfirst : B.filter (T.satisfies conds) = B := by
        rw [List.filter_eq_self]
        intro r hr
        exact (List.mem_filter.mp (hB.perm.mem_iff.mp hr)).2
      have hrest : ((T.rows db).filter fun r => !T.satisfies conds r).filter (T.satisfies conds) =
          [] := by
        rw [List.filter_eq_nil_iff]
        intro r hr
        simpa using (List.mem_filter.mp hr).2
      rw [Listed.matching, hrows, List.filter_append, hfirst, hrest, List.append_nil]
    rw [hmatching, hB.mergeSort_eq]

end Statements

/-! ## Exactness -/

section Exactness
variable {db : Database} {α β ρ : Type} {call : Int32 → String → Prog Op (Reply ρ)}
  {items : ρ → List β} {next : ρ → String}

/-- With pages of one size, every call of a walk answers, the walk comes to an end, and
then it has returned what `all` lists, each entry once. -/
structure PagesExactly (db : Database) (call : Int32 → String → Prog Op (Reply ρ))
    (items : ρ → List β) (next : ρ → String) (size : Int32) (all : List β) : Prop where
  answers : ∀ resps token, Walk db call next (· = size) resps token → (resps = [] ∨ token ≠ "") →
    Replies db (call size token) fun r => ∃ resp, r = (.OK, some resp)
  ends : ∀ resps token, Walk db call next (· = size) resps token →
    resps.length ≤ max 1 all.length
  exact : ∀ resps, Walk db call next (· = size) resps "" → resps ≠ [] →
    (resps.flatMap items).Perm all

/-- At every seam between two pages of `p` rows the order decides between the two sides,
and the offset fits an `int`. -/
def SeamsHold (le : α → α → Bool) (rows : List α) (p : ℕ) : Prop :=
  ∀ k, 0 < k → k * p < rows.length →
    k * p ≤ 2147483647 ∧ StrictAt le (rows.mergeSort le) (k * p)

variable {mk : List β → String → ρ} {msg : α → β} {le : α → α → Bool} {rows : List α}
  {size : Int32}

theorem lens_eq {p : ℕ} : Lens (· = size) p ↔ p = pageLen size := by
  constructor
  · rintro ⟨_, rfl, hp⟩
    exact hp
  · intro hp
    exact ⟨size, rfl, hp⟩

theorem lens_eq_fun : Lens (· = size) = (· = pageLen size) := by
  funext p
  exact propext lens_eq

/-- If the seams hold, paging is exact. -/
theorem pagesExactly_of_seamsHold (hle : Sorts le)
    (hcall : ListsPages db call mk msg (Arranges le rows) rows.length)
    (hitems : ∀ l t, items (mk l t) = l) (hnext : ∀ l t, next (mk l t) = t)
    (h : SeamsHold le rows (pageLen size)) :
    PagesExactly db call items next size (rows.map msg) := by
  have hR := arranges_mergeSort hle (.refl rows)
  have hlen : (rows.mergeSort le).length = rows.length := hR.perm.length_eq
  have hstrict : ∀ k, 0 < k → StrictAt le (rows.mergeSort le) (k * pageLen size) := by
    intro k hk
    by_cases hin : k * pageLen size < rows.length
    · exact (h k hk hin).2
    · exact strictAt_of_length_le (by omega)
  refine ⟨?_, ?_, ?_⟩
  · intro resps token hwalk hgo
    -- The offset of the call is a multiple of the page size.
    obtain ⟨k, hparse⟩ : ∃ k, parsePageToken token = .ok ((k * pageLen size : ℕ) : ℤ) := by
      rcases walk_pages items hcall hitems hnext hwalk with
        ⟨-, rfl⟩ | ⟨acc, o, hpages, -, rfl, hmax⟩
      · exact ⟨0, by rw [Nat.zero_mul]; rfl⟩
      · rw [lens_eq_fun] at hpages
        by_cases ho : o < rows.length
        · exact ⟨resps.length, by rw [← hpages.offset_eq, parsePageToken_nextToken ho (hmax ho)]⟩
        · exact ⟨0, by rw [Nat.zero_mul, nextToken, if_neg ho]; rfl⟩
    have hserves := hcall size token _ hparse
    have hbound : k * pageLen size + pageLen size < rows.length →
        k * pageLen size + pageLen size ≤ 2147483647 := by
      intro hin
      have := (h (k + 1) (by omega) (by rwa [Nat.succ_mul])).1
      rwa [Nat.succ_mul] at this
    refine ⟨⟨_, (hserves _ _).mpr ⟨rfl, hbound, _, hR, rfl⟩⟩, ?_⟩
    intro r db' hr
    obtain ⟨rfl, -, B, -, rfl⟩ := (hserves _ _).mp hr
    exact ⟨rfl, _, rfl⟩
  · intro resps token hwalk
    rw [List.length_map]
    rcases walk_pages items hcall hitems hnext hwalk with
      ⟨rfl, -⟩ | ⟨acc, o, hpages, -⟩
    · simp
    · exact (hpages.count_le fun _ => Lens.pos).2
  · intro resps hwalk hne
    rcases walk_pages items hcall hitems hnext hwalk with
      ⟨rfl, -⟩ | ⟨acc, o, hpages, hflat, htoken, -⟩
    · exact absurd rfl hne
    · have hend : ¬ o < rows.length := fun ho => nextToken_ne_empty_iff.mpr ho htoken.symm
      rw [lens_eq_fun] at hpages
      have hperm := hpages.perm_take hle (fun _ hB => hB) hR hstrict
      rw [List.take_of_length_le (by omega)] at hperm
      rw [hflat]
      exact (hperm.trans hR.perm).map msg

/-- If paging is exact, the offsets fit. -/
theorem offset_le_of_pagesExactly (hle : Sorts le)
    (hcall : ListsPages db call mk msg (Arranges le rows) rows.length)
    (hitems : ∀ l t, items (mk l t) = l) (hnext : ∀ l t, next (mk l t) = t)
    (h : PagesExactly db call items next size (rows.map msg)) (k : ℕ)
    (hin : k * pageLen size < rows.length) : k * pageLen size ≤ 2147483647 := by
  have hR := arranges_mergeSort hle (.refl rows)
  have hpos := (pageLen_bounds size).1
  induction k using Nat.strong_induction_on with
  | _ k ih =>
      rcases k with _ | j
      · omega
      · rw [Nat.succ_mul] at hin ⊢
        -- The call before this offset answers, so the sum it makes fits.
        have hcallj : ∃ token, parsePageToken token = .ok ((j * pageLen size : ℕ) : ℤ) ∧
            Replies db (call size token) fun r => ∃ resp, r = (.OK, some resp) := by
          rcases Nat.eq_zero_or_pos j with rfl | hj
          · rw [Nat.zero_mul]
            exact ⟨"", rfl, h.answers [] "" .start (.inl rfl)⟩
          · have hmul : ∀ i, i ≤ j → i * pageLen size ≤ j * pageLen size :=
              fun i hi => Nat.mul_le_mul_right _ hi
            have hpages : Pages (Arranges le rows) (Lens (· = size)) rows.length j
                ((rows.mergeSort le).take (j * pageLen size)) (j * pageLen size) :=
              Pages.same hR (lens_eq.mpr rfl) hj fun i _ hi => by
                have := hmul i hi.le
                omega
            have hjin : j * pageLen size < rows.length := by omega
            obtain ⟨resps, -, hwalk, -⟩ := pages_walk hcall hitems hnext hpages
              fun k' acc o hk hp ho => by
                rw [lens_eq_fun] at hp
                have hoff := hp.offset_eq
                rw [hoff] at ho ⊢
                exact ih k' (by omega) ho
            exact ⟨_, parsePageToken_nextToken hjin (ih j (by omega) hjin),
              h.answers resps _ hwalk (.inr (nextToken_ne_empty_iff.mpr hjin))⟩
        obtain ⟨token, hparse, ⟨r, hr⟩, -⟩ := hcallj
        exact ((hcall size token _ hparse r db).mp hr).2.1 hin

/-- If a seam does not hold, some walk to the end returns an entry twice. -/
theorem exists_walk_repeating (hle : Sorts le)
    (hcall : ListsPages db call mk msg (Arranges le rows) rows.length)
    (hitems : ∀ l t, items (mk l t) = l) (hnext : ∀ l t, next (mk l t) = t)
    (hmax : ∀ k, k * pageLen size < rows.length → k * pageLen size ≤ 2147483647) {k : ℕ}
    (hk : 0 < k) (hin : k * pageLen size < rows.length)
    (htie : ¬ StrictAt le (rows.mergeSort le) (k * pageLen size)) :
    ∃ resps, Walk db call next (· = size) resps "" ∧ resps ≠ [] ∧
      ¬ (resps.flatMap items).Nodup := by
  have hR := arranges_mergeSort hle (.refl rows)
  have hlen : (rows.mergeSort le).length = rows.length := hR.perm.length_eq
  obtain ⟨k', acc, o, hpages, hend, hrepeat⟩ := exists_pages_repeating hle (fun _ hB => hB) hR
    (lens_eq.mpr (Eq.refl (pageLen size))) (pageLen_bounds size).1 hk (by omega) htie
  rw [hlen] at hpages hend
  obtain ⟨resps, hcount, hwalk, hflat⟩ := pages_walk hcall hitems hnext hpages
    fun k'' acc' o' _ hp ho => by
      rw [lens_eq_fun] at hp
      have hoff := hp.offset_eq
      rw [hoff] at ho ⊢
      exact hmax k'' ho
  rw [nextToken, if_neg (by omega)] at hwalk
  refine ⟨resps, hwalk, ?_, ?_⟩
  · rintro rfl
    rw [List.length_nil] at hcount
    subst hcount
    cases hpages
  · rw [hflat]
    intro hnodup
    exact hrepeat (List.Nodup.of_map msg hnodup)

/-- If paging is exact, the seams hold. -/
theorem seamsHold_of_pagesExactly (hle : Sorts le)
    (hcall : ListsPages db call mk msg (Arranges le rows) rows.length)
    (hitems : ∀ l t, items (mk l t) = l) (hnext : ∀ l t, next (mk l t) = t)
    (hnodup : (rows.map msg).Nodup)
    (h : PagesExactly db call items next size (rows.map msg)) :
    SeamsHold le rows (pageLen size) := by
  have hmax := offset_le_of_pagesExactly hle hcall hitems hnext h
  intro k hk hin
  refine ⟨hmax k hin, ?_⟩
  by_contra htie
  obtain ⟨resps, hwalk, hne, hrepeat⟩ :=
    exists_walk_repeating hle hcall hitems hnext hmax hk hin htie
  exact hrepeat ((h.exact resps hwalk hne).nodup_iff.mpr hnodup)

end Exactness

/-! ## Filtered lists -/

section Filtered
variable {db : Database} {Col Row β ρ : Type}

/-- The body of `ListChargings` and `ListConsumptions`: `bind` is how the limit and the
offset are bound. -/
def listFiltered (T : Listed Col Row) (sql : Listing Col) (bind : ℤ → Param) (msg : Row → β)
    (mk : List β → String → ρ) (size : Int32) (token : String) : Rpc (Reply ρ) :=
  match parsePageToken token with
  | .error s => fail s
  | .ok offset => do
      let limit ← addInt (pageSizeOf size) 1
      withConn do
        let result ← exec (sql.run T (bind limit) (bind offset))
        let page ← listPage (fun r => .ok (msg r)) (pageSizeOf size) offset result
        return (.OK, some (mk page.1 page.2))

/-- Every `int` that is not negative arrives as it is. -/
def Binds (bind : ℤ → Param) : Prop := ∀ n : ℤ, 0 ≤ n → n ≤ intMax → (bind n).asCount = .ok n

theorem binds_int : Binds fun n => .int (Int32.ofInt n) := by
  intro n h₀ h₁
  unfold intMax at h₁
  rw [Param.asCount, Int32.toInt_ofInt_of_le (by omega) (by omega)]

theorem binds_text : Binds fun n => .text (toText n) := by
  intro n h₀ h₁
  obtain ⟨m, rfl⟩ : ∃ m : ℕ, n = m := ⟨n.toNat, by omega⟩
  simp only [Param.asCount]
  rw [cstr_toText, strtol_toText m (by unfold longMax; unfold intMax at h₁; omega)]

/-- The rows the filters of a statement select; none when a filter cannot be read. -/
def Listed.selected (T : Listed Col Row) (l : Listing Col) (db : Database) : List Row :=
  match l.conditions T with
  | .ok conds => T.matching conds db
  | .error _ => []

variable {T : Listed Col Row} {l : Listing Col} {bind : ℤ → Param} {msg : Row → β}
  {mk : List β → String → ρ} {md : Metadata} {kMethod : String}

theorem listsPages_filtered (hT : T.Shuffles) (hl : l.Bound) (hbind : Binds bind)
    {conds : List (Col × Cmp × Option SqlValue)} (hconds : l.conditions T = .ok conds) :
    ListsPages db (fun size token =>
        authenticated md kMethod (catching (listFiltered T l bind msg mk size token)))
      mk msg (Arranges T.order (T.matching conds db)) (T.matching conds db).length := by
  intro size token o htoken r db'
  have hsize := pageSizeOf_bounds size
  have hlimit : (bind (pageSizeOf size + 1)).asCount = .ok (pageSizeOf size + 1) :=
    hbind _ (by omega) (by unfold intMax; omega)
  have hoffset : (bind o).asCount = .ok (o : ℤ) := by
    obtain ⟨h₀, h₁⟩ := parsePageToken_bounds htoken
    exact hbind _ h₀ h₁
  have hq := run_results hT hl hconds hlimit hoffset db
  rw [← pageLen_cast] at hq
  unfold listFiltered
  simp only [htoken]
  refine serves_listBody (fun _ => rfl) (fun B hB => hB.perm.length_eq) hq fun x s' => ?_
  rw [yields_limit, yields_withConn, pageLen_cast]

/-- A filter that cannot be read fails the query, so there is no page. -/
theorem serves_filtered_error (hl : l.Bound) {e : Exn} (herror : l.conditions T = .error e)
    {size : Int32} {r : Reply ρ} {db' : Database}
    (h : Serves db (authenticated md kMethod (catching (listFiltered T l bind msg mk size ""))) r db') :
    r.2 = none := by
  have hrun : ∀ limit offset v, l.run T limit offset v = .error e := by
    intro limit offset v
    unfold Listing.run
    simp only [hl.conditions_append, herror]
    rfl
  obtain ⟨ps, hyields⟩ := h
  rw [yields_authenticated, yields_catching] at hyields
  obtain ⟨x, hbody, rfl⟩ := hyields
  simp only [listFiltered, parsePageToken_empty] at hbody
  rw [yields_limit, yields_withConn, yields_run_bind] at hbody
  simp only [yields_exec, hrun] at hbody
  rcases hbody with ⟨y, -, rfl⟩ | ⟨result, t, ⟨v, -, hv, -⟩, -⟩
  · rfl
  · cases hv

/-- Exactly when paging through a filtered list is exact. -/
theorem pagesExactly_filtered_iff (hT : T.Shuffles) (hl : l.Bound) (hbind : Binds bind)
    {items : ρ → List β} {next : ρ → String} (hitems : ∀ l t, items (mk l t) = l)
    (hnext : ∀ l t, next (mk l t) = t) (hnodup : ((T.rows db).map msg).Nodup) (size : Int32) :
    PagesExactly db (fun size token =>
        authenticated md kMethod (catching (listFiltered T l bind msg mk size token)))
      items next size ((T.selected l db).map msg) ↔
    (∃ conds, l.conditions T = .ok conds) ∧ SeamsHold T.order (T.selected l db) (pageLen size) := by
  cases hconds : l.conditions T with
  | ok conds =>
      have hselected : T.selected l db = T.matching conds db := by
        unfold Listed.selected
        rw [hconds]
      have hcall : ListsPages db (fun size token =>
          authenticated md kMethod (catching (listFiltered T l bind msg mk size token))) mk msg _ _ :=
        listsPages_filtered hT hl hbind hconds
      have hmatching : ((T.matching conds db).map msg).Nodup :=
        hnodup.sublist (List.filter_sublist.map msg)
      rw [hselected]
      constructor
      · intro h
        exact ⟨⟨conds, rfl⟩,
          seamsHold_of_pagesExactly (sorts_order T) hcall hitems hnext hmatching h⟩
      · rintro ⟨-, h⟩
        exact pagesExactly_of_seamsHold (sorts_order T) hcall hitems hnext h
  | error e =>
      refine ⟨fun h => ?_, ?_⟩
      · obtain ⟨⟨r, hr⟩, hall⟩ := h.answers [] "" .start (.inl rfl)
        obtain ⟨-, resp, rfl⟩ := hall r db hr
        cases serves_filtered_error hl hconds hr
      · rintro ⟨⟨conds, h⟩, -⟩
        cases h

end Filtered

/-! ## The two tables -/

section Tables
variable {db : Database}

theorem shuffles_charging : listedCharging.Shuffles := by
  refine ⟨fun db v h => h.2.2.2.2.symm, ?_⟩
  intro db rows hperm
  refine ⟨{ db with
    charging := rows
    charging_pk := (hperm.map _).nodup_iff.mpr db.charging_pk
    charging_vehicle := fun c hc => db.charging_vehicle c (hperm.mem_iff.mp hc)
    charging_sourceCategory := fun c hc => db.charging_sourceCategory c (hperm.mem_iff.mp hc) },
    ⟨.refl _, .refl _, .refl _, .refl _, hperm.symm⟩, rfl⟩

theorem shuffles_consumption : listedConsumption.Shuffles := by
  refine ⟨fun db v h => h.2.2.2.1.symm, ?_⟩
  intro db rows hperm
  refine ⟨{ db with
    consumption := rows
    consumption_pk := (hperm.map _).nodup_iff.mpr db.consumption_pk
    consumption_vehicle := fun c hc => db.consumption_vehicle c (hperm.mem_iff.mp hc)
    consumption_weather := fun c hc => db.consumption_weather c (hperm.mem_iff.mp hc) },
    ⟨.refl _, .refl _, .refl _, hperm.symm, .refl _⟩, rfl⟩

theorem bound_chargingListing (req : ListChargingsRequest) : req.listing.Bound :=
  Listing.bound_start.andWhere.andWhere.andWhere.andWhere.andWhere

theorem bound_consumptionListing (req : ListConsumptionsRequest) : req.listing.Bound :=
  Listing.bound_start.andWhere.andWhere.andWhere

/-- Messages with their own ids are different. -/
theorem nodup_map_msg {Row β : Type} {rows : List Row} {id : Row → Uuid} {msg : Row → β}
    (idOf : β → String) (hid : ∀ r, idOf (msg r) = uuidOut (id r)) (h : (rows.map id).Nodup) :
    (rows.map msg).Nodup := by
  refine List.Nodup.of_map idOf ?_
  have hids : (rows.map msg).map idOf = (rows.map id).map uuidOut := by
    simp only [List.map_map, Function.comp_def, hid]
  rw [hids]
  exact h.map uuidOut_injective

/-- `ListChargings` with the filters of a request, as a call of a page. -/
def chargingPage (md : Metadata) (req : ListChargingsRequest) (size : Int32) (token : String) :
    Prog Op (Reply ListChargingsResponse) :=
  listChargings md { req with pageSize := size, pageToken := token }

/-- `ListConsumptions` with the filters of a request, as a call of a page. -/
def consumptionPage (md : Metadata) (req : ListConsumptionsRequest) (size : Int32)
    (token : String) : Prog Op (Reply ListConsumptionsResponse) :=
  listConsumptions md { req with pageSize := size, pageToken := token }

theorem chargingPage_eq (md : Metadata) (req : ListChargingsRequest) :
    chargingPage md req = fun size token =>
      authenticated md "/evgrpc.ChargingService/ListChargings" (catching
        (listFiltered listedCharging req.listing (fun n => .int (Int32.ofInt n)) rowToCharging
          ListChargingsResponse.mk size token)) := by
  funext size token
  unfold chargingPage listChargings listFiltered
  cases parsePageToken token <;> rfl

theorem consumptionPage_eq (md : Metadata) (req : ListConsumptionsRequest) :
    consumptionPage md req = fun size token =>
      authenticated md "/evgrpc.ConsumptionService/ListConsumptions" (catching
        (listFiltered listedConsumption req.listing (fun n => .text (toText n)) rowToConsumption
          ListConsumptionsResponse.mk size token)) := by
  funext size token
  unfold consumptionPage listConsumptions listFiltered
  cases parsePageToken token <;> rfl

theorem chargingPage_exact_iff (md : Metadata) (req : ListChargingsRequest) (size : Int32) :
    PagesExactly db (chargingPage md req) ListChargingsResponse.chargings
        ListChargingsResponse.nextPageToken size
        ((listedCharging.selected req.listing db).map rowToCharging) ↔
      (∃ conds, req.listing.conditions listedCharging = .ok conds) ∧
        SeamsHold listedCharging.order (listedCharging.selected req.listing db) (pageLen size) := by
  have hnodup : (db.charging.map rowToCharging).Nodup :=
    nodup_map_msg Charging.id (fun _ => rfl) db.charging_pk
  rw [chargingPage_eq]
  exact pagesExactly_filtered_iff shuffles_charging (bound_chargingListing req) binds_int
    (fun _ _ => rfl) (fun _ _ => rfl) hnodup size

theorem consumptionPage_exact_iff (md : Metadata) (req : ListConsumptionsRequest) (size : Int32) :
    PagesExactly db (consumptionPage md req) ListConsumptionsResponse.consumptions
        ListConsumptionsResponse.nextPageToken size
        ((listedConsumption.selected req.listing db).map rowToConsumption) ↔
      (∃ conds, req.listing.conditions listedConsumption = .ok conds) ∧
        SeamsHold listedConsumption.order (listedConsumption.selected req.listing db)
          (pageLen size) := by
  have hnodup : (db.consumption.map rowToConsumption).Nodup :=
    nodup_map_msg Consumption.id (fun _ => rfl) db.consumption_pk
  rw [consumptionPage_eq]
  exact pagesExactly_filtered_iff shuffles_consumption (bound_consumptionListing req) binds_text
    (fun _ _ => rfl) (fun _ _ => rfl) hnodup size

end Tables

/-- A request without filters. -/
def allChargings : ListChargingsRequest := ⟨"", none, none, .CHARGER_TYPE_UNSPECIFIED, "", 0, ""⟩

theorem selected_allChargings (db : Database) :
    listedCharging.selected allChargings.listing db = db.charging :=
  List.filter_eq_self.mpr fun _ _ => rfl

end EvGrpc
