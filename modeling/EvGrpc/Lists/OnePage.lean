import EvGrpc.Lists.Filtered

/-!
# One page of chargings or consumptions

What a single call of `ListChargings` or `ListConsumptions` returns.  The statement is
built clause by clause, and each clause is numbered by the parameters bound so far
(`Listing.Lists`): the `k`-th placeholder is the `k`-th parameter, whichever filters are set.

A row is on the page only if it meets every filter that is set (`Selects`), and the page is
the stretch of the selected rows that the offset and the page size name
(`list_page_right`).  The database compares the start times with the microsecond it reads a
timestamp as, and refuses a filter it cannot read.
-/

namespace EvGrpc

open Lib

/-! ## Filters and placeholders -/

section Filters
variable {Col Row : Type}

/-- A filter: its column, how it compares, and the value it compares with. -/
abbrev Filter (Col : Type) := Col × Cmp × Param

/-- The statement has these filters, numbered from 1 on, and their values are its parameters. -/
structure Listing.Lists (l : Listing Col) (fs : List (Filter Col)) : Prop where
  params : l.params = fs.map fun f => f.2.2
  clauses : l.clauses = fs.mapIdx fun i f => ⟨f.1, f.2.1, i + 1⟩

theorem Listing.lists_start : (Listing.start : Listing Col).Lists [] := ⟨rfl, rfl⟩

/-- A filter that is set comes last. -/
theorem Listing.Lists.andWhere {l : Listing Col} {fs : List (Filter Col)} (h : l.Lists fs)
    (set : Bool) (column : Col) (cmp : Cmp) (p : Param) :
    (l.andWhere set column cmp p).Lists (fs ++ if set then [(column, cmp, p)] else []) := by
  unfold Listing.andWhere
  cases set with
  | false => simpa using h
  | true =>
      refine ⟨?_, ?_⟩
      · simp [h.params]
      · simp [h.clauses, h.params]

/-- Each clause refers to the value of its own filter, whatever is bound behind the filters. -/
theorem Listing.Lists.map_clauses {l : Listing Col} {fs : List (Filter Col)} (h : l.Lists fs)
    (ps : List Param) : (l.clauses.map fun c =>
      (c.column, c.cmp, placeholder (l.params ++ ps) c.param)) = fs := by
  rw [h.clauses, h.params]
  refine List.ext_getElem (by simp) ?_
  intro i hi₁ hi₂
  simp [placeholder, List.getElem?_append_left, hi₂]

/-- Every placeholder of the completed statement is the parameter with its number: the filters
have theirs in order, and the limit and the offset come behind them. -/
structure Listing.Refers (l : Listing Col) (fs : List (Filter Col)) (limit offset : Param) :
    Prop where
  numbers : l.clauses.map Clause.param = List.range' 1 fs.length
  own : (l.clauses.map fun c =>
    (c.column, c.cmp, placeholder (l.params ++ [limit, offset]) c.param)) = fs
  limitAt : placeholder (l.params ++ [limit, offset]) (fs.length + 1) = limit
  offsetAt : placeholder (l.params ++ [limit, offset]) (fs.length + 2) = offset

theorem Listing.Lists.refers {l : Listing Col} {fs : List (Filter Col)} (h : l.Lists fs)
    (limit offset : Param) : l.Refers fs limit offset := by
  have hlen : l.params.length = fs.length := by rw [h.params, List.length_map]
  refine ⟨?_, h.map_clauses _, ?_, ?_⟩
  · rw [h.clauses]
    refine List.ext_getElem (by simp) ?_
    intro i hi₁ hi₂
    simp [Nat.add_comm]
  · rw [← hlen]
    exact placeholder_append_left _ _ _
  · rw [← hlen]
    exact placeholder_append_right _ _ _

/-- A filter with the value the database reads. -/
def Listed.read (T : Listed Col Row) (f : Filter Col) :
    Except Exn (Col × Cmp × Option SqlValue) := do
  let v ← T.coerce f.1 f.2.2
  return (f.1, f.2.1, v)

/-- The row meets a filter. -/
def Listed.meets (T : Listed Col Row) (r : Row) (f : Filter Col) : Bool :=
  match T.coerce f.1 f.2.2 with
  | .ok (some v) => f.2.1.holds (T.value r f.1) v
  | _ => false

theorem Listing.Lists.conditions_eq {T : Listed Col Row} {l : Listing Col}
    {fs : List (Filter Col)} (h : l.Lists fs) : l.conditions T = fs.mapM T.read := by
  have hclauses := h.map_clauses []
  rw [List.append_nil] at hclauses
  conv_rhs => rw [← hclauses]
  rw [List.mapM_map]
  rfl

/-- The rows that satisfy the clauses are those that meet the filters. -/
theorem Listed.satisfies_eq {T : Listed Col Row} {fs : List (Filter Col)}
    {conds : List (Col × Cmp × Option SqlValue)} (h : fs.mapM T.read = .ok conds) (r : Row) :
    T.satisfies conds r = fs.all (T.meets r) := by
  induction fs generalizing conds with
  | nil =>
      cases h
      rfl
  | cons f fs ih =>
      rw [List.mapM_cons] at h
      obtain ⟨c, hc, h⟩ := bind_eq_ok.mp h
      obtain ⟨cs, hcs, h⟩ := bind_eq_ok.mp h
      obtain ⟨v, hv, hc⟩ := bind_eq_ok.mp hc
      cases hc
      cases h
      have hmeets : T.meets r f = v.any fun v => f.2.1.holds (T.value r f.1) v := by
        unfold Listed.meets
        rw [hv]
        cases v <;> rfl
      rw [List.all_cons, hmeets, ← ih hcs]
      rfl

/-- The filters can all be read. -/
theorem Listed.exists_read {T : Listed Col Row} {fs : List (Filter Col)} :
    (∃ conds, fs.mapM T.read = .ok conds) ↔ ∀ f ∈ fs, ∃ v, T.coerce f.1 f.2.2 = .ok v := by
  induction fs with
  | nil => simp [pure, Except.pure]
  | cons f fs ih =>
      rw [List.forall_mem_cons, ← ih]
      constructor
      · rintro ⟨conds, h⟩
        rw [List.mapM_cons] at h
        obtain ⟨c, hc, h⟩ := bind_eq_ok.mp h
        obtain ⟨cs, hcs, -⟩ := bind_eq_ok.mp h
        obtain ⟨v, hv, -⟩ := bind_eq_ok.mp hc
        exact ⟨⟨v, hv⟩, cs, hcs⟩
      · rintro ⟨⟨v, hv⟩, cs, hcs⟩
        refine ⟨(f.1, f.2.1, v) :: cs, ?_⟩
        rw [List.mapM_cons, hcs, Listed.read, hv]
        rfl

end Filters

/-! ## The page -/

/-- The page size a request stands for: 50 unless it asks for something, and at most 999. -/
def clampedSize (size : Int32) : ℕ := if size.toInt ≤ 0 then 50 else min size.toInt.toNat 999

theorem pageLen_eq (size : Int32) : pageLen size = clampedSize size := by
  unfold pageLen pageSizeOf clampedSize kMaxPageSize
  split <;> split <;> omega

/-- The page of `p` rows at offset `o` of the rows `all`, newest first, and the token of the next
page. -/
structure RightPage {Row : Type} (startTime : Row → Instant) (all : List Row) (p o : ℕ)
    (rows : List Row) (token : String) : Prop where
  length : rows.length = min p (all.length - o)
  nodup : rows.Nodup
  mem : ∀ r ∈ rows, r ∈ all
  newest : rows.Pairwise fun a b => startTime b ≤ startTime a
  next : token = if o + p < all.length then toText ((o + p : ℕ) : ℤ) else ""

section Page
variable {db : Database} {Col Row β ρ : Type} {T : Listed Col Row} {l : Listing Col}
  {fs : List (Filter Col)} {bind : ℤ → Param} {msg : Row → β} {mk : List β → String → ρ}
  {md : Metadata} {kMethod : String}

/-- A page of an arrangement is right. -/
theorem rightPage_page {rows B : List Row} (hB : Arranges T.order rows B) (hnodup : rows.Nodup)
    (p o : ℕ) : RightPage T.startTime rows p o (page p o B) (nextToken rows.length (o + p)) where
  length := by simp [page, hB.perm.length_eq]
  nodup := (hB.perm.nodup_iff.mpr hnodup).sublist ((List.take_sublist ..).trans (List.drop_sublist ..))
  mem r hr := hB.perm.mem_iff.mp (List.mem_of_mem_drop (List.mem_of_mem_take hr))
  newest := by
    refine List.Pairwise.imp ?_ (hB.sorted.sublist ((List.take_sublist ..).trans (List.drop_sublist ..)))
    intro a b hab
    simpa [Listed.order] using hab
  next := rfl

/-- The rows that meet the filters. -/
def Listed.selectedBy (T : Listed Col Row) (fs : List (Filter Col)) (db : Database) : List Row :=
  (T.rows db).filter fun r => fs.all (T.meets r)

/-- The filters can be read, so the call answers, and with the right page. -/
theorem replies_page (hT : T.Shuffles) (hl : l.Lists fs) (hbound : l.Bound) (hbind : Binds bind)
    (hread : ∀ f ∈ fs, ∃ v, T.coerce f.1 f.2.2 = .ok v) (hnodup : (T.rows db).Nodup)
    {size : Int32} {token : String} {o : ℕ} (htoken : parsePageToken token = .ok (o : ℤ))
    (hmax : (T.selectedBy fs db).length ≤ 2147483647) :
    Replies db (authenticated md kMethod (catching (listFiltered T l bind msg mk size token)))
      fun r => ∃ rows next, r = (.OK, some (mk (rows.map msg) next)) ∧
        RightPage T.startTime (T.selectedBy fs db) (clampedSize size) o rows next := by
  obtain ⟨conds, hconds⟩ := Listed.exists_read.mpr hread
  have hmatching : T.matching conds db = T.selectedBy fs db :=
    List.filter_congr fun r _ => Listed.satisfies_eq hconds r
  rw [← hl.conditions_eq] at hconds
  have hcall : ListsPages db (fun size token =>
      authenticated md kMethod (catching (listFiltered T l bind msg mk size token))) mk msg _ _ :=
    listsPages_filtered hT hbound hbind hconds
  have hserves := hcall size token o htoken
  rw [hmatching] at hserves
  have hrows : (T.selectedBy fs db).Nodup := hnodup.filter _
  refine ⟨⟨_, (hserves _ db).mpr ⟨rfl, by omega, _, arranges_mergeSort (sorts_order T) (.refl _), rfl⟩⟩,
    ?_⟩
  intro r db' hr
  obtain ⟨rfl, -, B, hB, rfl⟩ := (hserves r db').mp hr
  refine ⟨rfl, _, _, rfl, ?_⟩
  rw [← pageLen_eq]
  exact rightPage_page hB hrows _ _

end Page

/-! ## The two requests -/

/-- The filters of a request that are set, in the order of the statement. -/
def ListChargingsRequest.filters (req : ListChargingsRequest) : List (Filter ChargingFilter) :=
  (if req.vehicleId ≠ "" then [(.vehicleId, .eq, .text req.vehicleId)] else []) ++
  (req.startAfter.toList.map fun t => (.startTime, .gt, .time t)) ++
  (req.startBefore.toList.map fun t => (.startTime, .lt, .time t)) ++
  (if req.chargerType ≠ .CHARGER_TYPE_UNSPECIFIED then
    [(.chargerType, .eq, labelParam req.chargerType)] else []) ++
  (if req.sourceCategoryId ≠ "" then [(.sourceCategoryId, .eq, .text req.sourceCategoryId)] else [])

/-- The filters of a request that are set, in the order of the statement. -/
def ListConsumptionsRequest.filters (req : ListConsumptionsRequest) :
    List (Filter ConsumptionFilter) :=
  (if req.vehicleId ≠ "" then [(.vehicleId, .eq, .text req.vehicleId)] else []) ++
  (req.startAfter.toList.map fun t => (.start, .gt, .time t)) ++
  (req.startBefore.toList.map fun t => (.start, .lt, .time t))

theorem ite_isSome_getD {Col : Type} (o : Option Timestamp) (column : Col) (cmp : Cmp) :
    (if o.isSome then [(column, cmp, Param.time (o.getD ⟨0, 0⟩))] else []) =
      o.toList.map fun t => (column, cmp, Param.time t) := by
  cases o <;> rfl

theorem lists_chargingListing (req : ListChargingsRequest) : req.listing.Lists req.filters := by
  have h₁ := Listing.lists_start.andWhere (req.vehicleId ≠ "") ChargingFilter.vehicleId .eq
    (.text req.vehicleId)
  have h₂ := h₁.andWhere req.startAfter.isSome .startTime .gt
    (.time (req.startAfter.getD ⟨0, 0⟩))
  have h₃ := h₂.andWhere req.startBefore.isSome .startTime .lt
    (.time (req.startBefore.getD ⟨0, 0⟩))
  have h₄ := h₃.andWhere (req.chargerType ≠ .CHARGER_TYPE_UNSPECIFIED) .chargerType .eq
    (labelParam req.chargerType)
  have h := h₄.andWhere (req.sourceCategoryId ≠ "") .sourceCategoryId .eq
    (.text req.sourceCategoryId)
  simp only [ite_isSome_getD, List.nil_append, decide_eq_true_eq] at h
  exact h

theorem lists_consumptionListing (req : ListConsumptionsRequest) :
    req.listing.Lists req.filters := by
  have h₁ := Listing.lists_start.andWhere (req.vehicleId ≠ "") ConsumptionFilter.vehicleId .eq
    (.text req.vehicleId)
  have h₂ := h₁.andWhere req.startAfter.isSome .start .gt (.time (req.startAfter.getD ⟨0, 0⟩))
  have h := h₂.andWhere req.startBefore.isSome .start .lt (.time (req.startBefore.getD ⟨0, 0⟩))
  simp only [ite_isSome_getD, List.nil_append, decide_eq_true_eq] at h
  exact h

/-- The row meets every filter of the request that is set.  Start times are compared with the
microsecond the database reads a timestamp as. -/
structure ListChargingsRequest.Selects (req : ListChargingsRequest) (r : ChargingRow) : Prop where
  vehicleId : req.vehicleId = "" ∨ uuidIn req.vehicleId = some r.vehicleId
  startAfter : ∀ t ∈ req.startAfter, ∃ i ∈ t.instant?, i < r.startTime
  startBefore : ∀ t ∈ req.startBefore, ∃ i ∈ t.instant?, r.startTime < i
  chargerType : req.chargerType = .CHARGER_TYPE_UNSPECIFIED ∨
    chargerTypeLabel req.chargerType = some r.chargerType.label
  sourceCategoryId : req.sourceCategoryId = "" ∨
    uuidIn req.sourceCategoryId = some r.sourceCategoryId

/-- The row meets every filter of the request that is set. -/
structure ListConsumptionsRequest.Selects (req : ListConsumptionsRequest) (r : ConsumptionRow) :
    Prop where
  vehicleId : req.vehicleId = "" ∨ uuidIn req.vehicleId = some r.vehicleId
  startAfter : ∀ t ∈ req.startAfter, ∃ i ∈ t.instant?, i < r.start
  startBefore : ∀ t ∈ req.startBefore, ∃ i ∈ t.instant?, r.start < i

/-- An id the database can read, or none. -/
def ReadableId (id : String) : Prop := id = "" ∨ (uuidIn id).isSome = true

/-- A timestamp that `ToString` prints as a date, or none. -/
def ReadableTime (t : Option Timestamp) : Prop := ∀ x ∈ t, x.valid = true

/-- The database can read the filters. -/
structure ListChargingsRequest.Readable (req : ListChargingsRequest) : Prop where
  vehicleId : ReadableId req.vehicleId
  startAfter : ReadableTime req.startAfter
  startBefore : ReadableTime req.startBefore
  sourceCategoryId : ReadableId req.sourceCategoryId

/-- The database can read the filters. -/
structure ListConsumptionsRequest.Readable (req : ListConsumptionsRequest) : Prop where
  vehicleId : ReadableId req.vehicleId
  startAfter : ReadableTime req.startAfter
  startBefore : ReadableTime req.startBefore

section Columns
variable {Col Row : Type} (T : Listed Col Row) (column : Col)

/-- A filter by id. -/
theorem meets_id (id : String) (r : Row) {u : Uuid}
    (hcoerce : ∀ p, T.coerce column p = do return (← p.asUuid).map .uuid)
    (hvalue : T.value r column = .uuid u) :
    (if id ≠ "" then [(column, Cmp.eq, Param.text id)] else []).all (T.meets r) = true ↔
      id = "" ∨ uuidIn id = some u := by
  by_cases hid : id = ""
  · simp [hid]
  · simp only [hid, ne_eq, not_false_eq_true, if_true, List.all_cons, List.all_nil, Bool.and_true,
      false_or, Listed.meets, hcoerce, hvalue]
    rw [Param.asUuid]
    cases h : uuidIn id with
    | none => simp [Except.bind, bind]
    | some v =>
        simp only [Except.bind, bind, pure, Except.pure, Option.map_some, Cmp.holds,
          SqlValue.uuid.injEq, decide_eq_true_eq, Option.some.injEq]
        exact eq_comm

/-- A filter by time. -/
theorem meets_time (t : Option Timestamp) (cmp : Cmp) (r : Row)
    (hcoerce : ∀ p, T.coerce column p = do return (← p.asInstant).map .instant) :
    (t.toList.map fun t => (column, cmp, Param.time t)).all (T.meets r) = true ↔
      ∀ x ∈ t, ∃ i ∈ x.instant?, cmp.holds (T.value r column) (.instant i) = true := by
  cases t with
  | none => simp
  | some x =>
      simp only [Option.toList_some, List.map_cons, List.map_nil, List.all_cons, List.all_nil,
        Bool.and_true, Listed.meets, hcoerce, Option.mem_def, Option.some.injEq]
      rw [Param.asInstant]
      cases h : x.instant? with
      | none => simp [Except.bind, bind, h]
      | some i => simp [Except.bind, bind, pure, Except.pure, h]

/-- An id that is set and can be read. -/
theorem exists_coerce_id {id : String}
    (hcoerce : ∀ p, T.coerce column p = do return (← p.asUuid).map .uuid) (h : ReadableId id) :
    ∀ f ∈ (if id ≠ "" then [(column, Cmp.eq, Param.text id)] else []),
      ∃ v, T.coerce f.1 f.2.2 = .ok v := by
  intro f hf
  rcases h with rfl | h
  · simp at hf
  · obtain ⟨u, hu⟩ := Option.isSome_iff_exists.mp h
    split at hf
    · rw [List.mem_singleton.mp hf, hcoerce, Param.asUuid, hu]
      exact ⟨_, rfl⟩
    · cases hf

/-- A timestamp that is set and can be read. -/
theorem exists_coerce_time {t : Option Timestamp} {cmp : Cmp}
    (hcoerce : ∀ p, T.coerce column p = do return (← p.asInstant).map .instant)
    (h : ReadableTime t) :
    ∀ f ∈ t.toList.map fun t => (column, cmp, Param.time t), ∃ v, T.coerce f.1 f.2.2 = .ok v := by
  intro f hf
  obtain ⟨x, hx, rfl⟩ := List.mem_map.mp hf
  have hvalid := h x (Option.mem_toList.mp hx)
  refine ⟨some (.instant (roundHalfEven (x.seconds.toInt * 1000000000 + x.nanos.toInt) 1000)), ?_⟩
  rw [hcoerce, Param.asInstant, Timestamp.instant?, if_pos hvalid]
  rfl

end Columns

theorem meets_chargingFilters {req : ListChargingsRequest} {r : ChargingRow} :
    req.filters.all (listedCharging.meets r) = true ↔ req.Selects r := by
  have hlabel : (if req.chargerType ≠ .CHARGER_TYPE_UNSPECIFIED then
      [(ChargingFilter.chargerType, Cmp.eq, labelParam req.chargerType)] else []).all
        (listedCharging.meets r) = true ↔ req.chargerType = .CHARGER_TYPE_UNSPECIFIED ∨
      chargerTypeLabel req.chargerType = some r.chargerType.label := by
    cases req.chargerType <;> cases hr : r.chargerType <;>
      simp [labelParam, chargerTypeLabel, Listed.meets, listedCharging, Param.asChargerType,
        received, cstr, Cmp.holds, hr, ChargerTypeEnum.label, Except.bind, bind, pure, Except.pure]
  have hvehicle := meets_id listedCharging .vehicleId req.vehicleId r (fun _ => rfl) rfl
  have hcategory :=
    meets_id listedCharging .sourceCategoryId req.sourceCategoryId r (fun _ => rfl) rfl
  have hafter := meets_time listedCharging .startTime req.startAfter .gt r fun _ => rfl
  have hbefore := meets_time listedCharging .startTime req.startBefore .lt r fun _ => rfl
  simp only [listedCharging, Cmp.holds, decide_eq_true_eq] at hafter hbefore
  unfold ListChargingsRequest.filters
  rw [List.all_append, List.all_append, List.all_append, List.all_append]
  simp only [Bool.and_eq_true]
  constructor
  · rintro ⟨⟨⟨⟨h₁, h₂⟩, h₃⟩, h₄⟩, h₅⟩
    exact ⟨hvehicle.mp h₁, hafter.mp h₂, hbefore.mp h₃, hlabel.mp h₄, hcategory.mp h₅⟩
  · rintro ⟨h₁, h₂, h₃, h₄, h₅⟩
    exact ⟨⟨⟨⟨hvehicle.mpr h₁, hafter.mpr h₂⟩, hbefore.mpr h₃⟩, hlabel.mpr h₄⟩, hcategory.mpr h₅⟩

theorem meets_consumptionFilters {req : ListConsumptionsRequest} {r : ConsumptionRow} :
    req.filters.all (listedConsumption.meets r) = true ↔ req.Selects r := by
  have hvehicle := meets_id listedConsumption .vehicleId req.vehicleId r (fun _ => rfl) rfl
  have hafter := meets_time listedConsumption .start req.startAfter .gt r fun _ => rfl
  have hbefore := meets_time listedConsumption .start req.startBefore .lt r fun _ => rfl
  simp only [listedConsumption, Cmp.holds, decide_eq_true_eq] at hafter hbefore
  unfold ListConsumptionsRequest.filters
  rw [List.all_append, List.all_append]
  simp only [Bool.and_eq_true]
  constructor
  · rintro ⟨⟨h₁, h₂⟩, h₃⟩
    exact ⟨hvehicle.mp h₁, hafter.mp h₂, hbefore.mp h₃⟩
  · rintro ⟨h₁, h₂, h₃⟩
    exact ⟨⟨hvehicle.mpr h₁, hafter.mpr h₂⟩, hbefore.mpr h₃⟩

instance (req : ListChargingsRequest) (r : ChargingRow) : Decidable (req.Selects r) :=
  decidable_of_iff _ meets_chargingFilters

instance (req : ListConsumptionsRequest) (r : ConsumptionRow) : Decidable (req.Selects r) :=
  decidable_of_iff _ meets_consumptionFilters

/-- The rows a request is about. -/
def ListChargingsRequest.rows (req : ListChargingsRequest) (db : Database) : List ChargingRow :=
  db.charging.filter fun r => decide (req.Selects r)

/-- The rows a request is about. -/
def ListConsumptionsRequest.rows (req : ListConsumptionsRequest) (db : Database) :
    List ConsumptionRow :=
  db.consumption.filter fun r => decide (req.Selects r)

theorem selectedBy_charging (req : ListChargingsRequest) (db : Database) :
    listedCharging.selectedBy req.filters db = req.rows db := by
  refine List.filter_congr fun r _ => ?_
  rw [Bool.eq_iff_iff, meets_chargingFilters, decide_eq_true_eq]

theorem selectedBy_consumption (req : ListConsumptionsRequest) (db : Database) :
    listedConsumption.selectedBy req.filters db = req.rows db := by
  refine List.filter_congr fun r _ => ?_
  rw [Bool.eq_iff_iff, meets_consumptionFilters, decide_eq_true_eq]

theorem ListChargingsRequest.Readable.exists_coerce {req : ListChargingsRequest}
    (h : req.Readable) : ∀ f ∈ req.filters, ∃ v, listedCharging.coerce f.1 f.2.2 = .ok v := by
  intro f hf
  simp only [ListChargingsRequest.filters, List.mem_append] at hf
  rcases hf with (((hf | hf) | hf) | hf) | hf
  · exact exists_coerce_id listedCharging .vehicleId (fun _ => rfl) h.vehicleId f hf
  · exact exists_coerce_time listedCharging .startTime (fun _ => rfl) h.startAfter f hf
  · exact exists_coerce_time listedCharging .startTime (fun _ => rfl) h.startBefore f hf
  · -- A label that does not exist is `NULL`, and no row has it.
    split at hf
    · rw [List.mem_singleton.mp hf]
      cases req.chargerType <;> exact ⟨_, rfl⟩
    · cases hf
  · exact exists_coerce_id listedCharging .sourceCategoryId (fun _ => rfl) h.sourceCategoryId f hf

theorem ListConsumptionsRequest.Readable.exists_coerce {req : ListConsumptionsRequest}
    (h : req.Readable) : ∀ f ∈ req.filters, ∃ v, listedConsumption.coerce f.1 f.2.2 = .ok v := by
  intro f hf
  simp only [ListConsumptionsRequest.filters, List.mem_append] at hf
  rcases hf with (hf | hf) | hf
  · exact exists_coerce_id listedConsumption .vehicleId (fun _ => rfl) h.vehicleId f hf
  · exact exists_coerce_time listedConsumption .start (fun _ => rfl) h.startAfter f hf
  · exact exists_coerce_time listedConsumption .start (fun _ => rfl) h.startBefore f hf

/-- The sums that a call makes fit an `int`. -/
structure SumsFit (size : Int32) (o m : ℕ) : Prop where
  limit : isInt (pageSizeOf size + 1) = true
  token : o + clampedSize size < m → isInt ((o : ℤ) + pageSizeOf size) = true

theorem sumsFit (size : Int32) {o m : ℕ} (hm : m ≤ 2147483647) : SumsFit size o m := by
  refine ⟨isInt_pageSizeOf_succ size, fun h => ?_⟩
  have hsize := pageLen_cast size
  have hlen := pageLen_eq size
  simp only [isInt, decide_eq_true_eq]
  omega

theorem replies_listChargings {db : Database} {md : Metadata} {req : ListChargingsRequest} {o : ℕ}
    (hread : req.Readable) (htoken : parsePageToken req.pageToken = .ok (o : ℤ))
    (hmax : (req.rows db).length ≤ 2147483647) :
    Replies db (listChargings md req) fun r => ∃ rows next,
      r = (.OK, some ⟨rows.map rowToCharging, next⟩) ∧
      RightPage ChargingRow.startTime (req.rows db) (clampedSize req.pageSize) o rows next := by
  change Replies db (chargingPage md req req.pageSize req.pageToken) _
  rw [← selectedBy_charging] at hmax ⊢
  rw [chargingPage_eq]
  exact replies_page shuffles_charging (lists_chargingListing req) (bound_chargingListing req)
    binds_int hread.exists_coerce (List.Nodup.of_map _ db.charging_pk) htoken hmax

theorem replies_listConsumptions {db : Database} {md : Metadata} {req : ListConsumptionsRequest}
    {o : ℕ} (hread : req.Readable) (htoken : parsePageToken req.pageToken = .ok (o : ℤ))
    (hmax : (req.rows db).length ≤ 2147483647) :
    Replies db (listConsumptions md req) fun r => ∃ rows next,
      r = (.OK, some ⟨rows.map rowToConsumption, next⟩) ∧
      RightPage ConsumptionRow.start (req.rows db) (clampedSize req.pageSize) o rows next := by
  change Replies db (consumptionPage md req req.pageSize req.pageToken) _
  rw [← selectedBy_consumption] at hmax ⊢
  rw [consumptionPage_eq]
  exact replies_page shuffles_consumption (lists_consumptionListing req)
    (bound_consumptionListing req) binds_text hread.exists_coerce
    (List.Nodup.of_map _ db.consumption_pk) htoken hmax

/-- The chargings of one vehicle, on the first page. -/
def firstPageOf (vehicleId : String) (startAfter : Option Timestamp) : ListChargingsRequest :=
  ⟨vehicleId, startAfter, none, .CHARGER_TYPE_UNSPECIFIED, "", 0, ""⟩

end EvGrpc
