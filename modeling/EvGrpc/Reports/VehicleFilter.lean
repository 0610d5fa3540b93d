import EvGrpc.Lists.Filtered
import EvGrpc.Reports.Breakdown
import EvGrpc.Reports.Charging

/-!
# One vehicle in two services

`ListChargings` compares the `VehicleId` column as a `UUID`, so every spelling of the id will
do.  The statements of the charging aggregates compare its text with the text of the
request, and only the spelling that PostgreSQL prints is equal to it.  In both the text is
the one that arrives: what follows a NUL does not count.

`ChargingAggregate` collects the six reports, with the rows each of them sums up
(`ChargingAggregate.sums_rows`).  `vehicle_filter_iff` says when these are the rows that
`ListChargings` lists: when the id is spelled as PostgreSQL prints it, or when there is
nothing to find.
-/

namespace EvGrpc

open Lib

/-! ## The aggregates -/

/-- The reports that sum up chargings, with what they are asked besides the vehicle. -/
inductive ChargingAggregate
  | costByChargerType (start stop : Option Timestamp)
  | costBySourceCategory (start stop : Option Timestamp)
  | vehicleCostSummary (start stop : Option Timestamp)
  | dailyChargingReport (year month day : Int32)
  | monthlyChargingReport (year month : Int32)
  | annualChargingReport (year : Int32)

namespace ChargingAggregate

/-- The request for a vehicle. -/
def request (vehicleId : String) : ChargingAggregate → Request
  | .costByChargerType start stop => .getCostByChargerType ⟨vehicleId, start, stop⟩
  | .costBySourceCategory start stop => .getCostBySourceCategory ⟨vehicleId, start, stop⟩
  | .vehicleCostSummary start stop => .getVehicleCostSummary ⟨vehicleId, start, stop⟩
  | .dailyChargingReport year month day => .getDailyChargingReport ⟨year, month, day, vehicleId⟩
  | .monthlyChargingReport year month => .getMonthlyChargingReport ⟨year, month, vehicleId⟩
  | .annualChargingReport year => .getAnnualChargingReport ⟨year, vehicleId⟩

/-- The period the report is about, unless it cannot be read. -/
def period : ChargingAggregate → Except Exn (Instant → Bool)
  | .costByChargerType start stop | .costBySourceCategory start stop
  | .vehicleCostSummary start stop => do
      let (lo, hi) ← WindowRequest.window ⟨"", start, stop⟩
      return inWindow lo hi
  | .dailyChargingReport year month day => do
      let d ← makeDate year month day
      return onDay d
  | .monthlyChargingReport year month => .ok (monthPeriod year month)
  | .annualChargingReport year => .ok (inYear year)

/-- The rows that the `WHERE` clause of the report selects. -/
def rows (p : Instant → Bool) (vehicleId : String) (db : Database) :
    ChargingAggregate → List ChargingRow
  | .costByChargerType _ _ | .costBySourceCategory _ _ =>
      db.charging.filter fun c => matchesGiven vehicleId c.vehicleId && p c.startTime
  | .vehicleCostSummary _ _ =>
      db.charging.filter fun c => hasVehicleText vehicleId c.vehicleId && p c.startTime
  | .dailyChargingReport _ _ _ | .monthlyChargingReport _ _ | .annualChargingReport _ =>
      db.charging.filter fun c => p c.startTime && matchesVehicle vehicleId c.vehicleId

/-- The response sums up these rows. -/
def Sums (rows : List ChargingRow) : ChargingAggregate → Response → Prop
  | .costByChargerType _ _, .chargerTypes l => ∃ lines,
      l = lines.map chargerTypeBreakdownOf ∧ Accounts rows (fun t c => c.chargerType = t) lines
  | .costBySourceCategory _ _, .sourceCategoryCosts l => ∃ lines,
      l = lines.map sourceCategoryBreakdownOf ∧
        Accounts rows (fun k c => c.sourceCategoryId = k.1) lines
  | .vehicleCostSummary _ _, .vehicleCostSummary m =>
      m.totalCost = (rows.map ChargingRow.cost).sum.toDouble ∧
        m.totalKwh = (rows.map ChargingRow.kwhCharged).sum.toDouble
  | .dailyChargingReport _ _ _, .chargingReport m | .monthlyChargingReport _ _, .chargingReport m
  | .annualChargingReport _, .chargingReport m =>
      m.totalCost = (rows.map ChargingRow.cost).sum.toDouble ∧
        m.totalKwh = (rows.map ChargingRow.kwhCharged).sum.toDouble ∧ m.count = rows.length
  | _, _ => False

end ChargingAggregate

/-! ## What the aggregates sum up -/

section Aggregates
variable {db db' : Database} {md : Metadata} {vehicleId : String}

/-- A question whose answer is OK was answered. -/
theorem serves_readAll_ok {α ρ : Type} {kMethod : String} {q : Database → Except Exn α}
    {f : α → Except Exn ρ} {r : Reply ρ} (hok : r.1.ok = true)
    (h : Serves db (authenticated md kMethod (catching (readAll q f))) r db') :
    ∃ v a b, db.SameRows v ∧ q v = .ok a ∧ f a = .ok b ∧ r = (.OK, some b) := by
  obtain ⟨-, v, hv, rfl⟩ := serves_readAll.mp h
  cases hq : q v with
  | error e => simp [hq, answer, bind, Except.bind] at hok
  | ok a =>
      cases hf : f a with
      | error e => simp [hq, hf, answer, bind, Except.bind] at hok
      | ok b => exact ⟨v, a, b, hv, hq, hf, by simp [hf, answer, bind, Except.bind]⟩

/-- A call whose reply is OK has passed its checks. -/
theorem serves_of_validated {ρ : Type} {kMethod : String} {st : Status}
    {body : Prog Op (Reply ρ)} {r : Reply ρ} (hok : r.1.ok = true)
    (h : Serves db (authenticated md kMethod (validated st body)) r db') :
    Serves db (authenticated md kMethod body) r db' := by
  rw [serves_validated] at h
  by_cases hst : st.ok = true
  · rwa [if_pos hst] at h
  · rw [if_neg hst] at h
    rw [h.1] at hok
    exact absurd hok hst

/-- A charging report that is OK gives the totals of its period. -/
theorem chargingReport_sums {kMethod : String} {st : Status} {y m d : Int32}
    {q : Database → Except Exn (Numeric × Numeric × ℤ)} {p : Instant → Bool}
    {r : Reply ChargingReport} (hok : r.1.ok = true)
    (hq : ∀ v, q v = (chargingTotals p vehicleId v).row)
    (h : Serves db (authenticated md kMethod (validated st (catching
      (chargingReport y m d vehicleId q)))) r db') :
    ∃ resp, r = (.OK, some resp) ∧
      resp.totalCost = (((db.charging.filter (chosen p vehicleId)).map ChargingRow.cost).sum).toDouble ∧
      resp.totalKwh =
        (((db.charging.filter (chosen p vehicleId)).map ChargingRow.kwhCharged).sum).toDouble ∧
      resp.count = (db.charging.filter (chosen p vehicleId)).length := by
  obtain ⟨v, a, b, hv, ha, hb, rfl⟩ := serves_readAll_ok hok (serves_of_validated hok h)
  rw [hq, chargingTotals_sameRows hv] at ha
  obtain ⟨n, hn, ha⟩ := bind_eq_ok.mp ha
  have hcount : (chargingTotals p vehicleId db).count = n := by
    unfold toInt4 at hn
    split at hn
    · cases hn
      rfl
    · cases hn
  cases ha
  cases hb
  exact ⟨_, rfl, rfl, rfl, hcount.symm⟩

/-- The totals of the summary do not depend on the distances. -/
theorem totals_ok {charging : List ChargingRow} {consumption : List ConsumptionRow} {x : Totals}
    (h : totals charging consumption = .ok x) :
    x.cost = (charging.map ChargingRow.cost).sum ∧
      x.kwh = (charging.map ChargingRow.kwhCharged).sum := by
  obtain ⟨km, -, h⟩ := bind_eq_ok.mp h
  cases h
  exact ⟨rfl, rfl⟩

theorem costSummary_ok {req : WindowRequest} {lo hi : Option Instant} {v : Database} {x : Totals}
    (hw : req.window = .ok (lo, hi)) (hv : db.SameRows v) (h : costSummary req v = .ok x) :
    x.cost = ((db.charging.filter fun c => hasVehicleText req.vehicleId c.vehicleId &&
        inWindow lo hi c.startTime).map ChargingRow.cost).sum ∧
      x.kwh = ((db.charging.filter fun c => hasVehicleText req.vehicleId c.vehicleId &&
        inWindow lo hi c.startTime).map ChargingRow.kwhCharged).sum := by
  unfold costSummary at h
  rw [hw] at h
  obtain ⟨hcost, hkwh⟩ := totals_ok h
  have hperm := (hv.2.2.2.2.filter fun c => hasVehicleText req.vehicleId c.vehicleId &&
    inWindow lo hi c.startTime).symm
  exact ⟨hcost.trans (hperm.map _).sum_eq, hkwh.trans (hperm.map _).sum_eq⟩

/-- A summary that is OK gives the totals of its rows. -/
theorem vehicleCostSummary_sums {req : WindowRequest} {lo hi : Option Instant}
    {r : Reply VehicleCostSummary} (hw : req.window = .ok (lo, hi)) (hok : r.1.ok = true)
    (h : Serves db (getVehicleCostSummary md req) r db') :
    ∃ row, r = (.OK, some (vehicleCostSummaryOf req.vehicleId row)) ∧
      row.cost = ((db.charging.filter fun c => hasVehicleText req.vehicleId c.vehicleId &&
        inWindow lo hi c.startTime).map ChargingRow.cost).sum ∧
      row.kwh = ((db.charging.filter fun c => hasVehicleText req.vehicleId c.vehicleId &&
        inWindow lo hi c.startTime).map ChargingRow.kwhCharged).sum := by
  obtain ⟨-, v, v', -, hv', rfl⟩ := serves_gated.mp (serves_of_validated hok h)
  cases hgate : costSummaryExists req v with
  | error e => simp [hgate, gated] at hok
  | ok b =>
      cases b with
      | false => simp [hgate, gated, noAggregateRow] at hok
      | true =>
          cases hq : costSummary req v' with
          | error e => simp [hgate, gated, hq, answer] at hok
          | ok row => exact ⟨row, rfl, costSummary_ok hw hv' hq⟩

/-- Every OK reply of an aggregate sums up the rows of its `WHERE` clause. -/
theorem ChargingAggregate.sums_rows (a : ChargingAggregate) {p : Instant → Bool}
    (hp : a.period = .ok p) {r : Reply Response} (hok : r.1.ok = true)
    (h : Serves db (handle ⟨md, a.request vehicleId⟩) r db') :
    ∃ resp, r = (.OK, some resp) ∧ a.Sums (a.rows p vehicleId db) resp := by
  cases a with
  | costByChargerType start stop =>
      obtain ⟨⟨lo, hi⟩, hw, hp⟩ := bind_eq_ok.mp hp
      cases hp
      have hw : (⟨vehicleId, start, stop⟩ : WindowRequest).window = .ok (lo, hi) := hw
      obtain ⟨x, hx, rfl⟩ := serves_respond.mp h
      have hok : x.1.ok = true := hok
      obtain ⟨v, lines, _, hv, hq, hf, rfl⟩ := serves_readAll_ok hok hx
      cases hf
      obtain ⟨lines', hq', hacc⟩ := costByChargerType_accounts hw hv
      cases hq.symm.trans hq'
      exact ⟨_, rfl, lines, rfl, hacc⟩
  | costBySourceCategory start stop =>
      obtain ⟨⟨lo, hi⟩, hw, hp⟩ := bind_eq_ok.mp hp
      cases hp
      have hw : (⟨vehicleId, start, stop⟩ : WindowRequest).window = .ok (lo, hi) := hw
      obtain ⟨x, hx, rfl⟩ := serves_respond.mp h
      have hok : x.1.ok = true := hok
      obtain ⟨v, lines, _, hv, hq, hf, rfl⟩ := serves_readAll_ok hok hx
      cases hf
      obtain ⟨lines', hq', hacc⟩ := costBySourceCategory_accounts hw hv
      cases hq.symm.trans hq'
      exact ⟨_, rfl, lines, rfl, hacc.mono fun k c hk => hk.1⟩
  | vehicleCostSummary start stop =>
      obtain ⟨⟨lo, hi⟩, hw, hp⟩ := bind_eq_ok.mp hp
      cases hp
      have hw : (⟨vehicleId, start, stop⟩ : WindowRequest).window = .ok (lo, hi) := hw
      obtain ⟨x, hx, rfl⟩ := serves_respond.mp h
      have hok : x.1.ok = true := hok
      obtain ⟨row, rfl, hcost, hkwh⟩ := vehicleCostSummary_sums hw hok hx
      exact ⟨_, rfl, congrArg Numeric.toDouble hcost, congrArg Numeric.toDouble hkwh⟩
  | dailyChargingReport year month day =>
      obtain ⟨d, hd, hp⟩ := bind_eq_ok.mp hp
      cases hp
      obtain ⟨x, hx, rfl⟩ := serves_respond.mp h
      have hok : x.1.ok = true := hok
      obtain ⟨resp, rfl, hsums⟩ := chargingReport_sums (p := onDay d) hok
        (fun v => by unfold dailyCharging; rw [hd]; rfl) hx
      exact ⟨_, rfl, hsums⟩
  | monthlyChargingReport year month =>
      cases hp
      obtain ⟨x, hx, rfl⟩ := serves_respond.mp h
      have hok : x.1.ok = true := hok
      obtain ⟨resp, rfl, hsums⟩ := chargingReport_sums hok (fun v => rfl) hx
      exact ⟨_, rfl, hsums⟩
  | annualChargingReport year =>
      cases hp
      obtain ⟨x, hx, rfl⟩ := serves_respond.mp h
      have hok : x.1.ok = true := hok
      obtain ⟨resp, rfl, hsums⟩ := chargingReport_sums hok (fun v => rfl) hx
      exact ⟨_, rfl, hsums⟩

end Aggregates

/-! ## What `ListChargings` lists -/

/-- The request for the chargings of a vehicle. -/
def vehicleChargings (vehicleId : String) : ListChargingsRequest :=
  ⟨vehicleId, none, none, .CHARGER_TYPE_UNSPECIFIED, "", 0, ""⟩

/-- Walks through `ListChargings` for a vehicle return these rows: no page holds another one,
and with any page size a walk can come to its end with each of them, unless there are more
than an offset can count. -/
structure ListsRows (db : Database) (md : Metadata) (vehicleId : String)
    (rows : List ChargingRow) : Prop where
  only : ∀ Size resps token,
    Walk db (chargingPage md (vehicleChargings vehicleId)) ListChargingsResponse.nextPageToken Size
      resps token → ∀ c ∈ resps.flatMap ListChargingsResponse.chargings,
        ∃ row ∈ rows, rowToCharging row = c
  all : rows.length ≤ 2147483647 → ∀ size, ∃ resps,
    Walk db (chargingPage md (vehicleChargings vehicleId)) ListChargingsResponse.nextPageToken
      (· = size) resps "" ∧ resps ≠ [] ∧
        (resps.flatMap ListChargingsResponse.chargings).Perm (rows.map rowToCharging)

/-- The chargings of a vehicle. -/
def chargingsOf (u : Uuid) (db : Database) : List ChargingRow :=
  db.charging.filter fun c => decide (c.vehicleId = u)

section Listing
variable {db : Database} {md : Metadata} {vehicleId : String} {u : Uuid}

/-- The only condition of the statement. -/
theorem conditions_vehicleChargings (hu : uuidIn vehicleId = some u) :
    (vehicleChargings vehicleId).listing.conditions listedCharging =
      .ok [(.vehicleId, .eq, some (.uuid u))] := by
  have hne : vehicleId ≠ "" := by
    rintro rfl
    cases hu
  simp only [ListChargingsRequest.listing, vehicleChargings, Listing.andWhere, Listing.start, hne,
    ne_eq, not_false_eq_true, decide_true, if_true, Option.isSome_none, Bool.false_eq_true,
    if_false, not_true_eq_false, decide_false, List.nil_append, Listing.conditions]
  simp [listedCharging, placeholder, Param.asUuid, hu, bind, Except.bind, pure, Except.pure]

/-- It selects the rows with the id. -/
theorem matching_vehicleChargings (db : Database) (u : Uuid) :
    listedCharging.matching [(.vehicleId, .eq, some (.uuid u))] db = chargingsOf u db := by
  refine List.filter_congr fun c _ => ?_
  simp [Listed.satisfies, listedCharging, Cmp.holds]

theorem listsRows_vehicleChargings (hu : uuidIn vehicleId = some u) :
    ListsRows db md vehicleId (chargingsOf u db) := by
  obtain ⟨rows, hrows⟩ : ∃ rows, rows = chargingsOf u db := ⟨_, rfl⟩
  have hcall : ListsPages db (chargingPage md (vehicleChargings vehicleId))
      ListChargingsResponse.mk rowToCharging (Arranges listedCharging.order rows) rows.length := by
    rw [chargingPage_eq, hrows, ← matching_vehicleChargings db u]
    exact listsPages_filtered shuffles_charging (bound_chargingListing _) binds_int
      (conditions_vehicleChargings hu)
  have hitems : ∀ l t, ListChargingsResponse.chargings ⟨l, t⟩ = l := fun _ _ => rfl
  have hnext : ∀ l t, ListChargingsResponse.nextPageToken ⟨l, t⟩ = t := fun _ _ => rfl
  rw [← hrows]
  refine ⟨?_, ?_⟩
  · intro Size resps token hwalk c hc
    rcases walk_pages _ hcall hitems hnext hwalk with ⟨rfl, -⟩ | ⟨acc, o, hpages, hflat, -, -⟩
    · cases hc
    · rw [hflat] at hc
      obtain ⟨row, hrow, rfl⟩ := List.mem_map.mp hc
      exact ⟨row, hpages.mem (fun B hB => hB.perm) hrow, rfl⟩
  · intro hmax size
    have hR := arranges_mergeSort (sorts_order listedCharging) (.refl rows)
    obtain ⟨k, acc, o, hpages, hend, hperm⟩ := Pages.exists_all hR (lens_eq.mpr rfl)
      (pageLen_bounds size).1
    obtain ⟨resps, hlen, hwalk, hflat⟩ := pages_walk hcall hitems hnext hpages
      fun k' acc' o' _ _ ho => by omega
    rw [nextToken, if_neg (by omega)] at hwalk
    refine ⟨resps, hwalk, ?_, ?_⟩
    · rintro rfl
      cases hpages <;> cases hlen
    · rw [hflat]
      exact hperm.map _

end Listing

/-! ## Agreement -/

section Agreement
variable {db : Database} {md : Metadata} {vehicleId : String} {u : Uuid}

/-- The text of the id is compared, whatever the aggregate. -/
theorem ChargingAggregate.mem_rows (a : ChargingAggregate) (hne : received vehicleId ≠ "")
    {p : Instant → Bool} {c : ChargingRow} :
    c ∈ a.rows p vehicleId db ↔
      c ∈ db.charging ∧ uuidOut c.vehicleId = received vehicleId ∧ p c.startTime = true := by
  have hempty : vehicleId ≠ "" := by
    rintro rfl
    exact hne rfl
  cases a <;>
    simp [ChargingAggregate.rows, matchesVehicle, matchesGiven, hasVehicleText, hne, hempty,
      and_comm, and_assoc]

/-- `ListChargings` lists the chargings of the vehicle, and an aggregate sums up the rows of its
`WHERE` clause.  In the period of the aggregate these are the same rows exactly when the id
is spelled as PostgreSQL prints it, or there is no charging to find. -/
theorem vehicle_filter_iff (hu : uuidIn vehicleId = some u) (a : ChargingAggregate)
    {p : Instant → Bool} (hp : a.period = .ok p) :
    ListsRows db md vehicleId (chargingsOf u db) ∧
      (∀ r db', r.1.ok = true → Serves db (handle ⟨md, a.request vehicleId⟩) r db' →
        ∃ resp, r = (.OK, some resp) ∧ a.Sums (a.rows p vehicleId db) resp) ∧
      ((∀ c, c ∈ a.rows p vehicleId db ↔ c ∈ chargingsOf u db ∧ p c.startTime = true) ↔
        received vehicleId = uuidOut u ∨
          ∀ c ∈ db.charging, c.vehicleId = u → p c.startTime = false) := by
  have hne : received vehicleId ≠ "" := by
    intro hempty
    rw [← uuidIn_received, hempty] at hu
    cases hu
  refine ⟨listsRows_vehicleChargings hu, fun r db' hok h => a.sums_rows hp hok h, ?_⟩
  simp only [a.mem_rows hne, chargingsOf, List.mem_filter, decide_eq_true_eq]
  constructor
  · intro h
    by_contra hcon
    simp only [not_or, not_forall, Bool.not_eq_false] at hcon
    obtain ⟨hspelling, c, hc, rfl, hp⟩ := hcon
    exact hspelling ((h c).mpr ⟨⟨hc, rfl⟩, hp⟩).2.1.symm
  · rintro (hspelling | hnone) c
    · simp [hspelling, uuidOut_injective.eq_iff, and_assoc]
    · constructor
      · rintro ⟨hc, htext, hpc⟩
        rw [← uuidIn_received, ← htext, uuidIn_uuidOut] at hu
        cases hu
        rw [hnone c hc rfl] at hpc
        cases hpc
      · rintro ⟨⟨hc, hid⟩, hpc⟩
        rw [hnone c hc hid] at hpc
        cases hpc

end Agreement

/-- The id of the charged vehicle, in braces: `ListChargings` finds the charging, the annual
report does not. -/
theorem braced_vehicle_missed :
    ∃ vehicleId, uuidIn vehicleId = some (someUuid 0) ∧
      (∃ r db', Serves chargedOnce (listChargings [] (vehicleChargings vehicleId)) r db' ∧
        r.2.map (fun m => m.chargings.length) = some 1) ∧
      (∃ r db', Serves chargedOnce (getAnnualChargingReport [] ⟨2023, vehicleId⟩) r db' ∧
        r.2.map ChargingReport.count = some 0) ∧
      ¬ ∀ c, c ∈ (ChargingAggregate.annualChargingReport 2023).rows (inYear 2023) vehicleId
          chargedOnce ↔ c ∈ chargingsOf (someUuid 0) chargedOnce ∧ inYear 2023 c.startTime = true := by
  refine ⟨"\x7b00000000-0000-0000-0000-000000000000\x7d", by decide, ?_, ?_, ?_⟩
  · exact Serves.exists_run 1 (List.replicate 12 {}) (clean_replicate 12) (by decide +kernel)
  · exact Serves.exists_run 1 (List.replicate 12 {}) (clean_replicate 12) (by decide +kernel)
  · intro h
    obtain ⟨c, hc⟩ : ∃ c, c ∈ chargingsOf (someUuid 0) chargedOnce ∧
        inYear 2023 c.startTime = true := ⟨_, .head _, by decide +kernel⟩
    have hmem := (h c).mpr hc
    rw [show (ChargingAggregate.annualChargingReport 2023).rows _ _ _ = [] by decide +kernel] at hmem
    cases hmem

/-- The id of the charged vehicle, as PostgreSQL prints it. -/
theorem vehicle_filter_iff_printed :
    ∃ a : ChargingAggregate, a.period = .ok (inYear 2023) ∧
      (a.rows (inYear 2023) (uuidOut (someUuid 0)) chargedOnce).length = 1 ∧
      ∀ c, c ∈ a.rows (inYear 2023) (uuidOut (someUuid 0)) chargedOnce ↔
        c ∈ chargingsOf (someUuid 0) chargedOnce ∧ inYear 2023 c.startTime = true := by
  obtain ⟨-, -, hiff⟩ := @vehicle_filter_iff chargedOnce [] _ _ (uuidIn_uuidOut (someUuid 0))
    (.annualChargingReport 2023) _ rfl
  exact ⟨.annualChargingReport 2023, rfl, by decide +kernel, hiff.mpr (.inl (received_uuidOut _))⟩

end EvGrpc
