import EvGrpc.Invariant.Charging
import EvGrpc.Services.Answers

/-!
# The reports per vehicle

`GetConsumptionEfficiency` asks for the distance and for the energy of each vehicle in two
statements and joins the results by the text of the id; `GetRangeAccuracy` lets the database
join two aggregates of one table.  Both come down to one entry for each vehicle with a
consumption in the window, made from the sums over its rows: the groups of a statement have
distinct keys, the text of an id determines it, and the two sides of the outer join group the
same rows.
-/

namespace EvGrpc

open Lib

/-! ## One entry for each vehicle -/

section OneEach
variable {ρ : Type}

/-- The entries belong to the vehicles of the rows: one for each vehicle that has a row, and
none for another. -/
def OneEach (rows : List ConsumptionRow) (Entry : Uuid → ρ → Prop) (es : List ρ) : Prop :=
  ∃ vs : List Uuid, vs.Nodup ∧ (∀ v, v ∈ vs ↔ ∃ k ∈ rows, k.vehicleId = v) ∧
    List.Forall₂ Entry vs es

/-- The entries made from the groups of the rows, met in any order. -/
theorem oneEach_dedup {rows rows' : List ConsumptionRow} (hperm : rows'.Perm rows)
    {Entry : Uuid → ρ → Prop} {entry : Uuid → ρ} (hentry : ∀ v, Entry v (entry v)) :
    OneEach rows Entry ((rows'.map ConsumptionRow.vehicleId).dedup.map entry) := by
  refine ⟨(rows'.map ConsumptionRow.vehicleId).dedup, List.nodup_dedup _, ?_, ?_⟩
  · intro v
    rw [List.mem_dedup, List.mem_map]
    simp only [hperm.mem_iff]
  · rw [List.forall₂_map_right_iff, List.forall₂_same]
    intro v _
    exact hentry v

/-- No two entries have one id. -/
theorem OneEach.nodup_ids {rows : List ConsumptionRow} {Entry : Uuid → ρ → Prop} {es : List ρ}
    {vehicleId : ρ → String} (h : OneEach rows Entry es)
    (hid : ∀ v e, Entry v e → vehicleId e = uuidOut v) : (es.map vehicleId).Nodup := by
  obtain ⟨vs, hvs, -, hall⟩ := h
  have hmap : es.map vehicleId = vs.map uuidOut := by
    induction hall with
    | nil => rfl
    | cons hve _ ih =>
        rw [List.map_cons, List.map_cons, hid _ _ hve, ih (List.nodup_cons.mp hvs).2]
  rw [hmap]
  exact hvs.map uuidOut_injective

end OneEach

/-! ## Sums of a vehicle -/

/-- The drop of the displayed range over a trip, as a number. -/
def ConsumptionRow.rangeKm (k : ConsumptionRow) : ℤ := k.beginRange.toInt - k.endRange.toInt

/-- The distance of a vehicle in the rows. -/
def kmOf (rows : List ConsumptionRow) (v : Uuid) : ℤ :=
  sumWhere (fun k => decide (k.vehicleId = v)) ConsumptionRow.km rows

/-- The displayed range a vehicle used up in the rows. -/
def rangeKmOf (rows : List ConsumptionRow) (v : Uuid) : ℤ :=
  sumWhere (fun k => decide (k.vehicleId = v)) ConsumptionRow.rangeKm rows

/-- The energy of a vehicle in the rows. -/
def kwhOf (rows : List ChargingRow) (v : Uuid) : Numeric :=
  sumWhere (fun c => decide (c.vehicleId = v)) ChargingRow.kwhCharged rows

section Statements
variable {req : WindowRequest} {db v : Database} {lo hi : Option Instant}

/-- A sum for each vehicle of the rows, in an order of the groups. -/
theorem sumByVehicle_eq_ok {f : ConsumptionRow → Except Exn ℤ} {g : ConsumptionRow → ℤ}
    {rows : List ConsumptionRow} (h : ∀ k ∈ rows, f k = .ok (g k)) :
    sumByVehicle f rows = .ok ((rows.map ConsumptionRow.vehicleId).dedup.map fun u =>
      (u, sumWhere (fun k => decide (k.vehicleId = u)) g rows)) := by
  have hgroup : ∀ x ∈ groupBy ConsumptionRow.vehicleId rows,
      (do return (x.1, ← sumM f x.2) : Except Exn (Uuid × ℤ)) = .ok (x.1, (x.2.map g).sum) := by
    intro x hx
    have hsum : sumM f x.2 = .ok (x.2.map g).sum := by
      apply sumM_eq_ok
      intro k hk
      rw [(mem_groupBy hx).1] at hk
      exact h k (List.mem_filter.mp hk).1
    rw [hsum]
    rfl
  rw [sumByVehicle, mapM_eq_ok hgroup, groupBy, List.map_map]
  rfl

/-- The first statement of the efficiency report. -/
theorem efficiencyKm_eq (hw : req.window = .ok (lo, hi)) (hv : db.SameRows v)
    (hfit : ∀ k ∈ db.consumption, FitsInt4 k.km) :
    efficiencyKm req v = .ok (((consumptionsIn req.vehicleId lo hi v).map
      ConsumptionRow.vehicleId).dedup.map fun u =>
        (u, kmOf (consumptionsIn req.vehicleId lo hi db) u)) := by
  have hmileage : ∀ k ∈ consumptionsIn req.vehicleId lo hi v,
      k.mileage = .ok k.km :=
    forall_consumptionsIn hv (fun k hk => toInt4_eq_ok (hfit k hk)) req.vehicleId
  have hsum := sumByVehicle_eq_ok hmileage
  have hkm : ∀ u, sumWhere (fun k => decide (k.vehicleId = u)) ConsumptionRow.km
      (consumptionsIn req.vehicleId lo hi v) = kmOf (consumptionsIn req.vehicleId lo hi db) u :=
    fun u => sumWhere_perm (consumptionsIn_perm req.vehicleId hv)
  simp only [hkm] at hsum
  rw [efficiencyKm, hw]
  exact hsum

/-- The energy the handler finds for a vehicle in the result of the second statement: the sum
over its rows, and 0 where it has none. -/
theorem kwhByVehicle_eq (rows : List ChargingRow) (u : Uuid) :
    kwhByVehicle ((groupBy ChargingRow.vehicleId rows).map fun g =>
      (g.1, (g.2.map ChargingRow.kwhCharged).sum)) (uuidOut u) = (kwhOf rows u).toDouble := by
  have hfind := find?_groupBy ChargingRow.vehicleId
    (fun g => (g.map ChargingRow.kwhCharged).sum) rows u
  simp only [kwhByVehicle, uuidOut_injective.eq_iff, hfind]
  by_cases hu : u ∈ rows.map ChargingRow.vehicleId
  · rw [if_pos hu]
    rfl
  · have hnone : rows.filter (fun c => decide (c.vehicleId = u)) = [] := by
      rw [List.filter_eq_nil_iff]
      intro c hc hcu
      exact hu (List.mem_map.mpr ⟨c, hc, of_decide_eq_true hcu⟩)
    rw [if_neg hu, kwhOf, sumWhere, hnone]
    rfl

/-- The second statement of the efficiency report, as the handler uses it. -/
theorem efficiencyKwh_eq (hw : req.window = .ok (lo, hi)) (hv : db.SameRows v) :
    ∃ kwhRows, efficiencyKwh req v = .ok kwhRows ∧ ∀ u, kwhByVehicle kwhRows (uuidOut u) =
      (kwhOf (chargingsIn req.vehicleId lo hi db) u).toDouble := by
  refine ⟨_, by rw [efficiencyKwh, hw]; rfl, fun u => ?_⟩
  rw [kwhByVehicle_eq, kwhOf, kwhOf, sumWhere_perm (chargingsIn_perm req.vehicleId hv)]

end Statements

/-! ## Consumption efficiency -/

/-- The entry of a vehicle that drove `km` and charged `kwh`: a ratio is 0 where its divisor is
not positive, and elsewhere the two ratios are the exact quotients, inverse to each other. -/
structure EfficiencyFigures (v : Uuid) (km : ℤ) (kwh : Numeric) (e : ConsumptionEfficiency) :
    Prop where
  vehicle : e.vehicleId = uuidOut v
  totalKm : e.totalKm = .fin km
  totalKwh : e.totalKwh = kwh.toDouble
  noEnergy : ¬ kwh.Pos → e.kmPerKwh = .fin 0
  noDistance : ¬ 0 < km → e.kwhPer100km = .fin 0
  energy : ∀ q, kwh = .num q → 0 < q → e.kmPerKwh = .fin (km / q)
  distance : ∀ q, kwh = .num q → 0 < km → e.kwhPer100km = .fin (q / km * 100)
  inverse : ∀ a b, e.kmPerKwh = .fin a → e.kwhPer100km = .fin b → kwh.Pos → 0 < km → a * b = 100

theorem efficiencyFigures_of {kwhRows : List (Uuid × Numeric)} {v : Uuid} {kwh : Numeric} (km : ℤ)
    (h : kwhByVehicle kwhRows (uuidOut v) = kwh.toDouble) :
    EfficiencyFigures v km kwh (consumptionEfficiencyOf kwhRows (v, km)) := by
  have hkm : ∀ {q : ℚ}, 0 < q → Double.ratio (kmToDouble km) (.fin q) = .fin (km / q) :=
    fun hq => if_pos hq
  have hkwh : ∀ {q : ℚ}, 0 < km →
      Double.scale 100 (Double.ratio (.fin q) (kmToDouble km)) = .fin (q / km * 100) := by
    intro q hpos
    have hpos' : (0 : ℚ) < km := by exact_mod_cast hpos
    simp [Double.ratio, kmToDouble, hpos', Double.scale]
  constructor
  · rfl
  · rfl
  · exact h
  · intro hpos
    simp only [consumptionEfficiencyOf, h]
    cases kwh with
    | nan => rfl
    | num q => exact if_neg hpos
  · intro hpos
    have hpos' : ¬ (0 : ℚ) < km := by exact_mod_cast hpos
    simp only [consumptionEfficiencyOf, h]
    cases kwh <;> simp [Double.ratio, kmToDouble, hpos', Double.scale, Numeric.toDouble]
  · rintro q rfl hq
    simp only [consumptionEfficiencyOf, h]
    exact hkm hq
  · rintro q rfl hpos
    simp only [consumptionEfficiencyOf, h]
    exact hkwh hpos
  · intro a b ha hb hpos hkmpos
    simp only [consumptionEfficiencyOf, h] at ha hb
    cases kwh with
    | nan => exact absurd hpos id
    | num q =>
        have hq : 0 < q := hpos
        have hkm' : (0 : ℚ) < km := by exact_mod_cast hkmpos
        cases (hkm hq).symm.trans ha
        cases (hkwh hkmpos).symm.trans hb
        field_simp

/-- **`GetConsumptionEfficiency` is a left join.**  One entry for each vehicle with a consumption
in the window, its distance the sum over its consumptions there and its energy the sum over its
chargings there. -/
theorem consumption_efficiency_left_join (db : Database)
    (hfit : ∀ k ∈ db.consumption, FitsInt4 k.km) (md : Metadata) (req : WindowRequest) :
    (∀ lo hi, req.window = .ok (lo, hi) →
      Replies db (getConsumptionEfficiency md req) fun r => ∃ es, r = (.OK, some es) ∧
        OneEach (consumptionsIn req.vehicleId lo hi db) (fun v => EfficiencyFigures v
          (kmOf (consumptionsIn req.vehicleId lo hi db) v)
          (kwhOf (chargingsIn req.vehicleId lo hi db) v)) es ∧
        (es.map ConsumptionEfficiency.vehicleId).Nodup) ∧
    (∀ e, req.window = .error e →
      Replies db (getConsumptionEfficiency md req) (· = (toGrpcStatus e, none))) := by
  constructor
  · intro lo hi hw
    apply replies_getConsumptionEfficiency
    intro v v' hv hv'
    obtain ⟨kwhRows, hkwh, hfind⟩ := efficiencyKwh_eq hw hv'
    rw [efficiencyKm_eq hw hv hfit, hkwh]
    refine ⟨_, rfl, ?_⟩
    dsimp only
    rw [List.map_map]
    have hperm : (consumptionsIn req.vehicleId lo hi v).Perm
        (consumptionsIn req.vehicleId lo hi db) := consumptionsIn_perm req.vehicleId hv
    have hone := oneEach_dedup hperm fun u =>
      efficiencyFigures_of (kmOf (consumptionsIn req.vehicleId lo hi db) u) (hfind u)
    exact ⟨hone, hone.nodup_ids fun _ _ h => h.vehicle⟩
  · intro e he
    apply replies_getConsumptionEfficiency
    intro v v' _ _
    rw [efficiencyKm, he]
    rfl

/-- Two vehicles that were charged and driven, and one that was driven only. -/
theorem consumption_efficiency_fleet :
    (∀ k ∈ fleet.consumption, FitsInt4 k.km) ∧
      ([0, 2, 3].map fun i => (kmOf (consumptionsIn "" none none fleet) (someUuid i),
        kwhOf (chargingsIn "" none none fleet) (someUuid i))) =
          [(80, .num 18), (120, .num 20), (60, 0)] ∧
      Replies fleet (getConsumptionEfficiency [] ⟨"", none, none⟩) fun r =>
        ∃ es, r = (.OK, some es) ∧
          OneEach (consumptionsIn "" none none fleet) (fun v => EfficiencyFigures v
            (kmOf (consumptionsIn "" none none fleet) v)
            (kwhOf (chargingsIn "" none none fleet) v)) es ∧
          (es.map ConsumptionEfficiency.vehicleId).Nodup := by
  have hfit : ∀ k ∈ fleet.consumption, FitsInt4 k.km := by decide +kernel
  refine ⟨hfit, by decide +kernel, ?_⟩
  exact (consumption_efficiency_left_join fleet hfit [] ⟨"", none, none⟩).1 none none rfl

/-! ## Range accuracy -/

/-- The entry of a vehicle whose displayed range fell by `range` over a distance of `km`. -/
def accuracyEntry (v : Uuid) (range km : ℤ) : RangeAccuracy where
  vehicleId := uuidOut v
  dashboardRangeTotalKm := .fin range
  actualMileageTotalKm := .fin km
  accuracyRatio := .fin (if 0 < range then km / range else 0)

/-- A row of the statement with a vehicle is an entry. -/
theorem rangeAccuracyOf_some (v : Uuid) (range km : ℤ) :
    rangeAccuracyOf (some v, range, km) = some (accuracyEntry v range km) := by
  have hpos : (0 : ℚ) < range ↔ 0 < range := by exact_mod_cast Iff.rfl
  by_cases hr : 0 < range <;>
    simp [rangeAccuracyOf, uuidOut_ne_empty, accuracyEntry, Double.ratio, kmToDouble, hpos, hr]

section RangeAccuracy
variable {req : WindowRequest} {db v : Database} {lo hi : Option Instant}

/-- The two subqueries have the same keys, so the outer join pairs every group with its
partner. -/
theorem fullOuterJoin_sumByVehicle (rows : List ConsumptionRow)
    (hkm : ∀ k ∈ rows, FitsInt4 k.km) (hrange : ∀ k ∈ rows, FitsInt4 k.rangeKm) :
    ∃ d m, sumByVehicle ConsumptionRow.rangeDrop rows = .ok d ∧
      sumByVehicle ConsumptionRow.mileage rows = .ok m ∧
      fullOuterJoin Prod.fst Prod.fst d m =
        (rows.map ConsumptionRow.vehicleId).dedup.map fun u =>
          (some (u, rangeKmOf rows u), some (u, kmOf rows u)) := by
  refine ⟨_, _, sumByVehicle_eq_ok fun k hk => toInt4_eq_ok (hrange k hk),
    sumByVehicle_eq_ok fun k hk => toInt4_eq_ok (hkm k hk), ?_⟩
  apply fullOuterJoin_map (List.nodup_dedup _)
  · intro u
    rfl
  · intro u
    rfl

/-- The statement gives a row with a vehicle for each group. -/
theorem rangeAccuracy_eq (hw : req.window = .ok (lo, hi)) (hv : db.SameRows v)
    (hkm : ∀ k ∈ db.consumption, FitsInt4 k.km)
    (hrange : ∀ k ∈ db.consumption, FitsInt4 k.rangeKm) :
    rangeAccuracy req v = .ok (((consumptionsIn req.vehicleId lo hi v).map
      ConsumptionRow.vehicleId).dedup.map fun u =>
        (some u, rangeKmOf (consumptionsIn req.vehicleId lo hi db) u,
          kmOf (consumptionsIn req.vehicleId lo hi db) u)) := by
  obtain ⟨d, m, hd, hm, hjoin⟩ := fullOuterJoin_sumByVehicle (consumptionsIn req.vehicleId lo hi v)
    (forall_consumptionsIn hv hkm req.vehicleId) (forall_consumptionsIn hv hrange req.vehicleId)
  have hperm : (consumptionsIn req.vehicleId lo hi v).Perm
      (consumptionsIn req.vehicleId lo hi db) := consumptionsIn_perm req.vehicleId hv
  have hsum : ∀ f : ConsumptionRow → ℤ, ∀ u,
      sumWhere (fun k => decide (k.vehicleId = u)) f (consumptionsIn req.vehicleId lo hi v) =
        sumWhere (fun k => decide (k.vehicleId = u)) f (consumptionsIn req.vehicleId lo hi db) :=
    fun f u => sumWhere_perm hperm
  have hrows : rangeAccuracy req v = .ok ((fullOuterJoin Prod.fst Prod.fst d m).map fun p =>
      (p.1.map Prod.fst, (p.1.map Prod.snd).getD 0, (p.2.map Prod.snd).getD 0)) := by
    rw [rangeAccuracy, hw]
    simp only [bind, Except.bind, hd, hm]
    rfl
  rw [hrows, hjoin, List.map_map]
  simp only [rangeKmOf, kmOf, hsum]
  rfl

/-- No row of the join has an empty side, and no row of the statement is skipped. -/
theorem rangeAccuracy_complete (hw : req.window = .ok (lo, hi)) (hv : db.SameRows v)
    (hkm : ∀ k ∈ db.consumption, FitsInt4 k.km)
    (hrange : ∀ k ∈ db.consumption, FitsInt4 k.rangeKm) :
    ∃ d m rows,
      sumByVehicle ConsumptionRow.rangeDrop (consumptionsIn req.vehicleId lo hi v) = .ok d ∧
      sumByVehicle ConsumptionRow.mileage (consumptionsIn req.vehicleId lo hi v) = .ok m ∧
      (∀ p ∈ fullOuterJoin Prod.fst Prod.fst d m, p.1.isSome = true ∧ p.2.isSome = true) ∧
      rangeAccuracy req v = .ok rows ∧ ∀ row ∈ rows, rangeAccuracyOf row ≠ none := by
  obtain ⟨d, m, hd, hm, hjoin⟩ := fullOuterJoin_sumByVehicle (consumptionsIn req.vehicleId lo hi v)
    (forall_consumptionsIn hv hkm req.vehicleId) (forall_consumptionsIn hv hrange req.vehicleId)
  refine ⟨d, m, _, hd, hm, ?_, rangeAccuracy_eq hw hv hkm hrange, ?_⟩
  · intro p hp
    rw [hjoin] at hp
    obtain ⟨u, -, rfl⟩ := List.mem_map.mp hp
    exact ⟨rfl, rfl⟩
  · intro row hrow
    obtain ⟨u, -, rfl⟩ := List.mem_map.mp hrow
    simp [rangeAccuracyOf_some]

theorem replies_getRangeAccuracy {md : Metadata} (hw : req.window = .ok (lo, hi))
    (hkm : ∀ k ∈ db.consumption, FitsInt4 k.km)
    (hrange : ∀ k ∈ db.consumption, FitsInt4 k.rangeKm) :
    Replies db (getRangeAccuracy md req) fun r => ∃ es, r = (.OK, some es) ∧
      OneEach (consumptionsIn req.vehicleId lo hi db) (fun u e => e = accuracyEntry u
        (rangeKmOf (consumptionsIn req.vehicleId lo hi db) u)
        (kmOf (consumptionsIn req.vehicleId lo hi db) u)) es ∧
      (es.map RangeAccuracy.vehicleId).Nodup := by
  apply replies_readAll
  intro v hv
  rw [rangeAccuracy_eq hw hv hkm hrange]
  refine ⟨_, rfl, ?_⟩
  rw [List.filterMap_map]
  simp only [Function.comp_def, rangeAccuracyOf_some, List.filterMap_eq_map']
  have hperm : (consumptionsIn req.vehicleId lo hi v).Perm
      (consumptionsIn req.vehicleId lo hi db) := consumptionsIn_perm req.vehicleId hv
  have hone : OneEach _ (fun u e => e = accuracyEntry u
      (rangeKmOf (consumptionsIn req.vehicleId lo hi db) u)
      (kmOf (consumptionsIn req.vehicleId lo hi db) u)) _ := oneEach_dedup hperm fun u => rfl
  refine ⟨hone, hone.nodup_ids ?_⟩
  intro u e he
  rw [he]
  rfl

end RangeAccuracy

end EvGrpc
