import EvGrpc.Invariant.Charging
import EvGrpc.Reports.PerVehicle
import Mathlib.Algebra.BigOperators.Ring.Finset
import Mathlib.Algebra.Order.BigOperators.Group.List

/-!
# Trips by temperature

`GetTemperatureConsumptionCorrelation` puts every trip of a window into the bucket of its
average temperature.  The `CASE` is a ladder of upper bounds, so a bucket is an interval and the
intervals cover the temperatures; it is monotone, so the order of the smallest temperatures is
the order of the buckets; and the energy of a trip is a subquery of its own, so it multiplies
no row.
-/

namespace EvGrpc

open Lib

/-! ## Buckets -/

/-- The buckets: a label, a lower bound that belongs to it and an upper bound that does not. -/
def bucketBounds : List (String × Option ℚ × Option ℚ) :=
  [("<0", none, some 0), ("0-10", some 0, some 10), ("10-20", some 10, some 20),
    ("20-30", some 20, some 30), (">30", some 30, none)]

/-- The labels, from cold to warm. -/
def bucketLabels : List String := bucketBounds.map Prod.fst

/-- The temperature lies in the bucket; what is not a number is above every number. -/
def inBucket (label : String) (t : Numeric) : Bool :=
  bucketBounds.any fun b => decide (b.1 = label) && b.2.1.all (fun l => Numeric.le (.num l) t) &&
    b.2.2.all fun h => !Numeric.le (.num h) t

/-- The ladder finds the bucket. -/
theorem inBucket_eq (label : String) (t : Numeric) :
    inBucket label t = decide (temperatureLabel t = label) := by
  rw [Bool.eq_iff_iff, decide_eq_true_iff]
  cases t with
  | nan => simp [inBucket, bucketBounds, temperatureLabel, Numeric.le]
  | num t =>
      simp only [temperatureLabel]
      split_ifs <;> simp [inBucket, bucketBounds, Numeric.le] <;> grind

theorem temperatureLabel_mem (t : Numeric) : temperatureLabel t ∈ bucketLabels := by
  cases t with
  | nan => decide
  | num t =>
      simp only [temperatureLabel]
      split_ifs <;> decide

theorem idxOf_temperatureLabel_num (t : ℚ) : bucketLabels.idxOf (temperatureLabel (.num t)) =
    if t < 0 then 0 else if t < 10 then 1 else if t < 20 then 2 else if t < 30 then 3 else 4 := by
  simp only [temperatureLabel]
  split_ifs <;> decide

/-- A warmer trip is in no colder bucket. -/
theorem idxOf_temperatureLabel_mono {a b : Numeric} (h : Numeric.le a b = true) :
    bucketLabels.idxOf (temperatureLabel a) ≤ bucketLabels.idxOf (temperatureLabel b) := by
  cases b with
  | nan =>
      have ha := List.idxOf_lt_length_of_mem (temperatureLabel_mem a)
      have hlast : bucketLabels.idxOf (temperatureLabel .nan) = 4 := by decide
      have hlen : bucketLabels.length = 5 := rfl
      omega
  | num b =>
      cases a with
      | nan => cases h
      | num a =>
          have hab : a ≤ b := of_decide_eq_true h
          rw [idxOf_temperatureLabel_num, idxOf_temperatureLabel_num]
          split_ifs <;> first | omega | linarith

/-- The smallest of some temperatures is one of them. -/
theorem minTemp_mem {ts : List Numeric} (h : ts ≠ []) : minTemp ts ∈ ts := by
  have hfold : ∀ (ts : List Numeric) (a : Numeric),
      ts.foldl (fun a b => if Numeric.le a b then a else b) a ∈ a :: ts := by
    intro ts
    induction ts with
    | nil =>
        intro a
        simp
    | cons b ts ih =>
        intro a
        by_cases hab : Numeric.le a b = true
        · have htail := ih a
          simp only [List.foldl_cons, hab, if_true, List.mem_cons] at htail ⊢
          exact htail.imp_right .inr
        · have htail := ih b
          simp only [List.foldl_cons, hab, Bool.false_eq_true, if_false]
          exact List.mem_cons_of_mem a htail
  cases ts with
  | nil => exact absurd rfl h
  | cons b ts =>
      have hstart : (if Numeric.le .nan b = true then .nan else b) = b := by
        cases b <;> rfl
      rw [minTemp, List.foldl_cons, hstart]
      exact hfold ts b

/-! ## The groups of the statement -/

section Groups
variable {trips : List Trip}

/-- The groups, ordered by their smallest temperature. -/
def groupsByTemp (trips : List Trip) : List (String × List Trip) :=
  (groupBy (fun t => temperatureLabel t.avgTemp) trips).mergeSort fun a b =>
    Numeric.le (minTemp (a.2.map Trip.avgTemp)) (minTemp (b.2.map Trip.avgTemp))

theorem groupsByTemp_perm (trips : List Trip) :
    (groupsByTemp trips).Perm (groupBy (fun t => temperatureLabel t.avgTemp) trips) :=
  List.mergeSort_perm _ _

/-- The label of a group is that of its smallest temperature. -/
theorem temperatureLabel_minTemp {g : String × List Trip} (hg : g ∈ groupsByTemp trips) :
    temperatureLabel (minTemp (g.2.map Trip.avgTemp)) = g.1 := by
  obtain ⟨hrows, t, ht, -⟩ := mem_groupBy ((groupsByTemp_perm trips).mem_iff.mp hg)
  have hne : g.2.map Trip.avgTemp ≠ [] := by
    simpa using List.ne_nil_of_mem ht
  obtain ⟨m, hm, hmin⟩ := List.mem_map.mp (minTemp_mem hne)
  rw [← hmin]
  rw [hrows] at hm
  exact of_decide_eq_true (List.mem_filter.mp hm).2

/-- The order of the smallest temperatures is the order of the buckets. -/
theorem groupsByTemp_ranked (trips : List Trip) :
    ((groupsByTemp trips).map Prod.fst).Pairwise fun a b =>
      bucketLabels.idxOf a ≤ bucketLabels.idxOf b := by
  have hsorted : (groupsByTemp trips).Pairwise fun a b =>
      Numeric.le (minTemp (a.2.map Trip.avgTemp)) (minTemp (b.2.map Trip.avgTemp)) = true := by
    apply List.pairwise_mergeSort
    · intro a b c
      exact Numeric.le_trans
    · intro a b
      exact Numeric.le_total _ _
  rw [List.pairwise_map]
  refine hsorted.imp_of_mem ?_
  intro a b ha hb hab
  rw [← temperatureLabel_minTemp ha, ← temperatureLabel_minTemp hb]
  exact idxOf_temperatureLabel_mono hab

/-- The labels of the groups: those that occur, from cold to warm. -/
theorem groupsByTemp_labels (trips : List Trip) :
    (groupsByTemp trips).map Prod.fst = bucketLabels.filter fun l =>
      decide (l ∈ trips.map fun t => temperatureLabel t.avgTemp) := by
  have hkeys := (groupsByTemp_perm trips).map Prod.fst
  rw [groupBy_keys] at hkeys
  have hmem : ∀ l, l ∈ (groupsByTemp trips).map Prod.fst ↔
      l ∈ trips.map fun t => temperatureLabel t.avgTemp := by
    intro l
    rw [hkeys.mem_iff, List.mem_dedup]
  have hlabels := eq_filter_of_ranked bucketLabels.idxOf
    (hkeys.nodup_iff.mpr (List.nodup_dedup _)) (show bucketLabels.Pairwise _ by decide) (by
      intro l hl
      obtain ⟨t, -, rfl⟩ := List.mem_map.mp ((hmem l).mp hl)
      exact temperatureLabel_mem t.avgTemp) (groupsByTemp_ranked trips)
  rw [hlabels]
  exact List.filter_congr fun l _ => by rw [decide_eq_decide, hmem]

/-- A group holds the trips with its label. -/
theorem groupsByTemp_rows {g : String × List Trip} (hg : g ∈ groupsByTemp trips) :
    g.2 = trips.filter fun t => decide (temperatureLabel t.avgTemp = g.1) :=
  (mem_groupBy ((groupsByTemp_perm trips).mem_iff.mp hg)).1

/-- The groups hold every trip once. -/
theorem groupsByTemp_length (trips : List Trip) :
    ((groupsByTemp trips).map fun g => g.2.length).sum = trips.length := by
  have hsum := sum_groupBy (fun t => temperatureLabel t.avgTemp) (fun _ : Trip => 1) trips
  simp only [List.map_const', List.sum_replicate_nat, Nat.mul_one] at hsum
  rw [((groupsByTemp_perm trips).map _).sum_eq]
  exact hsum

end Groups

/-! ## Trips and their energy -/

/-- The average temperature of a trip. -/
def ConsumptionRow.avgTemp (k : ConsumptionRow) : Numeric :=
  (k.highestTemperature + k.lowestTemperature).half

/-- The energy of a trip: what its vehicle charged from a day before its start to its end. -/
def tripKwh (db : Database) (k : ConsumptionRow) : Numeric :=
  sumWhere (fun c => decide (c.vehicleId = k.vehicleId) &&
    decide (k.start - 24 * 3600 * 1000000 ≤ c.startTime ∧ c.startTime ≤ k.endTime))
      ChargingRow.kwhCharged db.charging

/-- The trips among some rows. -/
def drivenRows (rows : List ConsumptionRow) : List ConsumptionRow :=
  rows.filter fun k => decide (0 < k.km)

/-- The trips of a bucket. -/
def tripsAt (label : String) (rows : List ConsumptionRow) : List ConsumptionRow :=
  (drivenRows rows).filter fun k => inBucket label k.avgTemp

/-- The row of `per_event` for a trip. -/
def tripOf (db : Database) (k : ConsumptionRow) : Trip := ⟨k.avgTemp, k.km, tripKwh db k⟩

section Statement
variable {req : WindowRequest} {db v : Database} {lo hi : Option Instant}

/-- `per_event` has a row for each trip. -/
theorem perEvent_eq (vehicleId : String) (hv : db.SameRows v)
    (hfit : ∀ k ∈ db.consumption, FitsInt4 k.km) :
    perEvent vehicleId lo hi v =
      .ok ((drivenRows (consumptionsIn vehicleId lo hi v)).map (tripOf db)) := by
  have hrow : ∀ k ∈ consumptionsIn vehicleId lo hi v, (do
      let mileage ← k.mileage
      let kwh := (v.charging.filter fun ch =>
        decide (ch.vehicleId = k.vehicleId) &&
          decide (dayBefore k.start ≤ ch.startTime ∧ ch.startTime ≤ k.endTime)).map
            ChargingRow.kwhCharged
      return (⟨(k.highestTemperature + k.lowestTemperature).half, mileage, kwh.sum⟩ : Trip) :
        Except Exn Trip) = .ok (tripOf db k) := by
    intro k hk
    have hmileage : k.mileage = .ok k.km :=
      toInt4_eq_ok (forall_consumptionsIn hv hfit vehicleId k hk)
    have hkwh : tripKwh v k = tripKwh db k := sumWhere_perm hv.2.2.2.2.symm
    rw [hmileage, tripOf, ← hkwh]
    rfl
  rw [perEvent, mapM_eq_ok hrow]
  simp only [bind, Except.bind]
  rw [List.filter_map]
  rfl

/-- The row of the result for a bucket: label, count, distance and energy of its trips. -/
def rowAt (db : Database) (rows : List ConsumptionRow) (label : String) :
    String × ℕ × ℤ × Numeric :=
  (label, (tripsAt label rows).length, ((tripsAt label rows).map ConsumptionRow.km).sum,
    ((tripsAt label rows).map (tripKwh db)).sum)

theorem rowAt_perm {rows rows' : List ConsumptionRow} (h : rows'.Perm rows) (label : String) :
    rowAt db rows' label = rowAt db rows label := by
  have htrips : (tripsAt label rows').Perm (tripsAt label rows) := (h.filter _).filter _
  rw [rowAt, rowAt, htrips.length_eq, (htrips.map _).sum_eq, (htrips.map _).sum_eq]

/-- A group holds the trips of its bucket. -/
theorem group_eq {rows : List ConsumptionRow} {g : String × List Trip}
    (hg : g ∈ groupsByTemp ((drivenRows rows).map (tripOf db))) :
    g.2 = (tripsAt g.1 rows).map (tripOf db) := by
  rw [groupsByTemp_rows hg, List.filter_map, tripsAt]
  simp only [inBucket_eq]
  rfl

/-- The buckets with a trip, from cold to warm. -/
def occupied (rows : List ConsumptionRow) : List String :=
  bucketLabels.filter fun l => decide (tripsAt l rows ≠ [])

theorem occupied_perm {rows rows' : List ConsumptionRow} (h : rows'.Perm rows) :
    occupied rows' = occupied rows := by
  apply List.filter_congr
  intro l _
  have htrips : (tripsAt l rows').Perm (tripsAt l rows) := (h.filter _).filter _
  rw [decide_eq_decide, ne_eq, ne_eq, ← List.length_eq_zero_iff, ← List.length_eq_zero_iff,
    htrips.length_eq]

theorem groups_labels_eq (db : Database) (rows : List ConsumptionRow) :
    (groupsByTemp ((drivenRows rows).map (tripOf db))).map Prod.fst = occupied rows := by
  rw [groupsByTemp_labels]
  apply List.filter_congr
  intro l _
  rw [decide_eq_decide, tripsAt, List.map_map, List.mem_map, ne_eq, List.filter_eq_nil_iff]
  simp only [inBucket_eq, decide_eq_true_iff, not_forall, not_not]
  exact ⟨fun ⟨k, hk, hl⟩ => ⟨k, hk, hl⟩, fun ⟨k, hk, hl⟩ => ⟨k, hk, hl⟩⟩

/-- The result of the statement: a row for each bucket with a trip, from cold to warm. -/
theorem temperatureBuckets_eq (hw : req.window = .ok (lo, hi)) (hv : db.SameRows v)
    (hfit : ∀ k ∈ db.consumption, FitsInt4 k.km) :
    temperatureBuckets req v = .ok ((occupied (consumptionsIn req.vehicleId lo hi db)).map
      (rowAt db (consumptionsIn req.vehicleId lo hi db))) := by
  have hperm : (consumptionsIn req.vehicleId lo hi v).Perm (consumptionsIn req.vehicleId lo hi db) :=
    consumptionsIn_perm req.vehicleId hv
  have hrows : temperatureBuckets req v = .ok ((groupsByTemp
      ((drivenRows (consumptionsIn req.vehicleId lo hi v)).map (tripOf db))).map fun g =>
        (g.1, g.2.length, (g.2.map Trip.mileage).sum, (g.2.map Trip.kwh).sum)) := by
    rw [temperatureBuckets, hw]
    simp only [bind, Except.bind, perEvent_eq req.vehicleId hv hfit]
    rfl
  rw [hrows, ← occupied_perm hperm, ← groups_labels_eq db, List.map_map]
  refine congrArg Except.ok (List.map_congr_left fun g hg => ?_)
  rw [group_eq hg, Function.comp_apply, ← rowAt_perm hperm, rowAt, List.length_map, List.map_map,
    List.map_map]
  rfl

end Statement

/-! ## The report -/

/-- 100 times an energy over a distance. -/
def per100km : Numeric → ℤ → Double
  | .num q, km => .fin (100 * q / km)
  | .nan, _ => .nan

/-- The buckets tell the trips among the rows: the occupied ones from cold to warm, each with
the number of its trips and their energy over their distance. -/
structure BucketsOf (db : Database) (rows : List ConsumptionRow) (bs : List TemperatureBucket) :
    Prop where
  labels : bs.map TemperatureBucket.label = occupied rows
  distinct : (bs.map TemperatureBucket.label).Nodup
  count : ∀ b ∈ bs, b.sampleCount = (tripsAt b.label rows).length
  total : (bs.map TemperatureBucket.sampleCount).sum = (drivenRows rows).length
  distance : ∀ b ∈ bs, 0 < ((tripsAt b.label rows).map ConsumptionRow.km).sum
  value : ∀ b ∈ bs, b.avgKwhPer100km = per100km ((tripsAt b.label rows).map (tripKwh db)).sum
    ((tripsAt b.label rows).map ConsumptionRow.km).sum

/-- The bucket of a label. -/
def bucketAt (db : Database) (rows : List ConsumptionRow) (label : String) : TemperatureBucket where
  label := label
  avgKwhPer100km := per100km ((tripsAt label rows).map (tripKwh db)).sum
    ((tripsAt label rows).map ConsumptionRow.km).sum
  sampleCount := (tripsAt label rows).length

/-- The error for a count that does not fit the field. -/
def countOutOfRange : Exn := ⟨.other, "Could not convert to int: Value out of range."⟩

section Report
variable {db : Database} {rows : List ConsumptionRow}

/-- The trips of an occupied bucket went some way. -/
theorem km_pos {label : String} (h : label ∈ occupied rows) :
    0 < ((tripsAt label rows).map ConsumptionRow.km).sum := by
  have hne : tripsAt label rows ≠ [] := of_decide_eq_true (List.mem_filter.mp h).2
  apply List.sum_pos
  · intro n hn
    obtain ⟨k, hk, rfl⟩ := List.mem_map.mp hn
    have hdriven : k ∈ drivenRows rows := (List.mem_filter.mp hk).1
    exact of_decide_eq_true (List.mem_filter.mp hdriven).2
  · simpa using hne

/-- The handler's expression for the value. -/
theorem scale_ratio (kwh : Numeric) {km : ℤ} (h : 0 < km) :
    Double.scale 100 (Double.ratio kwh.toDouble (kmToDouble km)) = per100km kwh km := by
  have hpos : (0 : ℚ) < km := by exact_mod_cast h
  cases kwh with
  | nan => simp [Double.ratio, kmToDouble, hpos, Double.scale, per100km, Numeric.toDouble]
  | num q =>
      simp only [Double.ratio, kmToDouble, Numeric.toDouble_num, if_pos hpos, Double.scale,
        per100km]
      congr 1
      push_cast
      ring

theorem temperatureBucketOf_rowAt {label : String} (h : label ∈ occupied rows) :
    temperatureBucketOf (rowAt db rows label) =
      if (tripsAt label rows).length ≤ 2147483647 then .ok (bucketAt db rows label)
      else .error countOutOfRange := by
  have hvalue := scale_ratio ((tripsAt label rows).map (tripKwh db)).sum (km_pos h)
  by_cases hfits : (tripsAt label rows).length ≤ 2147483647
  · rw [if_pos hfits, temperatureBucketOf, asInt32, rowAt, if_pos (by exact_mod_cast hfits)]
    exact congrArg Except.ok (by rw [hvalue]; rfl)
  · rw [if_neg hfits, temperatureBucketOf, asInt32, rowAt, if_neg (by exact_mod_cast hfits)]
    rfl

/-- The occupied buckets hold every trip once. -/
theorem sum_length_tripsAt (rows : List ConsumptionRow) :
    ((occupied rows).map fun l => (tripsAt l rows).length).sum = (drivenRows rows).length := by
  have hlength := groupsByTemp_length ((drivenRows rows).map (tripOf .empty))
  rw [List.length_map] at hlength
  rw [← hlength, ← groups_labels_eq .empty rows, List.map_map]
  refine congrArg List.sum (List.map_congr_left fun g hg => ?_)
  rw [group_eq hg, List.length_map]
  rfl

theorem bucketsOf_map_bucketAt (db : Database) (rows : List ConsumptionRow) :
    BucketsOf db rows ((occupied rows).map (bucketAt db rows)) := by
  have hlabels : ((occupied rows).map (bucketAt db rows)).map TemperatureBucket.label =
      occupied rows := by
    rw [List.map_map]
    exact List.map_id _
  have hnodup : (occupied rows).Nodup := (show bucketLabels.Nodup by decide).filter _
  constructor
  · exact hlabels
  · rw [hlabels]
    exact hnodup
  · intro b hb
    obtain ⟨l, -, rfl⟩ := List.mem_map.mp hb
    rfl
  · rw [← sum_length_tripsAt, List.map_map, Nat.cast_list_sum, List.map_map]
    rfl
  · intro b hb
    obtain ⟨l, hl, rfl⟩ := List.mem_map.mp hb
    exact km_pos hl
  · intro b hb
    obtain ⟨l, -, rfl⟩ := List.mem_map.mp hb
    rfl

/-- No bucket has more trips than its field can count. -/
def CountsFit (rows : List ConsumptionRow) : Prop :=
  ∀ l ∈ bucketLabels, (tripsAt l rows).length ≤ 2147483647

instance : DecidablePred CountsFit := fun _ => inferInstanceAs (Decidable (∀ _ ∈ _, _))

theorem countsFit_iff (rows : List ConsumptionRow) :
    CountsFit rows ↔ ∀ l ∈ occupied rows, (tripsAt l rows).length ≤ 2147483647 := by
  constructor
  · intro h l hl
    exact h l (List.mem_filter.mp hl).1
  · intro h l hl
    by_cases hnil : tripsAt l rows = []
    · simp [hnil]
    · exact h l (List.mem_filter.mpr ⟨hl, decide_eq_true hnil⟩)

/-- The handler's buckets, from the rows of the result. -/
theorem mapM_temperatureBucketOf (db : Database) (rows : List ConsumptionRow) :
    ((occupied rows).map (rowAt db rows)).mapM temperatureBucketOf =
      if CountsFit rows then .ok ((occupied rows).map (bucketAt db rows))
      else .error countOutOfRange := by
  rw [List.mapM_map]
  simp only [countsFit_iff]
  exact mapM_eq_ite fun l hl => temperatureBucketOf_rowAt hl

end Report

end EvGrpc
