import EvGrpc.Discipline

/-!
# What a stored charging satisfies

`ValidateCharging` compares what the request says; the table keeps what is left of it
after the columns' coercions.  Two decimals may round a positive amount to zero, NaN
passes every comparison, and two instants may fall into the same microsecond.

`CreateChargingRequest.survives` is the request's side of it, and `sound_iff_survives` says
that it is exactly what decides whether the stored row is sound.  Over whole runs:
when every charging that is written survives its coercions, every stored row is sound
(`chargings_sound`).
-/

namespace EvGrpc

open Lib

/-- The business rules, of a stored row. -/
structure ChargingRow.Sound (r : ChargingRow) : Prop where
  time : r.startTime < r.endTime
  percent : r.startPercent.toInt < r.endPercent.toInt
  kwh : r.kwhCharged.Pos
  cost : r.cost.Pos
  chargerType : r.chargerType = .fast ∨ r.chargerType = .slow

/-- A positive amount that is still positive with two decimals, or that the column
refuses. -/
def Double.survives : Double → Bool
  | .fin q => decide (0 < roundTo 2 q)
  | .nan => false
  | .posInf | .negInf => true

/-- The instants are still in order when they are rounded to microseconds, or the
column refuses one of them. -/
def Timestamp.survives (start stop : Timestamp) : Bool :=
  match start.instant?, stop.instant? with
  | some a, some b => decide (a < b)
  | _, _ => true

/-- The coercions of the columns do not undo what validation established. -/
def CreateChargingRequest.survives (r : CreateChargingRequest) : Bool :=
  Timestamp.survives r.startTime r.endTime && Double.survives r.kwhCharged &&
    Double.survives r.cost

/-! ## One row -/

theorem asDecimal_pos_iff {p : ℕ} {d : Double} {x : Numeric}
    (h : (Param.double d).asDecimal p 2 = .ok (some x)) : x.Pos ↔ Double.survives d = true := by
  rcases asDecimal_double h with ⟨q, rfl, rfl⟩ | ⟨rfl, rfl⟩
  · simp [Numeric.Pos, Double.survives]
  · simp [Numeric.Pos, Double.survives]

theorem validateCharging_percent {r : CreateChargingRequest}
    (h : (validateCharging r).ok = true) : r.startPercent.toInt < r.endPercent.toInt := by
  unfold validateCharging at h
  split at h
  · cases h
  · split at h
    · cases h
    · omega

/-- A row made from a validated request is sound exactly when the request survives
the coercions. -/
theorem sound_iff_survives {id : String} {req : CreateChargingRequest} {r : ChargingRow}
    (hv : (validateCharging req).ok = true) (h : chargingRow (chargingColumn id req) = .ok r) :
    r.Sound ↔ req.survives = true := by
  have hc := chargingRow_ok h
  have hkwh := asDecimal_pos_iff hc.kwhCharged
  have hcost := asDecimal_pos_iff hc.cost
  have hstart := asInstant_time hc.startTime
  have hstop := asInstant_time hc.endTime
  have hpercent : r.startPercent.toInt < r.endPercent.toInt := by
    have h1 : req.startPercent = r.startPercent := by simpa [chargingColumn, Param.asInt] using hc.startPercent
    have h2 : req.endPercent = r.endPercent := by simpa [chargingColumn, Param.asInt] using hc.endPercent
    rw [← h1, ← h2]
    exact validateCharging_percent hv
  have htime : Timestamp.survives req.startTime req.endTime = true ↔ r.startTime < r.endTime := by
    simp [Timestamp.survives, hstart, hstop]
  simp only [CreateChargingRequest.survives, Bool.and_eq_true]
  constructor
  · intro hs
    exact ⟨⟨htime.mpr hs.time, hkwh.mp hs.kwh⟩, hcost.mp hs.cost⟩
  · rintro ⟨⟨h1, h2⟩, h3⟩
    refine ⟨htime.mp h1, hpercent, hkwh.mpr h2, hcost.mpr h3, ?_⟩
    cases r.chargerType with
    | fast => exact .inl rfl
    | slow => exact .inr rfl

/-! ## Whole runs -/

/-- The charging a request writes. -/
def Request.charging? : Request → Option CreateChargingRequest
  | .createCharging r => some r
  | .updateCharging r => some r.toCreateChargingRequest
  | _ => none

/-- A request that writes no charging, is refused by validation, or survives the
coercions. -/
def KeepsChargings (req : Request) : Prop :=
  ∀ r ∈ req.charging?, (validateCharging r).ok = true → r.survives = true

instance : DecidablePred KeepsChargings := fun req =>
  inferInstanceAs (Decidable (∀ r ∈ req.charging?, _))

/-- A permitted statement that carries a charging carries the columns of the request,
which was validated. -/
theorem Permitted.chargingValues {req : Request} {ids : List Uuid} {ρ : Type} {w : Write ρ}
    {v : ChargingCol → Param} (h : Permitted req ids w) (hv : w.chargingValues = some v) :
    ∃ id r, req.charging? = some r ∧ v = chargingColumn id r ∧ (validateCharging r).ok = true := by
  cases h with
  | createCharging hu hok =>
      cases hv
      exact ⟨_, _, rfl, funext (placeholder_chargeParams _ _), hok⟩
  | updateCharging hok =>
      cases hv
      exact ⟨_, _, rfl, funext (placeholder_updateParams _), hok⟩
  | _ => cases hv

/-- When every charging that is written survives its coercions, every stored charging
is sound, in every state of every run. -/
theorem chargings_sound {n : ℕ} {issued : List Uuid} {s : Server}
    (h : Server.Reached (Asks KeepsChargings) (Server.start .empty n issued) s) :
    ∀ r ∈ s.world.db.charging, r.Sound := by
  refine h.db_invariant (I := fun db => ∀ r ∈ db.charging, r.Sound) rfl
    (by simp [Server.start, World.start, Database.empty]) ?_
  intro req ids ρ w db db' hgood hperm hI heff r hr
  rcases heff.mem_charging hr with hr | ⟨v, hv, hrow⟩
  · exact hI r hr
  · obtain ⟨id, c, hreq, rfl, hok⟩ := hperm.chargingValues hv
    exact (sound_iff_survives hok hrow).mpr (hgood c hreq hok)

/-! ## Two runs -/

/-- A charging of the vehicle and the source category with the first two ids. -/
def someCharging (kwh : Double) : CreateChargingRequest where
  vehicleId := uuidOut (someUuid 0)
  startTime := ⟨1700000000, 0⟩
  endTime := ⟨1700003600, 0⟩
  startPercent := 20
  endPercent := 80
  startMileageKm := 100
  endMileageKm := 100
  kwhCharged := kwh
  cost := 10
  electricityUnitPrice := 1
  serviceFee := none
  chargerType := .CHARGER_TYPE_FAST
  sourceCategoryId := uuidOut (someUuid 1)
  location := ""
  remark := ""

/-- A vehicle, a source category and a charging are created one after the other. -/
def createCharged (kwh : Double) : List ServerAction :=
  firstSteps 0 (.createVehicle (someVehicle "A")) (someUuid 0) 17 ++
    firstSteps 1 (.createSourceCategory ⟨"home"⟩) (someUuid 1) 10 ++
    firstSteps 2 (.createCharging (someCharging kwh)) (someUuid 2) 12

/-- A thousandth of a kilowatt-hour is accepted and stored as zero. -/
theorem unsound_charging_reached :
    ∃ s, Server.Reached (fun _ _ => True) (Server.start .empty 4 []) s ∧
      ∃ r ∈ s.world.db.charging, ¬ r.Sound := by
  have hrun : ∃ s, Server.Reached (fun _ _ => True) (Server.start .empty 4 []) s ∧
      ∃ r ∈ s.world.db.charging, ¬ r.kwhCharged.Pos :=
    exists_reach (createCharged (.fin (1 / 1000))) (by decide +kernel)
  obtain ⟨s, hreach, r, hr, hkwh⟩ := hrun
  exact ⟨s, hreach, r, hr, fun h => hkwh h.kwh⟩

/-- Ten kilowatt-hours stay ten. -/
theorem chargings_sound_ten :
    ∃ s, Server.Reached (Asks KeepsChargings) (Server.start .empty 4 []) s ∧
      s.world.db.charging ≠ [] ∧ ∀ r ∈ s.world.db.charging, r.Sound := by
  have hrun : ∃ s, Server.Reached (Asks KeepsChargings) (Server.start .empty 4 []) s ∧
      s.world.db.charging ≠ [] :=
    exists_reach (createCharged 10) (by decide +kernel)
  obtain ⟨s, hreach, hne⟩ := hrun
  exact ⟨s, hreach, hne, chargings_sound hreach⟩

end EvGrpc
