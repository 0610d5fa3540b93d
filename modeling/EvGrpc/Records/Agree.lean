import EvGrpc.Records.Times

/-!
# Create, Update and Get agree

The parameters of an `INSERT` and of an `UPDATE` are bound in two orders, a request is
copied once more to be validated, and a row is read back column by column.  Here is what
comes out: both handlers validate the same payload, both store it, and every field of the
record that `Get` returns is the request's field after its column's coercion.

There are two exceptions: timestamps that are rounded into the year 10000, which are not read
back at all, and texts with a NUL, which arrive without what follows it.
`chargings_agree_iff` and `consumptions_agree_iff` say that there is no other.
-/

namespace EvGrpc

open Lib

/-! ## Fields -/

/-- The text is a spelling of the identifier that is printed as `out`. -/
def SameId (s out : String) : Prop := ∃ u, uuidIn s = some u ∧ out = uuidOut u

/-- The timestamp is not rounded into the year 10000. -/
def Timestamp.beforeYear10000 (t : Timestamp) : Bool :=
  decide (t.seconds.toInt < 253402300799) || !t.roundsUp

section Fields

theorem ok_unique {α : Type} {x : Except Exn α} {a b : α} (h : x = .ok a) (h' : x = .ok b) :
    b = a := by
  rw [h] at h'
  cases h'
  rfl

theorem coerced_unique {α : Type} {x : Except Exn (Option α)} {a b : α} (h : x = .ok (some a))
    (h' : x = .ok (some b)) : b = a :=
  Option.some.inj (ok_unique h h')

theorem sameId_of_asUuid {s : String} {u : Uuid} (h : (Param.text s).asUuid = .ok (some u)) :
    SameId s (uuidOut u) :=
  ⟨u, asUuid_text h, rfl⟩

theorem asInt_int {n m : Int32} (h : (Param.int n).asInt = .ok (some m)) : m = n := by
  cases h
  rfl

theorem asDecimal_toDouble {p s : ℕ} {d : Double} {x : Numeric}
    (h : (Param.double d).asDecimal p s = .ok (some x)) : x.toDouble = d.rounded s := by
  rcases asDecimal_double h with ⟨q, rfl, rfl⟩ | ⟨rfl, rfl⟩ <;> rfl

theorem doubleOrNull_toDouble {p s : ℕ} {d : Option Double} {x : Option Numeric}
    (h : (doubleOrNull d).asDecimal p s = .ok x) :
    x.map Numeric.toDouble = d.map (Double.rounded s) := by
  cases d with
  | none =>
      cases h
      rfl
  | some d =>
      cases x with
      | none =>
          simp only [doubleOrNull, Param.asDecimal] at h
          split at h <;> cases h
      | some x => simpa using asDecimal_toDouble h

theorem chargerTypeFromLabel_label {t : ChargerType} {e : ChargerTypeEnum}
    (h : (labelParam t).asChargerType = .ok (some e)) : chargerTypeFromLabel e.label = t := by
  cases t with
  | CHARGER_TYPE_FAST => cases h; rfl
  | CHARGER_TYPE_SLOW => cases h; rfl
  | CHARGER_TYPE_UNSPECIFIED => cases h
  | unrecognized n => cases h

/-- An empty text comes back empty, and any other as the column keeps what arrives of it. -/
theorem asVarchar_textOrNull {n : ℕ} {s : String} {x : Option String}
    (h : (textOrNull s).asVarchar n = .ok x) : varcharIn n (received s) = some (x.getD "") := by
  unfold textOrNull at h
  split at h
  · rename_i hs
    cases h
    rw [hs]
    rfl
  · cases x with
    | none =>
        simp only [Param.asVarchar] at h
        split at h <;> cases h
    | some x => exact asVarchar_text h

theorem asText_textOrNull {s : String} {x : Option String}
    (h : (textOrNull s).asText = .ok x) : x.getD "" = received s := by
  unfold textOrNull at h
  split at h
  · rename_i hs
    cases h
    rw [hs]
    rfl
  · cases h
    rfl

theorem nullIfEmpty_text {s : String} {x : Option String} (h : (Param.text s).asText = .ok x) :
    (nullIfEmpty x).getD "" = received s := by
  cases h
  by_cases hs : received s = ""
  · simp [nullIfEmpty, hs]
  · simp [nullIfEmpty, hs]

/-- A `VARCHAR` keeps the start of a text, and cuts nothing but spaces off its end. -/
theorem mem_varcharIn {n : ℕ} {s y : String} (h : varcharIn n s = some y) {c : Char}
    (hc : c ≠ ' ') : c ∈ y.toList ↔ c ∈ s.toList := by
  unfold varcharIn at h
  split_ifs at h with hlen hspaces
  · cases h
    rfl
  · cases h
    have hdrop : c ∉ s.toList.drop n := by
      intro hmem
      exact hc (by simpa using List.all_eq_true.mp hspaces c hmem)
    rw [String.toList_ofList]
    conv_rhs => rw [← List.take_append_drop n s.toList, List.mem_append]
    simp [hdrop]

/-- What arrives of a text is stored like the text itself exactly when it is all of it. -/
theorem varcharIn_received_iff {n : ℕ} {s y : String} (h : varcharIn n (received s) = some y) :
    varcharIn n s = some y ↔ '\x00' ∉ s.toList := by
  constructor
  · intro hs hnul
    have hy := (mem_varcharIn hs (by decide)).mpr hnul
    have hcut := (mem_varcharIn h (by decide)).mp hy
    rw [received, String.toList_ofList, cstr] at hcut
    simpa using List.mem_takeWhile_imp hcut
  · intro hnul
    rw [← received_eq_self_iff] at hnul
    rwa [hnul] at h

theorem readBack_iff {t : Timestamp} {i : Instant} (h : (Param.time t).asInstant = .ok (some i)) :
    parseTimestamp (timestampOut i) = t.wholeSecond ↔ t.beforeYear10000 = true := by
  rw [readBack_eq_wholeSecond_iff (asInstant_time h)]
  simp [Timestamp.beforeYear10000]

end Fields

/-! ## Chargings -/

/-- Every field of the record but the id is that of the request, after the coercion of its
column. -/
structure Charging.Records (c : Charging) (q : CreateChargingRequest) : Prop where
  vehicleId : SameId q.vehicleId c.vehicleId
  startTime : c.startTime = q.startTime.wholeSecond
  endTime : c.endTime = q.endTime.wholeSecond
  startPercent : c.startPercent = q.startPercent
  endPercent : c.endPercent = q.endPercent
  startMileageKm : c.startMileageKm = q.startMileageKm
  endMileageKm : c.endMileageKm = q.endMileageKm
  kwhCharged : c.kwhCharged = q.kwhCharged.rounded 2
  cost : c.cost = q.cost.rounded 2
  electricityUnitPrice : c.electricityUnitPrice = q.electricityUnitPrice.rounded 2
  serviceFee : c.serviceFee = q.serviceFee.map (Double.rounded 2)
  chargerType : c.chargerType = q.chargerType
  sourceCategoryId : SameId q.sourceCategoryId c.sourceCategoryId
  location : varcharIn 100 q.location = some c.location
  remark : c.remark = q.remark

/-- Nothing of the payload gets lost: no timestamp is rounded into the year 10000, and no text
has a NUL. -/
def CreateChargingRequest.kept (q : CreateChargingRequest) : Bool :=
  q.startTime.beforeYear10000 && q.endTime.beforeYear10000 &&
    !q.location.toList.contains '\x00' && !q.remark.toList.contains '\x00'

section Charging
variable {id : String} {q : CreateChargingRequest} {row : ChargingRow}

theorem CreateChargingRequest.kept_iff : q.kept = true ↔ q.startTime.beforeYear10000 = true ∧
    q.endTime.beforeYear10000 = true ∧ '\x00' ∉ q.location.toList ∧ '\x00' ∉ q.remark.toList := by
  simp [CreateChargingRequest.kept, and_assoc]

theorem charging_records_iff (h : chargingRow (chargingColumn id q) = .ok row) :
    (rowToCharging row).Records q ↔ q.kept = true := by
  have hc := chargingRow_ok h
  have hstart := readBack_iff hc.startTime
  have hend := readBack_iff hc.endTime
  have hlocation := varcharIn_received_iff (asVarchar_textOrNull hc.location)
  have hremark : (rowToCharging row).remark = received q.remark := asText_textOrNull hc.remark
  rw [← rowToCharging_startTime] at hstart
  rw [← rowToCharging_endTime] at hend
  rw [CreateChargingRequest.kept_iff, ← hstart, ← hend, ← hlocation, ← received_eq_self_iff,
    ← hremark]
  constructor
  · intro hr
    exact ⟨hr.startTime, hr.endTime, hr.location, hr.remark⟩
  · rintro ⟨hstart, hend, hlocation, hremark⟩
    exact ⟨sameId_of_asUuid hc.vehicleId, hstart, hend, asInt_int hc.startPercent,
      asInt_int hc.endPercent, asInt_int hc.startMileage, asInt_int hc.endMileage,
      asDecimal_toDouble hc.kwhCharged, asDecimal_toDouble hc.cost,
      asDecimal_toDouble hc.electricityUnitPrice, doubleOrNull_toDouble hc.serviceFee,
      chargerTypeFromLabel_label hc.chargerType, sameId_of_asUuid hc.sourceCategoryId,
      hlocation, hremark⟩

/-- Two rows of one payload differ in their ids only. -/
theorem chargingRow_eq_except_id {id' : String} {row' : ChargingRow}
    (h : chargingRow (chargingColumn id q) = .ok row)
    (h' : chargingRow (chargingColumn id' q) = .ok row') : row' = { row with id := row'.id } := by
  have hc := chargingRow_ok h
  have hc' := chargingRow_ok h'
  cases row
  cases row'
  simp only [ChargingRow.mk.injEq, true_and]
  exact ⟨coerced_unique hc.vehicleId hc'.vehicleId, coerced_unique hc.startTime hc'.startTime,
    coerced_unique hc.endTime hc'.endTime, coerced_unique hc.startPercent hc'.startPercent,
    coerced_unique hc.endPercent hc'.endPercent, coerced_unique hc.startMileage hc'.startMileage,
    coerced_unique hc.endMileage hc'.endMileage, coerced_unique hc.kwhCharged hc'.kwhCharged,
    coerced_unique hc.cost hc'.cost,
    coerced_unique hc.electricityUnitPrice hc'.electricityUnitPrice,
    ok_unique hc.serviceFee hc'.serviceFee, coerced_unique hc.chargerType hc'.chargerType,
    coerced_unique hc.sourceCategoryId hc'.sourceCategoryId, ok_unique hc.location hc'.location,
    ok_unique hc.remark hc'.remark⟩

/-- What the three RPCs agree on: the response of the create, the response of the update, and
what `Get` returns after either are the record of the payload, with the id of the row. -/
def ChargingsAgree (q : CreateChargingRequest) (id : String) (created updated : Database)
    (r r' : Reply Charging) : Prop :=
  ∃ c c', r = (.OK, some c) ∧ r' = (.OK, some c') ∧ c' = { c with id := c'.id } ∧
    (∀ md, Replies created (getCharging md ⟨c.id⟩) (· = (.OK, some c))) ∧
    (∀ md, Replies updated (getCharging md ⟨id⟩) (· = (.OK, some c'))) ∧ c.Records q

variable {db db' d d' : Database} {md md' : Metadata} {r r' : Reply Charging}

/-- When both succeed, they agree unless something of the payload gets lost. -/
theorem chargings_agree_iff (hok : r.1.ok = true) (hcreate : Serves db (createCharging md q) r db')
    (hok' : r'.1.ok = true) (hupdate : Serves d (updateCharging md' ⟨q, id⟩) r' d') :
    ChargingsAgree q id db' d' r r' ↔ q.kept = true := by
  obtain ⟨-, u, row, hmem, hrow, rfl⟩ := createCharging_ok hok hcreate
  obtain ⟨-, row', hmem', hrow', rfl⟩ := updateCharging_ok hok' hupdate
  have hid : uuidIn id = some row'.id := asUuid_text (chargingRow_ok hrow').id
  rw [← charging_records_iff hrow]
  constructor
  · rintro ⟨c, c', hr, -, -, -, -, hc⟩
    cases hr
    exact hc
  · intro hc
    refine ⟨_, _, rfl, rfl, ?_, ?_, ?_, hc⟩
    · rw [chargingRow_eq_except_id hrow hrow']
      simp only [rowToCharging]
    · exact fun _ => replies_getCharging hmem (uuidIn_uuidOut row.id)
    · exact fun _ => replies_getCharging hmem' hid

end Charging

/-! ## Consumptions -/

/-- Every field of the record but the id is that of the request, after the coercion of its
column. -/
structure Consumption.Records (c : Consumption) (q : CreateConsumptionRequest) : Prop where
  vehicleId : SameId q.vehicleId c.vehicleId
  start : c.start = q.start.wholeSecond
  «end» : c.«end» = q.«end».wholeSecond
  beginPercent : c.beginPercent = q.beginPercent
  endPercent : c.endPercent = q.endPercent
  beginMileageKm : c.beginMileageKm = q.beginMileageKm
  endMileageKm : c.endMileageKm = q.endMileageKm
  beginRangeKm : c.beginRangeKm = q.beginRangeKm
  endRangeKm : c.endRangeKm = q.endRangeKm
  highestTemperatureC : c.highestTemperatureC = q.highestTemperatureC.rounded 1
  lowestTemperatureC : c.lowestTemperatureC = q.lowestTemperatureC.rounded 1
  weatherId : SameId q.weatherId c.weatherId
  remark : c.remark = q.remark

/-- Nothing of the payload gets lost. -/
def CreateConsumptionRequest.kept (q : CreateConsumptionRequest) : Bool :=
  q.start.beforeYear10000 && q.«end».beforeYear10000 && !q.remark.toList.contains '\x00'

section Consumption
variable {id : String} {q : CreateConsumptionRequest} {row : ConsumptionRow}

theorem CreateConsumptionRequest.kept_iff : q.kept = true ↔ q.start.beforeYear10000 = true ∧
    q.«end».beforeYear10000 = true ∧ '\x00' ∉ q.remark.toList := by
  simp [CreateConsumptionRequest.kept, and_assoc]

theorem consumption_records_iff (h : consumptionRow (consumptionColumn id q) = .ok row) :
    (rowToConsumption row).Records q ↔ q.kept = true := by
  have hc := consumptionRow_ok h
  obtain ⟨x, htext, hnull⟩ := hc.remark
  have hremark : (rowToConsumption row).remark = received q.remark := by
    simp only [rowToConsumption, hnull]
    exact nullIfEmpty_text htext
  have hstart := readBack_iff hc.start
  have hend := readBack_iff hc.endTime
  rw [← rowToConsumption_start] at hstart
  rw [← rowToConsumption_end] at hend
  rw [CreateConsumptionRequest.kept_iff, ← hstart, ← hend, ← received_eq_self_iff, ← hremark]
  constructor
  · intro hr
    exact ⟨hr.start, hr.end, hr.remark⟩
  · rintro ⟨hstart, hend, hremark⟩
    exact ⟨sameId_of_asUuid hc.vehicleId, hstart, hend, asInt_int hc.beginPercent,
      asInt_int hc.endPercent, asInt_int hc.beginMileage, asInt_int hc.endMileage,
      asInt_int hc.beginRange, asInt_int hc.endRange, asDecimal_toDouble hc.highestTemperature,
      asDecimal_toDouble hc.lowestTemperature, sameId_of_asUuid hc.weatherId, hremark⟩

/-- Two rows of one payload differ in their ids only. -/
theorem consumptionRow_eq_except_id {id' : String} {row' : ConsumptionRow}
    (h : consumptionRow (consumptionColumn id q) = .ok row)
    (h' : consumptionRow (consumptionColumn id' q) = .ok row') :
    row' = { row with id := row'.id } := by
  have hc := consumptionRow_ok h
  have hc' := consumptionRow_ok h'
  obtain ⟨x, htext, hremark⟩ := hc.remark
  obtain ⟨x', htext', hremark'⟩ := hc'.remark
  cases ok_unique htext htext'
  cases row
  cases row'
  simp only [ConsumptionRow.mk.injEq, true_and]
  exact ⟨coerced_unique hc.vehicleId hc'.vehicleId, coerced_unique hc.start hc'.start,
    coerced_unique hc.endTime hc'.endTime, coerced_unique hc.beginPercent hc'.beginPercent,
    coerced_unique hc.endPercent hc'.endPercent, coerced_unique hc.beginMileage hc'.beginMileage,
    coerced_unique hc.endMileage hc'.endMileage, coerced_unique hc.beginRange hc'.beginRange,
    coerced_unique hc.endRange hc'.endRange,
    coerced_unique hc.highestTemperature hc'.highestTemperature,
    coerced_unique hc.lowestTemperature hc'.lowestTemperature,
    coerced_unique hc.weatherId hc'.weatherId, hremark'.trans hremark.symm⟩

/-- What the three RPCs agree on, as for chargings. -/
def ConsumptionsAgree (q : CreateConsumptionRequest) (id : String) (created updated : Database)
    (r r' : Reply Consumption) : Prop :=
  ∃ c c', r = (.OK, some c) ∧ r' = (.OK, some c') ∧ c' = { c with id := c'.id } ∧
    (∀ md, Replies created (getConsumption md ⟨c.id⟩) (· = (.OK, some c))) ∧
    (∀ md, Replies updated (getConsumption md ⟨id⟩) (· = (.OK, some c'))) ∧ c.Records q

variable {db db' d d' : Database} {md md' : Metadata} {r r' : Reply Consumption}

/-- When both succeed, they agree unless something of the payload gets lost. -/
theorem consumptions_agree_iff (hok : r.1.ok = true)
    (hcreate : Serves db (createConsumption md q) r db') (hok' : r'.1.ok = true)
    (hupdate : Serves d (updateConsumption md' ⟨q, id⟩) r' d') :
    ConsumptionsAgree q id db' d' r r' ↔ q.kept = true := by
  obtain ⟨-, u, row, hmem, hrow, rfl⟩ := createConsumption_ok hok hcreate
  obtain ⟨-, row', hmem', hrow', rfl⟩ := updateConsumption_ok hok' hupdate
  have hid : uuidIn id = some row'.id := asUuid_text (consumptionRow_ok hrow').id
  rw [← consumption_records_iff hrow]
  constructor
  · rintro ⟨c, c', hr, -, -, -, -, hc⟩
    cases hr
    exact hc
  · intro hc
    refine ⟨_, _, rfl, rfl, ?_, ?_, ?_, hc⟩
    · rw [consumptionRow_eq_except_id hrow hrow']
      simp only [rowToConsumption]
    · exact fun _ => replies_getConsumption hmem (uuidIn_uuidOut row.id)
    · exact fun _ => replies_getConsumption hmem' hid

end Consumption

/-! ## Both services -/

/-- Two handlers reject a payload alike: their checks give the same status, and when it is
not OK either answers with it and leaves the rows alone. -/
def RejectAlike {ρ : Type} (st st' : Status) (p p' : Metadata → Prog Op (Reply ρ)) : Prop :=
  st = st' ∧ (st.ok = false → ∀ db md reply db',
    (Serves db (p md) reply db' ↔ reply = (st, none) ∧ db' = db) ∧
      (Serves db (p' md) reply db' ↔ reply = (st, none) ∧ db' = db))

theorem rejectAlike {ρ : Type} (st : Status) (m m' : String) (body body' : Prog Op (Reply ρ)) :
    RejectAlike st st (fun md => authenticated md m (validated st body))
      (fun md => authenticated md m' (validated st body')) := by
  refine ⟨rfl, fun hst db md reply db' => ?_⟩
  simp [serves_validated, hst]

/-- **Create, Update and Get agree.**  `Create` and `Update` reject the same payloads, and
when both succeed, their responses and the records that `Get` returns afterwards are the
payload's after the coercions of the columns, exactly when no timestamp is rounded into
the year 10000 and no text has a NUL. -/
theorem create_update_get_agree (id : String) :
    (∀ q : CreateChargingRequest,
      RejectAlike (validateCharging q) (validateCharging (UpdateChargingRequest.view ⟨q, id⟩))
        (createCharging · q) (updateCharging · ⟨q, id⟩) ∧
      ∀ db db' d d' md md' r r', r.1.ok = true → Serves db (createCharging md q) r db' →
        r'.1.ok = true → Serves d (updateCharging md' ⟨q, id⟩) r' d' →
        (ChargingsAgree q id db' d' r r' ↔ q.kept = true)) ∧
    ∀ q : CreateConsumptionRequest,
      RejectAlike (validateConsumption q)
        (validateConsumption (UpdateConsumptionRequest.view ⟨q, id⟩))
        (createConsumption · q) (updateConsumption · ⟨q, id⟩) ∧
      ∀ db db' d d' md md' r r', r.1.ok = true → Serves db (createConsumption md q) r db' →
        r'.1.ok = true → Serves d (updateConsumption md' ⟨q, id⟩) r' d' →
        (ConsumptionsAgree q id db' d' r r' ↔ q.kept = true) := by
  refine ⟨fun q => ⟨rejectAlike _ _ _ _ _, ?_⟩, fun q => ⟨rejectAlike _ _ _ _ _, ?_⟩⟩
  · intro db db' d d' md md' r r' hok hcreate hok' hupdate
    exact chargings_agree_iff hok hcreate hok' hupdate
  · intro db db' d d' md md' r r' hok hcreate hok' hupdate
    exact consumptions_agree_iff hok hcreate hok' hupdate

/-- A charging up to the last nanosecond of the year 9999 is accepted by both, and comes back
without its end. -/
theorem last_nanosecond_lost :
    ∃ q db' d' r r', q = { someCharging 10 with endTime := ⟨253402300799, 999999999⟩ } ∧
      q.endTime.valid = true ∧ r.1.ok = true ∧ Serves stocked (createCharging [] q) r db' ∧
      r'.1.ok = true ∧ Serves chargedOnce (updateCharging [] ⟨q, uuidOut (someUuid 2)⟩) r' d' ∧
      r.2.map Charging.endTime = some none ∧
      ¬ ChargingsAgree q (uuidOut (someUuid 2)) db' d' r r' := by
  obtain ⟨q, hq⟩ : ∃ q, q = { someCharging 10 with endTime := ⟨253402300799, 999999999⟩ } :=
    ⟨_, rfl⟩
  have hcreate : ∃ r db', Serves stocked (createCharging [] q) r db' ∧ r.1.ok = true ∧
      r.2.map Charging.endTime = some none := by
    rw [hq]
    exact Serves.exists_run 1 (List.replicate 12 {}) (clean_replicate 12) (by decide +kernel)
  have hupdate : ∃ r d', Serves chargedOnce (updateCharging [] ⟨q, uuidOut (someUuid 2)⟩) r d' ∧
      r.1.ok = true := by
    rw [hq]
    exact Serves.exists_run 1 (List.replicate 12 {}) (clean_replicate 12) (by decide +kernel)
  obtain ⟨r, db', hcreate, hok, hend⟩ := hcreate
  obtain ⟨r', d', hupdate, hok'⟩ := hupdate
  refine ⟨q, db', d', r, r', hq, by rw [hq]; decide, hok, hcreate, hok', hupdate, hend, ?_⟩
  rw [chargings_agree_iff hok hcreate hok' hupdate, hq]
  decide

/-- An ordinary charging. -/
theorem create_update_get_agree_ten :
    ∃ db' d' r r', r.1.ok = true ∧ r'.1.ok = true ∧
      ChargingsAgree (someCharging 10) (uuidOut (someUuid 2)) db' d' r r' := by
  have hcreate : ∃ r db', Serves stocked (createCharging [] (someCharging 10)) r db' ∧
      r.1.ok = true :=
    Serves.exists_run 1 (List.replicate 12 {}) (clean_replicate 12) (by decide +kernel)
  have hupdate : ∃ r d', Serves chargedOnce
      (updateCharging [] ⟨someCharging 10, uuidOut (someUuid 2)⟩) r d' ∧ r.1.ok = true :=
    Serves.exists_run 1 (List.replicate 12 {}) (clean_replicate 12) (by decide +kernel)
  obtain ⟨r, db', hcreate, hok⟩ := hcreate
  obtain ⟨r', d', hupdate, hok'⟩ := hupdate
  refine ⟨db', d', r, r', hok, hok', ?_⟩
  exact (((create_update_get_agree _).1 _).2 _ _ _ _ _ _ _ _ hok hcreate hok' hupdate).mpr
    (by decide)

end EvGrpc
