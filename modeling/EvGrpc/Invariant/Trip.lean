import EvGrpc.Invariant.Consumption

/-!
# What a stored trip satisfies

`ValidateConsumption` compares whole seconds and unrounded temperatures, and the table
keeps microseconds and one decimal.  Rounding is monotone, so the comparisons survive it,
the strict one between the instants only as far as the request was precise enough:
`consumptions_ordered`.
-/

namespace EvGrpc

open Lib

/-- The business rules, of a stored row.  NaN is above every number, and it is no
temperature. -/
structure ConsumptionRow.Ordered (r : ConsumptionRow) : Prop where
  time : r.start ≤ r.endTime
  percent : r.endPercent.toInt < r.beginPercent.toInt
  temperature : r.lowestTemperature ≠ .nan → r.lowestTemperature.le r.highestTemperature = true

/-- The timestamp is a whole number of microseconds. -/
def Timestamp.wholeMicros (t : Timestamp) : Bool := decide (t.nanos.toInt % 1000 = 0)

/-- The row is what the request stores once it has been validated. -/
def Request.StoresConsumption (req : Request) (r : ConsumptionRow) : Prop :=
  ∃ id q, req.consumption? = some q ∧ (validateConsumption q).ok = true ∧
    consumptionRow (consumptionColumn id q) = .ok r

/-- Both timestamps of the trip a request writes are whole microseconds. -/
def Request.WholeMicros (req : Request) : Prop :=
  ∀ q ∈ req.consumption?, q.start.wholeMicros = true ∧ q.«end».wholeMicros = true

/-! ## One row -/

section Instants
variable {t t' : Timestamp} {a b : ℤ}

/-- A later second is no earlier microsecond. -/
theorem instant_le (ha : t.instant? = some a) (hb : t'.instant? = some b)
    (h : t.seconds.toInt < t'.seconds.toInt) : a ≤ b := by
  obtain ⟨hvalid, rfl⟩ := instant?_eq_some ha
  obtain ⟨hvalid', rfl⟩ := instant?_eq_some hb
  simp only [Timestamp.valid, decide_eq_true_eq] at hvalid hvalid'
  exact roundHalfEven_mono (by norm_num) (by omega)

/-- A whole number of microseconds is stored as it is. -/
theorem instant_of_wholeMicros (ha : t.instant? = some a) (h : t.wholeMicros = true) :
    a = t.seconds.toInt * 1000000 + t.nanos.toInt / 1000 := by
  obtain ⟨-, rfl⟩ := instant?_eq_some ha
  simp only [Timestamp.wholeMicros, decide_eq_true_eq] at h
  have hmul : t.seconds.toInt * 1000000000 + t.nanos.toInt =
      1000 * (t.seconds.toInt * 1000000 + t.nanos.toInt / 1000) := by omega
  rw [hmul, roundHalfEven_mul _ _ (by norm_num)]

/-- A later second is a later microsecond when nothing is rounded. -/
theorem instant_lt (ha : t.instant? = some a) (hb : t'.instant? = some b)
    (h : t.seconds.toInt < t'.seconds.toInt) (ht : t.wholeMicros = true)
    (ht' : t'.wholeMicros = true) : a < b := by
  have hvalid := (instant?_eq_some ha).1
  have hvalid' := (instant?_eq_some hb).1
  simp only [Timestamp.valid, decide_eq_true_eq] at hvalid hvalid'
  rw [instant_of_wholeMicros ha ht, instant_of_wholeMicros hb ht']
  omega

end Instants

/-- Storing keeps the order of two numbers; NaN as the greater one is kept as well. -/
theorem asDecimal_le {p s : ℕ} {d e : Double} {x y : Numeric}
    (hx : (Param.double d).asDecimal p s = .ok (some x))
    (hy : (Param.double e).asDecimal p s = .ok (some y)) (h : e.lt d = false) (hnan : x ≠ .nan) :
    x.le y = true := by
  rcases asDecimal_double hx with ⟨q, rfl, rfl⟩ | ⟨rfl, rfl⟩
  · rcases asDecimal_double hy with ⟨q', rfl, rfl⟩ | ⟨rfl, rfl⟩
    · simp only [Double.lt, decide_eq_false_iff_not, not_lt] at h
      simpa [Numeric.le] using roundTo_mono s h
    · rfl
  · exact absurd rfl hnan

/-- What `ValidateConsumption` lets through. -/
theorem validateConsumption_ok {q : CreateConsumptionRequest}
    (h : (validateConsumption q).ok = true) :
    q.start.seconds.toInt < q.«end».seconds.toInt ∧
      q.endPercent.toInt < q.beginPercent.toInt ∧
      q.highestTemperatureC.lt q.lowestTemperatureC = false := by
  unfold validateConsumption at h
  split_ifs at h with hseconds hpercent htemperature hweather
  · cases h
  · cases h
  · cases h
  · cases h
  · exact ⟨by omega, by omega, by simpa using htemperature⟩

section Row
variable {id : String} {q : CreateConsumptionRequest} {r : ConsumptionRow}

/-- A row made from a validated request is in order. -/
theorem ordered_of_validated (hok : (validateConsumption q).ok = true)
    (h : consumptionRow (consumptionColumn id q) = .ok r) : r.Ordered := by
  obtain ⟨hseconds, hpercent, htemperature⟩ := validateConsumption_ok hok
  have hc := consumptionRow_ok h
  have hbegin : q.beginPercent = r.beginPercent := by
    simpa [consumptionColumn, Param.asInt] using hc.beginPercent
  have hend : q.endPercent = r.endPercent := by
    simpa [consumptionColumn, Param.asInt] using hc.endPercent
  refine ⟨?_, ?_, ?_⟩
  · exact instant_le (asInstant_time hc.start) (asInstant_time hc.endTime) hseconds
  · rw [← hbegin, ← hend]
    exact hpercent
  · exact asDecimal_le hc.lowestTemperature hc.highestTemperature htemperature

/-- And the instants are apart when the request gave them in whole microseconds. -/
theorem start_lt_endTime (hok : (validateConsumption q).ok = true)
    (h : consumptionRow (consumptionColumn id q) = .ok r) (hstart : q.start.wholeMicros = true)
    (hend : q.«end».wholeMicros = true) : r.start < r.endTime := by
  have hc := consumptionRow_ok h
  exact instant_lt (asInstant_time hc.start) (asInstant_time hc.endTime)
    (validateConsumption_ok hok).1 hstart hend

end Row

/-! ## Whole runs -/

/-- Every stored trip was stored by a request of the run. -/
theorem consumptions_stored {Good : Request → Prop} {n : ℕ} {issued : List Uuid} {s : Server}
    (h : Server.Reached (Asks Good) (Server.start .empty n issued) s) :
    ∀ r ∈ s.world.db.consumption, ∃ req, Good req ∧ req.StoresConsumption r := by
  refine h.db_invariant
    (I := fun db => ∀ r ∈ db.consumption, ∃ req, Good req ∧ req.StoresConsumption r) rfl
    (by simp [Server.start, World.start, Database.empty]) ?_
  intro req ids ρ w db db' hgood hperm hI heff r hr
  rcases heff.mem_consumption hr with hr | ⟨v, hv, hrow⟩
  · exact hI r hr
  · obtain ⟨id, q, hreq, rfl, hok⟩ := hperm.consumptionValues hv
    exact ⟨req, hgood, id, q, hreq, hok, hrow⟩

/-- In every state of every run, every stored trip is in order and was stored by one of
the requests; whichever request stored it, its instants are apart when that request gave
them in whole microseconds. -/
theorem consumptions_ordered {Good : Request → Prop} {n : ℕ} {issued : List Uuid} {s : Server}
    (h : Server.Reached (Asks Good) (Server.start .empty n issued) s) :
    ∀ r ∈ s.world.db.consumption, r.Ordered ∧ (∃ req, Good req ∧ req.StoresConsumption r) ∧
      ∀ req : Request, req.StoresConsumption r → req.WholeMicros → r.start < r.endTime := by
  intro r hr
  have hstored := consumptions_stored h r hr
  refine ⟨?_, hstored, ?_⟩
  · obtain ⟨_, -, _, _, -, hok, hrow⟩ := hstored
    exact ordered_of_validated hok hrow
  · rintro req ⟨_, q, hreq, hok, hrow⟩ hmicros
    obtain ⟨hstart, hend⟩ := hmicros q hreq
    exact start_lt_endTime hok hrow hstart hend

/-- A trip of an hour is stored in order. -/
theorem consumptions_ordered_hour :
    ∃ s, Server.Reached (Asks fun _ => True) (Server.start .empty 4 []) s ∧
      s.world.db.consumption ≠ [] ∧ ∀ r ∈ s.world.db.consumption, r.Ordered := by
  have hrun : ∃ s, Server.Reached (Asks fun _ => True) (Server.start .empty 4 []) s ∧
      s.world.db.consumption ≠ [] :=
    exists_reach (createDriven 10000 10100) (by decide +kernel)
  obtain ⟨s, hreach, hne⟩ := hrun
  exact ⟨s, hreach, hne, fun r hr => (consumptions_ordered hreach r hr).1⟩

end EvGrpc
