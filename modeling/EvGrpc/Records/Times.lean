import EvGrpc.Invariant.Charging
import EvGrpc.Services.Written

/-!
# Timestamps that are read back

The instants of a record are rounded to microseconds on the way into the table and cut to
seconds on the way out, so a timestamp less than half a microsecond before the next second comes
back as that second; and where this leads to the year 10000, whose text has a digit more
than `ParseTimestamp` expects, the field comes back unset.
-/

namespace EvGrpc

open Lib

/-! ## One timestamp -/

/-- The first instant whose year has five digits. -/
def year10000 : ℤ := 253402300800000000

theorem year_bounds {i : ℤ} (h₁ : -62135596800000000 ≤ i) (h₂ : i < year10000) :
    1 ≤ (dateOf i).year ∧ (dateOf i).year ≤ 9999 := by
  obtain ⟨n, hn⟩ : ∃ n, n = i / microsPerDay + epochDay := ⟨_, rfl⟩
  obtain ⟨hspec, hlt⟩ := yearOfDays_spec n
  have hyear : (dateOf i).year = (yearOfDays n).1 := by rw [hn]; rfl
  have hbounds : 0 ≤ n ∧ n < 3652059 := by
    unfold microsPerDay epochDay at hn
    unfold year10000 at h₂
    omega
  have hfirst : daysBeforeYear 1 = 0 := by decide
  have hlast : daysBeforeYear 10000 = 3652059 := by decide
  have hnext := daysBeforeYear_succ (yearOfDays n).1
  have hlow : daysBeforeYear 1 < daysBeforeYear ((yearOfDays n).1 + 1) := by omega
  have hhigh : daysBeforeYear (yearOfDays n).1 < daysBeforeYear 10000 := by omega
  have h1 := daysBeforeYear_lt_iff.mp hlow
  have h2 := daysBeforeYear_lt_iff.mp hhigh
  omega

/-- The timestamp lies less than half a microsecond before the next second. -/
def Timestamp.roundsUp (t : Timestamp) : Bool := decide (999999500 ≤ t.nanos.toInt)

/-- The timestamp rounded to a microsecond and cut to the second. -/
def Timestamp.wholeSecond (t : Timestamp) : Option Timestamp :=
  t.instant?.map fun i => ⟨Int64.ofInt (i / 1000000), 0⟩

section Timestamp
variable {t : Timestamp} {i : ℤ}

/-- The second of the stored instant. -/
theorem second_of_instant? (h : t.instant? = some i) :
    i / 1000000 = t.seconds.toInt + if t.roundsUp then 1 else 0 := by
  obtain ⟨hvalid, rfl⟩ := instant?_eq_some h
  simp only [Timestamp.valid, decide_eq_true_eq] at hvalid
  simp only [Timestamp.roundsUp, decide_eq_true_eq]
  generalize t.seconds.toInt = s at hvalid ⊢
  generalize t.nanos.toInt = n at hvalid ⊢
  -- At the tie the quotient is odd, so it is the next microsecond that is even.
  unfold roundHalfEven
  split_ifs <;> omega

theorem instant?_bounds (h : t.instant? = some i) :
    -62135596800000000 ≤ i ∧ i ≤ year10000 := by
  obtain ⟨hvalid, rfl⟩ := instant?_eq_some h
  have hbounds := roundHalfEven_bounds (t.seconds.toInt * 1000000000 + t.nanos.toInt) 1000
  simp only [Timestamp.valid, decide_eq_true_eq] at hvalid
  unfold year10000
  omega

/-- A stored timestamp is read back as its second, unless that is in the year 10000. -/
theorem parseTimestamp_stored (h : t.instant? = some i) :
    parseTimestamp (timestampOut i) =
      if i < year10000 then some ⟨Int64.ofInt (i / 1000000), 0⟩ else none := by
  obtain ⟨hlow, hhigh⟩ := instant?_bounds h
  split
  · rename_i hlt
    obtain ⟨h₁, h₂⟩ := year_bounds hlow hlt
    exact parseTimestamp_timestampOut h₁ h₂
  · have hi : i = year10000 := by omega
    rw [hi]
    decide +kernel

theorem toInt_ofInt_second (h : t.instant? = some i) :
    (Int64.ofInt (i / 1000000)).toInt = i / 1000000 := by
  obtain ⟨hlow, hhigh⟩ := instant?_bounds h
  unfold year10000 at hhigh
  exact Int64.toInt_ofInt_of_le (by omega) (by omega)

/-- The seconds survive the way exactly when rounding does not reach the next one. -/
theorem readBack_eq_seconds_iff (h : t.instant? = some i) :
    parseTimestamp (timestampOut i) = some ⟨t.seconds, 0⟩ ↔ t.roundsUp = false := by
  have hsecond := second_of_instant? h
  have hint := toInt_ofInt_second h
  have hvalid := (instant?_eq_some h).1
  simp only [Timestamp.valid, decide_eq_true_eq] at hvalid
  rw [parseTimestamp_stored h]
  constructor
  · intro hread
    by_contra hup
    simp only [Bool.not_eq_false] at hup
    rw [hup, if_pos rfl] at hsecond
    split at hread
    · simp only [Option.some.injEq, Timestamp.mk.injEq, and_true] at hread
      rw [hread] at hint
      omega
    · cases hread
  · intro hup
    rw [hup] at hsecond
    simp only [Bool.false_eq_true, if_false, add_zero] at hsecond
    have hlt : i < year10000 := by unfold year10000; omega
    rw [if_pos hlt, hsecond, Int64.ofInt_toInt]

/-- The second is read back as it was rounded, unless it is the last one there is. -/
theorem readBack_eq_wholeSecond_iff (h : t.instant? = some i) :
    parseTimestamp (timestampOut i) = t.wholeSecond ↔
      (t.seconds.toInt < 253402300799 ∨ t.roundsUp = false) := by
  have hsecond := second_of_instant? h
  have hvalid := (instant?_eq_some h).1
  obtain ⟨hlow, hhigh⟩ := instant?_bounds h
  simp only [Timestamp.valid, decide_eq_true_eq] at hvalid
  rw [parseTimestamp_stored h, Timestamp.wholeSecond, h, Option.map_some]
  unfold year10000 at hhigh ⊢
  cases hup : t.roundsUp with
  | false =>
      rw [hup] at hsecond
      simp only [Bool.false_eq_true, if_false, add_zero] at hsecond
      rw [if_pos (by omega)]
      simp
  | true =>
      rw [hup] at hsecond
      simp only [if_true] at hsecond
      split
      · simp only [true_iff]
        exact .inl (by omega)
      · simp only [reduceCtorEq, Bool.true_eq_false, or_false, false_iff]
        omega

end Timestamp

/-! ## Both timestamps of a record -/

/-- The two timestamps of a request that writes a charging or a trip. -/
def Request.times? : Request → Option (Timestamp × Timestamp)
  | .createCharging r => some (r.startTime, r.endTime)
  | .updateCharging r => some (r.startTime, r.endTime)
  | .createConsumption r => some (r.start, r.«end»)
  | .updateConsumption r => some (r.start, r.«end»)
  | _ => none

/-- The two timestamps of a record, as far as they are set. -/
def Response.times? : Response → Option (Option Timestamp × Option Timestamp)
  | .charging c => some (c.startTime, c.endTime)
  | .consumption c => some (c.start, c.«end»)
  | _ => none

/-- The request for a record. -/
def Response.get? : Response → Option Request
  | .charging c => some (.getCharging ⟨c.id⟩)
  | .consumption c => some (.getConsumption ⟨c.id⟩)
  | _ => none

/-- The row of a record is in its table. -/
def Response.Stored (db : Database) : Response → Prop
  | .charging c => ∃ row ∈ db.charging, rowToCharging row = c
  | .consumption c => ∃ row ∈ db.consumption, rowToConsumption row = c
  | _ => False

section Times
variable {db db' : Database}

/-- A record that is stored is what its `Get` returns. -/
theorem Response.Stored.replies {x : Response} (h : x.Stored db) {get : Request}
    (hget : x.get? = some get) (md : Metadata) :
    Replies db (handle ⟨md, get⟩) (· = (.OK, some x)) := by
  cases x with
  | charging c =>
      obtain ⟨row, hrow, rfl⟩ := h
      cases hget
      refine (replies_getCharging hrow (uuidIn_uuidOut row.id)).respond ?_
      rintro _ rfl
      rfl
  | consumption c =>
      obtain ⟨row, hrow, rfl⟩ := h
      cases hget
      refine (replies_getConsumption hrow (uuidIn_uuidOut row.id)).respond ?_
      rintro _ rfl
      rfl
  | _ => cases h

/-- The timestamps of the stored row, made from those of the request. -/
def KeptTimes (a b : Timestamp) (x : Response) : Prop :=
  ∃ i j, a.instant? = some i ∧ b.instant? = some j ∧
    x.times? = some (parseTimestamp (timestampOut i), parseTimestamp (timestampOut j))

theorem keptTimes_charging {id : String} {q : CreateChargingRequest} {row : ChargingRow}
    (h : chargingRow (chargingColumn id q) = .ok row) :
    KeptTimes q.startTime q.endTime (.charging (rowToCharging row)) := by
  have hc := chargingRow_ok h
  refine ⟨_, _, asInstant_time hc.startTime, asInstant_time hc.endTime, ?_⟩
  simp only [Response.times?, rowToCharging_startTime, rowToCharging_endTime]

theorem keptTimes_consumption {id : String} {q : CreateConsumptionRequest} {row : ConsumptionRow}
    (h : consumptionRow (consumptionColumn id q) = .ok row) :
    KeptTimes q.start q.«end» (.consumption (rowToConsumption row)) := by
  have hc := consumptionRow_ok h
  refine ⟨_, _, asInstant_time hc.start, asInstant_time hc.endTime, ?_⟩
  simp only [Response.times?, rowToConsumption_start, rowToConsumption_end]

/-- A request that succeeds answers with a record that is stored then. -/
theorem written_record {md : Metadata} {req : Request} {reply : Reply Response} {a b : Timestamp}
    (hreq : req.times? = some (a, b)) (hok : reply.1.ok = true)
    (h : Serves db (handle ⟨md, req⟩) reply db') :
    ∃ x, reply = (.OK, some x) ∧ x.get?.isSome ∧ x.Stored db' ∧ KeptTimes a b x := by
  cases req with
  | createCharging q =>
      cases hreq
      obtain ⟨r, hr, rfl⟩ := serves_respond.mp h
      obtain ⟨-, _, row, hmem, hrow, rfl⟩ := createCharging_ok hok hr
      exact ⟨_, rfl, rfl, ⟨row, hmem, rfl⟩, keptTimes_charging hrow⟩
  | updateCharging q =>
      cases hreq
      obtain ⟨r, hr, rfl⟩ := serves_respond.mp h
      obtain ⟨-, row, hmem, hrow, rfl⟩ := updateCharging_ok hok hr
      exact ⟨_, rfl, rfl, ⟨row, hmem, rfl⟩, keptTimes_charging hrow⟩
  | createConsumption q =>
      cases hreq
      obtain ⟨r, hr, rfl⟩ := serves_respond.mp h
      obtain ⟨-, _, row, hmem, hrow, rfl⟩ := createConsumption_ok hok hr
      exact ⟨_, rfl, rfl, ⟨row, hmem, rfl⟩, keptTimes_consumption hrow⟩
  | updateConsumption q =>
      cases hreq
      obtain ⟨r, hr, rfl⟩ := serves_respond.mp h
      obtain ⟨-, row, hmem, hrow, rfl⟩ := updateConsumption_ok hok hr
      exact ⟨_, rfl, rfl, ⟨row, hmem, rfl⟩, keptTimes_consumption hrow⟩
  | _ => cases hreq

/-- **Timestamps are read back with their seconds** exactly when neither is less than half
a microsecond before the next second: whenever a request that writes a charging or a trip
succeeds, and for as long as its row is stored, this is what `Get` returns. -/
theorem timestamps_read_back_iff {md : Metadata} {req : Request} {reply : Reply Response}
    {a b : Timestamp} (hreq : req.times? = some (a, b)) (hok : reply.1.ok = true)
    (h : Serves db (handle ⟨md, req⟩) reply db') :
    ∃ x get, reply = (.OK, some x) ∧ x.get? = some get ∧ x.Stored db' ∧
      ∀ later md', x.Stored later → Replies later (handle ⟨md', get⟩) fun reply' =>
        ∃ y, reply' = (.OK, some y) ∧
          (y.times? = some (some ⟨a.seconds, 0⟩, some ⟨b.seconds, 0⟩) ↔
            a.roundsUp = false ∧ b.roundsUp = false) := by
  obtain ⟨x, rfl, hget, hstored, i, j, hi, hj, htimes⟩ := written_record hreq hok h
  obtain ⟨get, hget⟩ := Option.isSome_iff_exists.mp hget
  refine ⟨x, get, rfl, hget, hstored, ?_⟩
  intro later md' hlater
  obtain ⟨hserves, hall⟩ := hlater.replies hget md'
  refine ⟨hserves, ?_⟩
  intro reply' db'' hreply
  obtain ⟨rfl, rfl⟩ := hall reply' db'' hreply
  refine ⟨rfl, x, rfl, ?_⟩
  rw [htimes, Option.some.injEq, Prod.mk.injEq, readBack_eq_seconds_iff hi,
    readBack_eq_seconds_iff hj]

end Times

/-- A charging that ends a nanosecond before the next second is read back as ending a
second later. -/
theorem next_second_read_back :
    ∃ req reply db' x get, req.times? = some (⟨1700000000, 0⟩, ⟨1700003600, 999999999⟩) ∧
      Serves stocked (handle ⟨[], req⟩) reply db' ∧ reply = (.OK, some x) ∧
      x.get? = some get ∧
      Replies db' (handle ⟨[], get⟩) fun reply' => ∃ y, reply' = (.OK, some y) ∧
        y.times? = some (some ⟨1700000000, 0⟩, some ⟨1700003601, 0⟩) ∧
        y.times? ≠ some (some ⟨1700000000, 0⟩, some ⟨1700003600, 0⟩) := by
  obtain ⟨req, hreq⟩ : ∃ req, req = Request.createCharging
      { someCharging 10 with endTime := ⟨1700003600, 999999999⟩ } := ⟨_, rfl⟩
  have htimes : req.times? = some (⟨1700000000, 0⟩, ⟨1700003600, 999999999⟩) := by rw [hreq]; rfl
  have hrun : ∃ reply db', Serves stocked (handle ⟨[], req⟩) reply db' ∧ reply.1.ok = true ∧
      reply.2.bind Response.times? = some (some ⟨1700000000, 0⟩, some ⟨1700003601, 0⟩) := by
    rw [hreq]
    exact Serves.exists_run 1 (List.replicate 12 {}) (clean_replicate 12) (by decide +kernel)
  obtain ⟨reply, db', hserves, hok, hread⟩ := hrun
  obtain ⟨x, rfl, hget, hstored, -⟩ := written_record htimes hok hserves
  obtain ⟨get, hget⟩ := Option.isSome_iff_exists.mp hget
  obtain ⟨hsome, hall⟩ := hstored.replies hget []
  refine ⟨req, _, db', x, get, htimes, hserves, rfl, hget, hsome, ?_⟩
  intro reply' db'' hreply
  obtain ⟨rfl, rfl⟩ := hall reply' db'' hreply
  refine ⟨rfl, x, rfl, hread, ?_⟩
  have hread : x.times? = some (some ⟨1700000000, 0⟩, some ⟨1700003601, 0⟩) := hread
  rw [hread]
  decide

/-- Half a second is cut off. -/
theorem timestamps_read_back_iff_half :
    ∃ reply db' x get, Serves stocked (handle ⟨[], .createCharging
        { someCharging 10 with endTime := ⟨1700003600, 500000000⟩ }⟩) reply db' ∧
      reply = (.OK, some x) ∧ x.get? = some get ∧
      Replies db' (handle ⟨[], get⟩) fun reply' => ∃ y, reply' = (.OK, some y) ∧
        y.times? = some (some ⟨1700000000, 0⟩, some ⟨1700003600, 0⟩) := by
  have hrun : ∃ reply db', Serves stocked (handle ⟨[], .createCharging
      { someCharging 10 with endTime := ⟨1700003600, 500000000⟩ }⟩) reply db' ∧
      reply.1.ok = true :=
    Serves.exists_run 1 (List.replicate 12 {}) (clean_replicate 12) (by decide +kernel)
  obtain ⟨reply, db', hserves, hok⟩ := hrun
  obtain ⟨x, get, hreply, hget, hstored, hlater⟩ := timestamps_read_back_iff rfl hok hserves
  obtain ⟨hsome, hall⟩ := hlater db' [] hstored
  refine ⟨reply, db', x, get, hserves, hreply, hget, hsome, ?_⟩
  intro reply' db'' hreply'
  obtain ⟨rfl, y, rfl, hy⟩ := hall reply' db'' hreply'
  exact ⟨rfl, y, rfl, hy.mpr (by decide)⟩

end EvGrpc
