import EvGrpc.Util.Timestamp
import Mathlib.Data.Rat.Floor

/-!
# Timestamps in any zone

PostgreSQL prints a `TIMESTAMPTZ` as the wall clock of the session's zone followed by its
offset.  `ParseTimestamp` takes the text apart and has to come back to the instant:
`parseTimestamp_rendered` says that it does, for every offset and every fraction, in the years
that have four digits.
-/

namespace EvGrpc

open Lib

/-- `YYYY-MM-DD HH:MM:SS[.f…][offset]` of a wall clock, given in seconds since the epoch. -/
def rendered (wall : ℤ) (fraction : List Char) (zone : Option Zone) : String :=
  String.ofList ((Tm.ofInstant (wall * 1000000)).text ++
    (if fraction = [] then [] else '.' :: fraction) ++ zoneText zone)

/-- The year of a wall clock. -/
def wallYear (wall : ℤ) : ℤ := (dateOf (wall * 1000000)).year

/-- The years that have four digits, in seconds. -/
theorem wall_bounds {wall : ℤ} (h₁ : 1 ≤ wallYear wall) (h₂ : wallYear wall ≤ 9999) :
    -62135596800 ≤ wall ∧ wall < 253402300800 := by
  obtain ⟨n, hn⟩ : ∃ n, n = wall * 1000000 / microsPerDay + epochDay := ⟨_, rfl⟩
  obtain ⟨hspec, hlt⟩ := yearOfDays_spec n
  have hyear : wallYear wall = (yearOfDays n).1 := by rw [hn]; rfl
  have hnext := daysBeforeYear_succ (yearOfDays n).1
  have hfirst : daysBeforeYear 1 = 0 := by decide
  have hlast : daysBeforeYear 10000 = 3652059 := by decide
  have hlow := daysBeforeYear_le_iff.mpr (show 1 ≤ (yearOfDays n).1 by omega)
  have hhigh := daysBeforeYear_le_iff.mpr (show (yearOfDays n).1 + 1 ≤ 10000 by omega)
  unfold microsPerDay epochDay at hn
  omega

theorem zoneOffset_bounds (zone : Option Zone) : -53940 ≤ zoneOffset zone ∧ zoneOffset zone ≤ 53940 := by
  cases zone with
  | none => simp [zoneOffset]
  | some z =>
      cases z with
      | utc => simp [zoneOffset, Zone.offset]
      | hours west hh =>
          have := hh.isLt
          simp only [zoneOffset, Option.elim_some, Zone.offset]
          split <;> omega
      | hoursMinutes west hh mm =>
          have := hh.isLt
          have := mm.isLt
          simp only [zoneOffset, Option.elim_some, Zone.offset]
          split <;> omega

/-- **Reading undoes printing**: the text of an instant's wall clock is read as the second the
instant lies in. -/
theorem parseTimestamp_rendered (t : ℚ) (zone : Option Zone) {fraction : List Char} {wall : ℤ}
    (hfraction : Digits fraction) (hwall : wall = ⌊t + zoneOffset zone⌋)
    (hyear : 1 ≤ wallYear wall ∧ wallYear wall ≤ 9999) :
    ∃ out, parseTimestamp (rendered wall fraction zone) = some out ∧
      out.seconds.toInt = ⌊t⌋ ∧ out.nanos = 0 := by
  have hfloor : wall - zoneOffset zone = ⌊t⌋ := by
    rw [hwall, Int.floor_add_intCast]
    omega
  have hsecond : timegm (Tm.ofInstant (wall * 1000000)) = wall := by
    rw [timegm_ofInstant hyear.1]
    omega
  refine ⟨_, parseTimestamp_text (inRange_ofInstant hyear.2)
    (isFraction_of_digits hfraction) zone, ?_, rfl⟩
  -- No overflow: the seconds of these years and the offsets are small.
  have hbounds := wall_bounds hyear.1 hyear.2
  have hzone := zoneOffset_bounds zone
  rw [hsecond, hfloor]
  exact Int64.toInt_ofInt_of_le (by omega) (by omega)

/-- Half a second before half past five on the first of March in India, it is still the leap
day in UTC. -/
theorem parseTimestamp_rendered_leap_day :
    ∃ out, parseTimestamp "2024-03-01 05:29:59.5+05:30" = some out ∧
      out.seconds.toInt = 1709251199 ∧ out.nanos = 0 := by
  have htext : rendered 1709270999 ['5'] (some (.hoursMinutes false 5 30)) =
      "2024-03-01 05:29:59.5+05:30" := by decide +kernel
  have hfloor : ⌊(1709251199 + 1 / 2 : ℚ)⌋ = 1709251199 := by
    rw [Int.floor_eq_iff]
    norm_num
  have hwall : 1709270999 =
      ⌊(1709251199 + 1 / 2 : ℚ) + zoneOffset (some (.hoursMinutes false 5 30))⌋ := by
    rw [Int.floor_add_intCast, hfloor]
    decide
  have hdigits : Digits ['5'] := by simp [Digits]
  have hread := parseTimestamp_rendered (1709251199 + 1 / 2) (some (.hoursMinutes false 5 30))
    hdigits hwall (by decide +kernel)
  rwa [htext, hfloor] at hread

end EvGrpc
