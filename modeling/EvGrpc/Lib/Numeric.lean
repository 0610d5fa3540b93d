import Mathlib.Algebra.Order.Floor.Ring
import Mathlib.Algebra.Order.Field.Rat
import Mathlib.Data.Int.ConditionallyCompleteOrder
import Mathlib.Data.Rat.Floor
import Mathlib.Tactic.Linarith
import Mathlib.Tactic.Ring

/-!
# Number formats

Three formats meet in a database server: the binary floating-point numbers of a
message, the decimal numbers of a column, and the integer clock of a timestamp.
Values are exact here.  A `Double` is the rational its shortest decimal text
denotes, or one of the three non-numbers; a `Numeric` is a rational or NaN.  What
the formats lose is modelled where they lose it: `Numeric.ofDouble` rounds to a
decimal scale, half away from zero, and refuses what the precision cannot hold;
`roundHalfEven` drops the digits of a clock below its resolution.

NaN absorbs addition, so a sum of `Numeric`s does not depend on the order of the
terms: `Numeric` is a commutative monoid.
-/

namespace EvGrpc.Lib

/-! ## Rounding -/

/-- The nearest integer, ties away from zero. -/
def roundHalfAway (q : ℚ) : ℤ := if 0 ≤ q then ⌊q + 1 / 2⌋ else -⌊-q + 1 / 2⌋

/-- The nearest decimal with `s` digits after the point, ties away from zero. -/
def roundTo (s : ℕ) (q : ℚ) : ℚ := roundHalfAway (q * 10 ^ s) / 10 ^ s

/-- The nearest multiple of `k`, counted in multiples, ties to the even one. -/
def roundHalfEven (n k : ℤ) : ℤ :=
  if 2 * (n % k) < k then n / k
  else if k < 2 * (n % k) then n / k + 1
  else if n / k % 2 = 0 then n / k else n / k + 1

/-- A value that is a multiple of the resolution is not changed. -/
theorem roundHalfEven_mul (n k : ℤ) (hk : 0 < k) : roundHalfEven (k * n) k = n := by
  simp [roundHalfEven, hk, hk.ne']

theorem roundHalfAway_mono : Monotone roundHalfAway := by
  intro p q h
  unfold roundHalfAway
  split_ifs with hp hq
  · exact Int.floor_mono (by linarith)
  · linarith
  · have h1 : 0 ≤ ⌊-p + 1 / 2⌋ := Int.floor_nonneg.mpr (by linarith)
    have h2 : 0 ≤ ⌊q + 1 / 2⌋ := Int.floor_nonneg.mpr (by linarith)
    omega
  · exact neg_le_neg (Int.floor_mono (by linarith))

theorem roundTo_mono (s : ℕ) : Monotone (roundTo s) := by
  intro p q h
  unfold roundTo
  have hround : roundHalfAway (p * 10 ^ s) ≤ roundHalfAway (q * 10 ^ s) :=
    roundHalfAway_mono (by gcongr)
  gcongr

/-- The rounded value is the quotient or its successor. -/
theorem roundHalfEven_bounds (n k : ℤ) :
    n / k ≤ roundHalfEven n k ∧ roundHalfEven n k ≤ n / k + 1 := by
  unfold roundHalfEven
  split_ifs <;> omega

theorem roundHalfEven_mono {k : ℤ} (hk : 0 < k) : Monotone (roundHalfEven · k) := by
  intro n m h
  change roundHalfEven n k ≤ roundHalfEven m k
  have hdiv : n / k ≤ m / k := Int.ediv_le_ediv hk h
  rcases hdiv.lt_or_eq with hlt | heq
  · have hn := roundHalfEven_bounds n k
    have hm := roundHalfEven_bounds m k
    omega
  · -- With equal quotients the remainders decide, and they are in order.
    have hmod : n % k ≤ m % k := by
      have hn := Int.mul_ediv_add_emod n k
      have hm := Int.mul_ediv_add_emod m k
      rw [heq] at hn
      omega
    unfold roundHalfEven
    rw [heq]
    split_ifs <;> omega

/-! ## Floating-point numbers of a message -/

/-- A floating-point number: a finite value or one of the three others. -/
inductive Double
  | fin (q : ℚ)
  | nan
  | posInf
  | negInf
  deriving DecidableEq

namespace Double

/-- The comparison `a < b`; false as soon as one side is NaN. -/
def lt : Double → Double → Bool
  | .nan, _ | _, .nan => false
  | _, .negInf | .posInf, _ => false
  | .negInf, _ | _, .posInf => true
  | .fin a, .fin b => decide (a < b)

/-- The comparison `a <= b`; false as soon as one side is NaN. -/
def le : Double → Double → Bool
  | .nan, _ | _, .nan => false
  | .negInf, _ | _, .posInf => true
  | _, .negInf | .posInf, _ => false
  | .fin a, .fin b => decide (a ≤ b)

instance (n : ℕ) : OfNat Double n := ⟨.fin n⟩

/-- `b > 0 ? a / b : 0.0` -/
def ratio (a b : Double) : Double :=
  match a, b with
  | .fin p, .fin q => if 0 < q then .fin (p / q) else .fin 0
  | x, .fin q => if 0 < q then x else .fin 0
  | .fin _, .posInf => .fin 0
  | _, .posInf => .nan
  | _, _ => .fin 0

/-- A number with `s` digits after the point. -/
def rounded (s : ℕ) : Double → Double
  | .fin q => .fin (roundTo s q)
  | x => x

/-- Multiplication by a positive integer. -/
def scale (n : ℕ) (a : Double) : Double :=
  match a with
  | .fin q => .fin (q * n)
  | x => x

end Double

/-! ## Decimal numbers of a column -/

/-- A decimal number of arbitrary precision, or NaN. -/
inductive Numeric
  | num (q : ℚ)
  | nan
  deriving DecidableEq

namespace Numeric

/-- Addition; NaN absorbs. -/
def add : Numeric → Numeric → Numeric
  | .num a, .num b => .num (a + b)
  | _, _ => .nan

instance : Zero Numeric := ⟨.num 0⟩
instance : Add Numeric := ⟨add⟩

@[simp] theorem num_add_num (a b : ℚ) : (num a + num b : Numeric) = num (a + b) := rfl
@[simp] theorem nan_add (a : Numeric) : nan + a = nan := by cases a <;> rfl
@[simp] theorem add_nan (a : Numeric) : a + nan = nan := by cases a <;> rfl
theorem zero_def : (0 : Numeric) = num 0 := rfl

instance : AddCommMonoid Numeric where
  add_assoc a b c := by cases a <;> cases b <;> cases c <;> simp [add_assoc]
  zero_add a := by cases a <;> simp [zero_def]
  add_zero a := by cases a <;> simp [zero_def]
  add_comm a b := by cases a <;> cases b <;> simp [add_comm]
  nsmul := nsmulRec

/-- The number is greater than zero; NaN is not. -/
def Pos : Numeric → Prop
  | .num q => 0 < q
  | .nan => False

instance : DecidablePred Pos
  | .num q => inferInstanceAs (Decidable (0 < q))
  | .nan => inferInstanceAs (Decidable False)

/-- The order of decimal numbers: NaN is greater than every number. -/
def le : Numeric → Numeric → Bool
  | .num a, .num b => decide (a ≤ b)
  | _, .nan => true
  | .nan, .num _ => false

theorem le_trans {a b c : Numeric} (hab : le a b = true) (hbc : le b c = true) :
    le a c = true := by
  cases a <;> cases b <;> cases c <;> simp_all [le]
  exact hab.trans hbc

theorem le_total (a b : Numeric) : (le a b || le b a) = true := by
  cases a <;> cases b <;> simp [le]
  exact Rat.le_total

/-- Half of a number. -/
def half : Numeric → Numeric
  | .num a => .num (a / 2)
  | .nan => .nan

/-- Store a floating-point number in a column of precision `p` and scale `s`:
rounded to the scale, refused when it does not fit the precision.  NaN fits any
column, an infinity fits none. -/
def ofDouble (p s : ℕ) : Double → Option Numeric
  | .fin q => if |roundTo s q| < 10 ^ (p - s) then some (.num (roundTo s q)) else none
  | .nan => some .nan
  | .posInf | .negInf => none

/-- Read a decimal as a floating-point number. -/
def toDouble : Numeric → Double
  | .num q => .fin q
  | .nan => .nan

@[simp] theorem toDouble_num (q : ℚ) : (num q).toDouble = .fin q := rfl

theorem toDouble_injective : Function.Injective toDouble := by
  intro a b h
  cases a <;> cases b <;> simp_all [toDouble]

/-- What was stored is the rounded value. -/
theorem ofDouble_eq_some {p s : ℕ} {d : Double} {x : Numeric} (h : ofDouble p s d = some x) :
    (∃ q, d = .fin q ∧ x = .num (roundTo s q)) ∨ (d = .nan ∧ x = .nan) := by
  cases d with
  | fin q =>
      simp only [ofDouble] at h
      split at h
      · exact .inl ⟨q, rfl, by simpa using h.symm⟩
      · cases h
  | nan => exact .inr ⟨rfl, by simpa [ofDouble] using h.symm⟩
  | posInf => cases h
  | negInf => cases h

end Numeric

end EvGrpc.Lib
