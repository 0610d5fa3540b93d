import EvGrpc.Grpc
import EvGrpc.Lib.Calendar
import EvGrpc.Lib.Decimal
import EvGrpc.Lib.Numeric
import Mathlib.Data.List.Lex
import Mathlib.Order.Fin.Basic

/-!
# Values on both sides of a query

What the server binds to a statement (`Param`) and what the columns hold.  A text
parameter reaches PostgreSQL as the bound string up to its first NUL, for libpq sends it
as a C string (`received`), an integer or floating-point
parameter as its decimal text, and a protobuf timestamp as the text
`TimeUtil::ToString` prints, which denotes the exact instant.  The coercions below
are PostgreSQL's input functions for the column types of `sql/001_initial.sql`: a
value a column cannot hold is a `data_exception`.

## Main definitions

* `received` — what PostgreSQL gets of a string.
* `Uuid`, `uuidIn`, `uuidOut` — the `UUID` type, its input and its text.
* `dateIn`, `dateOut` — the `DATE` type's input and text.
* `Timestamp`, `Timestamp.instant?` — protobuf timestamps and the microsecond a
  `TIMESTAMPTZ` column keeps of one.
* `Param` and its coercions.
-/

namespace EvGrpc

open Lib

/-! ## Texts -/

/-- The text that arrives when a string is bound to a statement. -/
def received (s : String) : String := String.ofList (cstr s)

@[simp] theorem received_empty : received "" = "" := rfl

/-- A string without NUL arrives as it is. -/
theorem received_eq_self_iff {s : String} : received s = s ↔ '\x00' ∉ s.toList := by
  rw [← cstr_eq_toList_iff, received, ← String.toList_inj, String.toList_ofList]

/-- A string that arrives as the empty text although it is not empty. -/
def startsWithNul (s : String) : Bool := decide (s.toList.head? = some '\x00')

theorem received_eq_empty_iff {s : String} :
    received s = "" ↔ s = "" ∨ startsWithNul s = true := by
  rw [received, cstr, String.ofList_eq_empty_iff, ← String.toList_eq_nil_iff, startsWithNul]
  cases s.toList with
  | nil => simp
  | cons c cs => simp [List.takeWhile_cons]

@[simp] theorem cstr_received (s : String) : cstr (received s) = cstr s := by
  have hnul : '\x00' ∉ cstr s := by
    intro h
    simpa using List.mem_takeWhile_imp h
  have hself := cstr_eq_toList_iff.mpr (show '\x00' ∉ (received s).toList by simpa [received])
  rw [hself, received, String.toList_ofList]

/-! ## UUIDs -/

/-- There is a byte 0. -/
instance byteNeZero : NeZero 256 := ⟨by decide⟩

/-- A `UUID`: sixteen bytes. -/
structure Uuid where
  bytes : List (Fin 256)
  size : bytes.length = 16
  deriving DecidableEq

namespace Uuid

theorem bytes_injective : Function.Injective bytes := by
  intro a b h
  cases a; cases b
  simpa using h

/-- UUIDs are ordered by their bytes. -/
instance : LinearOrder Uuid := LinearOrder.lift' bytes bytes_injective

/-- The UUID whose bytes are all 0. -/
protected def nil : Uuid := ⟨List.replicate 16 0, List.length_replicate⟩

end Uuid

/-- A lower-case hexadecimal digit. -/
def hexDigit (n : ℕ) : Char := ("0123456789abcdef".toList).getD n '0'

/-- The value of a hexadecimal digit in either case. -/
def hexVal (c : Char) : Option ℕ :=
  if '0' ≤ c ∧ c ≤ '9' then some (c.toNat - '0'.toNat)
  else if 'a' ≤ c ∧ c ≤ 'f' then some (c.toNat - 'a'.toNat + 10)
  else if 'A' ≤ c ∧ c ≤ 'F' then some (c.toNat - 'A'.toNat + 10)
  else none

/-- The text of the bytes from position `i` on, with the hyphens of the standard
form. -/
def uuidOutFrom : ℕ → List (Fin 256) → List Char
  | _, [] => []
  | i, b :: bs =>
      hexDigit (b.val / 16) :: hexDigit (b.val % 16) ::
        ((if i = 3 ∨ i = 5 ∨ i = 7 ∨ i = 9 then ['-'] else []) ++ uuidOutFrom (i + 1) bs)

/-- `uuid_out`, and what `NewUuid` prints: lower case, 8-4-4-4-12. -/
def uuidOut (u : Uuid) : String := String.ofList (uuidOutFrom 0 u.bytes)

/-- The reading loop of `uuid_in`: `n` bytes from position `i` on, with a hyphen
allowed after every second byte except the last. -/
def uuidInFrom : ℕ → ℕ → List Char → Option (List (Fin 256) × List Char)
  | _, 0, cs => some ([], cs)
  | i, n + 1, c₁ :: c₂ :: cs => do
      let h ← hexVal c₁
      let l ← hexVal c₂
      let cs := if cs.head? = some '-' ∧ i % 2 = 1 ∧ i < 15 then cs.tail else cs
      let (bs, rest) ← uuidInFrom (i + 1) n cs
      some (Fin.ofNat 256 (16 * h + l) :: bs, rest)
  | _, _ + 1, _ => none

/-- Whether the text starts with a brace, and what follows it. -/
def openBrace : List Char → Bool × List Char
  | [] => (false, [])
  | c :: cs => if c = '{' then (true, cs) else (false, c :: cs)

/-- `uuid_in` on what it gets of a string: any of the spellings PostgreSQL accepts, braces
included. -/
def uuidIn (s : String) : Option Uuid := do
  let (braces, cs) := openBrace (cstr s)
  let (bs, rest) ← uuidInFrom 0 16 cs
  if h : bs.length = 16 ∧ rest = (if braces then ['}'] else []) then some ⟨bs, h.1⟩ else none

@[simp] theorem hexVal_hexDigit : ∀ n < 16, hexVal (hexDigit n) = some n := by decide

theorem hexDigit_ne_dash : ∀ n < 16, hexDigit n ≠ '-' := by decide
theorem hexDigit_ne_brace : ∀ n < 16, hexDigit n ≠ '{' := by decide
theorem hexDigit_ne_nul : ∀ n < 16, hexDigit n ≠ '\x00' := by decide

theorem nul_notMem_uuidOutFrom (i : ℕ) (bs : List (Fin 256)) : '\x00' ∉ uuidOutFrom i bs := by
  induction bs generalizing i with
  | nil => simp [uuidOutFrom]
  | cons b bs ih =>
      have h₁ := (hexDigit_ne_nul (b.val / 16) (by omega)).symm
      have h₂ := (hexDigit_ne_nul (b.val % 16) (by omega)).symm
      simp only [uuidOutFrom, List.mem_cons, List.mem_append, not_or]
      refine ⟨h₁, h₂, ?_, ih (i + 1)⟩
      split <;> simp

theorem cstr_uuidOut (u : Uuid) : cstr (uuidOut u) = uuidOutFrom 0 u.bytes := by
  have h := nul_notMem_uuidOutFrom 0 u.bytes
  rw [cstr_eq_toList_iff.mpr (by simpa [uuidOut] using h), uuidOut, String.toList_ofList]

@[simp] theorem received_uuidOut (u : Uuid) : received (uuidOut u) = uuidOut u := by
  rw [received, cstr_uuidOut]
  rfl

/-- What does not arrive is not read. -/
@[simp] theorem uuidIn_received (s : String) : uuidIn (received s) = uuidIn s := by
  unfold uuidIn
  rw [cstr_received]

theorem head?_uuidOutFrom_ne (i : ℕ) (bs : List (Fin 256)) :
    (uuidOutFrom i bs).head? ≠ some '-' := by
  cases bs with
  | nil => simp [uuidOutFrom]
  | cons b bs =>
      have := hexDigit_ne_dash (b.val / 16) (by omega)
      simpa [uuidOutFrom] using this

/-- The reading loop reads back what was printed. -/
theorem uuidInFrom_uuidOutFrom (bs : List (Fin 256)) (i : ℕ) (h : i + bs.length = 16) :
    uuidInFrom i bs.length (uuidOutFrom i bs) = some (bs, []) := by
  induction bs generalizing i with
  | nil => rfl
  | cons b bs ih =>
      have hb : Fin.ofNat 256 (16 * (b.val / 16) + b.val % 16) = b := by
        apply Fin.ext
        simp only [Fin.val_ofNat]
        omega
      have hi : i + 1 + bs.length = 16 := by simp only [List.length_cons] at h; omega
      -- A hyphen was printed only where the loop expects one.
      have hskip : (if ((if i = 3 ∨ i = 5 ∨ i = 7 ∨ i = 9 then ['-'] else []) ++
            uuidOutFrom (i + 1) bs).head? = some '-' ∧ i % 2 = 1 ∧ i < 15
          then ((if i = 3 ∨ i = 5 ∨ i = 7 ∨ i = 9 then ['-'] else []) ++
            uuidOutFrom (i + 1) bs).tail
          else (if i = 3 ∨ i = 5 ∨ i = 7 ∨ i = 9 then ['-'] else []) ++ uuidOutFrom (i + 1) bs) =
          uuidOutFrom (i + 1) bs := by
        by_cases hdash : i = 3 ∨ i = 5 ∨ i = 7 ∨ i = 9
        · have hodd : i % 2 = 1 ∧ i < 15 := by omega
          simp [hdash, hodd]
        · simp [hdash, head?_uuidOutFrom_ne]
      simp only [uuidOutFrom, List.length_cons, uuidInFrom, hexVal_hexDigit _
        (show b.val / 16 < 16 by omega), hexVal_hexDigit _ (show b.val % 16 < 16 by omega),
        Option.bind_eq_bind, Option.bind_some, hskip, ih (i + 1) hi, hb]

/-- The text of a UUID is read back as that UUID. -/
@[simp] theorem uuidIn_uuidOut (u : Uuid) : uuidIn (uuidOut u) = some u := by
  obtain ⟨bs, hbs⟩ := u
  have hread := uuidInFrom_uuidOutFrom bs 0 (by omega)
  rw [hbs] at hread
  cases bs with
  | nil => simp at hbs
  | cons b bs =>
      have hbrace : openBrace (uuidOutFrom 0 (b :: bs)) = (false, uuidOutFrom 0 (b :: bs)) := by
        have hne := hexDigit_ne_brace (b.val / 16) (by omega)
        simp [uuidOutFrom, openBrace, hne]
      unfold uuidIn
      rw [cstr_uuidOut]
      simp [hbrace, hread, hbs]

theorem uuidOut_injective : Function.Injective uuidOut := by
  intro a b h
  have := congrArg uuidIn h
  simpa using this

theorem uuidOut_ne_empty (u : Uuid) : uuidOut u ≠ "" := by
  intro h
  have := uuidIn_uuidOut u
  rw [h] at this
  cases this

/-! ## Instants -/

/-- A `TIMESTAMPTZ` value: microseconds since the Unix epoch. -/
abbrev Instant := ℤ

/-- `google::protobuf::Timestamp` -/
structure Timestamp where
  seconds : Int64
  nanos : Int32
  deriving DecidableEq

/-- The timestamps a protobuf `Timestamp` may hold: years 0001 to 9999. -/
def Timestamp.valid (t : Timestamp) : Bool :=
  decide (-62135596800 ≤ t.seconds.toInt ∧ t.seconds.toInt ≤ 253402300799 ∧
    0 ≤ t.nanos.toInt ∧ t.nanos.toInt ≤ 999999999)

/-- The instant a `TIMESTAMPTZ` column keeps of a timestamp's text: the nearest
microsecond.  `ToString` prints no date for a timestamp outside the range. -/
def Timestamp.instant? (t : Timestamp) : Option Instant :=
  if t.valid then some (roundHalfEven (t.seconds.toInt * 1000000000 + t.nanos.toInt) 1000) else none

/-- Microseconds per day. -/
def microsPerDay : ℤ := 86400000000

/-- Days from 0001-01-01 to the Unix epoch. -/
def epochDay : ℤ := 719162

/-- The UTC calendar date of an instant. -/
def dateOf (t : Instant) : Date := Date.ofDays (t / microsPerDay + epochDay)

/-! ## Dates -/

/-- The last year of the `DATE` type. -/
def maxYear : ℤ := 5874897

/-- A date in the range of the `DATE` type. -/
def dateOfFields (y m d : ℕ) : Option Date :=
  if 1 ≤ y ∧ (y : ℤ) ≤ maxYear then Date.make y m d else none

/-- `date_in` on a text that arrives as digits and hyphens.  Runs of hyphens separate fields,
and one hyphen may end the text, but no run of two.  Three fields are year, month and day; a year and a three-digit field are a year
and a day of the year; a single run of six or more digits is read from its end, two
digits for the day and two for the month. -/
def dateIn (s : String) : Option Date :=
  let cs := cstr s
  let val := fun ds => Nat.ofDigitChars 10 ds 0
  if !(cs.head?.any Char.isDigit) || !(cs.all fun c => c.isDigit || c == '-') then none
  else if ['-', '-'] <:+ cs then none
  else
    match (cs.splitOnP (· == '-')).filter (· ≠ []) with
    | [y, m, d] => if y.length < 3 ∨ m.length = 3 then none else dateOfFields (val y) (val m) (val d)
    | [y, n] =>
        if 3 ≤ y.length ∧ n.length = 3 ∧ 1 ≤ val n ∧ val n ≤ 366 ∧ 1 ≤ val y ∧
            (val y : ℤ) ≤ maxYear then
          some (Date.ofDays (daysBeforeYear (val y) + (val n - 1 : ℕ)))
        else none
    | [n] =>
        if '-' ∈ cs ∨ n.length < 6 then none
        else dateOfFields (val (n.take (n.length - 4))) (val ((n.drop (n.length - 4)).take 2))
          (val (n.drop (n.length - 2)))
    | _ => none

/-- `date_out` in the ISO style: four digits or more for the year, and a suffix for
the years before year 1. -/
def dateOut (x : Date) : String :=
  if 1 ≤ x.year then
    String.ofList (padded 4 x.year ++ '-' :: padded 2 x.month ++ '-' :: padded 2 x.day)
  else
    String.ofList (padded 4 (1 - x.year) ++ '-' :: padded 2 x.month ++ '-' :: padded 2 x.day ++
      [' ', 'B', 'C'])

/-! ## Parameters -/

/-- A bound parameter. -/
inductive Param
  | null
  | text (s : String)
  | int (n : Int32)
  | double (d : Double)
  | time (t : Timestamp)
  deriving DecidableEq

/-- What a `VARCHAR(n)` keeps of a text: too long a text is refused unless the excess is
spaces, which are cut. -/
def varcharIn (n : ℕ) (s : String) : Option String :=
  if s.length ≤ n then some s
  else if (s.toList.drop n).all (· == ' ') then some (String.ofList (s.toList.take n))
  else none

/-- SQLSTATE class 22. -/
def dataException (what : String) : Exn := ⟨.dataException, what⟩

/-- `NOT NULL` on a column. -/
def notNull {α : Type} (column : String) : Option α → Except Exn α
  | some a => .ok a
  | none => .error ⟨.notNullViolation, "null value in column \"" ++ column ++ "\""⟩

namespace Param

/-- Input of a `UUID`. -/
def asUuid : Param → Except Exn (Option Uuid)
  | .null => .ok none
  | .text s =>
      match uuidIn s with
      | some u => .ok (some u)
      | none =>
          .error (dataException ("invalid input syntax for type uuid: \"" ++ received s ++ "\""))
  | _ => .error (dataException "invalid input syntax for type uuid")

/-- Input of an `INT`. -/
def asInt : Param → Except Exn (Option Int32)
  | .null => .ok none
  | .int n => .ok (some n)
  | _ => .error (dataException "invalid input syntax for type integer")

/-- Input of a `DECIMAL(p,s)`. -/
def asDecimal (p s : ℕ) : Param → Except Exn (Option Numeric)
  | .null => .ok none
  | .double d =>
      match Numeric.ofDouble p s d with
      | some x => .ok (some x)
      | none => .error (dataException "numeric field overflow")
  | _ => .error (dataException "invalid input syntax for type numeric")

/-- Input of a `TIMESTAMPTZ`. -/
def asInstant : Param → Except Exn (Option Instant)
  | .null => .ok none
  | .time t =>
      match t.instant? with
      | some i => .ok (some i)
      | none => .error (dataException "invalid input syntax for type timestamp with time zone")
  | _ => .error (dataException "invalid input syntax for type timestamp with time zone")

/-- The cast `::date`. -/
def asDate : Param → Except Exn (Option Date)
  | .null => .ok none
  | .text s =>
      match dateIn s with
      | some d => .ok (some d)
      | none =>
          .error (dataException ("invalid input syntax for type date: \"" ++ received s ++ "\""))
  | _ => .error (dataException "invalid input syntax for type date")

/-- Input of a `VARCHAR(n)`. -/
def asVarchar (n : ℕ) : Param → Except Exn (Option String)
  | .null => .ok none
  | .text s =>
      match varcharIn n (received s) with
      | some x => .ok (some x)
      | none => .error (dataException "value too long for type character varying")
  | _ => .error (dataException "value too long for type character varying")

/-- Input of a `TEXT`. -/
def asText : Param → Except Exn (Option String)
  | .null => .ok none
  | .text s => .ok (some (received s))
  | _ => .error (dataException "invalid text")

end Param

theorem asUuid_text {s : String} {u : Uuid} (h : (Param.text s).asUuid = .ok (some u)) :
    uuidIn s = some u := by
  simp only [Param.asUuid] at h
  split at h
  · rename_i v hv
    cases h
    exact hv
  · cases h

/-- What a column keeps of a text. -/
theorem asVarchar_text {n : ℕ} {s x : String} (h : (Param.text s).asVarchar n = .ok (some x)) :
    varcharIn n (received s) = some x := by
  simp only [Param.asVarchar] at h
  split at h
  · rename_i y hy
    cases h
    exact hy
  · cases h

theorem asUuid_uuidOut (u : Uuid) : (Param.text (uuidOut u)).asUuid = .ok (some u) := by
  simp [Param.asUuid]

/-- A stored timestamp was in range, and the nearest microsecond is what is stored. -/
theorem instant?_eq_some {t : Timestamp} {i : ℤ} (h : t.instant? = some i) :
    t.valid = true ∧
      roundHalfEven (t.seconds.toInt * 1000000000 + t.nanos.toInt) 1000 = i := by
  unfold Timestamp.instant? at h
  split at h
  · rename_i hvalid
    exact ⟨hvalid, by simpa using h⟩
  · cases h

/-- What a column keeps of a timestamp. -/
theorem asInstant_time {t : Timestamp} {x : Instant}
    (h : (Param.time t).asInstant = .ok (some x)) : t.instant? = some x := by
  simp only [Param.asInstant] at h
  split at h
  · rename_i i hi
    cases h
    exact hi
  · cases h

/-- A stored decimal is the rounded value of a finite number, or NaN. -/
theorem asDecimal_double {p s : ℕ} {d : Double} {x : Numeric}
    (h : (Param.double d).asDecimal p s = .ok (some x)) :
    (∃ q, d = .fin q ∧ x = .num (roundTo s q)) ∨ (d = .nan ∧ x = .nan) := by
  simp only [Param.asDecimal] at h
  split at h
  · rename_i y hy
    cases h
    exact Numeric.ofDouble_eq_some hy
  · cases h

end EvGrpc
