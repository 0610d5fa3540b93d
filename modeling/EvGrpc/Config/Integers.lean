import EvGrpc.Config.Checks

/-!
# The integers of a configuration

Each range is checked after `get<int>()`, which keeps the low 32 bits of what the file says.
`integer_exact_iff` says for which numbers this makes a difference.
-/

namespace EvGrpc

open Lib

/-- In a configuration with nothing else wrong, the number is accepted exactly when it lies
in the range of its field, and then it is the field's value. -/
def IntegerExact (f : IntField) (v : ℤ) : Prop :=
  ∀ (host : Host) (path : String) (j x : Json), host.Holds path j →
    field? j f.part f.key = some x → x.integer? = some v →
    (∀ c : Check, c ≠ .int f → c.errors host j = []) →
    ((∃ cfg, loadSchema host path = .ok cfg) ↔ 1 ≤ v ∧ v ≤ f.hi) ∧
      ∀ cfg, loadSchema host path = .ok cfg → (f.get cfg).toInt = v

/-! ## One check -/

section Check
variable {field : String} {wrong : Int32 → Option String} {d : Int32} {x : Json} {v : ℤ}

theorem checkInt_errors (hx : x.integer? = some v) :
    (checkInt field wrong d (some x)).errors = (wrong (Int32.ofInt v)).toList := by
  simp only [checkInt, hx]
  cases wrong (Int32.ofInt v) <;> rfl

theorem checkInt_value (hx : x.integer? = some v) (h : wrong (Int32.ofInt v) = none) :
    (checkInt field wrong d (some x)).value = Int32.ofInt v := by
  simp only [checkInt, hx, h]

theorem atMost_eq_none_iff {hi : ℤ} {n : Int32} :
    atMost field hi n = none ↔ 1 ≤ n.toInt ∧ n.toInt ≤ hi := by
  unfold atMost
  split_ifs with h₁ h₂
  · simp only [false_iff]
    omega
  · simp only [false_iff]
    omega
  · simp only [true_iff]
    omega

theorem wrongPort_eq_none_iff {n : Int32} :
    wrongPort n = none ↔ 1 ≤ n.toInt ∧ n.toInt ≤ 65535 := by
  unfold wrongPort
  split_ifs with h
  · simp only [false_iff]
    omega
  · simp only [true_iff]
    omega

theorem wrongMaxFiles_eq_none_iff {n : Int32} :
    wrongMaxFiles n = none ↔ 1 ≤ n.toInt ∧ n.toInt ≤ 100 := by
  unfold wrongMaxFiles
  split_ifs with h₁ h₂
  · simp only [false_iff]
    omega
  · simp only [false_iff]
    omega
  · simp only [true_iff]
    omega

end Check

namespace IntField
variable {f : IntField} {x : Json} {v : ℤ} {host : Host} {j : Json}

/-- What the six checks have in common. -/
theorem check_eq (f : IntField) : ∃ wrong d, f.check = checkInt (f.part.name ++ "." ++ f.key) wrong d ∧
    ∀ n : Int32, wrong n = none ↔ 1 ≤ n.toInt ∧ n.toInt ≤ f.hi := by
  cases f with
  | jwksCacheTtl => exact ⟨_, _, rfl, fun _ => atMost_eq_none_iff⟩
  | connectTimeout => exact ⟨_, _, rfl, fun _ => atMost_eq_none_iff⟩
  | readTimeout => exact ⟨_, _, rfl, fun _ => atMost_eq_none_iff⟩
  | port => exact ⟨_, _, rfl, fun _ => wrongPort_eq_none_iff⟩
  | maxSizeMb => exact ⟨_, _, rfl, fun _ => atMost_eq_none_iff⟩
  | maxFiles => exact ⟨_, _, rfl, fun _ => wrongMaxFiles_eq_none_iff⟩

theorem hi_bounds (f : IntField) : 1 ≤ f.hi ∧ f.hi < 2147483648 := by
  cases f <;> decide

/-- What the check compares with the range. -/
theorem toInt_ofInt_mem_iff (f : IntField) (v : ℤ) :
    (1 ≤ (Int32.ofInt v).toInt ∧ (Int32.ofInt v).toInt ≤ f.hi) ↔
      1 ≤ v % 4294967296 ∧ v % 4294967296 ≤ f.hi := by
  have hhi := f.hi_bounds
  have hsize : Int32.size = 4294967296 := rfl
  rw [Int32.toInt_ofInt, hsize, Int.bmod_def]
  split <;> omega

theorem errors_eq_nil_iff (hx : x.integer? = some v) :
    (f.check (some x)).errors = [] ↔ 1 ≤ v % 4294967296 ∧ v % 4294967296 ≤ f.hi := by
  obtain ⟨wrong, d, hcheck, hwrong⟩ := f.check_eq
  rw [hcheck, checkInt_errors hx, Option.toList_eq_nil_iff, hwrong, toInt_ofInt_mem_iff]

theorem value_eq (hx : x.integer? = some v) (h : (f.check (some x)).errors = []) :
    (f.check (some x)).value = Int32.ofInt v := by
  obtain ⟨wrong, d, hcheck, -⟩ := f.check_eq
  rw [hcheck, checkInt_errors hx, Option.toList_eq_nil_iff] at h
  rw [hcheck, checkInt_value hx h]

/-- The field of the configuration is what its check gives. -/
theorem get_checkSchema {y : Json} (hy : j.member? f.part.name = some y) (hobject : y.isObject = true) :
    f.get (checkSchema host j).value = (f.check (y.member? f.key)).value := by
  cases f with
  | jwksCacheTtl | connectTimeout | readTimeout =>
      have hy : j.member? "oauth" = some y := hy
      simp only [get, checkSchema, checkOAuth, checkSection, hy, hobject]
      rfl
  | port =>
      have hy : j.member? "grpc" = some y := hy
      simp only [get, checkSchema, checkGrpc, checkSection, hy, hobject]
      rfl
  | maxSizeMb | maxFiles =>
      have hy : j.member? "log" = some y := hy
      simp only [get, checkSchema, checkLog, checkSection, hy, hobject]
      rfl

end IntField

/-! ## The whole configuration -/

section Load
variable {f : IntField} {x : Json} {v : ℤ} {host : Host} {path : String} {j : Json}

/-- With nothing else wrong, it is the low 32 bits that decide. -/
theorem loadSchema_int_iff (hholds : host.Holds path j) (hfield : field? j f.part f.key = some x)
    (hx : x.integer? = some v) (hothers : ∀ c : Check, c ≠ .int f → c.errors host j = []) :
    ((∃ cfg, loadSchema host path = .ok cfg) ↔
      1 ≤ v % 4294967296 ∧ v % 4294967296 ≤ f.hi) ∧
    ∀ cfg, loadSchema host path = .ok cfg → f.get cfg = Int32.ofInt v := by
  obtain ⟨y, hy, hmember⟩ := Option.bind_eq_some_iff.mp hfield
  have hobject := Json.isObject_of_member? hmember
  have herrors : (Check.int f).errors host j = (f.check (some x)).errors := by
    simp only [Check.errors, inPart, part?_of_some hy, hobject, if_true, Option.elim_some, hmember]
  have hall : (∀ c : Check, c.errors host j = []) ↔ (f.check (some x)).errors = [] := by
    rw [← herrors]
    constructor
    · intro h
      exact h _
    · intro h c
      by_cases hc : c = .int f
      · rw [hc, h]
      · exact hothers c hc
  constructor
  · rw [← IntField.errors_eq_nil_iff hx, ← hall]
    constructor
    · rintro ⟨cfg, hcfg⟩
      exact ((loadSchema_ok_iff hholds).mp hcfg).1
    · intro h
      exact ⟨_, (loadSchema_ok_iff hholds).mpr ⟨h, rfl⟩⟩
  · intro cfg hcfg
    obtain ⟨h, rfl⟩ := (loadSchema_ok_iff hholds).mp hcfg
    rw [IntField.get_checkSchema hy hobject, hmember]
    exact IntField.value_eq hx (hall.mp h)

end Load

/-- A host that reads one configuration from every file. -/
def hostWith (j : Json) (databaseUrl : Option String) : Host where
  readFile path := if path = "" then none else some ""
  parse _ := .ok j
  databaseUrl
  writableDir _ := false
  readFile_empty := rfl

theorem holds_hostWith {j : Json} (databaseUrl : Option String) (hj : j.isObject = true)
    {path : String} (hpath : path ≠ "") : (hostWith j databaseUrl).Holds path j :=
  ⟨⟨"", if_neg hpath, rfl⟩, hj⟩

/-- A configuration with just what is required, and one integer. -/
def configWith (f : IntField) (x : Json) : Json :=
  .object
    [("database", .object [("url", .string "postgresql://u@h/d")]),
      ("oauth", .object ([("issuer_url", .string "https://a"), ("audience", .string "x")] ++
        if f.part = .oauth then [(f.key, x)] else [])),
      ("grpc", .object (if f.part = .grpc then [(f.key, x)] else [])),
      ("log", .object (if f.part = .log then [(f.key, x)] else []))]

theorem field?_configWith (f : IntField) (x : Json) : field? (configWith f x) f.part f.key = some x := by
  cases f <;> rfl

theorem errors_configWith (f : IntField) (x : Json) (databaseUrl : Option String) {c : Check}
    (hc : c ≠ .int f) : c.errors (hostWith (configWith f x) databaseUrl) (configWith f x) = [] := by
  cases c with
  | object p => cases f <;> cases p <;> rfl
  | unknownKeys p => cases f <;> cases p <;> rfl
  | int g => cases f <;> cases g <;> first | rfl | exact absurd rfl hc
  | issuerUrl =>
      have hissuer : (checkIssuerUrl (some (.string "https://a"))).errors = [] := by decide
      cases f <;> exact hissuer
  | _ => cases f <;> rfl

/-- **Integers are checked exactly** unless the number is out of range and its low 32 bits are
in. -/
theorem integer_exact_iff (f : IntField) (v : ℤ) : IntegerExact f v ↔
    (1 ≤ v ∧ v ≤ f.hi) ∨ ¬ (1 ≤ v % 4294967296 ∧ v % 4294967296 ≤ f.hi) := by
  have hhi := f.hi_bounds
  constructor
  · intro hexact
    have hholds := holds_hostWith (j := configWith f (.integer v)) none rfl
      (show "config.json" ≠ "" by decide)
    have hothers := fun c hc => errors_configWith f (.integer v) none (c := c) hc
    have hfield := field?_configWith f (.integer v)
    have hrange := (hexact _ _ _ _ hholds hfield rfl hothers).1
    rw [(loadSchema_int_iff hholds hfield rfl hothers).1] at hrange
    by_cases hin : 1 ≤ v ∧ v ≤ f.hi
    · exact .inl hin
    · exact .inr fun hlow => hin (hrange.mp hlow)
  · intro hv host path j x hholds hfield hx hothers
    obtain ⟨hload, hvalue⟩ := loadSchema_int_iff hholds hfield hx hothers
    have hsame : (1 ≤ v % 4294967296 ∧ v % 4294967296 ≤ f.hi) ↔ 1 ≤ v ∧ v ≤ f.hi := by omega
    rw [hload, hsame]
    refine ⟨Iff.rfl, ?_⟩
    intro cfg hcfg
    have hin := hsame.mp (hload.mp ⟨cfg, hcfg⟩)
    rw [hvalue cfg hcfg]
    exact Int32.toInt_ofInt_of_le (by omega) (by omega)

/-- The port 4294967376 is accepted, and is port 80. -/
theorem port_wraps :
    (∃ cfg, loadSchema (hostWith (configWith .port (.unsigned 4294967376)) none) "config.json" =
      .ok cfg ∧ cfg.grpc.port = 80) ∧ ¬ IntegerExact .port 4294967376 := by
  have hholds := holds_hostWith (j := configWith .port (.unsigned 4294967376)) none rfl
    (show "config.json" ≠ "" by decide)
  have hfield := field?_configWith .port (.unsigned 4294967376)
  have hothers := fun c hc => errors_configWith .port (.unsigned 4294967376) none (c := c) hc
  obtain ⟨hload, hvalue⟩ := loadSchema_int_iff hholds hfield rfl hothers
  obtain ⟨cfg, hcfg⟩ := hload.mpr (by decide)
  refine ⟨⟨cfg, hcfg, hvalue cfg hcfg⟩, ?_⟩
  intro hexact
  have hrange := (hexact _ _ _ _ hholds hfield rfl hothers).1.mp ⟨cfg, hcfg⟩
  exact absurd hrange.2 (by decide)

end EvGrpc
