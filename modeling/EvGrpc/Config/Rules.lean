import EvGrpc.Config.DatabaseUrl
import Mathlib.Data.List.Forall2

/-!
# The rules of the field reference

What is wrong with a configuration, by the field reference and not by the code: `violations`
lists the rules that are broken, with numbers as they stand in the file.  `reports_errors`
compares it with the errors of `LoadSchema`: each is the report of one violation, and only
the violations of `Overlooked` have none.
-/

namespace EvGrpc

open Lib

/-! ## Violations -/

inductive Rule
  | missing | wrongType | outOfRange | wrongScheme | wrongValue | notWritable | unknownKey
  deriving DecidableEq

/-- A broken rule. -/
structure Violation where
  /-- The path of the field or the section. -/
  path : String
  rule : Rule
  /-- What a report of it repeats of the file or of the environment; it is shown up to its
  first NUL. -/
  quoted : String := ""
  deriving DecidableEq

/-- The URL that is selected has the scheme of the database. -/
def urlViolations (url : String) : List Violation :=
  if url = "" then [{ path := "database.url", rule := .missing }]
  else if IsDatabaseUrl url then []
  else [{ path := "database.url", rule := .wrongScheme, quoted := url }]

/-- A required text that is not empty. -/
def textViolations (path : String) : Option Json → List Violation
  | none => [{ path, rule := .missing }]
  | some x =>
      match x.string? with
      | none => [{ path, rule := .wrongType }]
      | some s => if s = "" then [{ path, rule := .wrongType }] else []

def issuerUrlViolations (x : Option Json) : List Violation :=
  match x.bind Json.string? with
  | none => textViolations "oauth.issuer_url" x
  | some s =>
      if s ≠ "" ∧ isHttpUrl s = false then
        [{ path := "oauth.issuer_url", rule := .wrongScheme, quoted := s }]
      else textViolations "oauth.issuer_url" x

def levelViolations : Option Json → List Violation
  | none => []
  | some x =>
      match x.string? with
      | none => [{ path := "log.level", rule := .wrongType }]
      | some s =>
          if s ∈ kValidLogLevels then []
          else [{ path := "log.level", rule := .wrongValue, quoted := s }]

def fileViolations (host : Host) : Option Json → List Violation
  | none => []
  | some x =>
      match x.string? with
      | none => [{ path := "log.file", rule := .wrongType }]
      | some s =>
          if s = "" ∨ isWritableDir host (logDir s) = true then []
          else [{ path := "log.file", rule := .notWritable, quoted := trimBreaks (logDir s) }]

def IntField.path (f : IntField) : String := f.part.name ++ "." ++ f.key

/-- The number of the file is in range, all of it. -/
def IntField.violations (f : IntField) : Option Json → List Violation
  | none => []
  | some x =>
      match x.integer? with
      | none => [{ path := f.path, rule := .wrongType }]
      | some v => if 1 ≤ v ∧ v ≤ f.hi then [] else [{ path := f.path, rule := .outOfRange }]

/-- The keys of a section that are not among those allowed. -/
def keyViolations (p : Part) (x : Json) : List Violation :=
  (x.members.filter fun m => !p.allowed.contains m.1).map fun m =>
    { path := p.name, rule := .unknownKey, quoted := m.1 }

/-- The rules about what a check looks at. -/
def Check.violations (host : Host) (j : Json) : Check → List Violation
  | object p =>
      match j.member? p.name with
      | none => if p = .database then [] else [{ path := p.name, rule := .missing }]
      | some x => if !x.isObject then [{ path := p.name, rule := .wrongType }] else []
  | unknownKeys p => (part? j p).elim [] (keyViolations p)
  | databaseUrl =>
      match j.member? "database" with
      | none => urlViolations (selectedUrl host j)
      | some _ => (part? j .database).elim [] fun db =>
          (if (db.member? "url").any (·.string?.isNone) then
            [{ path := "database.url", rule := .wrongType }] else []) ++
          urlViolations (selectedUrl host j)
  | issuerUrl => (part? j .oauth).elim [] fun oa => issuerUrlViolations (oa.member? "issuer_url")
  | audience => (part? j .oauth).elim [] fun oa => textViolations "oauth.audience" (oa.member? "audience")
  | level => (part? j .log).elim [] fun l => levelViolations (l.member? "level")
  | file => (part? j .log).elim [] fun l => fileViolations host (l.member? "file")
  | int f => (part? j f.part).elim [] fun x => f.violations (x.member? f.key)

/-- The members of the top level that are not sections. -/
def unknownSections (j : Json) : List Violation :=
  (j.members.filter fun m => m.1 ∉ ["database", "grpc", "log", "oauth"]).map fun m =>
    { path := m.1, rule := .unknownKey }

/-- All rules that a configuration breaks. -/
def violations (host : Host) (j : Json) : List Violation :=
  unknownSections j ++ allChecks.flatMap (Check.violations host j)

/-! ## What is not reported, or under another name -/

/-- What a check lets pass: an unchecked variable, and a number whose low 32 bits are in
range. -/
def Check.Overlooked (host : Host) (j : Json) : Check → Prop
  | databaseUrl => j.member? "database" = none ∧ dbUrlEnv host ≠ "" ∧ ¬ IsDatabaseUrl (dbUrlEnv host)
  | int f => ∃ x v, field? j f.part f.key = some x ∧ x.integer? = some v ∧
      ¬ (1 ≤ v ∧ v ≤ f.hi) ∧ 1 ≤ v % 4294967296 ∧ v % 4294967296 ≤ f.hi
  | _ => False

/-- Something is let pass, or there is an unknown key at the top level. -/
def Overlooked (host : Host) (j : Json) : Prop :=
  ¬ OnlySections j ∨ ∃ c : Check, c.Overlooked host j

/-- `log.max_files` has low 32 bits that are not positive: its error names `log.files`. -/
def Mislabelled (j : Json) : Prop :=
  ∃ x v, field? j .log "max_files" = some x ∧ x.integer? = some v ∧
    (v % 4294967296 = 0 ∨ 2147483648 ≤ v % 4294967296)

/-! ## Messages -/

section Messages
variable {a b e path : String}

/-- A text without line breaks, and without a NUL. -/
def Unbroken (s : String) : Prop := '\n' ∉ s.toList ∧ '\x00' ∉ s.toList

instance (s : String) : Decidable (Unbroken s) :=
  inferInstanceAs (Decidable ('\n' ∉ s.toList ∧ '\x00' ∉ s.toList))

theorem Unbroken.append (ha : Unbroken a) (hb : Unbroken b) : Unbroken (a ++ b) := by
  simp [Unbroken, ha.1, ha.2, hb.1, hb.2]

theorem Unbroken.intercalate {s : String} {ts : List String} (hs : Unbroken s)
    (hts : ∀ t ∈ ts, Unbroken t) : Unbroken (s.intercalate ts) := by
  induction ts with
  | nil => simp [Unbroken]
  | cons t ts ih =>
      have ht : Unbroken t := hts t (by simp)
      cases ts with
      | nil => simpa using ht
      | cons u us =>
          have hrest := ih fun x hx => hts x (List.mem_cons_of_mem _ hx)
          rw [String.intercalate_cons_cons]
          exact (ht.append hs).append hrest

/-- A message about this path, on one line. -/
def Names (path e : String) : Prop := (path ++ ": ").toList <+: e.toList ∧ Unbroken e

theorem names_append (hpath : Unbroken path) (hstarts : ": ".toList <+: b.toList) (hb : Unbroken b) :
    Names path (path ++ b) := by
  refine ⟨?_, hpath.append hb⟩
  rw [String.toList_append, String.toList_append]
  exact (List.prefix_append_right_inj _).mpr hstarts

theorem Names.append (h : Names path a) (hb : Unbroken b) : Names path (a ++ b) := by
  refine ⟨?_, h.2.append hb⟩
  rw [String.toList_append (s := a)]
  exact h.1.trans (List.prefix_append _ _)

theorem toList_trimBreaks (s : String) : (trimBreaks s).toList = s.toList.rdropWhile (· == '\n') := by
  simp [trimBreaks]

theorem trimBreaks_append (s : String) : ∃ t, s = trimBreaks s ++ t ∧ ∀ c ∈ t.toList, c = '\n' := by
  refine ⟨String.ofList (s.toList.rtakeWhile (· == '\n')), ?_, ?_⟩
  · apply String.toList_injective
    rw [String.toList_append, toList_trimBreaks, String.toList_ofList,
      List.rdropWhile_append_rtakeWhile]
  · intro c hc
    rw [String.toList_ofList] at hc
    simpa using List.mem_rtakeWhile_imp hc

theorem nul_mem_trimBreaks {s : String} : '\x00' ∈ (trimBreaks s).toList ↔ '\x00' ∈ s.toList := by
  obtain ⟨t, hs, ht⟩ := trimBreaks_append s
  have hnul : '\x00' ∉ t.toList := fun hmem => absurd (ht _ hmem) (by decide)
  conv_rhs => rw [hs]
  simp [hnul]

/-- What is trimmed after a NUL would not be shown. -/
theorem cstr_trimBreaks_of_nul {s : String} (h : '\x00' ∈ s.toList) :
    cstr (trimBreaks s) = cstr s := by
  obtain ⟨t, hs, -⟩ := trimBreaks_append s
  conv_rhs => rw [hs, cstr_append_of_mem (nul_mem_trimBreaks.mpr h)]

theorem mem_of_mem_cstr {c : Char} {s : String} (h : c ∈ cstr s) : c ∈ s.toList :=
  (List.takeWhile_prefix _).subset h

theorem nul_notMem_cstr (s : String) : '\x00' ∉ cstr s := by
  intro h
  simpa using List.mem_takeWhile_imp h

theorem not_mem_cstr_trimBreaks (h : '\n' ∉ e.toList) : '\n' ∉ cstr (trimBreaks e) := by
  intro hmem
  have := mem_of_mem_cstr hmem
  rw [toList_trimBreaks] at this
  exact h ((List.rdropWhile_prefix _ _).subset this)

theorem rdropWhile_of_not_mem {l : List Char} (hl : '\n' ∉ l) : l.rdropWhile (· == '\n') = l := by
  rw [List.rdropWhile_eq_self_iff]
  intro hne hlast
  exact hl (beq_iff_eq.mp hlast ▸ List.getLast_mem hne)

/-- Nothing is cut beyond what would stay. -/
theorem rdropWhile_append_of_self {α : Type} {p : α → Bool} {l m : List α} (hl : l.rdropWhile p = l) :
    (l ++ m).rdropWhile p = l ++ m.rdropWhile p := by
  induction m using List.reverseRecOn with
  | nil => rw [List.append_nil, hl, List.rdropWhile_nil, List.append_nil]
  | append_singleton m c ih =>
      rw [← List.append_assoc]
      by_cases hc : p c
      · rw [List.rdropWhile_concat_pos _ _ _ hc, ih, List.rdropWhile_concat_pos _ _ _ hc]
      · rw [List.rdropWhile_concat_neg _ _ _ hc, List.rdropWhile_concat_neg _ _ _ hc,
          List.append_assoc]

/-- What comes before a line break that stays is not trimmed. -/
theorem trimBreaks_append_of_self (ha : a.toList.rdropWhile (· == '\n') = a.toList) (b : String) :
    trimBreaks (a ++ b) = a ++ trimBreaks b := by
  apply String.toList_injective
  rw [toList_trimBreaks, String.toList_append, String.toList_append, toList_trimBreaks,
    rdropWhile_append_of_self ha]

/-- The space before a text stays, whatever is trimmed after it. -/
theorem trimBreaks_append_space (a b : String) :
    trimBreaks (a ++ ": " ++ b) = a ++ ": " ++ trimBreaks b := by
  apply trimBreaks_append_of_self
  have hlast : (a ++ ": ").toList = (a.toList ++ [':']) ++ [' '] := by simp
  rw [hlast]
  exact List.rdropWhile_concat_neg _ _ _ (by decide)

/-- The start of a message is shown. -/
theorem starts_shown (hpath : '\x00' ∉ path.toList) (h : (path ++ ": ").toList <+: e.toList) :
    (path ++ ": ").toList <+: cstr (trimBreaks e) := by
  obtain ⟨rest, hrest⟩ := h
  have he : e = path ++ ": " ++ String.ofList rest := by
    apply String.toList_injective
    rw [← hrest, String.toList_append (s := path ++ ": "), String.toList_ofList]
  rw [he, trimBreaks_append_space, cstr_append_of_notMem (by simp [hpath])]
  exact List.prefix_append _ _

theorem Names.nul_notMem (h : Names path e) : '\x00' ∉ path.toList := fun hmem =>
  h.2.2 (h.1.subset (by simp [hmem]))

theorem Names.shown (h : Names path e) : (path ++ ": ").toList <+: cstr (trimBreaks e) :=
  starts_shown h.nul_notMem h.1

/-- A value that is followed by other text on its line. -/
theorem mem_cstr_trimBreaks_quoted {q : String} (ha : Unbroken a) (hb : Unbroken b) (hne : b.toList ≠ []) :
    '\n' ∈ cstr (trimBreaks (a ++ q ++ b)) ↔ '\n' ∈ cstr q := by
  have hself : trimBreaks (a ++ q ++ b) = a ++ (q ++ b) := by
    apply String.toList_injective
    rw [toList_trimBreaks, ← String.append_assoc, List.rdropWhile_eq_self_iff]
    intro hl hlast
    simp only [String.toList_append, List.getLast_append_of_ne_nil _ hne, beq_iff_eq] at hlast
    exact hb.1 (hlast ▸ List.getLast_mem hne)
  rw [hself, cstr_append_of_notMem ha.2]
  by_cases hq : '\x00' ∈ q.toList
  · simp [cstr_append_of_mem hq, ha.1]
  · simp [cstr_append_of_notMem hq, cstr_eq_toList_iff.mpr hq, cstr_eq_toList_iff.mpr hb.2, ha.1,
      hb.1]

theorem unbroken_toText (n : ℤ) : Unbroken (toText n) := by
  have hdigits : ∀ m : ℕ, ∀ c ∈ Nat.toDigits 10 m, c.isDigit = true := fun m c hmem =>
    Nat.isDigit_of_mem_toDigits (by decide) (by decide) hmem
  have hnone : ∀ c : Char, c.isDigit = false → c ≠ '-' → c ∉ (toText n).toList := by
    intro c hc hsign
    cases n with
    | ofNat m =>
        rw [show toText (Int.ofNat m) = toText (m : ℤ) from rfl, toList_toText_ofNat]
        intro hmem
        exact absurd (hdigits m c hmem) (by simp [hc])
    | negSucc m =>
        have htext : (toText (Int.negSucc m)).toList = '-' :: Nat.toDigits 10 (m + 1) := by
          change ("-" ++ Nat.repr (m + 1)).toList = _
          simp [Nat.toList_repr]
        rw [htext, List.mem_cons, not_or]
        exact ⟨hsign, fun hmem => absurd (hdigits (m + 1) c hmem) (by simp [hc])⟩
  exact ⟨hnone _ (by decide) (by decide), hnone _ (by decide) (by decide)⟩

theorem unbroken_got (n : Int32) : Unbroken (got n) :=
  (Unbroken.append (by decide) (unbroken_toText _)).append (by decide)

end Messages

/-! ## Reports -/

/-- The error is the report of this violation: what is shown of it names the path, except where
the code names another, and shows a line break exactly when it shows one of the value it repeats;
a NUL in it is one of that value. -/
structure Reports (j : Json) (v : Violation) (e : String) : Prop where
  named : ¬ Mislabelled j ∨ v.path ≠ "log.max_files" →
    (v.path ++ ": ").toList <+: cstr (trimBreaks e)
  misnamed : Mislabelled j → v.path = "log.max_files" →
    "log.files: ".toList <+: cstr (trimBreaks e)
  breaks : '\n' ∈ cstr (trimBreaks e) ↔ '\n' ∈ cstr v.quoted
  nul : '\x00' ∈ e.toList → '\x00' ∈ v.quoted.toList

section Reports
variable {host : Host} {j : Json}

theorem Reports.of_names {path e : String} {rule : Rule} (hpath : path ≠ "log.max_files")
    (h : Names path e) : Reports j { path, rule } e where
  named _ := h.shown
  misnamed _ hsame := absurd hsame hpath
  breaks := iff_of_false (not_mem_cstr_trimBreaks h.2.1) (by simp [cstr])
  nul hmem := absurd hmem h.2.2

/-- A message that repeats a value and goes on. -/
theorem Reports.of_quoted {path a q b : String} {rule : Rule} (hpath : path ≠ "log.max_files")
    (ha : Names path a) (hb : Unbroken b) (hne : b.toList ≠ []) :
    Reports j { path, rule, quoted := q } (a ++ q ++ b) where
  named _ := by
    apply starts_shown ha.nul_notMem
    rw [String.append_assoc, String.toList_append (s := a)]
    exact ha.1.trans (List.prefix_append _ _)
  misnamed _ hsame := absurd hsame hpath
  breaks := mem_cstr_trimBreaks_quoted ha.2 hb hne
  nul hmem := by simpa [ha.2.2, hb.2] using hmem

theorem reports_object (p : Part) : List.Forall₂ (Reports j)
    ((Check.object p).violations host j) ((Check.object p).errors host j) := by
  have hpath : p.name ≠ "log.max_files" := by cases p <;> decide
  have hname : Unbroken p.name := by cases p <;> decide
  simp only [Check.violations, Check.errors]
  cases j.member? p.name with
  | none =>
      by_cases hp : p = .database
      · simp [hp]
      · simp only [hp, if_false]
        exact .cons (.of_names hpath (names_append hname (by decide) (by decide))) .nil
  | some x =>
      cases hx : x.isObject with
      | true => simp [hx]
      | false =>
          simp only [hx, Bool.not_false, if_true]
          exact .cons (.of_names hpath (names_append hname (by decide) (by decide))) .nil

theorem reports_unknownKey (p : Part) (key : String) :
    Reports j { path := p.name, rule := .unknownKey, quoted := key }
      (unknownKey p.allowed p.name key) := by
  have hpath : p.name ≠ "log.max_files" := by cases p <;> decide
  have hname : Unbroken p.name := by cases p <;> decide
  have hkeys : ∀ k ∈ p.allowed, Unbroken k := by cases p <;> decide
  have hallowed : Unbroken ("\" (allowed: " ++ String.intercalate ", " p.allowed ++ ")") :=
    (Unbroken.append (by decide) (Unbroken.intercalate (by decide) hkeys)).append (by decide)
  have htext : unknownKey p.allowed p.name key = (p.name ++ ": unknown key \"") ++ key ++
      ("\" (allowed: " ++ String.intercalate ", " p.allowed ++ ")") := by
    simp [unknownKey, String.append_assoc]
  rw [htext]
  exact .of_quoted hpath (names_append hname (by decide) (by decide)) hallowed (by simp)

/-- What is in a section is reported when it is reported in every object. -/
theorem reports_inPart {p : Part} {rules : Json → List Violation} {check : Json → List String}
    (h : ∀ x, List.Forall₂ (Reports j) (rules x) (check x)) :
    List.Forall₂ (Reports j) ((part? j p).elim [] rules) (inPart j p check) := by
  unfold inPart
  cases part? j p with
  | none => exact .nil
  | some x => exact h x

theorem reports_unknownKeys (p : Part) : List.Forall₂ (Reports j)
    ((Check.unknownKeys p).violations host j) ((Check.unknownKeys p).errors host j) := by
  apply reports_inPart
  intro x
  simp only [keyViolations, checkUnknownKeys, List.forall₂_map_left_iff, List.forall₂_map_right_iff]
  exact List.forall₂_same.mpr fun m _ => reports_unknownKey p m.1

theorem reports_missingUrl :
    Reports j { path := "database.url", rule := .missing } missingDatabaseUrl :=
  .of_names (by decide) (by simp [Names, Unbroken, missingDatabaseUrl])

theorem reports_resolveUrl (json env : String) : List.Forall₂ (Reports j)
    (urlViolations (if json ≠ "" then json else env)) (resolveUrl json env).errors := by
  have hpath : "database.url" ≠ "log.max_files" := by decide
  unfold resolveUrl urlViolations IsDatabaseUrl
  by_cases hjson : json = ""
  · by_cases henv : env = ""
    · simp only [hjson, henv, ne_eq, not_true_eq_false, if_false, if_true]
      exact .cons reports_missingUrl .nil
    · by_cases hs : startsWith "postgresql://" env
      · simp [hjson, henv, hs]
      · simp only [hjson, henv, hs, ne_eq, not_true_eq_false, not_false_eq_true, if_false, if_true,
          Bool.not_false, Bool.false_eq_true]
        exact .cons (.of_quoted hpath (by simp [Names, Unbroken]) (by decide) (by decide)) .nil
  · by_cases hs : startsWith "postgresql://" json
    · simp [hjson, hs]
    · simp only [hjson, hs, ne_eq, not_false_eq_true, if_false, if_true, Bool.not_false,
        Bool.false_eq_true]
      exact .cons (.of_quoted hpath (by simp [Names, Unbroken]) (by decide) (by decide)) .nil

theorem reports_text {path : String} (hpath : path ≠ "log.max_files") (hbreak : Unbroken path)
    (x : Option Json) : List.Forall₂ (Reports j) (textViolations path x) (checkText path x).errors := by
  have hempty : Names path (path ++ ": must be a non-empty string") :=
    names_append hbreak (by decide) (by decide)
  unfold textViolations checkText
  cases x with
  | none => exact .cons (.of_names hpath (names_append hbreak (by decide) (by decide))) .nil
  | some x =>
      cases hx : x.string? with
      | none =>
          simp only [hx]
          exact .cons (.of_names hpath hempty) .nil
      | some s =>
          by_cases hs : s = ""
          · simp only [hx, hs, if_true]
            exact .cons (.of_names hpath hempty) .nil
          · simp [hx, hs]

theorem reports_issuerUrl (x : Option Json) :
    List.Forall₂ (Reports j) (issuerUrlViolations x) (checkIssuerUrl x).errors := by
  have hpath : "oauth.issuer_url" ≠ "log.max_files" := by decide
  have htext := reports_text (j := j) hpath (by decide) x
  unfold issuerUrlViolations checkIssuerUrl
  cases hx : x.bind Json.string? with
  | none =>
      -- there is no text, so the check stops at that
      have herrors : (checkText "oauth.issuer_url" x).errors ≠ [] := by
        cases x with
        | none => exact List.cons_ne_nil _ _
        | some y =>
            have hy : y.string? = none := hx
            simp [checkText, hy]
      simp only [herrors, false_and, if_false]
      exact htext
  | some s =>
      obtain ⟨y, rfl, hy⟩ := Option.bind_eq_some_iff.mp hx
      by_cases hs : s = ""
      · simp only [hs, ne_eq, not_true_eq_false, false_and, if_false]
        simp only [checkText, hy, hs, if_true] at htext ⊢
        exact htext
      · have hvalue : checkText "oauth.issuer_url" (some y) = ⟨s, []⟩ := by
          simp [checkText, hy, hs]
        cases hurl : isHttpUrl s with
        | true =>
            simp only [hvalue, hurl, reduceCtorEq, and_false, if_false, Bool.not_true,
              Bool.false_eq_true] at htext ⊢
            exact htext
        | false =>
            simp only [hvalue, hurl, hs, ne_eq, not_false_eq_true, and_self, if_true, Bool.not_false]
            exact .cons (.of_quoted hpath (by simp [Names, Unbroken]) (by decide) (by decide)) .nil

theorem reports_level (x : Option Json) :
    List.Forall₂ (Reports j) (levelViolations x) (checkLevel x).errors := by
  have hpath : "log.level" ≠ "log.max_files" := by decide
  unfold levelViolations checkLevel
  cases x with
  | none => exact .nil
  | some x =>
      cases hx : x.string? with
      | none =>
          simp only [hx]
          exact .cons (.of_names hpath (by simp [Names, Unbroken])) .nil
      | some s =>
          by_cases hs : s ∈ kValidLogLevels
          · simp [hx, hs]
          · simp only [hx, hs, if_false, List.contains_eq_mem, decide_false, Bool.not_false, if_true]
            exact .cons (.of_quoted hpath (by simp [Names, Unbroken]) (by decide) (by decide)) .nil

/-- The directory ends the message, and loses the line breaks at its end with it. -/
theorem reports_directory (dir : String) :
    Reports j { path := "log.file", rule := .notWritable, quoted := trimBreaks dir }
      ("log.file: parent directory does not exist or is not writable: " ++ dir) := by
  have hpath : "log.file" ≠ "log.max_files" := by decide
  have hnames : Names "log.file" "log.file: parent directory does not exist or is not writable: " := by
    simp [Names, Unbroken]
  constructor
  · intro _
    apply starts_shown hnames.nul_notMem
    rw [String.toList_append (t := dir)]
    exact hnames.1.trans (List.prefix_append _ _)
  · intro _ hsame
    exact absurd hsame hpath
  · rw [trimBreaks_append_of_self (rdropWhile_of_not_mem hnames.2.1), cstr_append_of_notMem hnames.2.2]
    simp
  · intro hmem
    rw [nul_mem_trimBreaks]
    simpa [hnames.2.2] using hmem

theorem reports_file (x : Option Json) :
    List.Forall₂ (Reports j) (fileViolations host x) (checkFile host x).errors := by
  have hpath : "log.file" ≠ "log.max_files" := by decide
  unfold fileViolations checkFile
  cases x with
  | none => exact .nil
  | some x =>
      cases hx : x.string? with
      | none =>
          simp only [hx]
          exact .cons (.of_names hpath (by simp [Names, Unbroken])) .nil
      | some s =>
          by_cases hs : s = ""
          · simp [hx, hs]
          · cases hdir : isWritableDir host (logDir s) with
            | true => simp [hx, hs, hdir]
            | false =>
                simp only [hx, hs, hdir, Bool.false_eq_true, or_self, if_false, Bool.not_false, if_true]
                exact .cons (reports_directory _) .nil

end Reports

/-! ## Numbers -/

namespace IntField
variable {f : IntField} {x j : Json} {v : ℤ}

/-- The name that a message about the number has. -/
def label (f : IntField) (n : Int32) : String :=
  if f = .maxFiles ∧ n.toInt ≤ 0 then "log.files" else f.path

theorem names_atMost {field e : String} {hi : ℤ} {n : Int32} (hfield : Unbroken field)
    (h : atMost field hi n = some e) : Names field e := by
  unfold atMost at h
  split_ifs at h
  · rw [← Option.some.inj h]
    exact (names_append hfield (by decide) (by decide)).append (unbroken_got n)
  · rw [← Option.some.inj h]
    have hhi : Names field (field ++ ": must be <= ") := names_append hfield (by decide) (by decide)
    exact (hhi.append (unbroken_toText hi)).append (unbroken_got n)

theorem names_wrongPort {e : String} {n : Int32} (h : wrongPort n = some e) : Names "grpc.port" e := by
  unfold wrongPort at h
  split_ifs at h
  rw [← Option.some.inj h]
  have hnames : Names "grpc.port" "grpc.port: must be in [1, 65535]" := by simp [Names, Unbroken]
  exact hnames.append (unbroken_got n)

theorem names_wrongMaxFiles {e : String} {n : Int32} (h : wrongMaxFiles n = some e) :
    Names (maxFiles.label n) e := by
  unfold wrongMaxFiles at h
  split_ifs at h with h₁ h₂
  · have hlabel : maxFiles.label n = "log.files" := if_pos ⟨rfl, h₁⟩
    have hnames : Names "log.files" "log.files: must be > 0" := by simp [Names, Unbroken]
    rw [← Option.some.inj h, hlabel]
    exact hnames.append (unbroken_got n)
  · have hlabel : maxFiles.label n = "log.max_files" := if_neg fun hn => h₁ hn.2
    have hnames : Names "log.max_files" "log.max_files: must be <= 100" := by simp [Names, Unbroken]
    rw [← Option.some.inj h, hlabel]
    exact hnames.append (unbroken_got n)

theorem label_of_ne (hf : f ≠ .maxFiles) (n : Int32) : f.label n = f.path := if_neg fun h => hf h.1

/-- The error of a number that is refused. -/
theorem names_check (f : IntField) (hx : x.integer? = some v) :
    ∀ e ∈ (f.check (some x)).errors, Names (f.label (Int32.ofInt v)) e := by
  intro e he
  cases f with
  | port =>
      rw [label_of_ne (by decide)]
      simp only [check, checkPort, checkInt_errors hx, Option.mem_toList] at he
      exact names_wrongPort he
  | maxFiles =>
      simp only [check, checkMaxFiles, checkInt_errors hx, Option.mem_toList] at he
      exact names_wrongMaxFiles he
  | jwksCacheTtl =>
      rw [label_of_ne (by decide)]
      simp only [check, checkJwksCacheTtl, checkInt_errors hx, Option.mem_toList] at he
      exact names_atMost (by decide) he
  | connectTimeout =>
      rw [label_of_ne (by decide)]
      simp only [check, checkConnectTimeout, checkInt_errors hx, Option.mem_toList] at he
      exact names_atMost (by decide) he
  | readTimeout =>
      rw [label_of_ne (by decide)]
      simp only [check, checkReadTimeout, checkInt_errors hx, Option.mem_toList] at he
      exact names_atMost (by decide) he
  | maxSizeMb =>
      rw [label_of_ne (by decide)]
      simp only [check, checkMaxSizeMb, checkInt_errors hx, Option.mem_toList] at he
      exact names_atMost (by decide) he

theorem path_eq_iff (f : IntField) : f.path = "log.max_files" ↔ f = .maxFiles := by
  cases f <;> decide

theorem mislabelled_iff (hfield : field? j .log "max_files" = some x) (hx : x.integer? = some v) :
    Mislabelled j ↔ (Int32.ofInt v).toInt ≤ 0 := by
  have hlow : (Int32.ofInt v).toInt ≤ 0 ↔ v % 4294967296 = 0 ∨ 2147483648 ≤ v % 4294967296 := by
    have hsize : Int32.size = 4294967296 := rfl
    rw [Int32.toInt_ofInt, hsize, Int.bmod_def]
    split <;> omega
  rw [hlow]
  constructor
  · rintro ⟨y, w, hy, hw, hwrong⟩
    rw [hfield, Option.some.injEq] at hy
    rw [← hy, hx, Option.some.injEq] at hw
    rw [hw]
    exact hwrong
  · intro hwrong
    exact ⟨x, v, hfield, hx, hwrong⟩

/-- A message about the number is the report of its range. -/
theorem reports_of_names {e : String} (hfield : field? j f.part f.key = some x)
    (hx : x.integer? = some v) (he : Names (f.label (Int32.ofInt v)) e) :
    Reports j { path := f.path, rule := .outOfRange } e := by
  by_cases hf : f = .maxFiles
  · subst hf
    have hmis := mislabelled_iff hfield hx
    constructor
    · intro hnamed
      have hlabel : maxFiles.label (Int32.ofInt v) = maxFiles.path := by
        apply if_neg
        rintro ⟨-, hneg⟩
        exact hnamed.elim (fun h => h (hmis.mpr hneg)) (fun h => h rfl)
      exact hlabel ▸ he.shown
    · intro hwrong _
      have hlabel : maxFiles.label (Int32.ofInt v) = "log.files" := if_pos ⟨rfl, hmis.mp hwrong⟩
      exact (hlabel ▸ he).shown
    · exact iff_of_false (not_mem_cstr_trimBreaks he.2.1) (by simp [cstr])
    · exact fun hmem => absurd hmem he.2.2
  · rw [label_of_ne hf] at he
    exact .of_names (fun h => hf (f.path_eq_iff.mp h)) he

theorem reports_notInteger (hfield : field? j f.part f.key = some x) (hx : x.integer? = none) :
    Reports j { path := f.path, rule := .wrongType } (f.path ++ ": must be an integer") := by
  have hbreak : Unbroken f.path := by cases f <;> decide
  have hnames : Names f.path (f.path ++ ": must be an integer") :=
    names_append hbreak (by decide) (by decide)
  constructor
  · intro _
    exact hnames.shown
  · rintro ⟨y, w, hy, hw, -⟩ hpath
    rw [f.path_eq_iff.mp hpath] at hfield
    rw [show field? j .log "max_files" = some x from hfield, Option.some.injEq] at hy
    rw [← hy, hx] at hw
    cases hw
  · exact iff_of_false (not_mem_cstr_trimBreaks hnames.2.1) (by simp [cstr])
  · exact fun hmem => absurd hmem hnames.2.2

end IntField

theorem field?_of_part? {j y : Json} {p : Part} (key : String) (h : part? j p = some y) :
    field? j p key = y.member? key := by
  obtain ⟨hy, -⟩ := Option.filter_eq_some_iff.mp h
  simp [field?, hy]

theorem reports_int {host : Host} {j : Json} (f : IntField) (h : ¬ (Check.int f).Overlooked host j) :
    List.Forall₂ (Reports j) ((Check.int f).violations host j) ((Check.int f).errors host j) := by
  obtain ⟨wrong, d, hcheck, -⟩ := f.check_eq
  simp only [Check.violations, Check.errors, inPart]
  cases hpart : part? j f.part with
  | none => exact .nil
  | some y =>
      have hfield := field?_of_part? f.key hpart
      simp only [Option.elim_some]
      cases hx : y.member? f.key with
      | none =>
          rw [hcheck]
          exact .nil
      | some x =>
          rw [hx] at hfield
          cases hv : x.integer? with
          | none =>
              rw [hcheck]
              simp only [IntField.violations, checkInt, hv]
              exact .cons (IntField.reports_notInteger hfield hv) .nil
          | some v =>
              have hnil := IntField.errors_eq_nil_iff (f := f) hv
              have hnames := f.names_check hv
              by_cases hin : 1 ≤ v ∧ v ≤ f.hi
              · have hhi := f.hi_bounds
                rw [hnil.mpr (by omega)]
                simp [IntField.violations, hv, hin]
              · have herrors : (f.check (some x)).errors ≠ [] := by
                  intro hempty
                  exact h ⟨x, v, hfield, hv, hin, hnil.mp hempty⟩
                rw [hcheck, checkInt_errors hv] at herrors hnames ⊢
                cases hwrong : wrong (Int32.ofInt v) with
                | none => simp [hwrong] at herrors
                | some e =>
                    simp only [IntField.violations, hv, hin, if_false, Option.toList_some]
                    rw [hwrong] at hnames
                    exact .cons (IntField.reports_of_names hfield hv (hnames e (by simp))) .nil

/-! ## All checks -/

section All
variable {host : Host} {j : Json}

theorem reports_jsonUrl (db : Json) : List.Forall₂ (Reports j)
    (if (db.member? "url").any (·.string?.isNone) then
      [{ path := "database.url", rule := .wrongType }] else []) (jsonUrl db).errors := by
  unfold jsonUrl
  cases db.member? "url" with
  | none => simp
  | some x =>
      cases hx : x.string? with
      | some s => simp [hx]
      | none =>
          simp only [hx, Option.any_some, Option.isNone_none, if_true]
          exact .cons (.of_names (by decide) (by simp [Names, Unbroken])) .nil

theorem reports_databaseUrl (h : ¬ Check.databaseUrl.Overlooked host j) : List.Forall₂ (Reports j)
    (Check.databaseUrl.violations host j) (Check.databaseUrl.errors host j) := by
  simp only [Check.violations, Check.errors]
  cases hdb : j.member? "database" with
  | none =>
      simp only [selectedUrl_of_none hdb]
      by_cases henv : dbUrlEnv host = ""
      · simp only [henv, urlViolations, ne_eq, not_true_eq_false, if_true, if_false]
        exact .cons reports_missingUrl .nil
      · have hgood : IsDatabaseUrl (dbUrlEnv host) := by
          by_contra hbad
          exact h ⟨hdb, henv, hbad⟩
        simp [henv, urlViolations, hgood]
  | some db =>
      simp only [inPart, part?_of_some (p := .database) hdb]
      by_cases hobject : db.isObject
      · simp only [hobject, if_true, Option.elim_some, selectedUrl, fileUrl_eq hdb]
        exact List.rel_append (reports_jsonUrl db) (reports_resolveUrl _ _)
      · simp [hobject]

/-- A check that lets nothing pass reports every violation. -/
theorem reports_check (c : Check) (h : ¬ c.Overlooked host j) :
    List.Forall₂ (Reports j) (c.violations host j) (c.errors host j) := by
  cases c with
  | object p => exact reports_object p
  | unknownKeys p => exact reports_unknownKeys p
  | databaseUrl => exact reports_databaseUrl h
  | int f => exact reports_int f h
  | issuerUrl => exact reports_inPart fun oa => reports_issuerUrl _
  | audience => exact reports_inPart fun oa => reports_text (by decide) (by decide) _
  | level => exact reports_inPart fun l => reports_level _
  | file => exact reports_inPart fun l => reports_file _

/-- What is let pass is a violation without an error. -/
theorem overlooked_check {c : Check} (h : c.Overlooked host j) :
    c.errors host j = [] ∧ c.violations host j ≠ [] := by
  cases c with
  | databaseUrl =>
      obtain ⟨hdb, henv, hbad⟩ := h
      simp [Check.errors, Check.violations, hdb, henv, selectedUrl_of_none hdb, urlViolations, hbad]
  | int f =>
      obtain ⟨x, v, hfield, hv, hout, hlow⟩ := h
      obtain ⟨y, hy, hx⟩ := Option.bind_eq_some_iff.mp hfield
      have hobject := Json.isObject_of_member? hx
      have hnil := (IntField.errors_eq_nil_iff (f := f) hv).mpr hlow
      simp [Check.errors, Check.violations, inPart, part?_of_some hy, hobject, hx, hnil,
        IntField.violations, hv, hout]
  | _ => exact absurd h id

theorem unknownSections_eq_nil_iff : unknownSections j = [] ↔ OnlySections j := by
  have hsection : ∀ s : String, s ∈ ["database", "grpc", "log", "oauth"] ↔ ∃ p : Part, p.name = s := by
    intro s
    simp only [List.mem_cons, List.not_mem_nil, or_false]
    constructor
    · rintro (rfl | rfl | rfl | rfl)
      exacts [⟨.database, rfl⟩, ⟨.grpc, rfl⟩, ⟨.log, rfl⟩, ⟨.oauth, rfl⟩]
    · rintro ⟨p, rfl⟩
      cases p <;> decide
  simp only [unknownSections, List.map_eq_nil_iff, List.filter_eq_nil_iff, decide_eq_true_iff,
    not_not, hsection, OnlySections]

/-- The errors of some checks report some of their violations: all of them if nothing is let
pass, fewer if something is. -/
theorem reports_checks (host : Host) (j : Json) (l : List Check) :
    ∃ vs, vs.Sublist (l.flatMap (Check.violations host j)) ∧
    List.Forall₂ (Reports j) vs (l.flatMap (Check.errors host j)) ∧
    ((∀ c ∈ l, ¬ c.Overlooked host j) → vs = l.flatMap (Check.violations host j)) ∧
    ((∃ c ∈ l, c.Overlooked host j) → vs.length < (l.flatMap (Check.violations host j)).length) := by
  induction l with
  | nil => exact ⟨[], .slnil, .nil, fun _ => rfl, by simp⟩
  | cons c l ih =>
      obtain ⟨vs, hsub, hreports, hall, hfewer⟩ := ih
      have hlength := hsub.length_le
      simp only [List.flatMap_cons]
      by_cases hc : c.Overlooked host j
      · obtain ⟨herrors, hviolations⟩ := overlooked_check hc
        refine ⟨vs, hsub.trans (List.sublist_append_right _ _), ?_, ?_, ?_⟩
        · rw [herrors, List.nil_append]
          exact hreports
        · intro h
          exact absurd hc (h c (by simp))
        · intro _
          have hpos := List.length_pos_of_ne_nil hviolations
          rw [List.length_append]
          omega
      · refine ⟨c.violations host j ++ vs, (List.append_sublist_append_left _).mpr hsub,
          List.rel_append (reports_check c hc) hreports, ?_, ?_⟩
        · intro h
          rw [hall fun d hd => h d (List.mem_cons_of_mem _ hd)]
        · rintro ⟨d, hd, hover⟩
          rcases List.mem_cons.mp hd with rfl | hd
          · exact absurd hover hc
          · have := hfewer ⟨d, hd, hover⟩
            rw [List.length_append, List.length_append]
            omega

/-- The errors of a configuration report some of its violations: all of them if nothing is
overlooked, fewer if something is. -/
theorem reports_errors (host : Host) (j : Json) : ∃ vs, vs.Sublist (violations host j) ∧
    List.Forall₂ (Reports j) vs (checkSchema host j).errors ∧
    (¬ Overlooked host j → vs = violations host j) ∧
    (Overlooked host j → vs.length < (violations host j).length) := by
  obtain ⟨vs, hsub, hreports, hall, hfewer⟩ := reports_checks host j allChecks
  have hlength := hsub.length_le
  rw [← errors_checkSchema] at hreports
  refine ⟨vs, hsub.trans (List.sublist_append_right _ _), hreports, ?_, ?_⟩
  · intro hover
    obtain ⟨honly, hchecks⟩ := not_or.mp hover
    rw [hall fun c _ hc => hchecks ⟨c, hc⟩, violations,
      unknownSections_eq_nil_iff.mpr (not_not.mp honly), List.nil_append]
  · rintro (hunknown | ⟨c, hc⟩)
    · have hpos := List.length_pos_of_ne_nil fun h => hunknown (unknownSections_eq_nil_iff.mp h)
      rw [violations, List.length_append]
      omega
    · have := hfewer ⟨c, mem_allChecks c, hc⟩
      rw [violations, List.length_append]
      omega

end All

end EvGrpc
