import EvGrpc.Config.Rules

/-!
# The report of a refused configuration

The text that `LoadSchema` throws is meant to have one line for each broken rule, and each
line the path of the file and that of the field.  `Throw` writes the path of the file once,
before the first line, so this is so only with one line; `report_attributable_iff` has the
exact condition.
-/

namespace EvGrpc

open Lib

/-! ## Lines -/

/-- The lines of a text. -/
def linesOf (text : String) : List (List Char) := text.toList.splitOn '\n'

/-- The line is about this field of this file. -/
def StartsLine (path : String) (v : Violation) (line : List Char) : Prop :=
  (path ++ ": " ++ v.path ++ ": ").toList <+: line

/-- A configuration that breaks a rule is refused, and the text has one line for each broken
rule, which names the file and the field. -/
structure Attributable (host : Host) (path : String) (j : Json) : Prop where
  throws : violations host j ≠ [] → ∃ text, loadSchema host path = .error text
  lines : ∀ text, loadSchema host path = .error text →
    ∃ vs, vs.Perm (violations host j) ∧ List.Forall₂ (StartsLine path) vs (linesOf text)

/-- No rule is broken; or one is, it is reported under its own name, the name of the file has no
line breaks and no NULs, and what is shown of the value has no line breaks. -/
def Reportable (host : Host) (path : String) (j : Json) : Prop :=
  violations host j = [] ∨
    ∃ v, violations host j = [v] ∧ ¬ Overlooked host j ∧ ¬ Mislabelled j ∧
      Unbroken path ∧ '\n' ∉ cstr v.quoted

/-- A line may be lost: something is overlooked, or a value cuts the text at its NUL. -/
def Loses (host : Host) (j : Json) : Prop :=
  Overlooked host j ∨ ∃ v ∈ violations host j, '\x00' ∈ v.quoted.toList

/-- With two broken rules or more, nothing can pass for a line that is not there: the name of
the file does not start with what comes before an error, and if a line may be lost then no value
shows a line break. -/
def Unforged (host : Host) (path : String) (j : Json) : Prop :=
  2 ≤ (violations host j).length → ¬ (": ".toList <+: path.toList) ∧
    (Loses host j → ∀ v ∈ violations host j, '\n' ∉ cstr v.quoted)

section Lines
variable {text : String} {line : List Char}

theorem linesOf_of_not_mem (h : '\n' ∉ text.toList) : linesOf text = [text.toList] :=
  List.splitOn_eq_singleton h

/-- A text of one line has no line break. -/
theorem not_mem_of_length_linesOf (h : (linesOf text).length = 1) : '\n' ∉ text.toList := by
  intro hmem
  obtain ⟨a, b, hab⟩ := List.append_of_mem hmem
  have ha := List.length_pos_of_ne_nil (List.splitOn_ne_nil '\n' a)
  have hb := List.length_pos_of_ne_nil (List.splitOn_ne_nil '\n' b)
  rw [linesOf, hab, List.splitOn_append_cons_self, List.length_append] at h
  omega

/-- A line has the characters of the text, but no line break. -/
theorem mem_of_mem_linesOf {c : Char} (h : line ∈ linesOf text) (hc : c ∈ line) :
    c ∈ text.toList ∧ c ≠ '\n' := by
  rw [linesOf] at h
  generalize text.toList = l at h
  induction l generalizing line with
  | nil => simp_all
  | cons d l ih =>
      obtain ⟨first, others, hl⟩ := List.exists_cons_of_ne_nil (List.splitOn_ne_nil '\n' l)
      rw [List.splitOn_cons_eq_if_modifyHead, hl] at h
      rw [hl] at ih
      have hrest : ∀ {line : List Char}, line ∈ first :: others → c ∈ line →
          c ∈ d :: l ∧ c ≠ '\n' := by
        intro line hline hmem
        obtain ⟨hin, hne⟩ := ih hmem hline
        exact ⟨List.mem_cons_of_mem _ hin, hne⟩
      by_cases hd : d = '\n'
      · simp only [hd, beq_self_eq_true, if_true, List.mem_cons] at h
        rcases h with rfl | h
        · cases hc
        · exact hrest (by simpa using h) hc
      · simp only [beq_iff_eq, hd, if_false, List.modifyHead_cons, List.mem_cons] at h
        rcases h with rfl | h
        · rcases List.mem_cons.mp hc with rfl | hc
          · exact ⟨by simp, hd⟩
          · exact hrest (by simp) hc
        · exact hrest (by simp [h]) hc

theorem exists_startsLine {path : String} {vs : List Violation} {lines : List (List Char)}
    (h : List.Forall₂ (StartsLine path) vs lines) (hline : line ∈ lines) :
    ∃ v, StartsLine path v line := by
  induction h with
  | nil => cases hline
  | cons hv _ ih =>
      rcases List.mem_cons.mp hline with rfl | hline
      · exact ⟨_, hv⟩
      · exact ih hline

/-- After a line break, a line begins. -/
theorem exists_line_of_break {a b : List Char} {c d : Char} (h : text.toList = a ++ '\n' :: c :: d :: b)
    (hc : c ≠ '\n') (hd : d ≠ '\n') : ∃ line ∈ linesOf text, [c, d] <+: line := by
  rw [linesOf, h, List.splitOn_append_cons_self]
  obtain ⟨l, ls, hb⟩ := List.exists_cons_of_ne_nil (List.splitOn_ne_nil '\n' b)
  have hsplit : (c :: d :: b).splitOn '\n' = (c :: d :: l) :: ls := by
    simp [List.splitOn_cons_eq_if_modifyHead, hc, hd, hb]
  rw [hsplit]
  exact ⟨c :: d :: l, by simp, ⟨l, rfl⟩⟩

end Lines

/-! ## The text -/

section Text
variable {path e : String}

@[simp] theorem toList_what (s : String) : (what s).toList = cstr s := by simp [what]

/-- A name without NUL is shown, and then what follows it. -/
theorem what_append (hpath : '\x00' ∉ path.toList) (s : String) :
    what (path ++ ": " ++ s) = path ++ ": " ++ what s := by
  apply String.toList_injective
  rw [toList_what, cstr_append_of_notMem (by simp [hpath]), String.toList_append (s := path ++ ": "),
    toList_what]

/-- One error, on the line of the path. -/
theorem throwText_singleton (hpath : '\x00' ∉ path.toList) (e : String) :
    throwText path [e] = path ++ ": " ++ what (trimBreaks e) := by
  have hlines : errorLines path [e] = path ++ ": " ++ (e ++ "\n") := by
    apply String.toList_injective
    simp [errorLines]
  have hbreak : trimBreaks (e ++ "\n") = trimBreaks e := by
    apply String.toList_injective
    rw [toList_trimBreaks, toList_trimBreaks, String.toList_append]
    exact List.rdropWhile_concat_pos _ _ _ (by decide)
  rw [throwText, hlines, trimBreaks_append_space, hbreak, what_append hpath]

/-- The second error starts a line, without the path. -/
theorem trimBreaks_errorLines_cons_cons (path e e' : String) (es : List String) :
    ∃ b, trimBreaks (errorLines path (e :: e' :: es)) = path ++ ": " ++ (e ++ ("\n: " ++ b)) := by
  have hlines : errorLines path (e :: e' :: es) = (path ++ ": " ++ e ++ "\n") ++ ": " ++
      (e' ++ "\n" ++ errorLines "" es) := by
    apply String.toList_injective
    simp [errorLines]
  rw [hlines, trimBreaks_append_space]
  refine ⟨trimBreaks (e' ++ "\n" ++ errorLines "" es), ?_⟩
  apply String.toList_injective
  simp

/-- Where the first error has no NUL, that line is shown. -/
theorem toList_throwText_cons_cons (hpath : '\x00' ∉ path.toList) (he : '\x00' ∉ e.toList)
    (e' : String) (es : List String) :
    ∃ a b, (throwText path (e :: e' :: es)).toList = a ++ '\n' :: ':' :: ' ' :: b := by
  obtain ⟨b, hb⟩ := trimBreaks_errorLines_cons_cons path e e' es
  refine ⟨(path ++ ": " ++ e).toList, cstr b, ?_⟩
  rw [throwText, hb, what_append hpath, String.toList_append, toList_what,
    cstr_append_of_notMem he, cstr_append_of_notMem (show '\x00' ∉ "\n: ".toList by decide)]
  simp

/-- Where it has one, nothing more is. -/
theorem throwText_of_nul (hpath : '\x00' ∉ path.toList) (he : '\x00' ∈ e.toList) (e' : String)
    (es : List String) : throwText path (e :: e' :: es) = path ++ ": " ++ what (trimBreaks e) := by
  obtain ⟨b, hb⟩ := trimBreaks_errorLines_cons_cons path e e' es
  rw [throwText, hb, what_append hpath, what, what, cstr_trimBreaks_of_nul he,
    cstr_append_of_mem he]

/-- A line that names the file has nothing but the path before the field. -/
theorem startsLine_iff {v : Violation} {rest : String} :
    StartsLine path v (path ++ ": " ++ rest).toList ↔ (v.path ++ ": ").toList <+: rest.toList := by
  have hline : path ++ ": " ++ v.path ++ ": " = (path ++ ": ") ++ (v.path ++ ": ") := by
    simp [String.append_assoc]
  rw [StartsLine, hline, String.toList_append (s := path ++ ": "),
    String.toList_append (s := path ++ ": "), List.prefix_append_right_inj]

/-- A line that starts like a second error is about a file whose name starts so. -/
theorem path_starts_of_startsLine {v : Violation} {line : List Char} (hpath : path ≠ "")
    (h : StartsLine path v line) (hline : [':', ' '] <+: line) : ": ".toList <+: path.toList := by
  have hlength : [':', ' '].length ≤ (path ++ ": " ++ v.path ++ ": ").toList.length := by
    simp
    omega
  have hstarts := List.prefix_of_prefix_length_le hline h hlength
  cases hp : path.toList with
  | nil => exact absurd (String.toList_injective hp) hpath
  | cons c cs =>
      simp only [String.toList_append, hp, List.cons_append, List.cons_prefix_cons] at hstarts
      obtain ⟨rfl, hstarts⟩ := hstarts
      cases cs with
      | nil => simp [List.cons_prefix_cons] at hstarts
      | cons d ds =>
          simp only [List.cons_append, List.cons_prefix_cons] at hstarts
          rw [← hstarts.1]
          exact ⟨ds, rfl⟩

end Text

/-! ## The whole report -/

section Report
variable {host : Host} {path : String} {j : Json}

theorem loadSchema_error_iff (hholds : host.Holds path j) {text : String} :
    loadSchema host path = .error text ↔
      (checkSchema host j).errors ≠ [] ∧ text = throwText path (checkSchema host j).errors := by
  rw [loadSchema_eq hholds]
  by_cases herrors : (checkSchema host j).errors = []
  · simp [herrors]
  · simp [herrors, eq_comm]

theorem path_ne_empty (hholds : host.Holds path j) : path ≠ "" := by
  intro hpath
  obtain ⟨⟨raw, hread, -⟩, -⟩ := hholds
  rw [hpath, host.readFile_empty] at hread
  cases hread

/-- A number that gets the wrong name is out of range. -/
theorem mem_violations_of_mislabelled (host : Host) (h : Mislabelled j) :
    { path := "log.max_files", rule := .outOfRange } ∈ violations host j := by
  obtain ⟨x, v, hfield, hv, hlow⟩ := h
  obtain ⟨y, hy, hx⟩ := Option.bind_eq_some_iff.mp hfield
  have hobject := Json.isObject_of_member? hx
  have hout : ¬ (1 ≤ v ∧ v ≤ IntField.maxFiles.hi) := by
    have hhi : IntField.maxFiles.hi = 100 := rfl
    omega
  have hviolations : (Check.int .maxFiles).violations host j =
      [{ path := "log.max_files", rule := .outOfRange }] := by
    have hx : y.member? IntField.maxFiles.key = some x := hx
    simp only [Check.violations, IntField.part, part?_of_some hy, hobject, if_true, Option.elim_some,
      hx, IntField.violations, hv, hout, if_false]
    rfl
  apply List.mem_append_right
  exact List.mem_flatMap.mpr ⟨.int .maxFiles, mem_allChecks _, hviolations ▸ List.mem_singleton_self _⟩

/-- One violation that is reported makes one line. -/
theorem attributable_of_reportable (hholds : host.Holds path j) (h : Reportable host path j) :
    Attributable host path j := by
  obtain ⟨vs, hsub, hreports, hall, -⟩ := reports_errors host j
  rcases h with hnone | ⟨v, hone, hover, hmis, hpath, hquoted⟩
  · rw [hnone, List.sublist_nil] at hsub
    rw [hsub, List.forall₂_nil_left_iff] at hreports
    constructor
    · intro hsome
      exact absurd hnone hsome
    · intro text htext
      exact absurd hreports ((loadSchema_error_iff hholds).mp htext).1
  · rw [hall hover, hone] at hreports
    obtain ⟨e, es, he, hes, herrors⟩ := List.forall₂_cons_left_iff.mp hreports
    rw [List.forall₂_nil_left_iff.mp hes] at herrors
    constructor
    · intro _
      exact ⟨_, (loadSchema_error_iff hholds).mpr ⟨by simp [herrors], rfl⟩⟩
    · intro text htext
      have htext := ((loadSchema_error_iff hholds).mp htext).2
      rw [herrors, throwText_singleton hpath.2] at htext
      have hbreak : '\n' ∉ text.toList := by
        have hmessage : '\n' ∉ cstr (trimBreaks e) := fun hmem => hquoted (he.breaks.mp hmem)
        simp [htext, hpath.1, hmessage]
      rw [hone, linesOf_of_not_mem hbreak, htext]
      have hstarts := he.named (.inl hmis)
      rw [← toList_what] at hstarts
      exact ⟨[v], .refl _, .cons (startsLine_iff.mpr hstarts) .nil⟩

/-- Every line names the file, so its path is on one line and has no NUL. -/
theorem unbroken_path (hholds : host.Holds path j) (h : Attributable host path j)
    (hsome : violations host j ≠ []) : Unbroken path := by
  obtain ⟨text, htext⟩ := h.throws hsome
  obtain ⟨vs, -, hlines⟩ := h.lines text htext
  obtain ⟨-, hthrow⟩ := (loadSchema_error_iff hholds).mp htext
  obtain ⟨line, hline⟩ := List.exists_mem_of_ne_nil _ (List.splitOn_ne_nil '\n' text.toList)
  obtain ⟨v, hv⟩ := exists_startsLine hlines hline
  have hmem : ∀ c ∈ path.toList, c ∈ text.toList ∧ c ≠ '\n' := by
    intro c hc
    exact mem_of_mem_linesOf hline (hv.subset (by simp [hc]))
  constructor
  · intro hbreak
    exact (hmem _ hbreak).2 rfl
  · intro hnul
    have hshown := (hmem _ hnul).1
    rw [hthrow, throwText, toList_what] at hshown
    exact nul_notMem_cstr _ hshown

/-- There is one line for each violation. -/
theorem length_linesOf (h : Attributable host path j) {text : String}
    (htext : loadSchema host path = .error text) :
    (linesOf text).length = (violations host j).length := by
  obtain ⟨vs, hperm, hlines⟩ := h.lines text htext
  rw [← hlines.length_eq, hperm.length_eq]

/-- A report that is as it should be has a single error. -/
theorem errors_eq_singleton (hholds : host.Holds path j) (hunforged : Unforged host path j)
    (h : Attributable host path j) (hsome : violations host j ≠ []) :
    ∃ e, (checkSchema host j).errors = [e] := by
  obtain ⟨text, htext⟩ := h.throws hsome
  obtain ⟨vs, -, hlines⟩ := h.lines text htext
  have hlength := length_linesOf h htext
  have hpath := unbroken_path hholds h hsome
  obtain ⟨herrors, rfl⟩ := (loadSchema_error_iff hholds).mp htext
  obtain ⟨us, hsub, hreports, -⟩ := reports_errors host j
  match hes : (checkSchema host j).errors with
  | [] => exact absurd hes herrors
  | [e] => exact ⟨e, rfl⟩
  | e :: e' :: es =>
      rw [hes] at hreports hlines hlength
      have htwo : 2 ≤ (violations host j).length := by
        have hus := hreports.length_eq
        have hle := hsub.length_le
        simp only [List.length_cons] at hus
        omega
      obtain ⟨hstart, hvalues⟩ := hunforged htwo
      by_cases hnul : '\x00' ∈ e.toList
      · -- the text ends in its first line
        obtain ⟨u, us', he, -, rfl⟩ := List.forall₂_cons_right_iff.mp hreports
        have hu : u ∈ violations host j := hsub.subset (by simp)
        have hquoted := hvalues (.inr ⟨u, hu, he.nul hnul⟩) u hu
        have hmessage : '\n' ∉ cstr (trimBreaks e) := fun hmem => hquoted (he.breaks.mp hmem)
        rw [throwText_of_nul hpath.2 hnul, linesOf_of_not_mem (by simp [hpath.1, hmessage])]
          at hlength
        simp only [List.length_singleton] at hlength
        omega
      · obtain ⟨a, b, hab⟩ := toList_throwText_cons_cons hpath.2 hnul e' es
        obtain ⟨line, hline, hline'⟩ := exists_line_of_break hab (by decide) (by decide)
        obtain ⟨v, hv⟩ := exists_startsLine hlines hline
        exact absurd (path_starts_of_startsLine (path_ne_empty hholds) hv hline') hstart

theorem reportable_of_attributable (hholds : host.Holds path j) (hunforged : Unforged host path j)
    (h : Attributable host path j) : Reportable host path j := by
  by_cases hnone : violations host j = []
  · exact .inl hnone
  obtain ⟨e, herrors⟩ := errors_eq_singleton hholds hunforged h hnone
  have hpath := unbroken_path hholds h hnone
  have htext : loadSchema host path = .error (path ++ ": " ++ what (trimBreaks e)) := by
    rw [loadSchema_error_iff hholds, herrors, throwText_singleton hpath.2]
    exact ⟨List.cons_ne_nil _ _, rfl⟩
  have hlength := length_linesOf h htext
  obtain ⟨vs, hsub, hreports, hall, hfewer⟩ := reports_errors host j
  rw [herrors] at hreports
  obtain ⟨v, vs', he, hvs', rfl⟩ := List.forall₂_cons_right_iff.mp hreports
  rw [List.forall₂_nil_right_iff.mp hvs'] at hsub hall hfewer
  -- with something overlooked there is one line, but more than one violation
  have hover : ¬ Overlooked host j := by
    intro hover
    have hmore := hfewer hover
    have hquoted := (hunforged hmore).2 (.inl hover) v (hsub.subset (by simp))
    have hmessage : '\n' ∉ cstr (trimBreaks e) := fun hmem => hquoted (he.breaks.mp hmem)
    rw [linesOf_of_not_mem (by simp [hpath.1, hmessage])] at hlength
    simp only [List.length_singleton] at hlength hmore
    omega
  have hone := (hall hover).symm
  rw [hone] at hlength
  have hbreak := not_mem_of_length_linesOf hlength
  have hmessage : '\n' ∉ cstr (trimBreaks e) := by
    intro hmem
    exact hbreak (by simp [hmem])
  have hline : (v.path ++ ": ").toList <+: cstr (trimBreaks e) := by
    obtain ⟨us, hperm, hlines⟩ := h.lines _ htext
    rw [hone, List.perm_singleton] at hperm
    rw [hperm, linesOf_of_not_mem hbreak] at hlines
    rw [← toList_what]
    exact startsLine_iff.mp (List.forall₂_cons.mp hlines).1
  have hmis : ¬ Mislabelled j := by
    intro hmis
    have hmem := mem_violations_of_mislabelled host hmis
    rw [hone, List.mem_singleton] at hmem
    have hfiles := he.misnamed hmis (by rw [← hmem])
    rw [← hmem] at hline
    exact absurd (List.prefix_of_prefix_length_le hfiles hline (by decide)) (by decide)
  exact .inr ⟨v, hone, hover, hmis, hpath, fun hmem => hmessage (he.breaks.mpr hmem)⟩

end Report

/-- **The report is one attributable line for each broken rule** when at most one is broken, and
that one is reported under its name and shown without line breaks; otherwise it is not, unless the
values in the file or its name forge the lines that are missing. -/
theorem report_attributable_iff {host : Host} {path : String} {j : Json}
    (hholds : host.Holds path j) :
    (Reportable host path j → Attributable host path j) ∧
      (Unforged host path j → Attributable host path j → Reportable host path j) :=
  ⟨attributable_of_reportable hholds, reportable_of_attributable hholds⟩

/-- A configuration with these sections beside the required ones of the database and OAuth. -/
def configWithSections (sections : List (String × Json)) : Json :=
  .object ([("database", .object [("url", .string "postgresql://u@h/d")]),
    ("oauth", .object [("issuer_url", .string "https://a"), ("audience", .string "x")])] ++ sections)

/-- One missing section is reported as it should be. -/
theorem report_attributable_log :
    (hostWith (configWithSections [("grpc", .object [])]) none).Holds "config.json"
        (configWithSections [("grpc", .object [])]) ∧
      Attributable (hostWith (configWithSections [("grpc", .object [])]) none) "config.json"
        (configWithSections [("grpc", .object [])]) := by
  have hholds := holds_hostWith (j := configWithSections [("grpc", .object [])]) none rfl
    (show "config.json" ≠ "" by decide)
  refine ⟨hholds, (report_attributable_iff hholds).1 ?_⟩
  refine .inr ⟨{ path := "log", rule := .missing }, by decide, ?_, ?_, by decide, by decide⟩
  · rintro (honly | ⟨c, hc⟩)
    · exact honly (unknownSections_eq_nil_iff.mp (by decide))
    · cases c with
      | databaseUrl => cases hc.1
      | int f =>
          obtain ⟨x, v, hx, -⟩ := hc
          cases f <;> cases hx
      | _ => exact hc
  · rintro ⟨x, v, hx, -⟩
    cases hx

/-- With two sections missing, the second line has no path. -/
theorem second_line_unattributed :
    loadSchema (hostWith (configWithSections []) none) "config.json" =
        .error "config.json: grpc: missing required field\n: log: missing required field" ∧
      ¬ Attributable (hostWith (configWithSections []) none) "config.json"
        (configWithSections []) := by
  have hholds := holds_hostWith (j := configWithSections []) none rfl
    (show "config.json" ≠ "" by decide)
  have htwo : (violations (hostWith (configWithSections []) none) (configWithSections [])).length = 2 := by
    decide
  constructor
  · rfl
  · intro h
    have hunforged : Unforged (hostWith (configWithSections []) none) "config.json"
        (configWithSections []) := by
      intro _
      exact ⟨by decide, fun _ => by decide⟩
    rcases reportable_of_attributable hholds hunforged h with hnone | ⟨v, hone, -⟩
    · rw [hnone] at htwo
      cases htwo
    · rw [hone] at htwo
      cases htwo

end EvGrpc
