import EvGrpc.Config.Integers

/-!
# The database URL

The comment of the source: the file wins over `EVGRPC_DATABASE_URL`, which takes over when the
file has no URL, an empty one, or one of the wrong type.  `database_url_exact_iff` says when
the URL is chosen and checked so.  It is not in two cases: without a `database` section the
variable is taken unchecked, and a URL of the wrong type is an error even if the variable
holds a good one.
-/

namespace EvGrpc

open Lib

/-! ## The rule -/

/-- The URL that the file gives, empty if there is none. -/
def fileUrl (j : Json) : String := ((field? j .database "url").bind Json.string?).getD ""

/-- The URL of the file if it is not empty, otherwise that of the environment. -/
def selectedUrl (host : Host) (j : Json) : String :=
  if fileUrl j ≠ "" then fileUrl j else dbUrlEnv host

def IsDatabaseUrl (s : String) : Prop := startsWith "postgresql://" s = true

instance (s : String) : Decidable (IsDatabaseUrl s) := inferInstanceAs (Decidable (_ = _))

/-- The other sections are valid, and no section has an unknown key. -/
def OthersSilent (host : Host) (j : Json) : Prop :=
  ∀ c : Check, c ≠ .object .database → c ≠ .databaseUrl → c.errors host j = []

/-- Every member of the top level is a section. -/
def OnlySections (j : Json) : Prop := ∀ m ∈ j.members, ∃ p : Part, p.name = m.1

/-- There is a `database`, and it is not an object. -/
def DatabaseNotObject (j : Json) : Prop :=
  ∃ db, j.member? "database" = some db ∧ db.isObject = false

/-- There is a `database.url`, and it is not a string. -/
def UrlNotString (j : Json) : Prop :=
  ∃ x, field? j .database "url" = some x ∧ x.string? = none

/-- The URL of a loaded configuration is the selected one, with its scheme; and with nothing
else wrong a configuration is refused only for its URL. -/
structure DatabaseUrlExact (host : Host) (path : String) (j : Json) : Prop where
  selected : ∀ cfg, loadSchema host path = .ok cfg →
    IsDatabaseUrl cfg.database.url ∧ cfg.database.url = selectedUrl host j
  refused : OthersSilent host j → OnlySections j →
    ((¬ ∃ cfg, loadSchema host path = .ok cfg) ↔
      DatabaseNotObject j ∨ selectedUrl host j = "" ∨ ¬ IsDatabaseUrl (selectedUrl host j))

/-! ## One section -/

theorem isDatabaseUrl_ne_empty {s : String} (h : IsDatabaseUrl s) : s ≠ "" := by
  intro hs
  rw [hs] at h
  exact absurd h (by decide)

section Resolve
variable {json env : String}

theorem resolveUrl_errors_iff : (resolveUrl json env).errors = [] ↔
    IsDatabaseUrl (if json ≠ "" then json else env) := by
  unfold resolveUrl
  by_cases hjson : json ≠ ""
  · by_cases hs : startsWith "postgresql://" json <;> simp [hjson, hs, IsDatabaseUrl]
  · by_cases henv : env ≠ ""
    · by_cases hs : startsWith "postgresql://" env <;> simp [hjson, henv, hs, IsDatabaseUrl]
    · have hempty : ¬ IsDatabaseUrl "" := by decide
      simp only [not_not] at hjson henv
      simp [hjson, henv, hempty]

theorem resolveUrl_value (h : (resolveUrl json env).errors = []) :
    (resolveUrl json env).value = if json ≠ "" then json else env := by
  have hurl := resolveUrl_errors_iff.mp h
  unfold resolveUrl
  by_cases hjson : json ≠ ""
  · rw [if_pos hjson] at hurl
    simp [hjson, show startsWith "postgresql://" json = true from hurl]
  · rw [if_neg hjson] at hurl
    have henv := isDatabaseUrl_ne_empty hurl
    simp [hjson, henv, show startsWith "postgresql://" env = true from hurl]

end Resolve

section Section
variable {host : Host} {j db : Json}

theorem jsonUrl_value (db : Json) : (jsonUrl db).value = ((db.member? "url").bind Json.string?).getD "" := by
  unfold jsonUrl
  cases db.member? "url" with
  | none => rfl
  | some x => cases hx : x.string? <;> simp [hx]

theorem jsonUrl_errors_iff (h : j.member? "database" = some db) :
    (jsonUrl db).errors = [] ↔ ¬ UrlNotString j := by
  have hfield : field? j .database "url" = db.member? "url" := by
    simp [field?, Part.name, h]
  unfold jsonUrl UrlNotString
  rw [hfield]
  cases db.member? "url" with
  | none => simp
  | some x => cases hx : x.string? <;> simp [hx]

theorem fileUrl_eq (h : j.member? "database" = some db) : fileUrl j = (jsonUrl db).value := by
  rw [jsonUrl_value]
  simp [fileUrl, field?, Part.name, h]

theorem fileUrl_of_none (h : j.member? "database" = none) : fileUrl j = "" := by
  simp [fileUrl, field?, Part.name, h]

/-- When the checks of the section say nothing. -/
theorem database_silent_iff :
    ((Check.object .database).errors host j = [] ∧ Check.databaseUrl.errors host j = []) ↔
      (j.member? "database" = none ∧ dbUrlEnv host ≠ "") ∨
        ((∃ db, j.member? "database" = some db ∧ db.isObject = true) ∧ ¬ UrlNotString j ∧
          IsDatabaseUrl (selectedUrl host j)) := by
  cases h : j.member? "database" with
  | none =>
      simp only [Check.errors, Part.name, h]
      by_cases henv : dbUrlEnv host ≠ "" <;> simp [henv]
  | some db =>
      have hs := part?_of_some (p := .database) h
      have hurl : selectedUrl host j =
          if (jsonUrl db).value ≠ "" then (jsonUrl db).value else dbUrlEnv host := by
        rw [selectedUrl, fileUrl_eq h]
      by_cases hdb : db.isObject
      · simp only [Check.errors, Part.name, h, inPart, hs, hdb, if_true, Option.elim_some,
          List.append_eq_nil_iff, jsonUrl_errors_iff h, resolveUrl_errors_iff, hurl]
        simp [hdb]
      · simp [Check.errors, Part.name, h, hdb]

/-- The URL of the configuration, when the checks of the section say nothing. -/
theorem url_checkDatabase (hobject : (Check.object .database).errors host j = [])
    (hurl : Check.databaseUrl.errors host j = []) :
    (checkDatabase host j).value.url = selectedUrl host j := by
  rcases database_silent_iff.mp ⟨hobject, hurl⟩ with ⟨h, henv⟩ | ⟨⟨db, h, hdb⟩, -, hselected⟩
  · simp [checkDatabase, h, henv, selectedUrl, fileUrl_of_none h]
  · rw [selectedUrl, fileUrl_eq h] at hselected ⊢
    have hvalue := resolveUrl_value (resolveUrl_errors_iff.mpr hselected)
    simp only [checkDatabase, h, hdb, hvalue, Bool.not_true, Bool.false_eq_true, if_false]

end Section

/-! ## The whole configuration -/

section Load
variable {host : Host} {path : String} {j : Json}

/-- With nothing else wrong, it is the database that decides. -/
theorem loads_iff_of_othersSilent (hholds : host.Holds path j) (hothers : OthersSilent host j) :
    (∃ cfg, loadSchema host path = .ok cfg) ↔
      (Check.object .database).errors host j = [] ∧ Check.databaseUrl.errors host j = [] := by
  constructor
  · rintro ⟨cfg, hcfg⟩
    have hall := ((loadSchema_ok_iff hholds).mp hcfg).1
    exact ⟨hall _, hall _⟩
  · intro ⟨hobject, hurl⟩
    have hall : ∀ c : Check, c.errors host j = [] := by
      intro c
      by_cases hc : c = .object .database
      · rw [hc, hobject]
      · by_cases hc' : c = .databaseUrl
        · rw [hc', hurl]
        · exact hothers c hc hc'
    exact ⟨_, (loadSchema_ok_iff hholds).mpr ⟨hall, rfl⟩⟩

theorem othersSilent_of_ok (hholds : host.Holds path j) {cfg : SchemaConfig}
    (hcfg : loadSchema host path = .ok cfg) : OthersSilent host j := by
  intro c _ _
  exact ((loadSchema_ok_iff hholds).mp hcfg).1 c

theorem url_of_ok (hholds : host.Holds path j) {cfg : SchemaConfig}
    (hcfg : loadSchema host path = .ok cfg) : cfg.database.url = selectedUrl host j := by
  obtain ⟨hall, rfl⟩ := (loadSchema_ok_iff hholds).mp hcfg
  exact url_checkDatabase (hall _) (hall _)

/-- Without a section the variable is selected. -/
theorem selectedUrl_of_none (h : j.member? "database" = none) : selectedUrl host j = dbUrlEnv host := by
  simp [selectedUrl, fileUrl_of_none h]

theorem selectedUrl_of_urlNotString (h : UrlNotString j) : selectedUrl host j = dbUrlEnv host := by
  obtain ⟨x, hx, hstring⟩ := h
  simp [selectedUrl, fileUrl, hx, hstring]

theorem not_databaseNotObject_of_urlNotString (h : UrlNotString j) : ¬ DatabaseNotObject j := by
  obtain ⟨x, hx, -⟩ := h
  obtain ⟨db, hdb, hmember⟩ := Option.bind_eq_some_iff.mp hx
  rintro ⟨db', hdb', hobject⟩
  have hsame : db' = db := Option.some.inj (hdb'.symm.trans hdb)
  rw [hsame, Json.isObject_of_member? hmember] at hobject
  cases hobject

/-- A variable that the section does not check is loaded as it is. -/
theorem loads_of_unchecked (hholds : host.Holds path j) (hothers : OthersSilent host j)
    (hnone : j.member? "database" = none) (henv : dbUrlEnv host ≠ "") :
    ∃ cfg, loadSchema host path = .ok cfg :=
  (loads_iff_of_othersSilent hholds hothers).mpr (database_silent_iff.mpr (.inl ⟨hnone, henv⟩))

/-- A URL of the wrong type is refused, whatever the variable holds. -/
theorem fails_of_urlNotString (hholds : host.Holds path j) (hothers : OthersSilent host j)
    (hurl : UrlNotString j) : ¬ ∃ cfg, loadSchema host path = .ok cfg := by
  rw [loads_iff_of_othersSilent hholds hothers, database_silent_iff]
  rintro (⟨hnone, -⟩ | ⟨-, hstring, -⟩)
  · obtain ⟨x, hx, -⟩ := hurl
    simp [field?, Part.name, hnone] at hx
  · exact hstring hurl

/-- Where neither branch goes wrong, it is the rule that decides. -/
theorem fails_iff (hholds : host.Holds path j) (hothers : OthersSilent host j)
    (hsection : ¬ (j.member? "database" = none ∧ dbUrlEnv host ≠ "" ∧
      ¬ IsDatabaseUrl (dbUrlEnv host)))
    (hstring : ¬ (UrlNotString j ∧ IsDatabaseUrl (dbUrlEnv host))) :
    (¬ ∃ cfg, loadSchema host path = .ok cfg) ↔
      DatabaseNotObject j ∨ selectedUrl host j = "" ∨ ¬ IsDatabaseUrl (selectedUrl host j) := by
  rw [loads_iff_of_othersSilent hholds hothers, database_silent_iff]
  cases h : j.member? "database" with
  | none =>
      rw [selectedUrl_of_none h]
      by_cases henv : dbUrlEnv host = ""
      · simp [henv]
      · by_cases hgood : IsDatabaseUrl (dbUrlEnv host)
        · simp [DatabaseNotObject, h, henv, hgood]
        · exact absurd ⟨h, henv, hgood⟩ hsection
  | some db =>
      by_cases hdb : db.isObject
      · by_cases hurl : UrlNotString j
        · have hbad : ¬ IsDatabaseUrl (dbUrlEnv host) := fun hgood => hstring ⟨hurl, hgood⟩
          simp [hurl, selectedUrl_of_urlNotString hurl, hbad]
        · by_cases hgood : IsDatabaseUrl (selectedUrl host j)
          · simp [DatabaseNotObject, h, hdb, hurl, hgood, isDatabaseUrl_ne_empty hgood]
          · simp [hgood]
      · simp [DatabaseNotObject, h, hdb]

end Load

/-- **The URL is chosen and checked by the rule** unless nothing else is wrong and either there
is no section and the variable has another scheme, or the URL of the file is not a string and
that of the variable is good. -/
theorem database_url_exact_iff {host : Host} {path : String} {j : Json}
    (hholds : host.Holds path j) : DatabaseUrlExact host path j ↔
      (OthersSilent host j →
        ¬ (j.member? "database" = none ∧ dbUrlEnv host ≠ "" ∧ ¬ IsDatabaseUrl (dbUrlEnv host)) ∧
        (OnlySections j → ¬ (UrlNotString j ∧ IsDatabaseUrl (dbUrlEnv host)))) := by
  constructor
  · intro hexact hothers
    constructor
    · rintro ⟨hnone, henv, hbad⟩
      obtain ⟨cfg, hcfg⟩ := loads_of_unchecked hholds hothers hnone henv
      obtain ⟨hscheme, hurl⟩ := hexact.selected cfg hcfg
      rw [hurl, selectedUrl_of_none hnone] at hscheme
      exact hbad hscheme
    · rintro honly ⟨hurl, hgood⟩
      have hfails := fails_of_urlNotString hholds hothers hurl
      rcases (hexact.refused hothers honly).mp hfails with hobject | hempty | hbad
      · exact not_databaseNotObject_of_urlNotString hurl hobject
      · rw [selectedUrl_of_urlNotString hurl] at hempty
        exact isDatabaseUrl_ne_empty hgood hempty
      · rw [selectedUrl_of_urlNotString hurl] at hbad
        exact hbad hgood
  · intro hcond
    constructor
    · intro cfg hcfg
      have hothers := othersSilent_of_ok hholds hcfg
      have hsilent := (loads_iff_of_othersSilent hholds hothers).mp ⟨cfg, hcfg⟩
      rw [url_of_ok hholds hcfg]
      refine ⟨?_, rfl⟩
      rcases database_silent_iff.mp hsilent with ⟨hnone, henv⟩ | ⟨-, -, hselected⟩
      · rw [selectedUrl_of_none hnone]
        by_contra hbad
        exact (hcond hothers).1 ⟨hnone, henv, hbad⟩
      · exact hselected
    · intro hothers honly
      obtain ⟨hsection, hstring⟩ := hcond hothers
      exact fails_iff hholds hothers hsection (hstring honly)

/-- A configuration with just what is required, and no database. -/
def configWithoutDatabase : Json :=
  .object
    [("oauth", .object [("issuer_url", .string "https://a"), ("audience", .string "x")]),
      ("grpc", .object []), ("log", .object [])]

/-- The rule decides when the variable holds a good URL and there is no section. -/
theorem database_url_exact_env :
    (hostWith configWithoutDatabase (some "postgresql://e@h/d")).Holds "config.json"
        configWithoutDatabase ∧
      DatabaseUrlExact (hostWith configWithoutDatabase (some "postgresql://e@h/d")) "config.json"
        configWithoutDatabase := by
  have hholds := holds_hostWith (j := configWithoutDatabase) (some "postgresql://e@h/d") rfl
    (show "config.json" ≠ "" by decide)
  refine ⟨hholds, (database_url_exact_iff hholds).mpr ?_⟩
  intro _
  constructor
  · rintro ⟨-, -, hbad⟩
    exact hbad (by decide)
  · rintro - ⟨⟨x, hx, -⟩, -⟩
    cases hx

/-- Without a section, a variable that names another database is taken as it is. -/
theorem mysql_url_loaded :
    (∃ cfg, loadSchema (hostWith configWithoutDatabase (some "mysql://env@h/d")) "config.json" =
      .ok cfg ∧ cfg.database.url = "mysql://env@h/d") ∧
    ¬ DatabaseUrlExact (hostWith configWithoutDatabase (some "mysql://env@h/d")) "config.json"
      configWithoutDatabase := by
  have hload : ∃ cfg, loadSchema (hostWith configWithoutDatabase (some "mysql://env@h/d"))
      "config.json" = .ok cfg ∧ cfg.database.url = "mysql://env@h/d" := ⟨_, rfl, rfl⟩
  refine ⟨hload, ?_⟩
  intro hexact
  obtain ⟨cfg, hcfg, hurl⟩ := hload
  have hscheme := (hexact.selected cfg hcfg).1
  rw [hurl] at hscheme
  exact absurd hscheme (by decide)

end EvGrpc
