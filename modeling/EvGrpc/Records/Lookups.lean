import EvGrpc.Lib.Paging
import EvGrpc.Services.Written

/-!
# The lookup tables

`WeatherService` and `SourceCategoryService` keep names.  A `Create` answers with the name of
its request, where the other services read the row back, so the reply is the stored row exactly
when the column keeps the name as it is: no NUL ends it early, and it is not so long that spaces
at its end are cut.  Where it is the stored row, a search for any beginning of the name finds
it once, among exactly the names that begin so, in ascending order, whatever the collation.
-/

namespace EvGrpc

open Lib

/-! ## Names in a column -/

/-- A name that a `VARCHAR(36)` keeps as it is. -/
def PlainName (name : String) : Prop := '\x00' ∉ name.toList ∧ name.length ≤ 36

instance : DecidablePred PlainName := fun _ => inferInstanceAs (Decidable (_ ∧ _))

theorem length_le_of_varcharIn {n : ℕ} {s x : String} (h : varcharIn n s = some x) :
    x.length ≤ n := by
  unfold varcharIn at h
  by_cases hlen : s.length ≤ n
  · rw [if_pos hlen] at h
    cases h
    exact hlen
  · rw [if_neg hlen] at h
    by_cases hspaces : (s.toList.drop n).all (· == ' ') = true
    · rw [if_pos hspaces] at h
      cases h
      simp
    · rw [if_neg hspaces] at h
      cases h

/-- What a column keeps is a beginning of what arrived. -/
theorem isPrefix_of_varcharIn {n : ℕ} {s x : String} (h : varcharIn n s = some x) :
    x.toList <+: s.toList := by
  unfold varcharIn at h
  by_cases hlen : s.length ≤ n
  · rw [if_pos hlen] at h
    cases h
    exact List.prefix_refl _
  · rw [if_neg hlen] at h
    by_cases hspaces : (s.toList.drop n).all (· == ' ') = true
    · rw [if_pos hspaces] at h
      cases h
      rw [String.toList_ofList]
      exact List.take_prefix _ _
    · rw [if_neg hspaces] at h
      cases h

/-- The stored name is the given one exactly if that is plain. -/
theorem stored_name_iff {name x : String} (h : varcharIn 36 (received name) = some x) :
    x = name ↔ PlainName name := by
  constructor
  · rintro rfl
    have hnul : '\x00' ∉ (received x).toList := by
      rw [← cstr_eq_toList_iff, cstr_received, received, String.toList_ofList]
    exact ⟨fun hmem => hnul ((isPrefix_of_varcharIn h).mem hmem), length_le_of_varcharIn h⟩
  · rintro ⟨hnul, hlen⟩
    rw [received_eq_self_iff.mpr hnul, varcharIn, if_pos hlen] at h
    cases h
    rfl

/-! ## Lookup tables -/

/-- A lookup table with its statements: rows with an id of their own and a name, a message for
the two, and an `INSERT` that stores the id and what the column keeps of the name. -/
structure LookupTable (α ρ : Type) where
  rows : Database → List α
  id : α → Uuid
  name : α → String
  message : String → String → ρ
  insert : List Param → Write Unit
  pk : ∀ db, ((rows db).map id).Nodup
  rows_perm : ∀ {db v : Database}, db.SameRows v → (rows v).Perm (rows db)
  message_inj : Function.Injective2 message
  insert_ok : ∀ {db db' u given}, (insert [.text (uuidOut u), .text given]).run db = .ok ((), db') →
    ∃ row, id row = u ∧ varcharIn 36 (received given) = some (name row) ∧
      rows db' = row :: rows db

namespace LookupTable
variable {α ρ : Type} (L : LookupTable α ρ) (collation : Collation) {db db' : Database}

/-- The message of a row. -/
def record (a : α) : ρ := L.message (uuidOut (L.id a)) (L.name a)

/-- The rows whose name begins with `p`; no character of `p` has a meaning of its own. -/
def beginning (p : String) (db : Database) : List α :=
  (L.rows db).filter fun a => p.toList.isPrefixOf (L.name a).toList

/-- The search for `p` finds the row once, among exactly the rows whose name begins with `p`,
by ascending names. -/
def FoundBy [DecidableEq ρ] (search : Prog Op (Reply (List ρ))) (db : Database) (p : String)
    (row : α) : Prop :=
  Replies db search fun r => ∃ found : List α, r = (.OK, some (found.map L.record)) ∧
    found.Perm (L.beginning p db) ∧ (found.Pairwise fun a b => collation.le (L.name a) (L.name b)) ∧
    (found.map L.record).count (L.record row) = 1

/-- The reply of a `Create` is the row it has stored, and every search for a beginning of the
name finds that row. -/
def Faithful [DecidableEq ρ] (search : Metadata → String → Int32 → Prog Op (Reply (List ρ)))
    (db db' : Database) (name : String) (r : Reply ρ) : Prop :=
  ∃ row, (∀ a, a ∈ L.rows db' ↔ a = row ∨ a ∈ L.rows db) ∧ row ∉ L.rows db ∧
    r = (.OK, some (L.record row)) ∧
    ∀ md p (limit : Int32), p.toList <+: name.toList → 0 < limit.toInt →
      ((L.beginning p db').length : ℤ) ≤ limit.toInt →
        L.FoundBy collation (search md p limit) db' p row

/-- Different rows have different messages. -/
theorem nodup_records (db : Database) : ((L.rows db).map L.record).Nodup := by
  refine (List.Nodup.of_map L.id (L.pk db)).map_on ?_
  intro a ha b hb hab
  have hids : uuidOut (L.id a) = uuidOut (L.id b) := (L.message_inj hab).1
  exact List.inj_on_of_nodup_map (L.pk db) ha hb (uuidOut_injective hids)

/-- The statement of a search, when its limit is no limit. -/
theorem searchNames_sorts {p : String} {limit : ℤ} {v : Database} (hnul : '\x00' ∉ p.toList)
    (hlimit : ((L.beginning p v).length : ℤ) ≤ limit) :
    searchNames collation L.name p limit (L.rows v) =
      (L.beginning p v).mergeSort fun a b => collation.le (L.name a) (L.name b) := by
  rw [searchNames, cstr_eq_toList_iff.mpr hnul]
  apply List.take_of_length_le
  rw [List.length_mergeSort]
  unfold beginning at hlimit
  omega

theorem sorts_names : Sorts fun a b => collation.le (L.name a) (L.name b) where
  trans := fun _ _ _ hab hbc => collation.trans _ _ _ hab hbc
  total := fun _ _ => collation.total _ _

/-- A search for the beginning of a stored name finds its row. -/
theorem foundBy_searchLookup [DecidableEq ρ] {kMethod : String} {md : Metadata} {p : String}
    {limit : Int32} {row : α} (hrow : row ∈ L.beginning p db) (hnul : '\x00' ∉ p.toList)
    (hpos : 0 < limit.toInt)
    (hlimit : ((L.beginning p db).length : ℤ) ≤ limit.toInt) :
    L.FoundBy collation (searchLookup collation kMethod L.rows L.name L.record md p limit) db p
      row := by
  have hsearch : searchLookup collation kMethod L.rows L.name L.record md p limit =
      authenticated md kMethod (catching (readAll
        (fun db => .ok (searchNames collation L.name p limit.toInt (L.rows db))) fun result =>
          .ok (result.map L.record))) := by
    rw [searchLookup, if_pos hpos]
  unfold FoundBy
  rw [hsearch]
  apply replies_readAll
  intro v hv
  have hperm : (L.beginning p v).Perm (L.beginning p db) := (L.rows_perm hv).filter _
  have hfound := arranges_mergeSort (L.sorts_names collation) hperm
  refine ⟨searchNames collation L.name p limit.toInt (L.rows v), rfl, ?_⟩
  rw [L.searchNames_sorts collation hnul (by rw [hperm.length_eq]; exact hlimit)]
  refine ⟨hfound.perm, hfound.sorted, ?_⟩
  apply List.count_eq_one_of_mem
  · rw [(hfound.perm.map L.record).nodup_iff]
    exact (List.filter_sublist.map L.record).nodup (L.nodup_records db)
  · exact List.mem_map_of_mem (hfound.perm.mem_iff.mpr hrow)

/-- A `Create` that succeeded is faithful exactly if its name is plain. -/
theorem faithful_iff [DecidableEq ρ] {createMethod searchMethod : String} {md : Metadata}
    {name : String} {r : Reply ρ}
    (h : Serves db (createLookup createMethod L.insert L.message md name) r db')
    (hok : r.1 = .OK) :
    L.Faithful collation (searchLookup collation searchMethod L.rows L.name L.record) db db' name
        r ↔
      PlainName name := by
  obtain ⟨u, hrun, rfl⟩ := serves_createLookup_ok (by rw [hok]; rfl) h
  obtain ⟨row, hid, hstored, hrows⟩ := L.insert_ok hrun
  have hnew : row ∉ L.rows db := by
    have hpk := L.pk db'
    rw [hrows, List.map_cons, List.nodup_cons] at hpk
    exact fun hmem => hpk.1 (List.mem_map_of_mem hmem)
  rw [← stored_name_iff hstored]
  constructor
  · rintro ⟨row', hmem, hnew', hr, -⟩
    have hsame : row' = row := by
      have hrow' := (hmem row').mpr (.inl rfl)
      rw [hrows, List.mem_cons] at hrow'
      exact hrow'.resolve_right hnew'
    subst hsame
    have hrecord : L.message (uuidOut u) name = L.record row' := by
      simpa using hr
    exact (L.message_inj hrecord).2.symm
  · intro hname
    refine ⟨row, ?_, hnew, ?_, ?_⟩
    · intro a
      rw [hrows, List.mem_cons]
    · rw [record, hid, hname]
    · intro md p limit hp hpos hlimit
      have hplain : PlainName name := (stored_name_iff hstored).mp hname
      have hmem : row ∈ L.beginning p db' := by
        refine List.mem_filter.mpr ⟨by simp [hrows], ?_⟩
        rw [hname, List.isPrefixOf_iff_prefix]
        exact hp
      exact L.foundBy_searchLookup collation hmem (fun hnul => hplain.1 (hp.mem hnul)) hpos hlimit

end LookupTable

/-! ## The two services -/

/-- What the two parameters of an `INSERT` become. -/
theorem lookupRow_given {u : Uuid} {given : String} {x : Uuid × String}
    (h : lookupRow [.text (uuidOut u), .text given] = .ok x) :
    x.1 = u ∧ varcharIn 36 (received given) = some x.2 := by
  obtain ⟨hid, hname⟩ := lookupRow_ok h
  cases (asUuid_uuidOut u).symm.trans hid
  exact ⟨rfl, asVarchar_text hname⟩

/-- The table of `WeatherService`. -/
def weatherLookup : LookupTable WeatherRow Weather where
  rows := Database.weather
  id := WeatherRow.id
  name := WeatherRow.name
  message := Weather.mk
  insert := .insertWeather
  pk := Database.weather_pk
  rows_perm := fun h => h.2.1.symm
  message_inj := by
    intro i j a b h
    cases h
    exact ⟨rfl, rfl⟩
  insert_ok := by
    intro db db' u given h
    obtain ⟨x, hx, h⟩ := bind_eq_ok.mp h
    obtain ⟨_, _, rfl⟩ := runInsertWeather_ok h
    exact ⟨⟨x.1, x.2⟩, (lookupRow_given hx).1, (lookupRow_given hx).2, rfl⟩

/-- The table of `SourceCategoryService`. -/
def sourceCategoryLookup : LookupTable SourceCategoryRow SourceCategory where
  rows := Database.sourceCategory
  id := SourceCategoryRow.id
  name := SourceCategoryRow.name
  message := SourceCategory.mk
  insert := .insertSourceCategory
  pk := Database.sourceCategory_pk
  rows_perm := fun h => h.2.2.1.symm
  message_inj := by
    intro i j a b h
    cases h
    exact ⟨rfl, rfl⟩
  insert_ok := by
    intro db db' u given h
    obtain ⟨x, hx, h⟩ := bind_eq_ok.mp h
    obtain ⟨_, _, rfl⟩ := runInsertSourceCategory_ok h
    exact ⟨⟨x.1, x.2⟩, (lookupRow_given hx).1, (lookupRow_given hx).2, rfl⟩

/-- **Creating a name is faithful and searchable** exactly if the column keeps the name as it
is. -/
theorem lookup_faithful_iff (collation : Collation) (name : String) :
    (∀ db md r db', Serves db (createWeather md ⟨name⟩) r db' → r.1 = .OK →
      (weatherLookup.Faithful collation (fun md p limit => searchWeather collation md ⟨p, limit⟩)
        db db' name r ↔ PlainName name)) ∧
    (∀ db md r db', Serves db (createSourceCategory md ⟨name⟩) r db' → r.1 = .OK →
      (sourceCategoryLookup.Faithful collation
        (fun md p limit => searchSourceCategory collation md ⟨p, limit⟩) db db' name r ↔
          PlainName name)) := by
  constructor
  · intro db md r db' hserves hok
    exact weatherLookup.faithful_iff collation hserves hok
  · intro db md r db' hserves hok
    exact sourceCategoryLookup.faithful_iff collation hserves hok

/-- Two names, one of them with a character that is a wildcard elsewhere. -/
def skies : Database :=
  (Database.empty.insertWeather ⟨someUuid 1, "rain"⟩ (by simp [Database.empty])
    (by simp [Database.empty])).insertWeather ⟨someUuid 2, "sun%"⟩
      (by decide) (by decide)

/-- A plain name that is stored among others, in either table. -/
theorem lookup_faithful_sunny :
    (∃ r db', Serves skies (createWeather [] ⟨"sunny"⟩) r db' ∧
      (r.1 = .OK ∧ (weatherLookup.beginning "sun" db').map WeatherRow.name = ["sunny", "sun%"] ∧
        (weatherLookup.beginning "sun%" db').map WeatherRow.name = ["sun%"]) ∧
      weatherLookup.Faithful .byCodePoint
        (fun md p limit => searchWeather .byCodePoint md ⟨p, limit⟩) skies db' "sunny" r) ∧
    ∃ r db', Serves stocked (createSourceCategory [] ⟨"hotel"⟩) r db' ∧
      (r.1 = .OK ∧
        (sourceCategoryLookup.beginning "ho" db').map SourceCategoryRow.name = ["hotel", "home"]) ∧
      sourceCategoryLookup.Faithful .byCodePoint
        (fun md p limit => searchSourceCategory .byCodePoint md ⟨p, limit⟩) stocked db'
          "hotel" r := by
  have hweather : ∃ r db', Serves skies (createWeather [] ⟨"sunny"⟩) r db' ∧
      r.1 = .OK ∧ (weatherLookup.beginning "sun" db').map WeatherRow.name = ["sunny", "sun%"] ∧
        (weatherLookup.beginning "sun%" db').map WeatherRow.name = ["sun%"] :=
    Serves.exists_run 1 (List.replicate 12 {}) (clean_replicate 12) (by decide +kernel)
  have hcategory : ∃ r db', Serves stocked (createSourceCategory [] ⟨"hotel"⟩) r db' ∧
      r.1 = .OK ∧
        (sourceCategoryLookup.beginning "ho" db').map SourceCategoryRow.name = ["hotel", "home"] :=
    Serves.exists_run 1 (List.replicate 12 {}) (clean_replicate 12) (by decide +kernel)
  obtain ⟨r, db', hserves, hshown⟩ := hweather
  obtain ⟨r₂, db₂, hserves₂, hshown₂⟩ := hcategory
  have hiff := (lookup_faithful_iff .byCodePoint "sunny").1 skies [] r db' hserves hshown.1
  have hiff₂ := (lookup_faithful_iff .byCodePoint "hotel").2 stocked [] r₂ db₂ hserves₂ hshown₂.1
  exact ⟨⟨r, db', hserves, hshown, hiff.mpr (by decide)⟩,
    ⟨r₂, db₂, hserves₂, hshown₂, hiff₂.mpr (by decide)⟩⟩

/-- Thirty-six characters and a space: the space is cut from the row, and not from the reply. -/
theorem trailing_space_echoed :
    ∃ r db', Serves .empty (createWeather [] ⟨"rain at first, sunny spells later on "⟩) r db' ∧
      (r.1 = .OK ∧
        r.2.map Weather.name = some "rain at first, sunny spells later on " ∧
        db'.weather.map WeatherRow.name = ["rain at first, sunny spells later on"]) ∧
      ¬ weatherLookup.Faithful .byCodePoint
        (fun md p limit => searchWeather .byCodePoint md ⟨p, limit⟩) .empty db'
          "rain at first, sunny spells later on " r := by
  have hrun : ∃ r db',
      Serves .empty (createWeather [] ⟨"rain at first, sunny spells later on "⟩) r db' ∧
        (r.1 = .OK ∧
          r.2.map Weather.name = some "rain at first, sunny spells later on " ∧
          db'.weather.map WeatherRow.name = ["rain at first, sunny spells later on"]) :=
    Serves.exists_run 1 (List.replicate 12 {}) (clean_replicate 12) (by decide +kernel)
  obtain ⟨r, db', hserves, hshown⟩ := hrun
  refine ⟨r, db', hserves, hshown, fun hfaithful => ?_⟩
  have hplain := (weatherLookup.faithful_iff .byCodePoint hserves hshown.1).mp hfaithful
  exact absurd hplain (by decide)

end EvGrpc
