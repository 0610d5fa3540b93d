import EvGrpc.Db.Types

/-!
# The migrations to `TIMESTAMPTZ`

`sql/002_charging_timestamptz_migration.sql` and `sql/003_consumption_timestamptz_migration.sql`
turn the four columns that were once declared `TIMESTAMP` into `TIMESTAMPTZ`.  Each script asks
the catalog about each of its columns and alters those that are still bare, in one transaction.

The expression of an `ALTER` is `col AT TIME ZONE 'UTC'`.  On a bare column it reads the wall
clocks in UTC, whatever the zone of the session; on a column that has been migrated it would
give wall clocks back, which the assignment to the new type reads in the zone of the session.
The guards keep the second from happening: a script promotes the columns it names
(`run_eq_promote`), and promoting twice is promoting once.

The tables are those of the schema `public`, to which the unqualified names of the `ALTER`s
resolve.
-/

namespace EvGrpc

open Lib

/-! ## Values with and without a time zone -/

/-- A `TIMESTAMP` value: a date and the microseconds since its midnight. -/
structure WallClock where
  date : Date
  micros : ℕ
  micros_lt : micros < 86400000000
  deriving DecidableEq

/-- A value of a date/time type: two of them are before and after all others. -/
inductive Endless (α : Type)
  | negInfinity
  | finite (a : α)
  | infinity
  deriving DecidableEq

/-- A cell of a column; `none` is `NULL`. -/
abbrev Cell (α : Type) := Option (Endless α)

/-- Convert what is finite. -/
def Endless.map {α β : Type} (f : α → β) : Endless α → Endless β
  | .negInfinity => .negInfinity
  | .finite a => .finite (f a)
  | .infinity => .infinity

/-- A time zone: the wall clock it shows at an instant, and the instant it takes a wall clock
for. -/
structure TimeZone where
  wall : Instant → WallClock
  instant : WallClock → Instant

/-- The zone `'UTC'`. -/
def utc : TimeZone where
  wall t := ⟨dateOf t, (t % microsPerDay).toNat, by
    have h₁ := Int.emod_lt_of_pos t (show 0 < microsPerDay by decide)
    unfold microsPerDay at h₁ ⊢
    omega⟩
  instant w := (w.date.toDays - epochDay) * microsPerDay + w.micros

/-- The instant is the one that the wall clock names in UTC: it falls on its date, at its time
of day. -/
def NamesInUtc (w : WallClock) (t : Instant) : Prop :=
  dateOf t = w.date ∧ t % microsPerDay = w.micros

theorem ediv_emod_microsPerDay (n : ℤ) {m : ℕ} (h : m < 86400000000) :
    (n * microsPerDay + m) / microsPerDay = n ∧ (n * microsPerDay + m) % microsPerDay = m := by
  unfold microsPerDay
  omega

theorem namesInUtc_instant (w : WallClock) : NamesInUtc w (utc.instant w) := by
  obtain ⟨hdiv, hmod⟩ := ediv_emod_microsPerDay (w.date.toDays - epochDay) w.micros_lt
  refine ⟨?_, hmod⟩
  have hday : utc.instant w / microsPerDay = w.date.toDays - epochDay := hdiv
  rw [dateOf, hday, sub_add_cancel, Date.ofDays_toDays]

/-! ## Columns -/

/-- The other types of the schema. -/
inductive PlainType
  | uuid
  | characterVarying
  | text
  | integer
  | numeric
  | date
  | userDefined
  deriving DecidableEq

/-- `data_type` in `information_schema.columns`. -/
def PlainType.label : PlainType → String
  | .uuid => "uuid"
  | .characterVarying => "character varying"
  | .text => "text"
  | .integer => "integer"
  | .numeric => "numeric"
  | .date => "date"
  | .userDefined => "USER-DEFINED"

/-- A column with its type and its cells, one for each row of its table. -/
inductive Column
  | timestamp (cells : List (Cell WallClock))
  | timestamptz (cells : List (Cell Instant))
  | plain (type : PlainType) (cells : List (Option String))
  deriving DecidableEq

namespace Column

/-- `data_type` in `information_schema.columns`. -/
def dataType : Column → String
  | .timestamp _ => "timestamp without time zone"
  | .timestamptz _ => "timestamp with time zone"
  | .plain t _ => t.label

/-- SQLSTATE 42883. -/
def noTimezoneFunction : Exn := ⟨.sqlError, "function pg_catalog.timezone does not exist"⟩

/-- `col AT TIME ZONE …`: wall clocks become instants, and instants wall clocks. -/
def atTimeZone (z : TimeZone) : Column → Except Exn Column
  | .timestamp cells => .ok (.timestamptz (cells.map (Option.map (Endless.map z.instant))))
  | .timestamptz cells => .ok (.timestamp (cells.map (Option.map (Endless.map z.wall))))
  | .plain _ _ => .error noTimezoneFunction

/-- SQLSTATE 42804. -/
def cannotCast : Exn :=
  ⟨.sqlError, "column cannot be cast automatically to type timestamp with time zone"⟩

/-- The assignment to `TIMESTAMPTZ`, which reads wall clocks in the zone of the session. -/
def assignTimestamptz (session : TimeZone) : Column → Except Exn Column
  | .timestamp cells => .ok (.timestamptz (cells.map (Option.map (Endless.map session.instant))))
  | .timestamptz cells => .ok (.timestamptz cells)
  | .plain _ _ => .error cannotCast

end Column

/-! ## Scripts -/

/-- The name of a column in the catalog, folded to lower case. -/
structure ColumnName where
  tableName : String
  columnName : String
  deriving DecidableEq

/-- The columns of the tables of the schema. -/
abbrev Catalog := ColumnName → Option Column

/-- The `EXISTS` of a guard. -/
def isBare (s : Catalog) (c : ColumnName) : Bool :=
  (s c).any fun col => decide (col.dataType = "timestamp without time zone")

/-- SQLSTATE 42703. -/
def undefinedColumn : Exn := ⟨.sqlError, "column does not exist"⟩

/-- `ALTER TABLE … ALTER COLUMN c TYPE TIMESTAMPTZ USING c AT TIME ZONE 'UTC'` -/
def alterColumn (session : TimeZone) (c : ColumnName) (s : Catalog) : Except Exn Catalog :=
  match s c with
  | none => .error undefinedColumn
  | some col => do
      let value ← col.atTimeZone utc
      let col' ← value.assignTimestamptz session
      return Function.update s c (some col')

/-- One guarded `ALTER`. -/
def guardedAlter (session : TimeZone) (s : Catalog) (c : ColumnName) : Except Exn Catalog :=
  if isBare s c then alterColumn session c s else .ok s

/-- The two scripts. -/
inductive Script
  | charging002
  | consumption003
  deriving DecidableEq

/-- The columns a script looks at, in its order. -/
def Script.columns : Script → List ColumnName
  | .charging002 => [⟨"charging", "starttime"⟩, ⟨"charging", "endtime"⟩]
  | .consumption003 => [⟨"consumption", "start"⟩, ⟨"consumption", "endtime"⟩]

/-- A run of a script in a session: one transaction, which an error rolls back. -/
def Script.run (session : TimeZone) (script : Script) (s : Catalog) : Except Exn Catalog :=
  script.columns.foldlM (guardedAlter session) s

/-- Runs of the scripts, one after another, each in a session of its own. -/
def runScripts (runs : List (Script × TimeZone)) (s : Catalog) : Except Exn Catalog :=
  runs.foldlM (fun s run => run.1.run run.2 s) s

/-! ## Promotion -/

/-- A column with its wall clocks read in UTC; no other column changes. -/
def Column.promote : Column → Column
  | .timestamp cells => .timestamptz (cells.map (Option.map (Endless.map utc.instant)))
  | col => col

@[simp] theorem Column.promote_promote (col : Column) : col.promote.promote = col.promote := by
  cases col <;> rfl

/-- The catalog with some of its columns promoted. -/
def promoteAll (cs : List ColumnName) (s : Catalog) : Catalog := fun c =>
  if c ∈ cs then (s c).map Column.promote else s c

/-- Promoting twice is promoting once. -/
theorem promoteAll_promoteAll (cs cs' : List ColumnName) (s : Catalog) :
    promoteAll cs' (promoteAll cs s) = promoteAll (cs ++ cs') s := by
  funext c
  by_cases h : c ∈ cs <;> by_cases h' : c ∈ cs' <;>
    simp [promoteAll, h, h', Function.comp_def]

theorem promoteAll_singleton (c : ColumnName) (s : Catalog) :
    promoteAll [c] s = Function.update s c ((s c).map Column.promote) := by
  funext c'
  by_cases h : c' = c
  · subst h
    simp [promoteAll]
  · simp [promoteAll, h]

/-- The guard finds the columns without a time zone. -/
theorem isBare_iff (s : Catalog) (c : ColumnName) :
    isBare s c = true ↔ ∃ cells, s c = some (.timestamp cells) := by
  unfold isBare
  cases s c with
  | none => simp
  | some col =>
      cases col with
      | timestamp cells => simp [Column.dataType]
      | timestamptz cells => simp [Column.dataType]
      | plain t cells =>
          have hlabel : t.label ≠ "timestamp without time zone" := by
            cases t <;> decide
          simp [Column.dataType, hlabel]

/-- Only a bare column is changed by a promotion. -/
theorem map_promote_of_not_bare {x : Option Column} (h : ∀ cells, x ≠ some (.timestamp cells)) :
    x.map Column.promote = x := by
  cases x with
  | none => rfl
  | some col =>
      cases col with
      | timestamp cells => exact absurd rfl (h cells)
      | timestamptz cells => rfl
      | plain t cells => rfl

/-- A guarded `ALTER` promotes its column, in any session. -/
theorem guardedAlter_eq (session : TimeZone) (s : Catalog) (c : ColumnName) :
    guardedAlter session s c = .ok (promoteAll [c] s) := by
  rw [guardedAlter, promoteAll_singleton]
  by_cases hbare : isBare s c = true
  · obtain ⟨cells, hc⟩ := (isBare_iff s c).mp hbare
    rw [if_pos hbare, alterColumn, hc]
    rfl
  · have hsame : (s c).map Column.promote = s c :=
      map_promote_of_not_bare fun cells hc => hbare ((isBare_iff s c).mpr ⟨cells, hc⟩)
    rw [if_neg hbare, hsame, Function.update_eq_self]

/-- A script promotes its columns, in any session. -/
theorem run_eq_promote (session : TimeZone) (script : Script) (s : Catalog) :
    script.run session s = .ok (promoteAll script.columns s) := by
  have hfold : ∀ (cs : List ColumnName) (s : Catalog),
      cs.foldlM (guardedAlter session) s = .ok (promoteAll cs s) := by
    intro cs
    induction cs with
    | nil =>
        intro s
        rfl
    | cons c cs ih =>
        intro s
        rw [List.foldlM_cons, guardedAlter_eq]
        exact (ih _).trans (by rw [promoteAll_promoteAll]; rfl)
  exact hfold script.columns s

/-- Any runs promote the columns of their scripts. -/
theorem runScripts_eq (runs : List (Script × TimeZone)) (s : Catalog) :
    runScripts runs s = .ok (promoteAll (runs.flatMap fun run => run.1.columns) s) := by
  induction runs generalizing s with
  | nil => rfl
  | cons run runs ih =>
      have hstep : runScripts (run :: runs) s =
          (run.1.run run.2 s >>= fun s' => runScripts runs s') := by
        rw [runScripts, List.foldlM_cons]
        rfl
      rw [hstep, run_eq_promote, List.flatMap_cons, ← promoteAll_promoteAll]
      exact ih _

/-! ## The migrated columns -/

/-- The columns that were once declared `TIMESTAMP`. -/
def migratedColumns : List ColumnName :=
  [⟨"charging", "starttime"⟩, ⟨"charging", "endtime"⟩, ⟨"consumption", "start"⟩,
    ⟨"consumption", "endtime"⟩]

/-- The migrated cell denotes the instant that the wall clock of the old one names in UTC. -/
inductive SameInUtc : Cell WallClock → Cell Instant → Prop
  | null : SameInUtc none none
  | negInfinity : SameInUtc (some .negInfinity) (some .negInfinity)
  | infinity : SameInUtc (some .infinity) (some .infinity)
  | finite {w : WallClock} {t : Instant} (h : NamesInUtc w t) :
      SameInUtc (some (.finite w)) (some (.finite t))

theorem sameInUtc_map (cell : Cell WallClock) :
    SameInUtc cell (cell.map (Endless.map utc.instant)) := by
  cases cell with
  | none => exact .null
  | some x =>
      cases x with
      | negInfinity => exact .negInfinity
      | finite w => exact .finite (namesInUtc_instant w)
      | infinity => exact .infinity

theorem promoteAll_congr {cs cs' : List ColumnName} (h : ∀ c, c ∈ cs ↔ c ∈ cs') (s : Catalog) :
    promoteAll cs s = promoteAll cs' s := by
  funext c
  simp only [promoteAll, h]

/-- The scripts look at no other column. -/
theorem mem_migratedColumns {script : Script} {c : ColumnName} (h : c ∈ script.columns) :
    c ∈ migratedColumns := by
  cases script with
  | charging002 => exact List.mem_append_left Script.consumption003.columns h
  | consumption003 => exact List.mem_append_right Script.charging002.columns h

theorem mem_migratedColumns_of_mem_flatMap {runs : List (Script × TimeZone)} {c : ColumnName}
    (h : c ∈ runs.flatMap fun run => run.1.columns) : c ∈ migratedColumns := by
  obtain ⟨run, -, hc⟩ := List.mem_flatMap.mp h
  exact mem_migratedColumns hc

/-- When both scripts have run, the four columns are promoted. -/
theorem runScripts_both {runs : List (Script × TimeZone)} {z z' : TimeZone}
    (h₂ : (.charging002, z) ∈ runs) (h₃ : (.consumption003, z') ∈ runs) (s : Catalog) :
    runScripts runs s = .ok (promoteAll migratedColumns s) := by
  rw [runScripts_eq]
  refine congrArg Except.ok (promoteAll_congr (fun c => ⟨mem_migratedColumns_of_mem_flatMap, ?_⟩) s)
  intro hc
  have hscripts : c ∈ Script.charging002.columns ++ Script.consumption003.columns := hc
  rcases List.mem_append.mp hscripts with hc | hc
  · exact List.mem_flatMap.mpr ⟨_, h₂, hc⟩
  · exact List.mem_flatMap.mpr ⟨_, h₃, hc⟩

/-- Further runs find nothing to promote. -/
theorem runScripts_again (runs : List (Script × TimeZone)) (s : Catalog) :
    runScripts runs (promoteAll migratedColumns s) = .ok (promoteAll migratedColumns s) := by
  rw [runScripts_eq, promoteAll_promoteAll]
  refine congrArg Except.ok (promoteAll_congr (fun c => ?_) s)
  rw [List.mem_append]
  exact or_iff_left_of_imp mem_migratedColumns_of_mem_flatMap

/-- **The migrations converge and keep every instant.**  From any mixture of bare and migrated
columns, any runs that include both scripts, in sessions of any zone, give one and the same
catalog, and further runs leave it as it is. -/
theorem timestamptz_migrations_converge (s : Catalog)
    (hs : ∀ c ∈ migratedColumns, (∃ cells, s c = some (.timestamp cells)) ∨
      ∃ cells, s c = some (.timestamptz cells))
    (runs : List (Script × TimeZone)) (h₂ : ∃ z, (.charging002, z) ∈ runs)
    (h₃ : ∃ z, (.consumption003, z) ∈ runs) :
    ∃ s', runScripts runs s = .ok s' ∧
      (∀ c ∈ migratedColumns, ∃ cells, s' c = some (.timestamptz cells)) ∧
      (∀ c ∈ migratedColumns, ∀ cells, s c = some (.timestamp cells) →
        ∃ cells', s' c = some (.timestamptz cells') ∧ List.Forall₂ SameInUtc cells cells') ∧
      (∀ c cells, s c = some (.timestamptz cells) → s' c = some (.timestamptz cells)) ∧
      (∀ c, c ∉ migratedColumns → s' c = s c) ∧
      (∀ more, runScripts more s' = .ok s') := by
  obtain ⟨z, hz⟩ := h₂
  obtain ⟨z', hz'⟩ := h₃
  refine ⟨promoteAll migratedColumns s, ?_, ?_, ?_, ?_, ?_, ?_⟩
  · exact runScripts_both hz hz' s
  · intro c hc
    rcases hs c hc with ⟨cells, h⟩ | ⟨cells, h⟩
    · exact ⟨_, by rw [promoteAll, if_pos hc, h]; rfl⟩
    · exact ⟨_, by rw [promoteAll, if_pos hc, h]; rfl⟩
  · intro c hc cells h
    refine ⟨_, by rw [promoteAll, if_pos hc, h]; rfl, ?_⟩
    rw [List.forall₂_map_right_iff, List.forall₂_same]
    intro cell _
    exact sameInUtc_map cell
  · intro c cells h
    by_cases hc : c ∈ migratedColumns
    · rw [promoteAll, if_pos hc, h]
      rfl
    · rw [promoteAll, if_neg hc, h]
  · intro c hc
    rw [promoteAll, if_neg hc]
  · intro more
    exact runScripts_again more s

/-- A zone eight hours ahead. -/
def eightAhead : TimeZone where
  wall t := utc.wall (t + 8 * 3600000000)
  instant w := utc.instant w - 8 * 3600000000

/-- A charging that started at noon by a bare column, and is migrated in the rest. -/
def halfMigrated : Catalog := fun c =>
  if c = ⟨"charging", "starttime"⟩ then
    some (.timestamp [some (.finite ⟨.ofDays 738885, 43200000000, by decide⟩)])
  else some (.timestamptz [some (.finite 0)])

/-- The noon is that of UTC, although the session is eight hours ahead. -/
theorem timestamptz_migrations_noon :
    ∃ s', runScripts [(.consumption003, eightAhead), (.charging002, eightAhead)] halfMigrated =
        .ok s' ∧
      (∃ cells', s' ⟨"charging", "starttime"⟩ = some (.timestamptz cells') ∧
        List.Forall₂ SameInUtc
          [some (.finite ⟨.ofDays 738885, 43200000000, by decide⟩)] cells') ∧
      s' ⟨"charging", "endtime"⟩ = some (.timestamptz [some (.finite 0)]) ∧
      ∀ more, runScripts more s' = .ok s' := by
  have hs : ∀ c ∈ migratedColumns, (∃ cells, halfMigrated c = some (.timestamp cells)) ∨
      ∃ cells, halfMigrated c = some (.timestamptz cells) := by
    intro c _
    by_cases hc : c = ⟨"charging", "starttime"⟩
    · exact .inl ⟨_, if_pos hc⟩
    · exact .inr ⟨_, if_neg hc⟩
  obtain ⟨s', hrun, -, hbare, hkept, -, hagain⟩ := timestamptz_migrations_converge halfMigrated hs
    [(.consumption003, eightAhead), (.charging002, eightAhead)] ⟨eightAhead, by simp⟩
    ⟨eightAhead, by simp⟩
  exact ⟨s', hrun, hbare _ (by decide) _ rfl, hkept _ _ rfl, hagain⟩

end EvGrpc
