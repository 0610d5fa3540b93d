import EvGrpc.Lib.Given
import EvGrpc.Lists.Filtered
import EvGrpc.Progress

/-!
# No signed overflow

The only sums of two `int`s are those of the list RPCs: the page size and one, and the offset
and the page size.  The first is clamped.  The second is made only when a row was met past
the page, so it is an index into the table, and it overflows only in a table with more rows
than an `int` can count (`never_undefined_iff`).

So `calls_complete` asks for nothing but room in the tables (`every_call_answered`).
-/

namespace EvGrpc

open Lib

/-- No table has more rows than 2³¹, so that the last one has an index that is an `int`. -/
structure Database.Countable (db : Database) : Prop where
  vehicle : db.vehicle.length ≤ 2147483648
  consumption : db.consumption.length ≤ 2147483648
  charging : db.charging.length ≤ 2147483648

instance (db : Database) : Decidable db.Countable :=
  decidable_of_iff
    (db.vehicle.length ≤ 2147483648 ∧ db.consumption.length ≤ 2147483648 ∧
      db.charging.length ≤ 2147483648)
    ⟨fun ⟨h₁, h₂, h₃⟩ => ⟨h₁, h₂, h₃⟩, fun h => ⟨h.vehicle, h.consumption, h.charging⟩⟩

theorem Database.SameRows.countable {db v : Database} (h : db.SameRows v) (hdb : db.Countable) :
    v.Countable where
  vehicle := h.1.length_eq ▸ hdb.vehicle
  consumption := h.2.2.2.1.length_eq ▸ hdb.consumption
  charging := h.2.2.2.2.length_eq ▸ hdb.charging

/-! ## What may be answered -/

/-- No operation is undefined.  The state is whether no statement is pending. -/
def defined : Protocol Op Bool where
  pre
    | .undefined, _ => False
    | _, _ => True
  next
    | .beginWork, r, clean | .commit, r, clean => r.toOption.isSome || clean
    | .endWork, _, _ => true
    | .write _, r, clean => !r.toOption.isSome && clean
    | _, _, clean => clean

/-- With no statement pending, a query throws or answers from tables that can be counted. -/
def possible : Admits Op Bool
  | _, .query q, true, r => (∃ e, r = .error e) ∨ ∃ v : Database, v.Countable ∧ r = q v
  | _, _, _, _ => True

theorem machine_shows_pending : machine.Shows defined fun t => t.pending.isEmpty := by
  intro β o c w t b w' t' h
  cases o with
  | _ =>
      simp only [machine] at h
      repeat' split at h
      all_goals cases h
      all_goals simp [defined, Except.toOption]

theorem machine_possible {β : Type} {o : Op β} {c : Choice} {w w' : World} {t t' : Local} {b : β}
    (hw : w.db.Countable) (h : machine.step o c w t = some (b, w', t')) :
    possible β o t.pending.isEmpty b := by
  cases o with
  | query q =>
      cases hpending : t.pending with
      | cons p ps => trivial
      | nil =>
          simp only [machine, hpending, replay_nil] at h
          split at h
          · cases h
            exact .inl ⟨_, rfl⟩
          · split at h
            · cases h
            · rename_i v hview
              cases h
              exact .inr ⟨v, (Choice.sameRows_view hview).countable hw, rfl⟩
  | _ => trivial

/-! ## Handlers -/

/-- The program does nothing undefined, whatever is pending. -/
def Sure {α : Type} (p : Prog Op α) : Prop := ∀ clean, p.MeetsGiven defined possible clean

/-- The operation is not the undefined one. -/
def Op.isDefined {β : Type} : Op β → Bool
  | .undefined => false
  | _ => true

section Sure
variable {α β ρ : Type}

theorem defined_pre {o : Op β} (ho : o.isDefined = true) (clean : Bool) : defined.pre o clean := by
  cases o with
  | undefined => cases ho
  | _ => trivial

theorem sure_op {o : Op β} (ho : o.isDefined = true) {k : β → Prog Op α} (hk : ∀ r, Sure (k r)) :
    Sure (.op o k) :=
  fun clean => ⟨defined_pre ho clean, fun r _ => hk r _⟩

theorem Sure.bind {p : Prog Op α} {f : α → Prog Op β} (hp : Sure p) (hf : ∀ a, Sure (f a)) :
    Sure (p >>= f) :=
  fun clean => (hp clean).bind fun a clean => hf a clean

theorem sure_done (a : α) : Sure (.done a) := fun _ => trivial

theorem sure_attempt_bind {o : Op (Except Exn β)} (ho : o.isDefined = true) {f : β → Rpc α}
    (hf : ∀ b, Sure (f b).run) : Sure (attempt o >>= f).run := by
  refine sure_op ho fun r => ?_
  cases r with
  | ok b => exact hf b
  | error e => exact sure_done _

theorem sure_fail {s : Status} : Sure (fail s : Rpc (Reply ρ)).run :=
  sure_op rfl fun _ => sure_done _

theorem sure_withConn {body : Rpc α} (h : Sure body.run) : Sure (withConn body).run :=
  sure_op rfl fun _ => h.bind fun _ => sure_op rfl fun _ => sure_done _

theorem sure_withWork {body : Rpc α} (h : Sure body.run) : Sure (withWork body).run := by
  rw [run_withWork]
  refine sure_op rfl fun r => ?_
  cases r with
  | error e => exact sure_done _
  | ok => exact h.bind fun _ => sure_op rfl fun _ => sure_done _

theorem sure_firstRow {s : Status} {f : α → Rpc (Reply ρ)} (result : List α)
    (hf : ∀ r, Sure (f r).run) : Sure (firstRow s f result).run := by
  cases result with
  | nil => exact sure_fail
  | cons r rs => exact hf r

theorem sure_convertAndCommit {r : Except Exn ρ} :
    Sure (do
      let resp ← convert r
      commit
      return (.OK, some resp) : Rpc (Reply ρ)).run :=
  sure_attempt_bind (o := .convert r) rfl fun _ =>
    sure_attempt_bind (o := .commit) rfl fun _ => sure_done _

theorem sure_getRow {q : Database → Except Exn (List α)} {s : Status} {row : α → Except Exn ρ} :
    Sure (getRow q s row).run :=
  sure_withConn (sure_attempt_bind (o := .query q) rfl fun result => sure_firstRow result
    fun r => sure_attempt_bind (o := .convert (row r)) rfl fun _ => sure_done _)

theorem sure_insertRow {w : Write Unit} {q : Database → Except Exn (List α)}
    {row : α → Except Exn ρ} : Sure (insertRow w q row).run :=
  sure_attempt_bind (o := .write w) rfl fun _ => sure_attempt_bind (o := .query q) rfl
    fun inserted => sure_firstRow inserted fun _ => sure_convertAndCommit

theorem sure_updateRow {w : Write (List α)} {s : Status} {row : α → Except Exn ρ} :
    Sure (updateRow w s row).run :=
  sure_withConn (sure_withWork (sure_attempt_bind (o := .write w) rfl fun result =>
    sure_firstRow result fun _ => sure_convertAndCommit))

theorem sure_deleteRow {w : Write ℕ} {s : Status} : Sure (deleteRow w s).run := by
  refine sure_withConn (sure_withWork (sure_attempt_bind (o := .write w) rfl fun affected => ?_))
  split
  · exact sure_fail
  · exact sure_attempt_bind (o := .commit) rfl fun _ => sure_done _

theorem sure_readAll {q : Database → Except Exn α} {f : α → Except Exn ρ} :
    Sure (readAll q f).run :=
  sure_withConn (sure_attempt_bind (o := .query q) rfl fun result =>
    sure_attempt_bind (o := .convert (f result)) rfl fun _ => sure_done _)

theorem sure_gatedReport {e : Database → Except Exn Bool} {q : Database → Except Exn α}
    {f : α → ρ} : Sure (gatedReport e q f).run := by
  refine sure_withConn (sure_attempt_bind (o := .query e) rfl fun hasData => ?_)
  split
  · exact sure_fail
  · exact sure_attempt_bind (o := .query q) rfl fun row =>
      sure_attempt_bind (o := .convert (.ok (f row))) rfl fun _ => sure_done _

theorem sure_catching {body : Rpc (Reply ρ)} (h : Sure body.run) : Sure (catching body) := by
  refine h.bind fun r => ?_
  cases r with
  | ok r => exact sure_done _
  | error e => exact sure_op rfl fun _ => sure_done _

theorem sure_validated {s : Status} {body : Prog Op (Reply ρ)} (h : Sure body) :
    Sure (validated s body) := by
  unfold validated
  split
  · exact h
  · exact sure_op rfl fun _ => sure_done _

theorem sure_authenticated {md : Metadata} {kMethod : String} {body : Prog Op (Reply ρ)}
    (h : Sure body) : Sure (authenticated md kMethod body) :=
  sure_op rfl fun _ => sure_op rfl fun _ =>
    (sure_validated h).bind fun _ => sure_op rfl fun _ => sure_done _

end Sure

/-! ## Lists -/

/-- The program does nothing undefined as long as nothing is pending. -/
def Fresh {α : Type} (p : Prog Op α) : Prop := p.MeetsGiven defined possible true

section Fresh
variable {α β ρ : Type}

theorem addInt_of_isInt {a b : ℤ} (h : isInt (a + b) = true) : addInt a b = pure (a + b) := by
  simp [addInt, h]

/-- The token is made in range when a row past the page tells that it is. -/
theorem sure_listPage {row : α → Except Exn β} {pageSize offset : ℤ} {result : List α}
    (h : pageSize.toNat < result.length → isInt (offset + pageSize) = true) :
    Sure (listPage row pageSize offset result).run := by
  refine sure_attempt_bind (o := .convert _) rfl fun page => ?_
  by_cases hmore : pageSize.toNat < result.length
  · simp only [hmore, decide_true, if_true, addInt_of_isInt (h hmore)]
    exact sure_done _
  · simp only [hmore, decide_false]
    exact sure_done _

/-- A page is read from a table that can be counted. -/
theorem fresh_page {q : Database → Except Exn (List α)} {row : α → Except Exn β}
    {pageSize offset : ℤ} {f : List β × String → ρ}
    (hq : ∀ (v : Database) (rows : List α), v.Countable → q v = .ok rows →
      pageSize.toNat < rows.length → isInt (offset + pageSize) = true) :
    Fresh (do
      let result ← exec q
      let page ← listPage row pageSize offset result
      return (.OK, some (f page)) : Rpc (Reply ρ)).run := by
  refine ⟨trivial, fun r hr => ?_⟩
  cases r with
  | error e => trivial
  | ok rows =>
      rcases hr with ⟨e, he⟩ | ⟨v, hv, hrows⟩
      · cases he
      · have hpage : Sure (listPage row pageSize offset rows).run :=
          sure_listPage (hq v rows hv hrows.symm)
        refine (hpage.bind fun r => ?_) _
        cases r with
        | ok page => exact sure_done _
        | error e => exact sure_done _

theorem fresh_withConn {body : Rpc α} (h : Fresh body.run) : Fresh (withConn body).run :=
  ⟨trivial, fun _ _ => h.bind fun _ clean => (sure_op rfl fun _ => sure_done _) clean⟩

theorem fresh_catching {body : Rpc (Reply ρ)} (h : Fresh body.run) : Fresh (catching body) := by
  refine h.bind fun r clean => ?_
  cases r with
  | ok r => trivial
  | error e => exact (sure_op rfl fun _ => sure_done _) clean

theorem fresh_validated {s : Status} {body : Prog Op (Reply ρ)} (h : Fresh body) :
    Fresh (validated s body) := by
  unfold validated
  split
  · exact h
  · exact (sure_op rfl fun _ => sure_done _) true

theorem fresh_authenticated {md : Metadata} {kMethod : String} {body : Prog Op (Reply ρ)}
    (h : Fresh body) : Fresh (authenticated md kMethod body) :=
  ⟨trivial, fun _ _ => ⟨trivial, fun _ _ =>
    (fresh_validated h).bind fun _ clean => (sure_op rfl fun _ => sure_done _) clean⟩⟩

theorem fresh_respond {f : ρ → Response} {p : Prog Op (Reply ρ)} (h : Fresh p) :
    Fresh (respond f p) :=
  h.bind fun _ _ => trivial

/-- An index past a page is an `int` when all indices are. -/
theorem isInt_of_page {size : Int32} {token : String} {offset : ℤ} {B : List α}
    (htoken : parsePageToken token = .ok offset) (hB : B.length ≤ 2147483648)
    (hmore : (pageSizeOf size).toNat < (limitOffset (pageSizeOf size + 1) offset B).length) :
    isInt (offset + pageSizeOf size) = true := by
  have hoffset := parsePageToken_bounds htoken
  have hsize := pageSizeOf_bounds size
  simp only [limitOffset, List.length_take, List.length_drop] at hmore
  simp only [isInt, decide_eq_true_eq]
  omega

end Fresh

/-- `ListChargings` and `ListConsumptions`. -/
theorem fresh_listFiltered {Col Row β ρ : Type} {T : Listed Col Row} {sql : Listing Col}
    {bind : ℤ → Param} {msg : Row → β} {mk : List β → String → ρ} {size : Int32} {token : String}
    (hsql : sql.Bound) (hbind : Binds bind)
    (hrows : ∀ v : Database, v.Countable → (T.rows v).length ≤ 2147483648) :
    Fresh (catching (listFiltered T sql bind msg mk size token)) := by
  refine fresh_catching ?_
  unfold listFiltered
  cases htoken : parsePageToken token with
  | error s => exact sure_fail true
  | ok offset =>
      have hoffset := parsePageToken_bounds htoken
      have hsize := pageSizeOf_bounds size
      have hlimit : (bind (pageSizeOf size + 1)).asCount = .ok (pageSizeOf size + 1) :=
        hbind _ (by omega) (by unfold intMax; omega)
      have hskip : (bind offset).asCount = .ok offset := hbind _ hoffset.1 hoffset.2
      simp only [addInt_of_isInt (isInt_pageSizeOf_succ size), pure_bind]
      refine fresh_withConn (fresh_page fun v rows hv hrun hmore => ?_)
      cases hconds : sql.conditions T with
      | error e =>
          have herror : sql.run T (bind (pageSizeOf size + 1)) (bind offset) v = .error e := by
            simp only [Listing.run, hsql.conditions_append, hconds]
            rfl
          rw [herror] at hrun
          cases hrun
      | ok conds =>
          rw [hsql.run_eq hconds hlimit hskip] at hrun
          cases hrun
          refine isInt_of_page htoken ?_ hmore
          rw [List.length_mergeSort]
          exact (List.length_filter_le _ _).trans (hrows v hv)

theorem fresh_listVehicles (md : Metadata) (req : ListVehiclesRequest) :
    Fresh (listVehicles md req) := by
  refine fresh_authenticated (fresh_catching ?_)
  dsimp only
  cases htoken : parsePageToken req.pageToken with
  | error s => exact sure_fail true
  | ok offset =>
      simp only [addInt_of_isInt (isInt_pageSizeOf_succ req.pageSize), pure_bind]
      refine fresh_withConn (fresh_page fun v rows hv hrun hmore => ?_)
      cases hrun
      refine isInt_of_page htoken ?_ hmore
      rw [List.length_mergeSort]
      exact hv.vehicle

/-! ## Every handler -/

theorem sure_createLookup {ρ : Type} {insert : List Param → Write Unit}
    {message : String → String → ρ} {name : String} :
    Sure (catching <| withConn <| withWork do
      let id ← newUuid
      execWrite (insert [.text (uuidOut id), .text name])
      commit
      return (.OK, some (message (uuidOut id) name))) :=
  sure_catching (sure_withConn (sure_withWork (sure_op rfl fun _ =>
    sure_attempt_bind (o := .write (insert _)) rfl fun _ =>
      sure_attempt_bind (o := .commit) rfl fun _ => sure_done _)))

theorem sure_getVehicle (md : Metadata) (r : GetVehicleRequest) : Sure (getVehicle md r) :=
  sure_authenticated (sure_catching sure_getRow)

/-- The nested call of `CreateVehicle` is made with a connection out. -/
theorem sure_createVehicle (md : Metadata) (r : CreateVehicleRequest) :
    Sure (createVehicle md r) := by
  refine sure_authenticated (sure_catching (sure_withConn (sure_withWork ?_)))
  refine sure_op (o := .newUuid) rfl fun u => ?_
  refine sure_attempt_bind (o := .write _) rfl fun _ => ?_
  refine sure_attempt_bind (o := .commit) rfl fun _ => ?_
  rw [ExceptT.run_bind]
  refine Sure.bind ((sure_getVehicle md ⟨uuidOut u⟩).bind fun _ => sure_done _) fun r => ?_
  cases r with
  | error e => exact sure_done _
  | ok read =>
      dsimp only
      split
      · exact sure_fail
      · exact sure_done _

/-- No handler does anything undefined while the tables can be counted. -/
theorem handle_fresh (call : Call) : Fresh (handle call) := by
  obtain ⟨md, req⟩ := call
  cases req with
  | createVehicle r => exact fresh_respond (sure_createVehicle md r true)
  | getVehicle r | getConsumption r | getCharging r =>
      exact fresh_respond (fresh_authenticated (sure_catching sure_getRow true))
  | updateVehicle r =>
      exact fresh_respond (fresh_authenticated (sure_catching sure_updateRow true))
  | updateConsumption r | updateCharging r =>
      exact fresh_respond (fresh_authenticated (fresh_validated
        (sure_catching sure_updateRow true)))
  | deleteVehicle r | deleteConsumption r | deleteCharging r =>
      exact fresh_respond (fresh_authenticated (sure_catching sure_deleteRow true))
  | createWeather r | createSourceCategory r =>
      exact fresh_respond (fresh_authenticated (sure_createLookup true))
  | createConsumption r =>
      exact fresh_respond (fresh_authenticated (fresh_validated (sure_catching (sure_withConn
        (sure_withWork (sure_op rfl fun _ => sure_insertRow))) true)))
  | createCharging r =>
      exact fresh_respond (fresh_authenticated (fresh_validated (sure_catching
        (sure_op rfl fun _ => sure_withConn (sure_withWork sure_insertRow)) true)))
  | listVehicles r => exact fresh_respond (fresh_listVehicles md r)
  | listConsumptions r =>
      exact fresh_respond (fresh_authenticated (fresh_listFiltered
        (bound_consumptionListing r) binds_text fun _ hv => hv.consumption))
  | listChargings r =>
      exact fresh_respond (fresh_authenticated (fresh_listFiltered
        (bound_chargingListing r) binds_int fun _ hv => hv.charging))
  | searchWeather r | searchSourceCategory r | getCostByChargerType r | getCostBySourceCategory r
  | getRangeAccuracy r | getTemperatureConsumptionCorrelation r =>
      exact fresh_respond (fresh_authenticated (sure_catching sure_readAll true))
  | getDailyChargingReport r | getMonthlyChargingReport r | getAnnualChargingReport r =>
      exact fresh_respond (fresh_authenticated (fresh_validated (sure_catching sure_readAll true)))
  | getVehicleCostSummary r | getMonthlyReport r | getAnnualReport r =>
      exact fresh_respond (fresh_authenticated (fresh_validated
        (sure_catching sure_gatedReport true)))
  | getConsumptionEfficiency r =>
      exact fresh_respond (fresh_authenticated (sure_catching (sure_withConn
        (sure_attempt_bind (o := .query (efficiencyKm r)) rfl fun _ =>
          sure_attempt_bind (o := .query (efficiencyKwh r)) rfl fun _ =>
            sure_attempt_bind (o := .convert _) rfl fun _ => sure_done _)) true))

/-! ## Runs -/

section Runs
variable {db : Database} {n : ℕ} {issued : List Uuid} {s : Server} {past : Past}

/-- No call comes to an overflow as long as the tables can be counted. -/
theorem Server.Reached.not_atOverflow {Ok : Server → ServerAction → Prop}
    (h : Server.Reached Ok (Server.start db n issued) s)
    (hok : ∀ s a, Ok s a → s.world.db.Countable) : ∀ x ∈ s.tasks, atOverflow x.prog = false := by
  have hall : ∀ x ∈ s.tasks, x.prog.MeetsGiven defined possible x.loc.pending.isEmpty :=
    tasks_meetsGiven (K := fun w => w.db.Countable) machine_shows_pending
      (fun _ _ _ _ _ _ _ _ hw hs => machine_possible hw hs) h hok rfl handle_fresh
  intro x hx
  have hdefined := hall x hx
  obtain ⟨call, t, p⟩ := x
  cases p with
  | done reply => rfl
  | op o k =>
      cases o with
      | undefined => exact hdefined.1.elim
      | _ => rfl

/-- **Every call is answered.**  In a run that keeps one connection out of the hands of
`CreateVehicle`, through tables that can be counted, there are at most twenty-one actions for
each call; and when no call can take another step, all calls have returned, hold nothing, and
the pool is full. -/
theorem every_call_answered (hn : 2 ≤ n) (h : Server.Run db n issued past s)
    (hrule : ∀ y ∈ past, LeavesSpare n y.1 y.2 ∧ y.1.world.db.Countable) :
    past.length ≤ 21 * s.tasks.length ∧
      (s.Stuck n → (∃ u, u ∉ s.world.issued) →
        (∀ x ∈ s.tasks, (∃ reply, x.prog = .done reply) ∧ x.loc.conns = [] ∧ x.loc.scopes = []) ∧
        s.world.idle.Perm (List.range n)) := by
  have hspare : ∀ y ∈ past, LeavesSpare n y.1 y.2 := fun y hy => (hrule y hy).1
  have hcount : Server.Reached (fun s _ => s.world.db.Countable) (Server.start db n issued) s :=
    Lib.Run.reach h fun y hy => (hrule y hy).2
  obtain ⟨hshort, hdone⟩ := calls_complete hn h hspare
  exact ⟨hshort, fun hstuck hu => hdone hstuck hu (hcount.not_atOverflow fun _ _ hok => hok)⟩

end Runs

/-! ## Overflows -/

/-- With `idle` connections in the pool and nothing pending, the program can come to an overflow
alone, through worlds that have the rows `db`. -/
def Overflows (db : Database) (idle : ℕ) {α : Type} (p : Prog Op α) : Prop :=
  ∀ (w : World) (t : Local), w.db = db → w.idle.length = idle → t.pending = [] →
    Comes machine (fun w => w.db = db) (fun p => atOverflow p = true) p w t

section Overflows
variable {db : Database} {idle : ℕ} {α β ρ : Type}

theorem atOverflow_bind {p : Prog Op α} {f : α → Prog Op β} (h : atOverflow p = true) :
    atOverflow (p >>= f) = true := by
  cases p with
  | done a => cases h
  | op o k =>
      cases o with
      | undefined => rfl
      | _ => cases h

theorem Overflows.bind {p : Prog Op α} {f : α → Prog Op β} (h : Overflows db idle p) :
    Overflows db idle (p >>= f) :=
  fun w t hdb hidle ht => (h w t hdb hidle ht).bind fun _ => atOverflow_bind

theorem overflows_withConn {body : Rpc α} (h : Overflows db idle body.run) :
    Overflows db (idle + 1) (withConn body).run := by
  intro w t hdb hidle ht
  obtain ⟨x, xs, hcons⟩ := List.exists_cons_of_length_eq_add_one hidle
  have hstep : machine.step .acquire {} w t =
      some ((), { w with idle := xs }, { t with conns := x :: t.conns }) := by
    simp [machine, hcons]
  refine .step hdb hstep (h.bind _ _ hdb ?_ ht)
  simpa [hcons] using hidle

theorem overflows_authenticated {md : Metadata} {kMethod : String} {body : Prog Op (Reply ρ)}
    (h : Overflows db idle body) : Overflows db idle (authenticated md kMethod body) := by
  intro w t hdb hidle ht
  refine .step (c := {}) hdb rfl (.step (c := {}) hdb rfl ?_)
  exact h.bind _ _ hdb hidle ht

/-- The page ends where no further one can begin. -/
theorem overflows_listPage {row : α → Except Exn β} {msg : α → β} (hrow : ∀ r, row r = .ok (msg r))
    {pageSize offset : ℤ} {result : List α} (hmore : pageSize.toNat < result.length)
    (hover : isInt (offset + pageSize) = false) :
    Overflows db idle (listPage row pageSize offset result).run := by
  intro w t hdb _ _
  have hpage : (result.take pageSize.toNat).mapM row =
      .ok ((result.take pageSize.toNat).map msg) := mapM_eq_ok fun r _ => hrow r
  refine .step (c := {}) hdb rfl (.here ?_)
  simp only [hmore, decide_true, if_true, hpage, addInt, hover]
  rfl

theorem overflows_page {q : Database → Except Exn (List α)} {row : α → Except Exn β} {msg : α → β}
    {f : List β × String → ρ} (hrow : ∀ r, row r = .ok (msg r)) {pageSize offset : ℤ}
    {result : List α} (hq : q db = .ok result) (hmore : pageSize.toNat < result.length)
    (hover : isInt (offset + pageSize) = false) :
    Overflows db idle (do
      let result ← exec q
      let page ← listPage row pageSize offset result
      return (.OK, some (f page)) : Rpc (Reply ρ)).run := by
  intro w t hdb hidle ht
  have hstep : machine.step (.query q) {} w t = some (.ok result, w, { t with hasRead := true }) := by
    simp [machine, ht, hdb, hq, Choice.view]
  exact .step hdb hstep ((overflows_listPage hrow hmore hover).bind w _ hdb hidle ht)

/-- Two rows are left behind the largest offset. -/
theorem lt_length_lastPage {B : List α} (hB : 2147483648 < B.length) :
    (1 : ℤ).toNat < (limitOffset (1 + 1) 2147483647 B).length := by
  simp only [limitOffset, List.length_take, List.length_drop]
  omega

end Overflows

/-- The last token that is accepted. -/
def lastToken : String := toText 2147483647

theorem parsePageToken_lastToken : parsePageToken lastToken = .ok 2147483647 :=
  parsePageToken_toText 2147483647 (by decide)

/-- `ListChargings` and `ListConsumptions`, asked for what follows the last token. -/
theorem overflows_listFiltered {db : Database} {Col Row β ρ : Type} {T : Listed Col Row}
    {sql : Listing Col} {bind : ℤ → Param} {msg : Row → β} {mk : List β → String → ρ}
    (hsql : sql.Bound) (hbind : Binds bind) (hconds : sql.conditions T = .ok [])
    (hmany : 2147483648 < (T.rows db).length) :
    Overflows db 1 (catching (listFiltered T sql bind msg mk 1 lastToken)) := by
  have hlimit : (bind (1 + 1)).asCount = .ok (1 + 1) := hbind _ (by decide) (by decide)
  have hskip : (bind 2147483647).asCount = .ok 2147483647 := hbind _ (by decide) (by decide)
  have hrun := hsql.run_eq hconds hlimit hskip db
  have hmatching : T.matching [] db = T.rows db := by simp [Listed.matching, Listed.satisfies]
  rw [hmatching] at hrun
  have hmore : (1 : ℤ).toNat <
      (limitOffset (1 + 1) 2147483647 ((T.rows db).mergeSort T.order)).length :=
    lt_length_lastPage (by rwa [List.length_mergeSort])
  have hsize : pageSizeOf 1 = 1 := by decide
  unfold listFiltered
  simp only [parsePageToken_lastToken, hsize, addInt_of_isInt (show isInt (1 + 1) = true by decide),
    pure_bind]
  exact (overflows_withConn (overflows_page (fun _ => rfl) hrun hmore (by decide))).bind

theorem overflows_listVehicles {db : Database} (hmany : 2147483648 < db.vehicle.length) :
    Overflows db 1 (listVehicles [] ⟨1, lastToken⟩) := by
  have hmore : (1 : ℤ).toNat <
      (limitOffset (1 + 1) 2147483647 (db.vehicle.mergeSort vehicleOrder)).length :=
    lt_length_lastPage (by rwa [List.length_mergeSort])
  have hsize : pageSizeOf 1 = 1 := by decide
  unfold listVehicles
  simp only [parsePageToken_lastToken, hsize, addInt_of_isInt (show isInt (1 + 1) = true by decide),
    pure_bind]
  exact overflows_authenticated
    (overflows_withConn (overflows_page rowToVehicle_eq rfl hmore (by decide))).bind

/-- When a table cannot be counted, its list RPC comes to an overflow. -/
theorem exists_overflows {db : Database} (h : ¬ db.Countable) :
    ∃ call, Overflows db 1 (handle call) := by
  by_cases hvehicle : db.vehicle.length ≤ 2147483648
  · by_cases hconsumption : db.consumption.length ≤ 2147483648
    · have hcharging : 2147483648 < db.charging.length := by
        by_contra hle
        exact h ⟨hvehicle, hconsumption, by omega⟩
      refine ⟨⟨[], .listChargings ⟨"", none, none, .CHARGER_TYPE_UNSPECIFIED, "", 1, lastToken⟩⟩, ?_⟩
      exact (overflows_authenticated (overflows_listFiltered (bound_chargingListing _) binds_int rfl
        hcharging)).bind
    · have hmany : 2147483648 < db.consumption.length := by omega
      refine ⟨⟨[], .listConsumptions ⟨"", none, none, 1, lastToken⟩⟩, ?_⟩
      exact (overflows_authenticated (overflows_listFiltered (bound_consumptionListing _) binds_text
        rfl hmany)).bind
  · exact ⟨⟨[], .listVehicles ⟨1, lastToken⟩⟩, (overflows_listVehicles (by omega)).bind⟩

/-- **Signed overflow.**  Through worlds of a kind, no call ever comes to an overflow of an
`int`, if and only if in all of them the tables can be counted. -/
theorem never_undefined_iff (Good : Database → Prop) :
    (∀ (db : Database) (n : ℕ) (issued : List Uuid) (s : Server),
      Server.Reached (fun s _ => Good s.world.db) (Server.start db n issued) s →
      ∀ x ∈ s.tasks, atOverflow x.prog = false) ↔ ∀ db, Good db → db.Countable := by
  constructor
  · intro h db hgood
    by_contra hcount
    obtain ⟨call, hover⟩ := exists_overflows hcount
    have hcomes := hover (World.start db 1 []) Local.fresh rfl rfl rfl
    have hspawned : Server.Reached (fun s _ => Good s.world.db) (Server.start db 1 [])
        ⟨World.start db 1 [], [] ++ [⟨call, Local.fresh, handle call⟩]⟩ :=
      .step (a := .spawn call) .init hgood rfl
    obtain ⟨s, hs, x, hx, hat⟩ := hcomes.reach (fun s _ hdb => by rwa [hdb]) hspawned
    rw [h db 1 [] s hs x hx] at hat
    cases hat
  · intro hgood db n issued s h
    exact h.not_atOverflow fun _ _ hok => hgood _ hok

/-- Two vehicles are created at the same time on three connections. -/
def createTwo : List ServerAction :=
  createUpToRead 0 "A" 0 ++ createUpToRead 1 "B" 1 ++ List.replicate 8 (.step 0 {}) ++
    List.replicate 8 (.step 1 {})

theorem every_call_answered_two : ∃ past s, Server.Run .empty 3 [] past s ∧
    s.tasks.length = 2 ∧ past.length = 36 ∧ past.length ≤ 21 * s.tasks.length ∧
    (∀ x ∈ s.tasks, (∃ reply, x.prog = .done reply) ∧ x.loc.conns = [] ∧ x.loc.scopes = []) ∧
    s.world.idle.Perm (List.range 3) := by
  have hrun : ∃ past s, Lib.Run (State.act machine handle Local.fresh) (Server.start .empty 3 [])
      past s ∧ (∀ y ∈ past, LeavesSpare 3 y.1 y.2 ∧ y.1.world.db.Countable) ∧
        (∀ x ∈ s.tasks, (returned? x.prog).isSome = true) ∧ s.tasks.length = 2 ∧
        past.length = 36 ∧ someUuid 9 ∉ s.world.issued :=
    exists_run createTwo (by decide +kernel)
  obtain ⟨past, s, h, hrule, hreturned, htwo, hlen, hu⟩ := hrun
  obtain ⟨hshort, hdone⟩ := every_call_answered (by decide) h hrule
  exact ⟨past, s, h, htwo, hlen, hshort, hdone (Server.stuck_of_returned hreturned) ⟨_, hu⟩⟩

end EvGrpc
