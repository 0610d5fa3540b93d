import EvGrpc.Invariant.Charging
import EvGrpc.Invariant.Consumption

/-!
# The breakdowns of the costs

`GetCostByChargerType` groups the charging rows of a filter by a column of their own,
`GetCostBySourceCategory` by the category they refer to, and `GetVehicleCostSummary` does not
group them at all.  A category exists for every row and is unique, so the join keeps
every row once; groups add up to the table; and the three statements select the same
rows.  `Accounts` is what a breakdown owes to the rows it is made from.
-/

namespace EvGrpc

open Lib

/-! ## Breakdowns and rows -/

/-- The lines of a breakdown, each with a key, a cost and an energy, account for the
rows `cs`: the totals agree, no key has two lines, every line has a row and every row a
line. -/
structure Accounts {κ : Type} (cs : List ChargingRow) (Stems : κ → ChargingRow → Prop)
    (lines : List (κ × Numeric × Numeric)) : Prop where
  cost : (lines.map fun l => l.2.1).sum = (cs.map ChargingRow.cost).sum
  kwh : (lines.map fun l => l.2.2).sum = (cs.map ChargingRow.kwhCharged).sum
  distinct : (lines.map Prod.fst).Nodup
  stems : ∀ l ∈ lines, ∃ c ∈ cs, Stems l.1 c
  covers : ∀ c ∈ cs, ∃ l ∈ lines, Stems l.1 c

namespace Accounts
variable {κ : Type} {cs cs' : List ChargingRow} {Stems Stems' : κ → ChargingRow → Prop}
  {lines lines' : List (κ × Numeric × Numeric)}

/-- A breakdown is empty exactly when there are no rows. -/
theorem eq_nil_iff (h : Accounts cs Stems lines) : lines = [] ↔ cs = [] := by
  constructor
  · rintro rfl
    rw [List.eq_nil_iff_forall_not_mem]
    intro c hc
    obtain ⟨l, hl, -⟩ := h.covers c hc
    cases hl
  · rintro rfl
    rw [List.eq_nil_iff_forall_not_mem]
    intro l hl
    obtain ⟨c, hc, -⟩ := h.stems l hl
    cases hc

/-- Neither the order of the lines nor that of the rows matters. -/
theorem perm (h : Accounts cs Stems lines) (hlines : lines.Perm lines') (hcs : cs.Perm cs') :
    Accounts cs' Stems lines' where
  cost := by rw [← (hlines.map _).sum_eq, ← (hcs.map _).sum_eq, h.cost]
  kwh := by rw [← (hlines.map _).sum_eq, ← (hcs.map _).sum_eq, h.kwh]
  distinct := (hlines.map Prod.fst).nodup_iff.mp h.distinct
  stems := by
    intro l hl
    obtain ⟨c, hc, hlc⟩ := h.stems l (hlines.mem_iff.mpr hl)
    exact ⟨c, hcs.mem_iff.mp hc, hlc⟩
  covers := by
    intro c hc
    obtain ⟨l, hl, hlc⟩ := h.covers c (hcs.mem_iff.mpr hc)
    exact ⟨l, hlines.mem_iff.mp hl, hlc⟩

theorem mono (h : Accounts cs Stems lines) (hs : ∀ k c, Stems k c → Stems' k c) :
    Accounts cs Stems' lines where
  cost := h.cost
  kwh := h.kwh
  distinct := h.distinct
  stems := by
    intro l hl
    obtain ⟨c, hc, hlc⟩ := h.stems l hl
    exact ⟨c, hc, hs _ _ hlc⟩
  covers := by
    intro c hc
    obtain ⟨l, hl, hlc⟩ := h.covers c hc
    exact ⟨l, hl, hs _ _ hlc⟩

end Accounts

/-- The lines of the groups of a table whose entries hold a charging row. -/
def breakdown {α κ : Type} [DecidableEq κ] (key : α → κ) (row : α → ChargingRow)
    (table : List α) : List (κ × Numeric × Numeric) :=
  (groupBy key table).map fun g =>
    (g.1, (g.2.map fun a => (row a).cost).sum, (g.2.map fun a => (row a).kwhCharged).sum)

/-- Groups account for the table. -/
theorem accounts_breakdown {α κ : Type} [DecidableEq κ] (key : α → κ) (row : α → ChargingRow)
    (table : List α) :
    Accounts (table.map row) (fun k c => ∃ a ∈ table, row a = c ∧ key a = k)
      (breakdown key row table) where
  cost := by
    simp only [breakdown, List.map_map, Function.comp_def]
    exact sum_groupBy key (fun a => (row a).cost) table
  kwh := by
    simp only [breakdown, List.map_map, Function.comp_def]
    exact sum_groupBy key (fun a => (row a).kwhCharged) table
  distinct := by
    simp only [breakdown, List.map_map, Function.comp_def]
    exact nodup_groupBy_keys key table
  stems := by
    intro l hl
    obtain ⟨g, hg, rfl⟩ := List.mem_map.mp hl
    obtain ⟨hrows, a, ha, hkey⟩ := mem_groupBy hg
    rw [hrows] at ha
    have hmem := (List.mem_filter.mp ha).1
    exact ⟨row a, List.mem_map_of_mem hmem, a, hmem, rfl, hkey⟩
  covers := by
    intro c hc
    obtain ⟨a, ha, rfl⟩ := List.mem_map.mp hc
    have hkey : key a ∈ (groupBy key table).map Prod.fst := by
      rw [groupBy_keys, List.mem_dedup]
      exact List.mem_map_of_mem ha
    obtain ⟨g, hg, hgk⟩ := List.mem_map.mp hkey
    exact ⟨_, List.mem_map_of_mem hg, a, ha, rfl, hgk.symm⟩

/-! ## The statements -/

section Statements
variable {req : WindowRequest} {db v : Database} {lo hi : Option Instant}

/-- The lines by charger type account for the rows. -/
theorem costByChargerType_accounts (hw : req.window = .ok (lo, hi)) (hv : db.SameRows v) :
    ∃ lines, costByChargerType req v = .ok lines ∧
      Accounts (chargingsIn req.vehicleId lo hi db) (fun t c => c.chargerType = t) lines := by
  refine ⟨(breakdown ChargingRow.chargerType id (chargingsIn req.vehicleId lo hi v)).mergeSort
    fun a b => decide (a.1.position ≤ b.1.position), ?_, ?_⟩
  · unfold costByChargerType
    rw [hw]
    rfl
  · have h := accounts_breakdown ChargingRow.chargerType id (chargingsIn req.vehicleId lo hi v)
    rw [List.map_id] at h
    refine (h.perm (List.mergeSort_perm _ _).symm (chargingsIn_perm _ hv)).mono ?_
    rintro k c ⟨a, -, rfl, hk⟩
    exact hk

/-- The two charger types of the table are reported as two. -/
theorem chargerTypeFromLabel_label_injective :
    Function.Injective fun t : ChargerTypeEnum => chargerTypeFromLabel t.label := by
  intro a b h
  cases a <;> cases b <;> first | rfl | (revert h; decide)

/-- The category a charging row refers to. -/
theorem exists_category {c : ChargingRow} (hc : c ∈ v.charging) :
    ∃ s, s ∈ v.sourceCategory ∧ s.id = c.sourceCategoryId := by
  obtain ⟨s, hs, he⟩ := List.mem_map.mp (v.charging_sourceCategory c hc)
  exact ⟨s, hs, he⟩

/-- The join keeps every row once. -/
theorem map_fst_join (cs : List ChargingRow) (hcs : ∀ c ∈ cs, c ∈ v.charging) :
    (join ChargingRow.sourceCategoryId SourceCategoryRow.id cs v.sourceCategory).map Prod.fst =
      cs := by
  classical
  -- A row outside the table has no category, so the partner needs a default there.
  by_cases hne : ∃ s₀ : SourceCategoryRow, s₀ ∈ v.sourceCategory
  · obtain ⟨s₀, -⟩ := hne
    have hex : ∀ c : ChargingRow, ∃ s, c ∈ cs → s ∈ v.sourceCategory ∧ s.id = c.sourceCategoryId := by
      intro c
      by_cases hc : c ∈ cs
      · obtain ⟨s, hs⟩ := exists_category (hcs c hc)
        exact ⟨s, fun _ => hs⟩
      · exact ⟨s₀, fun h => absurd h hc⟩
    choose partner hpartner using hex
    rw [join_eq_map v.sourceCategory_pk partner hpartner, List.map_map]
    exact List.map_id cs
  · have hnil : cs = [] := by
      rw [List.eq_nil_iff_forall_not_mem]
      intro c hc
      obtain ⟨s, hs, -⟩ := exists_category (hcs c hc)
      exact hne ⟨s, hs⟩
    rw [hnil]
    rfl

theorem mem_join {α β κ : Type} [DecidableEq κ] {ka : α → κ} {kb : β → κ} {as : List α}
    {bs : List β} {p : α × β} (h : p ∈ join ka kb as bs) : p.2 ∈ bs ∧ kb p.2 = ka p.1 := by
  obtain ⟨a, -, hp⟩ := List.mem_flatMap.mp h
  obtain ⟨b, hb, rfl⟩ := List.mem_map.mp hp
  obtain ⟨hmem, hkey⟩ := List.mem_filter.mp hb
  exact ⟨hmem, of_decide_eq_true hkey⟩

/-- The lines by source category account for the rows. -/
theorem costBySourceCategory_accounts (hw : req.window = .ok (lo, hi)) (hv : db.SameRows v) :
    ∃ lines, costBySourceCategory req v = .ok lines ∧
      Accounts (chargingsIn req.vehicleId lo hi db)
        (fun k c => c.sourceCategoryId = k.1 ∧ ⟨k.1, k.2⟩ ∈ db.sourceCategory) lines := by
  have hfst := map_fst_join (v := v) (chargingsIn req.vehicleId lo hi v)
    fun c hc => (List.mem_filter.mp hc).1
  refine ⟨(breakdown (fun p => (p.1.sourceCategoryId, p.2.name)) Prod.fst
    (join ChargingRow.sourceCategoryId SourceCategoryRow.id (chargingsIn req.vehicleId lo hi v)
      v.sourceCategory)).mergeSort fun a b => Numeric.le b.2.1 a.2.1, ?_, ?_⟩
  · unfold costBySourceCategory
    rw [hw]
    rfl
  · have h := accounts_breakdown (fun p : ChargingRow × SourceCategoryRow =>
        (p.1.sourceCategoryId, p.2.name)) Prod.fst
      (join ChargingRow.sourceCategoryId SourceCategoryRow.id (chargingsIn req.vehicleId lo hi v)
        v.sourceCategory)
    rw [hfst] at h
    refine (h.perm (List.mergeSort_perm _ _).symm (chargingsIn_perm _ hv)).mono ?_
    rintro k c ⟨⟨a, s⟩, hp, rfl, rfl⟩
    obtain ⟨hs, hid⟩ := mem_join hp
    refine ⟨rfl, hv.2.2.1.mem_iff.mpr ?_⟩
    have hid : s.id = a.sourceCategoryId := hid
    rw [← hid]
    exact hs

/-- A category's id determines its name, so the ids of the lines are distinct too. -/
theorem nodup_category_ids {cs : List ChargingRow}
    {lines : List ((Uuid × String) × Numeric × Numeric)}
    (h : Accounts cs (fun k c => c.sourceCategoryId = k.1 ∧ ⟨k.1, k.2⟩ ∈ db.sourceCategory) lines) :
    (lines.map fun l => l.1.1).Nodup := by
  have hmap : (lines.map fun l => l.1.1) = (lines.map Prod.fst).map Prod.fst := by
    rw [List.map_map]
    rfl
  have hrow : ∀ k ∈ lines.map Prod.fst, (⟨k.1, k.2⟩ : SourceCategoryRow) ∈ db.sourceCategory := by
    intro k hk
    obtain ⟨l, hl, rfl⟩ := List.mem_map.mp hk
    obtain ⟨c, -, -, hs⟩ := h.stems l hl
    exact hs
  rw [hmap]
  refine h.distinct.map_on ?_
  rintro ⟨i, n⟩ hn ⟨j, m⟩ hm hij
  have hij : i = j := hij
  subst hij
  have hsame := List.inj_on_of_nodup_map db.sourceCategory_pk (hrow _ hn) (hrow _ hm) rfl
  cases hsame
  rfl

/-- What the gate of the summary looks for: a row that matches the text that arrives. -/
def gateOpen (vehicleId : String) (lo hi : Option Instant) (db : Database) : Bool :=
  db.charging.any fun c => matchesVehicle vehicleId c.vehicleId && inWindow lo hi c.startTime

theorem costSummaryExists_eq (hw : req.window = .ok (lo, hi)) (hv : db.SameRows v) :
    costSummaryExists req v = .ok (gateOpen req.vehicleId lo hi db) := by
  unfold costSummaryExists
  rw [hw]
  refine congrArg Except.ok ?_
  rw [gateOpen, Bool.eq_iff_iff, List.any_eq_true, List.any_eq_true]
  simp only [hv.2.2.2.2.mem_iff]

/-- For a text that is not cut to nothing, these are the rows of the filter. -/
theorem gateOpen_iff (hnul : startsWithNul req.vehicleId = false) :
    gateOpen req.vehicleId lo hi db = true ↔ chargingsIn req.vehicleId lo hi db ≠ [] := by
  have hsame : ∀ u, matchesVehicle req.vehicleId u = matchesGiven req.vehicleId u := by
    intro u
    simp [matchesVehicle, matchesGiven, received_eq_empty_iff, hnul]
  rw [gateOpen, List.any_eq_true, Ne, List.eq_nil_iff_forall_not_mem, not_forall]
  simp only [chargingsIn, List.mem_filter, not_not, hsame]

/-- A text that is cut to nothing opens the gate for every row in the window, and is the id of
none. -/
theorem gateOpen_of_nul (db : Database) (lo hi : Option Instant)
    (hnul : startsWithNul req.vehicleId = true) :
    (gateOpen req.vehicleId lo hi db = true ↔
      ∃ c ∈ db.charging, inWindow lo hi c.startTime = true) ∧
      chargingsIn req.vehicleId lo hi db = [] := by
  have hreceived : received req.vehicleId = "" := received_eq_empty_iff.mpr (.inr hnul)
  have hne : req.vehicleId ≠ "" := by
    intro h
    rw [h] at hnul
    cases hnul
  constructor
  · simp [gateOpen, matchesVehicle, hreceived]
  · simp [chargingsIn, matchesGiven, hne, hasVehicleText_of_received_empty hreceived]

/-- The totals of the summary are those of the rows. -/
theorem costSummary_eq (hw : req.window = .ok (lo, hi)) (hv : db.SameRows v)
    (hne : req.vehicleId ≠ "")
    (hfit : ∀ k ∈ db.consumption, FitsInt4 k.km) :
    ∃ row, costSummary req v = .ok row ∧
      row.cost = ((chargingsIn req.vehicleId lo hi db).map ChargingRow.cost).sum ∧
      row.kwh = ((chargingsIn req.vehicleId lo hi db).map ChargingRow.kwhCharged).sum := by
  have htext : ∀ u, hasVehicleText req.vehicleId u = matchesGiven req.vehicleId u := by
    intro u
    simp [matchesGiven, hne]
  have hperm : (chargingsIn req.vehicleId lo hi v).Perm (chargingsIn req.vehicleId lo hi db) :=
    chargingsIn_perm req.vehicleId hv
  have htotals : totals (chargingsIn req.vehicleId lo hi v) (consumptionsIn req.vehicleId lo hi v) =
      _ := totals_eq_ok fun k hk =>
        hfit k (hv.2.2.2.1.mem_iff.mpr (List.mem_filter.mp hk).1)
  have hq : costSummary req v = totals (chargingsIn req.vehicleId lo hi v)
      (consumptionsIn req.vehicleId lo hi v) := by
    unfold costSummary
    rw [hw]
    simp only [htext]
    rfl
  exact ⟨_, hq.trans htotals, (hperm.map _).sum_eq, (hperm.map _).sum_eq⟩

/-- The summary reports the totals of the rows when its gate is open. -/
theorem replies_summary (md : Metadata) (hw : req.window = .ok (lo, hi)) (hne : req.vehicleId ≠ "")
    (hfit : ∀ k ∈ db.consumption, FitsInt4 k.km) :
    Replies db (getVehicleCostSummary md req) fun r =>
      if gateOpen req.vehicleId lo hi db = true then
        ∃ row, r = (.OK, some (vehicleCostSummaryOf req.vehicleId row)) ∧
          row.cost = ((chargingsIn req.vehicleId lo hi db).map ChargingRow.cost).sum ∧
          row.kwh = ((chargingsIn req.vehicleId lo hi db).map ChargingRow.kwhCharged).sum
      else r = (noAggregateRow, none) := by
  refine Replies.validated (replies_gated fun v v' hv hv' => ?_) (by simp [hne])
  rw [costSummaryExists_eq hw hv]
  cases hgate : gateOpen req.vehicleId lo hi db with
  | false => rfl
  | true =>
      obtain ⟨row, hq, hcost, hkwh⟩ := costSummary_eq hw hv' hne hfit
      refine ⟨row, ?_, hcost, hkwh⟩
      rw [hq]
      rfl

/-- It agrees with the breakdowns unless the text is cut to nothing and some charging lies in
the window. -/
theorem summary_accounts_iff {md : Metadata} (hw : req.window = .ok (lo, hi))
    (hne : req.vehicleId ≠ "") (hfit : ∀ k ∈ db.consumption, FitsInt4 k.km) :
    (Replies db (getVehicleCostSummary md req) fun r =>
      if chargingsIn req.vehicleId lo hi db = [] then r = (noAggregateRow, none)
      else ∃ row, r = (.OK, some (vehicleCostSummaryOf req.vehicleId row)) ∧
        row.cost = ((chargingsIn req.vehicleId lo hi db).map ChargingRow.cost).sum ∧
        row.kwh = ((chargingsIn req.vehicleId lo hi db).map ChargingRow.kwhCharged).sum) ↔
      startsWithNul req.vehicleId = false ∨
        ∀ c ∈ db.charging, inWindow lo hi c.startTime = false := by
  obtain ⟨hsome, hall⟩ := replies_summary md hw hne hfit
  constructor
  · intro h
    by_contra hcon
    simp only [not_or, Bool.not_eq_false, not_forall] at hcon
    obtain ⟨hnul, c, hc, hin⟩ := hcon
    obtain ⟨hgate, hnil⟩ := gateOpen_of_nul db lo hi hnul
    obtain ⟨r, hr⟩ := hsome
    have hok := (hall r db hr).2
    have hrefused := (h.2 r db hr).2
    simp only [if_pos (hgate.mpr ⟨c, hc, hin⟩)] at hok
    simp only [if_pos hnil] at hrefused
    obtain ⟨row, rfl, -⟩ := hok
    cases hrefused
  · intro hcond
    have hsame : gateOpen req.vehicleId lo hi db = true ↔ chargingsIn req.vehicleId lo hi db ≠ [] := by
      cases hnul : startsWithNul req.vehicleId with
      | false => exact gateOpen_iff hnul
      | true =>
          obtain ⟨hgate, hnil⟩ := gateOpen_of_nul db lo hi hnul
          simp only [hnul, Bool.true_eq_false, false_or] at hcond
          rw [hgate, hnil]
          constructor
          · rintro ⟨c, hc, hin⟩
            rw [hcond c hc] at hin
            cases hin
          · intro h
            exact absurd rfl h
    refine ⟨hsome, fun r db' hr => ⟨(hall r db' hr).1, ?_⟩⟩
    have hreply := (hall r db' hr).2
    by_cases hnil : chargingsIn req.vehicleId lo hi db = []
    · have hclosed : ¬ gateOpen req.vehicleId lo hi db = true := fun h => hsame.mp h hnil
      simp only [if_neg hclosed] at hreply
      simpa only [if_pos hnil] using hreply
    · simp only [if_pos (hsame.mpr hnil)] at hreply
      simpa only [if_neg hnil] using hreply

end Statements

/-! ## The reports -/

/-- The breakdowns account for the rows of the filter exactly once, and the summary agrees with
them exactly when its vehicle is not cut to the empty text by a NUL, or no charging lies in
the window. -/
theorem breakdowns_account (db : Database)
    (hfit : ∀ k ∈ db.consumption, FitsInt4 k.km)
    (md : Metadata) (req : WindowRequest) :
    (∀ lo hi, req.window = .ok (lo, hi) →
      Replies db (getCostByChargerType md req) (fun r => ∃ lines,
        r = (.OK, some (lines.map chargerTypeBreakdownOf)) ∧
        Accounts (chargingsIn req.vehicleId lo hi db) (fun t c => c.chargerType = t) lines ∧
        (lines = [] ↔ chargingsIn req.vehicleId lo hi db = []) ∧
        ((lines.map chargerTypeBreakdownOf).map ChargerTypeBreakdown.chargerType).Nodup ∧
        ∀ b ∈ lines.map chargerTypeBreakdownOf,
          b.chargerType = .CHARGER_TYPE_FAST ∨ b.chargerType = .CHARGER_TYPE_SLOW) ∧
      Replies db (getCostBySourceCategory md req) (fun r => ∃ lines,
        r = (.OK, some (lines.map sourceCategoryBreakdownOf)) ∧
        Accounts (chargingsIn req.vehicleId lo hi db)
          (fun k c => c.sourceCategoryId = k.1 ∧ ⟨k.1, k.2⟩ ∈ db.sourceCategory) lines ∧
        (lines = [] ↔ chargingsIn req.vehicleId lo hi db = []) ∧
        ((lines.map sourceCategoryBreakdownOf).map
          SourceCategoryBreakdown.sourceCategoryId).Nodup) ∧
      (req.vehicleId ≠ "" → ((Replies db (getVehicleCostSummary md req) fun r =>
        if chargingsIn req.vehicleId lo hi db = [] then r = (noAggregateRow, none)
        else ∃ row, r = (.OK, some (vehicleCostSummaryOf req.vehicleId row)) ∧
          row.cost = ((chargingsIn req.vehicleId lo hi db).map ChargingRow.cost).sum ∧
          row.kwh = ((chargingsIn req.vehicleId lo hi db).map ChargingRow.kwhCharged).sum) ↔
        startsWithNul req.vehicleId = false ∨
          ∀ c ∈ db.charging, inWindow lo hi c.startTime = false))) ∧
    (∀ e, req.window = .error e →
      Replies db (getCostByChargerType md req) (· = (toGrpcStatus e, none)) ∧
      Replies db (getCostBySourceCategory md req) (· = (toGrpcStatus e, none)) ∧
      (req.vehicleId ≠ "" →
        Replies db (getVehicleCostSummary md req) (· = (toGrpcStatus e, none)))) := by
  refine ⟨?_, ?_⟩
  · intro lo hi hw
    refine ⟨replies_readAll fun v hv => ?_, replies_readAll fun v hv => ?_,
      fun hne => summary_accounts_iff hw hne hfit⟩
    · obtain ⟨lines, hq, hacc⟩ := costByChargerType_accounts hw hv
      refine ⟨lines, by rw [hq]; rfl, hacc, hacc.eq_nil_iff, ?_, ?_⟩
      · have htypes := hacc.distinct.map chargerTypeFromLabel_label_injective
        rw [List.map_map] at htypes ⊢
        exact htypes
      intro b hb
      obtain ⟨⟨t, _⟩, -, rfl⟩ := List.mem_map.mp hb
      cases t with
      | fast => exact .inl rfl
      | slow => exact .inr rfl
    · obtain ⟨lines, hq, hacc⟩ := costBySourceCategory_accounts hw hv
      refine ⟨lines, by rw [hq]; rfl, hacc, hacc.eq_nil_iff, ?_⟩
      have hids := (nodup_category_ids hacc).map uuidOut_injective
      rw [List.map_map] at hids ⊢
      exact hids
  · intro e he
    refine ⟨replies_readAll fun v _ => ?_, replies_readAll fun v _ => ?_, fun hne => ?_⟩
    · unfold costByChargerType
      rw [he]
      rfl
    · unfold costBySourceCategory
      rw [he]
      rfl
    · refine Replies.validated (replies_gated fun v v' _ _ => ?_) (by simp [hne])
      unfold costSummaryExists
      rw [he]
      rfl

/-- A vehicle id of a single NUL is given, and arrives empty: there is no breakdown, and the
summary is OK with a total of zero. -/
theorem nul_vehicle_summed_up :
    (∀ k ∈ chargedOnce.consumption, FitsInt4 k.km) ∧
      (∃ r db', Serves chargedOnce (getCostByChargerType [] ⟨"\x00", none, none⟩) r db' ∧
        r = (.OK, some [])) ∧
      (∃ r db', Serves chargedOnce (getVehicleCostSummary [] ⟨"\x00", none, none⟩) r db' ∧
        r.1 = .OK ∧ r.2.map VehicleCostSummary.totalCost = some 0) ∧
      ¬ Replies chargedOnce (getVehicleCostSummary [] ⟨"\x00", none, none⟩) fun r =>
        if chargingsIn "\x00" none none chargedOnce = [] then r = (noAggregateRow, none)
        else ∃ row, r = (.OK, some (vehicleCostSummaryOf "\x00" row)) ∧
          row.cost = ((chargingsIn "\x00" none none chargedOnce).map ChargingRow.cost).sum ∧
          row.kwh = ((chargingsIn "\x00" none none chargedOnce).map ChargingRow.kwhCharged).sum := by
  have hfit : ∀ k ∈ chargedOnce.consumption, FitsInt4 k.km := by decide +kernel
  refine ⟨hfit, ?_, ?_, ?_⟩
  · exact Serves.exists_run 1 (List.replicate 12 {}) (clean_replicate 12) (by decide +kernel)
  · exact Serves.exists_run 1 (List.replicate 12 {}) (clean_replicate 12) (by decide +kernel)
  · intro h
    rcases (summary_accounts_iff rfl (by decide) hfit).mp h with hnul | hnone
    · cases hnul
    · exact absurd (hnone _ (.head _)) (by decide)

/-- Three chargings of both charger types and in two categories, two of them of one vehicle. -/
theorem breakdowns_account_fleet :
    (∀ k ∈ fleet.consumption, FitsInt4 k.km) ∧
      (chargingsIn "" none none fleet).length = 3 ∧
      (Replies fleet (getCostByChargerType [] ⟨"", none, none⟩) fun r => ∃ lines,
        r = (.OK, some (lines.map chargerTypeBreakdownOf)) ∧
        Accounts (chargingsIn "" none none fleet) (fun t c => c.chargerType = t) lines ∧
        lines ≠ []) ∧
      (Replies fleet (getCostBySourceCategory [] ⟨"", none, none⟩) fun r => ∃ lines,
        r = (.OK, some (lines.map sourceCategoryBreakdownOf)) ∧
        Accounts (chargingsIn "" none none fleet)
          (fun k c => c.sourceCategoryId = k.1 ∧ ⟨k.1, k.2⟩ ∈ fleet.sourceCategory) lines ∧
        lines ≠ []) ∧
      Replies fleet (getVehicleCostSummary [] ⟨uuidOut (someUuid 0), none, none⟩) fun r =>
        ∃ row, r = (.OK, some (vehicleCostSummaryOf (uuidOut (someUuid 0)) row)) ∧
          row.cost = .num 17 ∧ row.kwh = .num 18 := by
  have hfit : ∀ k ∈ fleet.consumption, FitsInt4 k.km := by decide +kernel
  have hne : chargingsIn "" none none fleet ≠ [] := by decide +kernel
  obtain ⟨htypes, hcategories, -⟩ :=
    (breakdowns_account fleet hfit [] ⟨"", none, none⟩).1 none none rfl
  have hvehicle : chargingsIn (uuidOut (someUuid 0)) none none fleet ≠ [] ∧
      ((chargingsIn (uuidOut (someUuid 0)) none none fleet).map ChargingRow.cost).sum = .num 17 ∧
      ((chargingsIn (uuidOut (someUuid 0)) none none fleet).map ChargingRow.kwhCharged).sum =
        .num 18 := by
    decide +kernel
  have hsummary := (((breakdowns_account fleet hfit [] ⟨uuidOut (someUuid 0), none, none⟩).1
    none none rfl).2.2 (uuidOut_ne_empty _)).mpr (.inl (by decide))
  simp only [if_neg hvehicle.1, hvehicle.2] at hsummary
  refine ⟨hfit, by decide +kernel, ?_, ?_, hsummary⟩
  · refine htypes.mono ?_
    rintro r ⟨lines, hr, hacc, hnil, -⟩
    exact ⟨lines, hr, hacc, fun h => hne (hnil.mp h)⟩
  · refine hcategories.mono ?_
    rintro r ⟨lines, hr, hacc, hnil, -⟩
    exact ⟨lines, hr, hacc, fun h => hne (hnil.mp h)⟩

end EvGrpc
