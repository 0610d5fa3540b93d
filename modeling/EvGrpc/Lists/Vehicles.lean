import EvGrpc.Lists.Walk
import EvGrpc.Services.Answers

/-!
# Walking through the vehicles

`ListVehicles` sorts by purchase date and then by id.  Ids are unique, so there is one
arrangement of the table, and every walk reads it from the beginning to the end.
-/

namespace EvGrpc

open Lib

/-! ## The order -/

theorem sorts_vehicleOrder : Sorts vehicleOrder where
  trans := by
    intro a b c hab hbc
    simp only [vehicleOrder, decide_eq_true_eq] at hab hbc ⊢
    rcases hab with hab | ⟨hab, hab'⟩ <;> rcases hbc with hbc | ⟨hbc, hbc'⟩
    · exact .inl (by omega)
    · exact .inl (by omega)
    · exact .inl (by omega)
    · exact .inr ⟨by omega, hab'.trans hbc'⟩
  total := by
    intro a b
    simp only [vehicleOrder, Bool.or_eq_true, decide_eq_true_eq]
    rcases lt_trichotomy a.purchaseDate.toDays b.purchaseDate.toDays with h | h | h
    · exact .inr (.inl h)
    · rcases le_total a.id b.id with h' | h'
      · exact .inl (.inr ⟨h, h'⟩)
      · exact .inr (.inr ⟨h.symm, h'⟩)
    · exact .inl (.inl h)

/-- Two vehicles are never on a par: their ids differ. -/
theorem vehicleOrder_antisymm (db : Database) :
    ∀ a ∈ db.vehicle, ∀ b ∈ db.vehicle, vehicleOrder a b = true → vehicleOrder b a = true →
      a = b := by
  intro a ha b hb hab hba
  simp only [vehicleOrder, decide_eq_true_eq] at hab hba
  refine List.inj_on_of_nodup_map db.vehicle_pk ha hb ?_
  rcases hab with hab | ⟨he, hab⟩ <;> rcases hba with hba | ⟨he', hba⟩
  · omega
  · omega
  · omega
  · exact le_antisymm hab hba

/-- The table in the order of `ListVehicles`. -/
def sortedVehicles (db : Database) : List VehicleRow := db.vehicle.mergeSort vehicleOrder

theorem arranges_vehicle_iff {db : Database} {B : List VehicleRow} :
    Arranges vehicleOrder db.vehicle B ↔ B = sortedVehicles db := by
  have hsorted := arranges_mergeSort sorts_vehicleOrder (.refl db.vehicle)
  constructor
  · intro h
    exact h.unique hsorted (vehicleOrder_antisymm db)
  · rintro rfl
    exact hsorted

/-- Ids are unique, so the order between two rows is strict. -/
theorem pairwise_sortedVehicles (db : Database) :
    (sortedVehicles db).Pairwise fun a b => b.purchaseDate.toDays < a.purchaseDate.toDays ∨
      (a.purchaseDate = b.purchaseDate ∧ a.id < b.id) := by
  have harr : Arranges vehicleOrder db.vehicle (sortedVehicles db) := arranges_vehicle_iff.mpr rfl
  have hids : (sortedVehicles db).Pairwise fun a b => a.id ≠ b.id :=
    List.pairwise_map.mp ((harr.perm.map VehicleRow.id).nodup_iff.mpr db.vehicle_pk)
  refine (harr.sorted.and hids).imp ?_
  rintro a b ⟨hab, hid⟩
  simp only [vehicleOrder, decide_eq_true_eq] at hab
  rcases hab with hab | ⟨hdays, hle⟩
  · exact .inl hab
  · exact .inr ⟨Date.toDays_injective hdays, lt_of_le_of_ne hle hid⟩

/-! ## The walk -/

section Walk
variable {db : Database} {md : Metadata}

/-- `ListVehicles` as a call of a page. -/
def vehiclePage (md : Metadata) (size : Int32) (token : String) :
    Prog Op (Reply ListVehiclesResponse) :=
  listVehicles md ⟨size, token⟩

theorem listsPages_vehicle :
    ListsPages db (vehiclePage md) ListVehiclesResponse.mk vehicleMessage
      (Arranges vehicleOrder db.vehicle) db.vehicle.length := by
  intro size token o htoken r db'
  have hq : ∀ l, (∃ v, db.SameRows v ∧ selectVehicles (pageSizeOf size + 1) o v = l) ↔
      ∃ B, Arranges vehicleOrder db.vehicle B ∧
        l = .ok (limitOffset ((pageLen size : ℤ) + 1) o B) := by
    intro l
    rw [pageLen_cast]
    constructor
    · rintro ⟨v, hv, rfl⟩
      exact ⟨_, arranges_mergeSort sorts_vehicleOrder hv.1.symm, rfl⟩
    · rintro ⟨B, hB, rfl⟩
      rw [arranges_vehicle_iff.mp hB]
      exact ⟨db, .refl db, rfl⟩
  unfold vehiclePage listVehicles
  simp only [htoken]
  refine serves_listBody rowToVehicle_eq (fun B hB => hB.perm.length_eq) hq fun x s' => ?_
  rw [yields_withConn, yields_limit]

/-- What a walk has read, and where it goes on. -/
theorem vehicle_walk {resps : List ListVehiclesResponse} {token : String} {Size : Int32 → Prop}
    (h : Walk db (vehiclePage md) ListVehiclesResponse.nextPageToken Size resps token) :
    (resps = [] ∧ token = "") ∨
      ∃ o, resps.length ≤ max 1 db.vehicle.length ∧
        resps.flatMap ListVehiclesResponse.vehicles =
          ((sortedVehicles db).take o).map vehicleMessage ∧
        token = nextToken db.vehicle.length o := by
  rcases walk_pages ListVehiclesResponse.vehicles listsPages_vehicle
    (fun _ _ => rfl) (fun _ _ => rfl) h with hstart | ⟨acc, o, hpages, hflat, htoken, -⟩
  · exact .inl hstart
  · refine .inr ⟨o, (hpages.count_le fun _ => Lens.pos).2, ?_, htoken⟩
    rw [hflat, hpages.eq_take fun B hB => arranges_vehicle_iff.mp hB]

/-- The offset a walk goes on with. -/
theorem vehicle_walk_offset {resps : List ListVehiclesResponse} {token : String}
    {Size : Int32 → Prop} (hlen : db.vehicle.length ≤ 2147483647)
    (h : Walk db (vehiclePage md) ListVehiclesResponse.nextPageToken Size resps token)
    (hgo : resps = [] ∨ token ≠ "") :
    ∃ o : ℕ, o ≤ db.vehicle.length ∧ parsePageToken token = .ok (o : ℤ) := by
  rcases vehicle_walk h with ⟨-, rfl⟩ | ⟨o, -, -, rfl⟩
  · exact ⟨0, by omega, rfl⟩
  · by_cases ho : o < db.vehicle.length
    · exact ⟨o, by omega, parsePageToken_nextToken ho (by omega)⟩
    · have hempty : nextToken db.vehicle.length o = "" := by
        rw [nextToken, if_neg ho]
      rw [hempty]
      exact ⟨0, by omega, rfl⟩

/-- One page at an offset the server gave out: at most 999 rows, and the offset of the next page
fits an `int` and is read back. -/
theorem replies_vehiclePage (hlen : db.vehicle.length ≤ 2147483647) {token : String} {o : ℕ}
    (hparse : parsePageToken token = .ok (o : ℤ)) (size : Int32) :
    Replies db (vehiclePage md size token) fun r => ∃ resp, r = (.OK, some resp) ∧
      resp.vehicles.length ≤ 999 ∧
      (resp.nextPageToken ≠ "" → isInt (o + pageSizeOf size) = true ∧
        resp.nextPageToken = toText (o + pageSizeOf size) ∧
        parsePageToken resp.nextPageToken = .ok (o + pageSizeOf size)) := by
  have hserves : ∀ r db', Serves db (vehiclePage md size token) r db' ↔ _ :=
    listsPages_vehicle size token o hparse
  have hbound : o + pageLen size < db.vehicle.length → o + pageLen size ≤ 2147483647 := by
    intro h
    omega
  refine ⟨⟨_, (hserves _ _).mpr ⟨rfl, hbound, _, arranges_vehicle_iff.mpr rfl, rfl⟩⟩, ?_⟩
  intro r db' hr
  obtain ⟨rfl, -, B, -, rfl⟩ := (hserves _ _).mp hr
  refine ⟨rfl, _, rfl, ?_, ?_⟩
  · rw [List.length_map, page, List.length_take]
    have := pageLen_bounds size
    omega
  · intro hne
    have hlt := nextToken_ne_empty_iff.mp hne
    have hcast := pageLen_cast size
    have htoken := parsePageToken_nextToken hlt (hbound hlt)
    refine ⟨?_, ?_, ?_⟩
    · simp only [isInt, decide_eq_true_eq]
      omega
    · rw [nextToken, if_pos hlt, ← hcast, Nat.cast_add]
    · rw [htoken, ← hcast, Nat.cast_add]

/-- A walk that has come to its end has read the whole table. -/
theorem vehicle_walk_end {resps : List ListVehiclesResponse} {Size : Int32 → Prop}
    (h : Walk db (vehiclePage md) ListVehiclesResponse.nextPageToken Size resps "")
    (hne : resps ≠ []) :
    resps.flatMap ListVehiclesResponse.vehicles = (sortedVehicles db).map vehicleMessage := by
  rcases vehicle_walk h with ⟨rfl, -⟩ | ⟨o, -, hflat, htoken⟩
  · exact absurd rfl hne
  · have hend : ¬ o < db.vehicle.length := by
      intro ho
      exact nextToken_ne_empty_iff.mpr ho htoken.symm
    have harr : Arranges vehicleOrder db.vehicle (sortedVehicles db) := arranges_vehicle_iff.mpr rfl
    have hall : (sortedVehicles db).take o = sortedVehicles db := by
      apply List.take_of_length_le
      rw [harr.perm.length_eq]
      omega
    rw [hflat, hall]

end Walk

end EvGrpc
