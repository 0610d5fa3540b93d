import EvGrpc.Lib.Paging
import EvGrpc.Rpc.Session
import EvGrpc.Services.Listing

/-!
# Walking through a list

A client starts with an empty page token and follows `next_page_token` until it is
empty.  `ListsPages` says what a list RPC does at an offset: it arranges the rows in some
way its `ORDER BY` permits, and answers with a page and the token of the next one.
`walk_pages` and `pages_walk` carry walks of a client to walks of `Lib.Pages` and back, so
what holds there holds of the RPC.
-/

namespace EvGrpc

open Lib

/-! ## One call -/

/-- The number of rows a request asks for. -/
def pageLen (size : Int32) : ℕ := (pageSizeOf size).toNat

/-- The clamp keeps page sizes between 1 and 999. -/
theorem pageSizeOf_bounds (size : Int32) : 1 ≤ pageSizeOf size ∧ pageSizeOf size ≤ 999 := by
  unfold pageSizeOf kMaxPageSize
  split <;> omega

theorem pageLen_cast (size : Int32) : (pageLen size : ℤ) = pageSizeOf size := by
  have := pageSizeOf_bounds size
  unfold pageLen
  omega

theorem pageLen_bounds (size : Int32) : 1 ≤ pageLen size ∧ pageLen size ≤ 999 := by
  have h₁ := pageSizeOf_bounds size
  have h₂ := pageLen_cast size
  omega

/-- One row more than a page never overflows. -/
theorem isInt_pageSizeOf_succ (size : Int32) : isInt (pageSizeOf size + 1) = true := by
  have := pageSizeOf_bounds size
  simp only [isInt, decide_eq_true_eq]
  omega

/-- So the statement gets its limit. -/
theorem yields_limit {β : Type} {size : Int32} {f : ℤ → Rpc β} {x : Except Exn β}
    {s s' : Session} :
    (addInt (pageSizeOf size) 1 >>= f).run.Yields Op.Answers s x s' ↔
      (f (pageSizeOf size + 1)).run.Yields Op.Answers s x s' := by
  refine yields_run_bind_of_ok fun y t => ?_
  rw [yields_addInt]
  simp [isInt_pageSizeOf_succ]

/-- The token of the page at offset `o` of `n` rows. -/
def nextToken (n o : ℕ) : String := if o < n then toText (o : ℤ) else ""

/-- `ParsePageToken` reads it back. -/
theorem parsePageToken_nextToken {n o : ℕ} (h : o < n) (hmax : o ≤ 2147483647) :
    parsePageToken (nextToken n o) = .ok (o : ℤ) := by
  rw [nextToken, if_pos h]
  exact parsePageToken_toText o (by unfold intMax; omega)

theorem nextToken_ne_empty_iff {n o : ℕ} : nextToken n o ≠ "" ↔ o < n := by
  unfold nextToken
  by_cases h : o < n
  · simp [h, toText_ofNat_ne_empty]
  · simp [h]

section Page
variable {α β : Type} {s s' : Session}

/-- The page and the token from a result, when rows can be converted. -/
theorem yields_listPage {row : α → Except Exn β} {msg : α → β} (hrow : ∀ a, row a = .ok (msg a))
    {pageSize offset : ℤ} {result : List α} {x : Except Exn (List β × String)} :
    (listPage row pageSize offset result).run.Yields Op.Answers s x s' ↔
      s' = s ∧ (pageSize.toNat < result.length → isInt (offset + pageSize) = true) ∧
        x = .ok ((result.take pageSize.toNat).map msg,
          if pageSize.toNat < result.length then toText (offset + pageSize) else "") := by
  have hpage : (result.take pageSize.toNat).mapM row = .ok ((result.take pageSize.toNat).map msg) :=
    mapM_eq_ok fun a _ => hrow a
  unfold listPage
  by_cases hmore : pageSize.toNat < result.length
  · simp only [hmore, decide_true, if_true, true_implies,
      hpage]
    rw [yields_run_bind_of_ok fun y t => yields_convert]
    by_cases hint : isInt (offset + pageSize) = true
    · rw [yields_run_bind_of_ok (a := toText (offset + pageSize)) fun y t => ?_]
      · rw [yields_run_pure]
        simp only [hint, true_and]
        exact and_comm
      · rw [← bind_pure_comp, yields_run_bind_of_ok (a := offset + pageSize) fun y t => ?_]
        · exact yields_run_pure
        · rw [yields_addInt]
          simp [hint]
    · simp only [hint, Bool.false_eq_true, false_and, and_false, iff_false]
      rw [← bind_pure_comp]
      simp only [yields_run_bind, yields_addInt, hint, Bool.false_eq_true, false_and, exists_false,
        or_self, not_false_eq_true]
  · have hshort : result.take result.length = result.take pageSize.toNat := by
      rw [List.take_length, List.take_of_length_le (by omega)]
    simp only [hmore, decide_false, Bool.false_eq_true, if_false, hshort, false_implies, true_and,
      hpage]
    rw [yields_run_bind_of_ok fun y t => yields_convert,
      yields_run_bind_of_ok fun y t => yields_run_pure, yields_run_pure]
    exact and_comm

/-- `LIMIT pageSize + 1 OFFSET o` shows whether there is a next page, and holds the page. -/
theorem lt_length_limitOffset {p o : ℕ} {B : List α} :
    p < (limitOffset ((p : ℤ) + 1) o B).length ↔ o + p < B.length := by
  simp only [limitOffset, List.length_take, List.length_drop]
  omega

theorem take_limitOffset {p o : ℕ} {B : List α} :
    (limitOffset ((p : ℤ) + 1) o B).take p = page p o B := by
  unfold limitOffset page
  rw [List.take_take]
  congr 1
  omega

end Page

section Calls
variable {db : Database} {α β ρ : Type}

/-- At an offset the RPC arranges the `n` rows in some way, and answers with a page and the
token of the next one.  It does not answer when that token would overflow. -/
def ListsPages (db : Database) (call : Int32 → String → Prog Op (Reply ρ))
    (mk : List β → String → ρ) (msg : α → β) (Arr : List α → Prop) (n : ℕ) : Prop :=
  ∀ size token (o : ℕ), parsePageToken token = .ok (o : ℤ) → ∀ r db',
    Serves db (call size token) r db' ↔
      db' = db ∧ (o + pageLen size < n → o + pageLen size ≤ 2147483647) ∧
        ∃ B, Arr B ∧ r = (.OK, some (mk ((page (pageLen size) o B).map msg)
          (nextToken n (o + pageLen size))))

/-- The body of a list RPC, behind the token. -/
theorem yields_listBody {q : Database → Except Exn (List α)} {row : α → Except Exn β}
    {msg : α → β} (hrow : ∀ a, row a = .ok (msg a)) {mk : List β → String → ρ} {size : Int32}
    {o n : ℕ} {Arr : List α → Prop} (hlen : ∀ B, Arr B → B.length = n)
    (hq : ∀ l, (∃ v, db.SameRows v ∧ q v = l) ↔
      ∃ B, Arr B ∧ l = .ok (limitOffset ((pageLen size : ℤ) + 1) o B))
    {x : Except Exn (Reply ρ)} {s' : Session} :
    (do
      let result ← exec q
      let page ← listPage row (pageSizeOf size) o result
      return (.OK, some (mk page.1 page.2)) : Rpc (Reply ρ)).run.Yields Op.Answers ⟨db, []⟩ x s' ↔
    s' = ⟨db, []⟩ ∧ (o + pageLen size < n → o + pageLen size ≤ 2147483647) ∧
      ∃ B, Arr B ∧ x = .ok (.OK, some (mk ((page (pageLen size) o B).map msg)
        (nextToken n (o + pageLen size)))) := by
  have hsize : (pageSizeOf size).toNat = pageLen size := rfl
  have hcast := pageLen_cast size
  -- What the page looks like for an arrangement.
  have hpage : ∀ B t y, Arr B →
      ((do
        let page ← listPage row (pageSizeOf size) o (limitOffset ((pageLen size : ℤ) + 1) o B)
        return (.OK, some (mk page.1 page.2)) : Rpc (Reply ρ)).run.Yields Op.Answers t y s' ↔
      s' = t ∧ (o + pageLen size < n → o + pageLen size ≤ 2147483647) ∧
        y = .ok (.OK, some (mk ((page (pageLen size) o B).map msg)
          (nextToken n (o + pageLen size))))) := by
    intro B t y hB
    have hn := hlen B hB
    have hint : isInt ((o : ℤ) + pageSizeOf size) = true ↔ o + pageLen size ≤ 2147483647 := by
      simp only [isInt, decide_eq_true_eq, ← hcast]
      omega
    have htoken : (if o + pageLen size < n then toText ((o : ℤ) + pageSizeOf size) else "") =
        nextToken n (o + pageLen size) := by
      rw [nextToken, ← hcast, Nat.cast_add]
    rw [yields_run_bind]
    simp only [yields_listPage hrow, hsize, lt_length_limitOffset, take_limitOffset, hn, hint,
      htoken, yields_run_pure]
    constructor
    · rintro (⟨e, ⟨-, -, he⟩, -⟩ | ⟨a, t', ⟨rfl, hmax, ha⟩, rfl, rfl⟩)
      · cases he
      · cases ha
        exact ⟨rfl, hmax, rfl⟩
    · rintro ⟨rfl, hmax, rfl⟩
      exact .inr ⟨_, _, ⟨rfl, hmax, rfl⟩, rfl, rfl⟩
  rw [yields_run_bind]
  simp only [yields_exec]
  constructor
  · rintro (⟨e, ⟨v, hv, he, -⟩, -⟩ | ⟨result, t, ⟨v, hv, hr, rfl⟩, hrest⟩)
    · obtain ⟨B, -, hB⟩ := (hq (.error e)).mp ⟨v, hv, he.symm⟩
      cases hB
    · obtain ⟨B, hB, hl⟩ := (hq (.ok result)).mp ⟨v, hv, hr.symm⟩
      cases hl
      obtain ⟨rfl, hmax, rfl⟩ := (hpage B _ _ hB).mp hrest
      exact ⟨rfl, hmax, B, hB, rfl⟩
  · rintro ⟨rfl, hmax, B, hB, rfl⟩
    obtain ⟨v, hv, hl⟩ := (hq _).mpr ⟨B, hB, rfl⟩
    exact .inr ⟨_, _, ⟨v, hv, hl.symm, rfl⟩, (hpage B _ _ hB).mpr ⟨rfl, hmax, rfl⟩⟩

/-- A call with such a body. -/
theorem serves_listBody {md : Metadata} {kMethod : String} {body : Rpc (Reply ρ)}
    {q : Database → Except Exn (List α)} {row : α → Except Exn β} {msg : α → β}
    (hrow : ∀ a, row a = .ok (msg a)) {mk : List β → String → ρ} {size : Int32} {o n : ℕ}
    {Arr : List α → Prop} (hlen : ∀ B, Arr B → B.length = n)
    (hq : ∀ l, (∃ v, db.SameRows v ∧ q v = l) ↔
      ∃ B, Arr B ∧ l = .ok (limitOffset ((pageLen size : ℤ) + 1) o B))
    (hbody : ∀ x s', body.run.Yields Op.Answers ⟨db, []⟩ x s' ↔
      (do
        let result ← exec q
        let page ← listPage row (pageSizeOf size) o result
        return (.OK, some (mk page.1 page.2)) : Rpc (Reply ρ)).run.Yields Op.Answers ⟨db, []⟩ x s')
    {r : Reply ρ} {db' : Database} :
    Serves db (authenticated md kMethod (catching body)) r db' ↔
      db' = db ∧ (o + pageLen size < n → o + pageLen size ≤ 2147483647) ∧
        ∃ B, Arr B ∧ r = (.OK, some (mk ((page (pageLen size) o B).map msg)
          (nextToken n (o + pageLen size)))) := by
  unfold Serves
  simp only [yields_authenticated, yields_catching, hbody, yields_listBody hrow hlen hq]
  constructor
  · rintro ⟨ps, x, ⟨hs, hmax, B, hB, rfl⟩, rfl⟩
    cases hs
    exact ⟨rfl, hmax, B, hB, rfl⟩
  · rintro ⟨rfl, hmax, B, hB, rfl⟩
    exact ⟨[], _, ⟨rfl, hmax, B, hB, rfl⟩, rfl⟩

end Calls

/-! ## Walks -/

section Walks
variable {db : Database} {α β ρ : Type} {call : Int32 → String → Prog Op (Reply ρ)}
  {items : ρ → List β} {next : ρ → String} {Size : Int32 → Prop}

/-- What a client has received, and the token to go on with: it starts with the empty
token and follows the tokens it gets, with page sizes from `Size`. -/
inductive Walk (db : Database) (call : Int32 → String → Prog Op (Reply ρ)) (next : ρ → String)
    (Size : Int32 → Prop) : List ρ → String → Prop
  | start : Walk db call next Size [] ""
  | more {resps : List ρ} {token : String} {size : Int32} {resp : ρ}
      (h : Walk db call next Size resps token) (hgo : resps = [] ∨ token ≠ "") (hsize : Size size)
      (hserves : Serves db (call size token) (.OK, some resp) db) :
      Walk db call next Size (resps ++ [resp]) (next resp)

/-- The page sizes the requests stand for. -/
def Lens (Size : Int32 → Prop) (p : ℕ) : Prop := ∃ size, Size size ∧ p = pageLen size

theorem Lens.pos {p : ℕ} (h : Lens Size p) : 0 < p := by
  obtain ⟨size, -, rfl⟩ := h
  exact (pageLen_bounds size).1

variable {mk : List β → String → ρ} {msg : α → β} {Arr : List α → Prop} {n : ℕ}

/-- A walk of a client that has begun is a walk through the pages. -/
theorem walk_pages (items : ρ → List β) (hcall : ListsPages db call mk msg Arr n) (hitems : ∀ l t, items (mk l t) = l)
    (hnext : ∀ l t, next (mk l t) = t) {resps : List ρ} {token : String}
    (h : Walk db call next Size resps token) :
    (resps = [] ∧ token = "") ∨ ∃ acc o, Pages Arr (Lens Size) n resps.length acc o ∧
      resps.flatMap items = acc.map msg ∧ token = nextToken n o ∧ (o < n → o ≤ 2147483647) := by
  induction h with
  | start => exact .inl ⟨rfl, rfl⟩
  | more h hgo hsize hserves ih =>
      rename_i resps token size resp
      right
      rcases ih with ⟨rfl, rfl⟩ | ⟨acc, o, hpages, hflat, rfl, hmax⟩
      · obtain ⟨-, hmax, B, hB, he⟩ := (hcall size "" 0 rfl _ _).mp hserves
        simp only [Nat.zero_add, Prod.mk.injEq, Option.some.injEq, true_and] at he hmax
        refine ⟨_, pageLen size, .first hB ⟨size, hsize, rfl⟩, ?_, ?_, hmax⟩
        · rw [he]
          simp [hitems]
        · rw [he, hnext]
      · have hne : resps ≠ [] := by
          rintro rfl
          cases hpages
        have ho : o < n := nextToken_ne_empty_iff.mp (hgo.resolve_left hne)
        obtain ⟨-, hmax', B, hB, he⟩ :=
          (hcall size _ o (parsePageToken_nextToken ho (hmax ho)) _ _).mp hserves
        simp only [Prod.mk.injEq, Option.some.injEq, true_and] at he
        refine ⟨acc ++ page (pageLen size) o B, o + pageLen size, ?_, ?_, ?_, hmax'⟩
        · rw [List.length_append]
          exact hpages.more ho hB ⟨size, hsize, rfl⟩
        · rw [List.flatMap_append, hflat, List.map_append, he]
          simp [hitems]
        · rw [he, hnext]

/-- And a walk through the pages can be made by a client, unless an offset overflows. -/
theorem pages_walk (hcall : ListsPages db call mk msg Arr n) (hitems : ∀ l t, items (mk l t) = l)
    (hnext : ∀ l t, next (mk l t) = t) {k o : ℕ} {acc : List α}
    (h : Pages Arr (Lens Size) n k acc o)
    (hmax : ∀ k' acc o, k' ≤ k → Pages Arr (Lens Size) n k' acc o → o < n → o ≤ 2147483647) :
    ∃ resps, resps.length = k ∧ Walk db call next Size resps (nextToken n o) ∧
      resps.flatMap items = acc.map msg := by
  induction h with
  | first hB hp =>
      rename_i B p
      have hbound := hmax _ _ _ le_rfl (.first hB hp)
      obtain ⟨size, hsize, rfl⟩ := hp
      have hserves := (hcall size "" 0 rfl _ _).mpr
        ⟨rfl, by rwa [Nat.zero_add], B, hB, rfl⟩
      have hwalk : Walk db call next Size _ _ := .more .start (.inl rfl) hsize hserves
      rw [hnext, Nat.zero_add] at hwalk
      exact ⟨_, rfl, hwalk, by simp [hitems]⟩
  | more h ho hB hp ih =>
      rename_i k o p acc B
      have hbound := hmax _ _ _ le_rfl (h.more ho hB hp)
      have hold := hmax _ _ _ (Nat.le_succ k) h ho
      obtain ⟨size, hsize, rfl⟩ := hp
      obtain ⟨resps, rfl, hwalk, hflat⟩ := ih fun k' acc o hk => hmax k' acc o (by omega)
      have hserves := (hcall size _ o (parsePageToken_nextToken ho hold) _ _).mpr
        ⟨rfl, hbound, B, hB, rfl⟩
      have hnew := hwalk.more (.inr (nextToken_ne_empty_iff.mpr ho)) hsize hserves
      rw [hnext] at hnew
      exact ⟨_, by simp, hnew, by simp [hflat, hitems]⟩

end Walks

end EvGrpc
