import EvGrpc.Rpc.Op
import EvGrpc.Proto
import EvGrpc.Util.PageToken

/-!
# Listing a table, and searching one by name

What the three list RPCs have in common: the clamp on the page size, the query for
one row more than the page holds, and the token of the next page.

Two of them also build their `WHERE` clause as they go.  `Listing` is such a
statement: each clause names the placeholder its parameter was bound to, and
`Listing.run` looks the parameter up there.

`services/weather_service.cc` and `services/source_category_service.cc` are the same two RPCs
over two tables of names.  In which order a search gives them is the collation of the database,
a parameter here.
-/

namespace EvGrpc

open Lib

/-! ## Pages -/

/-- `kMaxPageSize` -/
def kMaxPageSize : ℤ := 1000

/-- The page size a request stands for. -/
def pageSizeOf (pageSize : Int32) : ℤ :=
  if 0 < pageSize.toInt then min pageSize.toInt (kMaxPageSize - 1) else 50

/-- `LIMIT … OFFSET …` -/
def limitOffset {α : Type} (limit offset : ℤ) (rows : List α) : List α :=
  (rows.drop offset.toNat).take limit.toNat

/-- The rows of a result that make up the page, and the token of the next page: the
query asked for one row more than the page holds. -/
def listPage {α β : Type} (row : α → Except Exn β) (pageSize offset : ℤ) (result : List α) :
    Rpc (List β × String) := do
  let hasMore := decide (pageSize.toNat < result.length)
  let emit := if hasMore then pageSize.toNat else result.length
  let page ← convert ((result.take emit).mapM row)
  let nextPageToken ← if hasMore then toText <$> addInt offset pageSize else pure ""
  return (page, nextPageToken)

/-! ## Statements with optional filters -/

/-- A comparison in a `WHERE` clause. -/
inductive Cmp
  | eq
  | gt
  | lt
  deriving DecidableEq, Repr

/-- A value a filter compares with. -/
inductive SqlValue
  | uuid (u : Uuid)
  | instant (t : Instant)
  | chargerType (c : ChargerTypeEnum)
  deriving DecidableEq

/-- The comparison of two values. -/
def Cmp.holds : Cmp → SqlValue → SqlValue → Bool
  | .eq, a, b => decide (a = b)
  | .gt, .instant a, .instant b => decide (b < a)
  | .lt, .instant a, .instant b => decide (a < b)
  | _, _, _ => false

/-- ` AND column cmp $k` -/
structure Clause (Col : Type) where
  column : Col
  cmp : Cmp
  param : ℕ

/-- A statement under construction: its clauses and its parameters so far. -/
structure Listing (Col : Type) where
  clauses : List (Clause Col)
  params : List Param

/-- `… WHERE 1=1` -/
def Listing.start {Col : Type} : Listing Col := ⟨[], []⟩

/-- Add a clause and its parameter, when the filter is set. -/
def Listing.andWhere {Col : Type} (set : Bool) (column : Col) (cmp : Cmp) (p : Param)
    (l : Listing Col) : Listing Col :=
  if set then ⟨l.clauses ++ [⟨column, cmp, l.params.length + 1⟩], l.params ++ [p]⟩ else l

/-- What a statement needs to know about its table: its rows, its filter columns, and
the column it is ordered by. -/
structure Listed (Col Row : Type) where
  rows : Database → List Row
  coerce : Col → Param → Except Exn (Option SqlValue)
  value : Row → Col → SqlValue
  startTime : Row → Instant

/-- `ORDER BY startTime DESC` -/
def Listed.order {Col Row : Type} (T : Listed Col Row) (a b : Row) : Bool :=
  decide (T.startTime b ≤ T.startTime a)

/-- A parameter of `LIMIT` or `OFFSET`. -/
def Param.asCount : Param → Except Exn ℤ
  | .int n => .ok n.toInt
  | .text s =>
      match strtol (cstr s) with
      | some ⟨v, false, []⟩ => .ok v
      | _ =>
          .error (dataException ("invalid input syntax for type bigint: \"" ++ received s ++ "\""))
  | _ => .error (dataException "invalid input syntax for type bigint")

/-- The clauses with their values. -/
def Listing.conditions {Col Row : Type} (T : Listed Col Row) (l : Listing Col) :
    Except Exn (List (Col × Cmp × Option SqlValue)) :=
  l.clauses.mapM fun c => do
    let v ← T.coerce c.column (placeholder l.params c.param)
    return (c.column, c.cmp, v)

/-- A row satisfies the clauses; a comparison with `NULL` is not true. -/
def Listed.satisfies {Col Row : Type} (T : Listed Col Row)
    (conds : List (Col × Cmp × Option SqlValue)) (r : Row) : Bool :=
  conds.all fun (col, cmp, v) => v.any fun v => cmp.holds (T.value r col) v

/-- The statement completed with ` ORDER BY startTime DESC LIMIT $k OFFSET $(k+1)`. -/
def Listing.run {Col Row : Type} (T : Listed Col Row) (l : Listing Col) (limit offset : Param)
    (db : Database) : Except Exn (List Row) := do
  let limitAt := l.params.length + 1
  let offsetAt := l.params.length + 2
  let l : Listing Col := { l with params := l.params ++ [limit, offset] }
  let conds ← l.conditions T
  let limit ← (placeholder l.params limitAt).asCount
  let offset ← (placeholder l.params offsetAt).asCount
  return limitOffset limit offset (((T.rows db).filter (T.satisfies conds)).mergeSort T.order)

/-! ## `WeatherService` and `SourceCategoryService` -/

/-- Create a row of a lookup table; the response is made from the request. -/
def createLookup {ρ : Type} (kMethod : String) (insert : List Param → Write Unit)
    (message : String → String → ρ) (md : Metadata) (name : String) : Prog Op (Reply ρ) :=
  authenticated md kMethod <| catching <| withConn <| withWork do
    let id ← newUuid
    execWrite (insert [.text (uuidOut id), .text name])
    commit
    return (.OK, some (message (uuidOut id) name))

/-- The order of texts in a database: its `LC_COLLATE`. -/
structure Collation where
  le : String → String → Bool
  trans : ∀ a b c, le a b = true → le b c = true → le a c = true
  total : ∀ a b, (le a b || le b a) = true

/-- The collation `C`: by code points. -/
def Collation.byCodePoint : Collation where
  le a b := decide (a ≤ b)
  trans := by
    intro a b c hab hbc
    simp only [decide_eq_true_eq] at hab hbc ⊢
    exact String.le_trans hab hbc
  total := by
    intro a b
    simp only [Bool.or_eq_true, decide_eq_true_eq]
    exact String.le_total _ _

/-- `SELECT Id, Name FROM … WHERE Name ^@ $1 ORDER BY Name LIMIT $2` -/
def searchNames {α : Type} (collation : Collation) (name : α → String) (start : String) (limit : ℤ)
    (rows : List α) : List α :=
  ((rows.filter fun r => (cstr start).isPrefixOf (name r).toList).mergeSort
    fun a b => collation.le (name a) (name b)).take limit.toNat

/-- Search a lookup table by the start of the name. -/
def searchLookup {α ρ : Type} (collation : Collation) (kMethod : String) (rows : Database → List α)
    (name : α → String) (message : α → ρ) (md : Metadata) (start : String) (limit : Int32) :
    Prog Op (Reply (List ρ)) :=
  authenticated md kMethod <| catching do
    let limit := if 0 < limit.toInt then limit.toInt else 50
    readAll (fun db => .ok (searchNames collation name start limit (rows db))) fun result =>
      .ok (result.map message)

/-- `CreateWeather` -/
def createWeather (md : Metadata) (req : CreateWeatherRequest) : Prog Op (Reply Weather) :=
  createLookup "/evgrpc.WeatherService/CreateWeather" .insertWeather Weather.mk md req.name

/-- `SearchWeather` -/
def searchWeather (collation : Collation) (md : Metadata) (req : SearchWeatherRequest) :
    Prog Op (Reply (List Weather)) :=
  searchLookup collation "/evgrpc.WeatherService/SearchWeather" Database.weather WeatherRow.name
    (fun r => ⟨uuidOut r.id, r.name⟩) md req.start req.limit

/-- `CreateSourceCategory` -/
def createSourceCategory (md : Metadata) (req : CreateSourceCategoryRequest) :
    Prog Op (Reply SourceCategory) :=
  createLookup "/evgrpc.SourceCategoryService/CreateSourceCategory" .insertSourceCategory
    SourceCategory.mk md req.name

/-- `SearchSourceCategory` -/
def searchSourceCategory (collation : Collation) (md : Metadata)
    (req : SearchSourceCategoryRequest) : Prog Op (Reply (List SourceCategory)) :=
  searchLookup collation "/evgrpc.SourceCategoryService/SearchSourceCategory"
    Database.sourceCategory SourceCategoryRow.name (fun r => ⟨uuidOut r.id, r.name⟩) md req.start
    req.limit

end EvGrpc
