import Entitlement.Fleet
import Entitlement.Proofs.Sql
import Mathlib.Data.List.Basic

/-!
# Stores

A store writes facts and finds the facts of a pattern. Two stores are compared by their answers: one
simulates the other if states that correspond give equal answers and lead to states that correspond.
The statements of the tables, read as SQL, simulate the sets in memory.
-/

namespace Entitlement

variable {σ τ υ : Type}

inductive StoreAnswer where
  | wrote
  | found (facts : List Fact)
  | failed (cause : StoreFailure)
deriving DecidableEq, Repr

abbrev Store (σ : Type) := StoreCall → σ → StoreAnswer × σ

namespace Store

def serve (store : Store σ) : List StoreCall → σ → List StoreAnswer × σ
  | [], s => ([], s)
  | call :: rest, s =>
    let (answer, later) := store call s
    let (answers, last) := serve store rest later
    (answer :: answers, last)

/-! ### Simulation -/

/-- The first store behaves like the second one, while their states correspond. -/
def Simulates (corresponds : σ → τ → Prop) (first : Store σ) (second : Store τ) : Prop :=
  ∀ call s t, corresponds s t →
    (first call s).1 = (second call t).1 ∧ corresponds (first call s).2 (second call t).2

namespace Simulates

variable {first : Store σ} {second : Store τ} {third : Store υ} {R : σ → τ → Prop}
  {S : τ → υ → Prop}

theorem serve (simulates : Simulates R first second) (calls : List StoreCall) {s : σ} {t : τ}
    (corresponds : R s t) :
    (first.serve calls s).1 = (second.serve calls t).1 ∧
      R (first.serve calls s).2 (second.serve calls t).2 := by
  induction calls generalizing s t with
  | nil => exact ⟨rfl, corresponds⟩
  | cons call rest ih =>
    obtain ⟨same, later⟩ := simulates call s t corresponds
    obtain ⟨others, last⟩ := ih later
    refine ⟨?_, last⟩
    simp only [Store.serve, same, others]

theorem trans (left : Simulates R first second) (right : Simulates S second third) :
    Simulates (fun s u => ∃ t, R s t ∧ S t u) first third := by
  rintro call s u ⟨t, here, there⟩
  obtain ⟨same, later⟩ := left call s t here
  obtain ⟨same', later'⟩ := right call t u there
  exact ⟨same.trans same', _, later, later'⟩

end Simulates

end Store

/-! ### Statements -/

namespace StoreCall

def statement : StoreCall → Statement
  | write change fact => .ofWrite change fact
  | query pattern => .ofQuery pattern

/-- All that a call says. -/
def texts : StoreCall → List String
  | write _ fact => fact.row
  | query pattern => pattern.row.filterMap id

def hasNull (call : StoreCall) : Bool := call.texts.any Database.hasNull

/-- All that every database has against the statement of a call is a null character. -/
theorem objection?_statement (call : StoreCall) :
    call.statement.objection? =
      if call.hasNull then some ⟨"22021", "invalid byte sequence for encoding \"UTF8\": 0x00"⟩
      else none := by
  have null : (call.statement.parameters.any fun parameter =>
      (parameter.map Database.hasNull).getD false) = call.hasNull := by
    cases call with
    | write change fact =>
      cases change <;>
        simp [statement, Statement.ofWrite, Statement.parameters, hasNull, texts, List.any_map,
          Function.comp_def]
    | query pattern =>
      rw [statement, Statement.ofQuery, Statement.parameters, hasNull, texts, List.any_filterMap]
      congr 1
      funext parameter
      cases parameter <;> rfl
  have objection : call.statement.objection? =
      if (call.statement.parameters.any fun parameter =>
        (parameter.map Database.hasNull).getD false) = true
      then some ⟨"22021", "invalid byte sequence for encoding \"UTF8\": 0x00"⟩ else none := by
    cases call with
    | write change fact => cases change <;> rfl
    | query pattern => rfl
  rw [objection, null]

/-- What a call makes of the rows that are answered. -/
def read : StoreCall → List Row → StoreAnswer
  | write .., _ => .wrote
  | query pattern, rows => .found (rows.filterMap (Fact.ofRow? pattern.table))

end StoreCall

namespace Store

/-! ### Refusals -/

/-- A store that refuses the calls to whose statements there are objections. -/
def refusing (objects : Statement → Option ServerError) (store : Store σ) : Store σ := fun call s =>
  match objects call.statement with
  | some error => (.failed (DatabaseFailure.answered error).toStoreFailure, s)
  | none => store call s

theorem Simulates.refusing {first : Store σ} {second : Store τ} {R : σ → τ → Prop}
    (simulates : Simulates R first second) (objects : Statement → Option ServerError) :
    Simulates R (first.refusing objects) (second.refusing objects) := by
  intro call s t corresponds
  unfold Store.refusing
  split
  · exact ⟨rfl, corresponds⟩
  · exact simulates call s t corresponds

/-- Where there are no objections, nothing is refused. -/
theorem serve_refusing {objects : Statement → Option ServerError} {calls : List StoreCall}
    (executed : ∀ call ∈ calls, objects call.statement = none) (store : Store σ) (s : σ) :
    (store.refusing objects).serve calls s = store.serve calls s := by
  induction calls generalizing s with
  | nil => rfl
  | cons call rest ih =>
    obtain ⟨here, others⟩ := List.forall_mem_cons.mp executed
    have same : store.refusing objects call s = store call s := by rw [refusing, here]
    simp only [serve, same, ih others]

/-! ### In memory -/

def memory : Store Relations
  | .write change fact, r => (.wrote, r.write change fact)
  | .query pattern, r => (.found (r.query pattern), r)

end Store

theorem Fact.eq_of_row {fact other : Fact} (table : fact.table = other.table)
    (row : fact.row = other.row) : fact = other := by
  have same : Fact.ofRow? fact.table fact.row = Fact.ofRow? other.table other.row := by
    rw [table, row]
  simpa using same

theorem Fact.length_row (fact : Fact) : fact.row.length = fact.table.columns.length := by
  cases fact <;> rfl

theorem FactPattern.length_row (pattern : FactPattern) :
    pattern.row.length = pattern.table.columns.length := by
  cases pattern <;> rfl

namespace Relations

theorem query_ascending (pattern : FactPattern) (r : Relations) :
    ((r.query pattern).map Fact.row).Pairwise (· < ·) := by
  cases pattern with
  | grants p =>
    simp only [query, List.pairwise_map]
    exact r.grants.ascending.filter _
  | assignments p =>
    simp only [query, List.pairwise_map]
    exact r.assignments.ascending.filter _

theorem query_nodup (pattern : FactPattern) (r : Relations) : (r.query pattern).Nodup := by
  have ascending := List.pairwise_map.mp (r.query_ascending pattern)
  apply ascending.imp
  rintro a b less rfl
  exact List.lt_irrefl _ less

end Relations

/-! ### In tables -/

namespace Sql

/-- The store that sends a statement for each call. -/
def store : Store Tables := fun call tables =>
  let (rows, later) := perform call.statement tables
  (call.read rows, later)

/-- The rows of the tables are the facts of the relations. -/
def Mirrors (tables : Tables) (r : Relations) : Prop :=
  ∀ t row, row ∈ tables.rows t ↔ ∃ fact, r.Holds fact ∧ fact.table = t ∧ fact.row = row

theorem Mirrors.write {tables : Tables} {r : Relations} (mirrors : Mirrors tables r)
    (change : Change) (fact : Fact) :
    Mirrors (perform (.ofWrite change fact) tables).2 (r.write change fact) := by
  intro t row
  cases change with
  | insert =>
    rw [Statement.ofWrite, mem_perform_insert fact.length_row, mirrors]
    simp only [Relations.write, Relations.holds_insert]
    constructor
    · rintro (⟨rfl, rfl⟩ | ⟨other, held, table, row⟩)
      · exact ⟨fact, .inl rfl, rfl, rfl⟩
      · exact ⟨other, .inr held, table, row⟩
    · rintro ⟨other, rfl | held, table, row⟩
      · exact .inl ⟨table.symm, row.symm⟩
      · exact .inr ⟨other, held, table, row⟩
  | delete =>
    rw [Statement.ofWrite, mem_perform_delete fact.length_row, mirrors]
    simp only [Relations.write, Relations.holds_delete]
    constructor
    · rintro ⟨⟨other, held, rfl, rfl⟩, apart⟩
      refine ⟨other, ⟨?_, held⟩, rfl, rfl⟩
      rintro rfl
      exact apart ⟨rfl, rfl⟩
    · rintro ⟨other, ⟨different, held⟩, rfl, rfl⟩
      refine ⟨⟨other, held, rfl, rfl⟩, ?_⟩
      rintro ⟨table, row⟩
      exact different (Fact.eq_of_row table row)

theorem Mirrors.query {tables : Tables} {r : Relations} (mirrors : Mirrors tables r)
    (pattern : FactPattern) :
    perform (.ofQuery pattern) tables = ((r.query pattern).map Fact.row, tables) := by
  apply perform_select_eq pattern.length_row (r.query_ascending pattern)
  intro row
  rw [mirrors, List.mem_map]
  constructor
  · rintro ⟨fact, member, rfl⟩
    obtain ⟨selected, held⟩ := Relations.mem_query.mp member
    obtain ⟨table, wanted⟩ := (pattern.selects_row fact).mpr selected
    exact ⟨wanted, fact, held, table.symm, rfl⟩
  · rintro ⟨wanted, fact, held, table, rfl⟩
    refine ⟨fact, Relations.mem_query.mpr ⟨?_, held⟩, rfl⟩
    exact (pattern.selects_row fact).mp ⟨table.symm, wanted⟩

/-- Every fact that a query finds is read back from its row. -/
theorem filterMap_ofRow (pattern : FactPattern) (r : Relations) :
    ((r.query pattern).map Fact.row).filterMap (Fact.ofRow? pattern.table) = r.query pattern := by
  rw [List.filterMap_map]
  have same : ∀ fact ∈ r.query pattern,
      (Fact.ofRow? pattern.table ∘ Fact.row) fact = some fact := by
    intro fact member
    obtain ⟨table, -⟩ := (pattern.selects_row fact).mpr (Relations.mem_query.mp member).1
    simp [table]
  rw [List.filterMap_congr same, List.filterMap_some]

theorem store_simulates_memory : Store.Simulates Mirrors store Store.memory := by
  intro call tables r mirrors
  cases call with
  | write change fact => exact ⟨rfl, mirrors.write change fact⟩
  | query pattern =>
    have answered : store (.query pattern) tables = (.found (r.query pattern), tables) := by
      rw [store, StoreCall.statement, mirrors.query]
      simp only [StoreCall.read, filterMap_ofRow]
    rw [answered]
    exact ⟨rfl, mirrors⟩

end Sql

end Entitlement
