import Entitlement.Database

/-!
# What the statements of a store say

The statements with which a store reads and writes its tables, read as SQL. Columns are found by
their names and parameters by their places; an absent value is NULL, and what is compared with it is
neither true nor false. A table is a heap: its rows stand in no order, and no two of them have the
same primary key. Only the text of a statement and its parameters reach the database.
-/

namespace Entitlement

/-! ### Tables -/

namespace Table

def primaryKey : Table → List String
  | grants => ["role", "domain", "object", "action"]
  | assignments => ["user_id", "role", "domain"]

/-- Rows that agree in all their columns are the same row. -/
theorem primaryKey_eq_columns (t : Table) : t.primaryKey = t.columns := by cases t <;> rfl

theorem nodup_columns (t : Table) : t.columns.Nodup := by cases t <;> decide

end Table

namespace Sql

/-! ### Lists -/

/-- Under a name that occurs once among others, a row has the value in the same place. -/
theorem lookup_zip {α : Type} {names : List String} {values : List α} (distinct : names.Nodup)
    {i : Nat} {name : String} (named : names[i]? = some name) :
    (names.zip values).lookup name = values[i]? := by
  induction names generalizing values i with
  | nil => simp at named
  | cons first others ih =>
    rw [List.nodup_cons] at distinct
    cases values with
    | nil => simp
    | cons value rest =>
      cases i with
      | zero =>
        have same : first = name := by simpa using named
        simp [same]
      | succ i =>
        have later : others[i]? = some name := by simpa using named
        have other : name ≠ first := by
          rintro rfl
          exact distinct.1 (List.mem_of_getElem? later)
        have unequal : (name == first) = false := by simpa using other
        simp only [List.zip_cons_cons, List.lookup_cons, unequal, List.getElem?_cons_succ]
        exact ih distinct.2 later

theorem mapM_eq_some_iff {α β : Type} {f : α → Option β} {l : List α} {m : List β} :
    l.mapM f = some m ↔ l.map f = m.map some := by
  induction l generalizing m with
  | nil => cases m <;> simp
  | cons a rest ih =>
    simp only [List.mapM_cons, Option.bind_eq_bind, Option.bind_eq_some_iff, Option.pure_def,
      Option.some.injEq, ih]
    cases m with
    | nil => simp
    | cons b others => simp

/-! ### Rows -/

/-- What a column or a parameter holds. -/
abbrev Value := Option String

/-- The value of a row in a column. -/
def cell (t : Table) (row : Row) (column : String) : Value := (t.columns.zip row).lookup column

/-- The value that is bound to a place. -/
def bound (parameters : List Value) (place : Nat) : Value := parameters[place]?.join

def conflicts (t : Table) (a b : Row) : Bool :=
  t.primaryKey.all fun column => cell t a column == cell t b column

structure Tables where
  rows : Table → List Row
  wide : ∀ t, ∀ row ∈ rows t, row.length = t.columns.length
  keyed : ∀ t, (rows t).Pairwise fun a b => conflicts t a b = false

namespace Tables

def empty : Tables where
  rows _ := []
  wide _ _ member := absurd member List.not_mem_nil
  keyed _ := .nil

/-- Adds a row, unless there is one with its primary key. -/
def add (t : Table) (row : Row) (long : row.length = t.columns.length) (tables : Tables) : Tables :=
  if fresh : (tables.rows t).any (conflicts t row) = true then tables
  else
    { rows := fun u => if u = t then row :: tables.rows t else tables.rows u
      wide := by
        intro u other member
        split at member
        next own =>
          rcases List.mem_cons.mp member with rfl | member
          · rw [own, long]
          · rw [own]
            exact tables.wide t other member
        next => exact tables.wide u other member
      keyed := by
        intro u
        split
        next own =>
          subst own
          refine List.pairwise_cons.mpr ⟨?_, tables.keyed u⟩
          simpa using fresh
        next => exact tables.keyed u }

/-- Keeps the rows of a table that are as wanted. -/
def keep (t : Table) (wanted : Row → Bool) (tables : Tables) : Tables where
  rows u := if u = t then (tables.rows t).filter wanted else tables.rows u
  wide := by
    intro u row member
    split at member
    next own => rw [own]; exact tables.wide t row (List.mem_filter.mp member).1
    next => exact tables.wide u row member
  keyed := by
    intro u
    split
    next own => subst own; exact (tables.keyed u).filter _
    next => exact tables.keyed u

end Tables

/-! ### Conditions -/

/-- True, false, or unknown. -/
abbrev Truth := Option Bool

def either : Truth → Truth → Truth
  | some true, _ | _, some true => some true
  | some false, some false => some false
  | _, _ => none

def both : Truth → Truth → Truth
  | some false, _ | _, some false => some false
  | some true, some true => some true
  | _, _ => none

inductive Test where
  | isNull (place : Nat)
  | equal (column : String) (place : Nat)
deriving DecidableEq, Repr

/-- Alternatives of which one is enough. -/
abbrev Clause := List Test

/-- Clauses that are all required. -/
abbrev Condition := List Clause

def testText : Test → String
  | .isNull i => Statement.place i ++ "::text IS NULL"
  | .equal column i => column ++ " = " ++ Statement.place i

def clauseText : Clause → String
  | [test] => testText test
  | tests => "(" ++ " OR ".intercalate (tests.map testText) ++ ")"

def conditionText (condition : Condition) : String :=
  " AND ".intercalate (condition.map clauseText)

/-- Every column has the value of its place. -/
def equals (t : Table) : Condition := t.columns.mapIdx fun i column => [.equal column i]

/-- The same, where a place without a value leaves its column open. -/
def agreesWith (t : Table) : Condition :=
  t.columns.mapIdx fun i column => [.isNull i, .equal column i]

section

variable (t : Table) (parameters : List Value) (row : Row)

def testTruth : Test → Truth
  | .isNull i => some (bound parameters i).isNone
  | .equal column i =>
    match cell t row column, bound parameters i with
    | some value, some wanted => some (value == wanted)
    | _, _ => none

def clauseTruth (clause : Clause) : Truth :=
  (clause.map (testTruth t parameters row)).foldr either (some false)

def conditionTruth (condition : Condition) : Truth :=
  (condition.map (clauseTruth t parameters row)).foldr both (some true)

/-- A row for which a condition is unknown does not meet it. -/
def meets (condition : Condition) : Bool := conditionTruth t parameters row condition == some true

end

/-! ### Commands -/

inductive Command where
  -- A row that conflicts with another one is passed over.
  | insert (t : Table) (columns : List String) (places : List Nat)
  | delete (t : Table) (condition : Condition)
  | select (columns : List String) (t : Table) (condition : Condition) (order : List String)
deriving DecidableEq, Repr

/-- The row that has the values in the columns. No column may be left without a value. -/
def newRow? (t : Table) (columns : List String) (values : List Value) : Option Row :=
  t.columns.mapM fun column => ((columns.zip values).lookup column).join

theorem length_newRow {t : Table} {columns : List String} {values : List Value} {row : Row}
    (built : newRow? t columns values = some row) : row.length = t.columns.length := by
  simpa using (congrArg List.length (mapM_eq_some_iff.mp built)).symm

namespace Command

open Statement (commas place)

def text : Command → String
  | insert t columns places =>
    "INSERT INTO " ++ t.name ++ " (" ++ commas columns ++ ") VALUES (" ++
      commas (places.map place) ++ ") ON CONFLICT DO NOTHING"
  | delete t condition => "DELETE FROM " ++ t.name ++ " WHERE " ++ conditionText condition
  | select columns t condition order =>
    "SELECT " ++ commas columns ++ " FROM " ++ t.name ++ " WHERE " ++ conditionText condition ++
      " ORDER BY " ++ commas order

/-- The rows that are answered, and the tables afterwards. -/
def run (parameters : List Value) (tables : Tables) : Command → List Row × Tables
  | insert t columns places =>
    match built : newRow? t columns (places.map (bound parameters)) with
    | none => ([], tables)
    | some row => ([], tables.add t row (length_newRow built))
  | delete t condition => ([], tables.keep t fun row => !meets t parameters row condition)
  | select columns t condition order =>
    let found := (tables.rows t).filter fun row => meets t parameters row condition
    let sorted := SortedBy.arrange (fun row => order.filterMap (cell t row)) found
    (sorted.map fun row => columns.filterMap (cell t row), tables)

def insertion (t : Table) : Command := insert t t.columns (List.range t.columns.length)

def deletion (t : Table) : Command := delete t (equals t)

def selection (t : Table) : Command := select t.columns t (agreesWith t) t.columns

def known : List Command :=
  [Table.grants, Table.assignments].flatMap fun t => [insertion t, deletion t, selection t]

end Command

/-- What becomes of a text and its parameters. -/
def ask (text : String) (parameters : List Value) (tables : Tables) : List Row × Tables :=
  match Command.known.find? fun command => command.text == text with
  | none => ([], tables)
  | some command => command.run parameters tables

/-- What becomes of a statement. Nothing but its text and its parameters counts. -/
def perform (s : Statement) (tables : Tables) : List Row × Tables := ask s.text s.parameters tables

/-! ### Texts -/

theorem find_known :
    ∀ command ∈ Command.known,
      (Command.known.find? fun other => other.text == command.text) = some command := by
  decide +kernel

theorem perform_eq_run {s : Statement} {command : Command} (known : command ∈ Command.known)
    (same : s.text = command.text) (tables : Tables) :
    perform s tables = command.run s.parameters tables := by
  rw [perform, ask, same, find_known command known]

theorem text_insertion (t : Table) (row : Row) :
    (Statement.insert t row).text = (Command.insertion t).text := by
  cases t <;> rfl

theorem text_deletion (t : Table) (row : Row) :
    (Statement.delete t row).text = (Command.deletion t).text := by
  cases t <;> rfl

theorem text_selection (t : Table) (wanted : RowPattern) :
    (Statement.select t wanted).text = (Command.selection t).text := by
  cases t <;> rfl

example : (Command.selection .assignments).text =
    "SELECT user_id, role, domain FROM rbac_assignments " ++
    "WHERE ($1::text IS NULL OR user_id = $1) AND ($2::text IS NULL OR role = $2) " ++
    "AND ($3::text IS NULL OR domain = $3) ORDER BY user_id, role, domain" := by
  decide +kernel

/-! ### Columns and places -/

section

variable {t : Table} {row : Row}

theorem cell_eq {i : Nat} {column : String} (named : t.columns[i]? = some column) :
    cell t row column = row[i]? :=
  lookup_zip t.nodup_columns named

/-- What gives every column the value in its place gives the row. -/
theorem map_columns {f : String → Value} (long : row.length = t.columns.length)
    (same : ∀ (i : Nat) (column : String), t.columns[i]? = some column → f column = row[i]?) :
    t.columns.map f = row.map some := by
  apply List.ext_getElem?
  intro i
  rw [List.getElem?_map, List.getElem?_map]
  cases named : t.columns[i]? with
  | none =>
    have none : row[i]? = none := by
      rw [List.getElem?_eq_none_iff] at named ⊢
      omega
    simp [none]
  | some column =>
    have inside : i < row.length := by
      have := (List.getElem?_eq_some_iff.mp named).1
      omega
    simp [same i column named, List.getElem?_eq_getElem inside]

theorem map_cell (long : row.length = t.columns.length) :
    t.columns.map (cell t row) = row.map some :=
  map_columns long fun _ _ named => cell_eq named

theorem filterMap_cell (long : row.length = t.columns.length) :
    t.columns.filterMap (cell t row) = row :=
  calc t.columns.filterMap (cell t row)
      = (t.columns.map (cell t row)).filterMap id := by rw [List.filterMap_map]; rfl
    _ = row := by rw [map_cell long]; simp

theorem conflicts_iff {a b : Row} (longA : a.length = t.columns.length)
    (longB : b.length = t.columns.length) : conflicts t a b = true ↔ a = b := by
  rw [conflicts, t.primaryKey_eq_columns, List.all_eq_true]
  constructor
  · intro same
    have cells : t.columns.map (cell t a) = t.columns.map (cell t b) :=
      List.map_congr_left fun column member => by simpa using same column member
    rw [map_cell longA, map_cell longB] at cells
    simpa using congrArg (List.filterMap id) cells
  · rintro rfl column -
    simp

theorem bound_map_some (i : Nat) : bound (row.map some) i = row[i]? := by
  rw [bound, List.getElem?_map]
  cases row[i]? <;> rfl

/-- The values that are bound to the places make the row. -/
theorem newRow_insertion (long : row.length = t.columns.length) :
    newRow? t t.columns ((List.range t.columns.length).map (bound (row.map some))) = some row := by
  rw [newRow?, mapM_eq_some_iff]
  apply map_columns long
  intro i column named
  have inside : i < t.columns.length := (List.getElem?_eq_some_iff.mp named).1
  have value : ((List.range t.columns.length).map (bound (row.map some)))[i]? = some row[i]? := by
    simp [inside, bound_map_some]
  rw [lookup_zip t.nodup_columns named, value]
  rfl

end

/-! ### Conditions on rows -/

section

variable {t : Table} {parameters : List Value} {row : Row}

theorem either_eq_true {a b : Truth} :
    either a b = some true ↔ a = some true ∨ b = some true := by
  rcases a with _ | _ | _ <;> rcases b with _ | _ | _ <;> simp [either]

theorem both_eq_true {a b : Truth} :
    both a b = some true ↔ a = some true ∧ b = some true := by
  rcases a with _ | _ | _ <;> rcases b with _ | _ | _ <;> simp [both]

theorem clauseTruth_eq_true {clause : Clause} :
    clauseTruth t parameters row clause = some true ↔
      ∃ test ∈ clause, testTruth t parameters row test = some true := by
  induction clause with
  | nil => simp [clauseTruth]
  | cons test rest ih =>
    rw [clauseTruth, List.map_cons, List.foldr_cons, either_eq_true]
    rw [clauseTruth] at ih
    simp [ih]

theorem meets_iff {condition : Condition} :
    meets t parameters row condition = true ↔
      ∀ clause ∈ condition, clauseTruth t parameters row clause = some true := by
  rw [meets, beq_iff_eq]
  induction condition with
  | nil => simp [conditionTruth]
  | cons clause rest ih =>
    rw [conditionTruth, List.map_cons, List.foldr_cons, both_eq_true]
    rw [conditionTruth] at ih
    simp [ih]

/-- A clause for every column is met column by column. -/
theorem meets_mapIdx {clauses : Nat → String → Clause} :
    meets t parameters row (t.columns.mapIdx clauses) = true ↔
      ∀ (i : Nat) (column : String), t.columns[i]? = some column →
        ∃ test ∈ clauses i column, testTruth t parameters row test = some true := by
  rw [meets_iff]
  constructor
  · intro met i column named
    obtain ⟨inside, rfl⟩ := List.getElem?_eq_some_iff.mp named
    exact clauseTruth_eq_true.mp (met _ (List.mem_mapIdx.mpr ⟨i, inside, rfl⟩))
  · intro met clause member
    obtain ⟨i, inside, rfl⟩ := List.mem_mapIdx.mp member
    exact clauseTruth_eq_true.mpr (met i _ (List.getElem?_eq_getElem inside))

theorem testTruth_equal {i : Nat} {column : String} :
    testTruth t parameters row (.equal column i) = some true ↔
      ∃ value, cell t row column = some value ∧ bound parameters i = some value := by
  rw [testTruth]
  cases cell t row column with
  | none => simp
  | some value =>
    cases bound parameters i with
    | none => simp
    | some wanted => simpa using eq_comm

theorem selects_iff {wanted : RowPattern} (long : wanted.length = row.length) :
    wanted.selects row = true ↔
      ∀ (i : Nat) (value : String), row[i]? = some value → agrees (bound wanted i) value = true := by
  induction wanted generalizing row with
  | nil =>
    have none : row = [] := by simpa using long.symm
    simp [none, RowPattern.selects]
  | cons first others ih =>
    obtain _ | ⟨value, values⟩ := row
    · simp at long
    · have rest := @ih values (by simpa using long)
      rw [RowPattern.selects, Bool.and_eq_true, rest]
      constructor
      · rintro ⟨here, later⟩ i other found
        cases i with
        | zero =>
          have same : value = other := by simpa using found
          exact same ▸ here
        | succ i => exact later i other (by simpa using found)
      · intro all
        refine ⟨all 0 value rfl, ?_⟩
        intro i other found
        exact all (i + 1) other (by simpa using found)

theorem meets_agreesWith {wanted : RowPattern} (long : row.length = t.columns.length)
    (fits : wanted.length = t.columns.length) :
    meets t wanted row (agreesWith t) = true ↔ wanted.selects row = true := by
  rw [agreesWith, meets_mapIdx, selects_iff (fits.trans long.symm)]
  have column (i : Nat) (column value : String) (named : t.columns[i]? = some column)
      (found : row[i]? = some value) :
      (∃ test ∈ [Test.isNull i, .equal column i], testTruth t wanted row test = some true) ↔
        agrees (bound wanted i) value = true := by
    have truth : testTruth t wanted row (.isNull i) = some (bound wanted i).isNone := rfl
    simp only [List.mem_cons, List.not_mem_nil, or_false, exists_eq_or_imp, exists_eq_left,
      testTruth_equal, truth, cell_eq named, found]
    cases bound wanted i <;> simp
  constructor
  · intro met i value found
    have inside : i < t.columns.length := long ▸ (List.getElem?_eq_some_iff.mp found).1
    have named := List.getElem?_eq_getElem inside
    exact (column i _ value named found).mp (met i _ named)
  · intro selected i name named
    have inside : i < row.length := long ▸ (List.getElem?_eq_some_iff.mp named).1
    have found := List.getElem?_eq_getElem inside
    exact (column i name _ named found).mpr (selected i _ found)

theorem meets_equals {target : Row} (long : row.length = t.columns.length)
    (fits : target.length = t.columns.length) :
    meets t (target.map some) row (equals t) = true ↔ row = target := by
  rw [equals, meets_mapIdx]
  simp only [List.mem_singleton, exists_eq_left, testTruth_equal, bound_map_some]
  constructor
  · intro met
    apply List.ext_getElem?
    intro i
    cases named : t.columns[i]? with
    | none =>
      rw [List.getElem?_eq_none_iff] at named
      rw [List.getElem?_eq_none (by omega), List.getElem?_eq_none (by omega)]
    | some column =>
      obtain ⟨value, left, right⟩ := met i column named
      rw [← cell_eq named, left, right]
  · rintro rfl i column named
    have inside : i < row.length := long ▸ (List.getElem?_eq_some_iff.mp named).1
    refine ⟨row[i], ?_, List.getElem?_eq_getElem inside⟩
    rw [cell_eq named, List.getElem?_eq_getElem inside]

end

/-! ### The statements of a store -/

variable {t : Table} {tables : Tables}

theorem mem_add {u : Table} {row other : Row} {long : row.length = t.columns.length} :
    other ∈ (tables.add t row long).rows u ↔ u = t ∧ other = row ∨ other ∈ tables.rows u := by
  unfold Tables.add
  split
  next taken =>
    obtain ⟨old, member, same⟩ := List.any_eq_true.mp taken
    rw [conflicts_iff long (tables.wide t old member)] at same
    subst same
    constructor
    · exact .inr
    · rintro (⟨rfl, rfl⟩ | member)
      · assumption
      · exact member
  next =>
    simp only
    split
    next own => subst own; simp
    next other => simp [other]

theorem mem_keep {u : Table} {wanted : Row → Bool} {row : Row} :
    row ∈ (tables.keep t wanted).rows u ↔ row ∈ tables.rows u ∧ (u = t → wanted row = true) := by
  simp only [Tables.keep]
  split
  next own => subst own; simp
  next other => simp [other]

theorem perform_insert {row : Row} (long : row.length = t.columns.length) :
    perform (.insert t row) tables = ([], tables.add t row long) := by
  have known : Command.insertion t ∈ Command.known := by cases t <;> decide
  rw [perform_eq_run known (text_insertion t row), Command.insertion, Command.run]
  split
  next none => rw [Statement.parameters, newRow_insertion long] at none; cases none
  next built found =>
    have same : row = built := by
      rw [Statement.parameters, newRow_insertion long] at found
      exact Option.some.inj found
    subst same
    rfl

theorem perform_delete (row : Row) :
    perform (.delete t row) tables =
      ([], tables.keep t fun old => !meets t (row.map some) old (equals t)) := by
  have known : Command.deletion t ∈ Command.known := by cases t <;> decide
  rw [perform_eq_run known (text_deletion t row)]
  rfl

theorem mem_perform_insert {u : Table} {row other : Row} (long : row.length = t.columns.length) :
    other ∈ (perform (.insert t row) tables).2.rows u ↔
      u = t ∧ other = row ∨ other ∈ tables.rows u := by
  rw [perform_insert long, mem_add]

theorem mem_perform_delete {u : Table} {row other : Row} (long : row.length = t.columns.length) :
    other ∈ (perform (.delete t row) tables).2.rows u ↔
      other ∈ tables.rows u ∧ ¬ (u = t ∧ other = row) := by
  rw [perform_delete, mem_keep, not_and]
  apply and_congr_right
  intro member
  apply imp_congr_right
  rintro rfl
  rw [← meets_equals (tables.wide u other member) long]
  simp

theorem nodup_rows (tables : Tables) (t : Table) : (tables.rows t).Nodup := by
  apply (tables.keyed t).imp_of_mem
  rintro a _ member - apart rfl
  have wide := tables.wide t a member
  rw [(conflicts_iff wide wide).mpr rfl] at apart
  cases apart

/-- A list of the selected rows in ascending order is the answer to a selection. -/
theorem perform_select_eq {wanted : RowPattern} {found : List Row}
    (fits : wanted.length = t.columns.length) (ascending : found.Pairwise (· < ·))
    (same : ∀ row, row ∈ found ↔ wanted.selects row = true ∧ row ∈ tables.rows t) :
    perform (.select t wanted) tables = (found, tables) := by
  have known : Command.selection t ∈ Command.known := by cases t <;> decide
  rw [perform_eq_run known (text_selection t wanted), Command.selection, Command.run]
  have whole (row : Row) (member : row ∈ tables.rows t) :
      t.columns.filterMap (cell t row) = row :=
    filterMap_cell (tables.wide t row member)
  have sorted : SortedBy.arrange (fun row => t.columns.filterMap (cell t row))
      ((tables.rows t).filter fun row => meets t wanted row (agreesWith t)) = found := by
    apply SortedBy.arrange_eq
    · exact (nodup_rows tables t).filter _
    · intro a left b right keys
      rwa [whole a (List.mem_filter.mp left).1, whole b (List.mem_filter.mp right).1] at keys
    · apply ascending.imp_of_mem
      intro a b left right less
      rwa [whole a ((same a).mp left).2, whole b ((same b).mp right).2]
    · intro row
      rw [same, List.mem_filter, and_comm]
      apply and_congr_right
      intro member
      exact (meets_agreesWith (tables.wide t row member) fits).symm
  have projected : found.map (fun row => t.columns.filterMap (cell t row)) = found := by
    have same : found.map (fun row => t.columns.filterMap (cell t row)) = found.map id :=
      List.map_congr_left fun row member => whole row ((same row).mp member).2
    rw [same, List.map_id]
  simp only [Statement.parameters, sorted, projected]

end Sql

end Entitlement
