import TeamsRehook.Lib.Except

/-!
# Schema statements of SQLite

A table has columns, unique indexes and rows. A row gives a value to every name, and only the names of the table's
columns are looked at. Every statement that writes rows checks the constraints of the table and fails when one does not
hold, so what a statement leaves is a valid table when it was given one (`Table.Valid`). Two rows with a NULL in a
unique index do not conflict.

Declared types are left out: they only say how a value is stored.
-/

namespace Sqlite

/-- A stored value. -/
inductive Value where
  | null
  | integer (n : Int)
  | text (s : String)
  deriving DecidableEq, Repr

/-- `trim(s)`: SQLite removes spaces and no other white space. -/
def trimText (s : String) : String :=
  String.ofList (((s.toList.dropWhile (· == ' ')).reverse.dropWhile (· == ' ')).reverse)

/-- `trim(v)`. -/
def Value.trim : Value → Value
  | .null => .null
  | .integer n => .text (toString n)
  | .text s => .text (trimText s)

/-- A column: its name, whether it is NOT NULL, and the value of its DEFAULT. -/
structure Column where
  name : String
  notNull : Bool
  default : Value
  deriving DecidableEq, Repr

/-- A unique index. -/
structure UniqueIndex where
  name : String
  columns : List String
  deriving DecidableEq, Repr

abbrev Row := String → Value

def Row.set (r : Row) (column : String) (v : Value) : Row := fun c => if c = column then v else r c

@[simp] theorem Row.set_self (r : Row) (column : String) (v : Value) : r.set column v column = v := if_pos rfl

theorem Row.set_of_ne (r : Row) {column c : String} (v : Value) (h : c ≠ column) : r.set column v c = r c := if_neg h

structure Table where
  columns : List Column
  uniques : List UniqueIndex
  rows : List Row

/-- `PRAGMA table_info`: the names of the columns. -/
def Table.names (t : Table) : List String := t.columns.map (·.name)

/-- Why a statement fails. -/
inductive Error where
  | duplicateColumn
  | noSuchColumn
  | notNullDefault
  | notNullFailed
  | uniqueFailed
  deriving DecidableEq, Repr

/-! ## Constraints -/

/-- Two rows have the same value, other than NULL, in each of the columns. -/
def conflict (columns : List String) (r r' : Row) : Bool := columns.all fun c => r c != .null && r c == r' c

/-- No two rows conflict in the columns. -/
def UniqueIn (columns : List String) (rows : List Row) : Prop := rows.Pairwise fun r r' => conflict columns r r' = false

instance (columns : List String) (rows : List Row) : Decidable (UniqueIn columns rows) :=
  inferInstanceAs (Decidable (rows.Pairwise _))

/-- No row has a NULL in a NOT NULL column. -/
def NotNullIn (columns : List Column) (rows : List Row) : Prop :=
  ∀ c ∈ columns, c.notNull = true → ∀ r ∈ rows, r c.name ≠ .null

instance (columns : List Column) (rows : List Row) : Decidable (NotNullIn columns rows) :=
  inferInstanceAs (Decidable (∀ c ∈ columns, c.notNull = true → ∀ r ∈ rows, r c.name ≠ .null))

/-- The rows satisfy the constraints of the table. -/
structure Table.Valid (t : Table) : Prop where
  notNull : NotNullIn t.columns t.rows
  unique : ∀ ix ∈ t.uniques, UniqueIn ix.columns t.rows

/-- The check of the constraints on what a statement writes. -/
def Table.check (t : Table) : Except Error Table :=
  if ¬NotNullIn t.columns t.rows then .error .notNullFailed
  else if ∃ ix ∈ t.uniques, ¬UniqueIn ix.columns t.rows then .error .uniqueFailed
  else .ok t

theorem Table.check_eq_ok_iff {t t' : Table} : t.check = .ok t' ↔ t.Valid ∧ t = t' := by
  unfold Table.check
  split
  · rename_i h
    simp only [reduceCtorEq, false_iff, not_and]
    exact fun hv => absurd hv.notNull h
  · split
    · rename_i h
      obtain ⟨ix, hix, hu⟩ := h
      simp only [reduceCtorEq, false_iff, not_and]
      exact fun hv => absurd (hv.unique ix hix) hu
    · rename_i h h'
      simp only [not_exists, not_and, not_not] at h h'
      simp only [Except.ok.injEq]
      exact ⟨fun e => ⟨⟨h, h'⟩, e⟩, fun e => e.2⟩

/-- Rows that conflict in more columns conflict in fewer. -/
theorem conflict_mono {columns columns' : List String} (h : columns ⊆ columns') {r r' : Row}
    (hc : conflict columns' r r' = true) : conflict columns r r' = true := by
  simp only [conflict, List.all_eq_true] at hc ⊢
  exact fun c hm => hc c (h hm)

/-- Uniqueness in some columns is uniqueness in more of them. -/
theorem UniqueIn.mono {columns columns' : List String} (h : columns ⊆ columns') {rows : List Row}
    (hu : UniqueIn columns rows) : UniqueIn columns' rows := by
  refine List.Pairwise.imp ?_ hu
  intro r r' hr
  rw [Bool.eq_false_iff] at hr ⊢
  exact fun hc => hr (conflict_mono h hc)

/-- Rows that keep their values in the columns stay unique in them. -/
theorem UniqueIn.map {columns : List String} {rows : List Row} {f : Row → Row}
    (hf : ∀ r ∈ rows, ∀ c ∈ columns, f r c = r c) (hu : UniqueIn columns rows) : UniqueIn columns (rows.map f) := by
  unfold UniqueIn
  rw [List.pairwise_map]
  refine List.Pairwise.imp_of_mem ?_ hu
  intro r r' hr hr' h
  rw [← h]
  unfold conflict
  rw [List.all_eq, List.all_eq]
  refine decide_eq_decide.2 (forall₂_congr fun c hc => ?_)
  rw [hf r hr c hc, hf r' hr' c hc]

/-! ## Statements -/

/-- `ALTER TABLE … ADD COLUMN`: every row gets the default. -/
def Table.addColumn (column : Column) (t : Table) : Except Error Table :=
  if column.name ∈ t.names then .error .duplicateColumn
  else if column.notNull = true ∧ column.default = .null then .error .notNullDefault
  else .ok { t with columns := t.columns ++ [column], rows := t.rows.map fun r => r.set column.name column.default }

/-- `UPDATE … SET column = v WHERE p`. -/
def Table.update (p : Row → Bool) (column : String) (v : Value) (t : Table) : Except Error Table :=
  if column ∈ t.names then
    ({ t with rows := t.rows.map fun r => if p r then r.set column v else r } : Table).check
  else .error .noSuchColumn

/-- What a `SELECT` computes for one column: a column of the table it reads, or a constant. -/
inductive Expr where
  | column (name : String)
  | literal (v : Value)
  deriving DecidableEq, Repr

def Expr.eval (r : Row) : Expr → Value
  | .column name => r name
  | .literal v => v

/-- The expression can be computed from a row of the table. -/
def Expr.Reads (t : Table) : Expr → Prop
  | .column name => name ∈ t.names
  | .literal _ => True

instance (t : Table) (e : Expr) : Decidable (e.Reads t) := by
  cases e <;> unfold Expr.Reads <;> infer_instance

/-- The row that `INSERT INTO … (columns) SELECT …` makes of a row that it reads; `select` gives the expression for a
column. -/
def selectRow (columns : List String) (select : String → Expr) (r : Row) : Row :=
  fun c => if c ∈ columns then (select c).eval r else .null

/-- `INSERT INTO t (columns) SELECT … FROM source`, for an empty table `t` all of whose columns are listed. -/
def Table.insertSelect (columns : List String) (select : String → Expr) (source t : Table) : Except Error Table :=
  if ∀ c ∈ columns, (select c).Reads source then
    ({ t with rows := source.rows.map (selectRow columns select) } : Table).check
  else .error .noSuchColumn

/-- `CREATE UNIQUE INDEX IF NOT EXISTS`. -/
def Table.createUniqueIndexIfNotExists (ix : UniqueIndex) (t : Table) : Except Error Table :=
  if ix.name ∈ t.uniques.map (·.name) then .ok t
  else if ¬UniqueIn ix.columns t.rows then .error .uniqueFailed
  else .ok { t with uniques := t.uniques ++ [ix] }

/-- `PRAGMA index_list` and `PRAGMA index_info`: there is a unique index on these columns. -/
def Table.hasUniqueIndex (columns : List String) (t : Table) : Bool := t.uniques.any fun ix => ix.columns == columns

theorem Table.hasUniqueIndex_eq_true {columns : List String} {t : Table} :
    t.hasUniqueIndex columns = true ↔ ∃ ix ∈ t.uniques, ix.columns = columns := by
  simp [Table.hasUniqueIndex]

theorem Table.createUniqueIndexIfNotExists_columns {ix : UniqueIndex} {t t' : Table}
    (h : t.createUniqueIndexIfNotExists ix = .ok t') : t'.columns = t.columns ∧ t'.rows = t.rows := by
  unfold Table.createUniqueIndexIfNotExists at h
  split at h
  · cases h
    exact ⟨rfl, rfl⟩
  · split at h
    · nomatch h
    · cases h
      exact ⟨rfl, rfl⟩

/-- A table with one more unique index. -/
def Table.withIndex (ix : UniqueIndex) (t : Table) : Table := { t with uniques := t.uniques ++ [ix] }

@[simp] theorem Table.withIndex_rows (ix : UniqueIndex) (t : Table) : (t.withIndex ix).rows = t.rows := rfl

/-- An index of a new name is made of columns in which the rows are unique. -/
theorem Table.createUniqueIndexIfNotExists_of_unique {ix : UniqueIndex} {t : Table}
    (hn : ix.name ∉ t.uniques.map (·.name)) (hu : UniqueIn ix.columns t.rows) :
    t.createUniqueIndexIfNotExists ix = .ok (t.withIndex ix) := by
  unfold Table.createUniqueIndexIfNotExists
  rw [if_neg hn, if_neg (not_not.2 hu)]
  rfl

theorem Table.Valid.withIndex {ix : UniqueIndex} {t : Table} (h : t.Valid) (hu : UniqueIn ix.columns t.rows) :
    (t.withIndex ix).Valid := by
  refine ⟨h.notNull, fun ix' hix => ?_⟩
  rcases List.mem_append.1 hix with hix | hix
  · exact h.unique ix' hix
  · obtain rfl := List.mem_singleton.1 hix
    exact hu

/-! ## Adding the columns that are missing -/

/-- The columns are added one after the other, each one whose name is not among those read before the first was added. -/
def Table.addMissing (existing : List String) (columns : List Column) (t : Table) : Except Error Table :=
  columns.foldlM (fun t column => if column.name ∈ existing then .ok t else t.addColumn column) t

/-- The columns whose names are not among the existing ones. -/
def missing (existing : List String) (columns : List Column) : List Column := columns.filter (·.name ∉ existing)

/-- The row after columns with defaults have been added to its table. -/
def Row.fill (columns : List Column) (r : Row) : Row := columns.foldl (fun r c => r.set c.name c.default) r

theorem Row.fill_of_notMem {columns : List Column} {c : String} (h : c ∉ columns.map (·.name)) (r : Row) :
    r.fill columns c = r c := by
  induction columns generalizing r with
  | nil => rfl
  | cons column columns ih =>
    simp only [List.map_cons, List.mem_cons, not_or] at h
    rw [Row.fill, List.foldl_cons, ← Row.fill, ih h.2, Row.set_of_ne r _ h.1]

/-- An added column has its default. -/
theorem Row.fill_of_mem {columns : List Column} (hn : (columns.map (·.name)).Nodup) {column : Column}
    (h : column ∈ columns) (r : Row) : r.fill columns column.name = column.default := by
  induction columns generalizing r with
  | nil => nomatch h
  | cons column' columns ih =>
    rw [List.map_cons, List.nodup_cons] at hn
    rw [Row.fill, List.foldl_cons, ← Row.fill]
    rcases List.mem_cons.1 h with rfl | h
    · rw [Row.fill_of_notMem hn.1, Row.set_self]
    · exact ih hn.2 h _

/-- Columns of distinct names, each with a default where it is NOT NULL, are added, and the rows are filled with their
defaults. -/
theorem Table.addMissing_eq_ok {existing : List String} {columns : List Column} (hn : (columns.map (·.name)).Nodup)
    (hd : ∀ c ∈ columns, c.notNull = true → c.default ≠ .null) {t : Table}
    (ht : ∀ c ∈ columns, c.name ∉ existing → c.name ∉ t.names) :
    t.addMissing existing columns =
      .ok { t with columns := t.columns ++ missing existing columns,
                   rows := t.rows.map (Row.fill (missing existing columns)) } := by
  induction columns generalizing t with
  | nil =>
    have hf : Row.fill [] = id := rfl
    simp [Table.addMissing, missing, hf, pure, Except.pure]
  | cons column columns ih =>
    rw [List.map_cons, List.nodup_cons] at hn
    have hd' : ∀ c ∈ columns, c.notNull = true → c.default ≠ .null := fun c hc => hd c (List.mem_cons_of_mem _ hc)
    unfold Table.addMissing
    rw [List.foldlM_cons]
    by_cases he : column.name ∈ existing
    · rw [if_pos he]
      have hm : missing existing (column :: columns) = missing existing columns := by simp [missing, he]
      rw [hm]
      exact ih hn.2 hd' fun c hc => ht c (List.mem_cons_of_mem _ hc)
    · have hm : missing existing (column :: columns) = column :: missing existing columns := by simp [missing, he]
      have hadd : t.addColumn column =
          .ok { t with columns := t.columns ++ [column],
                       rows := t.rows.map fun r => r.set column.name column.default } := by
        unfold Table.addColumn
        rw [if_neg (ht column List.mem_cons_self he), if_neg fun h => hd column List.mem_cons_self h.1 h.2]
      rw [if_neg he, hadd, hm]
      refine (ih hn.2 hd' ?_).trans ?_
      · intro c hc hce
        simp only [Table.names, List.map_append, List.map_cons, List.map_nil, List.mem_append, List.mem_singleton, not_or]
        refine ⟨ht c (List.mem_cons_of_mem _ hc) hce, ?_⟩
        intro h
        exact hn.1 (h ▸ List.mem_map_of_mem hc)
      · simp only [List.append_assoc, List.singleton_append, List.map_map]
        rfl

end Sqlite
