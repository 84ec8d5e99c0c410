import Mathlib.Data.List.Basic
import Mathlib.Tactic.Common

/-!
# String literals of OData

A literal stands between apostrophes, and an apostrophe in it is written twice. A reader of a filter that searches for
beginnings finds the values it was written with (`readFilter_filter`), whatever characters the values have: no value
ends its literal.
-/

namespace OData

/-- A value as it stands in a literal. -/
def escape (cs : List Char) : List Char := cs.flatMap fun c => if c = '\'' then ['\'', '\''] else [c]

/-- The literal of a value. -/
def literal (cs : List Char) : List Char := '\'' :: (escape cs ++ ['\''])

/-- What follows the beginning of a text, when the text begins so. -/
def skip : List Char → List Char → Option (List Char)
  | [], cs => some cs
  | x :: xs, c :: cs => if x = c then skip xs cs else none
  | _ :: _, [] => none

/-- The value of a literal whose first apostrophe has been read, and what follows the literal. -/
def readValue : List Char → Option (List Char × List Char)
  | '\'' :: '\'' :: cs => (readValue cs).map fun r => ('\'' :: r.1, r.2)
  | '\'' :: cs => some ([], cs)
  | c :: cs => (readValue cs).map fun r => (c :: r.1, r.2)
  | [] => none

/-- A search for the values of a field that begin with a text. -/
structure StartsWith where
  field : List Char
  value : List Char
  deriving DecidableEq, Repr

/-- What a clause begins with. -/
def opening : List Char := "startswith(".toList

/-- What stands between two clauses. -/
def between : List Char := " or ".toList

/-- `startswith(field,'value')`. -/
def StartsWith.write (clause : StartsWith) : List Char :=
  opening ++ (clause.field ++ ',' :: (literal clause.value ++ [')']))

/-- A filter that one of the clauses has to meet. -/
def filter (clauses : List StartsWith) : List Char := between.intercalate (clauses.map StartsWith.write)

/-- The first clause of a filter, and what follows it. -/
def readClause (cs : List Char) : Option (StartsWith × List Char) := do
  let cs ← skip opening cs
  let field := cs.takeWhile (· ≠ ',')
  let cs ← skip [',', '\''] (cs.dropWhile (· ≠ ','))
  let (value, rest) ← readValue cs
  let rest ← skip [')'] rest
  return (⟨field, value⟩, rest)

/-- The clauses of a filter with as many of them at most. -/
def readClauses : Nat → List Char → Option (List StartsWith)
  | 0, _ => none
  | left + 1, cs => do
    let (clause, rest) ← readClause cs
    if rest = [] then return [clause]
    let rest ← skip between rest
    let clauses ← readClauses left rest
    return clause :: clauses

/-- The clauses of a filter. -/
def readFilter (cs : List Char) : Option (List StartsWith) := readClauses cs.length cs

/-! ## What is read of what was written -/

theorem skip_append (xs cs : List Char) : skip xs (xs ++ cs) = some cs := by
  induction xs with
  | nil => rfl
  | cons x xs ih => simp [skip, ih]

/-- A value that was escaped is read as itself, up to the apostrophe that ends the literal. -/
theorem readValue_escape (cs : List Char) {rest : List Char} (h : rest.head? ≠ some '\'') :
    readValue (escape cs ++ '\'' :: rest) = some (cs, rest) := by
  induction cs with
  | nil =>
    show readValue ('\'' :: rest) = _
    rw [readValue.eq_2]
    rintro cs rfl
    exact h rfl
  | cons c cs ih =>
    have hcons : escape (c :: cs) = (if c = '\'' then ['\'', '\''] else [c]) ++ escape cs := rfl
    rw [hcons]
    split
    · next hc =>
      subst hc
      show readValue ('\'' :: '\'' :: (escape cs ++ '\'' :: rest)) = _
      rw [readValue.eq_1, ih]
      rfl
    · next hc =>
      show readValue (c :: (escape cs ++ '\'' :: rest)) = _
      rw [readValue.eq_3 _ _ (fun _ heq => (hc heq).elim) (fun heq => (hc heq).elim), ih]
      rfl

theorem readClause_write {clause : StartsWith} (h : ',' ∉ clause.field) (rest : List Char) :
    readClause (clause.write ++ rest) = some (clause, rest) := by
  have hne : ∀ c ∈ clause.field, decide (c ≠ ',') = true := fun c hc => decide_eq_true fun heq => h (heq ▸ hc)
  have hwrite : clause.write ++ rest =
      opening ++ (clause.field ++ ',' :: ('\'' :: (escape clause.value ++ '\'' :: (')' :: rest)))) := by
    simp only [StartsWith.write, literal, List.append_assoc, List.cons_append, List.nil_append]
  have htake : (clause.field ++ ',' :: ('\'' :: (escape clause.value ++ '\'' :: (')' :: rest)))).takeWhile (· ≠ ',') =
      clause.field := by
    rw [List.takeWhile_append_of_pos hne, List.takeWhile_cons_of_neg (by simp), List.append_nil]
  have hdrop : (clause.field ++ ',' :: ('\'' :: (escape clause.value ++ '\'' :: (')' :: rest)))).dropWhile (· ≠ ',') =
      [',', '\''] ++ (escape clause.value ++ '\'' :: (')' :: rest)) := by
    rw [List.dropWhile_append_of_pos hne, List.dropWhile_cons_of_neg (by simp)]
    rfl
  have hvalue : readValue (escape clause.value ++ '\'' :: (')' :: rest)) = some (clause.value, ')' :: rest) :=
    readValue_escape clause.value (by simp)
  have hclose : skip [')'] (')' :: rest) = some rest := skip_append [')'] rest
  rw [readClause, hwrite, skip_append]
  simp only [Option.bind_eq_bind, Option.bind_some, htake, hdrop, skip_append, hvalue, hclose]
  rfl

/-- The clauses of a filter are read as they were. -/
theorem readClauses_filter {clauses : List StartsWith} (hne : clauses ≠ [])
    (h : ∀ clause ∈ clauses, ',' ∉ clause.field) {left : Nat} (hleft : clauses.length ≤ left) :
    readClauses left (filter clauses) = some clauses := by
  induction clauses generalizing left with
  | nil => exact (hne rfl).elim
  | cons clause clauses ih =>
    obtain ⟨left, rfl⟩ : ∃ k, left = k + 1 := ⟨left - 1, by simp only [List.length_cons] at hleft; omega⟩
    have hclause := h clause List.mem_cons_self
    cases clauses with
    | nil =>
      have hfilter : filter [clause] = clause.write ++ [] :=
        by rw [filter, List.map_singleton, List.intercalate_singleton, List.append_nil]
      rw [readClauses, hfilter, readClause_write hclause]
      rfl
    | cons next clauses =>
      have hfilter : filter (clause :: next :: clauses) = clause.write ++ (between ++ filter (next :: clauses)) := by
        rw [filter, List.map_cons, List.intercalate_cons_of_ne_nil (by simp), List.append_assoc]
        rfl
      have hrest : readClauses left (filter (next :: clauses)) = some (next :: clauses) :=
        ih (by simp) (fun c hc => h c (List.mem_cons_of_mem _ hc)) (Nat.le_of_succ_le_succ hleft)
      rw [readClauses, hfilter, readClause_write hclause]
      simp only [Option.bind_eq_bind, Option.bind_some, skip_append, hrest]
      exact if_neg (by simp [between])

/-- A filter has at least as many characters as clauses. -/
theorem length_le_filter (clauses : List StartsWith) : clauses.length ≤ (filter clauses).length := by
  have hwrite : ∀ clause : StartsWith, 1 ≤ clause.write.length := fun clause => by
    simp only [StartsWith.write, List.length_append, List.length_cons]
    omega
  induction clauses with
  | nil => exact Nat.zero_le _
  | cons clause clauses ih =>
    cases clauses with
    | nil => simpa [filter] using hwrite clause
    | cons next clauses =>
      rw [filter, List.map_cons, List.intercalate_cons_of_ne_nil (by simp), List.length_append,
        List.length_append, ← filter]
      have hclause := hwrite clause
      rw [List.length_cons]
      omega

/-- The clauses of a filter are read as they were. -/
theorem readFilter_filter {clauses : List StartsWith} (hne : clauses ≠ []) (h : ∀ clause ∈ clauses, ',' ∉ clause.field) :
    readFilter (filter clauses) = some clauses :=
  readClauses_filter hne h (length_le_filter clauses)

end OData
