import Sift.Proofs.Sql.Expression

/-!
# Statements read back from their lexemes

`SqlCommand` is what a store takes a statement for. `SqlCommand.read` is the reader; it knows the
five kinds of statement by their words and hands conditions over to `SqlExpr.read`. Behind the
filter of a query it keeps what is left, the order and the paging, as it is.
-/
namespace Sift

/-- A statement, understood. -/
inductive SqlCommand where
  | select (columns : List String) (table : String) (filter : Option SqlExpr)
      (tail : List (Lexeme Value))
  | count (table : String) (filter : Option SqlExpr)
  | update (table : String) (assigned : List (String × Value)) (filter : Option SqlExpr)
  | delete (table : String) (filter : Option SqlExpr)
  | insert (table : String) (columns : List String) (values : List Value)

/-- The name in an identifier. -/
def Lexeme.ident? : Lexeme Value → Option String
  | ident name => some name
  | _ => none

/-- What was read, if nothing is left. -/
def Lexeme.whole {α : Type} : α × List (Lexeme Value) → Option α
  | (a, []) => some a
  | _ => none

namespace SqlCommand

/-- Columns with commas between them. -/
def readColumns : LexemeReader (List String)
  | .ident c :: .mark "," :: rest => do
    let (cs, rest) ← readColumns rest
    some (c :: cs, rest)
  | .ident c :: rest => some ([c], rest)
  | _ => none

/-- Assignments with commas between them. -/
def readAssigned : LexemeReader (List (String × Value))
  | .ident c :: .mark "=" :: .param v :: .mark "," :: rest => do
    let (assigned, rest) ← readAssigned rest
    some ((c, v) :: assigned, rest)
  | .ident c :: .mark "=" :: .param v :: rest => some ([(c, v)], rest)
  | _ => none

/-- A filter, if there is one. -/
def readFilter : LexemeReader (Option SqlExpr)
  | .word "WHERE" :: rest => do
    let (e, rest) ← SqlExpr.read rest
    some (some e, rest)
  | rest => some (none, rest)

/-- The table that is read from. -/
def readFrom : LexemeReader String
  | .word "FROM" :: .ident table :: rest => some (table, rest)
  | _ => none

/-- A query behind its first word. -/
def readSelect (ls : List (Lexeme Value)) : Option SqlCommand := do
  let (columns, rest) ← readColumns ls
  let (table, rest) ← readFrom rest
  let (filter, tail) ← readFilter rest
  some (.select columns table filter tail)

/-- A count behind what is counted. -/
def readCount (ls : List (Lexeme Value)) : Option SqlCommand := do
  let (table, rest) ← readFrom ls
  let filter ← readFilter rest >>= Lexeme.whole
  some (.count table filter)

/-- An update behind its second word. -/
def readUpdate (table : String) (ls : List (Lexeme Value)) : Option SqlCommand := do
  let (assigned, rest) ← readAssigned ls
  let filter ← readFilter rest >>= Lexeme.whole
  some (.update table assigned filter)

/-- A deletion behind its first word. -/
def readDelete (ls : List (Lexeme Value)) : Option SqlCommand := do
  let (table, rest) ← readFrom ls
  let filter ← readFilter rest >>= Lexeme.whole
  some (.delete table filter)

/-- The values of an insertion. -/
def readValues : LexemeReader (List Value)
  | .word "VALUES" :: .mark "(" :: rest => Lexeme.readList Lexeme.value? rest
  | _ => none

/-- An insertion behind its first parenthesis. -/
def readInsert (table : String) (ls : List (Lexeme Value)) : Option SqlCommand := do
  let (columns, rest) ← Lexeme.readList Lexeme.ident? ls
  let values ← readValues rest >>= Lexeme.whole
  some (.insert table columns values)

/-- A whole statement. -/
def read : List (Lexeme Value) → Option SqlCommand
  | .word "SELECT" :: .word "COUNT" :: .mark "(" :: .number 1 :: .mark ")" :: rest => readCount rest
  | .word "SELECT" :: rest => readSelect rest
  | .word "UPDATE" :: .ident table :: .word "SET" :: rest => readUpdate table rest
  | .word "DELETE" :: rest => readDelete rest
  | .word "INSERT" :: .word "INTO" :: .ident table :: .mark "(" :: rest => readInsert table rest
  | _ => none

end SqlCommand

/-! ## Reading the parts of statements -/

section Parts

open SqlCommand

variable {d : SqlDialect} {g : Params.Slot → Value} {rest : List (Lexeme Value)}

/-- What is left does not go on with a comma. -/
def Lexeme.endsList : List (Lexeme Value) → Bool
  | .mark m :: _ => m != ","
  | _ => true

theorem readColumns_of_endsList {c : String} (h : Lexeme.endsList rest = true) :
    readColumns (.ident c :: rest) = some ([c], rest) := by
  unfold readColumns
  split
  · rename_i heq
    obtain ⟨-, rfl⟩ := List.cons.inj heq
    cases h
  · rename_i heq
    obtain ⟨hc, rfl⟩ := List.cons.inj heq
    cases hc
    rfl
  · rename_i hnone
    exact absurd rfl (hnone c rest)

theorem readColumns_columnList {fields : List Field} (hne : fields ≠ [])
    (hrest : Lexeme.endsList rest = true) :
    readColumns (SqlToken.lexemes g (SqlDialect.columnList fields) ++ rest) =
      some (fields.map Field.column, rest) := by
  induction fields with
  | nil => exact absurd rfl hne
  | cons f fields ih =>
    cases fields with
    | nil => exact readColumns_of_endsList hrest
    | cons next fields =>
      have hread := ih (List.cons_ne_nil next fields)
      change readColumns (.ident f.column :: .mark "," ::
        (SqlToken.lexemes g (SqlDialect.columnList (next :: fields)) ++ rest)) = _
      rw [readColumns, hread]
      rfl

theorem readAssigned_of_endsList {c : String} {v : Value} (h : Lexeme.endsList rest = true) :
    readAssigned (.ident c :: .mark "=" :: .param v :: rest) = some ([(c, v)], rest) := by
  unfold readAssigned
  split
  · rename_i heq
    simp only [List.cons.injEq] at heq
    obtain ⟨-, -, -, rfl⟩ := heq
    cases h
  · rename_i heq
    simp only [List.cons.injEq, Lexeme.ident.injEq, Lexeme.param.injEq, true_and] at heq
    obtain ⟨rfl, rfl, rfl⟩ := heq
    rfl
  · rename_i hnone
    exact absurd rfl (hnone c v rest)

/-- One assignment, to the placeholder of its value. -/
def SqlToken.assignment (column : String) (slot : Params.Slot) : List SqlToken :=
  [.ident column, .blank, .mark "=", .blank, .param slot]

theorem readAssigned_commaList {columns : List (String × Params.Slot)} (hne : columns ≠ [])
    (hrest : Lexeme.endsList rest = true) :
    readAssigned (SqlToken.lexemes g
        (SqlToken.commaList (columns.map fun (c, slot) => SqlToken.assignment c slot)) ++ rest) =
      some (columns.map fun (c, slot) => (c, g slot), rest) := by
  induction columns with
  | nil => exact absurd rfl hne
  | cons column columns ih =>
    obtain ⟨c, slot⟩ := column
    cases columns with
    | nil => exact readAssigned_of_endsList hrest
    | cons next columns =>
      have hread := ih (List.cons_ne_nil next columns)
      change readAssigned (.ident c :: .mark "=" :: .param (g slot) :: .mark "," ::
        (SqlToken.lexemes g (SqlToken.commaList ((next :: columns).map
          fun (c, slot) => SqlToken.assignment c slot)) ++ rest)) = _
      rw [readAssigned, hread]
      rfl

/-- The words that go on with a filter. -/
def filterWords : List String := ["WHERE", "ESCAPE", "AND", "OR"]

theorem readFilter_of_clear (h : SqlExpr.clear filterWords rest = true) :
    readFilter rest = some (none, rest) := by
  unfold readFilter
  split
  · simp [SqlExpr.clear, filterWords] at h
  · rfl

theorem readFilter_where {ls : List (Lexeme Value)} {e : SqlExpr}
    (h : SqlExpr.read ls = some (e, rest)) :
    readFilter (.word "WHERE" :: ls) = some (some e, rest) := by
  rw [readFilter, h]
  rfl

end Parts

end Sift
