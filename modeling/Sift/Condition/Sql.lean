import Sift.Condition
import Sift.Sql.Token

/-!
# Conditions as statement text

A condition is spelled as the tokens of a WHERE clause; its constants are bound on the way, from
left to right, so that they stand in the order of their placeholders. A guard is written without
parentheses of its own: a clause stands either alone or as an operand of `AND` and `OR`, and
operands are always in parentheses.
-/
namespace Sift

/-- Bind a value and give its placeholder. -/
def bindParam (stem : String) (v : Value) : StateM Params SqlToken :=
  fun ps => let (slot, ps) := ps.bind stem v; (.param slot, ps)

/-- Bind values in order and give their placeholders. -/
def bindParams (stem : String) : List Value → StateM Params (List SqlToken)
  | [] => pure []
  | v :: rest => do
    let t ← bindParam stem v
    let ts ← bindParams stem rest
    pure (t :: ts)

/-- The operator in statement text. -/
def Comparator.sqlMark : Comparator → String
  | eq => "="
  | ne => "<>"
  | gt => ">"
  | ge => ">="
  | lt => "<"
  | le => "<="

/-- The joint of two conditions in statement text. -/
def Connective.sqlWord : Connective → String
  | and => "AND"
  | or => "OR"

/-- The pattern that makes a test out of a literal pattern. -/
def TextTest.wildcards (escaped : String) : TextTest → String
  | contains => "%" ++ escaped ++ "%"
  | startsWith => escaped ++ "%"
  | endsWith => "%" ++ escaped

namespace Clause

/-- The test for null. -/
def nullTokens (f : Field) (negated : Bool) : List SqlToken :=
  .ident f.column :: .blank ::
    SqlToken.words (if negated then ["IS", "NOT", "NULL"] else ["IS", "NULL"])

/-- Put the test that a guard asks for in front of a core. -/
def guardTokens (f : Field) (guard : NullGuard) (core : List SqlToken) : List SqlToken :=
  match guard with
  | .none => core
  | .orNull => nullTokens f false ++ .blank :: .word "OR" :: .blank :: core
  | .andNotNull => nullTokens f true ++ .blank :: .word "AND" :: .blank :: core

/-- A word, and `NOT` before it if it is negated. -/
def negatable (negated : Bool) (w : String) : List SqlToken :=
  SqlToken.words (if negated then ["NOT", w] else [w])

/-- The tokens of a clause. -/
def sql (d : SqlDialect) (stem : String) : Clause → StateM Params (List SqlToken)
  | always truth => pure (SqlToken.always truth)
  | nullTest f negated => pure (nullTokens f negated)
  | compare f op v guard => do
    let t ← bindParam stem v
    pure (guardTokens f guard [.ident f.column, .blank, .mark op.sqlMark, .blank, t])
  | oneOf f values negated guard => do
    let ts ← bindParams stem values
    pure (guardTokens f guard (.ident f.column :: .blank :: negatable negated "IN" ++
      .blank :: SqlToken.parens (SqlToken.commaList (ts.map fun t => [t]))))
  | like f pattern test negated guard => do
    let t ← bindParam stem (.text (test.wildcards (d.escapeLike pattern)))
    pure (guardTokens f guard (.ident f.column :: .blank :: negatable negated "LIKE" ++
      .blank :: t :: d.escapeClause))

end Clause

namespace Condition

/-- The tokens of a condition. -/
def sql (d : SqlDialect) (stem : String) : Condition → StateM Params (List SqlToken)
  | clause c => c.sql d stem
  | logical op left right => do
    let l ← left.sql d stem
    let r ← right.sql d stem
    pure (SqlToken.parens l ++ .blank :: .word op.sqlWord :: .blank :: SqlToken.parens r)

end Condition

namespace SqlDialect

/-- Lower a predicate and spell it as a WHERE clause, binding its constants after the parameters
that are there already. A predicate without a meaning binds nothing. -/
def whereTokens (d : SqlDialect) (t : Table) (stem : String) (p : Predicate) (ps : Params) :
    Except Error (List SqlToken × Params) :=
  (Condition.ofPredicate t p).map fun c => (c.sql d stem).run ps

/-- Spell a predicate as the text of a WHERE clause behind the parameters of a statement that is
being put together. The parameters are there after an error too: it is told of the whole predicate
before its first constant is bound. -/
def compileInto (d : SqlDialect) (t : Table) (stem : String) (p : Predicate) :
    ExceptT Error (StateM Params) String := do
  let c ← liftExcept (Condition.ofPredicate t p)
  let ts ← c.sql d stem
  pure (d.spell ts)

end SqlDialect

/-- Names of filter parameters begin with this. -/
def filterStem : String := "Parameter"

/-- Names of assignment parameters begin with this. -/
def assignmentStem : String := "U_Parameter"

/-- A predicate that can be lowered is spelled as its condition. -/
theorem SqlDialect.whereTokens_of_ofPredicate (d : SqlDialect) {t : Table} {p : Predicate}
    {c : Condition} (h : Condition.ofPredicate t p = .ok c) (stem : String) (ps : Params) :
    d.whereTokens t stem p ps = .ok ((c.sql d stem).run ps) := by
  rw [whereTokens, h]
  rfl

/-- Spelling a predicate in place is spelling it, with the parameters kept after an error. -/
theorem SqlDialect.run_compileInto_eq (d : SqlDialect) (t : Table) (stem : String) (p : Predicate)
    (ps : Params) :
    (d.compileInto t stem p).run.run ps =
      match d.whereTokens t stem p ps with
      | .error err => (.error err, ps)
      | .ok (ts, after) => (.ok (d.spell ts), after) := by
  rw [compileInto, whereTokens]
  cases Condition.ofPredicate t p with
  | error err => rfl
  | ok c => rfl

@[simp] theorem run_bindParam (stem : String) (v : Value) (ps : Params) :
    (bindParam stem v).run ps = (.param (ps.bind stem v).1, (ps.bind stem v).2) := rfl

@[simp] theorem bindParams_nil (stem : String) : bindParams stem [] = pure [] := rfl

end Sift
