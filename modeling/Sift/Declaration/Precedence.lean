import Sift.Declaration.Token

/-!
# Precedence

How tightly operators bind, and the operators that stand between two operands. The order goes from
jumps, which take all that follows, to expressions that need no brackets anywhere.
-/
namespace Sift.Declaration

/-- How tightly an expression holds together, from the loosest on. -/
inductive Precedence where
  | jump
  | assignment
  | range
  | or
  | and
  | binding
  | comparison
  | bitOr
  | bitXor
  | bitAnd
  | shift
  | sum
  | product
  | conversion
  | unary
  | closed
deriving DecidableEq

namespace Precedence

/-- The place in the order. -/
def rank : Precedence → Nat
  | jump => 0
  | assignment => 1
  | range => 2
  | or => 3
  | and => 4
  | binding => 5
  | comparison => 6
  | bitOr => 7
  | bitXor => 8
  | bitAnd => 9
  | shift => 10
  | sum => 11
  | product => 12
  | conversion => 13
  | unary => 14
  | closed => 15

instance : LE Precedence := ⟨fun p q => p.rank ≤ q.rank⟩

instance : LT Precedence := ⟨fun p q => p.rank < q.rank⟩

instance (p q : Precedence) : Decidable (p ≤ q) := inferInstanceAs (Decidable (p.rank ≤ q.rank))

instance (p q : Precedence) : Decidable (p < q) := inferInstanceAs (Decidable (p.rank < q.rank))

end Precedence

/-- An operator between two operands. -/
structure Operator where
  text : String
  precedence : Precedence
deriving DecidableEq

namespace Operator

/-- The operators, in the order in which they are looked for. -/
def table : List Operator := [
  ⟨"+=", .assignment⟩, ⟨"-=", .assignment⟩, ⟨"*=", .assignment⟩, ⟨"/=", .assignment⟩,
  ⟨"%=", .assignment⟩, ⟨"^=", .assignment⟩, ⟨"&=", .assignment⟩, ⟨"|=", .assignment⟩,
  ⟨"<<=", .assignment⟩, ⟨">>=", .assignment⟩, ⟨"&&", .and⟩, ⟨"||", .or⟩, ⟨"<<", .shift⟩,
  ⟨">>", .shift⟩, ⟨"==", .comparison⟩, ⟨"<=", .comparison⟩, ⟨"!=", .comparison⟩,
  ⟨">=", .comparison⟩, ⟨"+", .sum⟩, ⟨"-", .sum⟩, ⟨"*", .product⟩, ⟨"/", .product⟩,
  ⟨"%", .product⟩, ⟨"^", .bitXor⟩, ⟨"&", .bitAnd⟩, ⟨"|", .bitOr⟩, ⟨"<", .comparison⟩,
  ⟨">", .comparison⟩]

/-- Plain assignment. Its sign begins longer ones that are none, so that it is looked for by
itself. -/
def assign : Operator := ⟨"=", .assignment⟩

/-- An expression can begin with the operator's sign as well. -/
def mayBegin (o : Operator) : Bool := o.text ∈ ["-", "*", "&&", "||", "&", "|", "<<", "<"]

/-- A list of arguments can begin with the operator's sign as well. -/
def mayParameterize (o : Operator) : Bool := o.text ∈ ["<<", "<"]

end Operator

end Sift.Declaration
