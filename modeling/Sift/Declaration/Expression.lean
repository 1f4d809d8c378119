import Sift.Declaration.Precedence

/-!
# Expressions

An expression as a tree, as far as it matters for where its parts need brackets when it is written
again. Types, patterns, blocks and lists inside it are tokens already. Attributes stand in front of
the part that they belong to; those inside of curly brackets belong to the tokens there.
-/
namespace Sift.Declaration

/-- What an expression without operands is. -/
inductive Atom where
  /-- A string literal. -/
  | text (value : String)
  | path
  /-- A struct literal. -/
  | struct
  /-- Statements in curly brackets; `isPlain` if nothing else is in front or at their beginning. -/
  | block (isLabelled isPlain : Bool)
  /-- Another expression that ends with its block, such as a loop. -/
  | control (isLabelled : Bool)
  /-- A call of a macro, with the kind of its brackets. -/
  | call (b : Bracket)
  | other
deriving DecidableEq

/-- An expression that leaves a block. -/
inductive Jump where
  | leave (isLabelled : Bool)
  /-- A jump out of the whole function. -/
  | result
deriving DecidableEq

/-- An expression. -/
inductive Expression where
  /-- No expression where one may be missing. -/
  | absent
  /-- Tokens that stay as they stand; no attributes are put in front of them. -/
  | verbatim (tokens : List Token)
  | atom (form : Atom) (attributes tokens : List Token)
  /-- An operand with a sign in front. -/
  | signed (attributes sign : List Token) (operand : Expression)
  | jump (attributes : List Token) (form : Jump) (head : List Token) (value : Expression)
  /-- A closure; its body is in curly brackets if its result has a type. -/
  | closure (attributes : List Token) (hasResult : Bool) (head : List Token) (body : Expression)
  /-- A pattern in a condition, with what it is matched against. -/
  | binding (attributes head : List Token) (value : Expression)
  | binary (left : Expression) (operator : Operator) (right : Expression)
  | range (attributes : List Token) (lower : Expression) (points : List Token) (upper : Expression)
  /-- A conversion to a type. It is open if the type ends with a path without arguments, behind
  which an angle bracket would begin some. -/
  | conversion (operand : Expression) (tail : List Token) (isOpen : Bool)
  /-- A call, an index, a member or a question mark behind an expression; the last two are
  dotted. -/
  | trailed (attributes : List Token) (base : Expression) (isDotted : Bool) (tail : List Token)

namespace Expression

/-- Nothing stands where an expression may be missing. -/
def isAbsent : Expression → Bool
  | absent => true
  | _ => false

/-- A range. -/
def isRange : Expression → Bool
  | range .. => true
  | _ => false

/-- A comparison. -/
def isComparison : Expression → Bool
  | binary _ o _ => o.precedence = .comparison
  | _ => false

/-- An expression that ends with its block. It needs no comma behind it in a match. -/
def isBlockLike : Expression → Bool
  | atom (.block ..) .. => true
  | atom (.control _) .. => true
  | _ => false

/-- An expression that is a statement without a semicolon behind it. -/
def isStatement : Expression → Bool
  | atom (.call .curly) .. => true
  | e => e.isBlockLike

/-- Put attributes in front of an expression. They belong to its leftmost operand, and tokens that
stay as they stand have none. -/
def attributed (attributes : List Token) : Expression → Expression
  | absent => absent
  | verbatim ts => verbatim ts
  | atom form own ts => atom form (attributes ++ own) ts
  | signed own sign e => signed (attributes ++ own) sign e
  | jump own form head e => jump (attributes ++ own) form head e
  | closure own hasResult head e => closure (attributes ++ own) hasResult head e
  | binding own head e => binding (attributes ++ own) head e
  | binary left o right => binary (left.attributed attributes) o right
  | range own lower points upper => range (attributes ++ own) lower points upper
  | conversion e tail isOpen => conversion (e.attributed attributes) tail isOpen
  | trailed own e isDotted tail => trailed (attributes ++ own) e isDotted tail

@[simp] theorem attributed_nil (e : Expression) : e.attributed [] = e := by
  induction e <;> simp_all [attributed]

/-- An expression begins with the label of a loop or block. -/
def beginsWithLabel : Expression → Bool
  | atom (.block isLabelled _) .. => isLabelled
  | atom (.control isLabelled) .. => isLabelled
  | binary left _ _ => left.beginsWithLabel
  | range _ lower _ _ => lower.beginsWithLabel
  | conversion e _ _ => e.beginsWithLabel
  | trailed _ e _ _ => e.beginsWithLabel
  | _ => false

/-- How tightly an expression without operands holds together, with these attributes in front. -/
def closedPrecedence (attributes : List Token) : Precedence :=
  if attributes.isEmpty then .closed else .unary

/-- How tightly an expression holds together wherever it stands. -/
def precedence : Expression → Precedence
  | absent | verbatim _ => .closed
  | atom _ attributes _ => closedPrecedence attributes
  | signed .. => .unary
  | jump _ _ _ value => if value.isAbsent then .closed else .jump
  | closure attributes hasResult _ _ => if hasResult then closedPrecedence attributes else .jump
  | binding .. => .binding
  | binary _ o _ => o.precedence
  | range .. => .range
  | conversion .. => .conversion
  | trailed attributes .. => closedPrecedence attributes

end Expression

end Sift.Declaration
