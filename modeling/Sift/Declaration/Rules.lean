import Sift.Declaration.Expression.Surroundings
import Sift.Declaration.Reader

/-!
# Rules of the grammar

Types, bounds, expressions, patterns, blocks and items contain each other. Each of their readers is
written over `Rules`, which holds the readers of what may stand inside; `Grammar` ties them
together. A reader answers with the form of what it has read, as far as what follows depends on it.

Expressions are read as trees, of which nothing counts as taken before they are written. All other
readers count what is to be written as taken.
-/
namespace Sift.Declaration

/-- A kind of type. -/
inductive TypeKind where
  /-- A path that begins with no type in brackets; `isName` if it has one segment only, and no
  separator in front. -/
  | path (isName : Bool)
  /-- Bounds without a word in front; `isSingle` if there is one, with no plus sign behind it. -/
  | bounds (isSingle : Bool)
  /-- One bound in round brackets, without a word in front. -/
  | enclosedBound
  | other
deriving DecidableEq

/-- What has been read as a type. It is open if it ends with a path without arguments. -/
structure TypeForm where
  kind : TypeKind
  isOpen : Bool
deriving DecidableEq

namespace TypeForm

/-- A type that ends with no path. -/
def closed : TypeForm := ⟨.other, false⟩

end TypeForm

/-- What has been read as a bound. -/
inductive BoundForm where
  | lifetime
  /-- A trait; it is open if it ends with a path without arguments. -/
  | trait (isOpen : Bool)
  /-- The captured parameters of an opaque type. -/
  | captures
  /-- A trait that must be constant. -/
  | constant
deriving DecidableEq

namespace BoundForm

/-- The bound is a trait. -/
def isTrait : BoundForm → Bool
  | trait _ | constant => true
  | lifetime | captures => false

/-- The bound ends with a path without arguments. -/
def isOpen : BoundForm → Bool
  | trait isOpen => isOpen
  | lifetime | captures | constant => false

end BoundForm

/-- What has been read as a pattern. -/
inductive PatternForm where
  /-- Two points alone. -/
  | rest
  /-- A range; `isOpen` if it lacks one of its bounds. -/
  | range (isOpen : Bool)
  /-- A constant block that begins with so many tokens of attributes. -/
  | constant (attributes : Nat)
  /-- A pattern that stays as it stands. -/
  | verbatim
  | other
deriving DecidableEq

/-- The readers of what may stand inside. -/
structure Rules where
  /-- A type, with several bounds joined by plus signs or only one. -/
  type (joined : Bool) : Reader TypeForm
  /-- A bound; captured parameters and constant traits may be allowed or not. -/
  bound (captures constants : Bool) : Reader BoundForm
  /-- An expression, with struct literals outside brackets or without. -/
  expression (structs : Bool) : Reader Expression
  /-- An expression without operators between operands. -/
  operand (structs : Bool) : Reader Expression
  /-- The operators that bind at least so tightly behind an operand, with their own operands. -/
  operators (structs : Bool) (least : Precedence) (left : Expression) : Reader Expression
  /-- An expression at the front of a statement or behind the arrow of a match. -/
  leading : Reader Expression
  pattern : Reader PatternForm
  /-- Statements in curly brackets, with attributes of their own in front or without. The answer is
  how many tokens these have. -/
  block (attributed : Bool) : Reader Nat
  item : Reader Unit

namespace Rules

/-- No reading at all. -/
def spent : Rules where
  type _ := throw .tooDeep
  bound _ _ := throw .tooDeep
  expression _ := throw .tooDeep
  operand _ := throw .tooDeep
  operators _ _ _ := throw .tooDeep
  leading := throw .tooDeep
  pattern := throw .tooDeep
  block _ := throw .tooDeep
  item := throw .tooDeep

variable (r : Rules)

/-- Read an expression that stands alone, and write it. -/
def value : Reader Unit := do
  let e ← r.expression true
  Reader.emit (e.write .alone)

/-- Read an expression in front of a block, and write it. -/
def condition : Reader Unit := do
  let e ← r.expression false
  Reader.emit (e.write .condition)

end Rules

end Sift.Declaration
