import Sift.Declaration.Statement

/-!
# The grammar

The readers of types, bounds, expressions, patterns, blocks and items, tied together. They nest no
deeper than there are tokens, each reader a few times at a token, so that a number of levels that
grows with the number of tokens is enough for all of them.
-/
namespace Sift.Declaration.Grammar

/-- The rules, to so many levels of nesting. -/
def rules : Nat → Rules
  | 0 => .spent
  | n + 1 =>
    let r := rules n
    { type := Type.read r
      bound := Bound.read r
      expression := Expression.read r
      operand := Expression.readOperand r
      operators := fun structs least left => do
        Expression.operators r structs least ((← Reader.ahead).length + 1) left
      leading := Expression.leading r
      pattern := Pattern.read r
      block := Statement.block r
      item := Item.readAttributed r }

/-- Read all of the tokens by the grammar. -/
def run {α : Type} (read : Rules → Reader α) (ts : List Token) : Except Misreading α :=
  (read (rules (8 * Token.sizeOf ts + 16))).run ts

end Sift.Declaration.Grammar
