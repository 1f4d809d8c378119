import Sift.Declaration.Pattern

/-!
# Operations

Operators between operands, which bind more or less tightly. Comparisons do not chain, and nothing
but a plain operator may follow a conversion or a range.
-/
namespace Sift.Declaration.Expression

open Reader

variable (r : Rules)

/-- The operator that stands here. -/
def operator? : Reader (Option Operator) := do
  let ts ← ahead
  return Operator.table.find? fun o => (Sign.marks o.text).begins ts

/-- How tightly what stands here binds to what is in front of it. -/
def nextPrecedence : Reader Precedence := do
  match ← operator? with
  | some o => return o.precedence
  | none =>
    if ← seesOnly "=" ["=>"] then return .assignment
    else if ← sees (.marks "..") then return .range
    else if ← sees (.word "as") then return .conversion
    else return .jump

/-- Read the operators behind a right operand that bind tighter than the one in front of it. -/
def tighter (structs : Bool) (p : Precedence) : Nat → Expression → Reader Expression
  | 0, e => return e
  | n + 1, e => do
    let next ← nextPrecedence
    if p < next || next = p && p = .assignment then
      let before := (← ahead).length
      let e ← r.operators structs next e
      if (← ahead).length < before then tighter structs p n e else return e
    else return e

/-- Read the operand behind an operator, with the operators that bind tighter. -/
def rightOperand (structs : Bool) (p : Precedence) : Reader Expression := do
  let e ← r.operand structs
  tighter r structs p ((← ahead).length + 1) e

/-- Nothing that binds tighter may stand behind a conversion. -/
def checkConversion : Reader Unit := do
  if ← seesOnly "." [".."] then
    if ← seesSecond (.word "await") then throw (.behindConversion "`.await`")
    else if (← seesSecond .name) &&
        ((← seesThird (.group .round)) || (← seesThird (.marks "::"))) then
      throw (.behindConversion "a method call")
    else throw (.behindConversion "a field access")
  else if ← sees (.marks "?") then throw (.behindConversion "`?`")
  else if ← sees (.group .square) then throw (.behindConversion "indexing")
  else if ← sees (.group .round) then throw (.behindConversion "a function call")

/-- The signs behind which a range has no upper bound. -/
def rangeEnds : List Sign :=
  [",", ";", "?", "=>", "=", "+", "/", "%", "^", ">", "<=", "!=", "-=", "*=", "&=", "|=",
    "<<="].map Sign.marks ++ [.word "as"]

/-- Read a range from its points on, its lower bound having been read. -/
def rangeFrom (structs : Bool) (lower : Expression) : Reader Expression := do
  let (isClosed, points) ← captured (Pattern.points false)
  let hasEnded := !isClosed && ((← atEnd) || (← seesAny rangeEnds) || (← seesOnly "." [".."]) ||
    !structs && (← sees (.group .curly)))
  let upper ← if hasEnded then pure absent else rightOperand r structs .range
  return .range [] lower points upper

/-- Read the type of a conversion behind its operand. -/
def conversionOf (operand : Expression) : Reader Expression := do
  let (form, tail) ← captured do
    take (.word "as")
    r.type false
  checkConversion
  return .conversion operand tail form.isOpen

/-- Read the operators that bind at least so tightly behind an operand, with their operands. -/
def operators (structs : Bool) (least : Precedence) : Nat → Expression → Reader Expression
  | 0, left => return left
  | n + 1, left => do
    if left.isRange then return left
    match ← operator? with
    | some o =>
      if o.precedence < least then return left
      if o.precedence = .comparison && left.isComparison then throw .comparisonOfComparison
      unwritten (skip o.text.length)
      let right ← rightOperand r structs o.precedence
      operators structs least n (.binary left o right)
    | none =>
      if least ≤ .assignment && (← seesOnly "=" ["=>"]) then
        unwritten (skip 1)
        let right ← rightOperand r structs .assignment
        operators structs least n (.binary left .assign right)
      else if least ≤ .range && (← sees (.marks "..")) then
        operators structs least n (← rangeFrom r structs left)
      else if least ≤ .conversion && (← sees (.word "as")) then
        operators structs least n (← conversionOf r left)
      else return left

end Sift.Declaration.Expression
