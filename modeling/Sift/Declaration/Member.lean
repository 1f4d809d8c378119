import Sift.Declaration.Reader

/-!
# Members

What names a field: its name, or its position if it has none. A position is written in decimal.
Positions behind several points may be read as one number with a point in it, which is split again.
-/
namespace Sift.Declaration.Member

open Reader

/-- Take an integer that must stand here, and write it as a position. -/
def position : Reader Unit := do
  let ts ← ahead
  unwritten (take .integer)
  match ts with
  | .literal _ (.integer n suffix) :: _ =>
    if !suffix.isEmpty then throw .indexSuffixed
    if UInt32.size ≤ n then throw .indexTooLarge
    emit [.literal (toString n) (.integer n "")]
  | _ :: .literal _ (.integer _ suffix) :: _ =>
    throw (if suffix.isEmpty then .indexNegative else .indexSuffixed)
  | _ => throw .indexNegative

/-- Read a member, and tell whether it is a name. -/
def read : Reader Bool := do
  if ← accept .name then return true
  if ← sees .integer then
    position
    return false
  expect ["identifier", "integer"]

/-- A position by itself. -/
def ofText (part : String) : Except Misreading (List Token) :=
  match Token.ofText? part with
  | none => .error .unlexable
  | some ts => (captured position).run ts |>.map Prod.snd

/-- The positions that a number with a point stands for, and whether another member follows. -/
def ofNumber (source : String) : Except Misreading (List (List Token) × Bool) := do
  let parts := source.splitOn "."
  let isContinued := parts.getLast? = some ""
  let positions ← (if isContinued then parts.dropLast else parts).mapM ofText
  return (positions, isContinued)

end Sift.Declaration.Member
