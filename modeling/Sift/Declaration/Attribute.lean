import Sift.Declaration.Path

/-!
# Attributes

An attribute is a path, alone or with arguments or with a value. It stands between square brackets
behind a number sign; an inner attribute, which belongs to what encloses it, has an exclamation mark
between the two. A value is an expression, but not one with attributes of its own.
-/
namespace Sift.Declaration

/-- What follows the path of an attribute. -/
inductive AttributeBody where
  | bare
  | arguments (tokens : List Token)
  | value

/-- An attribute. -/
structure Attribute where
  path : Path
  body : AttributeBody

namespace Attribute

open Reader

/-- Read the path of an attribute; what marks an attribute as unsafe is a path of one word. -/
def readPath : Reader Path := do
  if ← accept (.word "unsafe") then return ⟨false, [("unsafe", false)]⟩
  else Path.plain

/-- Read a value behind its equals sign, and write it. -/
def readValue (r : Rules) : Reader Expression := do
  take (.marks "=")
  let ts ← ahead
  let isLiteral := Sign.literal.begins ts && (ts.drop (Sign.literal.width ts)).isEmpty
  let isAttributed := (Sign.marks "#").begins ts && (Sign.group .square).begins (ts.drop 1)
  if isAttributed then throw .attributeInAttribute
  let e ← if isLiteral then do
      unwritten (take .literal)
      match ts with
      | .literal _ (.text value) :: _ => pure (Expression.atom (.text value) [] ts)
      | _ => pure (Expression.atom .other [] ts)
    else r.expression true
  emit (e.write .alone)
  return e

/-- Read what stands between the brackets of an attribute. -/
def readContent (r : Rules) : Reader Attribute := do
  let path ← readPath
  match ← ahead with
  | .group _ inner :: _ =>
    skip 1
    return ⟨path, .arguments inner⟩
  | _ =>
    if ← sees (.marks "=") then
      let _ ← readValue r
      return ⟨path, .value⟩
    else return ⟨path, .bare⟩

/-- Read attributes in front of something, `before` having been read. -/
def readOuter (r : Rules) : Nat → List Attribute → Reader (List Attribute)
  | 0, before => return before.reverse
  | n + 1, before => do
    if ← accept (.marks "#") then
      let a ← within .square (readContent r)
      readOuter r n (a :: before)
    else return before.reverse

/-- Read attributes in front of something. -/
def outer (r : Rules) : Reader (List Attribute) := do readOuter r ((← ahead).length + 1) []

/-- Read attributes that belong to what encloses them, and tell how many tokens they have. -/
def inner (r : Rules) : Reader Nat := do
  let ((), tokens) ← captured <| repeating do
    if (← sees (.marks "#")) && (← seesSecond (.marks "!")) then
      skip 2
      let _ ← within .square (readContent r)
      return false
    else return true
  emit tokens
  return tokens.length

/-- The attribute is about the mapping. -/
def isMapping (a : Attribute) : Bool := a.path.isName "orm"

/-- The arguments of an attribute that must have some. -/
def arguments (a : Attribute) : Except Fault (List Token) :=
  match a.body with
  | .bare => .error .argumentsMissing
  | .value => .error .parenthesesMissing
  | .arguments ts => .ok ts

end Attribute

end Sift.Declaration
