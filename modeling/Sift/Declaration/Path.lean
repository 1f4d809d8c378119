import Sift.Declaration.Rules

/-!
# Paths

Names with separators between them, some with arguments in angle brackets: lifetimes, types,
constants, and bounds or values of associated items. A plain path has no arguments. In every list in
angle brackets that is written, the lifetimes stand before all other items.
-/
namespace Sift.Declaration

/-- Names with separators between them, and one in front or not. -/
structure Path where
  isGlobal : Bool
  /-- Each name, and whether arguments follow it. -/
  segments : List (String × Bool)
deriving DecidableEq

/-- One item of a list in angle brackets. -/
structure Argument where
  isLifetime : Bool
  tokens : List Token
  /-- A comma follows. -/
  hasComma : Bool

namespace Path

open Reader

/-- The path is one name and no more. -/
def isName (p : Path) (name : String) : Bool := !p.isGlobal && p.segments == [(name, false)]

/-- No segment has arguments. -/
def isPlain (p : Path) : Bool := p.segments.all fun s => !s.2

/-- The last segment has no arguments. -/
def endsPlain (p : Path) : Bool := p.segments.getLast?.all fun s => !s.2

/-- The reserved words that stand for a path's beginning. -/
def beginnings : List Sign := [.word "super", .word "self", .word "Self", .word "crate"]

/-- Take a word. -/
def word : Reader String := do
  match ← ahead with
  | .word w :: _ =>
    skip 1
    return w
  | _ => expect ["identifier"]

/-- Read segments without arguments, `before` having been read. -/
def plainSegments : Nat → List (String × Bool) → Reader (List (String × Bool))
  | 0, before => return before.reverse
  | n + 1, before => do
    if ← seesAny (.name :: beginnings) then
      let w ← word
      if ← accept (.marks "::") then plainSegments n ((w, false) :: before)
      else return ((w, false) :: before).reverse
    else if before.isEmpty then
      take .name
      return []
    else expect ["path segment after `::`"]

/-- Read a path without arguments. -/
def plain : Reader Path := do
  let isGlobal ← accept (.marks "::")
  let segments ← plainSegments ((← ahead).length + 1) []
  return ⟨isGlobal, segments⟩

/-- Read the value of a constant argument. -/
def constant (r : Rules) : Reader Unit := do
  if ← sees .literal then take .literal
  else if ← sees .name then take .name
  else if ← sees (.group .curly) then
    let _ ← r.block true
  else expect []

/-- Write a list of items, lifetimes first. -/
def arrange (arguments : List Argument) : List Token :=
  let comma := Token.mark ',' false
  let write (isSeparated : Bool) (a : Argument) : List Token :=
    (if isSeparated then [] else [comma]) ++ a.tokens ++ if a.hasComma then [comma] else []
  let lifetimes := arguments.filter Argument.isLifetime
  let others := arguments.filter fun a => !a.isLifetime
  let start := lifetimes.getLast?.all Argument.hasComma
  lifetimes.flatMap (write true) ++
    match others with
    | [] => []
    | first :: more => write start first ++ more.flatMap (write true)

/-- Read an argument of a path, and tell whether it is a lifetime. -/
def argument (r : Rules) : Reader Bool := do
  let ts ← ahead
  if Sign.lifetime.begins ts && !(Sign.marks "+").begins (ts.drop 1) then
    skip 1
    return true
  if ← seesAny [.literal, .group .curly] then
    constant r
    return false
  if (← r.type true).kind = .path true then
    if ← accept (.marks "=") then
      if ← seesAny [.literal, .group .curly] then constant r
      else
        let _ ← r.type true
    else if ← accept (.marks ":") then
      joined (r.bound false true) (seesAny [.marks ",", .marks ">"])
  return false

/-- Read items up to a closing angle bracket, `before` having been read. An item tells whether it is
a lifetime. -/
def listed (item : Reader Bool) (comma : Reader Unit) :
    Nat → List Argument → Reader (List Argument)
  | 0, before => return before.reverse
  | n + 1, before => do
    if ← sees (.marks ">") then return before.reverse
    let (isLifetime, tokens) ← captured item
    if ← sees (.marks ">") then return (⟨isLifetime, tokens, false⟩ :: before).reverse
    unwritten comma
    listed item comma n (⟨isLifetime, tokens, true⟩ :: before)

/-- Read items in angle brackets, and write the lifetimes first. Tell whether there is an item. -/
def lifetimesFirst (item : Reader Bool) (comma : Reader Unit) : Reader Bool := do
  take (.marks "<")
  let all ← listed item comma ((← ahead).length + 1) []
  emit (arrange all)
  take (.marks ">")
  return !all.isEmpty

/-- Read a list of arguments in angle brackets. -/
def argumentList (r : Rules) : Reader Unit := do
  let _ ← lifetimesFirst (argument r) (take (.marks ","))

/-- Read a segment; outside of expressions its arguments need no separator in front. -/
def segment (r : Rules) (inExpression : Bool) : Reader (String × Bool) := do
  if ← seesAny [.word "super", .word "self", .word "crate", .word "try"] then
    return (← word, false)
  let w ← if ← sees (.word "Self") then word else do
    let ts ← ahead
    take .name
    match ts with
    | .word w :: _ => pure w
    | _ => pure ""
  let ts ← ahead
  let isAngle := !inExpression && (← seesOnly "<" ["<=", "<<="])
  let isSeparated := (Sign.marks "::").begins ts && (Sign.marks "<").begins (ts.drop 2)
  if isAngle || isSeparated then
    let _ ← accept (.marks "::")
    argumentList r
    return (w, true)
  else return (w, false)

/-- Read further segments behind separators; a group in round brackets behind one is none. -/
def moreSegments (r : Rules) (inExpression : Bool) :
    Nat → List (String × Bool) → Reader (List (String × Bool))
  | 0, before => return before.reverse
  | n + 1, before => do
    if (← sees (.marks "::")) && !(← seesThird (.group .round)) then
      skip 2
      let s ← segment r inExpression
      moreSegments r inExpression n (s :: before)
    else return before.reverse

/-- Read segments with a separator between every two. -/
def separated (r : Rules) (inExpression : Bool) : Nat → Reader (List (String × Bool))
  | 0 => return [← segment r inExpression]
  | n + 1 => do
    let s ← segment r inExpression
    if ← accept (.marks "::") then return s :: (← separated r inExpression n)
    else return [s]

/-- Read a path. -/
def read (r : Rules) (inExpression : Bool) : Reader Path := do
  let isGlobal ← accept (.marks "::")
  let first ← segment r inExpression
  let segments ← moreSegments r inExpression ((← ahead).length + 1) [first]
  return ⟨isGlobal, segments⟩

end Path

end Sift.Declaration
