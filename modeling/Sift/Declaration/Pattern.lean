import Sift.Declaration.Member
import Sift.Declaration.Type

/-!
# Patterns

Patterns as they stand in closures, loops, bindings and arms of a match: names, literals, ranges,
paths with or without their parts, references, groups and alternatives. The three points of an old
range are written as those of a new one.
-/
namespace Sift.Declaration.Pattern

open Reader

variable (r : Rules)

/-- Read alternatives with bars between them; `isMany` if a bar stands in front. -/
def alternatives (isMany : Bool) : Reader PatternForm := do
  let first ← r.pattern
  if isMany || (← seesOnly "|" ["||", "|="]) then
    repeating do
      if ← seesOnly "|" ["||", "|="] then
        skip 1
        let _ ← r.pattern
        return false
      else return true
    return .other
  else return first

/-- Read alternatives, with a bar in front or not. -/
def any : Reader PatternForm := do alternatives r (← accept (.marks "|"))

/-- The signs that a range's bound can begin with. -/
def boundBeginnings : List Sign := [
  .literal, .name, .marks "::", .marks "<", .word "self", .word "Self", .word "super",
  .word "crate", .word "const"]

/-- Read a bound of a range, if one stands here. -/
def bound : Reader (Option PatternForm) := do
  if (← atEnd) || (← seesAny [.marks "|", .marks "=", .marks ",", .marks ";", .word "if"]) ||
      (← seesOnly ":" ["::"]) then return none
  if ← accept .literal then return some .other
  if ← accept (.word "const") then return some (.constant (← r.block true))
  if ← seesAny boundBeginnings then
    let _ ← Type.qualified r true
    return some .other
  expectSign boundBeginnings

/-- Take the points of a range, and tell whether it holds its upper bound. Three points are an old
spelling, which is not allowed everywhere. -/
def points (old : Bool) : Reader Bool := do
  if ← accept (.marks "..=") then return true
  if ← sees (.marks "...") then
    if !old then expectSign [.marks "..", .marks "..="]
    unwritten (skip 3)
    emit (Token.marks "..=")
    return true
  take (.marks "..")
  return false

/-- Read a range from its points on, where its lower bound has been read or is missing. -/
def range (hasLower : Bool) : Reader PatternForm := do
  let isClosed ← points hasLower
  match ← bound r with
  | some _ => return .range (!hasLower)
  | none =>
    if isClosed then expect ["range upper bound"]
    return if hasLower then .range true else .rest

/-- Read one field of a struct pattern behind its attributes. -/
def field : Reader Unit := do
  let isBoxed ← accept (.word "box")
  let isRef ← accept (.word "ref")
  let isMut ← accept (.word "mut")
  if isBoxed || isRef || isMut then take .name
  else
    let isNamed ← Member.read
    if !isNamed || (← sees (.marks ":")) then
      take (.marks ":")
      let _ ← any r

/-- Read the fields of a struct pattern. Two points may stand for the others at its end. -/
def fields : Reader Unit :=
  repeating do
    if ← atEnd then return true
    let _ ← Attribute.outer r
    if ← accept (.marks "..") then return true
    field r
    if ← atEnd then return true
    take (.marks ",")
    return false

/-- Read a pattern that begins with a path. -/
def path : Reader PatternForm := do
  let (isQualified, p) ← Type.qualified r true
  if !isQualified && p.isPlain && (← seesOnly "!" ["!="]) then
    skip 1
    let _ ← anyGroup
    return .other
  if ← sees (.group .curly) then
    within .curly (fields r)
    return .other
  if ← sees (.group .round) then
    within .round (items (any r))
    return .other
  if ← sees (.marks "..") then range r true
  else return .other

/-- Read a name that is bound, and a pattern for what it is bound to. -/
def binding : Reader Unit := do
  let _ ← accept (.word "ref")
  let _ ← accept (.word "mut")
  if !(← accept (.word "self")) then take .name
  if ← accept (.marks "@") then
    let _ ← r.pattern

/-- Read the parts of a slice; a range without one of its bounds is none. -/
def slicePart : Reader Unit := do
  if (← any r) = .range true then throw .openRangeInSlice

/-- The signs that a pattern can begin with, in the order in which they are looked for. -/
def beginnings : List Sign := [
  .name, .marks "::", .marks "<", .word "_", .literal, .word "const", .word "ref", .word "mut",
  .marks "&", .group .round, .group .square, .marks "..", .word "const"]

/-- A name that begins more than a binding. -/
def beginsPath (ts : List Token) : Bool :=
  let second := ts.drop 1
  Sign.name.begins ts &&
      [Sign.marks "::", .marks "!", .group .curly, .group .round, .marks ".."].any
        (·.begins second) ||
    (Sign.word "self").begins ts && (Sign.marks "::").begins second ||
    [Sign.marks "::", .marks "<", .word "Self", .word "super", .word "crate"].any (·.begins ts)

/-- Read one pattern. A boxed one stays as it stands. -/
def read : Reader PatternForm := do
  if beginsPath (← ahead) then path r
  else if ← accept (.word "_") then return .other
  else if ← sees (.word "box") then
    verbatimWhen (fun _ => true) do
      take (.word "box")
      let _ ← r.pattern
      return .verbatim
  else if ← seesAny [.marks "-", .literal, .word "const"] then
    let lower ← bound r
    if ← sees (.marks "..") then range r true else return lower.getD .other
  else if ← seesAny [.word "ref", .word "mut", .word "self", .name] then
    binding r
    return .other
  else if ← accept (.marks "&") then
    let _ ← accept (.word "mut")
    let _ ← r.pattern
    return .other
  else if ← sees (.group .round) then
    within .round (items (any r))
    return .other
  else if ← sees (.group .square) then
    within .square (items (slicePart r))
    return .other
  else if (← sees (.marks "..")) && !(← sees (.marks "...")) then range r false
  else expectSign beginnings

/-- A pattern with attributes in front, its tokens being given. A range with attributes is put in
brackets; the attributes within a constant block give way to those in front. -/
def attributed (attributes : List Token) (form : PatternForm) (tokens : List Token) : List Token :=
  match form, tokens with
  | .verbatim, _ => tokens
  | .range _, _ => attributes ++ if attributes.isEmpty then tokens else Token.enclosed tokens
  | .constant n, [w, .group .curly content] => attributes ++ [w, .group .curly (content.drop n)]
  | _, _ => attributes ++ tokens

/-- Read a parameter of a closure. -/
def parameter : Reader Unit := do
  let (_, attributes) ← captured (Attribute.outer r)
  let (form, tokens) ← captured r.pattern
  if ← sees (.marks ":") then
    emit (attributes ++ tokens)
    take (.marks ":")
    let _ ← r.type true
  else emit (attributed attributes form tokens)

end Sift.Declaration.Pattern
