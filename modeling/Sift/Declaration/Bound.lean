import Sift.Declaration.Attribute

/-!
# Bounds and parameters

What generic parameters are and what they must satisfy: bounds by traits and lifetimes, binders of
lifetimes, parameter lists with their defaults, and conditions behind `where`. What announces a list
of bounds, parameters or conditions is not written if the list is empty.
-/
namespace Sift.Declaration.Bound

open Reader

variable (r : Rules)

/-- Read the result of a function type, if it has one, and tell whether the type ends with it and is
open. -/
def result (plus : Bool) : Reader Bool := do
  if ← accept (.marks "->") then return (← r.type plus).isOpen
  else return false

/-- Read the arguments and the result of a trait for functions. -/
def functionArguments : Reader Bool := do
  within .round (items (r.type true))
  result r false

/-- Read a captured parameter, and tell whether it is a lifetime. -/
def capturedParameter : Reader Bool := do
  if ← accept .lifetime then return true
  else if ← seesAny [.name, .word "Self"] then
    skip 1
    return false
  else expectSign [.lifetime, .name, .marks ">"]

/-- Read a list of captured parameters. -/
def captureList : Reader Unit := do
  take (.word "use")
  let comma : Reader Unit := do
    if !(← accept (.marks ",")) then expectSign [.marks ",", .marks ">"]
  let _ ← Path.lifetimesFirst capturedParameter comma

/-- Read a generic parameter behind its attributes. -/
def parameter : Reader Unit := do
  if ← accept .lifetime then
    if ← unwritten (accept (.marks ":")) then
      announced (Token.marks ":")
        (joined (take .lifetime) (do return (← atEnd) || (← seesAny [.marks ",", .marks ">"])))
  else if ← accept .name then
    if ← unwritten (accept (.marks ":")) then
      announced (Token.marks ":") (joined (r.bound false true)
        (do return (← atEnd) || (← seesAny [.marks ",", .marks ">", .marks "="])))
    if ← accept (.marks "=") then
      let _ ← r.type true
  else if ← accept (.word "const") then
    take .name
    take (.marks ":")
    let _ ← r.type true
    if ← accept (.marks "=") then Path.constant r
  else expectSign [.name, .lifetime, .word "const"]

/-- Read the lifetimes that are bound in front of a type or trait, if there are any. -/
def binder : Reader Bool := do
  if ← accept (.word "for") then
    take (.marks "<")
    repeating do
      if ← sees (.marks ">") then return true
      let _ ← Attribute.outer r
      parameter r
      if ← sees (.marks ">") then return true
      take (.marks ",")
      return false
    take (.marks ">")
    return true
  else return false

/-- Read what makes a trait constant, if it stands here. -/
def constancy (constants : Bool) : Reader Bool := do
  if ← sees (.group .square) then
    within .square (take (.word "const"))
    if !constants then throw (.constantBound "[const]")
    return true
  else if ← accept (.word "const") then
    if !constants then throw (.constantBound "const")
    return true
  else return false

/-- Read a bound by a trait. A separator in front of the arguments of a function is not written. -/
def traitBound (constants : Bool) : Reader BoundForm := do
  let bindsFirst ← binder r
  let isConstant ← constancy constants
  let isOptional ← accept (.marks "?")
  let binds ← if isOptional && !bindsFirst then binder r else pure bindsFirst
  let path ← Path.read r false
  let ts ← ahead
  let isFunction := path.endsPlain && ((Sign.group .round).begins ts ||
    (Sign.marks "::").begins ts && (Sign.group .round).begins (ts.drop 2))
  let isOpen ← if isFunction then do
      let _ ← unwritten (accept (.marks "::"))
      functionArguments r
    else pure path.endsPlain
  if binds && isOptional then throw .binderOnOptional
  return if isConstant then .constant else .trait isOpen

/-- Read one bound. A constant one stays as it stands. -/
def read (captures constants : Bool) : Reader BoundForm := do
  if ← accept .lifetime then return .lifetime
  if ← sees (.word "use") then
    captureList
    if captures then return .captures else throw .capturesForbidden
  verbatimWhen (· = .constant) do
    if ← sees (.group .round) then within .round (traitBound r constants)
    else traitBound r constants

/-- Read further bounds behind a plus sign, `before` having been read. -/
def more (plus captures constants : Bool) : Nat → List BoundForm → Reader (List BoundForm)
  | 0, before => return before.reverse
  | n + 1, before => do
    let b ← r.bound captures constants
    if ← acceptIf plus (.marks "+") then
      let starts := [Sign.anyWord, .marks "::", .marks "?", .lifetime, .group .round] ++
        if constants then [.group .square] else []
      if ← seesAny starts then more plus captures constants n (b :: before)
      else return (b :: before).reverse
    else return (b :: before).reverse

/-- Read bounds with plus signs between them, or only one. -/
def several (plus captures constants : Bool) : Reader (List BoundForm) := do
  more r plus captures constants ((← ahead).length + 1) []

/-- Read a parameter of a list, and tell whether it is a lifetime. -/
def listedParameter : Reader Bool := do
  let _ ← Attribute.outer r
  let isLifetime ← sees .lifetime
  if ← seesAny [.lifetime, .name, .word "const"] then parameter r
  else if !(← accept (.word "_")) then expectSign [.lifetime, .name, .word "const"]
  return isLifetime

/-- Read a parameter list in angle brackets, if there is one, and tell whether it has a
parameter. -/
def parameters : Reader Bool := do
  if ← sees (.marks "<") then
    let (isGeneric, tokens) ← captured (Path.lifetimesFirst (listedParameter r) (take (.marks ",")))
    if isGeneric then emit tokens
    return isGeneric
  else return false

/-- The tokens are a parameter list and not a type in angle brackets. -/
def beginsParameters (ts : List Token) : Bool :=
  let second := ts.drop 1
  let third := ts.drop 2
  (Sign.marks "<").begins ts &&
    ((Sign.marks ">").begins second || (Sign.marks "#").begins second ||
      (Sign.lifetime.begins second || Sign.name.begins second) &&
        ((Sign.marks ">").begins third || (Sign.marks ",").begins third ||
          (Sign.marks ":").begins third && !(Sign.marks "::").begins third ||
          (Sign.marks "=").begins third) ||
      (Sign.word "const").begins second)

/-- A condition, or the list of them, ends here. -/
def conditionEnds : Reader Bool := do
  return (← atEnd) ||
    (← seesAny [.group .curly, .marks ",", .marks ";", .marks "="]) || (← seesOnly ":" ["::"])

/-- Read a condition. -/
def condition : Reader Unit := do
  if (← sees .lifetime) && (← seesSecond (.marks ":")) then
    skip 2
    joined (take .lifetime) (do return (← conditionEnds) || (← sees (.marks ":")))
  else
    let _ ← binder r
    let _ ← r.type true
    take (.marks ":")
    joined (r.bound false true) conditionEnds

/-- Read conditions, if there are any, and tell whether a list of them stands here. -/
def conditions : Reader Bool := do
  if ← unwritten (accept (.word "where")) then
    if beginsParameters (← ahead) then throw .genericCondition
    announced [.word "where"] <| repeating do
      if ← conditionEnds then return true
      condition r
      if ← accept (.marks ",") then return false
      return true
    return true
  else return false

end Sift.Declaration.Bound
