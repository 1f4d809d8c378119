import Sift.Declaration.Expression.Operation

/-!
# Operands

Literals, paths, macro calls, groups, closures, loops and the like, with calls, members and indices
behind them and signs in front. At the front of a statement, and behind the arrow of a match, an
expression that ends with its block is no operand.
-/
namespace Sift.Declaration.Expression

open Reader

variable (r : Rules)

/-- What a reader takes, as an expression without operands. -/
def asAtom (p : Reader Atom) : Reader Expression := do
  let (form, tokens) ← captured p
  return .atom form [] tokens

/-- Something begins here that can be an expression of its own behind a jump. -/
def begins : Reader Bool := do
  return (← sees .anyWord) && !(← sees (.word "as")) ||
    (← seesAny [.group .round, .group .square, .group .curly, .literal]) ||
    (← seesOnly "!" ["!="]) || (← seesOnly "-" ["-=", "->"]) || (← seesOnly "*" ["*="]) ||
    (← seesOnly "|" ["|="]) || (← seesOnly "&" ["&="]) || (← sees (.marks "..")) ||
    (← seesOnly "<" ["<=", "<<="]) || (← seesAny [.marks "::", .lifetime, .marks "#"])

/-- Read an expression, if one begins here and may stand here. -/
def optional (isAllowed : Bool) : Reader Expression := do
  if (← begins) && isAllowed then r.expression true else return .absent

/-- Read expressions in round brackets. -/
def callArguments : Reader Unit := within .round (items r.value)

/-- Read a member behind a point, with the arguments of a call. -/
def member : Reader Unit := do
  if ← accept (.word "await") then return ()
  let isNamed ← Member.read
  let isCall ← if isNamed && (← sees (.marks "::")) then do
      take (.marks "::")
      Path.argumentList r
      pure true
    else pure false
  if isNamed && (isCall || (← sees (.group .round))) then callArguments r

/-- An expression with members behind points. -/
def withMembers (e : Expression) (members : List (List Token)) : Expression :=
  members.foldl (fun e ts => .trailed [] e true (Token.marks "." ++ ts)) e

/-- The number with a point that stands here, which would be the positions of several members. -/
def pointedNumber? : List Token → Option (String × Nat)
  | .literal source .decimal :: _ => some (source, 1)
  | .mark '-' _ :: .literal source .decimal :: _ => some ("-" ++ source, 2)
  | _ => none

/-- Read members behind a point. -/
def members (e : Expression) : Reader Expression := do
  match pointedNumber? (← ahead) with
  | some (source, width) =>
    unwritten (skip width)
    let (positions, isContinued) ← Member.ofNumber source
    let e := e.withMembers positions
    if isContinued then
      let ((), tokens) ← captured (member r)
      return e.withMembers [tokens]
    else return e
  | none =>
    let ((), tokens) ← captured (member r)
    return e.withMembers [tokens]

/-- Read calls, members, indices and question marks behind an operand. -/
def trailers : Nat → Expression → Reader Expression
  | 0, e => return e
  | n + 1, e => do
    if ← sees (.group .round) then
      let ((), tail) ← captured (callArguments r)
      trailers n (.trailed [] e false tail)
    else if !e.isRange && (← seesOnly "." [".."]) then
      unwritten (skip 1)
      trailers n (← members r e)
    else if ← sees (.group .square) then
      let ((), tail) ← captured (within .square r.value)
      trailers n (.trailed [] e false tail)
    else if !e.isRange && (← sees (.marks "?")) then
      let ((), tail) ← captured (take (.marks "?"))
      trailers n (.trailed [] e true tail)
    else return e

/-- Read calls, members, indices and question marks behind an operand. -/
def trailing (e : Expression) : Reader Expression := do
  trailers r ((← ahead).length + 1) e

/-- Read a block without attributes of its own. -/
def plainBlock : Reader Unit := do
  let _ ← r.block false

/-- Read conditions and their blocks to the last `else`. -/
def conditional : Reader Unit :=
  repeating do
    take (.word "if")
    r.condition
    plainBlock r
    if ← accept (.word "else") then
      if ← sees (.word "if") then return false
      else if ← sees (.group .curly) then plainBlock r
      else expectSign [.word "if", .group .curly]
    return true

/-- Read one arm of a match. A comma ends it, but need not if a block does. -/
def arm : Reader Unit := do
  let _ ← Attribute.outer r
  let _ ← Pattern.any r
  if ← accept (.word "if") then r.value
  take (.marks "=>")
  let e ← r.leading
  emit (e.write .arm)
  if e.isBlockLike || (← atEnd) then
    let _ ← accept (.marks ",")
  else take (.marks ",")

/-- Read a match behind its keyword. -/
def cases : Reader Unit := do
  r.condition
  within .curly do
    let _ ← Attribute.inner r
    repeating do
      if ← atEnd then return true
      arm r
      return false

/-- Read a loop or a block, if one stands here. -/
def loop? (isLabelled : Bool) : Reader (Option Atom) := do
  if ← accept (.word "while") then
    r.condition
    let _ ← r.block true
    return some (.control isLabelled)
  else if ← accept (.word "for") then
    let _ ← Pattern.any r
    take (.word "in")
    r.condition
    let _ ← r.block true
    return some (.control isLabelled)
  else if ← accept (.word "loop") then
    let _ ← r.block true
    return some (.control isLabelled)
  else if ← sees (.group .curly) then
    let attributes ← r.block true
    return some (.block isLabelled (!isLabelled && attributes = 0))
  else return none

/-- Read a loop or a block with a label. -/
def labelled : Reader Atom := do
  take .lifetime
  take (.marks ":")
  match ← loop? r true with
  | some form => return form
  | none => expect ["loop or block expression"]

/-- A keyword stands here that binds the lifetimes of a closure. -/
def seesBinder : Reader Bool := do
  return (← sees (.word "for")) && Bound.beginsParameters ((← ahead).drop 1)

/-- Read an expression that ends with its block, if one stands here. -/
def blockForm? : Reader (Option Atom) := do
  if ← sees (.word "if") then
    conditional r
    return some (.control false)
  else if ← accept (.word "match") then
    cases r
    return some (.control false)
  else if (← sees (.word "try")) && (← seesSecond (.group .curly)) then
    skip 1
    plainBlock r
    return some (.control false)
  else if ← accept (.word "unsafe") then
    let _ ← r.block true
    return some (.control false)
  else if (← sees (.word "const")) && (← seesSecond (.group .curly)) then
    skip 1
    let _ ← r.block true
    return some (.control false)
  else if ← sees .lifetime then return some (← labelled r)
  else if ← seesBinder then return none
  else loop? r false

/-- Read an expression that ends with its block, if one stands here. -/
def blockLike? : Reader (Option Expression) := do
  let (form, tokens) ← captured (blockForm? r)
  return form.map fun form => .atom form [] tokens

/-- A closure begins here. -/
def seesClosure : Reader Bool := do
  return (← seesAny [.marks "|", .word "move", .word "static"]) || (← seesBinder) ||
    (← sees (.word "const")) && !(← seesSecond (.group .curly)) ||
    (← sees (.word "async")) && ((← seesSecond (.marks "|")) || (← seesSecond (.word "move")))

/-- Read what stands in front of the body of a closure, and tell whether its result has a type. -/
def closureHead : Reader Bool := do
  let _ ← Bound.binder r
  for w in ["const", "static", "async", "move"] do
    let _ ← accept (.word w)
  take (.marks "|")
  repeating do
    if ← sees (.marks "|") then return true
    Pattern.parameter r
    if ← sees (.marks "|") then return true
    take (.marks ",")
    return false
  take (.marks "|")
  if ← accept (.marks "->") then
    let _ ← r.type true
    return true
  else return false

/-- Read a closure. -/
def readClosure (structs : Bool) : Reader Expression := do
  let (hasResult, head) ← captured (closureHead r)
  let body ← if hasResult then asAtom (do plainBlock r; return .block false true)
    else r.expression structs
  return .closure [] hasResult head body

/-- Read one field of a struct literal. -/
def field : Reader Unit := do
  let _ ← Attribute.outer r
  let isNamed ← Member.read
  if !isNamed || (← sees (.marks ":")) then
    take (.marks ":")
    r.value

/-- Read the fields of a struct literal. What the others are taken from may stand at its end. -/
def fields : Reader Unit :=
  repeating do
    if ← atEnd then return true
    if ← accept (.marks "..") then
      if !(← atEnd) then r.value
      return true
    field r
    if ← atEnd then return true
    take (.marks ",")
    return false

/-- Read an operand that begins with a path: the path, a macro call or a struct literal. -/
def readPath (structs : Bool) : Reader Atom := do
  let (isQualified, p) ← Type.qualified r true
  if !isQualified && p.isPlain && (← seesOnly "!" ["!="]) then
    skip 1
    return .call (← anyGroup)
  if structs && (← sees (.group .curly)) then
    within .curly (fields r)
    return .struct
  return .path

/-- Read what is left of a list of expressions behind its first one. -/
def moreElements : Reader Unit :=
  repeating do
    if ← atEnd then return true
    take (.marks ",")
    if ← atEnd then return true
    r.value
    return false

/-- Read what stands in round brackets. -/
def tuple : Reader Unit := do
  if !(← atEnd) then
    r.value
    moreElements r

/-- Read what stands in square brackets. -/
def array : Reader Unit := do
  if !(← atEnd) then
    r.value
    if (← atEnd) || (← sees (.marks ",")) then moreElements r
    else if ← accept (.marks ";") then r.value
    else expectSign [.marks ",", .marks ";"]

/-- Read `break` with a label, a value, both or neither. -/
def readLeave (structs : Bool) : Reader Expression := do
  let (isLabelled, head) ← captured do
    take (.word "break")
    if (← sees .lifetime) && (← seesSecond (.marks ":")) then
      let _ ← r.expression true
      throw .labelledValue
    accept .lifetime
  let isAllowed := structs || !(← sees (.group .curly))
  return .jump [] (.leave isLabelled) head (← optional r isAllowed)

/-- Read what stands behind `let` in a condition. -/
def readBinding (structs : Bool) : Reader Expression := do
  let ((), head) ← captured do
    take (.word "let")
    let _ ← Pattern.any r
    take (.marks "=")
  let left ← r.operand structs
  return .binding [] head (← r.operators structs .comparison left)

/-- A path begins here. -/
def seesPath : Reader Bool := do
  return (← seesAny ([.name, .marks "::", .marks "<"] ++ Path.beginnings)) ||
    (← sees (.word "try")) && ((← seesSecond (.marks "!")) || (← seesSecond (.marks "::")))

/-- A block that is run later begins here. -/
def seesAsync : Reader Bool := do
  return (← sees (.word "async")) && ((← seesSecond (.group .curly)) ||
    (← seesSecond (.word "move")) && (← seesThird (.group .curly)))

/-- Read an operand without what stands in front of it or behind it. -/
def readAlone (structs : Bool) : Reader Expression := do
  let start ← ahead
  if ← sees .literal then
    asAtom do
      take .literal
      match start with
      | .literal _ (.text value) :: _ => return .text value
      | _ => return .other
  else if ← seesAsync then
    asAtom do
      skip 1
      let _ ← accept (.word "move")
      plainBlock r
      return .other
  else if ← seesClosure then readClosure r structs
  else if (← sees (.word "builtin")) && (← seesSecond (.marks "#")) then
    unwritten Type.builtin
    return .verbatim (← passed start)
  else if (← seesPath) then asAtom (readPath r structs)
  else if ← sees (.group .round) then
    asAtom do
      within .round (tuple r)
      return .other
  else if ← sees (.word "break") then readLeave r structs
  else if ← sees (.word "continue") then
    asAtom do
      skip 1
      let _ ← accept .lifetime
      return .other
  else if ← seesAny [.word "return", .word "yield"] then
    let ((), head) ← captured (skip 1)
    return .jump [] .result head (← optional r true)
  else if ← sees (.word "become") then
    unwritten (skip 1)
    let _ ← r.expression true
    return .verbatim (← passed start)
  else if ← sees (.group .square) then
    asAtom do
      within .square (array r)
      return .other
  else if ← sees (.word "let") then readBinding r structs
  else
    match ← blockLike? r with
    | some e => return e
    | none =>
      if ← sees (.marks "..") then rangeFrom r structs .absent
      else if ← sees (.word "_") then
        asAtom do
          skip 1
          return .other
      else expect ["an expression"]

/-- Read the sign in front of an operand, if one stands here. -/
def sign? : Reader Bool := do
  if ← accept (.marks "&") then
    let isRaw := (← sees (.word "raw")) &&
      ((← seesSecond (.word "mut")) || (← seesSecond (.word "const")))
    if isRaw then skip 2
    else
      let _ ← accept (.word "mut")
    return true
  else if ← seesAny [.marks "*", .marks "!", .marks "-"] then
    skip 1
    return true
  else return false

/-- Read an operand. -/
def readOperand (structs : Bool) : Reader Expression := do
  let start ← ahead
  let (_, attributes) ← captured (Attribute.outer r)
  let (isSigned, sign) ← captured sign?
  if isSigned then return .signed attributes sign (← r.operand structs)
  else
    let e ← trailing r (← readAlone r structs)
    match e with
    | .verbatim _ => return .verbatim (← passed start)
    | _ =>
      if e.isRange && !attributes.isEmpty then throw .attributeOnRange
      return e.attributed attributes

/-- Read an expression at the front of a statement or behind the arrow of a match. There one that
ends with its block takes no operator, unless a point or a question mark stands between. -/
def leading : Reader Expression := do
  let (_, attributes) ← captured (Attribute.outer r)
  match ← blockLike? r with
  | none => r.operators true .jump ((← r.operand true).attributed attributes)
  | some e =>
    if (← seesOnly "." [".."]) || (← sees (.marks "?")) then
      r.operators true .jump ((← trailing r e).attributed attributes)
    else return e.attributed attributes

/-- Read an expression. -/
def read (structs : Bool) : Reader Expression := do
  r.operators structs .jump (← r.operand structs)

end Sift.Declaration.Expression
