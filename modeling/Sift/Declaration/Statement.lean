import Sift.Declaration.Expression.Operand
import Sift.Declaration.Item

/-!
# Statements

What stands in a block: bindings, expressions, macro calls and items, with semicolons between them
where one does not end with its block.
-/
namespace Sift.Declaration.Statement

open Reader

variable (r : Rules)

/-- A function follows, perhaps behind further words. -/
def beginsFunction (ts : List Token) : Bool :=
  [Sign.word "unsafe", .word "extern", .word "fn"].any (·.begins ts)

/-- What follows `const` makes it an expression. -/
def isConstantExpression (ts : List Token) : Bool :=
  [Sign.group .curly, .word "static", .word "move", .marks "|"].any (·.begins ts) ||
    (Sign.word "async").begins ts && !beginsFunction (ts.drop 1)

/-- An item begins here. -/
def seesItem : Reader Bool := do
  let ts ← ahead
  let behind := ts.drop 1
  let begins (word : String) (follows : List Token → Bool) : Bool :=
    (Sign.word word).begins ts && follows behind
  return ["pub", "extern", "use", "fn", "mod", "type", "struct", "enum", "trait", "impl",
      "macro"].any (begins · fun _ => true) ||
    begins "crate" (fun us => !(Sign.marks "::").begins us) ||
    begins "static" (fun us => (Sign.word "mut").begins us || Sign.name.begins us) ||
    begins "const" (fun us => !isConstantExpression us) ||
    begins "unsafe" (fun us => !(Sign.group .curly).begins us) ||
    begins "async" beginsFunction ||
    begins "union" Sign.name.begins ||
    begins "auto" (Sign.word "trait").begins ||
    begins "default" (fun us => (Sign.word "unsafe").begins us || (Sign.word "impl").begins us)

/-- The tokens end with curly brackets. -/
def endsWithBlock (ts : List Token) : Bool :=
  match ts.getLast? with
  | some (.group .curly _) => true
  | _ => false

/-- Read a binding behind its attributes. What it does otherwise may follow `else`, unless the
bound expression ends with a curly bracket. -/
def binding : Reader Unit := do
  take (.word "let")
  let _ ← r.pattern
  if ← accept (.marks ":") then
    let _ ← r.type true
  if ← accept (.marks "=") then
    let start ← ahead
    r.value
    if ← acceptIf (!endsWithBlock (← passed start)) (.word "else") then
      let _ ← r.block false
  take (.marks ";")

/-- What a macro call at the front of a statement is. -/
inductive Call where
  /-- A call with a name behind its mark, which defines something. -/
  | definition
  /-- A call with curly brackets that is a statement by itself. -/
  | statement
  /-- A part of an expression. -/
  | operand
deriving DecidableEq

/-- The macro call that begins here, if one does. -/
def call? : Reader (Option Call) := do
  match ← foresee Path.plain with
  | none => return none
  | some (_, after) =>
    let ts := after.rest
    let second := ts.drop 1
    let third := ts.drop 2
    if !(Sign.marks "!").begins ts then return none
    if Sign.name.begins second || (Sign.word "try").begins second then return some .definition
    let isOperand := (Sign.marks ".").begins third && !(Sign.marks "..").begins third ||
      (Sign.marks "?").begins third
    return some (if (Sign.group .curly).begins second && !isOperand then .statement else .operand)

/-- Read a statement, and tell whether a semicolon is missing behind it in front of another. -/
def read : Reader Bool := do
  let start ← ahead
  let (_, attributes) ← captured (Attribute.outer r)
  let call ← call?
  if call = some .statement then
    emit attributes
    let _ ← Path.plain
    skip 2
    let _ ← accept (.marks ";")
    return false
  else if ← sees (.word "let") then
    emit attributes
    binding r
    return false
  else if call = some .definition || (← seesItem) then
    let (staysAsItStands, tokens) ← captured (Item.read r)
    let source ← passed start
    emit (if staysAsItStands then source else attributes ++ tokens)
    return false
  else
    let e ← r.leading
    emit ((e.attributed attributes).write .statement)
    if ← accept (.marks ";") then return false
    return !e.isStatement

/-- Read statements to the end of the group at hand. -/
def all : Reader Unit :=
  repeating do
    if ← atEnd then return true
    if ← accept (.marks ";") then return false
    let isOpen ← read r
    if isOpen && !(← atEnd) then throw .semicolonMissing
    return false

/-- Read a block, and tell how many tokens its attributes have. -/
def block (attributed : Bool) : Reader Nat :=
  within .curly do
    let attributes ← if attributed then Attribute.inner r else pure 0
    all r
    return attributes

end Sift.Declaration.Statement
