import Sift.Declaration.Function

/-!
# Items

What is declared among statements or by itself: functions, types, traits and their implementations,
modules, constants, imports and definitions by macros. An item that is read but not fully
understood, such as a function without a body, stays as it stands with its attributes.
-/
namespace Sift.Declaration.Item

open Reader

variable (r : Rules)

/-- Read attributes and what they belong to, which tells whether both stay as they stand. -/
def attributed (content : Reader Bool) : Reader Unit := do
  let _ ← verbatimWhen id do
    let _ ← Attribute.outer r
    content

/-- The signs that a call of a macro can begin with. -/
def callBeginnings : List Sign :=
  [.name, .word "self", .word "super", .word "crate", .marks "::"]

/-- Read the brackets of a macro call; a semicolon follows all but curly ones. -/
def callContent : Reader Unit := do
  if (← anyGroup) ≠ .curly then take (.marks ";")

/-- Read a call of a macro. -/
def call : Reader Unit := do
  let _ ← Path.plain
  take (.marks "!")
  callContent

/-- Read statements in curly brackets, with attributes of their own. -/
def body : Reader Unit := do
  let _ ← r.block true

/-- Read items in curly brackets, with attributes of their own. -/
def content (item : Reader Unit) : Reader Unit :=
  within .curly do
    let _ ← Attribute.inner r
    repeating do
      if ← atEnd then return true
      item
      return false

/-- Read bounds with plus signs between them, until something stops them. -/
def bounds (constants : Bool) (stops : List Sign) : Reader Unit :=
  repeating do
    if ← seesAny stops then return true
    let _ ← r.bound false constants
    if ← seesAny stops then return true
    take (.marks "+")
    return false

/-- Read bounds behind a colon, which is not written if there are none, and tell whether a colon
stands here. -/
def announcedBounds (stops : List Sign) : Reader Bool := do
  if ← unwritten (accept (.marks ":")) then
    announced (Token.marks ":") (bounds r true stops)
    return true
  else return false

/-- Where conditions of a named type stand. -/
inductive ConditionPlace where
  | beforeType
  | behindType
  | both
deriving DecidableEq

/-- What has been read of a named type. -/
structure NamedType where
  hasBounds : Bool
  hasType : Bool

/-- Read a named type, its visibility having been read. -/
def namedType (place : ConditionPlace) : Reader NamedType := do
  take (.word "type")
  take .name
  let _ ← Bound.parameters r
  let hasBounds ← announcedBounds r [.word "where", .marks "=", .marks ";"]
  let isConditional ← if place ≠ .behindType then Bound.conditions r else pure false
  let hasType ← accept (.marks "=")
  if hasType then
    let _ ← r.type true
  if place = .behindType || place = .both && !isConditional then
    let _ ← Bound.conditions r
  take (.marks ";")
  return ⟨hasBounds, hasType⟩

/-- What has been read of a constant. -/
structure Constant where
  /-- The constant has parameters or conditions. -/
  isGeneric : Bool
  hasValue : Bool

/-- Read a constant behind its keyword. It may have no name. -/
def constant : Reader Constant := do
  if !(← seesAny [.name, .word "_"]) then expectSign [.name, .word "_"]
  skip 1
  let isParameterized ← sees (.marks "<")
  let _ ← Bound.parameters r
  take (.marks ":")
  let _ ← r.type true
  let hasValue ← accept (.marks "=")
  if hasValue then r.value
  let isConditional ← Bound.conditions r
  take (.marks ";")
  return ⟨isParameterized || isConditional, hasValue⟩

/-- Read a function with a body or without, and tell whether it has none. -/
def function : Reader Bool := do
  let _ ← Function.signature r false
  if ← accept (.marks ";") then return true
  body r
  return false

/-- Read a function of a trait, which need not have a body. -/
def traitFunction : Reader Unit := do
  let _ ← Function.signature r false
  if ← sees (.group .curly) then body r
  else if !(← accept (.marks ";")) then expectSign [.group .curly, .marks ";"]

/-- Read an item of a trait behind its attributes. -/
def traitItem : Reader Bool := do
  let isVisible ← visibility
  let isDefault ← accept (.word "default")
  let isPlain := !isVisible && !isDefault
  let ts ← ahead
  if Function.beginsSignature false ts then
    traitFunction r
    return !isPlain
  else if (Sign.word "const").begins ts then
    let behind := ts.drop 1
    let signs := [Sign.name, .word "_", .word "async", .word "unsafe", .word "extern", .word "fn"]
    if (signs.take 2).any (·.begins behind) then
      skip 1
      let c ← constant r
      return c.isGeneric || !isPlain
    else if signs.any (·.begins behind) then
      traitFunction r
      return !isPlain
    else
      skip 1
      expectSign signs
  else if (Sign.word "type").begins ts then
    let _ ← namedType r .behindType
    return !isPlain
  else if isPlain && callBeginnings.any (·.begins ts) then
    call
    return false
  else
    expectSign ([.word "fn", .word "const", .word "type"] ++ if isPlain then callBeginnings else [])

/-- Read an item of an implementation behind its attributes. -/
def implementationItem : Reader Bool := do
  let isVisible ← visibility
  let isDefault ← acceptIf (!(← seesSecond (.marks "!"))) (.word "default")
  let isPlain := !isVisible && !isDefault
  let ts ← ahead
  if Function.beginsSignature false ts then function r
  else if (Sign.word "const").begins ts then
    skip 1
    let c ← constant r
    return c.isGeneric || !c.hasValue
  else if (Sign.word "type").begins ts then
    let t ← namedType r .behindType
    return t.hasBounds || !t.hasType
  else if isPlain && callBeginnings.any (·.begins ts) then
    call
    return false
  else
    expectSign ((if isDefault then [] else [.word "default"]) ++
      [.word "fn", .word "const", .word "type"] ++ if isPlain then callBeginnings else [])

/-- Read a variable of another language behind its visibility. -/
def foreignStatic : Reader Bool := do
  let isUnsafe ← accept (.word "unsafe")
  let isSafe ← acceptIf (!isUnsafe) (.word "safe")
  take (.word "static")
  let _ ← accept (.word "mut")
  take .name
  take (.marks ":")
  let _ ← r.type true
  let hasValue ← accept (.marks "=")
  if hasValue then r.value
  take (.marks ";")
  return isUnsafe || isSafe || hasValue

/-- Read an item of another language behind its attributes. -/
def foreignItem : Reader Bool := do
  let isVisible ← visibility
  let ts ← ahead
  let isMarked := (Sign.word "unsafe").begins ts || (Sign.word "safe").begins ts
  if Function.beginsSignature true ts then
    let isSafe ← Function.signature r true
    let hasBody ← sees (.group .curly)
    if hasBody then body r else take (.marks ";")
    return isSafe || hasBody
  else if (Sign.word "static").begins ts || isMarked && (Sign.word "static").begins (ts.drop 1) then
    foreignStatic r
  else if (Sign.word "type").begins ts then
    let t ← namedType r .both
    return t.hasBounds || t.hasType
  else if !isVisible && callBeginnings.any (·.begins ts) then
    call
    return false
  else
    expectSign ([.word "fn", .word "static", .word "type"] ++
      if isVisible then [] else callBeginnings)

/-- Read items of another language. -/
def foreignModule : Reader Unit := do
  let _ ← accept (.word "unsafe")
  take (.word "extern")
  let _ ← accept .string
  content r (attributed r (foreignItem r))

/-- Read a new name behind `as`; a low line is none. -/
def newName : Reader Unit := do
  if !(← accept (.word "_")) then take .name

/-- Read an import of a crate. -/
def crateImport : Reader Unit := do
  take (.word "extern")
  take (.word "crate")
  if !(← accept (.word "self")) then take .name
  if ← accept (.word "as") then newName
  take (.marks ";")

/-- The signs that a tree of imported names can begin with. -/
def importBeginnings : List Sign :=
  [.name, .word "self", .word "super", .word "crate", .word "try", .marks "*", .group .curly]

/-- Read a tree of imported names. A separator may stand in front of a name in brackets if none has
been read before, and the tree tells whether one does. The trees nest as deep as `levels`. -/
def importTree : Nat → Bool → Reader Bool
  | 0, _ => throw .tooDeep
  | levels + 1, fromRoot => do
    if ← seesAny (importBeginnings.take 5) then
      skip 1
      if ← accept (.marks "::") then importTree levels false
      else
        if ← accept (.word "as") then
          if ← seesAny [.name, .word "_"] then skip 1
          else expect ["identifier or underscore"]
        return false
    else if ← accept (.marks "*") then return false
    else if ← sees (.group .curly) then
      within .curly do
        let trees ← list do
          let isGlobal ← acceptIf fromRoot (.marks "::")
          let hasGlobal ← importTree levels (fromRoot && !isGlobal)
          return isGlobal || hasGlobal
        return trees.any id
    else expectSign importBeginnings

/-- Read an import behind its visibility. -/
def nameImport : Reader Bool := do
  take (.word "use")
  let isGlobal ← accept (.marks "::")
  let hasGlobal ← importTree (Token.sizeOf (← ahead) + 1) (!isGlobal)
  take (.marks ";")
  return hasGlobal

/-- Read a variable. -/
def static : Reader Bool := do
  take (.word "static")
  let _ ← accept (.word "mut")
  take .name
  if ← accept (.marks "=") then
    r.value
    take (.marks ";")
    return true
  take (.marks ":")
  let _ ← r.type true
  if ← accept (.marks ";") then return true
  take (.marks "=")
  r.value
  take (.marks ";")
  return false

/-- Read a module, with its content or without. -/
def module : Reader Unit := do
  let _ ← accept (.word "unsafe")
  take (.word "mod")
  if !(← accept (.word "try")) then take .name
  if ← sees (.group .curly) then content r r.item
  else if !(← accept (.marks ";")) then expectSign [.marks ";", .group .curly]

/-- Read what a trait requires and holds, behind its generic parameters. -/
def traitContent : Reader Unit := do
  let _ ← announcedBounds r [.word "where", .group .curly]
  let _ ← Bound.conditions r
  content r (attributed r (traitItem r))

/-- Read a trait that cannot be another name for bounds. -/
def markedTrait : Reader Unit := do
  let _ ← accept (.word "unsafe")
  let _ ← accept (.word "auto")
  take (.word "trait")
  take .name
  let _ ← Bound.parameters r
  traitContent r

/-- Read a trait, or another name for bounds. -/
def trait : Reader Unit := do
  take (.word "trait")
  take .name
  let _ ← Bound.parameters r
  if ← seesAny [.group .curly, .marks ":", .word "where"] then traitContent r
  else if ← accept (.marks "=") then
    bounds r false [.word "where", .marks ";"]
    let _ ← Bound.conditions r
    take (.marks ";")
  else expectSign [.group .curly, .marks ":", .word "where", .marks "="]

/-- Read an implementation. One that is visible, constant or not of a path stays as it stands. -/
def implementation (isVisible : Bool) : Reader Bool := do
  let _ ← accept (.word "default")
  let _ ← accept (.word "unsafe")
  take (.word "impl")
  if Bound.beginsParameters (← ahead) then
    let _ ← Bound.parameters r
  let isConstant := (← sees (.word "const")) ||
    (← sees (.marks "?")) && (← seesSecond (.word "const"))
  if isConstant then
    let _ ← accept (.marks "?")
    take (.word "const")
  let isNegative ← acceptIf (!(← seesSecond (.group .curly))) (.marks "!")
  let form ← r.type true
  let isOfTrait ← accept (.word "for")
  let isOfPath := match form.kind with
    | .path _ => true
    | _ => false
  if isOfTrait then
    let _ ← r.type true
  else if isNegative then throw .negativeInherent
  let _ ← Bound.conditions r
  content r (attributed r (implementationItem r))
  return isVisible || isConstant || isOfTrait && !isOfPath

/-- Read the definition of a macro by rules behind its visibility. -/
def rulesDefinition : Reader Unit := do
  take (.word "macro")
  take .name
  let hasParameters ← sees (.group .round)
  if hasParameters then skip 1
  if ← sees (.group .curly) then skip 1
  else expectSign ((if hasParameters then [] else [.group .round]) ++ [.group .curly])

/-- Read a call of a macro that may define something under a name. -/
def definition : Reader Unit := do
  let _ ← Path.plain
  take (.marks "!")
  if ← sees (.word "try") then skip 1
  else
    let _ ← accept .name
  callContent

/-- Read an item that begins with `extern`. Items of another language have no visibility
together. -/
def external (isVisible : Bool) : Reader Unit := do
  let behind := (← ahead).drop 1
  let isNamed := Sign.string.begins behind
  if (Sign.word "crate").begins behind then crateImport
  else if (Sign.group .curly).begins (if isNamed then behind.drop 1 else behind) then
    if isVisible then throw (.expected false ["`extern`"])
    foreignModule r
  else if isNamed then
    skip 2
    expectSign [.group .curly]
  else
    skip 1
    expectSign [.word "crate", .group .curly, .string]

/-- Read an unsafe item that is no function. -/
def unchecked (isVisible : Bool) : Reader Bool := do
  let behind := (← ahead).drop 1
  let isTrait := (Sign.word "trait").begins behind ||
    (Sign.word "auto").begins behind && (Sign.word "trait").begins (behind.drop 1)
  if isTrait then
    markedTrait r
    return false
  else if (Sign.word "impl").begins behind then implementation r isVisible
  else if (Sign.word "extern").begins behind then
    if isVisible then throw (.expected false ["`extern`"])
    foreignModule r
    return false
  else if (Sign.word "mod").begins behind then
    module r
    return false
  else
    skip 1
    expectSign [.word "trait", .word "auto", .word "impl", .word "extern", .word "mod"]

/-- The signs that an item can begin with, in the order in which they are looked for. -/
def beginnings : List Sign :=
  ["fn", "extern", "use", "static", "const", "unsafe", "mod", "type", "struct", "enum", "union",
    "trait", "auto", "impl", "default", "macro"].map Sign.word

/-- Read an item that declares a type with content of its own. -/
def declared (keyword : String) (behind : Reader Unit) : Reader Unit := do
  take (.word keyword)
  take .name
  let _ ← Bound.parameters r
  behind

/-- Read an item behind its attributes, and tell whether it stays as it stands. -/
def read : Reader Bool := do
  let isVisible ← visibility
  let ts ← ahead
  let begins (w : String) := (Sign.word w).begins ts
  let whole (p : Reader Unit) : Reader Bool := do
    p
    return false
  if Function.beginsSignature false ts then function r
  else if begins "extern" then whole (external r isVisible)
  else if begins "use" then nameImport
  else if begins "static" then static r
  else if begins "const" then
    skip 1
    let c ← constant r
    return c.isGeneric || !c.hasValue
  else if begins "unsafe" then unchecked r isVisible
  else if begins "mod" then whole (module r)
  else if begins "type" then
    let t ← namedType r .beforeType
    return t.hasBounds || !t.hasType
  else if begins "struct" then
    whole (declared r "struct" do let _ ← Field.structContent r)
  else if begins "enum" then whole (declared r "enum" (Field.enumerationContent r))
  else if begins "union" && Sign.name.begins (ts.drop 1) then
    whole (declared r "union" do let _ ← Field.unionContent r)
  else if begins "trait" then whole (trait r)
  else if begins "auto" && (Sign.word "trait").begins (ts.drop 1) then whole (markedTrait r)
  else if begins "impl" || begins "default" && !(Sign.marks "!").begins (ts.drop 1) then
    implementation r isVisible
  else if begins "macro" then
    rulesDefinition
    return true
  else if !isVisible && callBeginnings.any (·.begins ts) then whole definition
  else expectSign (beginnings ++ if isVisible then [] else callBeginnings)

/-- Read an item with its attributes. -/
def readAttributed : Reader Unit := attributed r (read r)

end Sift.Declaration.Item
