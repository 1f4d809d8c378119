import Sift.Declaration.Field

/-!
# Functions

What stands in front of a function's body: the words in front of its name, its generic parameters,
its arguments, its result and its conditions. A method has a receiver as its first argument. The
arguments of a function of another language may end with three points.
-/
namespace Sift.Declaration.Function

open Reader

variable (r : Rules)

/-- The tokens behind a word, if they begin with it. -/
def behindWord (w : String) (ts : List Token) : List Token :=
  if (Sign.word w).begins ts then ts.drop 1 else ts

/-- A function begins here, perhaps with words in front of its name. One that may be marked as safe
cannot be unsafe. -/
def beginsSignature (safe : Bool) (ts : List Token) : Bool :=
  let ts := behindWord "async" (behindWord "const" ts)
  let ts := if safe && (Sign.word "safe").begins ts then ts.drop 1 else behindWord "unsafe" ts
  let ts :=
    if (Sign.word "extern").begins ts then
      let behind := ts.drop 1
      if Sign.string.begins behind then behind.drop 1 else behind
    else ts
  (Sign.word "fn").begins ts

/-- An argument of a function. -/
inductive Argument where
  | receiver
  | typed
  /-- Any number of further arguments. -/
  | rest
deriving DecidableEq

/-- Read a receiver. -/
def receiver : Reader Unit := do
  let isReference ← accept (.marks "&")
  if isReference then
    let _ ← accept .lifetime
  let _ ← accept (.word "mut")
  take (.word "self")
  if ← acceptIf (!isReference) (.marks ":") then
    let _ ← r.type true

/-- Read an argument behind its attributes. One without a name, in front of a type with arguments of
its own, is given a low line for it. -/
def argument : Reader Argument := do
  match ← foresee (receiver r) with
  | some (_, after) =>
    set after
    return .receiver
  | none =>
    if (← sees .name) && (← seesSecond (.marks "<")) then
      emit (.word "_" :: Token.marks ":")
      let _ ← r.type true
      return .typed
    let _ ← r.pattern
    take (.marks ":")
    if ← accept (.marks "...") then return .rest
    let _ ← r.type true
    return .typed

/-- Read arguments; `isFirst` if none has been read, `hasReceiver` if a receiver has. -/
def arguments (isFirst hasReceiver : Bool) : Nat → Reader Unit
  | 0 => return ()
  | n + 1 => do
    if ← atEnd then return ()
    let _ ← Attribute.outer r
    let a ← if ← accept (.marks "...") then pure Argument.rest else argument r
    if a = .receiver && hasReceiver then throw .secondReceiver
    if a = .receiver && !isFirst then throw .lateReceiver
    if ← atEnd then return ()
    take (.marks ",")
    if a = .rest then return ()
    arguments false (hasReceiver || a = .receiver) n

/-- Read all in front of a function's body, and tell whether it is marked as safe. -/
def signature (safe : Bool) : Reader Bool := do
  for w in ["const", "async"] do
    let _ ← accept (.word w)
  let isUnsafe ← accept (.word "unsafe")
  let isSafe ← acceptIf (safe && !isUnsafe) (.word "safe")
  Type.convention
  take (.word "fn")
  take .name
  let _ ← Bound.parameters r
  within .round (do arguments r true false ((← ahead).length + 1))
  let _ ← Bound.result r true
  let _ ← Bound.conditions r
  return isSafe

end Sift.Declaration.Function
