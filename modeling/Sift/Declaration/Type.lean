import Sift.Declaration.Bound

/-!
# Types

Types as they stand in a declaration: paths, references and pointers, tuples, arrays and slices,
function pointers, object types and opaque types. Plus signs join bounds only where nothing binds
tighter in front.
-/
namespace Sift.Declaration.Type

open Reader

variable (r : Rules)

/-- Read a path that may begin with a type in angle brackets, and tell whether it does. -/
def qualified (inExpression : Bool) : Reader (Bool × Path) := do
  if ← accept (.marks "<") then
    let _ ← r.type true
    if ← accept (.word "as") then
      let _ ← Path.read r false
    take (.marks ">")
    take (.marks "::")
    return (true, ⟨true, ← Path.separated r inExpression (← ahead).length⟩)
  else return (false, ← Path.read r inExpression)

/-- Read further bounds behind plus signs, the last one before them being open or not. -/
def moreBounds : Nat → Bool → Reader Bool
  | 0, isOpen => return isOpen
  | n + 1, isOpen => do
    if ← accept (.marks "+") then
      let b ← r.bound false false
      moreBounds n b.isOpen
    else return isOpen

/-- Read bounds behind a plus sign, and tell whether the type is open. -/
def furtherBounds : Reader Bool := do moreBounds r ((← ahead).length + 1) false

/-- Read the elements of a tuple behind its first one and a comma. -/
def tuple : Reader Unit := items (r.type true)

/-- What a group in round brackets holds. -/
inductive Enclosed where
  | whole
  /-- A trait that may be missing. -/
  | optional (isOpen : Bool)
  | single (form : TypeForm)
deriving DecidableEq

/-- Read what stands in round brackets. -/
def enclosed : Reader Enclosed := do
  if ← atEnd then return .whole
  if ← sees .lifetime then
    let bounds ← Bound.several r true false false
    if !bounds.any BoundForm.isTrait then throw (.traitMissing true)
    return .whole
  if ← sees (.marks "?") then
    let b ← Bound.traitBound r false
    return .optional b.isOpen
  let first ← r.type true
  if ← accept (.marks ",") then
    tuple r
    return .whole
  return .single first

/-- Read a type that begins with a group in round brackets. In front of a plus sign the brackets are
those of a bound, which has no others. -/
def group (plus : Bool) : Reader TypeForm := do
  let (content, tokens) ← captured (within .round (enclosed r))
  let isJoined ← sees (.marks "+")
  match content with
  | .whole =>
    emit tokens
    return .closed
  | .optional isOpen =>
    emit tokens
    if isJoined then return ⟨.bounds false, ← furtherBounds r⟩
    else return ⟨.enclosedBound, isOpen⟩
  | .single form =>
    let isBound := match form.kind with
      | .path _ | .enclosedBound => true
      | .bounds isSingle => isSingle
      | .other => false
    if plus && isBound && isJoined then
      match form.kind, tokens with
      | .enclosedBound, [.group _ inner] => emit inner
      | _, _ => emit tokens
      return ⟨.bounds false, ← furtherBounds r⟩
    else
      emit tokens
      return .closed

/-- Read the calling convention of a function, if one stands here. -/
def convention : Reader Unit := do
  if ← accept (.word "extern") then
    let _ ← accept .string

/-- Read a parameter of a function pointer behind its attributes. Tell whether it is a changeable
receiver, which stays as it stands. -/
def functionParameter (first : Bool) : Reader Bool := do
  let isChangeable := first && (← sees (.word "mut")) && (← seesSecond (.word "self"))
  if isChangeable then skip 1
  let isSelf := first && (← sees (.word "self"))
  let behind := (← ahead).drop 1
  let hasName := ((← seesAny [.name, .word "_"]) || isSelf) && (Sign.marks ":").begins behind &&
    !(Sign.marks "::").begins behind
  if hasName then skip 2
  if first && !(hasName && isSelf) && (← sees (.word "mut")) && (← seesSecond (.word "self")) then
    skip 2
    return true
  else if isChangeable && !hasName then
    take (.word "self")
    return true
  else
    let _ ← r.type true
    return isChangeable

/-- Read the parameters of a function pointer. The last may stand for any number of them. -/
def functionParameters (first : Bool) : Nat → Reader Unit
  | 0 => return ()
  | n + 1 => do
    if ← atEnd then return ()
    let _ ← Attribute.outer r
    let isNamed := (← seesAny [.name, .word "_"]) && (← seesSecond (.marks ":"))
    if (← sees (.marks "...")) || isNamed && (← seesThird (.marks "...")) then
      if isNamed then skip 2
      take (.marks "...")
      let _ ← accept (.marks ",")
      return ()
    let _ ← verbatimWhen id (functionParameter r first)
    if ← atEnd then return ()
    take (.marks ",")
    functionParameters false n

/-- Read a function pointer behind the lifetimes that it binds, and tell whether it is open. -/
def functionPointer : Reader Bool := do
  let _ ← accept (.word "unsafe")
  convention
  take (.word "fn")
  within .round (do functionParameters r true ((← ahead).length + 1))
  Bound.result r false

/-- Read bounds of which one must be a trait, and tell whether the last is open. -/
def traits (isObject plus : Bool) : Reader Bool := do
  let bounds ← Bound.several r plus (!isObject) (!isObject)
  if !bounds.any BoundForm.isTrait then throw (.traitMissing isObject)
  return bounds.getLast?.any BoundForm.isOpen

/-- Read a type that begins with a path, and bounds behind it. A call of a macro binds no
lifetimes. -/
def path (binder : List Token) (plus : Bool) : Reader TypeForm := do
  let ((isQualified, p), tokens) ← captured (qualified r false)
  if !isQualified && p.isPlain && (← seesOnly "!" ["!="]) then
    emit tokens
    skip 1
    let _ ← anyGroup
    return .closed
  emit (binder ++ tokens)
  if isQualified then return ⟨.other, p.endsPlain⟩
  if ← acceptIf plus (.marks "+") then
    if ← seesAny [.anyWord, .marks "::", .marks "?", .lifetime, .group .round] then
      let bounds ← Bound.several r true false false
      return ⟨.bounds false, bounds.getLast?.any BoundForm.isOpen⟩
    return ⟨.bounds false, p.endsPlain⟩
  if !binder.isEmpty then return ⟨.bounds true, p.endsPlain⟩
  return ⟨.path (!p.isGlobal && p.segments.length = 1), p.endsPlain⟩

/-- Read a type that only a compiler makes. -/
def builtin : Reader Unit := do
  skip 2
  take .name
  within .round (do skip (← ahead).length)

/-- The signs that a type can begin with, in the order in which they are looked for. -/
def beginnings : List Sign := [
  .word "for", .group .round, .word "fn", .word "unsafe", .word "extern", .name, .marks "::",
  .marks "<", .word "dyn", .group .square, .marks "*", .marks "&", .marks "!", .word "impl",
  .word "_", .lifetime]

/-- The signs that can follow bound lifetimes. -/
def bindable : List Sign := [
  .name, .word "fn", .word "unsafe", .word "extern", .word "super", .word "self", .word "Self",
  .word "crate"]

/-- Read a type. -/
def read (plus : Bool) : Reader TypeForm := do
  let start ← ahead
  let (binds, binder) ← captured (Bound.binder r)
  if binds && !(← seesAny bindable) then expectSign bindable
  if ← sees (.group .round) then group r plus
  else if ← seesAny [.word "fn", .word "unsafe", .word "extern"] then
    emit binder
    return ⟨.other, ← functionPointer r⟩
  else if (← sees (.word "builtin")) && (← seesSecond (.marks "#")) then
    unwritten builtin
    emit (← passed start)
    return .closed
  else if ← seesAny ([.name, .marks "::", .marks "<"] ++ Path.beginnings) then path r binder plus
  else if ← sees (.word "dyn") then
    let (isOpen, _) ← verbatimWhen Prod.snd do
      take (.word "dyn")
      let isThin ← accept (.marks "*")
      let isOpen ← traits r true plus
      return (isOpen && !isThin, isThin)
    return ⟨.other, isOpen⟩
  else if ← sees (.group .square) then
    within .square do
      let _ ← r.type true
      if ← accept (.marks ";") then r.value
    return .closed
  else if ← accept (.marks "*") then
    if ← seesAny [.word "const", .word "mut"] then skip 1
    else expectSign [.word "const", .word "mut"]
    return ⟨.other, (← r.type false).isOpen⟩
  else if ← accept (.marks "&") then
    let _ ← accept .lifetime
    let _ ← accept (.word "mut")
    return ⟨.other, (← r.type false).isOpen⟩
  else if ← accept (.marks "!") then return .closed
  else if ← accept (.word "impl") then return ⟨.other, ← traits r false plus⟩
  else if ← accept (.word "_") then return .closed
  else if ← sees .lifetime then
    let bounds ← Bound.several r true false false
    if !bounds.any BoundForm.isTrait then throw (.traitMissing true)
    return ⟨.bounds (bounds.length = 1), bounds.getLast?.any BoundForm.isOpen⟩
  else expectSign beginnings

end Sift.Declaration.Type
