import Sift.Declaration.Pattern

/-!
# Fields

What a declared type holds: fields with or without names, and the variants of an enumeration. Each
field may have attributes and a visibility.
-/
namespace Sift.Declaration

/-- What is declared. -/
inductive Shape where
  /-- A struct with named fields. -/
  | named
  | tuple
  | unit
  | enumeration
  | union
deriving DecidableEq

/-- A declared field. -/
structure DeclaredField (τ : Type) where
  name : String
  type : τ
  attributes : List Attribute

open Reader

/-- Read the visibility of something, and tell whether it has one. Only some words in round brackets
belong to it; others begin the type of an unnamed field. -/
def visibility : Reader Bool := do
  if ← accept (.word "pub") then
    match ← ahead with
    | .group .round [.word w] :: _ => if w ∈ ["crate", "self", "super"] then skip 1
    | .group .round (.word "in" :: _) :: _ =>
      within .round do
        take (.word "in")
        let _ ← Path.plain
    | _ => pure ()
    return true
  else return false

/-- Read an identifier. -/
def identifier : Reader String := do
  match ← ahead with
  | .word w :: _ =>
    take .name
    return w
  | _ => expect ["identifier"]

namespace Field

variable (r : Rules)

/-- Read a type, and answer with its text. -/
def typeText : Reader String := do
  let (_, tokens) ← captured (r.type true)
  emit tokens
  return Token.compact tokens

/-- Read a field without a name. -/
def unnamed : Reader (DeclaredField String) := do
  let attributes ← Attribute.outer r
  let _ ← visibility
  return ⟨"", ← typeText r, attributes⟩

/-- Read the fields that a field without a name has of its own. They stay as they stand. -/
def anonymous (named : Reader (DeclaredField String)) : Reader Unit :=
  verbatimWhen (fun _ => true) do
    skip 1
    let _ ← within .curly (list named)

/-- Read a field with a name. A low line stands for the name of a field that has fields of its own;
these nest as deep as `levels`. -/
def named : Nat → Reader (DeclaredField String)
  | 0 => throw .tooDeep
  | levels + 1 => do
    let attributes ← Attribute.outer r
    let _ ← visibility
    if ← accept (.word "_") then
      take (.marks ":")
      let isUnion := (← sees (.word "union")) && (← seesSecond (.group .curly))
      if (← sees (.word "struct")) || isUnion then
        anonymous (named levels)
        return ⟨"_", "", attributes⟩
      return ⟨"_", ← typeText r, attributes⟩
    else
      let name ← identifier
      take (.marks ":")
      return ⟨name, ← typeText r, attributes⟩

/-- Read fields with names in curly brackets. -/
def namedList : Reader (List (DeclaredField String)) := do
  within .curly (list (named r (Token.sizeOf (← ahead) + 1)))

/-- Read fields without names in round brackets. -/
def unnamedList : Reader (List (DeclaredField String)) := within .round (list (unnamed r))

/-- Read a variant of an enumeration. Its visibility is not written. -/
def variant : Reader Unit := do
  let _ ← Attribute.outer r
  let _ ← unwritten visibility
  let _ ← identifier
  if ← sees (.group .curly) then
    let _ ← namedList r
  else if ← sees (.group .round) then
    let _ ← unnamedList r
  if ← accept (.marks "=") then r.value

/-- Read what a struct holds, behind its generic parameters. The conditions of a tuple stand behind
its fields. -/
def structContent : Reader (Shape × List (DeclaredField String)) := do
  let isConditional ← Bound.conditions r
  if !isConditional && (← sees (.group .round)) then
    let fs ← unnamedList r
    let signs := if ← Bound.conditions r then [Sign.marks ";"] else [.word "where", .marks ";"]
    if ← accept (.marks ";") then return (.tuple, fs)
    expectSign signs
  else if ← sees (.group .curly) then return (.named, ← namedList r)
  else if ← accept (.marks ";") then return (.unit, [])
  else
    expectSign ((if isConditional then [] else [.word "where", .group .round]) ++
      [.group .curly, .marks ";"])

/-- Read what an enumeration holds, behind its generic parameters. -/
def enumerationContent : Reader Unit := do
  let _ ← Bound.conditions r
  within .curly (items (variant r))

/-- Read what a union holds, behind its generic parameters. -/
def unionContent : Reader (List (DeclaredField String)) := do
  let _ ← Bound.conditions r
  namedList r

end Field

end Sift.Declaration
