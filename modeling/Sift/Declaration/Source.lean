import Sift.Declaration.Grammar
import Sift.Declaration.Mapping

/-!
# Declarations from source text

A declaration is given by its parts: the texts of its name, its generic parameters and its
attributes, and the name, type and attributes of each field. `Declaration.ofSource?` writes them as
one text, in one line, and reads that text whole. So a part may reach beyond its place, as long as
the whole text is a declaration: there may be a visibility in front of a name, or conditions behind
generic parameters. The type of a field is kept as its text without blanks.
-/
namespace Sift.Declaration

/-- The texts of a declared field. -/
structure FieldSource where
  name : String
  type : String
  attributes : List String

/-- The text of attributes in front of something. -/
def attributeText (attributes : List String) : String :=
  String.join (attributes.map fun a => "#[" ++ a ++ "] ")

/-- The text of a field; the fields of a tuple have no names. -/
def FieldSource.text (isNamed : Bool) (f : FieldSource) : String :=
  attributeText f.attributes ++ (if isNamed then f.name ++ ": " else "") ++ f.type ++ ", "

/-- The text of a declaration. -/
def sourceText (shape : Shape) (name generics : String) (attributes : List String)
    (fields : List FieldSource) : String :=
  let head (keyword : String) := attributeText attributes ++ keyword ++ " " ++ name ++ generics
  let content (isNamed : Bool) := String.join (fields.map (FieldSource.text isNamed))
  match shape with
  | .named => head "struct" ++ " \x7b " ++ content true ++ "\x7d"
  | .tuple => head "struct" ++ " ( " ++ content false ++ ");"
  | .unit => head "struct" ++ ";"
  | .enumeration => head "enum" ++ " \x7b A, B \x7d"
  | .union => head "union" ++ " \x7b " ++ content true ++ "\x7d"

open Reader

/-- Read a declaration. -/
def declaration (r : Rules) : Reader (Declaration String) := do
  let attributes ← Attribute.outer r
  let _ ← visibility
  if ← accept (.word "struct") then
    let name ← identifier
    let isGeneric ← Bound.parameters r
    let (shape, fs) ← Field.structContent r
    return ⟨shape, name, isGeneric, attributes, fs⟩
  else if ← accept (.word "enum") then
    let name ← identifier
    let isGeneric ← Bound.parameters r
    Field.enumerationContent r
    return ⟨.enumeration, name, isGeneric, attributes, []⟩
  else
    take (.word "union")
    let name ← identifier
    let isGeneric ← Bound.parameters r
    return ⟨.union, name, isGeneric, attributes, ← Field.unionContent r⟩

/-- All fields have names, so that a value can be made of them. -/
def isNamed (d : Declaration String) : Bool := d.fields.all (·.name ≠ "_")

/-- A declaration from its texts. One that could be mapped but for a field without a name is
none. -/
def ofSource? (shape : Shape) (name generics : String) (attributes : List String)
    (fields : List FieldSource) : Option (Declaration String) := do
  let ts ← Token.ofText? (sourceText shape name generics attributes fields)
  let d ← (Grammar.run declaration ts).toOption
  if isNamed d || !d.mapping.isOk then some d else none

end Sift.Declaration
