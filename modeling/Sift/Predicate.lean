import Sift.Text.Quoted
import Sift.Value

/-!
# Predicates

A predicate is a Boolean tree over the fields of an entity. It is plain data: what it compares may
be null, may be of the wrong type, may name a field that does not exist. Whether it has a meaning
for a table is found out when it is lowered to a `Condition`.
-/
namespace Sift

/-- The comparison operators. -/
inductive Comparator where
  | eq
  | ne
  | gt
  | ge
  | lt
  | le
deriving DecidableEq

namespace Comparator

/-- The operator with its operands exchanged. -/
def flip : Comparator → Comparator
  | eq => eq
  | ne => ne
  | gt => lt
  | ge => le
  | lt => gt
  | le => ge

/-- The operator in messages. -/
def symbol : Comparator → String
  | eq => "=="
  | ne => "!="
  | gt => ">"
  | ge => ">="
  | lt => "<"
  | le => "<="

/-- The operator tests equality, one way or the other. -/
def isEquality : Comparator → Bool
  | eq | ne => true
  | _ => false

@[simp] theorem flip_flip (c : Comparator) : c.flip.flip = c := by cases c <;> rfl

end Comparator

/-- The ways to join two predicates. -/
inductive Connective where
  | and
  | or
deriving DecidableEq

/-- The ways in which a text can match a pattern. -/
inductive TextTest where
  | contains
  | startsWith
  | endsWith
deriving DecidableEq

/-- The test in messages. -/
def TextTest.name : TextTest → String
  | contains => "contains"
  | startsWith => "starts_with"
  | endsWith => "ends_with"

/-- One side of a comparison. -/
inductive Operand where
  | field (name : String)
  | constant (value : Value)

/-- A Boolean tree over fields. -/
inductive Predicate where
  /-- `left op right`; it has a meaning if one side is a field and the other a constant. -/
  | comparison (op : Comparator) (left right : Operand)
  /-- Both, or at least one, of two predicates. -/
  | logical (op : Connective) (left right : Predicate)
  /-- The field's text contains the pattern, or starts or ends with it. -/
  | textMatch (field : String) (pattern : Value) (test : TextTest) (negated : Bool)
  /-- The field is one of the values, null among them or not. -/
  | membership (field : String) (values : List Value) (negated : Bool)

/-- The field that an operand names. -/
def Operand.fields : Operand → List String
  | field name => [name]
  | constant _ => []

/-- An operand in messages. -/
def Operand.text : Operand → String
  | field name => name
  | constant .null => "null"
  | constant (.text s) => Text.quoted s
  | constant v => v.toJson.render

namespace Predicate

/-- A field against a constant. -/
def compare (op : Comparator) (field : String) (value : Value) : Predicate :=
  .comparison op (.field field) (.constant value)

/-- The field is null. -/
def isNull (field : String) : Predicate := compare .eq field .null

/-- The field is not null. -/
def isNotNull (field : String) : Predicate := compare .ne field .null

/-- Both predicates. -/
def and (p q : Predicate) : Predicate := .logical .and p q

/-- At least one of the predicates. -/
def or (p q : Predicate) : Predicate := .logical .or p q

/-- All of the predicates, joined from the left; nothing for no predicates. -/
def all? : List Predicate → Option Predicate
  | [] => none
  | p :: rest => some (rest.foldl and p)

/-- The names of fields anywhere in the tree, in reading order, repetitions included. -/
def fields : Predicate → List String
  | comparison _ left right => left.fields ++ right.fields
  | logical _ left right => left.fields ++ right.fields
  | textMatch field .. => [field]
  | membership field .. => [field]

/-- The predicate in messages. -/
def text : Predicate → String
  | comparison op left right => left.text ++ " " ++ op.symbol ++ " " ++ right.text
  | logical op left right =>
    let joint := match op with
      | .and => "&&"
      | .or => "||"
    "(" ++ left.text ++ ") " ++ joint ++ " (" ++ right.text ++ ")"
  | textMatch field pattern test negated =>
    (if negated then "!" else "") ++ field ++ "." ++ test.name ++ "(" ++
      (Operand.constant pattern).text ++ ")"
  | membership field values negated =>
    let listed := ", ".intercalate (values.map fun v => (Operand.constant v).text)
    field ++ (if negated then " not in [" else " in [") ++ listed ++ "]"

@[simp] theorem all?_nil : all? [] = none := rfl

@[simp] theorem all?_singleton (p : Predicate) : all? [p] = some p := rfl

@[simp] theorem fields_and (p q : Predicate) : (and p q).fields = p.fields ++ q.fields := rfl

@[simp] theorem fields_or (p q : Predicate) : (or p q).fields = p.fields ++ q.fields := rfl

@[simp] theorem fields_compare (op : Comparator) (f : String) (v : Value) :
    (compare op f v).fields = [f] := rfl

end Predicate

end Sift
