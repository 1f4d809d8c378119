import Sift.Params

/-!
# Statements

A statement is ready to be sent: text with bound parameters for a relational store, or a command for
a document store. The text of a command is its compact JSON, with its members in the order of their
declaration; the optional ones appear only when they are set.
-/
namespace Sift

/-- Statement text and what its placeholders stand for. -/
structure SqlStatement where
  text : String
  params : Params

/-- A command to a document store. -/
inductive Command where
  /-- Read the projected members of the matching documents; `true` in `sort` is ascending. -/
  | find (collection : String) (filter : Json) (projection : List String)
      (sort : List (String × Bool)) (skip limit : Option UInt64)
  | count (collection : String) (filter : Json)
  | update (collection : String) (filter : Json) (assigned : List (String × Json))
  | delete (collection : String) (filter : Json)
  | insert (collection : String) (document : List (String × Json))

/-- A statement for one store or the other. -/
inductive Statement where
  | sql (s : SqlStatement)
  | document (c : Command)

namespace Command

/-- The collection that a command is about. -/
def collection : Command → String
  | find c .. | count c _ | update c .. | delete c _ | insert c _ => c

/-- One key of an order. -/
def sortJson (key : String × Bool) : Json :=
  .object [("field", .string key.1), ("direction", .int (if key.2 then 1 else -1))]

/-- A member for a number that may be absent. -/
def optionalMember (key : String) : Option UInt64 → List (String × Json)
  | none => []
  | some n => [(key, .int n.toNat)]

/-- A command as JSON. -/
def toJson : Command → Json
  | find c filter projection sort skip limit =>
    .object ([("op", .string "find"), ("collection", .string c), ("filter", filter),
      ("projection", .array (projection.map .string)), ("sort", .array (sort.map sortJson))] ++
      optionalMember "skip" skip ++ optionalMember "limit" limit)
  | count c filter =>
    .object [("op", .string "count"), ("collection", .string c), ("filter", filter)]
  | update c filter assigned =>
    .object [("op", .string "update"), ("collection", .string c), ("filter", filter),
      ("set", Json.ofMembers assigned)]
  | delete c filter =>
    .object [("op", .string "delete"), ("collection", .string c), ("filter", filter)]
  | insert c document =>
    .object [("op", .string "insert"), ("collection", .string c),
      ("document", Json.ofMembers document)]

end Command

namespace Statement

/-- The text of a statement. -/
def text : Statement → String
  | sql s => s.text
  | document c => c.toJson.render

/-- The bound parameters; the values of a command are among its members. -/
def params : Statement → Params
  | sql s => s.params
  | document _ => .empty

/-- A statement as JSON. -/
def toJson : Statement → Json
  | sql s => .object [("text", .string s.text), ("params", s.params.toJson)]
  | document c => c.toJson

@[simp] theorem text_sql (s : SqlStatement) : (sql s).text = s.text := rfl

@[simp] theorem params_sql (s : SqlStatement) : (sql s).params = s.params := rfl

@[simp] theorem params_document (c : Command) : (document c).params = .empty := rfl

end Statement

end Sift
