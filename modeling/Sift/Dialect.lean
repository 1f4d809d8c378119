import Sift.Params

/-!
# Dialects

A statement is made for one of five stores: four relational ones, which differ in a few points of
spelling, and a document store, whose commands are JSON. This module holds what the relational
dialects do not share: quotes around identifiers, placeholders, the escaping of patterns and the
limits of their paging clause.
-/
namespace Sift

/-- The relational dialects. -/
inductive SqlDialect where
  | postgres
  | mySql
  | sqlite
  | sqlServer
deriving DecidableEq

/-- The stores that statements are made for. -/
inductive Dialect where
  | sql (d : SqlDialect)
  | document
deriving DecidableEq

namespace SqlDialect

/-- The quotes that open and close an identifier. -/
def quotes : SqlDialect → Char × Char
  | postgres | sqlite => ('"', '"')
  | mySql => ('\x60', '\x60')
  | sqlServer => ('[', ']')

/-- The inside of a quoted identifier: the closing quote is written twice. -/
def quoteBody (close : Char) (cs : List Char) : List Char :=
  cs.flatMap fun c => if c = close then [close, close] else [c]

/-- An identifier in quotes. -/
def quote (d : SqlDialect) (name : String) : String :=
  let (openQuote, closeQuote) := d.quotes
  String.ofList (openQuote :: (quoteBody closeQuote name.toList ++ [closeQuote]))

/-- The placeholder of a parameter. -/
def placeholder (d : SqlDialect) (slot : Params.Slot) : String :=
  match d with
  | postgres => "$" ++ toString slot.position
  | mySql => "?"
  | sqlite => ":" ++ slot.name
  | sqlServer => "@" ++ slot.name

/-- One character of a pattern that matches itself. Where the backslash escapes, it escapes itself
and the two wildcards; elsewhere a character class of one character does. -/
def escapeLikeChar (d : SqlDialect) (c : Char) : List Char :=
  match d with
  | postgres | mySql | sqlite => if c = '\\' ∨ c = '%' ∨ c = '_' then ['\\', c] else [c]
  | sqlServer => if c = '[' ∨ c = '%' ∨ c = '_' then ['[', c, ']'] else [c]

/-- The pattern that matches a text literally. -/
def escapeLike (d : SqlDialect) (text : String) : String :=
  String.ofList (text.toList.flatMap d.escapeLikeChar)

/-- A pattern has to be followed by a clause that declares its escape character. -/
def declaresEscape : SqlDialect → Bool
  | postgres | sqlite => true
  | mySql | sqlServer => false

/-- The paging clause is allowed only after an order. -/
def pagingRequiresOrder : SqlDialect → Bool
  | sqlServer => true
  | _ => false

/-- The paging clause cannot ask for no rows at all. -/
def rejectsZeroFetch : SqlDialect → Bool
  | sqlServer => true
  | _ => false

@[simp] theorem quoteBody_nil (close : Char) : quoteBody close [] = [] := rfl

@[simp] theorem quoteBody_cons (close c : Char) (cs : List Char) :
    quoteBody close (c :: cs) = (if c = close then [close, close] else [c]) ++ quoteBody close cs := by
  simp [quoteBody]

@[simp] theorem quoteBody_append (close : Char) (cs ds : List Char) :
    quoteBody close (cs ++ ds) = quoteBody close cs ++ quoteBody close ds := by
  simp [quoteBody]

end SqlDialect

namespace Dialect

/-- The dialects in the order of their index. -/
def all : List Dialect :=
  [.sql .postgres, .sql .mySql, .sql .sqlite, .sql .sqlServer, .document]

/-- The place of a dialect among all. -/
def index : Dialect → Nat
  | sql .postgres => 0
  | sql .mySql => 1
  | sql .sqlite => 2
  | sql .sqlServer => 3
  | document => 4

/-- The name of a dialect. -/
def name : Dialect → String
  | sql .postgres => "Postgres"
  | sql .mySql => "MySql"
  | sql .sqlite => "Sqlite"
  | sql .sqlServer => "SqlServer"
  | document => "Document"

/-- The dialect of a name. -/
def ofName? (s : String) : Option Dialect := all.find? fun d => d.name = s

/-- A table or column name as it stands in a statement; document keys need no quotes. -/
def quote : Dialect → String → String
  | sql d, name => d.quote name
  | document, name => name

theorem getElem?_index (d : Dialect) : all[d.index]? = some d := by
  cases d with
  | sql d => cases d <;> rfl
  | document => rfl

@[simp] theorem index_lt (d : Dialect) : d.index < all.length :=
  (List.getElem?_eq_some_iff.1 d.getElem?_index).1

theorem exists_index_eq {k : Nat} (h : k < all.length) : ∃ d : Dialect, d.index = k := by
  have hall : ∀ k < all.length, ∃ d ∈ all, d.index = k := by decide
  obtain ⟨d, -, hd⟩ := hall k h
  exact ⟨d, hd⟩

theorem index_inj {d d' : Dialect} : d.index = d'.index ↔ d = d' := by
  constructor
  · intro h
    have hsome : some d = some d' := by rw [← getElem?_index, ← getElem?_index, h]
    exact Option.some.inj hsome
  · intro h
    rw [h]

@[simp] theorem ofName?_name (d : Dialect) : ofName? d.name = some d := by
  cases d with
  | sql d => cases d <;> decide
  | document => decide

end Dialect

end Sift
