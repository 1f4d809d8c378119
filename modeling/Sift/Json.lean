import Sift.Decimal

/-!
# JSON values and their compact text

A number is an integer or a finite double, and the two are kept apart: `1` and `1.0` are different
values with different texts. The members of an object stand in the order in which they are written.
`Json.ofMembers` makes the object of a free-form mapping: sorted by key, the later of two members of
one key winning; commands with a fixed layout list their members themselves.

Numbers outside what a double can hold have no JSON, so `Json.ofDouble` maps them to `null`.
-/
namespace Sift

/-- A JSON value. -/
inductive Json where
  | null
  | bool (b : Bool)
  | int (n : Int)
  | float (x : Binary64)
  | string (s : String)
  | array (items : List Json)
  | object (members : List (String × Json))
deriving Inhabited

namespace Json

/-- A double as JSON. -/
def ofDouble (x : Binary64) : Json := if x.isFinite then .float x else .null

/-- Put a member into a list sorted by key, in the place of one with the same key. -/
def insertMember (key : String) (value : Json) : List (String × Json) → List (String × Json)
  | [] => [(key, value)]
  | (k, v) :: rest =>
    if key < k then (key, value) :: (k, v) :: rest
    else if key = k then (key, value) :: rest
    else (k, v) :: insertMember key value rest

/-- The object of a mapping, sorted by key. -/
def ofMembers (members : List (String × Json)) : Json :=
  .object (members.foldl (fun sorted (k, v) => insertMember k v sorted) [])

/-- The object with one member. -/
def member (key : String) (value : Json) : Json := .object [(key, value)]

/-- Floats are positional from `0.00001` up to sixteen digits before the point. -/
def floatStyle : DecimalStyle := ⟨-5, 15⟩

/-- Escape one character of a string: the quote, the backslash and the controls of ASCII. -/
def escapeChar (c : Char) : List Char :=
  match c with
  | '"' => ['\\', '"']
  | '\\' => ['\\', '\\']
  | '\x08' => ['\\', 'b']
  | '\t' => ['\\', 't']
  | '\n' => ['\\', 'n']
  | '\x0c' => ['\\', 'f']
  | '\r' => ['\\', 'r']
  | _ =>
    if c.toNat < 0x20 then
      ['\\', 'u', '0', '0', Nat.digitChar (c.toNat / 16), Nat.digitChar (c.toNat % 16)]
    else [c]

/-- A string in quotes. -/
def quote (s : String) : String :=
  String.ofList ('"' :: (s.toList.flatMap escapeChar ++ ['"']))

mutual

/-- The compact text: no blanks, members in their order. -/
def render : Json → String
  | null => "null"
  | bool b => if b then "true" else "false"
  | int n => toString n
  | float x => (floatStyle.writeDouble? x).getD "null"
  | string s => quote s
  | array items => "[" ++ renderItems items ++ "]"
  | object members => "\x7b" ++ renderMembers members ++ "\x7d"

/-- The items of an array with commas between them. -/
def renderItems : List Json → String
  | [] => ""
  | [item] => render item
  | item :: next :: rest => render item ++ "," ++ renderItems (next :: rest)

/-- The members of an object with commas between them. -/
def renderMembers : List (String × Json) → String
  | [] => ""
  | [(k, v)] => quote k ++ ":" ++ render v
  | (k, v) :: next :: rest =>
    quote k ++ ":" ++ render v ++ "," ++ renderMembers (next :: rest)

end

/-- A JSON `null`. -/
def isNull : Json → Bool
  | .null => true
  | _ => false

theorem isNull_iff {j : Json} : j.isNull = true ↔ j = .null := by
  cases j <;> simp [isNull]

@[simp] theorem render_null : render .null = "null" := by simp [render]

@[simp] theorem render_string (s : String) : render (.string s) = quote s := by simp [render]

@[simp] theorem insertMember_nil (key : String) (value : Json) :
    insertMember key value [] = [(key, value)] := rfl

@[simp] theorem ofMembers_nil : ofMembers [] = .object [] := rfl

@[simp] theorem ofMembers_singleton (key : String) (value : Json) :
    ofMembers [(key, value)] = member key value := rfl

@[simp] theorem ofDouble_of_isFinite {x : Binary64} (h : x.isFinite = true) :
    ofDouble x = .float x := by simp [ofDouble, h]

end Json

end Sift
