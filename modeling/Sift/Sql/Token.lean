import Sift.Dialect

/-!
# Statement text as tokens

A statement is made as a list of tokens and spelled out at the end. Only identifiers and
placeholders are spelled differently by the dialects. Constants are no tokens: a value reaches the
text as the placeholder of its parameter and in no other way. The one literal there is, the escape
character of a pattern, is part of the dialect.
-/
namespace Sift

/-- A piece of statement text. -/
inductive SqlToken where
  | blank
  | word (w : String)
  | mark (m : String)
  | number (n : Nat)
  | literal (s : String)
  | ident (name : String)
  | param (slot : Params.Slot)
deriving DecidableEq

namespace SqlDialect

/-- The text of a token. -/
def tokenText (d : SqlDialect) : SqlToken → String
  | .blank => " "
  | .word w => w
  | .mark m => m
  | .number n => toString n
  | .literal s => "'" ++ s ++ "'"
  | .ident name => d.quote name
  | .param slot => d.placeholder slot

/-- The text of a list of tokens. -/
def spell (d : SqlDialect) : List SqlToken → String
  | [] => ""
  | t :: rest => d.tokenText t ++ d.spell rest

@[simp] theorem spell_nil (d : SqlDialect) : d.spell [] = "" := rfl

@[simp] theorem spell_cons (d : SqlDialect) (t : SqlToken) (ts : List SqlToken) :
    d.spell (t :: ts) = d.tokenText t ++ d.spell ts := rfl

@[simp] theorem spell_append (d : SqlDialect) (ts us : List SqlToken) :
    d.spell (ts ++ us) = d.spell ts ++ d.spell us := by
  induction ts with
  | nil => simp
  | cons t ts ih => simp [ih, String.append_assoc]

end SqlDialect

namespace SqlToken

/-- Words with a blank between them. -/
def words : List String → List SqlToken
  | [] => []
  | [w] => [.word w]
  | w :: next :: rest => .word w :: .blank :: words (next :: rest)

/-- Lists of tokens with a comma and a blank between them. -/
def commaList : List (List SqlToken) → List SqlToken
  | [] => []
  | [ts] => ts
  | ts :: next :: rest => ts ++ .mark "," :: .blank :: commaList (next :: rest)

/-- Tokens in parentheses. -/
def parens (ts : List SqlToken) : List SqlToken := .mark "(" :: (ts ++ [.mark ")"])

@[simp] theorem commaList_nil : commaList [] = [] := rfl

@[simp] theorem commaList_singleton (ts : List SqlToken) : commaList [ts] = ts := rfl

/-- A condition that always holds, or never does. -/
def always (truth : Bool) : List SqlToken :=
  [.number 1, .mark "=", .number (if truth then 1 else 0)]

end SqlToken

namespace SqlDialect

open SqlToken

/-- What follows a pattern where its escape character has to be declared. -/
def escapeClause (d : SqlDialect) : List SqlToken :=
  if d.declaresEscape then [.blank, .word "ESCAPE", .blank, .literal "\\"] else []

/-- The clause that limits a query to `take` rows after the first `skip`; none if neither is set. A
dialect that has no offset without a limit gets the largest limit, or minus one for no limit. -/
def paging? (d : SqlDialect) (skip take : Option UInt64) : Option (List SqlToken) :=
  let limit (n : Nat) : List SqlToken := [.word "LIMIT", .blank, .number n]
  let offset (n : Nat) : List SqlToken := [.word "OFFSET", .blank, .number n]
  match d, skip, take with
  | _, none, none => none
  | sqlServer, skip, take =>
    let start := offset (skip.getD 0).toNat ++ [.blank, .word "ROWS"]
    match take with
    | none => some start
    | some t =>
      some (start ++ .blank :: words ["FETCH", "NEXT"] ++ [.blank, .number t.toNat, .blank] ++
        words ["ROWS", "ONLY"])
  | _, none, some t => some (limit t.toNat)
  | _, some s, some t => some (limit t.toNat ++ .blank :: offset s.toNat)
  | postgres, some s, none => some (offset s.toNat)
  | mySql, some s, none => some (limit (UInt64.size - 1) ++ .blank :: offset s.toNat)
  | sqlite, some s, none =>
    some (.word "LIMIT" :: .blank :: .mark "-" :: .number 1 :: .blank :: offset s.toNat)

@[simp] theorem paging?_none (d : SqlDialect) : d.paging? none none = none := by
  cases d <;> rfl

end SqlDialect

end Sift
