import Sift.Declaration.Token

/-!
# Signs

What the next tokens are judged by. A sign is a reserved word, any identifier, a mark of one or more
punctuation characters, a group, a lifetime or a literal; the characters of a mark stand without a
blank between them. What follows the last of them does not matter, so that a mark begins with every
shorter one.
-/
namespace Sift.Declaration

/-- What the next tokens can be. -/
inductive Sign where
  | word (w : String)
  /-- An identifier that is not reserved. -/
  | name
  /-- An identifier, reserved or not. -/
  | anyWord
  | marks (s : String)
  | group (b : Bracket)
  | lifetime
  /-- A string. -/
  | string
  /-- A literal, one of the two truth values among them. -/
  | literal
  /-- An integer. -/
  | integer

namespace Sign

/-- The sign in messages. -/
def text : Sign → String
  | word w => "`" ++ w ++ "`"
  | name => "identifier"
  | anyWord => "identifier"
  | marks s => "`" ++ s ++ "`"
  | group .round => "parentheses"
  | group .square => "square brackets"
  | group .curly => "curly braces"
  | lifetime => "lifetime"
  | string => "string literal"
  | literal => "literal"
  | integer => "integer literal"

/-- The tokens begin with these punctuation characters, each but the last joined to the next. -/
def marksBegin : List Char → List Token → Bool
  | [], _ => true
  | [c], .mark d _ :: _ => c = d
  | c :: cs, .mark d true :: rest => c = d && marksBegin cs rest
  | _, _ => false

/-- A number. -/
def isNumber : Literal → Bool
  | .integer .. | .decimal => true
  | _ => false

/-- The tokens begin with the sign. -/
def begins : Sign → List Token → Bool
  | word w, .word v :: _ => v = w
  | name, .word v :: _ => v ∉ Token.reserved
  | anyWord, .word _ :: _ => true
  | marks s, ts => marksBegin s.toList ts
  | group b, .group c _ :: _ => c = b
  | lifetime, .lifetime _ :: _ => true
  | string, .literal _ (.text _) :: _ => true
  | literal, .literal .. :: _ => true
  | literal, .word v :: _ => v = "true" || v = "false"
  | literal, .mark '-' _ :: .literal _ v :: _ => isNumber v
  | integer, .literal _ (.integer ..) :: _ => true
  | integer, .mark '-' _ :: .literal _ (.integer ..) :: _ => true
  | _, _ => false

/-- How many tokens the sign takes at the front of tokens that begin with it. -/
def width : Sign → List Token → Nat
  | marks s, _ => s.length
  | literal, .mark .. :: _ => 2
  | integer, .mark .. :: _ => 2
  | _, _ => 1

end Sign

end Sift.Declaration
