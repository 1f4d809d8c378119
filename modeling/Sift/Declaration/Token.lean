import Sift.Declaration.Literal
import Sift.Text.Blank
import Sift.Text.Quoted

/-!
# Tokens of source text

A text as a tree of tokens: words, punctuation marks, lifetimes, literals, and groups in brackets.
Blanks and comments only separate tokens, but a documentation comment stands for an attribute and is
read as the tokens of one. `Token.ofText?` takes only texts in which brackets are balanced.
-/
namespace Sift.Declaration

/-- A kind of bracket. -/
inductive Bracket where
  | round
  | square
  | curly
deriving DecidableEq

namespace Bracket

/-- The opening bracket. -/
def opening : Bracket → Char
  | round => '('
  | square => '['
  | curly => '\x7b'

/-- The closing bracket. -/
def closing : Bracket → Char
  | round => ')'
  | square => ']'
  | curly => '\x7d'

/-- All kinds. -/
def all : List Bracket := [round, square, curly]

end Bracket

/-- A token. -/
inductive Token where
  /-- An identifier or keyword; a raw one keeps its mark. -/
  | word (text : String)
  /-- A punctuation character, and whether another follows at once. -/
  | mark (c : Char) (joint : Bool)
  | lifetime (name : String)
  | literal (source : String) (value : Literal)
  | group (b : Bracket) (content : List Token)

namespace Token

/-- Words that are no identifiers unless they are raw. -/
def reserved : List String := [
  "_", "abstract", "as", "async", "await", "become", "box", "break", "const", "continue", "crate",
  "do", "dyn", "else", "enum", "extern", "false", "final", "fn", "for", "if", "impl", "in", "let",
  "loop", "macro", "match", "mod", "move", "mut", "override", "priv", "pub", "ref", "return",
  "Self", "self", "static", "struct", "super", "trait", "true", "try", "type", "typeof", "unsafe",
  "unsized", "use", "virtual", "where", "while", "yield"]

/-- Reserved words that cannot be made raw. -/
def neverRaw : List String := ["_", "self", "Self", "super", "crate"]

mutual

/-- The characters of a token, without blanks between its parts. -/
def chars : Token → List Char
  | .word w => w.toList
  | .mark c _ => [c]
  | .lifetime name => '\'' :: name.toList
  | .literal source _ => source.toList
  | .group b content => b.opening :: charsOf content ++ [b.closing]

/-- The characters of tokens, without blanks between them. -/
def charsOf : List Token → List Char
  | [] => []
  | t :: ts => t.chars ++ charsOf ts

/-- The number of tokens in a token, itself included. -/
def size : Token → Nat
  | .group _ content => sizeOf content + 1
  | _ => 1

/-- The number of tokens in a list, at every depth. -/
def sizeOf : List Token → Nat
  | [] => 0
  | t :: ts => t.size + sizeOf ts

end

/-- The tokens of punctuation characters that stand without blanks between them. -/
def marks (s : String) : List Token :=
  let cs := s.toList
  cs.dropLast.map (.mark · true) ++ (cs.getLast?.map (.mark · false)).toList

/-- Tokens in round brackets. -/
def enclosed (ts : List Token) : List Token := [.group .round ts]

/-- The text of tokens without any blanks. -/
def compact (ts : List Token) : String :=
  String.ofList ((charsOf ts).filter fun c => !Text.isBlank c)

@[simp] theorem charsOf_nil : charsOf [] = [] := by simp [charsOf]

@[simp] theorem charsOf_append (ts us : List Token) :
    charsOf (ts ++ us) = charsOf ts ++ charsOf us := by
  induction ts with
  | nil => simp [charsOf]
  | cons t ts ih => simp [charsOf, ih]

end Token

/-- A part of a text: a token, or a bracket that opens or closes a group. -/
inductive Piece where
  | token (t : Token)
  | opening (b : Bracket)
  | closing (b : Bracket)

namespace Piece

/-- Blanks of source text: white space and the two direction marks. -/
def isSpace (c : Char) : Bool := Text.isBlank c || c.toNat = 0x200E || c.toNat = 0x200F

/-- The characters of punctuation. -/
def isMark (c : Char) : Bool := c ∈ "~!@#$%^&*-=+|;:,<.>/?'".toList

/-- A mark that starts no comment. -/
def startsMark (cs : List Char) : Bool :=
  match cs with
  | '/' :: '/' :: _ => false
  | '/' :: '*' :: _ => false
  | c :: _ => isMark c
  | [] => false

/-- A line, and the rest from its end on. -/
def line : List Char → List Char × List Char
  | [] => ([], [])
  | c :: rest =>
    if c = '\n' then ([], c :: rest)
    else if c = '\r' ∧ rest.head? = some '\n' then ([], rest)
    else (c :: (line rest).1, (line rest).2)

/-- The content of a block comment, `depth` comments deep, and the rest behind it. -/
def block? : Nat → List Char → Option (List Char × List Char)
  | depth, '*' :: '/' :: rest =>
    if depth = 0 then some ([], rest)
    else (block? (depth - 1) rest).map fun (body, rest) => ('*' :: '/' :: body, rest)
  | depth, '/' :: '*' :: rest =>
    (block? (depth + 1) rest).map fun (body, rest) => ('/' :: '*' :: body, rest)
  | depth, c :: rest => (block? depth rest).map fun (body, rest) => (c :: body, rest)
  | _, [] => none

/-- Every carriage return has its line feed. -/
def returnsPaired : List Char → Bool
  | [] => true
  | c :: rest => (c ≠ '\r' || rest.head? = some '\n') && returnsPaired rest

/-- The content of a string literal that stands for a text. A zero that an octal digit follows is
written with two digits, so that the digit is no part of its escape. -/
def literalContent : List Char → List Char
  | [] => []
  | c :: rest =>
    let isSplit := c = '\x00' && rest.head?.any fun d => '0' ≤ d && d ≤ '7'
    (if isSplit then "\\x00".toList else Text.quotedChar c) ++ literalContent rest

/-- The attribute that a documentation comment stands for; an inner one belongs to what encloses
it. -/
def documentation (inner : Bool) (body rest : List Char) : Option (List Piece × List Char) :=
  let source := String.ofList ('"' :: literalContent body ++ ['"'])
  let content :=
    [Token.word "doc", .mark '=' false, .literal source (.text (String.ofList body))]
  if returnsPaired body then
    some ((.token (.mark '#' false) :: if inner then [.token (.mark '!' false)] else []) ++
      [.token (.group .square content)], rest)
  else none

/-- A comment, whose first characters are known. -/
def comment? : List Char → Option (List Piece × List Char)
  | '/' :: '/' :: '!' :: rest => documentation true (line rest).1 (line rest).2
  | '/' :: '/' :: '/' :: '/' :: rest => some ([], (line rest).2)
  | '/' :: '/' :: '/' :: rest => documentation false (line rest).1 (line rest).2
  | '/' :: '/' :: rest => some ([], (line rest).2)
  | '/' :: '*' :: '!' :: rest =>
    (block? 0 rest).bind fun (body, rest) => documentation true body rest
  | '/' :: '*' :: '*' :: '/' :: rest => some ([], rest)
  | '/' :: '*' :: '*' :: '*' :: rest =>
    (block? 0 ('*' :: '*' :: rest)).map fun (_, rest) => ([], rest)
  | '/' :: '*' :: '*' :: rest =>
    (block? 0 rest).bind fun (body, rest) => documentation false body rest
  | '/' :: '*' :: rest => (block? 0 rest).map fun (_, rest) => ([], rest)
  | _ => none

/-- A word, raw or not, and the rest behind it. -/
def word? (cs : List Char) : Option (String × List Char) :=
  let plain (cs : List Char) : Option (String × List Char) :=
    if cs.head?.any Text.isIdentStart then
      some (String.ofList (cs.takeWhile Text.isIdentContinue), cs.dropWhile Text.isIdentContinue)
    else none
  match cs with
  | 'r' :: '#' :: rest =>
    (plain rest).bind fun (w, rest) => if w ∈ Token.neverRaw then none else some ("r#" ++ w, rest)
  | _ => plain cs

/-- A lifetime whose quote has been read. No quote may follow it, and no number sign unless it is
raw. -/
def lifetime? (cs : List Char) : Option (String × List Char) :=
  (word? cs).bind fun (name, rest) =>
    if rest.head? = some '\'' ∨ (rest.head? = some '#' ∧ cs.take 2 ≠ ['r', '#']) then none
    else some (name, rest)

/-- These letters with what follows them announce a literal and start no word. -/
def announcesLiteral (cs : List Char) : Bool :=
  ["r\"", "r#\"", "r##", "b\"", "b'", "br\"", "br#", "c\"", "cr\"", "cr#"].any fun s =>
    s.toList.isPrefixOf cs

/-- A token that is no group. -/
def leaf? (cs : List Char) : Option (Token × List Char) :=
  match Literal.read? cs, cs with
  | some (value, rest), _ =>
    some (.literal (String.ofList (cs.take (cs.length - rest.length))) value, rest)
  | none, '\'' :: rest => (lifetime? rest).map fun (name, rest) => (.lifetime name, rest)
  | none, c :: rest =>
    if startsMark cs then some (.mark c (startsMark rest), rest)
    else if announcesLiteral cs then none
    else (word? cs).map fun (w, rest) => (.word w, rest)
  | none, [] => none

/-- The pieces at the front of a text, and the rest; blanks and most comments have none. -/
def next? (cs : List Char) : Option (List Piece × List Char) :=
  match cs with
  | [] => none
  | '/' :: '/' :: _ => comment? cs
  | '/' :: '*' :: _ => comment? cs
  | c :: rest =>
    if isSpace c then some ([], rest)
    else
      match Bracket.all.find? (·.opening = c), Bracket.all.find? (·.closing = c) with
      | some b, _ => some ([.opening b], rest)
      | none, some b => some ([.closing b], rest)
      | none, none => (leaf? cs).map fun (t, rest) => ([.token t], rest)

/-- All pieces of a text. Each step takes one unit of fuel and at least one character. -/
def scan? : Nat → List Char → Option (List Piece)
  | _, [] => some []
  | 0, _ => none
  | fuel + 1, cs => do
    let (first, rest) ← next? cs
    let more ← scan? fuel rest
    some (first ++ more)

/-- Build groups. `open?` holds the groups that are open, innermost first, each with its bracket and
the tokens that stand before it; `inside` holds the tokens of the innermost. Both are reversed. -/
def build? (outer : List (Bracket × List Token)) (inside : List Token) :
    List Piece → Option (List Token)
  | [] => if outer.isEmpty then some inside.reverse else none
  | .token t :: rest => build? outer (t :: inside) rest
  | .opening b :: rest => build? ((b, inside) :: outer) [] rest
  | .closing b :: rest =>
    match outer with
    | [] => none
    | (a, before) :: outer =>
      if a = b then build? outer (.group b inside.reverse :: before) rest else none

end Piece

/-- The tokens of a text. -/
def Token.ofText? (s : String) : Option (List Token) :=
  (Piece.scan? s.length s.toList).bind (Piece.build? [] [])

end Sift.Declaration
