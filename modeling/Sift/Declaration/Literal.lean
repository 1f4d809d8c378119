import Sift.Text.Hexadecimal
import Sift.Text.Identifier

/-!
# Literals of source text

Strings, byte strings, zero-terminated strings, characters, bytes and numbers as they are written in
source text, each perhaps with a suffix. `Literal.read?` finds the literal at the front of a text,
and fails where none is or where it is malformed: an escape that its kind does not have, a carriage
return without a line feed, a character that is not of one byte, a digit beyond the base.

Of a string the text that it stands for is kept, of an integer its value and its suffix.
-/
namespace Sift.Declaration

/-- What a literal stands for. -/
inductive Literal where
  | text (value : String)
  | integer (value : Nat) (suffix : String)
  /-- A number with a fraction or an exponent. -/
  | decimal
  /-- A literal of another kind. -/
  | other
deriving DecidableEq

namespace Literal

/-- The kinds of strings. -/
inductive Kind where
  | text
  | bytes
  /-- A string that ends at its first zero. -/
  | terminated
deriving DecidableEq

/-- Prepend a character to what has been read. -/
def keep (c : Char) : Option (List Char × List Char) → Option (List Char × List Char)
  | some (read, rest) => some (c :: read, rest)
  | none => none

/-- The scalar value of an escape after its opening brace: one to six hexadecimal digits, low lines
among them but not in front, `count` of them with the value `n` read before. -/
def scalar? (count n : Nat) : List Char → Option (Char × List Char)
  | [] => none
  | c :: rest =>
    if c = '_' ∧ 0 < count then scalar? count n rest
    else if c = '\x7d' ∧ 0 < count then
      if n.isValidChar then some (Char.ofNat n, rest) else none
    else
      match Text.hexValue? c with
      | some d => if count = 6 then none else scalar? (count + 1) (n * 16 + d) rest
      | none => none

/-- The character of an escape by code, of two hexadecimal digits. -/
def code? (k : Kind) (a b : Char) : Option Char := do
  let x ← Text.hexValue? a
  let y ← Text.hexValue? b
  let fits : Bool := match k with
    | .text => x < 8
    | .bytes => true
    | .terminated => 0 < x * 16 + y
  if fits then some (Char.ofNat (x * 16 + y)) else none

/-- The character of an escape by letter. -/
def letter? (k : Kind) : Char → Option Char
  | 'n' => some '\n'
  | 'r' => some '\r'
  | 't' => some '\t'
  | '\\' => some '\\'
  | '\'' => some '\''
  | '"' => some '"'
  | '0' => if k = .terminated then none else some '\x00'
  | _ => none

/-- The rest behind a line that is continued, its indentation and further line ends included.
`cr` says that a carriage return has been read, which a line feed must follow. -/
def continued? (cr : Bool) : List Char → Option (List Char)
  | [] => none
  | c :: rest =>
    if cr then if c = '\n' then continued? false rest else none
    else if c = ' ' || c = '\t' || c = '\n' then continued? false rest
    else if c = '\r' then continued? true rest
    else some (c :: rest)

/-- The character can stand in a string of its kind without an escape. -/
def isPlain (k : Kind) (c : Char) : Bool :=
  match k with
  | .text => true
  | .bytes => c.toNat < 0x80
  | .terminated => c ≠ '\x00'

/-- The content of a string after its opening quote, and the rest behind its closing one. Each
escape takes one unit of fuel and at least one character. -/
def quoted? (k : Kind) : Nat → List Char → Option (List Char × List Char)
  | 0, _ => none
  | fuel + 1, cs =>
    match cs with
    | '"' :: rest => some ([], rest)
    | '\r' :: '\n' :: rest => keep '\n' (quoted? k fuel rest)
    | '\r' :: _ => none
    | '\\' :: '\n' :: rest => (continued? false rest).bind (quoted? k fuel)
    | '\\' :: '\r' :: rest => (continued? true rest).bind (quoted? k fuel)
    | '\\' :: 'x' :: a :: b :: rest => (code? k a b).bind fun c => keep c (quoted? k fuel rest)
    | '\\' :: 'u' :: '\x7b' :: rest =>
      match k, scalar? 0 0 rest with
      | .bytes, _ => none
      | _, some (c, rest) => if isPlain k c then keep c (quoted? k fuel rest) else none
      | _, none => none
    | '\\' :: c :: rest => (letter? k c).bind fun c => keep c (quoted? k fuel rest)
    | c :: rest => if isPlain k c then keep c (quoted? k fuel rest) else none
    | [] => none

/-- The content of a raw string up to a quote and so many number signs. -/
def raw? (k : Kind) (signs : Nat) : List Char → Option (List Char × List Char)
  | [] => none
  | c :: rest =>
    if c = '"' ∧ (List.replicate signs '#').isPrefixOf rest then some ([], rest.drop signs)
    else if c = '\r' ∧ rest.head? ≠ some '\n' then none
    else if isPlain k c then keep c (raw? k signs rest)
    else none

/-- A raw string from its number signs on. -/
def rawString? (k : Kind) (cs : List Char) : Option (List Char × List Char) :=
  let signs := (cs.takeWhile (· = '#')).length
  match cs.dropWhile (· = '#') with
  | '"' :: rest => if signs ≤ 255 then raw? k signs rest else none
  | _ => none

/-- The rest behind a character or byte whose opening quote has been read. -/
def character? (k : Kind) (cs : List Char) : Option (List Char) :=
  let behind := match cs with
    | '\\' :: 'x' :: a :: b :: rest => (code? k a b).map fun _ => rest
    | '\\' :: 'u' :: '\x7b' :: rest => if k = .text then (scalar? 0 0 rest).map Prod.snd else none
    | '\\' :: c :: rest => (letter? k c).map fun _ => rest
    | ['\\'] => none
    | c :: rest => if isPlain k c then some rest else none
    | [] => none
  match behind with
  | some ('\'' :: rest) => some rest
  | _ => none

/-- The rest behind a word, if one stands here. -/
def behindWord (cs : List Char) : List Char :=
  if cs.head?.any Text.isIdentStart then cs.dropWhile Text.isIdentContinue else cs

/-- The rest behind a number's suffix; no other part of a word may follow. -/
def behindSuffix? (cs : List Char) : Option (List Char) :=
  let rest := behindWord cs
  if rest.head?.any Text.isIdentContinue then none else some rest

/-- The rest behind an exponent whose letter has been read, if it has a digit. A second sign before
any digit spoils it. -/
def exponent? (signed valued : Bool) : List Char → Option (List Char)
  | [] => if valued then some [] else none
  | c :: rest =>
    if (c = '+' || c = '-') && !valued then
      if signed then none else exponent? true valued rest
    else if c.isDigit then exponent? signed true rest
    else if c = '_' then exponent? signed valued rest
    else if valued then some (c :: rest)
    else none

/-- The rest behind a number with a fraction or an exponent, suffix apart; `dot` says that the point
has been read. A point that a word or another point follows is none. -/
def decimal? (dot : Bool) : List Char → Option (List Char)
  | [] => if dot then some [] else none
  | c :: rest =>
    if c.isDigit || c = '_' then decimal? dot rest
    else if c = '.' && !dot then
      if rest.head?.any fun d => d = '.' || Text.isIdentStart d then none else decimal? true rest
    else if c = 'e' || c = 'E' then
      match exponent? false false rest with
      | some rest => some rest
      | none => if dot then some (c :: rest) else none
    else if dot then some (c :: rest)
    else none

/-- The base that a number starts with, and the number without its mark. -/
def base : List Char → Nat × List Char
  | '0' :: 'x' :: rest => (16, rest)
  | '0' :: 'o' :: rest => (8, rest)
  | '0' :: 'b' :: rest => (2, rest)
  | cs => (10, cs)

/-- The value of an integer's digits in a base, `n` of the digits before, and the rest behind them.
A decimal digit beyond the base spoils the number; a letter beyond it starts the suffix. -/
def digits? (b : Nat) (seen : Bool) (n : Nat) : List Char → Option (Nat × List Char)
  | [] => if seen then some (n, []) else none
  | c :: rest =>
    if c = '_' then digits? b seen n rest
    else
      match Text.hexValue? c with
      | some d =>
        if d < b then digits? b true (n * b + d) rest
        else if c.isDigit then none
        else if seen then some (n, c :: rest)
        else none
      | none => if seen then some (n, c :: rest) else none

/-- The number at the front. -/
def number? (cs : List Char) : Option (Literal × List Char) :=
  if !cs.head?.any Char.isDigit then none
  else
    match (decimal? false cs).bind behindSuffix? with
    | some rest => some (.decimal, rest)
    | none => do
      let (b, ds) := base cs
      let (n, more) ← digits? b false 0 ds
      let rest ← behindSuffix? more
      some (.integer n (String.ofList (more.take (more.length - rest.length))), rest)

/-- A string whose content has been read, with its suffix. -/
def ofString (k : Kind) : Option (List Char × List Char) → Option (Literal × List Char)
  | some (value, rest) =>
    some (if k = .text then .text (String.ofList value) else .other, behindWord rest)
  | none => none

/-- The literal at the front of a text, and the rest behind it. -/
def read? (cs : List Char) : Option (Literal × List Char) :=
  let size := cs.length + 1
  let character (k : Kind) (rest : List Char) : Option (Literal × List Char) :=
    (character? k rest).map fun rest => (.other, behindWord rest)
  match cs with
  | '"' :: rest => ofString .text (quoted? .text size rest)
  | 'r' :: rest => ofString .text (rawString? .text rest)
  | 'b' :: '"' :: rest => ofString .bytes (quoted? .bytes size rest)
  | 'b' :: 'r' :: rest => ofString .bytes (rawString? .bytes rest)
  | 'b' :: '\'' :: rest => character .bytes rest
  | 'c' :: '"' :: rest => ofString .terminated (quoted? .terminated size rest)
  | 'c' :: 'r' :: rest => ofString .terminated (rawString? .terminated rest)
  | '\'' :: rest => character .text rest
  | _ => number? cs

end Literal

end Sift.Declaration
