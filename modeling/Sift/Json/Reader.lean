import Sift.Json
import Sift.Text.Hexadecimal

/-!
# Reading JSON

`Json.parse?` reads one value and nothing after it but blanks. Arrays and objects nest at most 127
deep. Of two members with one key the later counts, and objects come out sorted by key.

A number without fraction and exponent that fits in 64 bits, signed or unsigned, is an integer; `-0`
is the double. Every other number is a double: as many of its leading digits as fit in 64 unsigned
bits make a significand, the digits dropped before the point and kept after it count into the power
of ten, and significand and power are rounded, and then multiplied or divided, as doubles. A number
too large for a double is refused.

The reader takes fuel, one unit for a value and one for a step of a list; the length of the text is
enough, since each of these consumes a character.
-/
namespace Sift.Json

/-- Drop the blanks of JSON. -/
def skipBlanks : List Char → List Char
  | [] => []
  | c :: rest => if c = ' ' ∨ c = '\t' ∨ c = '\n' ∨ c = '\r' then skipBlanks rest else c :: rest

/-- Four hexadecimal digits. -/
def unit? : List Char → Option (Nat × List Char)
  | a :: b :: c :: d :: rest => do
    let a ← Text.hexValue? a
    let b ← Text.hexValue? b
    let c ← Text.hexValue? c
    let d ← Text.hexValue? d
    some (((a * 16 + b) * 16 + c) * 16 + d, rest)
  | _ => none

/-- The character of one unit or of a surrogate pair; a lone surrogate has none. -/
def escapedUnit? (cs : List Char) : Option (Char × List Char) := do
  let (high, rest) ← unit? cs
  if 0xD800 ≤ high ∧ high < 0xDC00 then
    match rest with
    | '\\' :: 'u' :: more =>
      let (low, rest) ← unit? more
      if 0xDC00 ≤ low ∧ low < 0xE000 then
        some (Char.ofNat (0x10000 + (high - 0xD800) * 0x400 + (low - 0xDC00)), rest)
      else none
    | _ => none
  else if 0xDC00 ≤ high ∧ high < 0xE000 then none
  else some (Char.ofNat high, rest)

/-- The rest of a string after its opening quote; the characters read so far are reversed. -/
def stringBody : Nat → List Char → List Char → Option (String × List Char)
  | 0, _, _ => none
  | _ + 1, _, [] => none
  | fuel + 1, read, c :: rest =>
    if c = '"' then some (String.ofList read.reverse, rest)
    else if c = '\\' then
      match rest with
      | '"' :: more => stringBody fuel ('"' :: read) more
      | '\\' :: more => stringBody fuel ('\\' :: read) more
      | '/' :: more => stringBody fuel ('/' :: read) more
      | 'b' :: more => stringBody fuel ('\x08' :: read) more
      | 'f' :: more => stringBody fuel ('\x0c' :: read) more
      | 'n' :: more => stringBody fuel ('\n' :: read) more
      | 'r' :: more => stringBody fuel ('\r' :: read) more
      | 't' :: more => stringBody fuel ('\t' :: read) more
      | 'u' :: more =>
        match escapedUnit? more with
        | some (d, more) => stringBody fuel (d :: read) more
        | none => none
      | _ => none
    else if c.toNat < 0x20 then none
    else stringBody fuel (c :: read) rest

/-- Add digits to a significand while it fits in 64 bits; how many were added. -/
def accumulate (significand : Nat) : List Nat → Nat × Nat
  | [] => (significand, 0)
  | d :: rest =>
    if significand * 10 + d < UInt64.size then
      let (s, n) := accumulate (significand * 10 + d) rest
      (s, n + 1)
    else (significand, 0)

/-- The leading decimal digits of a text. -/
def digits (cs : List Char) : List Nat × List Char :=
  ((cs.takeWhile Char.isDigit).map fun c => c.toNat - 48, cs.dropWhile Char.isDigit)

/-- A positive double divided by `10 ^ 308` up to `steps` times, stopping at zero. -/
def shrink (x : Nat) : Nat → Nat
  | 0 => x
  | steps + 1 =>
    match BinaryLayout.double.decode x with
    | .finite _ 0 _ => 0
    | .finite _ significand power =>
      match BinaryLayout.double.decode (BinaryLayout.double.round (Nat.pow 10 308) 1) with
      | .finite _ s p =>
        shrink (BinaryLayout.double.round (significand * Nat.pow 2 (power - p).toNat)
          (s * Nat.pow 2 (p - power).toNat)) steps
      | _ => x
    | _ => x

/-- A double times or over the double nearest to a power of ten of at most 308. -/
def timesPower? (x : Nat) (exponent : Int) : Option Nat :=
  let power := BinaryLayout.double.round (Nat.pow 10 exponent.natAbs) 1
  match BinaryLayout.double.decode x, BinaryLayout.double.decode power with
  | .finite _ s p, .finite _ t q =>
    let result :=
      if 0 ≤ exponent then BinaryLayout.double.roundScaled (s * t) (p + q : Int)
      else BinaryLayout.double.round (s * Nat.pow 2 (p - q).toNat) (t * Nat.pow 2 (q - p).toNat)
    if result < BinaryLayout.double.infinity then some result else none
  | _, _ => none

/-- The double of a significand and a power of ten. -/
def scale? (significand : Nat) (exponent : Int) : Option Nat :=
  let x := BinaryLayout.double.round significand 1
  if significand = 0 then some 0
  else if 308 < exponent then none
  else
    let steps := (exponent.natAbs - 1) / 308
    if exponent < -308 then timesPower? (shrink x steps) (exponent + 308 * (steps : Int))
    else timesPower? x exponent

/-- The exponent part of a number, if it starts here. -/
def exponentPart? (cs : List Char) : Option (Option Int × List Char) :=
  match cs with
  | e :: rest =>
    if e = 'e' ∨ e = 'E' then
      let (negative, rest) := match rest with
        | '+' :: more => (false, more)
        | '-' :: more => (true, more)
        | _ => (false, rest)
      let (ds, rest) := digits rest
      if ds.isEmpty then none
      else
        let n : Nat := ds.foldl (fun n d => n * 10 + d) 0
        some (some (if negative then -(n : Int) else n), rest)
    else some (none, cs)
  | [] => some (none, [])

/-- The fraction part of a number, if it starts here. -/
def fractionPart? (cs : List Char) : Option (Option (List Nat) × List Char) :=
  match cs with
  | '.' :: rest =>
    let (ds, rest) := digits rest
    if ds.isEmpty then none else some (some ds, rest)
  | _ => some (none, cs)

/-- A number after its sign. -/
def number? (negative : Bool) (cs : List Char) : Option (Json × List Char) := do
  let (whole, rest) := digits cs
  guard (whole ≠ [] ∧ (whole.head? = some 0 → whole.length = 1))
  let (significand, taken) := accumulate 0 whole
  let dropped := whole.length - taken
  let (fraction, rest) ← fractionPart? rest
  let (exponent, rest) ← exponentPart? rest
  if dropped = 0 ∧ fraction.isNone ∧ exponent.isNone ∧
      (negative → 0 < significand ∧ significand ≤ 9223372036854775808) then
    some (.int (if negative then -(significand : Int) else significand), rest)
  else
    let (significand, kept) := accumulate significand (fraction.getD [])
    let magnitude ← scale? significand (exponent.getD 0 + (dropped : Int) - (kept : Int))
    some (.float ⟨(BinaryLayout.double.signed negative magnitude).toUInt64⟩, rest)

/-- Read a fixed word. -/
def word? (word : List Char) (value : Json) (cs : List Char) : Option (Json × List Char) :=
  if word.isPrefixOf cs then some (value, cs.drop word.length) else none

mutual

/-- Read a value; `depth` more levels of nesting are allowed. -/
def value? : Nat → Nat → List Char → Option (Json × List Char)
  | 0, _, _ => none
  | fuel + 1, depth, cs =>
    match skipBlanks cs with
    | [] => none
    | '"' :: rest => (stringBody (rest.length + 1) [] rest).map fun (s, r) => (.string s, r)
    | '[' :: rest =>
      if depth = 0 then none
      else match skipBlanks rest with
        | ']' :: rest => some (.array [], rest)
        | rest => (items? fuel (depth - 1) rest).map fun (xs, r) => (.array xs, r)
    | '\x7b' :: rest =>
      if depth = 0 then none
      else match skipBlanks rest with
        | '\x7d' :: rest => some (.object [], rest)
        | rest => (members? fuel (depth - 1) rest).map fun (ms, r) => (ofMembers ms, r)
    | 't' :: rest => word? ['r', 'u', 'e'] (.bool true) rest
    | 'f' :: rest => word? ['a', 'l', 's', 'e'] (.bool false) rest
    | 'n' :: rest => word? ['u', 'l', 'l'] .null rest
    | '-' :: rest => number? true rest
    | rest => number? false rest

/-- Read the items of an array and its closing bracket. -/
def items? : Nat → Nat → List Char → Option (List Json × List Char)
  | 0, _, _ => none
  | fuel + 1, depth, cs => do
    let (x, rest) ← value? fuel depth cs
    match skipBlanks rest with
    | ']' :: rest => some ([x], rest)
    | ',' :: rest =>
      let (xs, rest) ← items? fuel depth rest
      some (x :: xs, rest)
    | _ => none

/-- Read the members of an object and its closing brace. -/
def members? : Nat → Nat → List Char → Option (List (String × Json) × List Char)
  | 0, _, _ => none
  | fuel + 1, depth, cs =>
    match skipBlanks cs with
    | '"' :: rest => do
      let (key, rest) ← stringBody (rest.length + 1) [] rest
      match skipBlanks rest with
      | ':' :: rest =>
        let (x, rest) ← value? fuel depth rest
        match skipBlanks rest with
        | '\x7d' :: rest => some ([(key, x)], rest)
        | ',' :: rest =>
          let (ms, rest) ← members? fuel depth rest
          some ((key, x) :: ms, rest)
        | _ => none
      | _ => none
    | _ => none

end

/-- Read a text that holds one value. -/
def parse? (text : String) : Option Json := do
  let cs := text.toList
  let (value, rest) ← value? (2 * cs.length + 2) 127 cs
  if (skipBlanks rest).isEmpty then some value else none

end Sift.Json
