/-!
# Base64 for URLs

Three bytes are written as four symbols of six bits each, in the alphabet whose last two symbols are
`-` and `_`, without padding: one byte left over takes two symbols and two bytes take three. Reading
accepts exactly what writing produces. A `Base64Fault` names the first thing wrong with a token: a
symbol out of place, a last quad of one symbol, padding, or bits of the last symbol that no byte
uses.
-/
namespace Sift

/-- Why a token is not Base64; offsets and symbols are bytes of the token. -/
inductive Base64Fault where
  | symbol (byte : UInt8) (offset : Nat)
  | length (found : Nat)
  | lastSymbol (byte : UInt8) (offset : Nat)
  | padding
deriving DecidableEq

/-- The message of a fault. -/
def Base64Fault.message : Base64Fault → String
  | symbol byte offset => s!"Invalid symbol {byte.toNat}, offset {offset}."
  | length found => s!"Invalid input length: {found}"
  | lastSymbol byte offset => s!"Invalid last symbol {byte.toNat}, offset {offset}."
  | padding => "Invalid padding"

namespace Base64

/-- The symbol of a number below 64. -/
def symbol (n : Nat) : Char :=
  if n < 26 then Char.ofNat (65 + n)
  else if n < 52 then Char.ofNat (71 + n)
  else if n < 62 then Char.ofNat (n - 4)
  else if n = 62 then '-'
  else '_'

/-- The number of a symbol. -/
def value? (b : UInt8) : Option Nat :=
  if 65 ≤ b ∧ b ≤ 90 then some (b.toNat - 65)
  else if 97 ≤ b ∧ b ≤ 122 then some (b.toNat - 71)
  else if 48 ≤ b ∧ b ≤ 57 then some (b.toNat + 4)
  else if b = 45 then some 62
  else if b = 95 then some 63
  else none

/-- The sign of padding, which other variants use. -/
def pad : UInt8 := 61

/-- Write bytes. -/
def encode : List UInt8 → List Char
  | a :: b :: c :: rest =>
    symbol (a.toNat / 4) :: symbol (a.toNat % 4 * 16 + b.toNat / 16) ::
      symbol (b.toNat % 16 * 4 + c.toNat / 64) :: symbol (c.toNat % 64) :: encode rest
  | [a, b] =>
    [symbol (a.toNat / 4), symbol (a.toNat % 4 * 16 + b.toNat / 16), symbol (b.toNat % 16 * 4)]
  | [a] => [symbol (a.toNat / 4), symbol (a.toNat % 4 * 16)]
  | [] => []

/-- The symbols of the last quad, up to its padding. `padAt` is where the padding began. -/
def lastSymbols (start : Nat) : Nat → Option Nat → List UInt8 → Except Base64Fault (List Nat × Bool)
  | _, padAt, [] => .ok ([], padAt.isSome)
  | i, padAt, b :: rest =>
    if b = pad then
      if i < 2 then .error (.symbol b (start + i))
      else lastSymbols start (i + 1) (some (padAt.getD i)) rest
    else
      match padAt with
      | some p => .error (.symbol pad (start + p))
      | none =>
        match value? b with
        | none => .error (.symbol b (start + i))
        | some n => do
          let (ns, padded) ← lastSymbols start (i + 1) none rest
          .ok (n :: ns, padded)

/-- Read the last one to four bytes of a token. -/
def decodeLast (start : Nat) (quad : List UInt8) : Except Base64Fault (List UInt8) := do
  let (ns, padded) ← lastSymbols start 0 none quad
  if ns.length < 2 then .error (.length (start + ns.length))
  else if padded then .error .padding
  else
    let stray : Except Base64Fault (List UInt8) :=
      .error (.lastSymbol ((quad[ns.length - 1]?).getD 0) (start + ns.length - 1))
    match ns with
    | [p, q] => if q % 16 = 0 then .ok [(p * 4 + q / 16).toUInt8] else stray
    | [p, q, r] =>
      if r % 4 = 0 then .ok [(p * 4 + q / 16).toUInt8, (q % 16 * 16 + r / 4).toUInt8] else stray
    | [p, q, r, s] =>
      .ok [(p * 4 + q / 16).toUInt8, (q % 16 * 16 + r / 4).toUInt8, (r % 4 * 64 + s).toUInt8]
    | _ => stray

/-- A byte in its place, as a number. -/
def valueAt (b : UInt8) (offset : Nat) : Except Base64Fault Nat :=
  match value? b with
  | some n => .ok n
  | none => .error (.symbol b offset)

/-- Read a token from its quad at `start` on. -/
def decodeFrom (start : Nat) : List UInt8 → Except Base64Fault (List UInt8)
  | p :: q :: r :: s :: next :: rest => do
    let p ← valueAt p start
    let q ← valueAt q (start + 1)
    let r ← valueAt r (start + 2)
    let s ← valueAt s (start + 3)
    let bytes ← decodeFrom (start + 4) (next :: rest)
    .ok ((p * 4 + q / 16).toUInt8 :: (q % 16 * 16 + r / 4).toUInt8 ::
      (r % 4 * 64 + s).toUInt8 :: bytes)
  | [] => .ok []
  | quad => decodeLast start quad

/-- Read a token. A single byte after the last whole quad is looked at first. -/
def decode (token : List UInt8) : Except Base64Fault (List UInt8) :=
  match token.getLast? with
  | some b =>
    if token.length % 4 = 1 ∧ b ≠ pad ∧ value? b = none then
      .error (.symbol b (token.length - 1))
    else decodeFrom 0 token
  | none => .ok []

theorem value?_symbol {n : Nat} (h : n < 64) : value? (symbol n).toNat.toUInt8 = some n := by
  revert n
  decide

@[simp] theorem decode_nil : decode [] = .ok [] := rfl

end Base64

end Sift
