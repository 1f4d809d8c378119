import Sift.Base64
import Sift.Error
import Sift.Text.Blank

/-!
# Continuation tokens

A token tells where the next page begins. It is the Base64 form of a version byte and the row offset
in seven-bit groups, lowest first, each but the last with its high bit set. Every version but zero
is read alike, and bytes after the offset are left for later versions. Blanks around a token do not
count.
-/
namespace Sift

/-- Why a token cannot be read. -/
inductive CursorFault where
  | notBase64 (fault : Base64Fault)
  | empty
  | version
  | overflow
  | truncated
deriving DecidableEq

namespace CursorFault

/-- The message of a fault. -/
def message : CursorFault → String
  | notBase64 fault => "not base64: " ++ fault.message
  | empty => "empty token"
  | version => "unknown version 0"
  | overflow => "offset overflows u64"
  | truncated => "truncated offset"

/-- A fault as an error. -/
def toError (f : CursorFault) : Error := .invalidCursor f.message

end CursorFault

namespace Cursor

/-- An offset in seven-bit groups. -/
def groups (n : Nat) : List UInt8 :=
  if n < 128 then [n.toUInt8] else (n % 128 + 128).toUInt8 :: groups (n / 128)
termination_by n
decreasing_by omega

/-- The bytes of a token. -/
def toBytes (offset : UInt64) : List UInt8 := 1 :: groups offset.toNat

/-- The token of an offset. -/
def encode (offset : UInt64) : String := String.ofList (Base64.encode (toBytes offset))

/-- Read seven-bit groups; `shift` bits have been read, and they make `read`. -/
def readGroups (shift read : Nat) : List UInt8 → Except CursorFault Nat
  | [] => .error .truncated
  | b :: rest =>
    let bits := b.toNat % 128
    if 64 ≤ shift ∨ (shift = 63 ∧ 1 < bits) then .error .overflow
    else if b.toNat < 128 then .ok (read + bits * Nat.pow 2 shift)
    else readGroups (shift + 7) (read + bits * Nat.pow 2 shift) rest

/-- The offset in a token's bytes. -/
def ofBytes : List UInt8 → Except CursorFault UInt64
  | [] => .error .empty
  | version :: body =>
    if version = 0 then .error .version else (readGroups 0 0 body).map UInt64.ofNat

/-- The bytes of a text in UTF-8. -/
def utf8 (cs : List Char) : List UInt8 := cs.flatMap String.utf8EncodeChar

/-- The offset of a token. -/
def decode (token : String) : Except CursorFault UInt64 := do
  let bytes ← (Base64.decode (utf8 (Text.trimBlanks token.toList))).mapError .notBase64
  ofBytes bytes

end Cursor

end Sift
