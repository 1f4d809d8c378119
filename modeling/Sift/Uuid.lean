import Sift.Text.Hexadecimal

/-!
# UUIDs

Sixteen bytes, written as 32 lower-case hexadecimal digits in groups of 8, 4, 4, 4 and 12. A text is
read in four forms: the bare digits, the hyphenated groups, the groups in braces, and the groups
after `urn:uuid:` in any case. `UuidFault` is what a rejected text is rejected for; positions in it
are bytes of the text's UTF-8 form.
-/
namespace Sift

/-- Sixteen bytes. -/
structure Uuid where
  bytes : List UInt8
  length_eq : bytes.length = 16
deriving DecidableEq

/-- Why a text is no UUID. -/
inductive UuidFault where
  | length (found : Nat)
  | character (found : Char) (position : Nat)
  | groupCount (found : Nat)
  | groupLength (group expected found : Nat)
deriving DecidableEq

namespace UuidFault

/-- The message of a fault. -/
def message : UuidFault → String
  | length found => s!"invalid length: found {found}"
  | character found position => s!"invalid character: found `{found}` at {position}"
  | groupCount found => s!"invalid group count: expected 5, found {found}"
  | groupLength group expected found =>
    s!"invalid group length in group {group}: expected {expected}, found {found}"

end UuidFault

namespace Uuid

/-- The UUID of zeros. -/
def nil : Uuid := ⟨List.replicate 16 0, by simp⟩

/-- Sixteen bytes as a UUID. -/
def ofBytes? (bytes : List UInt8) : Option Uuid :=
  if h : bytes.length = 16 then some ⟨bytes, h⟩ else none

@[simp] theorem ofBytes?_bytes (u : Uuid) : ofBytes? u.bytes = some u := by
  simp [ofBytes?, u.length_eq]

/-- The two hexadecimal digits of a byte. -/
def byteDigits (b : UInt8) : List Char :=
  [Nat.digitChar (b.toNat / 16), Nat.digitChar (b.toNat % 16)]

/-- The hyphenated text. -/
def text (u : Uuid) : String :=
  let group (start size : Nat) := ((u.bytes.drop start).take size).flatMap byteDigits
  String.ofList (group 0 4 ++ '-' :: group 4 2 ++ '-' :: group 6 2 ++ '-' :: group 8 2 ++
    '-' :: group 10 6)

/-- Bytes from pairs of digits. -/
def pairs? : List Char → Option (List UInt8)
  | [] => some []
  | a :: b :: rest => do
    let a ← Text.hexValue? a
    let b ← Text.hexValue? b
    let bytes ← pairs? rest
    some ((a * 16 + b).toUInt8 :: bytes)
  | _ => none

/-- The digits without hyphens. -/
def ofDigits? (cs : List Char) : Option Uuid :=
  if cs.length = 32 then (pairs? cs).bind ofBytes? else none

/-- The five groups with their hyphens. -/
def ofGroups? (cs : List Char) : Option Uuid :=
  if cs.length = 36 ∧ cs[8]? = some '-' ∧ cs[13]? = some '-' ∧ cs[18]? = some '-' ∧
      cs[23]? = some '-' then
    ofDigits? (cs.filter (· ≠ '-'))
  else none

/-- How a text frames the groups, and what stands inside the frame. -/
inductive Frame where
  | bare
  | braces (body : List Char)
  | urn (body : List Char)

/-- The number of bytes of a text. -/
def byteLength (cs : List Char) : Nat := (String.ofList cs).utf8ByteSize

/-- The frame of a text. A text as long as the groups alone has none. -/
def frame (cs : List Char) : Frame :=
  if byteLength cs = 36 then .bare
  else if (cs.take 9).map Char.toLower = "urn:uuid:".toList then .urn (cs.drop 9)
  else if cs.head? = some '\x7b' ∧ cs.getLast? = some '\x7d' ∧ 2 ≤ cs.length then
    .braces (cs.drop 1).dropLast
  else .bare

/-- The first character that is neither a digit nor a hyphen, with its position. -/
def stray? (position : Nat) : List Char → Option (Char × Nat)
  | [] => none
  | c :: rest =>
    if c = '-' ∨ (Text.hexValue? c).isSome then stray? (position + c.utf8Size) rest
    else some (c, position)

/-- The positions of the hyphens. -/
def hyphens (position : Nat) : List Char → List Nat
  | [] => []
  | c :: rest =>
    if c = '-' then position :: hyphens (position + 1) rest else hyphens (position + 1) rest

/-- The first group whose hyphen is not where it should be, or else the last group. -/
def groupFault (total : Nat) (at? : List Nat) : UuidFault :=
  let wrong := (at?.zip [(0, 0, 8, 8), (1, 9, 13, 4), (2, 14, 18, 4), (3, 19, 23, 4)]).find?
    fun (found, _, _, stop, _) => found ≠ stop
  match wrong with
  | some (found, group, start, _, size) => .groupLength group size (found - start)
  | none => .groupLength 4 12 (total - 24)

/-- Why a text that is not a UUID is none. -/
def diagnose (cs : List Char) : UuidFault :=
  let total := byteLength cs
  let (body, offset, framed) := match frame cs with
    | .bare => (cs, 0, false)
    | .braces body => (body, 1, true)
    | .urn body => (body, 9, true)
  if total = 0 ∨ 45 < total then .length total
  else
    match stray? offset body with
    | some (c, position) => .character c position
    | none =>
      let found := hyphens 0 body
      if found.isEmpty ∧ ¬framed ∧ total ≠ 36 then .length total
      else if found.length ≠ 4 then .groupCount (found.length + 1)
      else groupFault total found

/-- Read a text. The groups inside a frame of the right length are judged by themselves. -/
def parse (s : String) : Except UuidFault Uuid :=
  let cs := s.toList
  let judge (body : List Char) (found : Option Uuid) : Except UuidFault Uuid :=
    match found with
    | some u => .ok u
    | none => .error (diagnose body)
  match frame cs with
  | .bare => judge cs ((ofDigits? cs).or (ofGroups? cs))
  | .braces body =>
    if byteLength body = 36 then judge body (ofGroups? body) else judge cs (ofDigits? cs)
  | .urn body =>
    if byteLength body = 36 then judge body (ofGroups? body) else judge cs (ofDigits? cs)

end Uuid

end Sift
