import Sift.Declaration.Fault
import Sift.Declaration.Sign

/-!
# Reading tokens

A reader takes tokens from the front and fails at the first that does not fit. It reads a group by
itself: tokens that are left in it are no failure at once, but the first such group is kept in mind,
and the reading fails by it at its end. What has been taken is kept too, so that it can be written
again; a reader may count other tokens as taken than those that it has read, where a phrase is
written in another way than it may stand.
-/
namespace Sift.Declaration

/-- Where a reader stands. -/
structure Reading where
  rest : List Token
  /-- What has been taken in the group at hand, the last token first. -/
  taken : List Token
  /-- The bracket of the first group in which tokens were left. -/
  leftover : Option Bracket

/-- A reader of tokens. -/
abbrev Reader := StateT Reading (Except Misreading)

namespace Reader

variable {α β : Type}

/-- The tokens that follow. -/
def ahead : Reader (List Token) := do return (← get).rest

/-- No tokens follow. -/
def atEnd : Reader Bool := do return (← ahead).isEmpty

/-- The next tokens begin with a sign. -/
def sees (s : Sign) : Reader Bool := do return s.begins (← ahead)

/-- The next tokens begin with one of several signs. -/
def seesAny (ss : List Sign) : Reader Bool := do
  let ts ← ahead
  return ss.any fun s => s.begins ts

/-- The tokens behind the next one begin with a sign. -/
def seesSecond (s : Sign) : Reader Bool := do return s.begins ((← ahead).drop 1)

/-- The tokens behind the next two begin with a sign. -/
def seesThird (s : Sign) : Reader Bool := do return s.begins ((← ahead).drop 2)

/-- A mark, and no longer one of those given. -/
def seesOnly (s : String) (longer : List String) : Reader Bool := do
  let ts ← ahead
  return (Sign.marks s).begins ts && !longer.any fun l => (Sign.marks l).begins ts

/-- Fail because something else was expected here. -/
def expect (what : List String) : Reader α := do throw (.expected (← atEnd) what)

/-- Fail because one of several signs was expected here, those that do stand here apart. -/
def expectSign (ss : List Sign) : Reader α := do
  let ts ← ahead
  expect ((ss.filter fun s => !s.begins ts).map Sign.text)

/-- Take tokens. -/
def skip (n : Nat) : Reader Unit :=
  modify fun p => { p with rest := p.rest.drop n, taken := (p.rest.take n).reverse ++ p.taken }

/-- Take a sign that must stand here. A missing mark is told of in the same way at the end. -/
def take (s : Sign) : Reader Unit := do
  let ts ← ahead
  if s.begins ts then skip (s.width ts)
  else
    match s, ts with
    | .marks _, _ => throw (.expected false [s.text])
    | .name, .word w :: _ => throw (.reserved w)
    | _, _ => expect [s.text]

/-- Take a sign if it stands here. -/
def accept (s : Sign) : Reader Bool := do
  if ← sees s then
    take s
    return true
  else return false

/-- Take a sign if it is wanted and stands here. -/
def acceptIf (wanted : Bool) (s : Sign) : Reader Bool := if wanted then accept s else return false

/-- Read a group of the given bracket. -/
def within (b : Bracket) (p : Reader α) : Reader α := do
  let outer ← get
  match outer.rest with
  | .group c inner :: rest =>
    if c = b then
      set { outer with rest := inner, taken := [] }
      let a ← p
      let after ← get
      let content := after.taken.reverse ++ after.rest
      let leftover := after.leftover.or (if after.rest.isEmpty then none else some b)
      set (⟨rest, .group b content :: outer.taken, leftover⟩ : Reading)
      return a
    else expectSign [.group b]
  | _ => expectSign [.group b]

/-- Take a group, whatever is in it. -/
def anyGroup : Reader Bracket := do
  match ← ahead with
  | .group b _ :: _ =>
    skip 1
    return b
  | _ => expect ["delimiter"]

/-- Read, and put what was taken aside. -/
def captured (p : Reader α) : Reader (α × List Token) := do
  let before ← get
  set { before with taken := [] }
  let a ← p
  let after ← get
  set { after with taken := before.taken }
  return (a, after.taken.reverse)

/-- Read, and count nothing as taken. -/
def unwritten (p : Reader α) : Reader α := do return (← captured p).1

/-- Count tokens as taken. -/
def emit (ts : List Token) : Reader Unit :=
  modify fun p => { p with taken := ts.reverse ++ p.taken }

/-- The tokens that have been read in this group since others were ahead, as they stood. -/
def passed (start : List Token) : Reader (List Token) := do
  let ts ← ahead
  return start.take (start.length - ts.length)

/-- Read, and count as taken either what was or, if the answer says so, all that was read as it
stood. -/
def verbatimWhen (asItStands : α → Bool) (p : Reader α) : Reader α := do
  let start ← ahead
  let (a, tokens) ← captured p
  let source ← passed start
  emit (if asItStands a then source else tokens)
  return a

/-- Read a list that may be empty. It is announced by tokens, which are written only if it is
not. -/
def announced (announcement : List Token) (list : Reader Unit) : Reader Unit := do
  let ((), tokens) ← captured list
  if !tokens.isEmpty then emit (announcement ++ tokens)

/-- What a reader finds here, without taking anything; it may fail. -/
def foresee (p : Reader α) : Reader (Option (α × Reading)) := fun s =>
  match p s with
  | .ok (a, after) => .ok (some (a, after), s)
  | .error _ => .ok (none, s)

/-- Repeat a step until it says that it was the last. Every other step takes a token. -/
def untilLast (step : Reader Bool) : Nat → Reader Unit
  | 0 => return ()
  | n + 1 => do if ← step then return () else untilLast step n

/-- Repeat a step until it says that it was the last. -/
def repeating (step : Reader Bool) : Reader Unit := do untilLast step ((← ahead).length + 1)

/-- Further items of a list with commas between them, `before` having been read. -/
def moreItems (item : Reader α) : Nat → List α → Reader (List α)
  | 0, before => return before.reverse
  | n + 1, before => do
    if ← atEnd then return before.reverse
    let a ← item
    if !(← atEnd) then take (.marks ",")
    moreItems item n (a :: before)

/-- Items to the end of the group at hand, with commas between them and perhaps one behind the
last. -/
def list (item : Reader α) : Reader (List α) := do moreItems item ((← ahead).length + 1) []

/-- Items to the end of the group at hand, as far as they are only to be taken. -/
def items (item : Reader α) : Reader Unit := do
  let _ ← list item

/-- Items with plus signs between them, until something stops them. -/
def joined (item : Reader α) (stops : Reader Bool) : Reader Unit :=
  repeating do
    if ← stops then return true
    let _ ← item
    if ← accept (.marks "+") then return false
    return true

/-- Read all of the tokens. -/
def run (p : Reader α) (ts : List Token) : Except Misreading α := do
  let (a, after) ← StateT.run p ⟨ts, [], none⟩
  match after.leftover with
  | some b => throw (.leftover (some b))
  | none => if after.rest.isEmpty then return a else throw (.leftover none)

end Reader

end Sift.Declaration
