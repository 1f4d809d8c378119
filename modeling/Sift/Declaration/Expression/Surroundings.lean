import Sift.Declaration.Expression

/-!
# Expressions in their surroundings

What is written of an expression where it stands. Brackets are put around a part that would read
otherwise without them: an operand that is too loose, a block where a statement would end with it, a
struct literal in a condition, and so on. Whether a loose operand needs them depends on what stands
further to the right, so that `Expression.reach` looks ahead for where its reading would end.
-/
namespace Sift.Declaration

/-- Where an expression stands. -/
structure Surroundings where
  /-- How tightly the operator in front binds. -/
  previous : Precedence
  /-- How tightly the operator behind binds. -/
  next : Precedence
  /-- The expression is a statement. -/
  isStatement : Bool
  /-- The expression is the beginning of a statement. -/
  beginsStatement : Bool
  /-- The expression is what an arm of a match gives. -/
  isArm : Bool
  /-- The expression is the beginning of what an arm of a match gives. -/
  beginsArm : Bool
  /-- Curly brackets would be taken for the block behind a condition. -/
  inCondition : Bool
  /-- The block behind a condition follows. -/
  endsCondition : Bool
  /-- The expression is in a condition and begins an operand that may be missing. -/
  beginsOptional : Bool
  /-- An expression can begin with the operator behind. -/
  mayBegin : Bool
  /-- An operator or a point follows. -/
  isContinued : Bool
  /-- A list of arguments can begin with the operator behind. -/
  mayParameterize : Bool

/-- Where the reading of an operand would end if no brackets were around it. -/
inductive Reach where
  /-- The reading would fail. -/
  | fails
  /-- It would end with the operand. -/
  | ends
  /-- It would take what follows the operand, too. -/
  | goesOn
deriving DecidableEq

namespace Surroundings

/-- By itself. -/
def alone : Surroundings :=
  ⟨.jump, .jump, false, false, false, false, false, false, false, false, false, false⟩

/-- As a statement. -/
def statement : Surroundings := { alone with isStatement := true }

/-- As what an arm of a match gives. -/
def arm : Surroundings := { alone with isArm := true }

/-- In front of a block. -/
def condition : Surroundings := { alone with inCondition := true, endsCondition := true }

/-- In front of an operator, as its left operand. -/
def left (s : Surroundings) (next : Precedence) (mayBegin mayParameterize : Bool) :
    Surroundings :=
  { s with
    next := next
    isStatement := false
    beginsStatement := s.isStatement || s.beginsStatement
    isArm := false
    beginsArm := s.isArm || s.beginsArm
    endsCondition := false
    mayBegin := mayBegin
    isContinued := true
    mayParameterize := mayParameterize }

/-- In front of a point or a question mark, behind which a block does not end a statement. -/
def dotted (s : Surroundings) : Surroundings :=
  { s with
    next := .closed
    isStatement := s.isStatement || s.beginsStatement
    beginsStatement := false
    isArm := s.isArm || s.beginsArm
    beginsArm := false
    endsCondition := false
    mayBegin := false
    isContinued := true
    mayParameterize := false }

/-- Behind an operator or a sign. Some operands can be missing; the values of jumps may hold struct
literals even in a condition. -/
def right (s : Surroundings) (previous : Precedence) (holdsStructs isOptional : Bool) :
    Surroundings :=
  { s with
    previous := previous
    isStatement := false
    beginsStatement := false
    isArm := false
    beginsArm := false
    inCondition := s.inCondition && !holdsStructs
    beginsOptional := s.inCondition && isOptional }

/-- The expression would not be read whole, or not as what it is, without brackets around it. -/
def encloses (s : Surroundings) (e : Expression) : Bool :=
  let begins := s.isStatement || s.beginsStatement
  s.beginsStatement && e.isStatement || s.beginsArm && e.isBlockLike ||
    match e with
    | .binding .. => begins
    | .atom .struct .. => s.inCondition
    | .jump _ .result _ .absent => s.endsCondition
    | .jump _ (.leave _) _ .absent => s.endsCondition && !s.inCondition
    | .atom .path .. => s.endsCondition && !s.inCondition
    | .range _ _ _ .absent => s.endsCondition && !s.inCondition
    | .atom (.block false true) [] _ => s.beginsOptional
    | _ => false

/-- How tightly an expression holds together here. A jump without a value would take what follows
for one if it could be; what reaches to the end of its surroundings holds together at their end. -/
def precedence (s : Surroundings) (e : Expression) : Precedence :=
  match e with
  | .jump _ _ _ .absent =>
    if s.mayBegin then .jump else if s.isContinued then e.precedence else .unary
  | .jump .. | .closure .. | .binding .. | .range _ .absent _ _ =>
    if s.isContinued then e.precedence else .unary
  | .conversion _ _ true => if s.mayParameterize then .jump else e.precedence
  | _ => e.precedence

/-- The operator in front would leave an operand's own operator to it. -/
def admits (s : Surroundings) : Expression → Bool
  | .binary _ o _ =>
    if o.precedence = .assignment then s.previous ≤ .assignment else s.previous < o.precedence
  | .conversion .. => s.previous < .conversion
  | .range _ lower _ _ => lower.isAbsent || s.previous < .assignment
  | _ => true

/-- How far an operand that holds together so tightly would reach by the operator behind alone. -/
def reach (s : Surroundings) (p : Precedence) : Reach :=
  let isLoose :=
    if p = .assignment || p = .comparison then decide (p ≤ s.next) else decide (p < s.next)
  if isLoose || s.next = .jump then .goesOn else .ends

/-- How far an operand without operators reaches. Nothing but a name can be assigned to. -/
def reachPlain (s : Surroundings) (p : Precedence) : Reach :=
  if s.next = .assignment ∧ .assignment < p then .fails else s.reach p

/-- How far a jump without a value reaches. -/
def reachBare (s : Surroundings) (p : Precedence) : Reach :=
  if s.next = .assignment ∧ .assignment < p then .fails else .goesOn

/-- How tightly a right operand holds together here, `reach` being how far it would reach. One that
reaches no further than it should may be as loose as it is. -/
def rightPrecedence (s : Surroundings) (e : Expression) (reach : Unit → Reach) : Precedence :=
  let p := s.precedence e
  let isLoose :=
    if s.previous = .assignment || s.previous = .binding || s.previous = .unary then
      decide (p < s.previous)
    else decide (p ≤ s.previous)
  let isOpen := s.next = .range || s.next = .or || s.next = .and || !s.mayBegin
  if isLoose && isOpen && reach () ≠ .goesOn && s.admits e then .unary else p

/-- How tightly a left operand holds together here, `reach` being how far it would reach. -/
def leftPrecedence (s : Surroundings) (e : Expression) (reach : Unit → Reach) : Precedence :=
  if (!s.mayBegin || s.next = .range) && reach () = .ends && s.admits e then .closed
  else s.precedence e

/-- Write in brackets if they are needed. What is in brackets stands alone. -/
def enclosedIf (isNeeded : Bool) (s : Surroundings) (write : Surroundings → List Token) :
    List Token :=
  if isNeeded then Token.enclosed (write alone) else write s

end Surroundings

namespace Expression

open Surroundings

/-- How far the reading of an expression would reach. The expression stands at the right end of an
operand that holds together so tightly. `failing` and `ending` count how much worse than going on it
would be to fail or to end: what cannot matter is not looked for. -/
def reach : Expression → Surroundings → Precedence → Nat → Nat → Reach
  | e@(.binary _ o right), s, p, failing, ending =>
    if s.encloses e then s.reach p
    else
      let isPlain := o = Operator.assign
      let goesOn := s.reach p = .goesOn
      let isSettled :=
        if s.next = .closed then 2 ≤ failing && (isPlain || goesOn || 1 ≤ ending) else 1 ≤ ending
      if isSettled then .goesOn
      else if o.precedence = .comparison && s.next = .comparison then .goesOn
      else
        let inner := s.right o.precedence false false
        let further := if s.next = .closed then failing else 1
        let onward := if isPlain || goesOn then 1 else 0
        match right.reach inner o.precedence further onward with
        | .goesOn => .goesOn
        | .ends => if isPlain then .goesOn else s.reach p
        | .fails =>
          let isLoose := o.precedence ≠ .assignment &&
            inner.rightPrecedence right (fun _ => right.reach inner inner.previous 1 0)
              ≤ o.precedence
          if isLoose then s.reach p else if s.next = .closed then .fails else .ends
  | e@(.signed _ _ operand), s, p, failing, ending =>
    if s.encloses e then s.reach p
    else
      let goesOn := s.reach p = .goesOn
      let isSettled :=
        if s.next = .closed then 2 ≤ failing && (goesOn || 1 ≤ ending) else 1 ≤ ending
      if isSettled then .goesOn
      else
        let inner := s.right .unary false false
        let further := if s.next = .closed then failing else 1
        match operand.reach inner p further (if goesOn then 1 else 0) with
        | .goesOn => .goesOn
        | .ends => s.reach p
        | .fails =>
          let isLoose :=
            inner.rightPrecedence operand (fun _ => operand.reach inner inner.previous 1 0) < .unary
          if isLoose then s.reach p else if s.next = .closed then .fails else .ends
  | e@(.range [] _ _ upper), s, p, failing, _ =>
    if s.encloses e then s.reach p
    else if upper.isAbsent then if s.mayBegin then .goesOn else .fails
    else if 2 ≤ failing then .goesOn
    else
      let inner := s.right .range false true
      let isLow := s.next = .assignment || s.next = .range
      let found := upper.reach inner .range failing (if isLow then 0 else 1)
      if found = .goesOn || found = .ends && !isLow then .goesOn
      else if inner.rightPrecedence upper (fun _ => upper.reach inner inner.previous 1 0) ≤ .range
      then .goesOn
      else .fails
  | e@(.jump _ form _ value), s, p, _, ending =>
    if s.encloses e then s.reach p
    else if value.isAbsent then s.reachBare p
    else
      let isUnlabelled := form = .leave false && value.beginsWithLabel
      if 1 ≤ ending || isUnlabelled then .goesOn
      else if value.reach (s.right .jump true (form ≠ .result)) .jump 1 1 = .fails then .ends
      else .goesOn
  | e@(.closure ..), s, p, _, _ => if s.encloses e then s.reach p else .goesOn
  | e@(.binding _ _ value), s, p, _, ending =>
    if s.encloses e then s.reach p
    else if 1 ≤ ending then .goesOn
    else
      let inner := s.right .binding false false
      let isLow := s.next < .binding
      let found := value.reach inner .binding 1 (if isLow then 0 else 1)
      if found = .goesOn then .goesOn
      else if isLow then .ends
      else if inner.rightPrecedence value (fun _ => value.reach inner inner.previous 1 0) < .binding
      then .goesOn
      else if found = .fails then .ends
      else .goesOn
  | e, s, p, _, _ => if s.encloses e then s.reach p else s.reachPlain p

/-- The tokens of an expression in its surroundings. -/
def write : Expression → Surroundings → List Token
  | .absent, _ => []
  | .verbatim ts, _ => ts
  | e@(.atom _ attributes ts), s => enclosedIf (s.encloses e) s fun _ => attributes ++ ts
  | e@(.signed attributes sign operand), s =>
    enclosedIf (s.encloses e) s fun s =>
      let inner := s.right .unary false false
      let p := inner.rightPrecedence operand fun _ => operand.reach inner inner.previous 1 0
      attributes ++ sign ++ enclosedIf (p < .unary) inner operand.write
  | e@(.jump attributes form head value), s =>
    enclosedIf (s.encloses e) s fun s =>
      let inner := s.right .jump true (form ≠ .result)
      attributes ++ head ++
        enclosedIf (form = .leave false && value.beginsWithLabel) inner value.write
  | e@(.closure attributes _ head body), s =>
    enclosedIf (s.encloses e) s fun s =>
      attributes ++ head ++ body.write (s.right .jump false false)
  | e@(.binding attributes head value), s =>
    enclosedIf (s.encloses e) s fun s =>
      let inner := s.right .binding false false
      let p := inner.rightPrecedence value fun _ => value.reach inner inner.previous 1 0
      attributes ++ head ++ enclosedIf (p < .binding) inner value.write
  | e@(.binary left o right), s =>
    enclosedIf (s.encloses e) s fun s =>
      let before := s.left o.precedence o.mayBegin o.mayParameterize
      let p := before.leftPrecedence left fun _ => left.reach before .jump 0 0
      let isLeftLoose : Bool := match o.precedence with
        | .assignment => p ≤ .range
        | .comparison => p ≤ .comparison
        | _ => p < o.precedence
      let behind := s.right o.precedence false false
      let q := behind.rightPrecedence right fun _ => right.reach behind behind.previous 1 0
      enclosedIf isLeftLoose before left.write ++ Token.marks o.text ++
        enclosedIf (o.precedence ≠ .assignment && q ≤ o.precedence) behind right.write
  | e@(.range attributes lower points upper), s =>
    enclosedIf (s.encloses e) s fun s =>
      attributes ++ enclosedIf (!attributes.isEmpty) s fun s =>
        let before := s.left .range true false
        let p := before.leftPrecedence lower fun _ => lower.reach before .jump 0 0
        let behind := s.right .range false true
        let q := behind.rightPrecedence upper fun _ => upper.reach behind behind.previous 1 0
        enclosedIf (p ≤ .range) before lower.write ++ points ++
          enclosedIf (q ≤ .range) behind upper.write
  | e@(.conversion operand tail _), s =>
    enclosedIf (s.encloses e) s fun s =>
      let before := s.left .conversion false false
      let p := before.leftPrecedence operand fun _ => operand.reach before .jump 0 0
      enclosedIf (p < .conversion) before operand.write ++ tail
  | e@(.trailed attributes base isDotted tail), s =>
    enclosedIf (s.encloses e) s fun s =>
      let before := if isDotted then s.dotted else s.left .closed true false
      let p := before.leftPrecedence base fun _ => base.reach before .jump 0 0
      attributes ++ enclosedIf (p < .closed) before base.write ++ tail

/-- A string literal alone. -/
def text? : Expression → Option String
  | .atom (.text value) .. => some value
  | _ => none

end Expression

end Sift.Declaration
