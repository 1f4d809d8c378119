import Sift.Condition.Document
import Sift.Proofs.Sql.Evaluation

/-!
# Filter documents and the documents they match

`Json.holdsOn` is what a document store makes of a filter: each of its members is a joint of
filters, a constant, or a test of the column that it is named after, and a test is a value or an
object of operators. A member that a document does not have is null to it. Its logic has two values:
null equals null, nothing is ordered against null, and what is negated holds where the rest does
not.

A regular expression is read as the text test that it was made of, `TextTest.ofRegex?_regex`.
-/
namespace Sift

/-! ## Filters and documents -/

/-- A document: what it has under each name, if anything. -/
abbrev Document : Type := String → Option Json

namespace Json

/-- The value that a member stands for. -/
def plain : Json → Value
  | null => .null
  | bool b => .bool b
  | int n => .int (Int64.ofInt n)
  | string s => .text s
  | j => .json j

end Json

/-- The value of a column; a member that is absent is null. -/
def Document.value (doc : Document) (column : String) : Value :=
  match doc column with
  | none => .null
  | some j => j.plain

namespace Comparison

variable (cmp : Comparison)

/-- Equality with null equal to null. -/
def equal (v w : Value) : Bool :=
  if v.isNull || w.isNull then v.isNull && w.isNull else cmp.test .eq v w

/-- What an operator says in two-valued logic. -/
def holds : Comparator → Value → Value → Bool
  | .eq, v, w => cmp.equal v w
  | .ne, v, w => !cmp.equal v w
  | op, v, w => !v.isNull && !w.isNull && cmp.test op v w

/-- Whether a value equals one of several. -/
def among (v : Value) (values : List Value) : Bool := values.any (cmp.equal v)

end Comparison

/-- The operator of a member name. -/
def Comparator.ofFilterKey? : String → Option Comparator
  | "$eq" => some eq
  | "$ne" => some ne
  | "$gt" => some gt
  | "$gte" => some ge
  | "$lt" => some lt
  | "$lte" => some le
  | _ => none

namespace TextTest

/-- The text that a regular expression stands for, and whether it must end there. What has a meaning
in regular expressions stands for itself behind a backslash only. -/
def readLiteral? : List Char → Option (List Char × Bool)
  | [] => some ([], false)
  | ['$'] => some ([], true)
  | '\\' :: c :: rest => (readLiteral? rest).map fun read => (c :: read.1, read.2)
  | c :: rest =>
    if c ∈ regexMeta then none else (readLiteral? rest).map fun read => (c :: read.1, read.2)

/-- The test that a regular expression was made of, and its pattern. -/
def ofRegex? (regex : String) : Option (TextTest × List Char) :=
  match regex.toList with
  | '^' :: rest =>
    match readLiteral? rest with
    | some (pattern, false) => some (startsWith, pattern)
    | _ => none
  | cs => (readLiteral? cs).map fun read => (if read.2 then endsWith else contains, read.1)

end TextTest

namespace Json

variable (cmp : Comparison)

/-- Whether a value passes an operator other than `$not`. -/
def passesOperator (v : Value) (key : String) (operand : Json) : Bool :=
  match Comparator.ofFilterKey? key with
  | some op => cmp.holds op v operand.plain
  | none =>
    match key, operand with
    | "$in", .array items => cmp.among v (items.map plain)
    | "$nin", .array items => !cmp.among v (items.map plain)
    | "$regex", .string regex =>
      (TextTest.ofRegex? regex).any fun read => cmp.passes v read.1 read.2
    | _, _ => false

mutual

/-- Whether a value passes a test: all of its operators, or being equal to it. -/
def passes (v : Value) : Json → Bool
  | .object operators => passesAll v operators
  | test => cmp.equal v test.plain

/-- Whether a value passes several operators. -/
def passesAll (v : Value) : List (String × Json) → Bool
  | [] => true
  | (key, operand) :: rest =>
    (if key = "$not" then !passes v operand else passesOperator cmp v key operand) &&
      passesAll v rest

end

mutual

/-- Whether a filter holds on a document: all of its members do. -/
def holdsOn (doc : Document) : Json → Bool
  | .object members => membersHoldOn doc members
  | _ => false

/-- Whether several members hold on a document. -/
def membersHoldOn (doc : Document) : List (String × Json) → Bool
  | [] => true
  | (key, test) :: rest => memberHoldsOn doc key test && membersHoldOn doc rest

/-- Whether a member holds on a document. A joint has a list and a constant a truth value; anything
else is a test of a column, whatever the column is called. -/
def memberHoldsOn (doc : Document) (key : String) : Json → Bool
  | .array filters =>
    if key = "$and" then eachHoldsOn doc filters
    else if key = "$or" then someHoldsOn doc filters
    else passes cmp (doc.value key) (.array filters)
  | .bool truth => if key = "$expr" then truth else passes cmp (doc.value key) (.bool truth)
  | test => passes cmp (doc.value key) test

/-- Whether each of several filters holds on a document. -/
def eachHoldsOn (doc : Document) : List Json → Bool
  | [] => true
  | filter :: rest => holdsOn doc filter && eachHoldsOn doc rest

/-- Whether one of several filters holds on a document. -/
def someHoldsOn (doc : Document) : List Json → Bool
  | [] => false
  | filter :: rest => holdsOn doc filter || someHoldsOn doc rest

end

/-! ## The forms that filters take -/

section Forms

variable (doc : Document)

/-- A filter of one member. -/
theorem holdsOn_member (key : String) (test : Json) :
    holdsOn cmp doc (member key test) = memberHoldsOn cmp doc key test :=
  Bool.and_true _

/-- A test of one operator. -/
theorem passes_member (v : Value) {key : String} (hkey : key ≠ "$not") (operand : Json) :
    passes cmp v (member key operand) = passesOperator cmp v key operand :=
  (Bool.and_true _).trans (if_neg hkey)

@[simp] theorem holdsOn_expr (truth : Bool) :
    holdsOn cmp doc (member "$expr" (.bool truth)) = truth :=
  holdsOn_member cmp doc "$expr" (.bool truth)

@[simp] theorem holdsOn_and (filter filter' : Json) :
    holdsOn cmp doc (member "$and" (.array [filter, filter'])) =
      (holdsOn cmp doc filter && holdsOn cmp doc filter') := by
  rw [holdsOn_member, ← Bool.and_true (holdsOn cmp doc filter')]
  rfl

@[simp] theorem holdsOn_or (filter filter' : Json) :
    holdsOn cmp doc (member "$or" (.array [filter, filter'])) =
      (holdsOn cmp doc filter || holdsOn cmp doc filter') := by
  rw [holdsOn_member, ← Bool.or_false (holdsOn cmp doc filter')]
  rfl

@[simp] theorem holdsOn_null (column : String) :
    holdsOn cmp doc (member column .null) = (doc.value column).isNull := by
  have hequal : memberHoldsOn cmp doc column .null = cmp.equal (doc.value column) .null := rfl
  rw [holdsOn_member, hequal]
  simp [Comparison.equal]

/-- A column under an operator. -/
theorem holdsOn_operator (column key : String) (operand : Json) (hkey : key ≠ "$not") :
    holdsOn cmp doc (member column (member key operand)) =
      passesOperator cmp (doc.value column) key operand := by
  rw [holdsOn_member]
  exact passes_member cmp (doc.value column) hkey operand

/-- A column that must not pass an operator. -/
theorem holdsOn_not (column key : String) (operand : Json) (hkey : key ≠ "$not") :
    holdsOn cmp doc (member column (member "$not" (member key operand))) =
      !passesOperator cmp (doc.value column) key operand := by
  rw [holdsOn_member, ← passes_member cmp (doc.value column) hkey operand]
  exact Bool.and_true _

theorem passesOperator_filterKey (v : Value) (op : Comparator) (operand : Json) :
    passesOperator cmp v op.filterKey operand = cmp.holds op v operand.plain := by
  cases op <;> rfl

end Forms

end Json

/-! ## Regular expressions are read back -/

namespace TextTest

/-- One escaped character is read as itself. -/
theorem readLiteral?_cons (c : Char) (rest : List Char) :
    readLiteral? ((if c ∈ regexMeta then ['\\', c] else [c]) ++ rest) =
      (readLiteral? rest).map fun read => (c :: read.1, read.2) := by
  by_cases hc : c ∈ regexMeta
  · rw [if_pos hc]
    simp [readLiteral?]
  · have hdollar : c ≠ '$' := by
      rintro rfl
      exact hc (by decide)
    have hslash : c ≠ '\\' := by
      rintro rfl
      exact hc (by decide)
    rw [if_neg hc, List.singleton_append, readLiteral?, if_neg hc]
    · intro h
      exact absurd h hdollar
    · intro next rest' h
      exact absurd h hslash

/-- So is an escaped text. -/
theorem readLiteral?_escapeRegex (cs rest : List Char) :
    readLiteral? (escapeRegex cs ++ rest) =
      (readLiteral? rest).map fun read => (cs ++ read.1, read.2) := by
  induction cs with
  | nil => simp [escapeRegex]
  | cons c cs ih =>
    have hcons : escapeRegex (c :: cs) =
        (if c ∈ regexMeta then ['\\', c] else [c]) ++ escapeRegex cs := rfl
    rw [hcons, List.append_assoc, readLiteral?_cons, ih, Option.map_map]
    rfl

/-- An escaped text does not begin with the sign for the beginning. -/
theorem head?_escapeRegex_append (cs rest : List Char) (h : rest.head? ≠ some '^') :
    (escapeRegex cs ++ rest).head? ≠ some '^' := by
  cases cs with
  | nil => exact h
  | cons c cs =>
    by_cases hc : c ∈ regexMeta
    · simp [escapeRegex, hc]
    · have hne : c ≠ '^' := by
        rintro rfl
        exact hc (by decide)
      simp [escapeRegex, hc, hne]

theorem ofRegex?_of_head?_ne {regex : String} (h : regex.toList.head? ≠ some '^') :
    ofRegex? regex = (readLiteral? regex.toList).map fun read =>
      (if read.2 then endsWith else contains, read.1) := by
  unfold ofRegex?
  split
  · rename_i heq
    simp [heq] at h
  · rfl

/-- A regular expression is read as the test that it was made of. -/
theorem ofRegex?_regex (test : TextTest) (pattern : String) :
    ofRegex? (test.regex pattern) = some (test, pattern.toList) := by
  have hplain := readLiteral?_escapeRegex pattern.toList []
  have hend := readLiteral?_escapeRegex pattern.toList ['$']
  rw [List.append_nil] at hplain
  cases test with
  | contains =>
    have hhead := head?_escapeRegex_append pattern.toList [] (by simp)
    rw [List.append_nil] at hhead
    rw [ofRegex?_of_head?_ne (by simpa [regex] using hhead)]
    simp [regex, hplain, readLiteral?]
  | startsWith => simp [ofRegex?, regex, hplain, readLiteral?]
  | endsWith =>
    have hhead := head?_escapeRegex_append pattern.toList ['$'] (by simp)
    rw [ofRegex?_of_head?_ne (by simpa [regex] using hhead)]
    simp [regex, hend, readLiteral?]

end TextTest

end Sift
