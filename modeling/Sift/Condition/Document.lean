import Sift.Condition

/-!
# Conditions as filter documents

A document store is asked in JSON: operators are member names that begin with a dollar sign, and
constants are members like any other. Text tests become regular expressions in which every character
of the pattern stands for itself.
-/
namespace Sift

/-- The characters that a regular expression gives a meaning to. -/
def regexMeta : List Char :=
  ['\\', '.', '+', '*', '?', '(', ')', '|', '[', ']', '\x7b', '\x7d', '^', '$', '#', '&', '-', '~']

/-- The regular expression that matches a text literally. -/
def escapeRegex (cs : List Char) : List Char :=
  cs.flatMap fun c => if c ∈ regexMeta then ['\\', c] else [c]

/-- The regular expression of a test. -/
def TextTest.regex (pattern : String) (test : TextTest) : String :=
  let escaped := escapeRegex pattern.toList
  String.ofList (match test with
    | contains => escaped
    | startsWith => '^' :: escaped
    | endsWith => escaped ++ ['$'])

/-- The operator in filter documents. -/
def Comparator.filterKey : Comparator → String
  | eq => "$eq"
  | ne => "$ne"
  | gt => "$gt"
  | ge => "$gte"
  | lt => "$lt"
  | le => "$lte"

/-- The joint of two filter documents. -/
def Connective.filterKey : Connective → String
  | and => "$and"
  | or => "$or"

namespace Clause

/-- The test for null. -/
def nullFilter (f : Field) (negated : Bool) : Json :=
  Json.member f.column (if negated then Json.member "$ne" .null else .null)

/-- Put the test that a guard asks for beside a core. -/
def guardFilter (f : Field) (guard : NullGuard) (core : Json) : Json :=
  match guard with
  | .none => core
  | .orNull => Json.member "$or" (.array [nullFilter f false, core])
  | .andNotNull => Json.member "$and" (.array [nullFilter f true, core])

/-- The filter document of a clause. -/
def filter : Clause → Json
  | always truth => Json.member "$expr" (.bool truth)
  | nullTest f negated => nullFilter f negated
  | compare f op v guard =>
    guardFilter f guard (Json.member f.column (Json.member op.filterKey v.toJson))
  | oneOf f values negated guard =>
    let key := if negated then "$nin" else "$in"
    guardFilter f guard (Json.member f.column (Json.member key (.array (values.map Value.toJson))))
  | like f pattern test negated guard =>
    let plain := Json.member "$regex" (.string (test.regex pattern))
    let matched := if negated then Json.member "$not" plain else plain
    guardFilter f guard (Json.member f.column matched)

end Clause

namespace Condition

/-- The filter document of a condition. -/
def filter : Condition → Json
  | clause c => c.filter
  | logical op left right => Json.member op.filterKey (.array [left.filter, right.filter])

end Condition

/-- Lower a predicate and spell it as a filter document. -/
def Table.filterOf (t : Table) (p : Predicate) : Except Error Json :=
  (Condition.ofPredicate t p).map Condition.filter

end Sift
