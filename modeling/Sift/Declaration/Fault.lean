import Sift.Declaration.Token

/-!
# Faults of declarations

Why no mapping can be made of a declaration. A `Misreading` says why the tokens of an attribute do
not read as what they should be: what was expected at the first token that does not fit, or that the
tokens ended there, or what is wrong with something that was read whole.
-/
namespace Sift.Declaration

/-- Why tokens cannot be read. -/
inductive Misreading where
  /-- One of several things was expected. -/
  | expected (atEnd : Bool) (what : List String)
  /-- A reserved word stands for an identifier. -/
  | reserved (word : String)
  /-- Tokens are left in a group, or at the end of all. -/
  | leftover (inside : Option Bracket)
  /-- A statement ends without a semicolon. -/
  | semicolonMissing
  /-- A comparison of a comparison. -/
  | comparisonOfComparison
  /-- A conversion with something behind it that would bind tighter. -/
  | behindConversion (what : String)
  | attributeInAttribute
  | attributeOnRange
  | labelledValue
  /-- A text that should be the position of a field is no sequence of tokens. -/
  | unlexable
  | openRangeInSlice
  | indexSuffixed
  | indexNegative
  | indexTooLarge
  /-- Bounds of which none is a trait, of an object type or of an opaque one. -/
  | traitMissing (isObject : Bool)
  | constantBound (mark : String)
  | capturesForbidden
  /-- Lifetimes are bound for a trait that may be missing. -/
  | binderOnOptional
  | genericCondition
  /-- A receiver behind another one. -/
  | secondReceiver
  /-- A receiver behind other arguments. -/
  | lateReceiver
  | negativeInherent
  /-- The reader's bound on nesting is spent. -/
  | tooDeep
deriving DecidableEq

namespace Misreading

/-- What was expected, in words. -/
def wanted : List String → String
  | [] => ""
  | [a] => "expected " ++ a
  | [a, b] => "expected " ++ a ++ " or " ++ b
  | many => "expected one of: " ++ ", ".intercalate many

/-- The message of a misreading. -/
def message : Misreading → String
  | expected atEnd [] => if atEnd then "unexpected end of input" else "unexpected token"
  | expected atEnd what => (if atEnd then "unexpected end of input, " else "") ++ wanted what
  | reserved word => s!"expected identifier, found keyword `{word}`"
  | leftover none => "unexpected token"
  | leftover (some b) => s!"unexpected token, expected `{b.closing}`"
  | semicolonMissing => "unexpected token, expected `;`"
  | comparisonOfComparison => "comparison operators cannot be chained"
  | behindConversion what => "casts cannot be followed by " ++ what
  | attributeInAttribute => "unexpected attribute inside of attribute"
  | attributeOnRange => "attributes are not allowed on range expressions starting with `..`"
  | labelledValue => "parentheses required"
  | unlexable => "cannot parse string into token stream"
  | openRangeInSlice => "range pattern is not allowed unparenthesized inside slice pattern"
  | indexSuffixed => "expected unsuffixed integer"
  | indexNegative => "invalid digit found in string"
  | indexTooLarge => "number too large to fit in target type"
  | traitMissing true => "at least one trait is required for an object type"
  | traitMissing false => "at least one trait must be specified"
  | constantBound mark => s!"`{mark}` is not allowed here"
  | capturesForbidden => "`use<...>` precise capturing syntax is not allowed here"
  | binderOnOptional => "`for<...>` binder not allowed with `?` trait polarity modifier"
  | genericCondition => "generic parameters on `where` clauses are reserved for future use"
  | secondReceiver => "unexpected second method receiver"
  | lateReceiver => "unexpected method receiver"
  | negativeInherent => "inherent impls cannot be negative"
  | tooDeep => "nested too deeply"

end Misreading

/-- Why a declaration has no mapping. -/
inductive Fault where
  | generic
  | unnamedFields
  | notStruct
  /-- An attribute has no list of arguments at all. -/
  | argumentsMissing
  /-- An attribute has a value in place of a list of arguments. -/
  | parenthesesMissing
  | malformed (m : Misreading)
  | tableOptionUnknown
  | tableNotString
  | fieldOptionUnknown
  | keySkipped
deriving DecidableEq

namespace Fault

/-- The message of a fault. -/
def message : Fault → String
  | generic => "Entity cannot be derived for generic types"
  | unnamedFields => "Entity can only be derived for structs with named fields"
  | notStruct => "Entity can only be derived for structs"
  | argumentsMissing => "expected attribute arguments in parentheses: #[orm(...)]"
  | parenthesesMissing => "expected parentheses: #[orm(...)]"
  | malformed m => m.message
  | tableOptionUnknown => "unknown orm attribute; expected `table = \"...\"`"
  | tableNotString => "table name must be a string literal"
  | fieldOptionUnknown => "unknown orm attribute; expected `id`, `skip` or `column = \"...\"`"
  | keySkipped => "a skipped field cannot be the primary key"

end Fault

end Sift.Declaration
