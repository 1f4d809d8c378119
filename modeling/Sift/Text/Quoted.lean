import Sift.Text.Printable

/-!
# Quoted text

How a text constant is shown in a message: in double quotes, with a backslash before quotes and
backslashes, short escapes for the common controls, and the code point in hexadecimal for every
character that would not be seen where it stands.
-/
namespace Sift.Text

/-- A code point in hexadecimal, in braces. -/
def codeEscape (c : Char) : List Char :=
  '\\' :: 'u' :: '\x7b' :: (Nat.toDigits 16 c.toNat ++ ['\x7d'])

/-- One character as it stands in a quoted text. -/
def quotedChar (c : Char) : List Char :=
  match c with
  | '\x00' => ['\\', '0']
  | '\t' => ['\\', 't']
  | '\r' => ['\\', 'r']
  | '\n' => ['\\', 'n']
  | '\\' => ['\\', '\\']
  | '"' => ['\\', '"']
  | _ => if isExtender c || isUnprintable c then codeEscape c else [c]

/-- A text in quotes. -/
def quoted (s : String) : String :=
  String.ofList ('"' :: (s.toList.flatMap quotedChar ++ ['"']))

@[simp] theorem quoted_empty : quoted "" = "\"\"" := by decide

end Sift.Text
