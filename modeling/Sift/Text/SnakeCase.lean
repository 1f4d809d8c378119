import Sift.Text.LetterCase

/-!
# Snake case

A name in lower-case words with low lines between them. Whatever is neither letter nor number
separates words. Inside a run of letters and numbers a word ends between a lower-case letter and an
upper-case one, numbers in between counting to the word before, and before the last of several
upper-case letters that a lower-case letter follows.
-/
namespace Sift.Text.SnakeCase

/-- The case of the letter read last in a word. -/
inductive Last where
  | none
  | lower
  | upper
deriving DecidableEq

/-- The case after one more character; what has no case changes nothing. -/
def Last.next (last : Last) (c : Char) : Last :=
  if isLower c then .lower else if isUpper c then .upper else last

/-- The words of a run of letters and numbers, where `word` has been read of the first. -/
def split (last : Last) (word : List Char) : List Char → List (List Char)
  | [] => []
  | [c] => [word ++ [c]]
  | c :: d :: rest =>
    if last.next c = .lower ∧ isUpper d then (word ++ [c]) :: split .none [] (d :: rest)
    else if last = .upper ∧ isUpper c ∧ isLower d then word :: split .none [c] (d :: rest)
    else split (last.next c) (word ++ [c]) (d :: rest)

/-- The runs of letters and numbers of a text, where `run` has been read of the first. -/
def runs (run : List Char) : List Char → List (List Char)
  | [] => [run]
  | c :: rest => if isAlphanumeric c then runs (run ++ [c]) rest else run :: runs [] rest

/-- A word in lower case. A capital sigma at its end becomes a final one. -/
def lowerWord : List Char → List Char
  | [] => []
  | [c] => if c = 'Σ' then ['ς'] else lowerChar c
  | c :: rest => lowerChar c ++ lowerWord rest

/-- The words of a text. -/
def words (cs : List Char) : List (List Char) := (runs [] cs).flatMap (split .none [])

/-- A name in snake case. -/
def ofName (s : String) : String :=
  String.ofList (['_'].intercalate ((words s.toList).map lowerWord))

end Sift.Text.SnakeCase
