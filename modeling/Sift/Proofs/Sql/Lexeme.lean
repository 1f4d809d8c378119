import Mathlib.Tactic.SplitIfs
import Sift.Sql.Token

/-!
# Statement text read back as lexemes

`SqlDialect.lex` reads text by the lexical rules of a dialect: quoted identifiers and literals whose
closing quote is doubled inside, placeholders, numbers, words and marks. It is meant to refuse
rather than to guess. What it has no rule for, such as a comment, an unclosed quote or the
placeholder of another dialect, has no reading.
-/
namespace Sift

/-- What text consists of besides blanks. `π` is what is known about a placeholder: how it is
written or what it stands for. -/
inductive Lexeme (π : Type) where
  | word (w : String)
  | mark (m : String)
  | number (n : Nat)
  | literal (s : String)
  | ident (name : String)
  | param (p : π)

namespace SqlDialect

/-- The characters of words. -/
def isNameChar (c : Char) : Bool := c.isAlphanum || c == '_'

/-- The character that takes away the meaning of the next one inside a literal. -/
def literalEscape : SqlDialect → Option Char
  | mySql => some '\\'
  | postgres | sqlite | sqlServer => none

/-- The character that begins a placeholder. -/
def paramSign : SqlDialect → Char
  | postgres => '$'
  | mySql => '?'
  | sqlite => ':'
  | sqlServer => '@'

/-- The characters that a placeholder goes on with. -/
def isParamChar : SqlDialect → Char → Bool
  | postgres => Char.isDigit
  | mySql => fun _ => false
  | sqlite | sqlServer => isNameChar

/-- The inside of something quoted, with what follows the closing quote. -/
def readQuoted (escape : Option Char) (close : Char) : List Char → Option (List Char × List Char)
  | [] => none
  | c :: cs =>
    if some c = escape then
      match cs with
      | [] => none
      | next :: rest =>
        (readQuoted escape close rest).map fun (body, after) => (c :: next :: body, after)
    else if c = close then
      match cs with
      | [] => some ([], [])
      | next :: rest =>
        if next = close then
          (readQuoted escape close rest).map fun (body, after) => (c :: body, after)
        else some ([], cs)
    else (readQuoted escape close cs).map fun (body, after) => (c :: body, after)

/-- The mark that begins with a character, as long as possible. Two hyphens begin a comment. -/
def readMark : Char → List Char → Option (String × List Char)
  | '(', cs => some ("(", cs)
  | ')', cs => some (")", cs)
  | ',', cs => some (",", cs)
  | '=', cs => some ("=", cs)
  | '<', '=' :: cs => some ("<=", cs)
  | '<', '>' :: cs => some ("<>", cs)
  | '<', cs => some ("<", cs)
  | '>', '=' :: cs => some (">=", cs)
  | '>', cs => some (">", cs)
  | '-', '-' :: _ => none
  | '-', cs => some ("-", cs)
  | _, _ => none

/-- The first lexeme of a text that does not begin with a blank, with what follows it. -/
def next? (d : SqlDialect) (c : Char) (cs : List Char) : Option (Lexeme String × List Char) :=
  if c = d.quotes.1 then
    (readQuoted none d.quotes.2 cs).map fun (body, rest) => (.ident (String.ofList body), rest)
  else if c = '\x27' then
    (readQuoted d.literalEscape c cs).map fun (body, rest) => (.literal (String.ofList body), rest)
  else if c = d.paramSign then
    let body := cs.takeWhile d.isParamChar
    if body.isEmpty && d ≠ mySql then none
    else some (.param (String.ofList (c :: body)), cs.dropWhile d.isParamChar)
  else if c.isDigit then
    some (.number (Nat.ofDigitChars 10 (c :: cs.takeWhile Char.isDigit) 0),
      cs.dropWhile Char.isDigit)
  else if isNameChar c then
    some (.word (String.ofList (c :: cs.takeWhile isNameChar)), cs.dropWhile isNameChar)
  else (readMark c cs).map fun (m, rest) => (.mark m, rest)

theorem readQuoted_cons {escape : Option Char} {close c : Char} (he : some c ≠ escape)
    (hc : c ≠ close) (cs : List Char) :
    readQuoted escape close (c :: cs) =
      (readQuoted escape close cs).map fun (body, after) => (c :: body, after) := by
  rw [readQuoted.eq_def]
  simp [he, hc]

theorem length_readQuoted {escape : Option Char} {close : Char} {cs body rest : List Char}
    (h : readQuoted escape close cs = some (body, rest)) : rest.length < cs.length := by
  induction cs using readQuoted.induct escape close generalizing body rest with
  | case1 => simp [readQuoted] at h
  | case2 c he => simp [readQuoted, he] at h
  | case3 c he next cs ih =>
    simp only [readQuoted, he, if_true, Option.map_eq_some_iff, Prod.exists, Prod.mk.injEq] at h
    obtain ⟨inner, after, hread, -, rfl⟩ := h
    exact Nat.lt_succ_of_lt (Nat.lt_succ_of_lt (ih hread))
  | case4 he =>
    simp only [readQuoted, he, if_true, if_false, Option.some.injEq, Prod.mk.injEq] at h
    simp [← h.2]
  | case5 cs he ih =>
    simp only [readQuoted, he, if_true, if_false, Option.map_eq_some_iff, Prod.exists,
      Prod.mk.injEq] at h
    obtain ⟨inner, after, hread, -, rfl⟩ := h
    exact Nat.lt_succ_of_lt (Nat.lt_succ_of_lt (ih hread))
  | case6 next cs hn he =>
    simp only [readQuoted, he, hn, if_true, if_false, Option.some.injEq, Prod.mk.injEq] at h
    rw [← h.2]
    exact Nat.lt_succ_self _
  | case7 c cs he hc ih =>
    rw [readQuoted_cons he hc] at h
    simp only [Option.map_eq_some_iff, Prod.exists, Prod.mk.injEq] at h
    obtain ⟨inner, after, hread, -, rfl⟩ := h
    exact Nat.lt_succ_of_lt (ih hread)

theorem length_readMark {c : Char} {cs rest : List Char} {m : String}
    (h : readMark c cs = some (m, rest)) : rest.length ≤ cs.length := by
  unfold readMark at h
  split at h <;> simp_all

theorem length_next? {d : SqlDialect} {c : Char} {cs rest : List Char} {l : Lexeme String}
    (h : d.next? c cs = some (l, rest)) : rest.length ≤ cs.length := by
  unfold next? at h
  split_ifs at h
  · simp only [Option.map_eq_some_iff, Prod.exists, Prod.mk.injEq] at h
    obtain ⟨body, after, hread, -, rfl⟩ := h
    exact Nat.le_of_lt (length_readQuoted hread)
  · simp only [Option.map_eq_some_iff, Prod.exists, Prod.mk.injEq] at h
    obtain ⟨body, after, hread, -, rfl⟩ := h
    exact Nat.le_of_lt (length_readQuoted hread)
  · simp only [Option.ite_none_left_eq_some, Option.some.injEq, Prod.mk.injEq] at h
    rw [← h.2.2]
    exact (List.dropWhile_sublist _).length_le
  · simp only [Option.some.injEq, Prod.mk.injEq] at h
    rw [← h.2]
    exact (List.dropWhile_sublist _).length_le
  · simp only [Option.some.injEq, Prod.mk.injEq] at h
    rw [← h.2]
    exact (List.dropWhile_sublist _).length_le
  · simp only [Option.map_eq_some_iff, Prod.exists, Prod.mk.injEq] at h
    obtain ⟨m, after, hread, -, rfl⟩ := h
    exact length_readMark hread

/-- The lexemes of a text. -/
def lex (d : SqlDialect) : List Char → Option (List (Lexeme String))
  | [] => some []
  | c :: cs =>
    if c.isWhitespace then d.lex cs
    else
      match h : d.next? c cs with
      | none => none
      | some (l, rest) =>
        have : rest.length ≤ cs.length := length_next? h
        (d.lex rest).map (l :: ·)
termination_by cs => cs.length

theorem lex_nil (d : SqlDialect) : d.lex [] = some [] := by rw [lex]

theorem lex_blank (d : SqlDialect) (cs : List Char) : d.lex (' ' :: cs) = d.lex cs := by
  rw [lex]
  simp

theorem lex_cons {d : SqlDialect} {c : Char} {cs rest : List Char} {l : Lexeme String}
    (hc : c.isWhitespace = false) (h : d.next? c cs = some (l, rest)) :
    d.lex (c :: cs) = (d.lex rest).map (l :: ·) := by
  rw [lex]
  simp only [hc, Bool.false_eq_true, if_false]
  split
  · rename_i hnone
    simp [h] at hnone
  · rename_i l' rest' hsome
    obtain ⟨rfl, rfl⟩ : l = l' ∧ rest = rest' := by simpa [h] using hsome
    rfl

end SqlDialect

end Sift
