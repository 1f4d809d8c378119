import Sift.Proofs.Document.NullTests
import Sift.Proofs.TextMatch

/-!
# Text matches in filter documents

Each search of a predicate comes to be one regular expression in its filter document. `Regex` is
what a store makes of one: a sequence of characters and anchors that is looked for anywhere in a
text. The anchor of the beginning matches there only; the anchor of the end also matches before a
line feed that ends the text.

A regular expression therefore finds the texts that are searched for and, if it has to match at the
end, those that end with what is searched for but for a last line feed. It finds no others, and none
at all if there is nothing to find but line feeds: `Predicate.regexes_match`.
-/
namespace Sift

/-- A piece of a regular expression. -/
inductive RegexItem where
  | char (c : Char)
  /-- The beginning of the text. -/
  | start
  /-- The end of the text. -/
  | finish
deriving DecidableEq

/-- A regular expression, taken apart. -/
abbrev Regex : Type := List RegexItem

namespace Regex

open RegexItem

/-- Whether the text from some place on begins with a match, the place being the beginning of the
whole text or not. -/
def matchesFrom (atStart : Bool) : Regex → List Char → Bool
  | [], _ => true
  | .char _ :: _, [] => false
  | .char c :: items, b :: cs => b == c && matchesFrom false items cs
  | .start :: items, cs => atStart && matchesFrom atStart items cs
  | .finish :: items, cs => (cs == [] || cs == ['\n']) && matchesFrom atStart items cs

/-- Whether there is a match at some place of what is left of a text. -/
def findsFrom (atStart : Bool) (items : Regex) : List Char → Bool
  | [] => matchesFrom atStart items []
  | c :: cs => matchesFrom atStart items (c :: cs) || findsFrom false items cs

/-- Whether there is a match anywhere in a text. -/
def finds (items : Regex) (text : List Char) : Bool := findsFrom true items text

/-- A literal text, and the anchor of the end behind it if there is one. -/
def ofLiteral (read : List Char × Bool) : Regex :=
  read.1.map char ++ if read.2 then [finish] else []

/-- Take a regular expression apart, if there is nothing in it but anchors around a literal text. -/
def read? (regex : String) : Option Regex :=
  match regex.toList with
  | '^' :: rest => (TextTest.readLiteral? rest).map fun read => start :: ofLiteral read
  | cs => (TextTest.readLiteral? cs).map ofLiteral

/-- The regular expression that a test asks for. -/
def ofTest (pattern : List Char) : TextTest → Regex
  | .contains => pattern.map char
  | .startsWith => start :: pattern.map char
  | .endsWith => pattern.map char ++ [finish]

/-! ## Regular expressions are read back -/

theorem read?_of_head?_ne {regex : String} (h : regex.toList.head? ≠ some '^') :
    read? regex = (TextTest.readLiteral? regex.toList).map ofLiteral := by
  unfold read?
  split
  · rename_i heq
    simp [heq] at h
  · rfl

/-- The regular expression of a test is read as the one that the test asks for. -/
theorem read?_regex (test : TextTest) (pattern : String) :
    read? (test.regex pattern) = some (ofTest pattern.toList test) := by
  have hplain := TextTest.readLiteral?_escapeRegex pattern.toList []
  have hend := TextTest.readLiteral?_escapeRegex pattern.toList ['$']
  rw [List.append_nil] at hplain
  cases test with
  | contains =>
    have hhead := TextTest.head?_escapeRegex_append pattern.toList [] (by simp)
    rw [List.append_nil] at hhead
    rw [read?_of_head?_ne (by simpa [TextTest.regex] using hhead)]
    simp [TextTest.regex, hplain, TextTest.readLiteral?, ofLiteral, ofTest]
  | startsWith =>
    simp [read?, TextTest.regex, hplain, TextTest.readLiteral?, ofLiteral, ofTest]
  | endsWith =>
    have hhead := TextTest.head?_escapeRegex_append pattern.toList ['$'] (by simp)
    rw [read?_of_head?_ne (by simpa [TextTest.regex] using hhead)]
    simp [TextTest.regex, hend, TextTest.readLiteral?, ofLiteral, ofTest]

/-! ## What the regular expressions of tests find -/

/-- A match anywhere is a match behind something; only behind nothing is it at the beginning. -/
theorem findsFrom_iff (atStart : Bool) (items : Regex) (text : List Char) :
    findsFrom atStart items text = true ↔
      ∃ before rest, text = before ++ rest ∧
        matchesFrom (atStart && before.isEmpty) items rest = true := by
  induction text generalizing atStart with
  | nil =>
    constructor
    · intro h
      exact ⟨[], [], rfl, by simpa [findsFrom] using h⟩
    · rintro ⟨before, rest, hsplit, hmatch⟩
      obtain ⟨rfl, rfl⟩ := List.append_eq_nil_iff.1 hsplit.symm
      simpa [findsFrom] using hmatch
  | cons c cs ih =>
    rw [findsFrom, Bool.or_eq_true, ih]
    constructor
    · rintro (hmatch | ⟨before, rest, rfl, hmatch⟩)
      · exact ⟨[], c :: cs, rfl, by simpa using hmatch⟩
      · exact ⟨c :: before, rest, rfl, by simpa using hmatch⟩
    · rintro ⟨before, rest, hsplit, hmatch⟩
      cases before with
      | nil =>
        left
        rw [List.nil_append] at hsplit
        simpa [hsplit] using hmatch
      | cons b before =>
        right
        obtain ⟨rfl, rfl⟩ := List.cons.inj hsplit
        exact ⟨before, rest, rfl, by simpa using hmatch⟩

theorem matchesFrom_literal (atStart : Bool) (cs : List Char) (items : Regex) (text : List Char) :
    matchesFrom atStart (cs.map char ++ items) text = true ↔
      ∃ rest, text = cs ++ rest ∧ matchesFrom (atStart && cs.isEmpty) items rest = true := by
  induction cs generalizing atStart text with
  | nil => simp
  | cons c cs ih =>
    cases text with
    | nil => simp [matchesFrom]
    | cons b text =>
      simp only [List.map_cons, List.cons_append, matchesFrom, Bool.and_eq_true, beq_iff_eq, ih]
      simp [and_assoc]

/-- A literal text matches where the text goes on with it. -/
theorem matchesFrom_map_char (atStart : Bool) (cs text : List Char) :
    matchesFrom atStart (cs.map char) text = true ↔ cs <+: text := by
  have h := matchesFrom_literal atStart cs [] text
  rw [List.append_nil] at h
  rw [h]
  simp [matchesFrom, List.IsPrefix, eq_comm]

theorem finds_contains (pattern text : List Char) :
    finds (ofTest pattern .contains) text = true ↔ pattern <:+: text := by
  rw [finds, findsFrom_iff]
  simp only [ofTest, matchesFrom_map_char]
  constructor
  · rintro ⟨before, rest, rfl, hprefix⟩
    exact hprefix.isInfix.trans (List.suffix_append before rest).isInfix
  · rintro ⟨before, after, rfl⟩
    exact ⟨before, pattern ++ after, by simp, List.prefix_append pattern after⟩

theorem finds_startsWith (pattern text : List Char) :
    finds (ofTest pattern .startsWith) text = true ↔ pattern <+: text := by
  rw [finds, findsFrom_iff]
  simp only [ofTest, matchesFrom, Bool.and_eq_true, matchesFrom_map_char]
  constructor
  · rintro ⟨before, rest, rfl, hstart, hprefix⟩
    obtain rfl : before = [] := by simpa using hstart
    exact hprefix
  · intro hprefix
    exact ⟨[], text, rfl, by simp, hprefix⟩

/-- The anchor of the end lets one line feed pass. -/
theorem finds_endsWith (pattern text : List Char) :
    finds (ofTest pattern .endsWith) text = true ↔
      pattern <:+ text ∨ ∃ front, text = front ++ ['\n'] ∧ pattern <:+ front := by
  rw [finds, findsFrom_iff]
  simp only [ofTest, matchesFrom_literal, matchesFrom, Bool.and_true, Bool.or_eq_true, beq_iff_eq]
  constructor
  · rintro ⟨before, _, rfl, rest, rfl, rfl | rfl⟩
    · exact .inl ⟨before, by simp⟩
    · exact .inr ⟨before ++ pattern, by simp, ⟨before, rfl⟩⟩
  · rintro (⟨before, rfl⟩ | ⟨_, rfl, before, rfl⟩)
    · exact ⟨before, pattern, rfl, [], by simp, .inl rfl⟩
    · exact ⟨before, pattern ++ ['\n'], by simp, ['\n'], rfl, .inr rfl⟩

end Regex

/-! ## Searches before a last line feed -/

namespace TextMatch

/-- A text is one that is searched for, or would be without the line feed at its end where the
search is for an ending. -/
def FindsLoosely (m : TextMatch) (text : String) : Prop :=
  m.Finds text ∨
    m.test = .endsWith ∧ ∃ front, text.toList = front ++ ['\n'] ∧ m.pattern.toList <:+ front

/-- The regular expression of a search finds this much. -/
theorem finds_ofTest_iff (m : TextMatch) (text : String) :
    (Regex.ofTest m.pattern.toList m.test).finds text.toList = true ↔ m.FindsLoosely text := by
  obtain ⟨column, test, pattern, negated⟩ := m
  cases test with
  | contains => simp [Regex.finds_contains, FindsLoosely, Finds]
  | startsWith => simp [Regex.finds_startsWith, FindsLoosely, Finds]
  | endsWith => simp [Regex.finds_endsWith, FindsLoosely, Finds]

/-- If moving the first character of a text to its end changes nothing but that character, the text
consists of one character alone. -/
theorem eq_of_cons_eq_concat {first c : Char} {cs : List Char} (h : first :: cs = cs ++ [c]) :
    ∀ b ∈ first :: cs, b = c := by
  induction cs generalizing first with
  | nil => simpa using h
  | cons b cs ih =>
    obtain ⟨rfl, hrest⟩ := List.cons.inj h
    have hall := ih hrest
    intro b' hb'
    rcases List.mem_cons.1 hb' with rfl | hb'
    · exact hall b' (List.mem_cons_self ..)
    · exact hall b' hb'

/-- Looking past a last line feed makes no difference to a search, unless it is for an ending in
which there is anything but line feeds. -/
theorem findsLoosely_iff_finds (m : TextMatch) :
    (∀ text, m.FindsLoosely text ↔ m.Finds text) ↔
      (m.test = .endsWith → ∀ c ∈ m.pattern.toList, c = '\n') := by
  constructor
  · intro h htest
    -- what is searched for, with one line feed more
    have hloosely : m.FindsLoosely (String.ofList (m.pattern.toList ++ ['\n'])) :=
      .inr ⟨htest, m.pattern.toList, by simp, List.suffix_rfl⟩
    have hfinds := (h _).1 hloosely
    rw [Finds, htest, String.toList_ofList] at hfinds
    obtain ⟨front, hfront⟩ := hfinds
    obtain ⟨first, rfl⟩ : ∃ first, front = [first] := by
      have hlength := congrArg List.length hfront
      simp only [List.length_append, List.length_singleton] at hlength
      exact List.length_eq_one_iff.1 (by omega)
    exact fun c hc => eq_of_cons_eq_concat hfront c (List.mem_cons_of_mem _ hc)
  · intro h text
    constructor
    · rintro (hfinds | ⟨htest, front, htext, hsuffix⟩)
      · exact hfinds
      · rw [Finds, htest, htext]
        have hfeeds : m.pattern.toList = List.replicate m.pattern.toList.length '\n' :=
          List.eq_replicate_iff.2 ⟨rfl, h htest⟩
        have hmore : m.pattern.toList <:+ m.pattern.toList ++ ['\n'] := by
          rw [hfeeds, ← List.replicate_succ', List.replicate_succ]
          exact List.suffix_cons _ _
        obtain ⟨before, rfl⟩ := hsuffix
        rw [List.append_assoc]
        exact hmore.trans (List.suffix_append before _)
    · exact .inl

end TextMatch

/-! ## Regular expressions in filters -/

/-- A test of a column by a regular expression. -/
structure RegexTest where
  column : String
  regex : String
  negated : Bool

namespace RegexTest

/-- The test by a regular expression that a test of a column is, if it is one. -/
def ofTest? : String × Json → Option RegexTest
  | (column, .object [("$regex", .string regex)]) => some ⟨column, regex, false⟩
  | (column, .object [("$not", .object [("$regex", .string regex)])]) => some ⟨column, regex, true⟩
  | _ => none

/-- A regular expression is read and finds a search, but for a last line feed. -/
def Matches (r : RegexTest) (m : TextMatch) : Prop :=
  r.column = m.column ∧ r.negated = m.negated ∧
    ∃ items, Regex.read? r.regex = some items ∧
      ∀ text : String, items.finds text.toList = true ↔ m.FindsLoosely text

end RegexTest

/-- The tests by regular expressions in a filter, in reading order. -/
def Json.regexes (filter : Json) : List RegexTest := filter.tests.filterMap RegexTest.ofTest?

namespace Clause

/-- A guard is no test by a regular expression. -/
theorem regexes_guardFilter (f : Field) (guard : NullGuard) (key : String) (operand : Json) :
    (guardFilter f guard (.member f.column (.member key operand))).regexes =
      (RegexTest.ofTest? (f.column, .member key operand)).toList := by
  have hguard : (guard.tests f).filterMap RegexTest.ofTest? = [] := by
    cases guard <;> simp [NullGuard.tests, RegexTest.ofTest?, Json.member]
  rw [Json.regexes, tests_guardFilter, List.filterMap_append, hguard, List.nil_append]
  cases h : RegexTest.ofTest? (f.column, .member key operand) <;> simp [h]

/-- The regular expression of a clause finds its search. -/
theorem forall₂_regexes (c : Clause) :
    List.Forall₂ RegexTest.Matches c.filter.regexes c.textMatches := by
  cases c with
  | always truth =>
    have hnone : (always truth).filter.regexes = [] := by simp [Json.regexes, filter]
    rw [hnone]
    exact .nil
  | nullTest f negated =>
    have hnone : (nullTest f negated).filter.regexes = [] := by
      rw [Json.regexes, filter, nullFilter, Json.tests_member]
      cases negated <;> rfl
    rw [hnone]
    exact .nil
  | compare f op v guard =>
    have hnone : (compare f op v guard).filter.regexes = [] := by
      refine (regexes_guardFilter f guard op.filterKey v.toJson).trans ?_
      cases op <;> simp [RegexTest.ofTest?, Json.member, Comparator.filterKey]
    rw [hnone]
    exact .nil
  | oneOf f values negated guard =>
    have hnone : (oneOf f values negated guard).filter.regexes = [] := by
      refine (regexes_guardFilter f guard _ (.array (values.map Value.toJson))).trans ?_
      cases negated <;> simp [RegexTest.ofTest?, Json.member]
    rw [hnone]
    exact .nil
  | like f pattern test negated guard =>
    have hone : (like f pattern test negated guard).filter.regexes =
        [⟨f.column, test.regex pattern, negated⟩] := by
      cases negated with
      | false => exact regexes_guardFilter f guard "$regex" (.string (test.regex pattern))
      | true =>
        exact regexes_guardFilter f guard "$not" (.member "$regex" (.string (test.regex pattern)))
    rw [hone]
    refine .cons ⟨rfl, rfl, _, Regex.read?_regex test pattern, ?_⟩ .nil
    exact TextMatch.finds_ofTest_iff ⟨f.column, test, pattern, negated⟩

end Clause

/-- The regular expressions of a condition find its searches, in their order. -/
theorem Condition.forall₂_regexes (c : Condition) :
    List.Forall₂ RegexTest.Matches c.filter.regexes c.textMatches := by
  induction c with
  | clause c => exact c.forall₂_regexes
  | logical op left right ihl ihr =>
    rw [Json.regexes, tests_filter_logical, List.filterMap_append]
    exact List.rel_append ihl ihr

/-- In the filter of an accepted predicate there is one regular expression for each search, in
order. It finds the texts that contain what is searched for, or begin or end with it, and those that
end with it but for a last line feed. That is what is searched for, neither more nor less, unless
the search is for an ending in which there is anything but line feeds. -/
theorem Predicate.regexes_match {t : Table} {p : Predicate} {c : Condition}
    (h : Condition.ofPredicate t p = .ok c) :
    ∃ filter, t.filterOf p = .ok filter ∧
      List.Forall₂ RegexTest.Matches filter.regexes (p.textMatches t) ∧
      ∀ m ∈ p.textMatches t, (∀ text, m.FindsLoosely text ↔ m.Finds text) ↔
        (m.test = .endsWith → ∀ c ∈ m.pattern.toList, c = '\n') := by
  refine ⟨c.filter, ?_, ?_, fun m _ => m.findsLoosely_iff_finds⟩
  · rw [Table.filterOf, h]
    rfl
  · rw [← Condition.textMatches_of_ofPredicate h]
    exact c.forall₂_regexes

theorem Predicate.regexes_match_wildPredicate : ∃ c filter,
    Condition.ofPredicate (.people .document) wildPredicate = .ok c ∧
    (Table.people .document).filterOf wildPredicate = .ok filter ∧
    List.Forall₂ RegexTest.Matches filter.regexes
      [⟨"na\"m\x60e] = $1", .contains, "[50%]_\\^-", false⟩, ⟨"id", .endsWith, "\\", true⟩] ∧
    ∃ text, TextMatch.FindsLoosely ⟨"id", .endsWith, "\\", true⟩ text ∧
      ¬ TextMatch.Finds ⟨"id", .endsWith, "\\", true⟩ text := by
  obtain ⟨c, hc⟩ : ∃ c, Condition.ofPredicate (.people .document) wildPredicate = .ok c := ⟨_, rfl⟩
  obtain ⟨filter, hfilter, hmatch, hloosely⟩ := Predicate.regexes_match hc
  refine ⟨c, filter, hc, hfilter, hmatch, ?_⟩
  by_contra hnone
  simp only [not_exists, not_and, not_not] at hnone
  have hmem : (⟨"id", .endsWith, "\\", true⟩ : TextMatch) ∈
      wildPredicate.textMatches (.people .document) := .tail _ (.head _)
  have hfeeds := (hloosely _ hmem).1 fun text => ⟨hnone text, .inl⟩
  exact absurd (hfeeds rfl '\\' (.head _)) (by decide)

/-- The name ends in an x. -/
def endingInX : Predicate := .textMatch "name" (.text "x") .endsWith false

/-- To ask for a name that ends in an x is to ask for one that ends in an x and a line feed as well,
which no relational store finds. -/
theorem Predicate.filterOf_endingInX :
    (Table.people .document).filterOf endingInX =
      .ok (.member "na\"m\x60e] = $1" (.member "$regex" (.string "x$"))) ∧
    (∃ items, Regex.read? "x$" = some items ∧ items.finds "x\n".toList = true) ∧
    ¬ "x".toList <:+ "x\n".toList ∧
    ∀ d : SqlDialect, ∃ ts ps e items,
      d.whereTokens (.people (.sql d)) filterStem endingInX .empty = .ok (ts, ps) ∧
      d.readCondition ⟨d.spell ts, ps⟩ = some e ∧
      e = .like "na\"m\x60e] = $1" (.text "%x") d.declaredEscape false ∧
      LikePattern.read? d d.declaredEscape "%x" = some items ∧
      items.fits "x\n".toList = false := by
  refine ⟨rfl, ⟨[.char 'x', .finish], by decide, by decide⟩, by decide, fun d => ?_⟩
  obtain ⟨c, hc⟩ : ∃ c, Condition.ofPredicate (.people (.sql d)) endingInX = .ok c := ⟨_, rfl⟩
  have hread := Condition.readCondition_spell d (Condition.sound_of_ofPredicate hc)
  refine ⟨_, _, c.written d, LikePattern.ofTest "x".toList .endsWith,
    d.whereTokens_of_ofPredicate hc filterStem .empty, hread, ?_, ?_, by decide⟩
  · cases hc
    cases d <;> rfl
  · cases d <;> exact LikePattern.read?_wildcards _ .endsWith "x"

end Sift
