import Mathlib.Data.List.Infix
import Sift.Condition.Sql

/-!
# Patterns and what they match

`LikePattern.read?` takes a pattern apart by the rules of a dialect: `%` stands for any text, `_`
for any character, an escape character makes the next one stand for itself, and where there are
classes `[` opens one that the next `]` closes. A pattern that ends behind an escape character or
inside a class is no pattern.

The pattern that a text test binds is one, and matches the texts that pass the test, whatever is
searched for: `LikePattern.read?_wildcards` and `LikePattern.fits_ofTest`.
-/
namespace Sift

/-- Whether a text passes a test. -/
def TextTest.fits (pattern text : List Char) : TextTest → Bool
  | contains => decide (pattern <:+: text)
  | startsWith => decide (pattern <+: text)
  | endsWith => decide (pattern <:+ text)

/-- A piece of a pattern. -/
inductive LikeItem where
  /-- Any text, the empty one included. -/
  | many
  /-- One character that lies in one of some ranges, or in none of them. -/
  | one (outside : Bool) (ranges : List (Char × Char))

namespace LikeItem

/-- Any character. -/
def anyChar : LikeItem := .one true []

/-- A character that stands for itself. -/
def char (c : Char) : LikeItem := .one false [(c, c)]

/-- The ranges between the brackets of a class; a single character is a range of its own. -/
def ranges : List Char → List (Char × Char)
  | low :: '-' :: high :: rest => (low, high) :: ranges rest
  | c :: rest => (c, c) :: ranges rest
  | [] => []

/-- What stands between the brackets of a class. -/
def ofClass : List Char → LikeItem
  | '^' :: rest => .one true (ranges rest)
  | inside => .one false (ranges inside)

/-- A character lies in one of some ranges. -/
def covers (ranges : List (Char × Char)) (c : Char) : Bool :=
  ranges.any fun range => range.1.toNat ≤ c.toNat && c.toNat ≤ range.2.toNat

end LikeItem

/-- A pattern, taken apart. -/
abbrev LikePattern : Type := List LikeItem

namespace LikePattern

open LikeItem

/-- Whether a pattern matches a text. -/
def fits : LikePattern → List Char → Bool
  | [], cs => cs.isEmpty
  | .many :: rest, cs => cs.tails.any (fits rest)
  | .one .. :: _, [] => false
  | .one outside ranges :: rest, c :: cs => (covers ranges c != outside) && fits rest cs

/-- Where in a pattern a reader is. -/
inductive Place where
  | plain
  /-- Behind an escape character. -/
  | escaped
  /-- Inside a class, of which some characters have been read. -/
  | inClass (inside : List Char)

/-- Take what is left of a pattern apart. -/
def readFrom? (escape : Option Char) (classes : Bool) : Place → List Char → Option LikePattern
  | .plain, [] => some []
  | .escaped, [] | .inClass _, [] => none
  | .escaped, c :: cs => (readFrom? escape classes .plain cs).map (char c :: ·)
  | .inClass inside, c :: cs =>
    if c = ']' then (readFrom? escape classes .plain cs).map (ofClass inside :: ·)
    else readFrom? escape classes (.inClass (inside ++ [c])) cs
  | .plain, c :: cs =>
    if escape = some c then readFrom? escape classes .escaped cs
    else if c = '%' then (readFrom? escape classes .plain cs).map (many :: ·)
    else if c = '_' then (readFrom? escape classes .plain cs).map (anyChar :: ·)
    else if c = '[' ∧ classes then readFrom? escape classes (.inClass []) cs
    else (readFrom? escape classes .plain cs).map (char c :: ·)

end LikePattern

namespace SqlDialect

/-- The escape character of patterns: the declared one, or else that of the dialect. -/
def likeEscape? (d : SqlDialect) (declared : Option String) : Option Char :=
  match declared, d with
  | some s, _ => s.toList.head?
  | none, postgres | none, mySql => some '\\'
  | none, sqlite | none, sqlServer => none

/-- Patterns have classes. -/
def hasClasses : SqlDialect → Bool
  | sqlServer => true
  | _ => false

/-- What is declared behind a pattern. -/
def declaredEscape (d : SqlDialect) : Option String :=
  if d.declaresEscape then some "\\" else none

end SqlDialect

namespace LikePattern

open LikeItem

/-- Take a pattern apart by the rules of a dialect. -/
def read? (d : SqlDialect) (declared : Option String) (pattern : String) : Option LikePattern :=
  readFrom? (d.likeEscape? declared) d.hasClasses .plain pattern.toList

/-- The pattern that a test asks for. -/
def ofTest (pattern : List Char) : TextTest → LikePattern
  | .contains => many :: (pattern.map char ++ [many])
  | .startsWith => pattern.map char ++ [many]
  | .endsWith => many :: pattern.map char

/-! ## Escaped patterns are read back -/

section Reading

variable (d : SqlDialect)

/-- One escaped character is read as itself. -/
theorem readFrom?_escapeLikeChar (c : Char) (rest : List Char) :
    readFrom? (d.likeEscape? d.declaredEscape) d.hasClasses .plain (d.escapeLikeChar c ++ rest) =
      (readFrom? (d.likeEscape? d.declaredEscape) d.hasClasses .plain rest).map (char c :: ·) := by
  have hslash (hd : d.likeEscape? d.declaredEscape = some '\\') (hc : d.hasClasses = false)
      (he : d.escapeLikeChar c = if c = '\\' ∨ c = '%' ∨ c = '_' then ['\\', c] else [c]) :
      readFrom? (d.likeEscape? d.declaredEscape) d.hasClasses .plain (d.escapeLikeChar c ++ rest) =
        (readFrom? (d.likeEscape? d.declaredEscape) d.hasClasses .plain rest).map (char c :: ·) := by
    rw [hd, hc, he]
    split
    · simp [readFrom?]
    · rename_i hplain
      obtain ⟨hne, hpercent, hunder⟩ := not_or.1 hplain |>.imp id not_or.1
      simp [readFrom?, hpercent, hunder, Ne.symm hne]
  cases d with
  | postgres => exact hslash rfl rfl rfl
  | mySql => exact hslash rfl rfl rfl
  | sqlite => exact hslash rfl rfl rfl
  | sqlServer =>
    -- a class of one character; none of the three is one that a class reads in its own way
    simp only [SqlDialect.escapeLikeChar]
    split
    · rename_i hspecial
      obtain rfl | rfl | rfl := hspecial <;> rfl
    · rename_i hplain
      obtain ⟨hbracket, hpercent, hunder⟩ := not_or.1 hplain |>.imp id not_or.1
      simp [readFrom?, SqlDialect.likeEscape?, SqlDialect.declaredEscape,
        SqlDialect.declaresEscape, hbracket, hpercent, hunder]

/-- So is an escaped text. -/
theorem readFrom?_escapeLike (cs rest : List Char) :
    readFrom? (d.likeEscape? d.declaredEscape) d.hasClasses .plain
        (cs.flatMap d.escapeLikeChar ++ rest) =
      (readFrom? (d.likeEscape? d.declaredEscape) d.hasClasses .plain rest).map
        (cs.map char ++ ·) := by
  induction cs with
  | nil => simp
  | cons c cs ih =>
    rw [List.flatMap_cons, List.append_assoc, readFrom?_escapeLikeChar, ih, Option.map_map]
    rfl

theorem readFrom?_percent (rest : List Char) :
    readFrom? (d.likeEscape? d.declaredEscape) d.hasClasses .plain ('%' :: rest) =
      (readFrom? (d.likeEscape? d.declaredEscape) d.hasClasses .plain rest).map (many :: ·) := by
  cases d <;> rfl

/-- The pattern that a test binds is read as the pattern that it asks for. -/
theorem read?_wildcards (test : TextTest) (pattern : String) :
    read? d d.declaredEscape (test.wildcards (d.escapeLike pattern)) =
      some (ofTest pattern.toList test) := by
  have hend := readFrom?_escapeLike d pattern.toList []
  have hmore := readFrom?_escapeLike d pattern.toList ['%']
  rw [readFrom?_percent d []] at hmore
  rw [List.append_nil] at hend
  cases test with
  | contains =>
    simp [read?, TextTest.wildcards, SqlDialect.escapeLike, readFrom?_percent, hmore, readFrom?,
      ofTest]
  | startsWith =>
    simp [read?, TextTest.wildcards, SqlDialect.escapeLike, hmore, readFrom?, ofTest]
  | endsWith =>
    simp [read?, TextTest.wildcards, SqlDialect.escapeLike, readFrom?_percent, hend, readFrom?,
      ofTest]

end Reading

/-! ## What the patterns of tests match -/

theorem fits_char_cons (c : Char) (items : LikePattern) (cs : List Char) :
    fits (char c :: items) cs = true ↔ ∃ rest, cs = c :: rest ∧ fits items rest = true := by
  cases cs with
  | nil => simp [char, fits]
  | cons b cs =>
    have hcovers : covers [(c, c)] b = true ↔ b = c := by
      rw [← Char.toNat_inj]
      simp [covers]
      omega
    simp [char, fits, hcovers]

theorem fits_literal (cs : List Char) (items : LikePattern) (text : List Char) :
    fits (cs.map char ++ items) text = true ↔
      ∃ rest, text = cs ++ rest ∧ fits items rest = true := by
  induction cs generalizing text with
  | nil => simp
  | cons c cs ih =>
    rw [List.map_cons, List.cons_append, fits_char_cons]
    constructor
    · rintro ⟨rest, rfl, hrest⟩
      obtain ⟨rest, rfl, hitems⟩ := (ih rest).1 hrest
      exact ⟨rest, rfl, hitems⟩
    · rintro ⟨rest, rfl, hitems⟩
      exact ⟨cs ++ rest, rfl, (ih _).2 ⟨rest, rfl, hitems⟩⟩

theorem fits_many (items : LikePattern) (text : List Char) :
    fits (many :: items) text = true ↔ ∃ rest, rest <:+ text ∧ fits items rest = true := by
  simp [fits, List.any_eq_true]

/-- Nothing but a wildcard matches everything. -/
theorem fits_singleton_many (text : List Char) : fits [many] text = true :=
  (fits_many [] text).2 ⟨[], List.nil_suffix, rfl⟩

theorem fits_start (cs text : List Char) :
    fits (cs.map char ++ [many]) text = true ↔ cs <+: text := by
  rw [fits_literal]
  constructor
  · rintro ⟨rest, rfl, -⟩
    exact List.prefix_append cs rest
  · rintro ⟨rest, rfl⟩
    exact ⟨rest, rfl, fits_singleton_many rest⟩

/-- The pattern of a test matches the texts that pass the test. -/
theorem fits_ofTest (test : TextTest) (pattern text : List Char) :
    fits (ofTest pattern test) text = test.fits pattern text := by
  rw [Bool.eq_iff_iff]
  cases test with
  | contains =>
    rw [ofTest, fits_many, TextTest.fits, decide_eq_true_iff]
    simp only [fits_start]
    constructor
    · rintro ⟨rest, hsuffix, hprefix⟩
      exact hprefix.isInfix.trans hsuffix.isInfix
    · rintro ⟨before, after, rfl⟩
      exact ⟨pattern ++ after, ⟨before, by simp⟩, List.prefix_append pattern after⟩
  | startsWith => rw [ofTest, fits_start, TextTest.fits, decide_eq_true_iff]
  | endsWith =>
    rw [ofTest, fits_many, TextTest.fits, decide_eq_true_iff]
    constructor
    · rintro ⟨rest, hsuffix, hrest⟩
      rw [← List.append_nil (pattern.map char), fits_literal] at hrest
      obtain ⟨rest, rfl, hnil⟩ := hrest
      obtain rfl : rest = [] := by simpa [fits] using hnil
      simpa using hsuffix
    · intro hsuffix
      refine ⟨pattern, hsuffix, ?_⟩
      rw [← List.append_nil (pattern.map char), fits_literal]
      exact ⟨[], by simp, rfl⟩

end LikePattern

end Sift
