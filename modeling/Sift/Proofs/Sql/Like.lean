import Mathlib.Data.List.Forall2
import Sift.Proofs.Sql.Evaluation
import Sift.Proofs.Sql.Reading
import Sift.Proofs.TextMatch

/-!
# Text matches in statement text

Each search of a predicate comes to be one `LIKE` in the text of its condition. The pattern that is
bound for it is well formed by the rules of the dialect, under the escape character that the text
declares, and it matches a text if and only if the text is one that is searched for: no character of
what is searched for is a wildcard, escapes another or opens a class. This is
`Predicate.likes_match`.
-/
namespace Sift

/-- A match of a column against a pattern, with the escape character that is declared for it. -/
structure LikeTest where
  column : String
  pattern : Value
  escape : Option String
  negated : Bool

/-- The matches in the text of a condition, in reading order. -/
def SqlExpr.likes : SqlExpr → List LikeTest
  | always _ | nullTest .. | compare .. | oneOf .. => []
  | like column pattern escape negated => [⟨column, pattern, escape, negated⟩]
  | logical _ left right => left.likes ++ right.likes

/-- A match is a search: it has a text for its pattern, which is well formed and matches the texts
that are searched for. -/
def LikeTest.Matches (d : SqlDialect) (l : LikeTest) (m : TextMatch) : Prop :=
  l.column = m.column ∧ l.negated = m.negated ∧
    ∃ pattern items, l.pattern = .text pattern ∧
      LikePattern.read? d l.escape pattern = some items ∧
      ∀ text : String, items.fits text.toList = true ↔ m.Finds text

variable (d : SqlDialect)

theorem NullGuard.likes_written (f : Field) (core : SqlExpr) (guard : NullGuard) :
    (guard.written f core).likes = core.likes := by
  cases guard <;> rfl

/-- The pattern of a clause matches literally. -/
theorem Clause.forall₂_likes (c : Clause) :
    List.Forall₂ (LikeTest.Matches d) (c.written d).likes c.textMatches := by
  cases c with
  | always truth => exact .nil
  | nullTest f negated => exact .nil
  | compare f op v guard =>
    rw [written, NullGuard.likes_written]
    exact .nil
  | oneOf f values negated guard =>
    rw [written, NullGuard.likes_written]
    exact .nil
  | like f pattern test negated guard =>
    rw [written, NullGuard.likes_written]
    refine .cons ⟨rfl, rfl, _, _, rfl, LikePattern.read?_wildcards d test pattern, ?_⟩ .nil
    intro text
    rw [LikePattern.fits_ofTest]
    exact TextMatch.fits_iff ⟨f.column, test, pattern, negated⟩ text

/-- The patterns of a condition match literally, in the order of its searches. -/
theorem Condition.forall₂_likes (c : Condition) :
    List.Forall₂ (LikeTest.Matches d) (c.written d).likes c.textMatches := by
  induction c with
  | clause c => exact c.forall₂_likes d
  | logical op left right ihl ihr => exact List.rel_append ihl ihr

/-- In the text of an accepted predicate there is one `LIKE` for each search, in order. The pattern
bound for it is well formed and matches exactly the texts that contain what is searched for, or
begin or end with it. -/
theorem Predicate.likes_match {t : Table} {p : Predicate} {c : Condition}
    (h : Condition.ofPredicate t p = .ok c) :
    ∃ ts ps e, d.whereTokens t filterStem p .empty = .ok (ts, ps) ∧
      d.readCondition ⟨d.spell ts, ps⟩ = some e ∧
      List.Forall₂ (LikeTest.Matches d) e.likes (p.textMatches t) := by
  have hread := Condition.readCondition_spell d (Condition.sound_of_ofPredicate h)
  refine ⟨_, _, c.written d, d.whereTokens_of_ofPredicate h filterStem .empty, hread, ?_⟩
  rw [← Condition.textMatches_of_ofPredicate h]
  exact c.forall₂_likes d

theorem Predicate.likes_match_wildPredicate : ∃ c ts ps e,
    Condition.ofPredicate (.people (.sql .sqlServer)) wildPredicate = .ok c ∧
    SqlDialect.sqlServer.whereTokens (.people (.sql .sqlServer)) filterStem wildPredicate .empty =
      .ok (ts, ps) ∧
    SqlDialect.sqlServer.readCondition ⟨SqlDialect.sqlServer.spell ts, ps⟩ = some e ∧
    List.Forall₂ (LikeTest.Matches .sqlServer) e.likes
      [⟨"na\"m\x60e] = $1", .contains, "[50%]_\\^-", false⟩, ⟨"id", .endsWith, "\\", true⟩] := by
  obtain ⟨c, hc⟩ : ∃ c, Condition.ofPredicate (.people (.sql .sqlServer)) wildPredicate = .ok c :=
    ⟨_, rfl⟩
  obtain ⟨ts, ps, e, hwhere, hread, hmatch⟩ := Predicate.likes_match .sqlServer hc
  exact ⟨c, ts, ps, e, hc, hwhere, hread, hmatch⟩

end Sift
