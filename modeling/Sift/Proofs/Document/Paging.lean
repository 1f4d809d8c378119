import Sift.Proofs.Document.Matching
import Sift.Proofs.Sql.Paging
import Sift.Proofs.Uniformity

/-!
# The page that a find reads

`Command.answer` is what a find gives: the documents that its filter holds on, in order, without
those that are skipped and no more than the limit. To a document store a limit of zero is none. A
plan hands its size over as the limit, so its find gives the page that is asked for unless zero
documents are wanted and some would be left, `SelectPlan.answer_find`; the relational dialects give
the page in all cases.
-/
namespace Sift

namespace Command

/-- What is left of some documents when some are skipped and their number is limited. A limit of
zero is no limit. -/
def window {α : Type} (skip limit : Option UInt64) (docs : List α) : List α :=
  let rest := docs.drop (skip.getD 0).toNat
  match limit with
  | none => rest
  | some n => if n = 0 then rest else rest.take n.toNat

/-- What a find gives of the documents of its collection. -/
def answer (cmp : Comparison) (a : Arrangement Document) (docs : String → List Document) :
    Command → Option (List Document)
  | find collection filter _ sort skip limit =>
    some (window skip limit (a.sort sort ((docs collection).filter (filter.holdsOn cmp))))
  | _ => none

end Command

namespace SelectPlan

variable {t : Table} {s : SelectPlan} {c : Option Condition} {α : Type}

/-- Unless nothing is wanted, a find keeps the page. -/
theorem window_eq_page (htake : s.take ≠ some 0) (docs : List α) :
    Command.window s.skip s.take docs = s.page docs := by
  unfold Command.window page
  cases h : s.take with
  | none => rfl
  | some n =>
    have hn : n ≠ 0 := by
      rintro rfl
      exact htake h
    exact if_neg hn

/-- If nothing is wanted, it keeps all that is not skipped. -/
theorem window_of_take_zero (htake : s.take = some 0) (docs : List α) :
    Command.window s.skip s.take docs = docs.drop (s.skip.getD 0).toNat := by
  rw [htake]
  rfl

/-- A find keeps the page if and only if something is wanted or nothing would be left. -/
theorem window_eq_page_iff (docs : List α) : Command.window s.skip s.take docs = s.page docs ↔
    s.take ≠ some 0 ∨ docs.length ≤ (s.skip.getD 0).toNat := by
  by_cases htake : s.take = some 0
  · rw [window_of_take_zero htake, page_of_take_zero htake, List.drop_eq_nil_iff]
    simp [htake]
  · simp [window_eq_page htake, htake]

/-- The documents that a query is about, by its filter as it was lowered, in its order. -/
def found (s : SelectPlan) (cmp : Comparison) (a : Arrangement Document) (c : Option Condition)
    (docs : List Document) : List Document :=
  a.sort s.keys (docs.filter ((Condition.document c).holdsOn cmp))

/-- What the find of a query gives is cut from the documents that the query is about. -/
theorem answer_documentCommand (cmp : Comparison) (a : Arrangement Document)
    (docs : String → List Document) :
    ((Plan.select s).documentCommand t c).answer cmp a docs =
      some (Command.window s.skip s.take (s.found cmp a c (docs t.entity.table))) := rfl

/-- The find of a query gives the page that is asked for if and only if documents are wanted or none
are left behind those that are skipped. If no documents are wanted it gives all that are left, where
the page is empty. For the same plan every relational dialect has a statement that gives the
page. -/
theorem answer_find (hd : t.dialect = .document) (hne : s.columns ≠ [])
    (hc : Condition.ofFilter t s.filter = .ok c) :
    (∃ cmd, (Plan.select s).compile t = .ok (.document cmd) ∧
      ∀ (cmp : Comparison) (a : Arrangement Document) (docs : String → List Document),
        (cmd.answer cmp a docs = some (s.page (s.found cmp a c (docs t.entity.table))) ↔
          s.take ≠ some 0 ∨
            (s.found cmp a c (docs t.entity.table)).length ≤ (s.skip.getD 0).toNat) ∧
        (s.take = some 0 → s.page (s.found cmp a c (docs t.entity.table)) = [] ∧
          cmd.answer cmp a docs =
            some ((s.found cmp a c (docs t.entity.table)).drop (s.skip.getD 0).toNat))) ∧
    ∀ d : SqlDialect, ∃ st cmd, (Plan.select s).compile (t.under (.sql d)) = .ok (.sql st) ∧
      d.readCommand st = some cmd ∧
      ∀ (cmp : Comparison) (a : Arrangement (String → Value)) (db : Database),
        (matching d cmp c (db t.entity.table)).length < UInt64.size →
          cmd.answer d cmp a db =
            some (s.page (a.sort s.keys (matching d cmp c (db t.entity.table)))) := by
  constructor
  · refine ⟨(Plan.select s).documentCommand t c, ?_, fun cmp a docs => ⟨?_, fun htake => ?_⟩⟩
    · rw [Plan.compile_document hd, Command.ofPlan_eq (p := .select s) hne]
      simp only [Plan.filter?, hc]
      rfl
    · rw [answer_documentCommand, Option.some_inj, window_eq_page_iff]
    · rw [answer_documentCommand, window_of_take_zero htake]
      exact ⟨page_of_take_zero htake _, rfl⟩
  · intro d
    have hunder : Condition.ofFilter (t.under (.sql d)) s.filter = .ok c := by
      rw [Condition.ofFilter_under, hc]
    obtain ⟨st, hst, hsays⟩ := Plan.exists_compile (p := .select s) hne hunder
    obtain @⟨_, st, hread⟩ : Statement.Says (t.under (.sql d)) _ c (.sql d) st := hsays
    exact ⟨st, _, hst, hread, answer_command⟩

theorem answer_find_pickyRest : ∃ c cmd,
    Condition.ofPredicate (.people .document) pickyPredicate = .ok c ∧
      (Plan.select (pickyRest .document)).compile (.people .document) = .ok (.document cmd) ∧
      ∀ (cmp : Comparison) (a : Arrangement Document) (docs : List Document),
        cmd.answer cmp a (fun _ => docs) =
          some ((a.sort [("id", false), ("na\"m\x60e] = $1", false), ("age", false)]
            (docs.filter (c.filter.holdsOn cmp))).drop 1) := by
  have hcolumns : (pickyRest .document).columns ≠ [] := List.cons_ne_nil _ _
  obtain ⟨c, hc, hfilter⟩ := exists_ofFilter_pickyRest .document
  obtain ⟨⟨cmd, hcmd, hanswer⟩, -⟩ := answer_find rfl hcolumns hfilter
  have hwanted : (pickyRest .document).take ≠ some 0 := nofun
  exact ⟨c, cmd, hc, hcmd, fun cmp a docs => (hanswer cmp a fun _ => docs).1.2 (.inl hwanted)⟩

/-- The keys of nobody. -/
def nobody : SelectPlan where
  filter := none
  columns := (Table.people .document).fields.take 1
  order := []
  skip := none
  take := some 0

/-- Rows stay in the order that they have. -/
def unsorted : Arrangement α where
  sort _ rows := rows
  perm _ _ := .rfl

/-- Somebody of whom no more than the key is known. -/
def somebody : Document := fun column => if column = "id" then some (.string "p1") else none

/-- Somebody is found where nobody was asked for. -/
theorem answer_find_nobody : ∃ cmd,
    (Plan.select nobody).compile (.people .document) = .ok (.document cmd) ∧
      nobody.page [somebody] = [] ∧
      cmd.answer .withinTypes unsorted (fun _ => [somebody]) = some [somebody] :=
  ⟨_, rfl, rfl, rfl⟩

end SelectPlan

end Sift
