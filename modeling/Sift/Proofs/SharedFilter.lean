import Sift.Proofs.Acceptance
import Sift.Proofs.Sql.Renumbering

/-!
# One filter in all kinds of statements

Rows that are counted or read under a filter are those that an update or a deletion under the same
filter changes, since the statements spell it alike. For a relational table, queries, counts and
deletions say the same text behind `WHERE` and bind the same parameters. An update binds what it
assigns first; the parameters of its filter keep their names and values behind that, and the text is
`SqlDialect.movedText` of the others'. For a document table all commands have one filter document.
-/
namespace Sift

open SqlToken

/-! ## The text before a filter -/

namespace SqlDialect

/-- Columns with commas between them, as they stand in a text. -/
def columnText (d : SqlDialect) (fields : List Field) : String :=
  ", ".intercalate (fields.map fun f => d.quote f.column)

/-- Assignments with commas between them, as they stand in a text. -/
def assignmentText (d : SqlDialect) (assigned : List (Field × Value)) : String :=
  ", ".intercalate (assigned.zipIdx.map fun ((f, _), i) =>
    d.quote f.column ++ " = " ++ d.placeholder ⟨assignmentStem ++ toString (i + 1), i + 1⟩)

variable (d : SqlDialect) (t : Table)

theorem spell_commaList (tss : List (List SqlToken)) :
    d.spell (commaList tss) = ", ".intercalate (tss.map d.spell) := by
  induction tss using commaList.induct with
  | case1 => rfl
  | case2 ts => simp
  | case3 ts next rest ih =>
    have hcomma : d.spell [.mark ",", .blank] = ", " := rfl
    have hsplit : commaList (ts :: next :: rest) =
        ts ++ ([.mark ",", .blank] ++ commaList (next :: rest)) := rfl
    rw [hsplit, spell_append, spell_append, hcomma, ih, List.map_cons, List.map_cons,
      List.map_cons, String.intercalate_cons_cons, String.append_assoc]

theorem spell_columnList (fields : List Field) :
    d.spell (columnList fields) = d.columnText fields := by
  rw [columnList, spell_commaList, List.map_map, columnText]
  refine congrArg _ (List.map_congr_left fun f _ => ?_)
  simp [tokenText]

theorem spell_selectHead (s : SelectPlan) :
    d.spell (selectHead t s) =
      "SELECT " ++ d.columnText s.columns ++ " FROM " ++ d.quote t.entity.table := by
  apply String.ext
  simp [selectHead, spell_columnList, tokenText]

theorem spell_countHead :
    d.spell (countHead t) = "SELECT COUNT(1) FROM " ++ d.quote t.entity.table := by
  have hone : Nat.toDigits 10 1 = ['1'] := rfl
  apply String.ext
  simp [countHead, tokenText, hone]

theorem spell_deleteHead : d.spell (deleteHead t) = "DELETE FROM " ++ d.quote t.entity.table := by
  apply String.ext
  simp [deleteHead, words, tokenText]

theorem spell_updateHead (sets : List SqlToken) :
    d.spell (updateHead t sets) =
      "UPDATE " ++ d.quote t.entity.table ++ " SET " ++ d.spell sets := by
  apply String.ext
  simp [updateHead, tokenText]

theorem spell_assignment (column : String) (slot : Params.Slot) :
    d.spell (SqlToken.assignment column slot) = d.quote column ++ " = " ++ d.placeholder slot := by
  apply String.ext
  simp [SqlToken.assignment, tokenText]

/-- The places of assigned values are numbered by themselves, since nothing is bound before. -/
theorem spell_assignmentTokens {pairs : List (Field × Value)} {places : List Params.Slot}
    (h : (Params.empty.bindAll assignmentStem (pairs.map Prod.snd)).slots = places) :
    d.spell (assignmentTokens pairs places) = d.assignmentText pairs := by
  subst h
  rw [assignmentTokens, spell_commaList, List.map_map, assignmentText]
  refine congrArg _ (List.ext_getElem ?_ fun i hi hp => ?_)
  · simp [Params.slots, Params.names, Params.toList_bindAll_empty, Params.numbered]
  · simp [Params.slots, Params.names, Params.toList_bindAll_empty, Params.numbered,
      spell_assignment]

end SqlDialect

/-! ## The statements of one filter -/

/-- What the statements of a relational table with the filter `p` have in common: the text behind
`WHERE`, and its parameters. A query for no rows is left out where there can be none. -/
structure Table.ShareClause (t : Table) (d : SqlDialect) (p : Predicate) (clause : String)
    (params : Params) : Prop where
  select : ∀ s : SelectPlan, s.filter = some p → s.columns ≠ [] →
    ¬(s.take = some 0 ∧ d.rejectsZeroFetch = true) →
    Plan.compile t (.select s) = .ok (.sql ⟨"SELECT " ++ d.columnText s.columns ++ " FROM " ++
      d.quote t.entity.table ++ " WHERE " ++ clause ++
        d.spell (d.orderTokens s ++ d.pagingTokens s), params⟩)
  count : Plan.compile t (.count (some p)) =
    .ok (.sql ⟨"SELECT COUNT(1) FROM " ++ d.quote t.entity.table ++ " WHERE " ++ clause, params⟩)
  delete : Plan.compile t (.delete p) =
    .ok (.sql ⟨"DELETE FROM " ++ d.quote t.entity.table ++ " WHERE " ++ clause, params⟩)
  update : ∀ assigned ≠ [], ∃ bound, Plan.compile t (.update p assigned) =
      .ok (.sql ⟨"UPDATE " ++ d.quote t.entity.table ++ " SET " ++ d.assignmentText assigned ++
        " WHERE " ++ d.movedText assigned.length clause, bound⟩) ∧
    bound.toList = Params.numbered assignmentStem (assigned.map Prod.snd) ++ params.toList

/-- The commands of a document table with the filter `p` have one filter document. -/
structure Table.ShareDocument (t : Table) (p : Predicate) (filter : Json) : Prop where
  find : ∀ s : SelectPlan, s.filter = some p → s.columns ≠ [] →
    Plan.compile t (.select s) = .ok (.document (.find t.entity.table filter
      (s.columns.map Field.column) (s.order.map fun k => (k.field.column, k.ascending)) s.skip
        s.take))
  count : Plan.compile t (.count (some p)) = .ok (.document (.count t.entity.table filter))
  delete : Plan.compile t (.delete p) = .ok (.document (.delete t.entity.table filter))
  update : ∀ assigned ≠ [], Plan.compile t (.update p assigned) =
    .ok (.document (.update t.entity.table filter (Command.members assigned)))

section Statements

variable {t : Table} {d : SqlDialect} {p : Predicate} {c : Condition}

/-- A filter that can be lowered is spelled behind its word, whatever was bound before. -/
theorem filterTokens_of_ofPredicate (h : Condition.ofPredicate t p = .ok c) (ps : Params) :
    d.filterTokens t (some p) ps =
      .ok (SqlDialect.whereWord ++ ((c.sql d filterStem).run ps).1,
        ((c.sql d filterStem).run ps).2) := by
  simp only [SqlDialect.filterTokens, SqlDialect.whereTokens, h]
  rfl

/-- What a statement says whose tokens have a filter behind their head. -/
theorem Plan.compile_of_planTokens (hd : t.dialect = .sql d) {p : Plan} {head ts : List SqlToken}
    {ps : Params} (h : d.planTokens t p = .ok (head ++ (SqlDialect.whereWord ++ ts), ps)) :
    p.compile t = .ok (.sql ⟨d.spell head ++ " WHERE " ++ d.spell ts, ps⟩) := by
  have hword : d.spell SqlDialect.whereWord = " WHERE " := rfl
  rw [compile_sql hd, h]
  simp only [Except.map, SqlDialect.spell_append, hword, String.append_assoc]

/-- Behind assigned values a condition has the same parameters and the text that the dialect writes
behind them. -/
theorem Condition.run_sql_behind (c : Condition) (assigned : List Value) :
    let alone := (c.sql d filterStem).run .empty
    let behind := (c.sql d filterStem).run (Params.empty.bindAll assignmentStem assigned)
    d.spell behind.1 = d.movedText assigned.length (d.spell alone.1) ∧
      behind.2.toList = Params.numbered assignmentStem assigned ++ alone.2.toList := by
  have hbehind : Params.empty.Behind filterStem (Params.numbered assignmentStem assigned)
      (Params.empty.bindAll assignmentStem assigned) := by
    refine ⟨?_, Params.issued_bindAll_of_ne (by decide) assigned .empty⟩
    rw [Params.toList_bindAll_empty, Params.toList_empty, List.append_nil]
  obtain ⟨htokens, hparams⟩ := c.movable_sql (d := d) _ _ _ hbehind
  have hlength : (Params.numbered assignmentStem assigned).length = assigned.length := by
    simp [Params.numbered]
  have hspaced := (c.binds (d := d) isStem_filterStem).phrase .empty
  refine ⟨?_, hparams.toList⟩
  rw [htokens, hlength, SqlDialect.spell_map_moved hspaced.spaced_none]

theorem Table.shareClause_of_ofPredicate (hd : t.dialect = .sql d)
    (h : Condition.ofPredicate t p = .ok c) :
    t.ShareClause d p (d.spell ((c.sql d filterStem).run .empty).1)
      ((c.sql d filterStem).run .empty).2 := by
  have hfilter := filterTokens_of_ofPredicate (d := d) h
  constructor
  · intro s hs hne hzero
    have hlowered : Condition.ofFilter t s.filter = .ok (some c) := by
      rw [hs, Condition.ofFilter, h]
      rfl
    have hclosing : s.closing d = d.orderTokens s ++ d.pagingTokens s := if_neg hzero
    have heffective : s.effective d (some c) = some c := if_neg hzero
    have htokens : d.planTokens t (.select s) = .ok (selectHead t s ++
        (SqlDialect.whereWord ++ (((c.sql d filterStem).run .empty).1 ++
          (d.orderTokens s ++ d.pagingTokens s))), ((c.sql d filterStem).run .empty).2) := by
      rw [SqlDialect.planTokens, selectTokens_eq hne, hlowered,
        ← List.append_assoc SqlDialect.whereWord, ← List.append_assoc (selectHead t s)]
      simp only [Except.map, hclosing, heffective]
      rfl
    rw [Plan.compile_of_planTokens hd htokens, SqlDialect.spell_selectHead, d.spell_append,
      ← String.append_assoc]
  · have htokens : d.planTokens t (.count (some p)) = .ok (countHead t ++
        (SqlDialect.whereWord ++ ((c.sql d filterStem).run .empty).1),
          ((c.sql d filterStem).run .empty).2) := by
      rw [SqlDialect.planTokens, SqlDialect.countTokens, hfilter]
      rfl
    rw [Plan.compile_of_planTokens hd htokens, SqlDialect.spell_countHead]
  · have htokens : d.planTokens t (.delete p) = .ok (deleteHead t ++
        (SqlDialect.whereWord ++ ((c.sql d filterStem).run .empty).1),
          ((c.sql d filterStem).run .empty).2) := by
      rw [SqlDialect.planTokens, SqlDialect.deleteTokens, hfilter]
      rfl
    rw [Plan.compile_of_planTokens hd htokens, SqlDialect.spell_deleteHead]
  · intro assigned hne
    obtain ⟨places, hrun, hplaces, -, -⟩ := run_assignments (d := d) assigned .empty
    obtain ⟨htext, hparams⟩ := c.run_sql_behind (d := d) (assigned.map Prod.snd)
    rw [List.length_map] at htext
    have hbound : (Params.empty.bindAll assignmentStem (assigned.map Prod.snd)).slots = places :=
      hplaces.trans (List.nil_append _)
    have hassigned : ¬assigned.isEmpty = true := by simpa using hne
    have htokens : d.planTokens t (.update p assigned) = .ok (updateHead t
        (assignmentTokens assigned places) ++ (SqlDialect.whereWord ++
          ((c.sql d filterStem).run
            (Params.empty.bindAll assignmentStem (assigned.map Prod.snd))).1),
          ((c.sql d filterStem).run
            (Params.empty.bindAll assignmentStem (assigned.map Prod.snd))).2) := by
      rw [SqlDialect.planTokens, SqlDialect.updateTokens, if_neg hassigned, hrun]
      simp only [hfilter]
      rfl
    refine ⟨_, ?_, hparams⟩
    rw [Plan.compile_of_planTokens hd htokens, SqlDialect.spell_updateHead,
      d.spell_assignmentTokens hbound, htext]

theorem Table.shareDocument_of_ofPredicate (hd : t.dialect = .document)
    (h : Condition.ofPredicate t p = .ok c) : t.ShareDocument p c.filter := by
  have hplan : ∀ q : Plan, q.Complete → q.filter? = some p →
      q.compile t = .ok (.document (q.documentCommand t (some c))) := by
    intro q hq hfilter
    have hlowered : Condition.ofFilter t q.filter? = .ok (some c) := by
      rw [hfilter, Condition.ofFilter, h]
      rfl
    rw [Plan.compile_document hd, Command.ofPlan_eq hq, hlowered]
    rfl
  exact ⟨fun s hs hne => hplan (.select s) hne hs, hplan (.count (some p)) trivial rfl,
    hplan (.delete p) trivial rfl, fun assigned hne => hplan (.update p assigned) hne rfl⟩

/-- All statements of a table spell a filter that can be lowered alike. -/
theorem Table.share_filter (h : ∃ c, Condition.ofPredicate t p = .ok c) :
    (∀ d, t.dialect = .sql d → ∃ clause params, t.ShareClause d p clause params) ∧
      (t.dialect = .document → ∃ filter, t.ShareDocument p filter) := by
  obtain ⟨c, hc⟩ := h
  exact ⟨fun d hd => ⟨_, _, t.shareClause_of_ofPredicate hd hc⟩,
    fun hd => ⟨_, t.shareDocument_of_ofPredicate hd hc⟩⟩

end Statements

/-- The column of a name has a `$1` of its own, which stays as it is behind assigned values. -/
theorem Table.share_pickyPredicate :
    (∃ c, Condition.ofPredicate (.people (.sql .postgres)) pickyPredicate = .ok c) ∧
      (∃ clause params, (Table.people (.sql .postgres)).ShareClause .postgres pickyPredicate clause
        params) ∧
      (∃ c, Condition.ofPredicate (.people .document) pickyPredicate = .ok c) ∧
      ∃ filter, (Table.people .document).ShareDocument pickyPredicate filter :=
  ⟨⟨_, rfl⟩, (Table.share_filter ⟨_, rfl⟩).1 .postgres rfl, ⟨_, rfl⟩,
    (Table.share_filter ⟨_, rfl⟩).2 rfl⟩

end Sift
