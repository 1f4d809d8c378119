import Sift.Proofs.Sql.Statement

/-!
# Statements as a store reads them

`SqlDialect.readCommand` takes a statement for what it says: its text by the lexical rules of the
dialect, its placeholders for the values that the dialect finds for them, and the rest by the
precedence of `AND` and `OR`. What comes out is what the plan asked for. Nothing else of the text
was used, so no name and no constant can change the meaning of the rest.
-/
namespace Sift

namespace SqlDialect

/-- The lexemes of a statement, with what its placeholders stand for. -/
def lexemes? (d : SqlDialect) (st : SqlStatement) : Option (List (Lexeme Value)) := do
  let ls ← d.lex st.text.toList
  Lexeme.fill (d.valueOf? st.params) 0 ls

/-- A whole statement. -/
def readCommand (d : SqlDialect) (st : SqlStatement) : Option SqlCommand := do
  let ls ← d.lexemes? st
  SqlCommand.read ls

/-- A condition that is all of the text. -/
def readCondition (d : SqlDialect) (st : SqlStatement) : Option SqlExpr := do
  let ls ← d.lexemes? st
  let r ← SqlExpr.read ls
  Lexeme.whole r

/-- Tokens that mention each parameter once and in order are taken apart again. -/
theorem lexemes?_spell {d : SqlDialect} {ts : List SqlToken} {ps : Params}
    (hspaced : SqlToken.spaced d ts none = true) (hslots : SqlToken.slots ts = ps.slots)
    (hnames : ps.names.Nodup) :
    d.lexemes? ⟨d.spell ts, ps⟩ = some (SqlToken.lexemes ps.valueAt ts) := by
  rw [lexemes?, lex_spell hspaced]
  exact Lexeme.fill_lexemes hnames hslots

end SqlDialect

section Prepared

variable {d : SqlDialect} {assigned constants : List Value} {cmd : SqlCommand}
  {stmt : List SqlToken × Params}

theorem Prepared.names (h : Prepared d assigned constants cmd stmt) :
    stmt.2.names = Params.namesFrom assignmentStem 0 assigned.length ++
      Params.namesFrom filterStem 0 constants.length := by
  rw [h.params, Params.names_bindAll, Params.names_bindAll,
    Params.issued_bindAll_of_ne (by decide)]
  rfl

theorem Prepared.values (h : Prepared d assigned constants cmd stmt) :
    stmt.2.values = assigned ++ constants := by
  rw [h.params, Params.values_bindAll, Params.values_bindAll]
  rfl

theorem Prepared.nodup_names (h : Prepared d assigned constants cmd stmt) :
    stmt.2.names.Nodup := by
  rw [h.params]
  exact Params.nodup_names assigned constants

theorem Prepared.lex (h : Prepared d assigned constants cmd stmt) :
    ∃ ls, d.lex (d.spell stmt.1).toList = some ls ∧
      Lexeme.placeholders ls = d.placeholders stmt.2 := by
  refine ⟨_, d.lex_spell h.spaced, ?_⟩
  rw [Lexeme.placeholders_lexemes, h.slots, d.map_placeholder_slots]

theorem Prepared.readCommand (h : Prepared d assigned constants cmd stmt) :
    d.readCommand ⟨d.spell stmt.1, stmt.2⟩ = some cmd := by
  have hvalues : (SqlToken.slots stmt.1).map stmt.2.valueAt = assigned ++ constants := by
    rw [h.slots, Params.map_valueAt_slots, h.values]
  rw [SqlDialect.readCommand, d.lexemes?_spell h.spaced h.slots h.nodup_names]
  exact h.reads _ hvalues

end Prepared

namespace Plan

variable {d : SqlDialect} {t : Table}

/-- The statement of an accepted plan mentions its parameters once each and in order, in the
spelling of the dialect. No name is given out twice, so every name finds its own value; what is
assigned comes before the constants. Each placeholder stands where its value was asked for: with
these values in their places, the statement is read as the plan. -/
theorem placeholders_compile {p : Plan} {st : SqlStatement} (hd : t.dialect = .sql d)
    (h : p.compile t = .ok (.sql st)) :
    ∃ c ls, Condition.ofFilter t p.filter? = .ok c ∧
      d.lex st.text.toList = some ls ∧ Lexeme.placeholders ls = d.placeholders st.params ∧
      st.params.names.Nodup ∧
      (∀ (k : Nat) (q : Param), st.params.toList[k]? = some q →
        st.params.get? q.name = some q.value) ∧
      st.params.names = Params.namesFrom assignmentStem 0 p.assigned.length ++
        Params.namesFrom filterStem 0 (p.constants d c).length ∧
      st.params.values = p.assigned ++ p.constants d c ∧
      d.readCommand st = some (p.command d t c) := by
  simp only [compile, hd] at h
  obtain ⟨⟨ts, ps⟩, htokens, heq⟩ := map_eq_ok_iff.1 h
  cases heq
  obtain ⟨c, hc, hprepared⟩ := prepared_planTokens htokens
  obtain ⟨ls, hlex, hplaceholders⟩ := hprepared.lex
  exact ⟨c, ls, hc, hlex, hplaceholders, hprepared.nodup_names,
    fun k q hq => Params.get?_of_nodup hprepared.nodup_names hq, hprepared.names, hprepared.values,
    hprepared.readCommand⟩

theorem placeholders_compile_pickyUpdate :
    ∃ st c ls, pickyUpdate.compile (.people (.sql .sqlite)) = .ok (.sql st) ∧
      Condition.ofFilter (.people (.sql .sqlite)) (some pickyPredicate) = .ok c ∧
      SqlDialect.sqlite.lex st.text.toList = some ls ∧
      Lexeme.placeholders ls = SqlDialect.sqlite.placeholders st.params ∧
      st.params.names.Nodup ∧
      st.params.names = Params.namesFrom assignmentStem 0 3 ++ Params.namesFrom filterStem 0 5 ∧
      st.params.values = [.text "p2", .text ":Parameter1", .int 30, .text "ann", .text "bob",
        .int 20, .text "rose%", .int 20] ∧
      SqlDialect.sqlite.readCommand st =
        some (pickyUpdate.command .sqlite (.people (.sql .sqlite)) c) := by
  obtain ⟨st, hst⟩ : ∃ st, pickyUpdate.compile (.people (.sql .sqlite)) = .ok (.sql st) := ⟨_, rfl⟩
  obtain ⟨c, ls, hc, hlex, hplaceholders, hnodup, -, hnames, hvalues, hread⟩ :=
    placeholders_compile rfl hst
  cases hc
  exact ⟨st, _, ls, hst, rfl, hlex, hplaceholders, hnodup, hnames, hvalues, hread⟩

end Plan

namespace Condition

variable {t : Table} {p : Predicate} {c : Condition}

/-- The text of a condition is read as the condition. -/
theorem readCondition_spell (d : SqlDialect) (hc : c.Sound) :
    d.readCondition ⟨d.spell ((c.sql d filterStem).run .empty).1,
      ((c.sql d filterStem).run .empty).2⟩ = some (c.written d) := by
  have hbinds := Condition.binds (d := d) isStem_filterStem c
  have hslots : SqlToken.slots ((c.sql d filterStem).run .empty).1 =
      ((c.sql d filterStem).run .empty).2.slots := (hbinds.slots .empty).symm
  have hvalues : ((c.sql d filterStem).run .empty).2.values = c.constants d := by
    rw [hbinds.params, Params.values_bindAll]
    rfl
  have hnames : ((c.sql d filterStem).run .empty).2.names.Nodup := by
    rw [hbinds.params]
    exact Params.nodup_names [] (c.constants d)
  have hread : SqlExpr.read (SqlToken.lexemes ((c.sql d filterStem).run .empty).2.valueAt
      ((c.sql d filterStem).run .empty).1 ++ []) = some (c.written d, []) :=
    Condition.read_lexemes isStem_filterStem hc .empty
      (by rw [hslots, Params.map_valueAt_slots, hvalues]) rfl
  rw [List.append_nil] at hread
  rw [SqlDialect.readCondition, d.lexemes?_spell (hbinds.phrase .empty).spaced_none hslots hnames]
  simp only [Option.bind_eq_bind, Option.bind_some, hread, Lexeme.whole]

/-- Where zero rows cannot be asked for, the filter of a query that wants none is read as its
condition beside one that no row meets. -/
theorem readCommand_zeroFetch (hd : t.dialect = .sql .sqlServer)
    (h : Condition.ofPredicate t p = .ok c) {s : SelectPlan} (hfilter : s.filter = some p)
    (htake : s.take = some 0) (hne : s.columns ≠ []) :
    ∃ st, (Plan.select s).compile t = .ok (.sql st) ∧
      SqlDialect.sqlServer.readCommand st =
        some (.select (s.columns.map Field.column) t.entity.table
          (some (.logical .and (c.written .sqlServer) (.always false))) []) := by
  have hlowered : ofFilter t s.filter = .ok (some c) := by
    rw [hfilter, ofFilter, h]
    rfl
  obtain ⟨stmt, htokens⟩ : ∃ stmt, SqlDialect.sqlServer.selectTokens t s = .ok stmt := by
    rw [selectTokens_eq hne, hlowered]
    exact ⟨_, rfl⟩
  obtain ⟨c', hc', hprepared⟩ := prepared_select htokens
  obtain rfl : some c = c' := by
    rw [hlowered] at hc'
    exact Except.ok.inj hc'
  refine ⟨⟨SqlDialect.sqlServer.spell stmt.1, stmt.2⟩, ?_, ?_⟩
  · simp only [Plan.compile, hd, SqlDialect.planTokens, htokens]
    rfl
  · have hzero : s.take = some 0 ∧ SqlDialect.sqlServer.rejectsZeroFetch = true := ⟨htake, rfl⟩
    have hread := hprepared.readCommand
    rw [Plan.command, SelectPlan.effective, SelectPlan.closing, if_pos hzero, if_pos hzero] at hread
    exact hread

/-- The text of an accepted predicate is read as the condition that it was lowered to, in every
dialect, whatever its columns are called, and no other text is put into a statement for it; so it is
where it stands beside a condition that no row meets. -/
theorem read_text (h : Condition.ofPredicate t p = .ok c) :
    (∀ d : SqlDialect, ∃ ts ps, d.whereTokens t filterStem p .empty = .ok (ts, ps) ∧
      (d.compileInto t filterStem p).run.run .empty = (.ok (d.spell ts), ps) ∧
      d.readCondition ⟨d.spell ts, ps⟩ = some (c.written d)) ∧
    ∀ s : SelectPlan, t.dialect = .sql .sqlServer → s.filter = some p → s.take = some 0 →
      s.columns ≠ [] → ∃ st, (Plan.select s).compile t = .ok (.sql st) ∧
        SqlDialect.sqlServer.readCommand st =
          some (.select (s.columns.map Field.column) t.entity.table
            (some (.logical .and (c.written .sqlServer) (.always false))) []) := by
  refine ⟨fun d => ?_, fun s hd hfilter htake hne =>
    readCommand_zeroFetch hd h hfilter htake hne⟩
  have htokens := d.whereTokens_of_ofPredicate h filterStem .empty
  refine ⟨_, _, htokens, ?_, readCondition_spell d (sound_of_ofPredicate h)⟩
  rw [SqlDialect.run_compileInto_eq, htokens]
  rfl

/-- Nobody of those who `pickyPredicate` is about. -/
def pickyNobody : SelectPlan where
  filter := some pickyPredicate
  columns := (Table.people (.sql .sqlServer)).fields
  order := []
  skip := none
  take := some 0

theorem read_text_pickyPredicate : ∃ c,
    Condition.ofPredicate (.people (.sql .sqlServer)) pickyPredicate = .ok c ∧
    (∀ d : SqlDialect, ∃ text ps,
      (d.compileInto (.people (.sql .sqlServer)) filterStem pickyPredicate).run.run .empty =
        (.ok text, ps) ∧ d.readCondition ⟨text, ps⟩ = some (c.written d)) ∧
    ∃ st, (Plan.select pickyNobody).compile (.people (.sql .sqlServer)) = .ok (.sql st) ∧
      SqlDialect.sqlServer.readCommand st =
        some (.select ["id", "na\"m\x60e] = $1", "age"] "people"
          (some (.logical .and (c.written .sqlServer) (.always false))) []) := by
  have hread := Condition.read_text (t := .people (.sql .sqlServer)) (p := pickyPredicate) rfl
  have hcolumns : pickyNobody.columns ≠ [] := List.cons_ne_nil _ _
  refine ⟨_, rfl, fun d => ?_, hread.2 pickyNobody rfl rfl rfl hcolumns⟩
  obtain ⟨ts, ps, -, hrun, hcondition⟩ := hread.1 d
  exact ⟨_, ps, hrun, hcondition⟩

end Condition

end Sift
