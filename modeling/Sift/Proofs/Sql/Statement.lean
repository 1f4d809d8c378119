import Sift.Proofs.Sql.Filter
import Sift.Proofs.Sql.Placeholder

/-!
# Statements mean what their plans ask for

`Plan.command` is what a plan asks for, with its filter lowered. `Prepared` collects what is known
of the tokens of a statement: they bind what is assigned and then the constants, mention these in
the order of binding, can be taken apart again and are read as the command once the placeholders
have their values. Every accepted plan is compiled to such tokens, `prepared_planTokens`; a
statement with a filter is one by its parts, `Prepared.ofParts`.
-/
namespace Sift

open SqlToken SqlCommand

/-! ## What plans describe -/

namespace SelectPlan

/-- The filter of a query: one that no row passes where zero rows cannot be asked for. -/
def effective (d : SqlDialect) (s : SelectPlan) (c : Option Condition) : Option Condition :=
  if s.take = some 0 ∧ d.rejectsZeroFetch then some (.never c) else c

/-- The order and the paging of a query. -/
def closing (d : SqlDialect) (s : SelectPlan) : List SqlToken :=
  if s.take = some 0 ∧ d.rejectsZeroFetch then [] else d.orderTokens s ++ d.pagingTokens s

end SelectPlan

namespace Plan

/-- The rows that a plan is about. -/
def filter? : Plan → Option Predicate
  | select s => s.filter
  | count filter => filter
  | update filter _ | delete filter => some filter
  | insert _ => none

/-- The values that an update assigns. -/
def assigned : Plan → List Value
  | update _ assigned => assigned.map Prod.snd
  | _ => []

/-- The values that are bound behind the assigned ones: the constants of the filter, or the values
of a new row. -/
def constants (d : SqlDialect) (c : Option Condition) : Plan → List Value
  | insert values => values.map Prod.snd
  | _ => (c.map (Condition.constants d)).getD []

/-- What a plan asks for, with its filter lowered. -/
def command (d : SqlDialect) (t : Table) (c : Option Condition) : Plan → SqlCommand
  | select s => .select (s.columns.map Field.column) t.entity.table
    ((s.effective d c).map (Condition.written d)) (SqlToken.lexemes (fun _ => .null) (s.closing d))
  | count _ => .count t.entity.table (c.map (Condition.written d))
  | update _ assigned => .update t.entity.table (assigned.map fun (f, v) => (f.column, v))
    (c.map (Condition.written d))
  | delete _ => .delete t.entity.table (c.map (Condition.written d))
  | insert values => .insert t.entity.table (values.map fun (f, _) => f.column)
    (values.map Prod.snd)

/-- Everyone that `pickyPredicate` is about gets other cells, one of them with a text that looks
like a placeholder. -/
def pickyUpdate : Plan :=
  .update pickyPredicate
    ((Table.people (.sql .sqlite)).fields.zip [.text "p2", .text ":Parameter1", .int 30])

end Plan

/-! ## Whole statements -/

/-- A finished statement binds the values that it assigns and then the constants, mentions them in
this order, can be taken apart again, and is read as a command once its placeholders have their
values. -/
structure Prepared (d : SqlDialect) (assigned constants : List Value) (cmd : SqlCommand)
    (stmt : List SqlToken × Params) : Prop where
  params : stmt.2 = (Params.empty.bindAll assignmentStem assigned).bindAll filterStem constants
  slots : SqlToken.slots stmt.1 = stmt.2.slots
  spaced : SqlToken.spaced d stmt.1 none = true
  reads : ∀ g : Params.Slot → Value, (SqlToken.slots stmt.1).map g = assigned ++ constants →
    SqlCommand.read (lexemes g stmt.1) = some cmd

section Prepared

variable {d : SqlDialect} {t : Table} {assigned constants vs : List Value} {cmd : SqlCommand}
  {stmt : List SqlToken × Params}

/-- A head, a filter and what closes the statement, if the head is read before any filter. -/
theorem Prepared.ofParts {e : Option SqlExpr} {part : StateM Params (List SqlToken)}
    (hpart : FilterPart d vs e part) {head closing : List SqlToken} (hhead : Phrase d head)
    (hslots : SqlToken.slots head = (Params.empty.bindAll assignmentStem assigned).slots)
    (hclosing : Closing d closing)
    (hread : ∀ g : Params.Slot → Value, (SqlToken.slots head).map g = assigned → ∀ rest,
      Lexeme.endsList rest = true → readFilter rest = some (e, lexemes g closing) →
        SqlCommand.read (lexemes g head ++ rest) = some cmd) :
    Prepared d assigned vs cmd
      (head ++ (part.run (Params.empty.bindAll assignmentStem assigned)).1 ++ closing,
        (part.run (Params.empty.bindAll assignmentStem assigned)).2) := by
  generalize hps : Params.empty.bindAll assignmentStem assigned = ps at hslots ⊢
  have hall : SqlToken.slots (head ++ (part.run ps).1 ++ closing) = (part.run ps).2.slots := by
    rw [slots_append, slots_append, hslots, hclosing.slots, hpart.binds.slots, List.append_nil]
  refine ⟨?_, hall, ?_, fun g hg => ?_⟩
  · rw [hpart.binds.params, hps]
  · rw [List.append_assoc]
    exact (hhead.append_tail ((hpart.tail ps).append hclosing.tail)).spaced_none
  · -- the placeholders of the head are those of what is assigned, the rest are the filter's
    have hlength : ((SqlToken.slots head).map g).length = assigned.length := by
      rw [List.length_map, hslots, Params.length_slots, ← hps, Params.values_bindAll]
      rfl
    have hsplit : (SqlToken.slots head).map g ++ (SqlToken.slots (part.run ps).1).map g =
        assigned ++ vs := by
      rw [← hg]
      simp [hclosing.slots]
    obtain ⟨hga, hgc⟩ := List.append_inj hsplit hlength
    have hclear : SqlExpr.clear filterWords (lexemes g closing) = true := by
      simpa using hclosing.clear g [] rfl
    have hends : Lexeme.endsList (lexemes g closing) = true := by
      simpa using hclosing.ends g [] rfl
    have hfilter := hpart.reads g ps hgc _ hclear
    rw [lexemes_append, lexemes_append, List.append_assoc]
    exact hread g hga _ (hpart.ends g ps _ hends) hfilter

/-- A head and a filter alone. -/
theorem Prepared.ofHead {filter : Option Predicate} {head : List SqlToken}
    {cmd : Option Condition → SqlCommand} (hhead : Phrase d head)
    (hslots : SqlToken.slots head = (Params.empty.bindAll assignmentStem assigned).slots)
    (hread : ∀ c (g : Params.Slot → Value), (SqlToken.slots head).map g = assigned → ∀ rest,
      Lexeme.endsList rest = true → readFilter rest = some (c.map (Condition.written d), []) →
        SqlCommand.read (lexemes g head ++ rest) = some (cmd c))
    (h : (d.filterTokens t filter (Params.empty.bindAll assignmentStem assigned)).map
      (fun (ts, ps) => (head ++ ts, ps)) = .ok stmt) :
    ∃ c, Condition.ofFilter t filter = .ok c ∧
      Prepared d assigned ((c.map (Condition.constants d)).getD []) (cmd c) stmt := by
  obtain ⟨⟨ts, ps⟩, htokens, rfl⟩ := map_eq_ok_iff.1 h
  rw [Condition.filterTokens_eq] at htokens
  obtain ⟨c, hc, hpart⟩ := map_eq_ok_iff.1 htokens
  have hfilter := Condition.isFilter (d := d) (Condition.sound_of_ofFilter hc)
  have hprepared := Prepared.ofParts hfilter hhead hslots closing_nil (hread c)
  rw [hpart, List.append_nil] at hprepared
  exact ⟨c, hc, hprepared⟩

theorem phrase_columnList (fields : List Field) : Phrase d (SqlDialect.columnList fields) := by
  apply Phrase.commaList
  simp only [List.mem_map]
  rintro _ ⟨f, -, rfl⟩
  exact phrase_ident f.column

theorem slots_columnList (fields : List Field) :
    SqlToken.slots (SqlDialect.columnList fields) = [] := by
  rw [SqlDialect.columnList, slots_commaList, List.flatMap_map]
  simp

/-- What stands before the filter of a query. -/
def selectHead (t : Table) (s : SelectPlan) : List SqlToken :=
  .word "SELECT" :: .blank :: SqlDialect.columnList s.columns ++
    [.blank, .word "FROM", .blank, .ident t.entity.table]

theorem phrase_selectHead (s : SelectPlan) : Phrase d (selectHead t s) := by
  have hfrom : Phrase d [.word "FROM", .blank, .ident t.entity.table] :=
    (phrase_ident _).cons_blank rfl
  exact ((phrase_columnList s.columns).append_blank hfrom).cons_blank rfl

theorem slots_selectHead (s : SelectPlan) : SqlToken.slots (selectHead t s) = [] := by
  simp [selectHead, slots_columnList]

theorem read_selectHead {s : SelectPlan} (hne : s.columns ≠ []) (g : Params.Slot → Value)
    {e : Option SqlExpr} {rest tail : List (Lexeme Value)} (h : readFilter rest = some (e, tail)) :
    SqlCommand.read (lexemes g (selectHead t s) ++ rest) =
      some (.select (s.columns.map Field.column) t.entity.table e tail) := by
  have hlexemes : lexemes g (selectHead t s) ++ rest =
      .word "SELECT" :: (lexemes g (SqlDialect.columnList s.columns) ++
        .word "FROM" :: .ident t.entity.table :: rest) := by
    simp [selectHead]
  obtain ⟨f, fields, hcolumns⟩ := List.exists_cons_of_ne_nil hne
  have hselect : SqlCommand.read (lexemes g (selectHead t s) ++ rest) =
      readSelect (lexemes g (SqlDialect.columnList s.columns) ++
        .word "FROM" :: .ident t.entity.table :: rest) := by
    rw [hlexemes, hcolumns]
    cases fields <;> rfl
  rw [hselect, readSelect, readColumns_columnList hne rfl]
  simp only [Option.bind_eq_bind, Option.bind_some, readFrom, h]

theorem closing_select (s : SelectPlan) : Closing d (s.closing d) := by
  unfold SelectPlan.closing
  split
  · exact closing_nil
  · exact (closing_orderTokens s).append (closing_pagingTokens s)

theorem constants_effective (s : SelectPlan) (c : Option Condition) :
    ((s.effective d c).map (Condition.constants d)).getD [] =
      (c.map (Condition.constants d)).getD [] := by
  unfold SelectPlan.effective
  split
  · cases c with
    | none => rfl
    | some c => exact List.append_nil _
  · rfl

theorem sound_effective {s : SelectPlan} {c : Option Condition} (hc : ∀ c' ∈ c, c'.Sound) :
    ∀ c' ∈ s.effective d c, c'.Sound := by
  unfold SelectPlan.effective
  split
  · intro c' hc'
    cases c with
    | none =>
      cases hc'
      trivial
    | some c =>
      cases hc'
      exact ⟨hc c rfl, trivial⟩
  · exact hc

/-- The tokens of a query are its head, its filter and what closes it. -/
theorem selectTokens_eq {s : SelectPlan} (hne : s.columns ≠ []) :
    d.selectTokens t s = (Condition.ofFilter t s.filter).map fun c =>
      let part := (Condition.filterPart d (s.effective d c)).run .empty
      (selectHead t s ++ part.1 ++ s.closing d, part.2) := by
  have hcolumns : s.columns.isEmpty = false := by simpa using hne
  unfold SqlDialect.selectTokens SelectPlan.effective SelectPlan.closing
  rw [if_neg (by simp [hcolumns])]
  split
  · rw [Condition.neverTokens_eq]
    cases Condition.ofFilter t s.filter with
    | error e => rfl
    | ok c => exact congrArg Except.ok (Prod.ext (List.append_nil _).symm rfl)
  · rw [Condition.filterTokens_eq]
    cases Condition.ofFilter t s.filter with
    | error e => rfl
    | ok c => exact congrArg Except.ok (Prod.ext (List.append_assoc ..) rfl)

theorem prepared_select {s : SelectPlan} (h : d.selectTokens t s = .ok stmt) :
    ∃ c, Condition.ofFilter t s.filter = .ok c ∧
      Prepared d (Plan.select s).assigned ((Plan.select s).constants d c)
        ((Plan.select s).command d t c) stmt := by
  have hne : s.columns ≠ [] := by
    intro hnil
    simp [SqlDialect.selectTokens, hnil] at h
  rw [selectTokens_eq hne] at h
  obtain ⟨c, hc, rfl⟩ := map_eq_ok_iff.1 h
  have hpart := Condition.isFilter (d := d)
    (sound_effective (d := d) (s := s) (Condition.sound_of_ofFilter hc))
  rw [constants_effective] at hpart
  refine ⟨c, hc, Prepared.ofParts hpart (phrase_selectHead s) (slots_selectHead s)
    (closing_select s) fun g hg rest _ hfilter => ?_⟩
  rw [lexemes_congr g (fun _ => .null) (closing_select s).slots] at hfilter
  exact read_selectHead hne g hfilter

/-- What stands before the filter of a count. -/
def countHead (t : Table) : List SqlToken :=
  [.word "SELECT", .blank, .word "COUNT", .mark "(", .number 1, .mark ")", .blank, .word "FROM",
    .blank, .ident t.entity.table]

theorem phrase_countHead : Phrase d (countHead t) := by
  have hone : Phrase d (parens [.number 1]) := (phrase_number 1).parens
  have hfrom : Phrase d [.word "FROM", .blank, .ident t.entity.table] :=
    (phrase_ident _).cons_blank rfl
  have hcounted := hone.append_blank hfrom
  refine Phrase.cons_blank rfl fun next hnext => ?_
  have hspaced := hcounted next hnext
  rw [spaced]
  exact Bool.and_eq_true_iff.2 ⟨rfl, hspaced⟩

theorem prepared_count {filter : Option Predicate} (h : d.countTokens t filter = .ok stmt) :
    ∃ c, Condition.ofFilter t filter = .ok c ∧
      Prepared d (Plan.count filter).assigned ((Plan.count filter).constants d c)
        ((Plan.count filter).command d t c) stmt := by
  refine Prepared.ofHead phrase_countHead rfl
    (fun c g _ rest _ hfilter => ?_) h
  change readCount (.word "FROM" :: .ident t.entity.table :: rest) = _
  simp only [readCount, readFrom, hfilter, Option.bind_eq_bind, Option.bind_some]
  rfl

/-- What stands before the filter of a deletion. -/
def deleteHead (t : Table) : List SqlToken :=
  words ["DELETE", "FROM"] ++ [.blank, .ident t.entity.table]

theorem phrase_deleteHead : Phrase d (deleteHead t) :=
  (phrase_words rfl).append_blank (phrase_ident _)

theorem prepared_delete {filter : Predicate} (h : d.deleteTokens t filter = .ok stmt) :
    ∃ c, Condition.ofFilter t (some filter) = .ok c ∧
      Prepared d (Plan.delete filter).assigned ((Plan.delete filter).constants d c)
        ((Plan.delete filter).command d t c) stmt := by
  refine Prepared.ofHead phrase_deleteHead rfl
    (fun c g _ rest _ hfilter => ?_) h
  change readDelete (.word "FROM" :: .ident t.entity.table :: rest) = _
  simp only [readDelete, readFrom, hfilter, Option.bind_eq_bind, Option.bind_some]
  rfl

/-- Assignments bind the assigned values, each in its place. -/
theorem run_assignments (pairs : List (Field × Value)) (ps : Params) :
    ∃ slots, (SqlDialect.assignments pairs).run ps =
        (((pairs.map fun (f, _) => f.column).zip slots).map fun (c, slot) => assignment c slot,
          ps.bindAll assignmentStem (pairs.map Prod.snd)) ∧
      (ps.bindAll assignmentStem (pairs.map Prod.snd)).slots = ps.slots ++ slots ∧
      slots.length = pairs.length ∧ ∀ slot ∈ slots, (SqlToken.param slot).readable d = true := by
  obtain ⟨slots, hrun, hslots, hlength, hreadable⟩ :=
    run_bindParams (d := d) assignmentStem (pairs.map Prod.snd) ps
  refine ⟨slots, ?_, hslots, by simpa using hlength,
    hreadable Condition.isStem_assignmentStem⟩
  have hassign : (SqlDialect.assignments pairs).run ps =
      ((pairs.zip ((bindParams assignmentStem (pairs.map Prod.snd)).run ps).1).map
        fun pair => [.ident pair.1.1.column, .blank, .mark "=", .blank, pair.2],
        ((bindParams assignmentStem (pairs.map Prod.snd)).run ps).2) := rfl
  rw [hassign, hrun, List.zip_map_right, List.zip_map_left, List.map_map, List.map_map]
  rfl

theorem phrase_assignment (column : String) {slot : Params.Slot}
    (h : (SqlToken.param slot).readable d = true) : Phrase d (assignment column slot) :=
  ((phrase_singleton h (by simp)).cons_blank rfl).cons_blank rfl

/-- The assignments of a statement whose placeholders are given. -/
def assignmentTokens (pairs : List (Field × Value)) (places : List Params.Slot) : List SqlToken :=
  commaList (((pairs.map fun (f, _) => f.column).zip places).map fun (c, slot) =>
    assignment c slot)

theorem slots_assignmentTokens {pairs : List (Field × Value)} {places : List Params.Slot}
    (h : places.length = pairs.length) :
    SqlToken.slots (assignmentTokens pairs places) = places := by
  have hone : ∀ pair : String × Params.Slot,
      SqlToken.slots (assignment pair.1 pair.2) = [pair.2] := fun _ => rfl
  rw [assignmentTokens, slots_commaList, List.flatMap_map]
  simp only [hone]
  rw [← List.map_eq_flatMap, List.map_snd_zip (by simp [h])]

theorem phrase_assignmentTokens {pairs : List (Field × Value)} {places : List Params.Slot}
    (h : ∀ slot ∈ places, (SqlToken.param slot).readable d = true) :
    Phrase d (assignmentTokens pairs places) := by
  apply Phrase.commaList
  simp only [List.mem_map]
  rintro _ ⟨⟨column, slot⟩, hmem, rfl⟩
  exact phrase_assignment column (h slot (List.of_mem_zip hmem).2)

theorem readAssigned_assignmentTokens {pairs : List (Field × Value)} {places : List Params.Slot}
    {g : Params.Slot → Value} (hne : pairs ≠ []) (hg : places.map g = pairs.map Prod.snd)
    {rest : List (Lexeme Value)} (hrest : Lexeme.endsList rest = true) :
    readAssigned (lexemes g (assignmentTokens pairs places) ++ rest) =
      some (pairs.map fun (f, v) => (f.column, v), rest) := by
  have hlength : places.length = pairs.length := by simpa using congrArg List.length hg
  have hcolumns : (pairs.map fun (f, _) => f.column).zip places ≠ [] := by
    intro hnil
    have hzip := congrArg List.length hnil
    simp only [List.length_zip, List.length_map, hlength, Nat.min_self, List.length_nil] at hzip
    exact hne (List.length_eq_zero_iff.1 hzip)
  have hpairs : (((pairs.map fun (f, _) => f.column).zip places).map fun (c, slot) => (c, g slot)) =
      pairs.map fun (f, v) => (f.column, v) := by
    calc (((pairs.map fun (f, _) => f.column).zip places).map fun (c, slot) => (c, g slot))
        = (pairs.map fun (f, _) => f.column).zip (places.map g) := List.zip_map_right.symm
      _ = (pairs.map fun (f, _) => f.column).zip (pairs.map Prod.snd) := by rw [hg]
      _ = pairs.map fun (f, v) => (f.column, v) := List.zip_map'
  rw [assignmentTokens, readAssigned_commaList hcolumns hrest, hpairs]

/-- What stands before the filter of an update. -/
def updateHead (t : Table) (sets : List SqlToken) : List SqlToken :=
  [.word "UPDATE", .blank, .ident t.entity.table, .blank, .word "SET", .blank] ++ sets

theorem phrase_updateHead {sets : List SqlToken} (h : Phrase d sets) :
    Phrase d (updateHead t sets) :=
  ((h.cons_blank rfl).cons_blank rfl).cons_blank rfl

theorem prepared_update {filter : Predicate} {pairs : List (Field × Value)}
    (h : d.updateTokens t filter pairs = .ok stmt) :
    ∃ c, Condition.ofFilter t (some filter) = .ok c ∧
      Prepared d (Plan.update filter pairs).assigned ((Plan.update filter pairs).constants d c)
        ((Plan.update filter pairs).command d t c) stmt := by
  have hne : pairs ≠ [] := by
    intro hnil
    simp [SqlDialect.updateTokens, hnil] at h
  have hpairs : pairs.isEmpty = false := by simpa using hne
  obtain ⟨places, hrun, hplaces, hlength, hreadable⟩ := run_assignments (d := d) pairs .empty
  have hslots : SqlToken.slots (updateHead t (assignmentTokens pairs places)) = places :=
    slots_assignmentTokens hlength
  have hhead : Phrase d (updateHead t (assignmentTokens pairs places)) :=
    phrase_updateHead (phrase_assignmentTokens hreadable)
  rw [SqlDialect.updateTokens, if_neg (by simp [hpairs]), hrun] at h
  refine Prepared.ofHead hhead (hslots.trans hplaces.symm)
    (fun c g hg rest hends hfilter => ?_) h
  rw [hslots] at hg
  have hassigned := readAssigned_assignmentTokens hne hg hends
  change readUpdate t.entity.table (lexemes g (assignmentTokens pairs places) ++ rest) = _
  simp only [readUpdate, hassigned, hfilter, Option.bind_eq_bind, Option.bind_some]
  rfl

/-- An insertion whose placeholders are given. -/
def insertion (t : Table) (pairs : List (Field × Value)) (places : List Params.Slot) :
    List SqlToken :=
  .word "INSERT" :: .blank :: .word "INTO" :: .blank :: .ident t.entity.table :: .blank ::
    (parens (SqlDialect.columnList (pairs.map Prod.fst)) ++ .blank :: .word "VALUES" :: .blank ::
      parens (commaList ((places.map SqlToken.param).map fun t => [t])))

theorem slots_insertion (pairs : List (Field × Value)) (places : List Params.Slot) :
    SqlToken.slots (insertion t pairs places) = places := by
  simp [insertion, slots_columnList, slots_paramList, -List.map_map]

theorem phrase_insertion (pairs : List (Field × Value)) {places : List Params.Slot}
    (h : ∀ slot ∈ places, (SqlToken.param slot).readable d = true) :
    Phrase d (insertion t pairs places) := by
  have hcolumns : Phrase d (parens (SqlDialect.columnList (pairs.map Prod.fst))) :=
    (phrase_columnList _).parens
  have hvalues : Phrase d (.word "VALUES" :: .blank ::
      parens (commaList ((places.map SqlToken.param).map fun t => [t]))) :=
    (phrase_paramList h).cons_blank rfl
  exact (((hcolumns.append_blank hvalues).cons_blank rfl).cons_blank rfl).cons_blank rfl

theorem read_insertion {pairs : List (Field × Value)} {places : List Params.Slot}
    {g : Params.Slot → Value} (hne : pairs ≠ []) (hg : places.map g = pairs.map Prod.snd) :
    SqlCommand.read (lexemes g (insertion t pairs places)) =
      some (.insert t.entity.table (pairs.map fun (f, _) => f.column) (pairs.map Prod.snd)) := by
  have hident : ∀ f : Field, ∃ l, (SqlToken.ident f.column).lexeme? g = some l ∧
      l.ident? = some f.column := fun f => ⟨.ident f.column, rfl, rfl⟩
  have hfields : pairs.map Prod.fst ≠ [] := by simpa using hne
  have hplaces : places ≠ [] := by
    intro hnil
    rw [hnil, List.map_nil] at hg
    exact hne (List.map_eq_nil_iff.1 hg.symm)
  have hcolumns := readList_commaList hident hfields (.word "VALUES" :: .mark "(" ::
    (lexemes g (commaList ((places.map SqlToken.param).map fun t => [t])) ++ [.mark ")"]))
  have hvalues := readList_params (g := g) hplaces []
  rw [hg] at hvalues
  have hlexemes : lexemes g (insertion t pairs places) = .word "INSERT" :: .word "INTO" ::
      .ident t.entity.table :: .mark "(" ::
        (lexemes g (SqlDialect.columnList (pairs.map Prod.fst)) ++ .mark ")" :: .word "VALUES" ::
          .mark "(" ::
            (lexemes g (commaList ((places.map SqlToken.param).map fun t => [t])) ++
              [.mark ")"])) := by
    simp [insertion, parens]
  rw [hlexemes]
  change readInsert t.entity.table _ = _
  rw [readInsert, SqlDialect.columnList, hcolumns]
  simp only [Option.bind_eq_bind, Option.bind_some, readValues, hvalues]
  rw [List.map_map]
  rfl

theorem prepared_insert {pairs : List (Field × Value)}
    (h : SqlDialect.insertTokens t pairs = .ok stmt) :
    Prepared d (Plan.insert pairs).assigned ((Plan.insert pairs).constants d none)
      ((Plan.insert pairs).command d t none) stmt := by
  have hne : pairs ≠ [] := by
    intro hnil
    simp [SqlDialect.insertTokens, hnil] at h
  obtain ⟨places, hrun, hplaces, -, hreadable⟩ :=
    run_bindParams (d := d) filterStem (pairs.map Prod.snd) .empty
  have heq : SqlDialect.insertTokens t pairs =
      .ok (insertion t pairs places, Params.empty.bindAll filterStem (pairs.map Prod.snd)) := by
    have hpairs : pairs.isEmpty = false := by simpa using hne
    rw [SqlDialect.insertTokens, if_neg (by simp [hpairs]), hrun]
    simp [insertion, words, parens, -List.map_map]
  rw [heq] at h
  cases h
  refine ⟨rfl, (slots_insertion pairs places).trans hplaces.symm,
    (phrase_insertion pairs (hreadable Condition.isStem_filterStem)).spaced_none, fun g hg => ?_⟩
  rw [slots_insertion] at hg
  exact read_insertion hne hg

/-- The tokens of an accepted plan are a statement of what the plan asks for. -/
theorem prepared_planTokens {p : Plan} (h : d.planTokens t p = .ok stmt) :
    ∃ c, Condition.ofFilter t p.filter? = .ok c ∧
      Prepared d p.assigned (p.constants d c) (p.command d t c) stmt := by
  cases p with
  | select s => exact prepared_select h
  | count filter => exact prepared_count h
  | update filter pairs => exact prepared_update h
  | delete filter => exact prepared_delete h
  | insert pairs => exact ⟨none, rfl, prepared_insert h⟩

end Prepared

end Sift
