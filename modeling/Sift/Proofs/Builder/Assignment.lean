import Sift.Proofs.Builder.Commuting
import Sift.Proofs.Refusal
import Sift.Proofs.SharedFilter
import Sift.Proofs.Sql.Execution

/-!
# What an update assigns

Values are given to properties one after the other, some of them several times, by any mixture of
calls. An update keeps the last value of each property at the place of its first, `LastWrites`. Its
statement assigns just these: in a relational store the list behind `SET` names them in this order and
binds the `k`-th under the `k`-th name, and a row that it is run on has changed in their columns and
nowhere else; a document store is given them as the members of one object. The main result is
`Update.sets_applyAll`.
-/
namespace Sift

/-! ## Members sorted by key -/

namespace Json

/-- A member with a new key is put between the others. -/
theorem perm_insertMember {key : String} (value : Json) {members : List (String × Json)}
    (h : key ∉ members.map Prod.fst) :
    (insertMember key value members).Perm ((key, value) :: members) := by
  induction members with
  | nil => exact .refl _
  | cons first rest ih =>
    obtain ⟨k, v⟩ := first
    obtain ⟨hk, hrest⟩ := List.ne_and_not_mem_of_not_mem_cons h
    rw [insertMember]
    by_cases hlt : key < k
    · rw [if_pos hlt]
    · rw [if_neg hlt, if_neg hk]
      exact ((ih hrest).cons (k, v)).trans (.swap (key, value) (k, v) rest)

/-- Members with different keys are put between others one by one. -/
theorem perm_foldl_insertMember {members before : List (String × Json)}
    (h : ((before ++ members).map Prod.fst).Nodup) :
    (members.foldl (fun sorted member => insertMember member.1 member.2 sorted) before).Perm
      (before ++ members) := by
  induction members generalizing before with
  | nil =>
    rw [List.append_nil]
    exact .refl before
  | cons first rest ih =>
    obtain ⟨k, v⟩ := first
    have hmiddle : ((k, v) :: (before ++ rest)).Perm (before ++ (k, v) :: rest) :=
      List.perm_middle.symm
    have hkeys := (hmiddle.map Prod.fst).nodup_iff.2 h
    have hfresh : k ∉ before.map Prod.fst := by
      intro hk
      refine (List.nodup_cons.1 hkeys).1 ?_
      rw [List.map_append]
      exact List.mem_append_left _ hk
    have hinsert : (insertMember k v before ++ rest).Perm ((k, v) :: (before ++ rest)) :=
      (perm_insertMember v hfresh).append_right rest
    have hrest := ih ((hinsert.map Prod.fst).nodup_iff.2 hkeys)
    exact hrest.trans (hinsert.trans hmiddle)

/-- An object of members with different keys has just these members. -/
theorem exists_ofMembers_perm {members : List (String × Json)}
    (h : (members.map Prod.fst).Nodup) :
    ∃ sorted, ofMembers members = .object sorted ∧ sorted.Perm members :=
  ⟨_, rfl, perm_foldl_insertMember h⟩

end Json

/-! ## The last values in the order of the first -/

/-- What comes of values that are given to properties one after the other: each property once, in the
order in which it was first given a value, and with the last value that it was given. -/
structure LastWrites (e : Entity) (pairs : List (String × Value)) (assigned : List (Field × Value)) :
    Prop where
  properties : assigned.map (fun cell => cell.1.property) = (pairs.map Prod.fst).eraseDups
  mem_fields : ∀ cell ∈ assigned, cell.1 ∈ e.fields
  last : ∀ cell ∈ assigned, pairs.reverse.lookup cell.1.property = some cell.2

namespace LastWrites

variable {e : Entity} {pairs : List (String × Value)} {assigned : List (Field × Value)}

theorem ne_nil (h : LastWrites e pairs assigned) (hne : pairs ≠ []) : assigned ≠ [] := by
  rintro rfl
  obtain ⟨cell, rest, rfl⟩ := List.exists_cons_of_ne_nil hne
  have hmem : cell.1 ∈ ((cell :: rest).map Prod.fst).eraseDups :=
    List.mem_eraseDups.2 (List.mem_cons_self ..)
  rw [← h.properties] at hmem
  cases hmem

/-- Where no two fields have one column, no column is assigned twice. -/
theorem nodup_columns (h : LastWrites e pairs assigned)
    (hcolumns : (e.fields.map Field.column).Nodup) :
    (assigned.map fun cell => cell.1.column).Nodup := by
  have hproperties : ((assigned.map Prod.fst).map Field.property).Nodup := by
    rw [List.map_map]
    have hnodup := Record.nodup_eraseDups (pairs.map Prod.fst)
    rw [← h.properties] at hnodup
    exact hnodup
  have hfields : ∀ f ∈ assigned.map Prod.fst, f ∈ e.fields := by
    intro f hf
    obtain ⟨cell, hcell, rfl⟩ := List.mem_map.1 hf
    exact h.mem_fields cell hcell
  have hinj : ∀ f ∈ assigned.map Prod.fst, ∀ g ∈ assigned.map Prod.fst,
      f.column = g.column → f = g :=
    fun f hf g hg hfg => List.inj_on_of_nodup_map hcolumns (hfields f hf) (hfields g hg) hfg
  have hnodup := List.Nodup.map_on hinj (List.Nodup.of_map _ hproperties)
  rw [List.map_map] at hnodup
  exact hnodup

end LastWrites

namespace Update

variable {e : Entity} {t : Table}

/-- The assigned fields have the names and values that the update keeps. -/
theorem cells_assignedFields {u : Update e} {assigned : List (Field × Value)}
    (h : u.assignedFields t = .ok assigned) :
    assigned.map (fun cell => (cell.1.property, cell.2)) = u.assigned.columns ∧
      ∀ cell ∈ assigned, cell.1 ∈ t.fields := by
  refine map_of_mapM (fun kept cell hcell => ?_) h
  obtain ⟨f, hf, hcell⟩ := bind_eq_ok_iff.1 hcell
  cases hcell
  have hfound := Table.field_eq_ok_iff.1 hf
  exact ⟨Prod.ext (Table.property_of_field? hfound) rfl, Table.mem_of_field? hfound⟩

/-- An update assigns the last values in the order of the first. -/
theorem exists_lastWrites (s : Scope e) {steps : List UpdateStep}
    (hmapped : ∀ name ∈ (steps.flatMap UpdateStep.assignments).map Prod.fst,
      name ∈ t.entity.properties) :
    ∃ assigned, ((new s).applyAll steps).assignedFields t = .ok assigned ∧
      LastWrites t.entity (steps.flatMap UpdateStep.assignments) assigned := by
  have hrecord : ((new s).applyAll steps).assigned =
      Record.ofList (steps.flatMap UpdateStep.assignments) := assigned_applyAll _ steps
  generalize steps.flatMap UpdateStep.assignments = pairs at hmapped hrecord
  have hcolumns := Record.map_fst_ofList pairs
  have hnames : ∀ cell ∈ ((new s).applyAll steps).assigned.columns,
      cell.1 ∈ t.entity.properties := by
    intro cell hcell
    rw [hrecord] at hcell
    refine hmapped cell.1 ?_
    rw [← List.mem_eraseDups, ← hcolumns]
    exact List.mem_map_of_mem hcell
  obtain ⟨assigned, hassigned⟩ := exists_assignedFields hnames
  obtain ⟨hcells, hfields⟩ := cells_assignedFields hassigned
  rw [hrecord] at hcells
  refine ⟨assigned, hassigned, ?_, hfields, fun cell hcell => ?_⟩
  · rw [← hcolumns, ← hcells, List.map_map]
    rfl
  · have hmem : (cell.1.property, cell.2) ∈ (Record.ofList pairs).columns := by
      rw [← hcells]
      exact List.mem_map_of_mem hcell
    rw [← Record.get?_ofList]
    exact Record.lookup_of_nodup (Record.nodup_columns_ofList pairs) hmem

end Update

/-! ## What the statement assigns -/

/-- The statement of a relational store assigns some values. Its text names their columns in order;
the `k`-th value is the `k`-th parameter and is found under the `k`-th name; and where no two fields
have one column, the rows that it is run on change in these columns and in no others. -/
structure SqlStatement.Sets (d : SqlDialect) (t : Table) (c : Condition)
    (assigned : List (Field × Value)) (st : SqlStatement) : Prop where
  text : ∃ clause, st.text = "UPDATE " ++ d.quote t.entity.table ++ " SET " ++
    d.assignmentText assigned ++ " WHERE " ++ clause
  params : ∀ k cell, assigned[k]? = some cell →
    st.params.toList[k]? = some ⟨"U_Parameter" ++ toString (k + 1), cell.2⟩ ∧
      st.params.get? ("U_Parameter" ++ toString (k + 1)) = some cell.2
  read : d.readCommand st = some (.update t.entity.table
    (assigned.map fun cell => (cell.1.column, cell.2)) (some (c.written d)))
  run : (t.entity.fields.map Field.column).Nodup →
    ∃ change : (String → Value) → String → Value,
      (∀ row, (∀ cell ∈ assigned, change row cell.1.column = cell.2) ∧
        ∀ column, column ∉ assigned.map (fun cell => cell.1.column) →
          change row column = row column) ∧
      ∀ (cmp : Comparison) (db : Database),
        d.runAll cmp db [st] = some (db.replace t.entity.table ((db t.entity.table).map fun row =>
          if SqlCommand.meets d cmp (some (c.written d)) row then change row else row))

/-- The command of a document store assigns some values. Where no two fields have one column, its
object of assignments has one member for each of them and no others. -/
structure Command.Sets (t : Table) (c : Condition) (assigned : List (Field × Value))
    (cmd : Command) : Prop where
  command : cmd = .update t.entity.table c.filter (Command.members assigned)
  members : (t.entity.fields.map Field.column).Nodup → ∃ members,
    cmd.toJson = .object [("op", .string "update"), ("collection", .string t.entity.table),
      ("filter", c.filter), ("set", .object members)] ∧
    members.Perm (assigned.map fun cell => (cell.1.column, cell.2.toJson))

/-- A statement assigns some values to the rows of a condition. -/
inductive Statement.Sets (t : Table) (c : Condition) (assigned : List (Field × Value)) :
    Dialect → Statement → Prop
  | sql {d : SqlDialect} {st : SqlStatement} (sets : st.Sets d t c assigned) :
    Sets t c assigned (.sql d) (.sql st)
  | document {cmd : Command} (sets : cmd.Sets t c assigned) :
    Sets t c assigned .document (.document cmd)

section Statements

variable {d : SqlDialect} {t : Table} {p : Predicate} {c : Condition}
  {pairs : List (String × Value)} {assigned : List (Field × Value)}

/-- The assigned values are bound before anything else. -/
theorem Params.getElem?_bound (assigned constants : List Value) {k : Nat} {v : Value}
    (h : assigned[k]? = some v) :
    ((empty.bindAll assignmentStem assigned).bindAll filterStem constants).toList[k]? =
      some ⟨"U_Parameter" ++ toString (k + 1), v⟩ := by
  have hfound : (numbered assignmentStem assigned)[k]? =
      some ⟨"U_Parameter" ++ toString (k + 1), v⟩ := by
    rw [getElem?_numbered, h]
    rfl
  obtain ⟨hlt, -⟩ := List.getElem?_eq_some_iff.1 hfound
  rw [toList_bindAll, toList_bindAll_empty, List.getElem?_append_left hlt, hfound]

/-- What a change of columns does that are all different. -/
theorem SqlCommand.changedRow_cells (hnodup : (assigned.map fun cell => cell.1.column).Nodup)
    (row : String → Value) :
    let change := changedRow (assigned.map fun cell => (cell.1.column, cell.2))
    (∀ cell ∈ assigned, change row cell.1.column = cell.2) ∧
      ∀ column, column ∉ assigned.map (fun cell => cell.1.column) →
        change row column = row column := by
  have hcolumns : (assigned.map fun cell => (cell.1.column, cell.2)).map Prod.fst =
      assigned.map fun cell => cell.1.column := List.map_map
  constructor
  · intro cell hcell
    exact changedRow_of_mem (hcolumns ▸ hnodup) row (List.mem_map.2 ⟨cell, hcell, rfl⟩)
  · intro column hcolumn
    exact changedRow_of_notMem row (hcolumns ▸ hcolumn)

/-- The statement of an update of a relational table. -/
theorem Plan.exists_sets_sql (hd : t.dialect = .sql d) (hc : Condition.ofPredicate t p = .ok c)
    (h : LastWrites t.entity pairs assigned) (hne : assigned ≠ []) :
    ∃ st, Plan.compile t (.update p assigned) = .ok (.sql st) ∧ st.Sets d t c assigned := by
  obtain ⟨bound, hcompile, -⟩ := (t.shareClause_of_ofPredicate hd hc).update assigned hne
  have hlowered : Condition.ofFilter t (some p) = .ok (some c) := by
    rw [Condition.ofFilter, hc]
    rfl
  have hsays := Plan.says_of_compile (p := .update p assigned) hne hlowered hcompile
  rw [hd] at hsays
  obtain ⟨hread⟩ := hsays
  have hparams : ∃ constants, bound =
      (Params.empty.bindAll assignmentStem (assigned.map Prod.snd)).bindAll filterStem
        constants := by
    rw [Plan.compile_sql hd] at hcompile
    obtain ⟨⟨ts, ps⟩, htokens, hst⟩ := map_eq_ok_iff.1 hcompile
    obtain ⟨_, -, hprepared⟩ := prepared_planTokens htokens
    obtain ⟨-, hbound⟩ := SqlStatement.mk.inj (Statement.sql.inj hst)
    exact ⟨_, hbound ▸ hprepared.params⟩
  obtain ⟨constants, rfl⟩ := hparams
  refine ⟨_, hcompile, ⟨_, rfl⟩, fun k cell hk => ?_, hread, fun hcolumns => ?_⟩
  · have hvalue : (assigned.map Prod.snd)[k]? = some cell.2 := by
      rw [List.getElem?_map, hk]
      rfl
    have hbound := Params.getElem?_bound (assigned.map Prod.snd) constants hvalue
    exact ⟨hbound, Params.get?_of_nodup (Params.nodup_names _ _) hbound⟩
  · have hchange := SqlCommand.changedRow_cells (h.nodup_columns hcolumns)
    exact ⟨_, hchange, fun cmp db => SqlDialect.runAll_cons hread cmp db []⟩

/-- The command of an update of a document table. -/
theorem Plan.exists_sets_document (hd : t.dialect = .document)
    (hc : Condition.ofPredicate t p = .ok c) (h : LastWrites t.entity pairs assigned)
    (hne : assigned ≠ []) :
    ∃ cmd, Plan.compile t (.update p assigned) = .ok (.document cmd) ∧ cmd.Sets t c assigned := by
  refine ⟨_, (t.shareDocument_of_ofPredicate hd hc).update assigned hne, rfl, fun hcolumns => ?_⟩
  have hkeys : ((Command.members assigned).map Prod.fst).Nodup := by
    have hnodup := h.nodup_columns hcolumns
    rw [Command.members, List.map_map]
    exact hnodup
  obtain ⟨members, hmembers, hperm⟩ := Json.exists_ofMembers_perm hkeys
  refine ⟨members, ?_, hperm⟩
  rw [Command.toJson, hmembers]

theorem Plan.exists_sets (hc : Condition.ofPredicate t p = .ok c)
    (h : LastWrites t.entity pairs assigned) (hne : assigned ≠ []) :
    ∃ s, Plan.compile t (.update p assigned) = .ok s ∧ s.Sets t c assigned t.dialect := by
  cases hd : t.dialect with
  | sql d =>
    obtain ⟨st, hst, hsets⟩ := Plan.exists_sets_sql hd hc h hne
    exact ⟨_, hst, .sql hsets⟩
  | document =>
    obtain ⟨cmd, hcmd, hsets⟩ := Plan.exists_sets_document hd hc h hne
    exact ⟨_, hcmd, .document hsets⟩

end Statements

/-! ## The statement of an update -/

/-- Names that are mapped are no fault, so they can be left out between the filters. -/
theorem Table.checkNames_mentions {t : Table} {ms : List Mention}
    (h : ∀ name, .property name ∈ ms → name ∈ t.entity.properties) :
    t.checkNames (ms.flatMap Mention.names) =
      t.checkNames ((ms.filterMap Mention.filter?).flatMap Predicate.fields) := by
  induction ms with
  | nil => rfl
  | cons m ms ih =>
    have hrest := ih fun name hname => h name (List.mem_cons_of_mem m hname)
    cases m with
    | filter p =>
      change t.checkNames (p.fields ++ ms.flatMap Mention.names) =
        t.checkNames (p.fields ++ (ms.filterMap Mention.filter?).flatMap Predicate.fields)
      rw [checkNames_append, checkNames_append]
      cases hp : t.checkNames p.fields with
      | error err => rfl
      | ok t' =>
        -- a filter without a fault leaves the table to the names behind it
        obtain rfl := (checkNames_eq_ok_iff.1 hp).1
        exact hrest
    | property name =>
      have hname : t.checkNames [name] = .ok t := by
        refine checkNames_eq_ok_iff.2 ⟨rfl, fun other hother => ?_⟩
        obtain rfl := List.mem_singleton.1 hother
        exact h _ (List.mem_cons_self ..)
      rw [List.flatMap_cons, checkNames_append, Mention.names, hname]
      exact hrest

namespace Update

variable {e : Entity} {t : Table}

/-- It does not matter by which calls values are given to mapped properties, nor where the filters
stand between them. -/
theorem applyAll_congr {s : Scope e} (hs : s.state = .ok t) {steps steps' : List UpdateStep}
    (hmapped : ∀ name ∈ (steps.flatMap UpdateStep.assignments).map Prod.fst,
      name ∈ t.entity.properties)
    (hfilters : UpdateStep.filters steps' = UpdateStep.filters steps)
    (hassigned : steps'.flatMap UpdateStep.assignments = steps.flatMap UpdateStep.assignments) :
    (new s).applyAll steps' = (new s).applyAll steps := by
  have hstate : ∀ calls : List UpdateStep,
      calls.flatMap UpdateStep.assignments = steps.flatMap UpdateStep.assignments →
      (s.mentionAll (calls.flatMap UpdateStep.mentions)).state =
        t.checkNames ((UpdateStep.filters calls).flatMap Predicate.fields) := by
    intro calls hcalls
    rw [Scope.state_mentionAll, hs]
    refine Table.checkNames_mentions fun name hname => hmapped name ?_
    rw [← hcalls]
    exact UpdateStep.property_mem_mentions_iff.1 hname
  have hscope : s.mentionAll (steps'.flatMap UpdateStep.mentions) =
      s.mentionAll (steps.flatMap UpdateStep.mentions) := by
    rw [Scope.mk.injEq]
    refine ⟨?_, ?_, ?_, ?_⟩
    · rw [Scope.name_mentionAll, Scope.name_mentionAll]
    · rw [Scope.routingKey_mentionAll, Scope.routingKey_mentionAll]
    · rw [hstate steps' hassigned, hstate steps rfl, hfilters]
    · rw [Scope.filter_mentionAll, Scope.filter_mentionAll]
      exact congrArg (fun ps => Predicate.all? (s.filter.toList ++ ps)) hfilters
  rw [Update.mk.injEq, scope_applyAll, scope_applyAll, assigned_applyAll, assigned_applyAll]
  rw [hassigned]
  exact ⟨hscope, rfl⟩

/-- Values given to mapped properties in any number of calls are assigned as the last value of each
property, in the order in which the properties were first given one; which calls gave them does not
matter. With a filter that can be lowered there is a statement, which assigns these values in every
dialect and is executed, in one call, when the update is run. -/
theorem sets_applyAll {d : Dialect} (htable : Table.ofEntity e d = .ok t) (typeName : String)
    (routingKey : Option String) {steps : List UpdateStep}
    (hmapped : ∀ name ∈ (steps.flatMap UpdateStep.assignments).map Prod.fst,
      name ∈ e.properties) :
    (∀ steps', UpdateStep.filters steps' = UpdateStep.filters steps →
      steps'.flatMap UpdateStep.assignments = steps.flatMap UpdateStep.assignments →
      ((new (.ofEntity e d typeName routingKey)).applyAll steps').toStatement =
        ((new (.ofEntity e d typeName routingKey)).applyAll steps).toStatement) ∧
    ∃ assigned, LastWrites e (steps.flatMap UpdateStep.assignments) assigned ∧
      ∀ p c, Predicate.all? (UpdateStep.filters steps) = some p →
        Condition.ofPredicate t p = .ok c → steps.flatMap UpdateStep.assignments ≠ [] →
        ∃ s, ((new (.ofEntity e d typeName routingKey)).applyAll steps).toStatement = .ok s ∧
          (∀ logLimit script j,
            ((((new (.ofEntity e d typeName routingKey)).applyAll steps).run
              (recorder d logLimit script)).run j).2.calls =
              j.calls ++ [⟨.execute, ⟨.update, .write, true, e.name, routingKey⟩, [s]⟩]) ∧
          s.Sets t c assigned d := by
  obtain ⟨rfl, rfl⟩ := Table.eq_of_ofEntity htable
  refine ⟨fun steps' hfilters hassigned => ?_, ?_⟩
  · rw [applyAll_congr htable hmapped hfilters hassigned]
  · obtain ⟨assigned, hassigned, hwrites⟩ :=
      exists_lastWrites (.ofEntity t.entity t.dialect typeName routingKey) hmapped
    refine ⟨assigned, hwrites, fun p c hp hc hne => ?_⟩
    obtain ⟨s, hs, hsets⟩ := Plan.exists_sets hc hwrites (hwrites.ne_nil hne)
    have hstatement : ((new (.ofEntity t.entity t.dialect typeName routingKey)).applyAll
        steps).toStatement = .ok s := by
      refine toStatement_eq_ok_iff.2 ⟨t, p, assigned, ?_, ?_, ?_, hassigned, hs⟩
      · rw [scope_applyAll]
        refine Scope.state_mentionAll_eq_ok_iff.2 ⟨htable, fun name hname => ?_⟩
        rcases UpdateStep.mem_names_iff.1 hname with hfilter | hvalue
        · rw [← Predicate.fields_of_all? hp] at hfilter
          exact Condition.mapped_of_ofPredicate hc name hfilter
        · exact hmapped name hvalue
      · rw [scope_applyAll, Scope.filter_mentionAll]
        exact hp
      · exact fun hnil => hne (columns_applyAll_eq_nil_iff.1 hnil).2
    refine ⟨s, hstatement, ?_, hsets⟩
    intro logLimit script j
    rw [calls_run_of_toStatement hstatement, context_applyAll, new, Scope.context_ofEntity htable]
    rfl

/-- The same values one by one. -/
def pickyUpdatingSplit : List UpdateStep :=
  [.set "name" (.text "ann"), .set "age" .null, .filter pickyPredicate,
    .set "name" (.text "o'neil"), .filter (.isNotNull "age")]

theorem sets_pickyUpdating : ∃ assigned c s,
    assigned.map (fun cell => cell.1.property) = ["name", "age"] ∧
    LastWrites (Table.people (.sql .sqlServer)).entity
      [("name", .text "ann"), ("age", .null), ("name", .text "o'neil")] assigned ∧
    ((new (.ofEntity (Table.people (.sql .sqlServer)).entity (.sql .sqlServer) "P" none)).applyAll
      UpdateStep.pickyUpdating).toStatement = .ok s ∧
    ((new (.ofEntity (Table.people (.sql .sqlServer)).entity (.sql .sqlServer) "P" none)).applyAll
      pickyUpdatingSplit).toStatement = .ok s ∧
    (∀ logLimit script,
      ((((new (.ofEntity (Table.people (.sql .sqlServer)).entity (.sql .sqlServer) "P"
        none)).applyAll UpdateStep.pickyUpdating).run
          (recorder (.sql .sqlServer) logLimit script)).run .empty).2.calls =
        [⟨.execute, ⟨.update, .write, true, "Person", none⟩, [s]⟩]) ∧
    s.Sets (Table.people (.sql .sqlServer)) c assigned (.sql .sqlServer) := by
  have htable : Table.ofEntity (Table.people (.sql .sqlServer)).entity (.sql .sqlServer) =
      .ok (.people (.sql .sqlServer)) := rfl
  have hmapped : ∀ name ∈ (UpdateStep.pickyUpdating.flatMap UpdateStep.assignments).map Prod.fst,
      name ∈ (Table.people (.sql .sqlServer)).entity.properties := by decide
  obtain ⟨hsplit, assigned, hwrites, hsets⟩ := sets_applyAll htable "P" none hmapped
  obtain ⟨s, hs, hcalls, hsets⟩ := hsets _ _ rfl rfl nofun
  exact ⟨assigned, _, s, hwrites.properties.trans rfl, hwrites, hs,
    (hsplit pickyUpdatingSplit rfl rfl).trans hs,
    fun logLimit script => hcalls logLimit script .empty, hsets⟩

end Update

end Sift
