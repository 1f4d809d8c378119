import Sift.Proofs.Builder.Refusal
import Sift.Proofs.Sql.Paging

/-!
# What a query reads of each row

Fields can be selected and taken out by any number of calls in any order. What comes of them is
`Entity.projected`: the selected fields, each where it was selected first, less those that were taken
out, and all fields if that leaves none. `Query.reads_applyAll` says that the statements of a query
read just these, in every dialect; that a test for any row reads the key instead; and that neither has
an influence on the order, which is made of all sort keys as they were given.
-/
namespace Sift

/-- The properties that are read of some selected ones and some that are taken out. Without a
selection, or if nothing would be left, there are all. -/
def Entity.projected (e : Entity) (selected unselected : List String) : List String :=
  let chosen := if selected = [] then e.properties else selected.eraseDups
  let kept := chosen.filter (· ∉ unselected)
  if kept = [] then e.properties else kept

/-- A statement reads some fields of each row, in the order of some keys. A query for zero rows has
no order where zero rows cannot be fetched. -/
inductive Statement.Reads (e : Entity) (limit : Option UInt64) (columns : List Field)
    (order : List SortKey) : Dialect → Statement → Prop
  | sql {d : SqlDialect} {st : SqlStatement} {filter : Option SqlExpr}
      {closing : List (Lexeme Value)} {tail : QueryTail}
      (read : d.readCommand st =
        some (.select (columns.map Field.column) e.table filter closing))
      (closed : SqlCommand.readTail d closing = some tail)
      (ordered : ¬(d = .sqlServer ∧ limit = some 0) →
        tail.order.getD [] = order.map fun k => (k.field.column, k.ascending)) :
      Reads e limit columns order (.sql d) (.sql st)
  | document {filter : Json} {skip : Option UInt64} :
      Reads e limit columns order .document (.document (.find e.table filter
        (columns.map Field.column) (order.map fun k => (k.field.column, k.ascending)) skip limit))

/-- The statement of a plan reads the columns of the plan. -/
theorem Statement.Says.reads {t : Table} {s : SelectPlan} {c : Option Condition} {d : Dialect}
    {st : Statement} (h : st.Says t (.select s) c d) :
    st.Reads t.entity s.take s.columns s.order d := by
  cases h with
  | document => exact .document
  | @sql d st read =>
    refine .sql read readTail_closing fun hzero => SelectPlan.getD_order_tail fun h => hzero ?_
    exact ⟨d.eq_sqlServer_of_rejectsZeroFetch h.2, h.1⟩

namespace Query

variable {e : Entity} {t : Table} {q : Query e}

/-! ## Names resolved once -/

/-- One more name is added to the chosen fields if it is not among them. -/
theorem properties_choose {chosen : List Field} {seen : List String} {f : Field}
    (hseen : chosen.map Field.property = seen.eraseDups) :
    (if chosen.any fun g => g.property = f.property then chosen else chosen ++ [f]).map
      Field.property = (seen ++ [f.property]).eraseDups := by
  have hmem : (chosen.any fun g => g.property = f.property) = true ↔ f.property ∈ seen := by
    rw [← List.mem_eraseDups, ← hseen, List.any_eq_true, List.mem_map]
    simp only [decide_eq_true_eq]
  rw [Record.eraseDups_concat]
  by_cases h : f.property ∈ seen
  · rw [if_pos (hmem.2 h), if_pos h, hseen]
  · rw [if_neg (mt hmem.1 h), if_neg h, List.map_append, hseen]
    rfl

/-- Names are resolved in their order, each once. -/
theorem properties_resolveDistinct {names seen : List String} {chosen fields : List Field}
    (hseen : chosen.map Field.property = seen.eraseDups)
    (h : resolveDistinct t chosen names = .ok fields) :
    fields.map Field.property = (seen ++ names).eraseDups := by
  induction names generalizing chosen seen with
  | nil =>
    cases h
    rw [List.append_nil, hseen]
  | cons name rest ih =>
    obtain ⟨f, hf, hrest⟩ := bind_eq_ok_iff.1 h
    obtain rfl : f.property = name := Table.property_of_field? (Table.field_eq_ok_iff.1 hf)
    rw [List.append_cons]
    exact ih (properties_choose hseen) hrest

theorem mem_fields_resolveDistinct {names : List String} {chosen fields : List Field}
    (hchosen : ∀ f ∈ chosen, f ∈ t.fields) (h : resolveDistinct t chosen names = .ok fields) :
    ∀ f ∈ fields, f ∈ t.fields := by
  induction names generalizing chosen with
  | nil =>
    cases h
    exact hchosen
  | cons name rest ih =>
    obtain ⟨f, hf, hrest⟩ := bind_eq_ok_iff.1 h
    refine ih (fun g hg => ?_) hrest
    split at hg
    · exact hchosen g hg
    · rcases List.mem_append.1 hg with hg | hg
      · exact hchosen g hg
      · rw [List.mem_singleton.1 hg]
        exact Table.mem_of_field? (Table.field_eq_ok_iff.1 hf)

/-! ## The projection and the order -/

/-- Fields are taken out by their names. -/
theorem properties_kept (q : Query e) (chosen : List Field) :
    (q.kept t chosen).map Field.property =
      let kept := (chosen.map Field.property).filter (· ∉ q.unselected)
      if kept = [] then t.entity.properties else kept := by
  have hkept : (chosen.filter fun f => !q.unselected.contains f.property).map Field.property =
      (chosen.map Field.property).filter (· ∉ q.unselected) := by
    rw [List.filter_map]
    refine congrArg (List.map Field.property) (List.filter_congr fun f _ => ?_)
    simp
  dsimp only [kept]
  rw [← hkept]
  by_cases hnil : chosen.filter (fun f => !q.unselected.contains f.property) = []
  · simp only [hnil, List.isEmpty_nil, List.map_nil, if_true]
    rfl
  · rw [if_neg (by simpa using hnil), if_neg (by simpa using hnil)]

theorem properties_projection {columns : List Field} (h : q.projection t = .ok columns) :
    columns.map Field.property = t.entity.projected q.selected q.unselected := by
  rw [projection_eq] at h
  obtain ⟨chosen, hchosen, rfl⟩ := map_eq_ok_iff.1 h
  have hproperties : chosen.map Field.property =
      if q.selected = [] then t.entity.properties else q.selected.eraseDups := by
    by_cases hselected : q.selected = []
    · rw [if_pos (by simpa using hselected)] at hchosen
      cases hchosen
      rw [if_pos hselected]
      rfl
    · rw [if_neg (by simpa using hselected)] at hchosen
      have hnone : ([] : List Field).map Field.property = ([] : List String).eraseDups := rfl
      rw [if_neg hselected]
      exact properties_resolveDistinct hnone hchosen
  rw [properties_kept, hproperties]
  rfl

theorem mem_fields_projection {columns : List Field} (h : q.projection t = .ok columns) :
    ∀ f ∈ columns, f ∈ t.fields := by
  rw [projection_eq] at h
  obtain ⟨chosen, hchosen, rfl⟩ := map_eq_ok_iff.1 h
  have hmem : ∀ f ∈ chosen, f ∈ t.fields := by
    split at hchosen
    · cases hchosen
      exact fun f hf => hf
    · exact mem_fields_resolveDistinct (List.forall_mem_nil _) hchosen
  intro f hf
  dsimp only [kept] at hf
  split at hf
  · exact hf
  · exact hmem f (List.mem_filter.1 hf).1

theorem nodup_projected {selected unselected : List String} (t : Table) :
    (t.entity.projected selected unselected).Nodup := by
  have hchosen : (if selected = [] then t.entity.properties else selected.eraseDups).Nodup := by
    split
    · exact t.distinct
    · exact Record.nodup_eraseDups selected
  unfold Entity.projected
  extract_lets chosen kept
  split
  · exact t.distinct
  · exact hchosen.filter _

/-- The sort keys are all that were given, in their order. -/
theorem keys_sortKeys {order : List SortKey} (h : q.sortKeys t = .ok order) :
    order.map (fun k => (k.field.property, k.ascending)) = q.order ∧
      ∀ k ∈ order, k.field ∈ t.fields := by
  refine map_of_mapM (fun key k hk => ?_) h
  obtain ⟨f, hf, hk⟩ := bind_eq_ok_iff.1 hk
  cases hk
  have hfound := Table.field_eq_ok_iff.1 hf
  exact ⟨Prod.ext (Table.property_of_field? hfound) rfl, Table.mem_of_field? hfound⟩

/-! ## The statements of a query -/

/-- The statement of a query is that of a plan with its fields and its order, and reads so. -/
theorem exists_reads {c : Option Condition} {start : Option UInt64} {keyOnly : Bool}
    {columns : List Field} {order : List SortKey} (ht : q.scope.state = .ok t)
    (hc : Condition.ofFilter t q.scope.filter = .ok c) (hstart : q.resolvedStart = .ok start)
    (hcolumns : q.readFields t keyOnly = .ok columns) (horder : q.sortKeys t = .ok order)
    (limit : Option UInt64) :
    ∃ s, q.compileSelect limit keyOnly = .ok s ∧
      Plan.compile t (.select ⟨q.scope.filter, columns, order, start, limit⟩) = .ok s ∧
      s.Reads t.entity limit columns order t.dialect := by
  have hcomplete : (Plan.select ⟨q.scope.filter, columns, order, start, limit⟩).Complete :=
    readFields_ne_nil hcolumns
  obtain ⟨s, hs, hsays⟩ := Plan.exists_compile hcomplete hc
  exact ⟨s, compileSelect_eq_ok_iff.2 ⟨t, start, columns, order, ht, hstart, hcolumns, horder, hs⟩,
    hs, hsays.reads⟩

/-- Once an entity has a table, no calls of a query find a fault in its mapping. -/
theorem compileSelect_ne_configuration {d : Dialect} (htable : Table.ofEntity e d = .ok t)
    (typeName : String) (routingKey : Option String) (steps : List QueryStep)
    (limit : Option UInt64) (keyOnly : Bool) (m : String) :
    ((new (.ofEntity e d typeName routingKey)).applyAll steps).compileSelect limit keyOnly ≠
      .error (.configuration m) := by
  intro herr
  have hscope := scope_applyAll (new (.ofEntity e d typeName routingKey)) steps
  rw [new] at hscope
  -- what the calls have found is a name; what is left after them is no fault of the mapping
  cases hstate : ((Scope.ofEntity e d typeName routingKey).mentionAll
      (steps.flatMap QueryStep.mentions)).state with
  | ok t' =>
    have hclean := Scope.clean_mentionAll rfl hstate
    rw [← hscope] at hclean
    cases late_of_compileSelect ((resolved_new _).applyAll steps) hclean herr
  | error err =>
    have hnames : ∃ names, t.checkNames names = .error err := by
      rw [Scope.state_mentionAll, Scope.ofEntity, Scope.state_start, htable] at hstate
      exact ⟨_, hstate⟩
    obtain ⟨names, hnames⟩ := hnames
    obtain ⟨name, rfl⟩ := Table.exists_eq_fieldNotFound hnames
    rw [← hscope] at hstate
    rw [compileSelect_eq, new, hstate] at herr
    cases herr

/-- What a query is asked to read and in which order: the selected fields less those taken out, each
once and at least one, and all sort keys. -/
structure Asked (e : Entity) (steps : List QueryStep) (columns : List Field)
    (order : List SortKey) : Prop where
  properties : columns.map Field.property =
    e.projected (steps.filterMap QueryStep.selected?) (steps.filterMap QueryStep.unselected?)
  nodup : (columns.map Field.property).Nodup
  ne_nil : columns ≠ []
  mem_fields : ∀ f ∈ columns, f ∈ e.fields
  keys : order.map (fun k => (k.field.property, k.ascending)) =
    steps.filterMap QueryStep.sortKey?
  key_mem_fields : ∀ k ∈ order, k.field ∈ e.fields

/-- A query whose names are mapped reads what it was asked to read, in the order that it was asked
for, whatever else it was told; a test for any row is one call that reads the key alone, in the same
order. This holds of the plans and of the statements made of them. Whatever a query is told, it is
never refused for an empty projection. -/
theorem reads_applyAll {d : Dialect} (htable : Table.ofEntity e d = .ok t) (typeName : String)
    (routingKey : Option String) {steps : List QueryStep}
    (hmapped : ∀ name ∈ (steps.flatMap QueryStep.mentions).flatMap Mention.names,
      name ∈ e.properties) :
    (∃ columns order, Asked e steps columns order ∧ e.keys = [t.key] ∧
      ∀ c, Condition.ofFilter t (Predicate.all? (QueryStep.filters steps)) = .ok c →
        (∀ fault, QueryStep.lastStart? steps ≠ some (.error fault)) →
        ∃ start,
          (∀ limit, ∃ s,
            ((new (.ofEntity e d typeName routingKey)).applyAll steps).compileSelect limit false =
              .ok s ∧
            Plan.compile t (.select ⟨Predicate.all? (QueryStep.filters steps), columns, order,
              start, limit⟩) = .ok s ∧ s.Reads e limit columns order d) ∧
          ∃ s,
            ((new (.ofEntity e d typeName routingKey)).applyAll steps).compileSelect (some 1) true =
              .ok s ∧
            (∀ logLimit script j,
              ((((new (.ofEntity e d typeName routingKey)).applyAll steps).any
                (recorder d logLimit script)).run j).2.calls =
                j.calls ++ [⟨.fetch, ⟨.select, .read, false, e.name, routingKey⟩, [s]⟩]) ∧
            Plan.compile t (.select ⟨Predicate.all? (QueryStep.filters steps), [t.key], order,
              start, some 1⟩) = .ok s ∧ s.Reads e (some 1) [t.key] order d) ∧
    ∀ (calls : List QueryStep) (limit : Option UInt64) (keyOnly : Bool) (m : String),
      ((new (.ofEntity e d typeName routingKey)).applyAll calls).compileSelect limit keyOnly ≠
        .error (.configuration m) := by
  refine ⟨?_, compileSelect_ne_configuration htable typeName routingKey⟩
  obtain ⟨rfl, rfl⟩ := Table.eq_of_ofEntity htable
  have hq := applyAll_new (.ofEntity t.entity t.dialect typeName routingKey) steps
  have hstate : ((new (.ofEntity t.entity t.dialect typeName routingKey)).applyAll
      steps).scope.state = .ok t := by
    rw [scope_applyAll]
    exact Scope.state_mentionAll_eq_ok_iff.2 ⟨htable, hmapped⟩
  have hresolved := (resolved_new (.ofEntity t.entity t.dialect typeName routingKey)).applyAll steps
  obtain ⟨horder, hselected⟩ := hresolved t hstate
  obtain ⟨columns, hcolumns⟩ := exists_projection hselected
  obtain ⟨order, horder⟩ := exists_sortKeys horder
  have hproperties := properties_projection hcolumns
  obtain ⟨hkeys, hkeymem⟩ := keys_sortKeys horder
  have hasked : Asked t.entity steps columns order := by
    refine ⟨?_, ?_, projection_ne_nil hcolumns, mem_fields_projection hcolumns, ?_, hkeymem⟩
    · rw [hproperties, hq]
    · rw [hproperties]
      exact nodup_projected t
    · rw [hkeys, hq]
  refine ⟨columns, order, hasked, t.keys_eq, fun c hc hreadable => ?_⟩
  have hfilter : ((new (.ofEntity t.entity t.dialect typeName routingKey)).applyAll
      steps).scope.filter = Predicate.all? (QueryStep.filters steps) := by
    rw [scope_applyAll, Scope.filter_mentionAll]
    rfl
  rw [← hfilter] at hc ⊢
  obtain ⟨start, hstart⟩ : ∃ start, ((new (.ofEntity t.entity t.dialect typeName
      routingKey)).applyAll steps).resolvedStart = .ok start := by
    rw [exists_resolvedStart_iff, hq]
    exact hreadable
  have hkey : ((new (.ofEntity t.entity t.dialect typeName routingKey)).applyAll
      steps).readFields t true = .ok [t.key] := rfl
  obtain ⟨s, hs, hplan, hreads⟩ := exists_reads hstate hc hstart hkey horder (some 1)
  refine ⟨start, exists_reads hstate hc hstart hcolumns horder, s, hs, ?_, hplan, hreads⟩
  intro logLimit script j
  rw [calls_any hs, context_applyAll, new, Scope.context_ofEntity htable]

/-- Two fields selected, one of them twice and then taken out, and a key of the order given twice. -/
def pickySelection : List QueryStep :=
  [.select "age", .unselect "id", .sortBy "age" true, .select "name", .sortBy "id" false,
    .select "age", .unselect "age", .sortBy "age" true]

theorem reads_pickySelection : ∃ columns order s s',
    columns.map Field.property = ["name"] ∧
    order.map (fun k => (k.field.property, k.ascending)) =
      [("age", true), ("id", false), ("age", true)] ∧
    ((new (.ofEntity (Table.people (.sql .sqlServer)).entity (.sql .sqlServer) "P" none)).applyAll
      pickySelection).toStatement = .ok s ∧
    s.Reads (Table.people (.sql .sqlServer)).entity none columns order (.sql .sqlServer) ∧
    (∀ logLimit script,
      ((((new (.ofEntity (Table.people (.sql .sqlServer)).entity (.sql .sqlServer) "P"
        none)).applyAll pickySelection).any (recorder (.sql .sqlServer) logLimit script)).run
          .empty).2.calls = [⟨.fetch, ⟨.select, .read, false, "Person", none⟩, [s']⟩]) ∧
    s'.Reads (Table.people (.sql .sqlServer)).entity (some 1)
      [(Table.people (.sql .sqlServer)).key] order (.sql .sqlServer) := by
  have htable : Table.ofEntity (Table.people (.sql .sqlServer)).entity (.sql .sqlServer) =
      .ok (.people (.sql .sqlServer)) := rfl
  have hmapped : ∀ name ∈ (pickySelection.flatMap QueryStep.mentions).flatMap Mention.names,
      name ∈ (Table.people (.sql .sqlServer)).entity.properties := by decide
  obtain ⟨⟨columns, order, hasked, -, hreads⟩, -⟩ := reads_applyAll htable "P" none hmapped
  obtain ⟨start, hselect, s', -, hany, -, hreads'⟩ := hreads none rfl nofun
  obtain ⟨s, hs, -, hreads⟩ := hselect none
  exact ⟨columns, order, s, s', hasked.properties, hasked.keys, hs, hreads,
    fun logLimit script => hany logLimit script .empty, hreads'⟩

end Query

end Sift
