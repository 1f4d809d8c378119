import Sift.Proofs.Builder.Fault
import Sift.Proofs.Cursor

/-!
# Calls of different kinds commute

Each call of a builder adds to a part of the builder of its own: filters, sort keys, selected and
unselected fields, assignments, a start, a limit. How calls of different kinds are interleaved
therefore does not matter to a statement, `Query.Similar`; it can only change which of several
faults is the first. Several filters are as good as all of them joined in one.
-/
namespace Sift

variable {e : Entity}

/-! ## Filters joined -/

/-- Some predicates joined in one name what each of them names. -/
theorem Predicate.fields_all? (ps : List Predicate) :
    ((all? ps).map fields).getD [] = ps.flatMap fields := by
  have hfold : ∀ (rest : List Predicate) (p : Predicate),
      (rest.foldl and p).fields = p.fields ++ rest.flatMap fields := by
    intro rest
    induction rest with
    | nil => exact fun p => (List.append_nil _).symm
    | cons q rest ih =>
      intro p
      rw [List.foldl_cons, ih, fields_and, List.flatMap_cons, List.append_assoc]
  cases ps with
  | nil => rfl
  | cons p rest => exact hfold rest p

theorem Predicate.fields_of_all? {ps : List Predicate} {p : Predicate} (h : all? ps = some p) :
    p.fields = ps.flatMap fields := by
  rw [← fields_all?, h]
  rfl

/-- A name that is mentioned stands in a filter or is mentioned by itself. -/
theorem Mention.mem_names_iff {ms : List Mention} {name : String} :
    name ∈ ms.flatMap names ↔
      name ∈ (ms.filterMap filter?).flatMap Predicate.fields ∨ .property name ∈ ms := by
  induction ms with
  | nil => simp
  | cons m ms ih =>
    rw [List.flatMap_cons, List.mem_append, ih]
    cases m with
    | filter p => simp [names, filter?, or_assoc]
    | property other => simp [names, filter?, or_left_comm]

namespace Scope

/-- Two filters of a scope that has none before are one. -/
theorem addFilter_addFilter {s : Scope e} (hs : s.filter = none) (p q : Predicate) :
    (s.addFilter p).addFilter q = s.addFilter (p.and q) := by
  have hstate : ((s.addFilter p).addFilter q).state = (s.addFilter (p.and q)).state := by
    have htwice := s.state_mentionAll [.filter p, .filter q]
    have honce := s.state_mentionAll [.filter (p.and q)]
    have hnames : [Mention.filter p, .filter q].flatMap Mention.names =
        [Mention.filter (p.and q)].flatMap Mention.names := by
      simp [Mention.names]
    rw [hnames] at htwice
    exact htwice.trans honce.symm
  have hfilter : ((s.addFilter p).addFilter q).filter = (s.addFilter (p.and q)).filter := by
    simp [addFilter, hs]
  rw [Scope.mk.injEq]
  exact ⟨rfl, rfl, hstate, hfilter⟩

/-- Scopes that are told the same names find a fault alike, if not the same fault. -/
theorem agree_state_mentionAll {s s' : Scope e} (hs : s.state = s'.state) {ms ns : List Mention}
    (h : ∀ name, name ∈ ms.flatMap Mention.names ↔ name ∈ ns.flatMap Mention.names) :
    Agree (· = ·) (s.mentionAll ms).state (s'.mentionAll ns).state := by
  refine .of_eq_ok_iff fun t => ?_
  simp only [state_mentionAll_eq_ok_iff, hs, h]

end Scope

/-! ## Queries -/

namespace QueryStep

/-- The sort key that a call adds. -/
def sortKey? : QueryStep → Option (String × Bool)
  | sortBy property ascending => some (property, ascending)
  | _ => none

/-- The field that a call selects. -/
def selected? : QueryStep → Option String
  | select property => some property
  | _ => none

/-- The field that a call takes out. -/
def unselected? : QueryStep → Option String
  | unselect property => some property
  | _ => none

/-- The limit that a call sets. -/
def limit? : QueryStep → Option UInt64
  | take limit => some limit
  | _ => none

/-- Calls that are the same, apart from filters, if only calls of one kind are looked at: the sort
keys and the selected fields in order, the unselected fields in any order, the last limit, and where
the last start is. Starts that cannot be read are all the same. -/
structure SameButFilters (steps steps' : List QueryStep) : Prop where
  order : steps.filterMap sortKey? = steps'.filterMap sortKey?
  selected : steps.filterMap selected? = steps'.filterMap selected?
  unselected : ∀ name, name ∈ steps.filterMap unselected? ↔ name ∈ steps'.filterMap unselected?
  limit : (steps.filterMap limit?).getLast? = (steps'.filterMap limit?).getLast?
  start : (lastStart? steps).map Except.toOption = (lastStart? steps').map Except.toOption

theorem filterMap_cons {α : Type} (give? : QueryStep → Option α) (step : QueryStep)
    (steps : List QueryStep) :
    (step :: steps).filterMap give? = (give? step).toList ++ steps.filterMap give? := by
  simp only [List.filterMap_eq_flatMap_toList, List.flatMap_cons]

/-- The names in some calls, by the kinds of calls. -/
theorem mem_names_iff {steps : List QueryStep} {name : String} :
    name ∈ (steps.flatMap mentions).flatMap Mention.names ↔
      name ∈ (filters steps).flatMap Predicate.fields ∨
      name ∈ (steps.filterMap sortKey?).map Prod.fst ∨ name ∈ steps.filterMap selected? ∨
      name ∈ steps.filterMap unselected? := by
  rw [Mention.mem_names_iff]
  refine or_congr Iff.rfl ?_
  induction steps with
  | nil => simp
  | cons step steps ih =>
    have hstep : .property name ∈ step.mentions ↔ name ∈ step.sortKey?.toList.map Prod.fst ∨
        name ∈ step.selected?.toList ∨ name ∈ step.unselected?.toList := by
      cases step <;> simp [mentions, sortKey?, selected?, unselected?]
    simp only [List.flatMap_cons, filterMap_cons, List.map_append, List.mem_append, ih, hstep]
    grind

end QueryStep

namespace Query

/-- What all calls that give something have added up to. -/
theorem accumulated_applyAll {α : Type} (get : Query e → List α) (give? : QueryStep → Option α)
    (h : ∀ (q : Query e) (step : QueryStep), get (q.apply step) = get q ++ (give? step).toList)
    (q : Query e) (steps : List QueryStep) :
    get (q.applyAll steps) = get q ++ steps.filterMap give? := by
  induction steps generalizing q with
  | nil => exact (List.append_nil _).symm
  | cons step steps ih =>
    have hstep : get (q.applyAll (step :: steps)) = get ((q.apply step).applyAll steps) := rfl
    rw [hstep, ih, h, List.append_assoc, QueryStep.filterMap_cons]

theorem order_apply (q : Query e) (step : QueryStep) :
    (q.apply step).order = q.order ++ step.sortKey?.toList := by
  cases step with
  | sortBy property ascending => rfl
  | _ => exact (List.append_nil _).symm

theorem selected_apply (q : Query e) (step : QueryStep) :
    (q.apply step).selected = q.selected ++ step.selected?.toList := by
  cases step with
  | select property => rfl
  | _ => exact (List.append_nil _).symm

theorem unselected_apply (q : Query e) (step : QueryStep) :
    (q.apply step).unselected = q.unselected ++ step.unselected?.toList := by
  cases step with
  | unselect property => rfl
  | _ => exact (List.append_nil _).symm

theorem limit_apply (q : Query e) (step : QueryStep) :
    (q.apply step).limit = step.limit?.or q.limit := by
  cases step <;> rfl

/-- A query after some calls, part by part. -/
theorem applyAll_new (s : Scope e) (steps : List QueryStep) :
    (new s).applyAll steps = {
      scope := s.mentionAll (steps.flatMap QueryStep.mentions)
      order := steps.filterMap QueryStep.sortKey?
      selected := steps.filterMap QueryStep.selected?
      unselected := steps.filterMap QueryStep.unselected?
      start := QueryStep.lastStart? steps
      limit := (steps.filterMap QueryStep.limit?).getLast? } := by
  rw [Query.mk.injEq]
  refine ⟨scope_applyAll _ steps, accumulated_applyAll _ _ order_apply _ steps,
    accumulated_applyAll _ _ selected_apply _ steps,
    accumulated_applyAll _ _ unselected_apply _ steps, ?_, ?_⟩
  · rw [start_applyAll, new, Option.or_none]
  · rw [overwritten_applyAll limit _ limit_apply, new, Option.or_none]

/-- Queries that have found faults alike and agree on what they are to read. The order in which
fields have been taken out does not matter, nor why a start cannot be read. -/
structure Similar (q q' : Query e) : Prop where
  state : Agree (· = ·) q.scope.state q'.scope.state
  filter : q.scope.filter = q'.scope.filter
  order : q.order = q'.order
  selected : q.selected = q'.selected
  unselected : ∀ name, name ∈ q.unselected ↔ name ∈ q'.unselected
  limit : q.limit = q'.limit
  start : q.start.map Except.toOption = q'.start.map Except.toOption

namespace Similar

variable {q q' : Query e}

theorem agree_resolvedStart (h : Similar q q') :
    Agree (· = ·) q.resolvedStart q'.resolvedStart := by
  have hstart := h.start
  unfold resolvedStart
  generalize q.start = start at hstart ⊢
  generalize q'.start = start' at hstart ⊢
  match start, start' with
  | none, none => exact .refl _
  | some (.ok offset), some (.ok offset') =>
    cases hstart
    exact .refl _
  | some (.error fault), some (.error fault') => exact .error _ _
  | none, some _ => cases hstart
  | some _, none => cases hstart
  | some (.ok _), some (.error _) => cases hstart
  | some (.error _), some (.ok _) => cases hstart

theorem projection_eq (h : Similar q q') (t : Table) : q.projection t = q'.projection t := by
  have hcontains : ∀ name, q.unselected.contains name = q'.unselected.contains name := by
    intro name
    rw [Bool.eq_iff_iff, List.contains_iff_mem, List.contains_iff_mem, h.unselected]
  unfold projection
  simp only [h.selected, hcontains]

theorem sortKeys_eq (h : Similar q q') (t : Table) : q.sortKeys t = q'.sortKeys t := by
  unfold sortKeys
  rw [h.order]

/-- Such queries are compiled alike. -/
theorem agree_compileSelect (h : Similar q q') (limit : Option UInt64) (keyOnly : Bool) :
    Agree (· = ·) (q.compileSelect limit keyOnly) (q'.compileSelect limit keyOnly) := by
  rw [compileSelect_eq, compileSelect_eq]
  refine h.state.bind ?_
  rintro t _ rfl
  refine h.agree_resolvedStart.bind ?_
  rintro start _ rfl
  simp only [readFields, h.projection_eq, h.sortKeys_eq, h.filter]
  exact .refl _

theorem agree_toStatement (h : Similar q q') : Agree (· = ·) q.toStatement q'.toStatement := by
  unfold toStatement
  rw [h.limit]
  exact h.agree_compileSelect q'.limit false

end Similar

/-- Calls of different kinds can be interleaved in any way, and their filters can be joined. -/
theorem similar_applyAll (s s' : Scope e) (hstate : s.state = s'.state) (hs : s.filter = none)
    (hs' : s'.filter = none) {steps steps' : List QueryStep}
    (h : QueryStep.SameButFilters steps steps')
    (hfilters : Predicate.all? (QueryStep.filters steps) =
      Predicate.all? (QueryStep.filters steps')) :
    Similar ((new s).applyAll steps) ((new s').applyAll steps') := by
  have hfields : (QueryStep.filters steps).flatMap Predicate.fields =
      (QueryStep.filters steps').flatMap Predicate.fields := by
    rw [← Predicate.fields_all?, hfilters, Predicate.fields_all?]
  rw [applyAll_new, applyAll_new]
  refine ⟨?_, ?_, h.order, h.selected, h.unselected, h.limit, h.start⟩
  · refine Scope.agree_state_mentionAll hstate fun name => ?_
    simp only [QueryStep.mem_names_iff, hfields, h.order, h.selected, h.unselected]
  · change (s.mentionAll _).filter = (s'.mentionAll _).filter
    rw [Scope.filter_mentionAll, Scope.filter_mentionAll, hs, hs']
    exact hfilters

/-- The first filters of a query, one after the other, are one filter. -/
theorem applyAll_filters {q : Query e} (hq : q.scope.filter = none) {ps : List Predicate}
    {p : Predicate} (h : Predicate.all? ps = some p) :
    q.applyAll (ps.map .filter) = q.filter p := by
  have hfold : ∀ (rest : List Predicate) (p : Predicate),
      (q.filter p).applyAll (rest.map .filter) = q.filter (rest.foldl .and p) := by
    intro rest
    induction rest with
    | nil => exact fun p => rfl
    | cons r rest ih =>
      intro p
      have hjoined : (q.filter p).filter r = q.filter (p.and r) := by
        unfold filter
        rw [Scope.addFilter_addFilter hq]
      have hstep : (q.filter p).applyAll ((r :: rest).map .filter) =
          ((q.filter p).filter r).applyAll (rest.map .filter) := rfl
      rw [hstep, hjoined, ih, List.foldl_cons]
  cases ps with
  | nil => cases h
  | cons p' rest =>
    cases h
    exact hfold rest p'

/-- So they are where no filter has been added before, whatever is called before and after. -/
theorem applyAll_joined {s : Scope e} (hs : s.filter = none) {before after : List QueryStep}
    (hbefore : QueryStep.filters before = []) {ps : List Predicate} {p : Predicate}
    (h : Predicate.all? ps = some p) :
    (new s).applyAll (before ++ ps.map .filter ++ after) =
      (new s).applyAll (before ++ .filter p :: after) := by
  have hnone : ((new s).applyAll before).scope.filter = none := by
    have hempty : (before.flatMap QueryStep.mentions).filterMap Mention.filter? = [] := hbefore
    rw [scope_applyAll, Scope.filter_mentionAll, new, hs, hempty]
    rfl
  have happend : ∀ (q : Query e) (steps more : List QueryStep),
      q.applyAll (steps ++ more) = (q.applyAll steps).applyAll more :=
    fun _ _ _ => List.foldl_append
  rw [happend, happend, happend, applyAll_filters hnone h]
  rfl

end Query

/-! ## Updates -/

namespace UpdateStep

/-- The filters among some calls. -/
def filters (steps : List UpdateStep) : List Predicate :=
  (steps.flatMap mentions).filterMap Mention.filter?

/-- The names that are mentioned by themselves are those that are assigned. -/
theorem property_mem_mentions_iff {steps : List UpdateStep} {name : String} :
    .property name ∈ steps.flatMap mentions ↔
      name ∈ (steps.flatMap assignments).map Prod.fst := by
  induction steps with
  | nil => simp
  | cons step steps ih =>
    have hstep : .property name ∈ step.mentions ↔ name ∈ step.assignments.map Prod.fst := by
      cases step <;> simp [mentions, assignments]
    simp only [List.flatMap_cons, List.map_append, List.mem_append, ih, hstep]

/-- The names in some calls, by the kinds of calls. -/
theorem mem_names_iff {steps : List UpdateStep} {name : String} :
    name ∈ (steps.flatMap mentions).flatMap Mention.names ↔
      name ∈ (filters steps).flatMap Predicate.fields ∨
      name ∈ (steps.flatMap assignments).map Prod.fst := by
  rw [Mention.mem_names_iff, property_mem_mentions_iff]
  rfl

end UpdateStep

namespace Update

/-- An update assigns what its calls assign, in their order. -/
theorem assigned_applyAll (u : Update e) (steps : List UpdateStep) :
    (u.applyAll steps).assigned =
      (steps.flatMap UpdateStep.assignments).foldl (fun r cell => r.set cell.1 cell.2)
        u.assigned := by
  have hmany : ∀ (values : List (String × Value)) (u : Update e),
      (u.setMany values).assigned =
        values.foldl (fun r cell => r.set cell.1 cell.2) u.assigned := by
    intro values
    induction values with
    | nil => exact fun u => rfl
    | cons cell rest ih => exact fun u => ih (u.set cell.1 cell.2)
  induction steps generalizing u with
  | nil => rfl
  | cons step steps ih =>
    have hstep : (u.apply step).assigned =
        step.assignments.foldl (fun r cell => r.set cell.1 cell.2) u.assigned := by
      cases step with
      | filter p => rfl
      | set property v => rfl
      | setMany values => exact hmany values u
    have hcons : (u.applyAll (step :: steps)).assigned =
        ((u.apply step).applyAll steps).assigned := rfl
    rw [hcons, ih, hstep, List.flatMap_cons, List.foldl_append]

/-- Updates with one filter that assign the same values are compiled alike. -/
theorem agree_toStatement {u u' : Update e} (hstate : Agree (· = ·) u.scope.state u'.scope.state)
    (hfilter : u.scope.filter = u'.scope.filter) (hassigned : u.assigned = u'.assigned) :
    Agree (· = ·) u.toStatement u'.toStatement := by
  have hrequired : Agree (· = ·) (u.scope.requiredFilter "update")
      (u'.scope.requiredFilter "update") := by
    unfold Scope.requiredFilter
    rw [hfilter]
    cases u'.scope.filter with
    | none => exact .error _ _
    | some p => exact .refl _
  unfold toStatement
  refine hstate.bind ?_
  rintro t _ rfl
  refine hrequired.bind ?_
  rintro p _ rfl
  rw [hassigned]
  exact .refl _

/-- Filters and assignments of an update can be interleaved in any way. -/
theorem agree_toStatement_applyAll (s s' : Scope e) (hstate : s.state = s'.state)
    (hfilter : s.filter = s'.filter) {steps steps' : List UpdateStep}
    (hfilters : UpdateStep.filters steps = UpdateStep.filters steps')
    (hassigned : steps.flatMap UpdateStep.assignments = steps'.flatMap UpdateStep.assignments) :
    Agree (· = ·) ((new s).applyAll steps).toStatement ((new s').applyAll steps').toStatement := by
  apply agree_toStatement
  · rw [scope_applyAll, scope_applyAll]
    refine Scope.agree_state_mentionAll hstate fun name => ?_
    rw [UpdateStep.mem_names_iff, UpdateStep.mem_names_iff, hfilters, hassigned]
  · have hsame : (steps.flatMap UpdateStep.mentions).filterMap Mention.filter? =
        (steps'.flatMap UpdateStep.mentions).filterMap Mention.filter? := hfilters
    rw [scope_applyAll, scope_applyAll, Scope.filter_mentionAll, Scope.filter_mentionAll, hsame]
    simp only [new, hfilter]
  · rw [assigned_applyAll, assigned_applyAll, hassigned]
    rfl

end Update

/-! ## All builders -/

/-- The statement of a builder has nothing to do with the routing key. -/
theorem Chain.preview_renamed (chain : Chain) (s : Scope e) (key : Option String) :
    chain.preview (s.renamed s.name key) = chain.preview s := by
  cases chain with
  | query steps terminal =>
    change (((Query.new s).renamed s.name key).applyAll steps).toStatement = _
    rw [Query.applyAll_renamed]
    rfl
  | update steps =>
    have hname : ((Update.new s).applyAll steps).scope.name = s.name := by
      rw [Update.scope_applyAll, Scope.name_mentionAll]
      rfl
    change (((Update.new s).renamed s.name key).applyAll steps).toStatement = _
    rw [Update.applyAll_renamed, ← hname]
    rfl
  | delete filters =>
    have hname := s.name_mentionAll (filters.map Mention.filter)
    change (Deletion.filterAll ⟨s.renamed s.name key⟩ filters).toStatement =
      (Deletion.filterAll ⟨s⟩ filters).toStatement
    unfold Deletion.toStatement
    rw [Deletion.scope_filterAll, Deletion.scope_filterAll]
    change ((s.renamed s.name key).mentionAll _).state >>= _ = _
    rw [Scope.mentionAll_renamed, ← hname]
    rfl

/-- The scope of a builder for an entity. -/
def Scope.ofEntity (e : Entity) (d : Dialect) (typeName : String) (routingKey : Option String) :
    Scope e :=
  .start typeName (Table.ofEntity e d) routingKey

/-- A builder for a sound entity calls for it by its name. -/
theorem Scope.context_ofEntity {d : Dialect} {t : Table} (htable : Table.ofEntity e d = .ok t)
    (typeName : String) (routingKey : Option String) (kind : StatementKind) (access : Access) :
    (ofEntity e d typeName routingKey).context kind access =
      ⟨kind, access, false, e.name, routingKey⟩ := by
  rw [ofEntity, htable, start, context, (Table.eq_of_ofEntity htable).1]
  rfl

/-- Calls of different kinds commute: queries whose calls are the same if one kind is looked at at a
time have the same statement, or none has one, and so have updates. The filters of a query may as
well be joined in one, anywhere among the other calls; where they follow each other this does not
even change the fault. The routing key never matters. -/
theorem Scope.agree_of_interleaved (e : Entity) (d : Dialect) (typeName : String)
    (key key' : Option String) :
    (∀ steps steps' : List QueryStep, QueryStep.SameButFilters steps steps' →
      Predicate.all? (QueryStep.filters steps) = Predicate.all? (QueryStep.filters steps') →
      Agree (· = ·) ((Query.new (ofEntity e d typeName key)).applyAll steps).toStatement
        ((Query.new (ofEntity e d typeName key')).applyAll steps').toStatement) ∧
    (∀ (before after : List QueryStep) (ps : List Predicate) (p : Predicate),
      QueryStep.filters before = [] → Predicate.all? ps = some p →
      ((Query.new (ofEntity e d typeName key)).applyAll
          (before ++ ps.map .filter ++ after)).toStatement =
        ((Query.new (ofEntity e d typeName key)).applyAll
          (before ++ .filter p :: after)).toStatement) ∧
    (∀ steps steps' : List UpdateStep, UpdateStep.filters steps = UpdateStep.filters steps' →
      steps.flatMap UpdateStep.assignments = steps'.flatMap UpdateStep.assignments →
      Agree (· = ·) ((Update.new (ofEntity e d typeName key)).applyAll steps).toStatement
        ((Update.new (ofEntity e d typeName key')).applyAll steps').toStatement) ∧
    ∀ chain : Chain,
      chain.preview (ofEntity e d typeName key) = chain.preview (ofEntity e d typeName key') := by
  refine ⟨fun steps steps' h hfilters => ?_, fun before after ps p hbefore h => ?_,
    fun steps steps' hfilters hassigned => ?_, fun chain => ?_⟩
  · have hsimilar := Query.similar_applyAll (ofEntity e d typeName key)
      (ofEntity e d typeName key') rfl rfl rfl h hfilters
    exact hsimilar.agree_toStatement
  · rw [Query.applyAll_joined rfl hbefore h]
  · exact Update.agree_toStatement_applyAll (ofEntity e d typeName key)
      (ofEntity e d typeName key') rfl rfl hfilters hassigned
  · exact chain.preview_renamed (ofEntity e d typeName key') key

namespace QueryStep

/-- The names of those that `pickyPredicate` is about and whose age is known, from the fourth on.
The first start cannot be read, but another comes later. -/
def pickyReading : List QueryStep :=
  [.skipCursor "no token", .filter pickyPredicate, .unselect "id", .select "name",
    .sortBy "age" true, .filter (.isNotNull "age"), .take 7, .select "age", .unselect "age",
    .skipCursor (Cursor.encode 3), .take 5]

/-- The same with one filter and with the calls of each kind together. -/
def pickyReadingSorted : List QueryStep :=
  [.take 5, .skip 3, .select "name", .select "age", .sortBy "age" true, .unselect "age",
    .unselect "id", .unselect "age", .filter (.and pickyPredicate (.isNotNull "age"))]

theorem sameButFilters_pickyReading : SameButFilters pickyReading pickyReadingSorted where
  order := rfl
  selected := rfl
  unselected := by
    intro name
    have hleft : pickyReading.filterMap unselected? = ["id", "age"] := rfl
    have hright : pickyReadingSorted.filterMap unselected? = ["age", "id", "age"] := rfl
    rw [hleft, hright]
    simp only [List.mem_cons, List.not_mem_nil, or_false]
    grind
  limit := rfl
  start := by
    have hleft : lastStart? pickyReading = some (Cursor.decode (Cursor.encode 3)) := rfl
    have hright : lastStart? pickyReadingSorted = some (.ok 3) := rfl
    rw [hleft, hright, Cursor.decode_encode]

end QueryStep

/-- Everyone of them gets a name and loses the age. -/
def UpdateStep.pickyUpdating : List UpdateStep :=
  [.set "name" (.text "ann"), .filter pickyPredicate, .setMany [("age", .null),
    ("name", .text "o'neil")], .filter (.isNotNull "age")]

/-- The same with the calls of each kind together. -/
def UpdateStep.pickyUpdatingSorted : List UpdateStep :=
  [.filter pickyPredicate, .filter (.isNotNull "age"), .setMany [("name", .text "ann"),
    ("age", .null)], .set "name" (.text "o'neil")]

theorem Scope.agree_pickyReading :
    QueryStep.SameButFilters QueryStep.pickyReading QueryStep.pickyReadingSorted ∧
    (∃ s,
      ((Query.new (ofEntity (Table.people .document).entity .document "P" none)).applyAll
        QueryStep.pickyReadingSorted).toStatement = .ok s ∧
      ((Query.new (ofEntity (Table.people .document).entity .document "P" (some "k"))).applyAll
        QueryStep.pickyReading).toStatement = .ok s) ∧
    ∃ s,
      ((Update.new (ofEntity (Table.people .document).entity .document "P" none)).applyAll
        UpdateStep.pickyUpdatingSorted).toStatement = .ok s ∧
      ((Update.new (ofEntity (Table.people .document).entity .document "P" (some "k"))).applyAll
        UpdateStep.pickyUpdating).toStatement = .ok s := by
  obtain ⟨hreading, -, hupdating, -⟩ := Scope.agree_of_interleaved (Table.people .document).entity
    .document "P" (some "k") none
  have hread := hreading _ _ QueryStep.sameButFilters_pickyReading rfl
  have hupdated := hupdating UpdateStep.pickyUpdating UpdateStep.pickyUpdatingSorted rfl rfl
  exact ⟨QueryStep.sameButFilters_pickyReading, ⟨_, rfl, hread.eq_ok_iff.2 rfl⟩,
    ⟨_, rfl, hupdated.eq_ok_iff.2 rfl⟩⟩

end Sift
