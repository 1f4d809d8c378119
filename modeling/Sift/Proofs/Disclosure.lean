import Sift.Executor.Event
import Sift.Proofs.Acceptance
import Sift.Proofs.Sql.Injection

/-!
# What the log tells about constants

The event of sending a statement has its context, the number of its parameters and its text. Two
relational statements whose plans differ in texts alone have one text, since constants are bound
apart from it; their events are equal, however much of the text is logged. The text of a document
command is the command itself with its constants among its members. There the events are equal but
for the text, and the two texts are those of commands that are one command once the strings in them
are left out, `Command.blanked`.
-/
namespace Sift

/-! ## Plans that differ in texts -/

/-- The same value, or two texts that are not empty. -/
inductive Value.TextTwin : Value → Value → Prop
  | same (v : Value) : TextTwin v v
  | text {s s' : String} (hs : s ≠ "") (hs' : s' ≠ "") : TextTwin (.text s) (.text s')

/-- The same field, or constants that are the same but for texts. -/
inductive Operand.TextTwin : Operand → Operand → Prop
  | field (name : String) : TextTwin (.field name) (.field name)
  | constant {v w : Value} (h : v.TextTwin w) : TextTwin (.constant v) (.constant w)

/-- The same tree, but for the texts among its constants. -/
inductive Predicate.TextTwin : Predicate → Predicate → Prop
  | comparison (op : Comparator) {left left' right right' : Operand} (hl : left.TextTwin left')
    (hr : right.TextTwin right') :
    TextTwin (.comparison op left right) (.comparison op left' right')
  | logical (op : Connective) {left left' right right' : Predicate} (hl : TextTwin left left')
    (hr : TextTwin right right') : TextTwin (.logical op left right) (.logical op left' right')
  | textMatch (field : String) (test : TextTest) (negated : Bool) {v w : Value}
    (h : v.TextTwin w) :
    TextTwin (.textMatch field v test negated) (.textMatch field w test negated)
  | membership (field : String) (negated : Bool) {vs ws : List Value}
    (h : List.Forall₂ Value.TextTwin vs ws) :
    TextTwin (.membership field vs negated) (.membership field ws negated)

/-- The same fields with values that are the same but for texts. -/
def TextTwins (pairs pairs' : List (Field × Value)) : Prop :=
  List.Forall₂ (fun a b => a.1 = b.1 ∧ a.2.TextTwin b.2) pairs pairs'

/-- Plans of one kind that are the same but for the texts in filters, assignments and rows. -/
inductive Plan.TextTwin : Plan → Plan → Prop
  | select {f f' : Option Predicate} (columns : List Field) (order : List SortKey)
    (skip take : Option UInt64) (h : Option.Rel Predicate.TextTwin f f') :
    TextTwin (.select ⟨f, columns, order, skip, take⟩) (.select ⟨f', columns, order, skip, take⟩)
  | count {f f' : Option Predicate} (h : Option.Rel Predicate.TextTwin f f') :
    TextTwin (.count f) (.count f')
  | update {p p' : Predicate} {pairs pairs' : List (Field × Value)} (h : p.TextTwin p')
    (hpairs : TextTwins pairs pairs') : TextTwin (.update p pairs) (.update p' pairs')
  | delete {p p' : Predicate} (h : p.TextTwin p') : TextTwin (.delete p) (.delete p')
  | insert {pairs pairs' : List (Field × Value)} (hpairs : TextTwins pairs pairs') :
    TextTwin (.insert pairs) (.insert pairs')

/-- The same clause, but for the texts among its constants. -/
inductive Clause.TextTwin : Clause → Clause → Prop
  | always (truth : Bool) : TextTwin (.always truth) (.always truth)
  | nullTest (f : Field) (negated : Bool) : TextTwin (.nullTest f negated) (.nullTest f negated)
  | compare (f : Field) (op : Comparator) (guard : NullGuard) {v w : Value} (h : v.TextTwin w) :
    TextTwin (.compare f op v guard) (.compare f op w guard)
  | oneOf (f : Field) (negated : Bool) (guard : NullGuard) {vs ws : List Value}
    (h : List.Forall₂ Value.TextTwin vs ws) :
    TextTwin (.oneOf f vs negated guard) (.oneOf f ws negated guard)
  | like (f : Field) (test : TextTest) (negated : Bool) (guard : NullGuard) (s s' : String) :
    TextTwin (.like f s test negated guard) (.like f s' test negated guard)

/-- The same condition, but for the texts among its constants. -/
inductive Condition.TextTwin : Condition → Condition → Prop
  | clause {c c' : Clause} (h : c.TextTwin c') : TextTwin (.clause c) (.clause c')
  | logical (op : Connective) {left left' right right' : Condition} (hl : TextTwin left left')
    (hr : TextTwin right right') : TextTwin (.logical op left right) (.logical op left' right')

/-! ## Lowering -/

section Lowering

variable {t : Table}

theorem Value.TextTwin.isNull_eq {v w : Value} (h : v.TextTwin w) : v.isNull = w.isNull := by
  cases h <;> rfl

theorem Clause.TextTwin.refl (c : Clause) : c.TextTwin c := by
  cases c with
  | always truth => exact .always truth
  | nullTest f negated => exact .nullTest f negated
  | compare f op v guard => exact .compare f op guard (.same v)
  | oneOf f values negated guard =>
    exact .oneOf f negated guard (List.forall₂_same.2 fun v _ => .same v)
  | like f pattern test negated guard => exact .like f test negated guard pattern pattern

theorem Clause.textTwin_ofComparison (f : Field) (op : Comparator) {v w : Value}
    (h : v.TextTwin w) : (Clause.ofComparison f op v).TextTwin (Clause.ofComparison f op w) := by
  cases h with
  | same v => exact .refl _
  | text hs hs' => exact .compare f op _ (.text hs hs')

/-- What is left of two lists without null is as long and differs in texts alone. -/
theorem Value.TextTwin.filter {vs ws : List Value} (h : List.Forall₂ Value.TextTwin vs ws) :
    List.Forall₂ Value.TextTwin (vs.filter fun v => !v.isNull) (ws.filter fun w => !w.isNull) := by
  induction h with
  | nil => exact .nil
  | cons hv _ ih =>
    rw [List.filter_cons, List.filter_cons, hv.isNull_eq]
    split
    · exact .cons hv ih
    · exact ih

theorem Value.TextTwin.any_isNull {vs ws : List Value} (h : List.Forall₂ Value.TextTwin vs ws) :
    vs.any isNull = ws.any isNull := by
  induction h with
  | nil => rfl
  | cons hv _ ih => rw [List.any_cons, List.any_cons, hv.isNull_eq, ih]

theorem Clause.textTwin_ofMembership (f : Field) (negated : Bool) {vs ws : List Value}
    (h : List.Forall₂ Value.TextTwin vs ws) :
    (Clause.ofMembership f vs negated).TextTwin (Clause.ofMembership f ws negated) := by
  have hempty : vs.isEmpty = ws.isEmpty := by cases h <;> rfl
  have hkept := Value.TextTwin.filter h
  unfold ofMembership
  rw [hempty, Value.TextTwin.any_isNull h]
  split
  · exact .always negated
  · generalize (vs.filter fun v => !v.isNull) = kept at hkept ⊢
    generalize (ws.filter fun v => !v.isNull) = kept' at hkept ⊢
    cases hkept with
    | nil => exact .nullTest f negated
    | cons hv hrest => exact .oneOf f negated _ (.cons hv hrest)

theorem Clause.agree_ofTextMatch_of_textTwin (f : Field) (test : TextTest) (negated : Bool)
    {v w : Value} (h : v.TextTwin w) :
    Agree Clause.TextTwin (Clause.ofTextMatch f v test negated)
      (Clause.ofTextMatch f w test negated) := by
  cases h with
  | same v =>
    refine (Agree.refl _).imp fun c c' hc => ?_
    rw [hc]
    exact .refl c'
  | text hs hs' =>
    unfold ofTextMatch
    split
    · simp only [String.isEmpty_iff, hs, hs', if_false]
      exact .ok (.like f test negated _ _ _)
    · exact .error _ _

theorem agree_orient_of_textTwin (op : Comparator) {left left' right right' : Operand}
    (hl : left.TextTwin left') (hr : right.TextTwin right') :
    Agree (fun a b => a.1 = b.1 ∧ a.2.1 = b.2.1 ∧ a.2.2.TextTwin b.2.2)
      (orient op left right) (orient op left' right') := by
  cases hl with
  | field name =>
    cases hr with
    | field name' => exact .error _ _
    | constant h => exact .ok ⟨rfl, rfl, h⟩
  | constant h =>
    cases hr with
    | field name => exact .ok ⟨rfl, rfl, h⟩
    | constant h' => exact .error _ _

/-- Such predicates are both refused, or lowered to conditions that differ in texts alone. -/
theorem Predicate.TextTwin.agree_ofPredicate {p q : Predicate} (h : p.TextTwin q) :
    Agree Condition.TextTwin (Condition.ofPredicate t p) (Condition.ofPredicate t q) := by
  induction h with
  | comparison op hl hr =>
    refine Agree.bind ((agree_orient_of_textTwin op hl hr).mapError _ _) fun a b hab => ?_
    obtain ⟨name, op', v⟩ := a
    obtain ⟨name', op'', w⟩ := b
    obtain ⟨rfl, rfl, hv⟩ := hab
    refine Agree.bind (Agree.refl _) fun f f' hf => ?_
    obtain rfl := hf
    exact .ok (.clause (Clause.textTwin_ofComparison f op' hv))
  | logical op hl hr ihl ihr =>
    refine Agree.bind ihl fun l l' hll => ?_
    refine Agree.bind ihr fun r r' hrr => ?_
    exact .ok (.logical op hll hrr)
  | textMatch field test negated hv =>
    refine Agree.bind (Agree.refl _) fun f f' hf => ?_
    obtain rfl := hf
    refine Agree.bind ((Clause.agree_ofTextMatch_of_textTwin f test negated hv).mapError _ _)
      fun c c' hc => ?_
    exact .ok (.clause hc)
  | membership field negated hvs =>
    refine Agree.bind (Agree.refl _) fun f f' hf => ?_
    obtain rfl := hf
    exact .ok (.clause (Clause.textTwin_ofMembership f negated hvs))

theorem Condition.agree_ofFilter_of_textTwin {f f' : Option Predicate}
    (h : Option.Rel Predicate.TextTwin f f') :
    Agree (Option.Rel Condition.TextTwin) (ofFilter t f) (ofFilter t f') := by
  cases h with
  | none => exact .ok .none
  | some h => exact h.agree_ofPredicate.map fun _ _ hc => .some hc

end Lowering

/-! ## Relational statements -/

section Relational

variable {t : Table} {d : SqlDialect}

/-- Conditions that differ in texts alone are the same up to constants. -/
theorem Condition.TextTwin.alike {c c' : Condition} (h : c.TextTwin c') : c.Alike c' := by
  induction h with
  | clause h =>
    refine .clause ?_
    cases h with
    | always truth => exact .always truth
    | nullTest f negated => exact .nullTest f negated
    | compare f op guard h => exact .compare f op guard _ _
    | oneOf f negated guard h => exact .oneOf f negated guard h.length_eq
    | like f test negated guard s s' => exact .like f test negated guard s s'
  | logical op hl hr ihl ihr => exact .logical op ihl ihr

theorem loweredAlike_of_textTwin {f f' : Option Predicate}
    (h : Option.Rel Predicate.TextTwin f f') : LoweredAlike t f f' := by
  refine (Condition.agree_ofFilter_of_textTwin h).imp fun c c' hc => ?_
  cases hc with
  | none => exact .none
  | some hc => exact .some hc.alike

theorem TextTwins.fields_eq {pairs pairs' : List (Field × Value)} (h : TextTwins pairs pairs') :
    pairs.map Prod.fst = pairs'.map Prod.fst := by
  induction h with
  | nil => rfl
  | cons hpair _ ih => rw [List.map_cons, List.map_cons, hpair.1, ih]

theorem Plan.TextTwin.sameShape {p q : Plan} (h : p.TextTwin q) : p.SameShape t q := by
  cases h with
  | select columns order skip take h =>
    exact .select columns order skip take (loweredAlike_of_textTwin h)
  | count h => exact .count (loweredAlike_of_textTwin h)
  | update h hpairs => exact .update (loweredAlike_of_textTwin (.some h)) hpairs.fields_eq
  | delete h => exact .delete (loweredAlike_of_textTwin (.some h))
  | insert hpairs => exact .insert hpairs.fields_eq

end Relational

/-! ## Document commands -/

namespace Json

mutual

/-- JSON with every string left empty; the names of members stay. -/
def blanked : Json → Json
  | string _ => .string ""
  | array items => .array (blankedItems items)
  | object members => .object (blankedMembers members)
  | j => j

/-- Items with every string left empty. -/
def blankedItems : List Json → List Json
  | [] => []
  | item :: rest => blanked item :: blankedItems rest

/-- Members with every string left empty. -/
def blankedMembers : List (String × Json) → List (String × Json)
  | [] => []
  | (k, v) :: rest => (k, blanked v) :: blankedMembers rest

end

theorem blankedItems_eq (items : List Json) : blankedItems items = items.map blanked := by
  induction items with
  | nil => rfl
  | cons item rest ih => rw [blankedItems, ih, List.map_cons]

theorem blanked_member (k : String) (v : Json) : (member k v).blanked = member k v.blanked := by
  simp [member, blanked, blankedMembers]

theorem blanked_array (items : List Json) :
    (Json.array items).blanked = .array (items.map blanked) := by
  rw [blanked, blankedItems_eq]

end Json

/-- A command with every string in its filter and its members left empty. -/
def Command.blanked : Command → Command
  | find c filter projection sort skip limit => .find c filter.blanked projection sort skip limit
  | count c filter => .count c filter.blanked
  | update c filter assigned => .update c filter.blanked (Json.blankedMembers assigned)
  | delete c filter => .delete c filter.blanked
  | insert c document => .insert c (Json.blankedMembers document)

section Document

variable {t : Table}

theorem Value.TextTwin.blanked_toJson {v w : Value} (h : v.TextTwin w) :
    v.toJson.blanked = w.toJson.blanked := by
  cases h with
  | same v => rfl
  | text hs hs' => simp [Json.blanked]

/-- A guard does not look into what it guards. -/
theorem Clause.blanked_guardFilter (f : Field) (guard : NullGuard) {core core' : Json}
    (h : core.blanked = core'.blanked) :
    (guardFilter f guard core).blanked = (guardFilter f guard core').blanked := by
  cases guard with
  | none => exact h
  | orNull => simp only [guardFilter, Json.blanked_member, Json.blanked_array, List.map_cons, h]
  | andNotNull => simp only [guardFilter, Json.blanked_member, Json.blanked_array, List.map_cons, h]

theorem Clause.TextTwin.blanked_filter {c c' : Clause} (h : c.TextTwin c') :
    c.filter.blanked = c'.filter.blanked := by
  cases h with
  | always truth => rfl
  | nullTest f negated => rfl
  | compare f op guard h =>
    apply blanked_guardFilter
    rw [Json.blanked_member, Json.blanked_member, Json.blanked_member, Json.blanked_member,
      h.blanked_toJson]
  | oneOf f negated guard h =>
    apply blanked_guardFilter
    have hvalues : ∀ {vs ws : List Value}, List.Forall₂ Value.TextTwin vs ws →
        (vs.map Value.toJson).map Json.blanked = (ws.map Value.toJson).map Json.blanked := by
      intro vs ws h
      induction h with
      | nil => rfl
      | cons hv _ ih => simp only [List.map_cons, hv.blanked_toJson, ih]
    simp only [Json.blanked_member, Json.blanked_array, hvalues h]
  | like f test negated guard s s' =>
    apply blanked_guardFilter
    cases negated <;> simp only [Json.blanked_member] <;> rfl

theorem Condition.TextTwin.blanked_filter {c c' : Condition} (h : c.TextTwin c') :
    c.filter.blanked = c'.filter.blanked := by
  induction h with
  | clause h => exact h.blanked_filter
  | logical op hl hr ihl ihr =>
    simp only [Condition.filter, Json.blanked_member, Json.blanked_array, List.map_cons, ihl, ihr]

theorem TextTwins.blanked_members {pairs pairs' : List (Field × Value)}
    (h : TextTwins pairs pairs') :
    Json.blankedMembers (Command.members pairs) = Json.blankedMembers (Command.members pairs') := by
  induction h with
  | nil => rfl
  | @cons a b as bs hpair _ ih =>
    obtain ⟨f, v⟩ := a
    obtain ⟨f', w⟩ := b
    obtain ⟨rfl, hv⟩ : f = f' ∧ v.TextTwin w := hpair
    have hcons : ∀ (u : Value) (pairs : List (Field × Value)),
        Json.blankedMembers (Command.members ((f, u) :: pairs)) =
          (f.column, u.toJson.blanked) :: Json.blankedMembers (Command.members pairs) :=
      fun _ _ => by rw [Command.members, List.map_cons, Json.blankedMembers]; rfl
    rw [hcons, hcons, hv.blanked_toJson, ih]

theorem TextTwins.isEmpty_eq {pairs pairs' : List (Field × Value)} (h : TextTwins pairs pairs') :
    pairs.isEmpty = pairs'.isEmpty := by
  cases h <;> rfl

theorem agree_filterOf_of_textTwin {f f' : Option Predicate}
    (h : Option.Rel Predicate.TextTwin f f') :
    Agree (fun filter filter' => filter.blanked = filter'.blanked) (Command.filterOf t f)
      (Command.filterOf t f') := by
  rw [Command.filterOf_eq, Command.filterOf_eq]
  refine (Condition.agree_ofFilter_of_textTwin h).map fun c c' hc => ?_
  cases hc with
  | none => rfl
  | some hc => exact hc.blanked_filter

/-- The commands of such plans are one command once the strings in them are left out. -/
theorem Plan.TextTwin.agree_ofPlan {p q : Plan} (h : p.TextTwin q) :
    Agree (fun cmd cmd' => cmd.blanked = cmd'.blanked) (Command.ofPlan t p)
      (Command.ofPlan t q) := by
  cases h with
  | select columns order skip take h =>
    by_cases hcolumns : columns.isEmpty = true
    · rw [Command.ofPlan, Command.ofPlan, if_pos hcolumns, if_pos hcolumns]
      exact .error _ _
    · rw [Command.ofPlan, Command.ofPlan, if_neg hcolumns, if_neg hcolumns]
      refine (agree_filterOf_of_textTwin h).map fun filter filter' hfilter => ?_
      simp only [Command.blanked, hfilter]
  | count h =>
    refine (agree_filterOf_of_textTwin h).map fun filter filter' hfilter => ?_
    simp only [Command.blanked, hfilter]
  | update h hpairs =>
    rw [Command.ofPlan, Command.ofPlan, hpairs.isEmpty_eq]
    split
    · exact .error _ _
    · refine (agree_filterOf_of_textTwin (.some h)).map fun filter filter' hfilter => ?_
      simp only [Command.blanked, hfilter, hpairs.blanked_members]
  | delete h =>
    refine (agree_filterOf_of_textTwin (.some h)).map fun filter filter' hfilter => ?_
    simp only [Command.blanked, hfilter]
  | insert hpairs =>
    refine .ok ?_
    simp only [Command.blanked, hpairs.blanked_members]

end Document

/-! ## Events -/

namespace Event

/-- Plans that differ in texts alone are both refused or both compiled. Nothing that is logged when
their statements are sent tells relational ones apart. Events of document commands differ in nothing
but their text, and these are texts of commands that differ in strings alone. -/
theorem ofDispatch_of_textTwin {t : Table} {p q : Plan} (h : p.TextTwin q) :
    (∃ err err', p.compile t = .error err ∧ q.compile t = .error err') ∨
      ∃ s s', p.compile t = .ok s ∧ q.compile t = .ok s' ∧
        (∀ d, t.dialect = .sql d →
          ∀ limit c, ofDispatch limit s c = ofDispatch limit s' c) ∧
        (t.dialect = .document → ∃ cmd cmd', s = .document cmd ∧ s' = .document cmd' ∧
          cmd.blanked = cmd'.blanked ∧
          ∀ limit c, ofDispatch limit s c = .dispatched c 0 (clip limit cmd.toJson.render) ∧
            ofDispatch limit s' c = .dispatched c 0 (clip limit cmd'.toJson.render)) := by
  cases hd : t.dialect with
  | sql d =>
    have hagree : Agree SameOutline (d.planTokens t p) (d.planTokens t q) :=
      h.sameShape.agree_planTokens
    rw [Plan.compile_sql hd, Plan.compile_sql hd]
    generalize d.planTokens t p = x at hagree
    generalize d.planTokens t q = y at hagree
    cases hagree with
    | error err err' => exact .inl ⟨err, err', rfl, rfl⟩
    | @ok a b hab =>
      obtain ⟨htokens, hparams⟩ := hab
      have hsize : a.2.size = b.2.size := by
        have hlength := congrArg List.length hparams.names
        simpa [Params.names, Params.toList, Params.size] using hlength
      refine .inr ⟨_, _, rfl, rfl, fun _ _ limit c => ?_, fun hdocument => ?_⟩
      · simp only [ofDispatch, Statement.params, Statement.text, htokens, hsize]
      · cases hdocument
  | document =>
    have hagree := h.agree_ofPlan (t := t)
    rw [Plan.compile_document hd, Plan.compile_document hd]
    generalize Command.ofPlan t p = x at hagree
    generalize Command.ofPlan t q = y at hagree
    cases hagree with
    | error err err' => exact .inl ⟨err, err', rfl, rfl⟩
    | @ok cmd cmd' hblanked =>
      refine .inr ⟨_, _, rfl, rfl, fun _ hsql => ?_, fun _ => ?_⟩
      · cases hsql
      · exact ⟨cmd, cmd', rfl, rfl, hblanked, fun _ _ => ⟨rfl, rfl⟩⟩

end Event

/-- `Plan.pickyUpdate` with other texts. -/
def Plan.secretUpdate : Plan :=
  .update
    (.and
      (.or (.membership "name" [.text "eve", .null, .text "\""] true)
        (.comparison .lt (.constant (.int 20)) (.field "age")))
      (.and (.textMatch "name" (.text "$1") .startsWith true) (.compare .ne "age" (.int 20))))
    ((Table.people (.sql .sqlite)).fields.zip [.text "p3", .text "secret", .int 30])

theorem Plan.textTwin_secretUpdate : pickyUpdate.TextTwin secretUpdate := by
  have hage (op : Comparator) : (Predicate.compare op "age" (.int 20)).TextTwin
      (.compare op "age" (.int 20)) :=
    .comparison op (.field "age") (.constant (.same _))
  have htext (s s' : String) (hs : s ≠ "") (hs' : s' ≠ "") :
      (Value.text s).TextTwin (.text s') := .text hs hs'
  refine .update (.logical .and (.logical .or (.membership "name" true ?_) ?_)
    (.logical .and (.textMatch "name" .startsWith true (htext _ _ (by decide) (by decide)))
      (hage .ne))) ?_
  · exact .cons (htext _ _ (by decide) (by decide))
      (.cons (.same _) (.cons (htext _ _ (by decide) (by decide)) .nil))
  · exact .comparison .lt (.constant (.same _)) (.field "age")
  · exact .cons ⟨rfl, htext _ _ (by decide) (by decide)⟩
      (.cons ⟨rfl, htext _ _ (by decide) (by decide)⟩ (.cons ⟨rfl, .same _⟩ .nil))

theorem Event.ofDispatch_secretUpdate :
    Plan.pickyUpdate.TextTwin Plan.secretUpdate ∧
    (∃ s s', Plan.pickyUpdate.compile (.people (.sql .sqlite)) = .ok s ∧
      Plan.secretUpdate.compile (.people (.sql .sqlite)) = .ok s' ∧
      ∀ limit c, ofDispatch limit s c = ofDispatch limit s' c) ∧
    ∃ s s', Plan.pickyUpdate.compile (.people .document) = .ok s ∧
      Plan.secretUpdate.compile (.people .document) = .ok s' ∧
      ∃ cmd cmd', s = .document cmd ∧ s' = .document cmd' ∧ cmd.blanked = cmd'.blanked ∧
        ∀ limit c, ofDispatch limit s c = .dispatched c 0 (clip limit cmd.toJson.render) ∧
          ofDispatch limit s' c = .dispatched c 0 (clip limit cmd'.toJson.render) := by
  refine ⟨Plan.textTwin_secretUpdate, ?_, ?_⟩
  · obtain ⟨err, err', herr, -⟩ | ⟨s, s', hs, hs', hevents, -⟩ :=
      ofDispatch_of_textTwin (t := .people (.sql .sqlite)) Plan.textTwin_secretUpdate
    · cases herr
    · exact ⟨s, s', hs, hs', hevents .sqlite rfl⟩
  · obtain ⟨err, err', herr, -⟩ | ⟨s, s', hs, hs', -, hevents⟩ :=
      ofDispatch_of_textTwin (t := .people .document) Plan.textTwin_secretUpdate
    · cases herr
    · exact ⟨s, s', hs, hs', hevents rfl⟩

/-- A document store is asked how many people have a name. -/
def Plan.countNamed (name : String) : Plan := .count (some (.compare .eq "name" (.text name)))

/-- The name can be read in the log. -/
theorem Event.ofDispatch_countNamed_ne :
    (Plan.countNamed "alice").TextTwin (.countNamed "bob") ∧
    ∃ s s', (Plan.countNamed "alice").compile (.people .document) = .ok s ∧
      (Plan.countNamed "bob").compile (.people .document) = .ok s' ∧
      ∀ c, ofDispatch none s c ≠ ofDispatch none s' c := by
  refine ⟨.count (.some (.comparison .eq (.field "name") (.constant (.text (by decide)
    (by decide))))), _, _, rfl, rfl, fun c h => ?_⟩
  have htext := (Event.dispatched.inj h).2.2
  revert htext
  decide

end Sift
