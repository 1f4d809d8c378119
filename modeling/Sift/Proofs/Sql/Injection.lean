import Sift.Proofs.Sql.Statement

/-!
# Constants leave no trace in the text

Two plans that differ in their constants alone are compiled to the same text with the same names of
parameters. What lowering looks at in a constant is little: whether it is null, whether a pattern is
empty, how many nulls a list has. Plans that agree in that are `Alike`. The rest is a relation
between two runs, `Twin`, which every step of the compilation keeps: the tokens are equal, and so is
all that the parameters have besides their values.
-/
namespace Sift

/-! ## Alike up to constants -/

/-- Patterns of which both are null, both are empty, or both are other texts. -/
inductive Value.SamePattern : Value → Value → Prop
  | null : SamePattern .null .null
  | empty : SamePattern (.text "") (.text "")
  | text {s s' : String} (hs : s ≠ "") (hs' : s' ≠ "") : SamePattern (.text s) (.text s')

/-- Lists with as many values that are not null, and null in both or in neither. -/
structure Value.SameList (vs ws : List Value) : Prop where
  count : (vs.filter fun v => !v.isNull).length = (ws.filter fun v => !v.isNull).length
  null : vs.any isNull = ws.any isNull

/-- The same field, or constants of which both or neither are null. -/
inductive Operand.Alike : Operand → Operand → Prop
  | field (name : String) : Alike (.field name) (.field name)
  | constant {v w : Value} (h : v.isNull = w.isNull) : Alike (.constant v) (.constant w)

/-- The same tree over the same fields, up to constants. -/
inductive Predicate.Alike : Predicate → Predicate → Prop
  | comparison (op : Comparator) {left left' right right' : Operand} (hl : left.Alike left')
    (hr : right.Alike right') : Alike (.comparison op left right) (.comparison op left' right')
  | logical (op : Connective) {left left' right right' : Predicate} (hl : Alike left left')
    (hr : Alike right right') : Alike (.logical op left right) (.logical op left' right')
  | textMatch (field : String) (test : TextTest) (negated : Bool) {v w : Value}
    (h : v.SamePattern w) :
    Alike (.textMatch field v test negated) (.textMatch field w test negated)
  | membership (field : String) (negated : Bool) {vs ws : List Value} (h : Value.SameList vs ws) :
    Alike (.membership field vs negated) (.membership field ws negated)

/-- Plans of one kind that differ in the constants of their filters and in what they assign or
insert. -/
inductive Plan.Alike : Plan → Plan → Prop
  | select {f f' : Option Predicate} (columns : List Field) (order : List SortKey)
    (skip take : Option UInt64) (h : Option.Rel Predicate.Alike f f') :
    Alike (.select ⟨f, columns, order, skip, take⟩) (.select ⟨f', columns, order, skip, take⟩)
  | count {f f' : Option Predicate} (h : Option.Rel Predicate.Alike f f') :
    Alike (.count f) (.count f')
  | update {p p' : Predicate} {pairs pairs' : List (Field × Value)} (h : p.Alike p')
    (hfields : pairs.map Prod.fst = pairs'.map Prod.fst) :
    Alike (.update p pairs) (.update p' pairs')
  | delete {p p' : Predicate} (h : p.Alike p') : Alike (.delete p) (.delete p')
  | insert {pairs pairs' : List (Field × Value)}
    (hfields : pairs.map Prod.fst = pairs'.map Prod.fst) : Alike (.insert pairs) (.insert pairs')

/-! ## Lowering looks at little -/

/-- The same clause up to constants; lists are of the same length. -/
inductive Clause.Alike : Clause → Clause → Prop
  | always (truth : Bool) : Alike (.always truth) (.always truth)
  | nullTest (f : Field) (negated : Bool) : Alike (.nullTest f negated) (.nullTest f negated)
  | compare (f : Field) (op : Comparator) (guard : NullGuard) (v w : Value) :
    Alike (.compare f op v guard) (.compare f op w guard)
  | oneOf (f : Field) (negated : Bool) (guard : NullGuard) {vs ws : List Value}
    (h : vs.length = ws.length) : Alike (.oneOf f vs negated guard) (.oneOf f ws negated guard)
  | like (f : Field) (test : TextTest) (negated : Bool) (guard : NullGuard) (s s' : String) :
    Alike (.like f s test negated guard) (.like f s' test negated guard)

/-- The same condition up to constants. -/
inductive Condition.Alike : Condition → Condition → Prop
  | clause {c c' : Clause} (h : c.Alike c') : Alike (.clause c) (.clause c')
  | logical (op : Connective) {left left' right right' : Condition} (hl : Alike left left')
    (hr : Alike right right') : Alike (.logical op left right) (.logical op left' right')

section Lowering

variable {t : Table}

theorem Value.SameList.isEmpty {vs ws : List Value} (h : Value.SameList vs ws) :
    vs.isEmpty = ws.isEmpty := by
  have hempty : ∀ us : List Value,
      us.isEmpty = ((us.filter fun v => !v.isNull).length == 0 && !us.any Value.isNull) := by
    intro us
    cases us with
    | nil => rfl
    | cons v us => cases hv : v.isNull <;> simp [hv]
  rw [hempty vs, hempty ws, h.count, h.null]

theorem Clause.alike_ofComparison (f : Field) (op : Comparator) {v w : Value}
    (h : v.isNull = w.isNull) :
    (Clause.ofComparison f op v).Alike (Clause.ofComparison f op w) := by
  cases hv : v.isNull with
  | true =>
    obtain rfl := Value.isNull_iff.1 hv
    obtain rfl := Value.isNull_iff.1 (h ▸ hv)
    cases op with
    | eq => exact .nullTest f false
    | ne => exact .nullTest f true
    | gt => exact .always false
    | ge => exact .always false
    | lt => exact .always false
    | le => exact .always false
  | false =>
    rw [ofComparison_of_isNull_eq_false f op hv, ofComparison_of_isNull_eq_false f op (h ▸ hv)]
    exact .compare f op _ v w

theorem Clause.alike_ofMembership (f : Field) (negated : Bool) {vs ws : List Value}
    (h : Value.SameList vs ws) :
    (Clause.ofMembership f vs negated).Alike (Clause.ofMembership f ws negated) := by
  -- emptiness decides first, then nullness; the values themselves are kept as they are
  unfold ofMembership
  rw [h.isEmpty, h.null]
  have hcount := h.count
  split
  · exact .always negated
  · generalize (vs.filter fun v => !v.isNull) = kept at hcount ⊢
    generalize (ws.filter fun v => !v.isNull) = kept' at hcount ⊢
    cases kept with
    | nil =>
      obtain rfl := List.length_eq_zero_iff.1 hcount.symm
      exact .nullTest f negated
    | cons first rest =>
      cases kept' with
      | nil => cases hcount
      | cons first' rest' => exact .oneOf f negated _ hcount

theorem Clause.agree_ofTextMatch (f : Field) (test : TextTest) (negated : Bool) {v w : Value}
    (h : v.SamePattern w) :
    Agree Clause.Alike (Clause.ofTextMatch f v test negated)
      (Clause.ofTextMatch f w test negated) := by
  unfold ofTextMatch
  split
  · cases h with
    | null => exact .ok (.always false)
    | empty => exact .ok (.nullTest f (!negated))
    | text hs hs' =>
      simp only [String.isEmpty_iff, hs, hs', if_false]
      exact .ok (.like f test negated _ _ _)
  · exact .error _ _

theorem agree_orient (op : Comparator) {left left' right right' : Operand}
    (hl : left.Alike left') (hr : right.Alike right') :
    Agree (fun a b => a.1 = b.1 ∧ a.2.1 = b.2.1 ∧ a.2.2.isNull = b.2.2.isNull)
      (orient op left right) (orient op left' right') := by
  cases hl with
  | field name =>
    cases hr with
    | field name' => exact .error _ _
    | constant h => exact .ok ⟨rfl, rfl, h⟩
  | constant h =>
    cases hr with
    | field name => exact .ok ⟨rfl, rfl, h⟩
    | constant h' => exact .error _ _

/-- Predicates that are alike are both accepted, as conditions that are alike, or both refused. -/
theorem Condition.agree_ofPredicate {p q : Predicate} (h : p.Alike q) :
    Agree Condition.Alike (Condition.ofPredicate t p) (Condition.ofPredicate t q) := by
  induction h with
  | comparison op hl hr =>
    refine Agree.bind ((agree_orient op hl hr).mapError _ _) fun a b hab => ?_
    obtain ⟨name, op', v⟩ := a
    obtain ⟨name', op'', w⟩ := b
    obtain ⟨rfl, rfl, hnull⟩ := hab
    refine Agree.bind (Agree.refl _) fun f f' hf => ?_
    obtain rfl := hf
    exact .ok (.clause (Clause.alike_ofComparison f op' hnull))
  | logical op hl hr ihl ihr =>
    refine Agree.bind ihl fun l l' hll => ?_
    refine Agree.bind ihr fun r r' hrr => ?_
    exact .ok (.logical op hll hrr)
  | textMatch field test negated hp =>
    refine Agree.bind (Agree.refl _) fun f f' hf => ?_
    obtain rfl := hf
    refine Agree.bind ((Clause.agree_ofTextMatch f test negated hp).mapError _ _) fun c c' hc => ?_
    exact .ok (.clause hc)
  | membership field negated hvs =>
    refine Agree.bind (Agree.refl _) fun f f' hf => ?_
    obtain rfl := hf
    exact .ok (.clause (Clause.alike_ofMembership f negated hvs))

/-- So are filters, where there are any. -/
theorem Condition.agree_ofFilter {f f' : Option Predicate} (h : Option.Rel Predicate.Alike f f') :
    Agree (Option.Rel Condition.Alike) (Condition.ofFilter t f) (Condition.ofFilter t f') := by
  cases h with
  | none => exact .ok .none
  | some h => exact (agree_ofPredicate h).map fun _ _ hc => .some hc

/-- Filters that are both refused, or lowered to conditions that are the same up to constants. -/
def LoweredAlike (t : Table) (f f' : Option Predicate) : Prop :=
  Agree (Option.Rel Condition.Alike) (Condition.ofFilter t f) (Condition.ofFilter t f')

/-- Plans of one kind with such filters that differ in what they assign or insert. -/
inductive Plan.SameShape (t : Table) : Plan → Plan → Prop
  | select {f f' : Option Predicate} (columns : List Field) (order : List SortKey)
    (skip take : Option UInt64) (h : LoweredAlike t f f') :
    SameShape t (.select ⟨f, columns, order, skip, take⟩)
      (.select ⟨f', columns, order, skip, take⟩)
  | count {f f' : Option Predicate} (h : LoweredAlike t f f') :
    SameShape t (.count f) (.count f')
  | update {p p' : Predicate} {pairs pairs' : List (Field × Value)}
    (h : LoweredAlike t (some p) (some p'))
    (hfields : pairs.map Prod.fst = pairs'.map Prod.fst) :
    SameShape t (.update p pairs) (.update p' pairs')
  | delete {p p' : Predicate} (h : LoweredAlike t (some p) (some p')) :
    SameShape t (.delete p) (.delete p')
  | insert {pairs pairs' : List (Field × Value)}
    (hfields : pairs.map Prod.fst = pairs'.map Prod.fst) :
    SameShape t (.insert pairs) (.insert pairs')

theorem Plan.Alike.sameShape {p q : Plan} (h : p.Alike q) : p.SameShape t q := by
  cases h with
  | select columns order skip take h =>
    exact .select columns order skip take (Condition.agree_ofFilter h)
  | count h => exact .count (Condition.agree_ofFilter h)
  | update h hfields => exact .update (Condition.agree_ofFilter (.some h)) hfields
  | delete h => exact .delete (Condition.agree_ofFilter (.some h))
  | insert hfields => exact .insert hfields

end Lowering

/-! ## Compiling side by side -/

/-- Parameters that differ in their values alone. -/
structure Params.Alike (ps qs : Params) : Prop where
  names : ps.names = qs.names
  counters : ps.counters = qs.counters

theorem Params.Alike.refl (ps : Params) : ps.Alike ps := ⟨rfl, rfl⟩

/-- Two parts of statements that give the same and keep parameters alike. -/
def Twin {α : Type} (part part' : StateM Params α) : Prop :=
  ∀ ps qs : Params, ps.Alike qs →
    (part.run ps).1 = (part'.run qs).1 ∧ (part.run ps).2.Alike (part'.run qs).2

section Twin

variable {α β : Type} {d : SqlDialect} {t : Table} {stem : String}

theorem Twin.pure (a : α) : Twin (pure a) (pure a) := fun _ _ h => ⟨rfl, h⟩

theorem Twin.bind {part part' : StateM Params α} (h : Twin part part')
    {next next' : α → StateM Params β} (hnext : ∀ a, Twin (next a) (next' a)) :
    Twin (part >>= next) (part' >>= next') := by
  intro ps qs hps
  obtain ⟨hresult, hparams⟩ := h ps qs hps
  change ((next (part.run ps).1).run (part.run ps).2).1 =
      ((next' (part'.run qs).1).run (part'.run qs).2).1 ∧
    ((next (part.run ps).1).run (part.run ps).2).2.Alike
      ((next' (part'.run qs).1).run (part'.run qs).2).2
  rw [hresult]
  exact hnext _ _ _ hparams

/-- Names and places do not depend on what is bound. -/
theorem twin_bindParam (stem : String) (v w : Value) :
    Twin (bindParam stem v) (bindParam stem w) := by
  intro ps qs h
  have hissued : ps.issued stem = qs.issued stem := by
    rw [Params.issued, Params.issued, h.counters]
  have hsize : ps.entries.size = qs.entries.size := by
    have hlength := congrArg List.length h.names
    simpa [Params.names, Params.toList] using hlength
  refine ⟨?_, ?_, ?_⟩
  · simp [Params.bind, hissued, hsize]
  · have hnames := h.names
    simp only [Params.names] at hnames
    simp [Params.names, hissued, hnames]
  · simp [Params.bind, hissued, h.counters]

theorem twin_bindParams (stem : String) {vs ws : List Value} (h : vs.length = ws.length) :
    Twin (bindParams stem vs) (bindParams stem ws) := by
  induction vs generalizing ws with
  | nil =>
    obtain rfl := List.length_eq_zero_iff.1 h.symm
    exact Twin.pure []
  | cons v vs ih =>
    cases ws with
    | nil => cases h
    | cons w ws =>
      have hrest := ih (Nat.succ.inj h)
      exact (twin_bindParam stem v w).bind fun t => hrest.bind fun ts => Twin.pure (t :: ts)

theorem Clause.twin_sql {c c' : Clause} (h : c.Alike c') :
    Twin (c.sql d stem) (c'.sql d stem) := by
  cases h with
  | always truth => exact Twin.pure _
  | nullTest f negated => exact Twin.pure _
  | compare f op guard v w => exact (twin_bindParam stem v w).bind fun t => Twin.pure _
  | oneOf f negated guard hlength => exact (twin_bindParams stem hlength).bind fun ts => Twin.pure _
  | like f test negated guard s s' => exact (twin_bindParam stem _ _).bind fun t => Twin.pure _

theorem Condition.twin_sql {c c' : Condition} (h : c.Alike c') :
    Twin (c.sql d stem) (c'.sql d stem) := by
  induction h with
  | clause h => exact Clause.twin_sql h
  | logical op hl hr ihl ihr => exact ihl.bind fun l => ihr.bind fun r => Twin.pure _

theorem Condition.twin_filterPart {c c' : Option Condition} (h : Option.Rel Condition.Alike c c') :
    Twin (Condition.filterPart d c) (Condition.filterPart d c') := by
  cases h with
  | none => exact Twin.pure []
  | some h => exact (twin_sql h).bind fun ts => Twin.pure _

/-- Assignments differ in nothing but their values. -/
theorem twin_assignments {pairs pairs' : List (Field × Value)}
    (h : pairs.map Prod.fst = pairs'.map Prod.fst) :
    Twin (SqlDialect.assignments pairs) (SqlDialect.assignments pairs') := by
  have hlength : (pairs.map Prod.snd).length = (pairs'.map Prod.snd).length := by
    simpa using congrArg List.length h
  have hfields : ∀ (qs : List (Field × Value)) (ts : List SqlToken),
      ((qs.zip ts).map fun pair =>
          [SqlToken.ident pair.1.1.column, .blank, .mark "=", .blank, pair.2]) =
        ((qs.map Prod.fst).zip ts).map fun pair =>
          [SqlToken.ident pair.1.column, .blank, .mark "=", .blank, pair.2] := by
    intro qs ts
    rw [List.zip_map_left, List.map_map]
    rfl
  refine (twin_bindParams assignmentStem hlength).bind fun ts => ?_
  change Twin (pure ((pairs.zip ts).map fun pair =>
      [SqlToken.ident pair.1.1.column, .blank, .mark "=", .blank, pair.2]))
    (pure ((pairs'.zip ts).map fun pair =>
      [SqlToken.ident pair.1.1.column, .blank, .mark "=", .blank, pair.2]))
  rw [hfields, hfields, h]
  exact Twin.pure _

/-- Tokens and parameters of two statements that differ in values alone. -/
def SameOutline (a b : List SqlToken × Params) : Prop := a.1 = b.1 ∧ a.2.Alike b.2

theorem agree_filterTokens {f f' : Option Predicate} (h : LoweredAlike t f f')
    {ps qs : Params} (hps : ps.Alike qs) :
    Agree SameOutline (d.filterTokens t f ps) (d.filterTokens t f' qs) := by
  rw [Condition.filterTokens_eq, Condition.filterTokens_eq]
  exact h.map fun c c' hc => Condition.twin_filterPart hc ps qs hps

theorem agree_neverTokens {f f' : Option Predicate} (h : LoweredAlike t f f')
    {ps qs : Params} (hps : ps.Alike qs) :
    Agree SameOutline (d.neverTokens t f ps) (d.neverTokens t f' qs) := by
  rw [Condition.neverTokens_eq, Condition.neverTokens_eq]
  refine h.map fun c c' hc => ?_
  have hnever : (Condition.never c).Alike (Condition.never c') := by
    cases hc with
    | none => exact .clause (.always false)
    | some hc => exact .logical .and hc (.clause (.always false))
  exact Condition.twin_filterPart (.some hnever) ps qs hps

/-- A change of the tokens that does not look at values keeps two statements alike. -/
theorem Agree.map_tokens {x y : Except Error (List SqlToken × Params)} (h : Agree SameOutline x y)
    (f : List SqlToken → List SqlToken) :
    Agree SameOutline (x.map fun (ts, ps) => (f ts, ps)) (y.map fun (ts, ps) => (f ts, ps)) :=
  h.map fun _ _ hab => ⟨congrArg f hab.1, hab.2⟩

theorem agree_selectTokens {f f' : Option Predicate} (columns : List Field) (order : List SortKey)
    (skip take : Option UInt64) (h : LoweredAlike t f f') :
    Agree SameOutline (d.selectTokens t ⟨f, columns, order, skip, take⟩)
      (d.selectTokens t ⟨f', columns, order, skip, take⟩) := by
  unfold SqlDialect.selectTokens
  split
  · exact .error _ _
  · split
    · exact (agree_neverTokens h (.refl .empty)).map_tokens _
    · exact (agree_filterTokens h (.refl .empty)).map_tokens fun ts =>
        _ ++ ts ++ d.orderTokens ⟨f, columns, order, skip, take⟩ ++
          d.pagingTokens ⟨f, columns, order, skip, take⟩

theorem isEmpty_eq_of_fields {pairs pairs' : List (Field × Value)}
    (h : pairs.map Prod.fst = pairs'.map Prod.fst) : pairs.isEmpty = pairs'.isEmpty := by
  have hempty := congrArg List.isEmpty h
  simpa using hempty

theorem agree_updateTokens {p p' : Predicate} {pairs pairs' : List (Field × Value)}
    (h : LoweredAlike t (some p) (some p')) (hfields : pairs.map Prod.fst = pairs'.map Prod.fst) :
    Agree SameOutline (d.updateTokens t p pairs) (d.updateTokens t p' pairs') := by
  obtain ⟨hsets, hps⟩ := twin_assignments hfields .empty .empty (.refl .empty)
  unfold SqlDialect.updateTokens
  rw [isEmpty_eq_of_fields hfields]
  generalize (SqlDialect.assignments pairs).run .empty = a at hsets hps ⊢
  generalize (SqlDialect.assignments pairs').run .empty = b at hsets hps ⊢
  obtain ⟨sets, ps⟩ := a
  obtain ⟨sets', ps'⟩ := b
  obtain rfl : sets = sets' := hsets
  split
  · exact .error _ _
  · exact (agree_filterTokens h hps).map_tokens _

theorem agree_insertTokens {pairs pairs' : List (Field × Value)}
    (hfields : pairs.map Prod.fst = pairs'.map Prod.fst) :
    Agree SameOutline (SqlDialect.insertTokens t pairs) (SqlDialect.insertTokens t pairs') := by
  have hlength : (pairs.map Prod.snd).length = (pairs'.map Prod.snd).length := by
    simpa using congrArg List.length hfields
  obtain ⟨hparams, hps⟩ := twin_bindParams filterStem hlength .empty .empty (.refl .empty)
  unfold SqlDialect.insertTokens
  rw [isEmpty_eq_of_fields hfields, hfields]
  generalize (bindParams filterStem (pairs.map Prod.snd)).run .empty = a at hparams hps ⊢
  generalize (bindParams filterStem (pairs'.map Prod.snd)).run .empty = b at hparams hps ⊢
  obtain ⟨ts, ps⟩ := a
  obtain ⟨ts', ps'⟩ := b
  obtain rfl : ts = ts' := hparams
  split
  · exact .error _ _
  · exact .ok ⟨rfl, hps⟩

theorem Plan.SameShape.agree_planTokens {p q : Plan} (h : p.SameShape t q) :
    Agree SameOutline (d.planTokens t p) (d.planTokens t q) := by
  cases h with
  | select columns order skip take h => exact agree_selectTokens columns order skip take h
  | count h => exact (agree_filterTokens h (.refl .empty)).map_tokens _
  | update h hfields => exact agree_updateTokens h hfields
  | delete h => exact (agree_filterTokens h (.refl .empty)).map_tokens _
  | insert hfields => exact agree_insertTokens hfields

theorem agree_planTokens {p q : Plan} (h : p.Alike q) :
    Agree SameOutline (d.planTokens t p) (d.planTokens t q) :=
  Plan.SameShape.agree_planTokens h.sameShape

end Twin

/-- Plans that differ in their constants alone are both refused, or compiled to statements that
differ in the values of their parameters alone, whatever the constants are. -/
theorem Plan.text_compile_of_alike {d : SqlDialect} {t : Table} (hd : t.dialect = .sql d)
    {p q : Plan} (h : p.Alike q) :
    (∃ e e', p.compile t = .error e ∧ q.compile t = .error e') ∨
      ∃ st st', p.compile t = .ok (.sql st) ∧ q.compile t = .ok (.sql st') ∧ st.text = st'.text ∧
        st.params.names = st'.params.names ∧ st.params.counters = st'.params.counters := by
  have hagree : Agree SameOutline (d.planTokens t p) (d.planTokens t q) := agree_planTokens h
  simp only [Plan.compile, hd]
  generalize d.planTokens t p = x at hagree
  generalize d.planTokens t q = y at hagree
  cases hagree with
  | error e e' => exact .inl ⟨e, e', rfl, rfl⟩
  | ok h =>
    obtain ⟨htokens, hparams⟩ := h
    exact .inr ⟨_, _, rfl, rfl, congrArg d.spell htokens, hparams.names, hparams.counters⟩

/-- `Plan.pickyUpdate` with other constants, some of which look like statement text. -/
def Plan.hostileUpdate : Plan :=
  .update
    (.and
      (.or (.membership "name" [.null, .text "\x27; DROP TABLE people; --", .text "\"", .null] true)
        (.comparison .lt (.constant (.int 99)) (.field "age")))
      (.and (.textMatch "name" (.text "%\x27 OR 1=1") .startsWith true)
        (.compare .ne "age" (.text "$1"))))
    ((Table.people (.sql .sqlite)).fields.zip [.null, .text ":U_Parameter1", .text "\\"])

theorem Plan.text_compile_hostileUpdate :
    ∃ st st', pickyUpdate.compile (.people (.sql .sqlite)) = .ok (.sql st) ∧
      hostileUpdate.compile (.people (.sql .sqlite)) = .ok (.sql st') ∧ st.text = st'.text ∧
        st.params.names = st'.params.names := by
  have hleft : (Predicate.or (.membership "name" [.text "ann", .null, .text "bob"] true)
      (.comparison .lt (.constant (.int 20)) (.field "age"))).Alike
        (.or (.membership "name"
            [.null, .text "\x27; DROP TABLE people; --", .text "\"", .null] true)
          (.comparison .lt (.constant (.int 99)) (.field "age"))) :=
    .logical .or (.membership "name" true ⟨rfl, rfl⟩)
      (.comparison .lt (.constant rfl) (.field "age"))
  have hright : (Predicate.and (.textMatch "name" (.text "rose") .startsWith true)
      (.compare .ne "age" (.int 20))).Alike
        (.and (.textMatch "name" (.text "%\x27 OR 1=1") .startsWith true)
          (.compare .ne "age" (.text "$1"))) :=
    .logical .and (.textMatch "name" .startsWith true (.text (by decide) (by decide)))
      (.comparison .ne (.field "age") (.constant rfl))
  have halike : pickyUpdate.Alike hostileUpdate := .update (.logical .and hleft hright) rfl
  obtain ⟨e, e', he, -⟩ | ⟨st, st', hst, hst', htext, hnames, -⟩ :=
    Plan.text_compile_of_alike (t := .people (.sql .sqlite)) rfl halike
  · cases he
  · exact ⟨st, st', hst, hst', htext, hnames⟩

end Sift
