import Sift.Proofs.Document.Matching
import Sift.Proofs.Sql.Reading

/-!
# Stores select the same rows

A document store and a relational one disagree about null: to the one a negated test holds for a
null, to the other it is unknown. `Predicate.holdsOn_iff_truth_eq_yes` says that the filter and the
text that a predicate is spelled as select the same rows nevertheless, be the nulls of a row stored
as such or left out.

What makes it so is that conditions are portable, `Condition.Portable`: every negated test stands
behind a guard, which decides about null alike in both stores before they come to disagree. Tests
that are not negated hold for null in neither of them.
-/
namespace Sift

/-- Values that documents hold as they are. -/
def Value.isPlain : Value → Bool
  | null | bool _ | int _ | text _ => true
  | _ => false

theorem Value.plain_toJson {v : Value} (h : v.isPlain = true) : v.toJson.plain = v := by
  cases v with
  | null => rfl
  | bool b => rfl
  | int n => exact congrArg Value.int (Int64.ofInt_toInt n)
  | text s => rfl
  | float x => cases h
  | bytes bs => cases h
  | uuid u => cases h
  | timestamp t => cases h
  | json j => cases h

theorem Value.map_plain_toJson {values : List Value} (h : ∀ v ∈ values, v.isPlain = true) :
    (values.map Value.toJson).map Json.plain = values := by
  rw [List.map_map]
  calc values.map (Json.plain ∘ Value.toJson)
    _ = values.map id := List.map_congr_left fun v hv => plain_toJson (h v hv)
    _ = values := List.map_id values

/-- A document holds a row. What is null may be left out. -/
def Document.Stores (doc : Document) (row : String → Value) : Prop :=
  ∀ column, doc column = some (row column).toJson ∨
    ((row column).isNull = true ∧ doc column = none)

/-- What a document holds is the row. -/
theorem Document.value_eq {doc : Document} {row : String → Value} (h : doc.Stores row)
    {column : String} (hplain : (row column).isPlain = true) : doc.value column = row column := by
  unfold value
  obtain hsome | ⟨hnull, hnone⟩ := h column
  · rw [hsome]
    exact Value.plain_toJson hplain
  · rw [hnone]
    exact (Value.isNull_iff.1 hnull).symm

namespace Operand

/-- The constant of an operand. -/
def constants : Operand → List Value
  | field _ => []
  | constant v => [v]

end Operand

/-- The constants anywhere in a predicate. -/
def Predicate.constants : Predicate → List Value
  | comparison _ left right => left.constants ++ right.constants
  | logical _ left right => left.constants ++ right.constants
  | textMatch _ pattern _ _ => [pattern]
  | membership _ values _ => values

/-! ## Portable conditions -/

/-- Constants are plain and not null, and what is negated is guarded. -/
def Clause.Portable : Clause → Prop
  | always _ | nullTest .. => True
  | compare _ op v guard => v.isNull = false ∧ v.isPlain = true ∧ (op = .ne → guard ≠ .none)
  | oneOf _ values negated guard =>
    values ≠ [] ∧ (∀ v ∈ values, v.isNull = false ∧ v.isPlain = true) ∧
      (negated = true → guard ≠ .none)
  | like _ _ _ negated guard => negated = true → guard ≠ .none

/-- All clauses of a condition are portable. -/
def Condition.Portable : Condition → Prop
  | clause c => c.Portable
  | logical _ left right => left.Portable ∧ right.Portable

namespace Clause

theorem portable_ofComparison (f : Field) (op : Comparator) {v : Value} (h : v.isPlain = true) :
    (ofComparison f op v).Portable := by
  cases hv : v.isNull with
  | true =>
    obtain rfl := Value.isNull_iff.1 hv
    cases op <;> trivial
  | false =>
    rw [ofComparison_of_isNull_eq_false f op hv]
    refine ⟨hv, h, ?_⟩
    rintro rfl
    exact NullGuard.noConfusion

theorem portable_ofMembership (f : Field) {values : List Value} (negated : Bool)
    (h : ∀ v ∈ values, v.isPlain = true) : (ofMembership f values negated).Portable := by
  unfold ofMembership
  split
  · trivial
  · split
    · trivial
    · rename_i first rest hkept
      refine ⟨List.cons_ne_nil first rest, fun v hv => ?_, ?_⟩
      · rw [← hkept] at hv
        obtain ⟨hmem, hnull⟩ := List.mem_filter.1 hv
        exact ⟨by simpa using hnull, h v hmem⟩
      · rintro rfl
        cases values.any Value.isNull <;> exact NullGuard.noConfusion

theorem portable_ofTextMatch {f : Field} {pattern : Value} {test : TextTest} {negated : Bool}
    {c : Clause} (h : ofTextMatch f pattern test negated = .ok c) : c.Portable := by
  unfold ofTextMatch at h
  split at h
  · split at h
    · cases h
      trivial
    · split at h
      · cases h
        trivial
      · cases h
        rintro rfl
        exact NullGuard.noConfusion
    · cases h
  · cases h

end Clause

/-- Turning a comparison around keeps its constant. -/
theorem Operand.mem_constants_of_orient {op op' : Comparator} {left right : Operand} {name : String}
    {v : Value} (h : orient op left right = .ok (name, op', v)) :
    v ∈ left.constants ++ right.constants := by
  cases left with
  | field n =>
    cases right with
    | field m => cases h
    | constant w =>
      cases h
      exact List.mem_singleton_self v
  | constant w =>
    cases right with
    | field m =>
      cases h
      exact List.mem_singleton_self v
    | constant u => cases h

/-- Predicates over plain constants are lowered to portable conditions. -/
theorem Condition.portable_of_ofPredicate {t : Table} {p : Predicate} {c : Condition}
    (h : ofPredicate t p = .ok c) (hp : ∀ v ∈ p.constants, v.isPlain = true) : c.Portable := by
  induction p generalizing c with
  | comparison op left right =>
    obtain ⟨name, op', v, f, ho, -, rfl⟩ := ofPredicate_comparison.1 h
    exact Clause.portable_ofComparison f op' (hp v (Operand.mem_constants_of_orient ho))
  | logical op p q ihp ihq =>
    obtain ⟨l, r, hl, hr, rfl⟩ := ofPredicate_logical.1 h
    have hleft := ihp hl fun v hv => hp v (List.mem_append_left _ hv)
    have hright := ihq hr fun v hv => hp v (List.mem_append_right _ hv)
    exact ⟨hleft, hright⟩
  | textMatch name pattern test negated =>
    obtain ⟨f, k, -, hk, rfl⟩ := ofPredicate_textMatch.1 h
    exact Clause.portable_ofTextMatch hk
  | membership name values negated =>
    obtain ⟨f, -, rfl⟩ := ofPredicate_membership.1 h
    exact Clause.portable_ofMembership f negated hp

/-! ## Tests that stores read alike -/

namespace Comparison

variable (cmp : Comparison)

/-- An operator other than inequality holds for null in neither store. -/
theorem holds_eq_isYes {op : Comparator} {v w : Value} (hw : w.isNull = false)
    (h : op = .ne → v.isNull = false) : cmp.holds op v w = (cmp.truth op v w).isYes := by
  cases hv : v.isNull with
  | true =>
    rw [cmp.truth_of_isNull op hv, Truth.isYes_unknown]
    cases op with
    | ne => simp [hv] at h
    | eq => simp [holds, equal, hv, hw]
    | gt => simp [holds, hv]
    | ge => simp [holds, hv]
    | lt => simp [holds, hv]
    | le => simp [holds, hv]
  | false =>
    rw [cmp.truth_of_isNull_eq_false op hv hw, Truth.isYes_ofBool]
    cases op with
    | ne => simp [holds, equal, hv, hw, cmp.test_ne]
    | eq => simp [holds, equal, hv, hw]
    | gt => simp [holds, hv, hw]
    | ge => simp [holds, hv, hw]
    | lt => simp [holds, hv, hw]
    | le => simp [holds, hv, hw]

theorem among_eq_any {v : Value} (hv : v.isNull = false) {values : List Value}
    (h : ∀ w ∈ values, w.isNull = false) :
    cmp.among v values = values.any fun w => cmp.test .eq v w := by
  have hequal : ∀ w ∈ values, cmp.equal v w = cmp.test .eq v w := by
    intro w hw
    simp [equal, hv, h w hw]
  rw [among, Bool.eq_iff_iff, List.any_eq_true, List.any_eq_true]
  exact exists_congr fun w => and_congr_right fun hw => by rw [hequal w hw]

theorem among_of_isNull {v : Value} (hv : v.isNull = true) {values : List Value}
    (h : ∀ w ∈ values, w.isNull = false) : cmp.among v values = false := by
  rw [among, List.any_eq_false]
  intro w hw
  simp [equal, hv, h w hw]

/-- Being listed holds for null in neither store, if null is not listed. -/
theorem among_eq_isYes {v : Value} {values : List Value} {negated : Bool} (hne : values ≠ [])
    (hvalues : ∀ w ∈ values, w.isNull = false) (h : negated = true → v.isNull = false) :
    (cmp.among v values != negated) = ((cmp.listed v values).negate negated).isYes := by
  cases hv : v.isNull with
  | true =>
    cases negated with
    | true => simp [hv] at h
    | false => simp [cmp.among_of_isNull hv hvalues, cmp.listed_of_isNull hv hne]
  | false =>
    simp [cmp.among_eq_any hv hvalues, cmp.listed_of_isNull_eq_false hv hvalues]

/-- Matching a pattern holds for null in neither store. -/
theorem passes_eq_isYes (d : SqlDialect) {v : Value} (test : TextTest) (pattern : String)
    {negated : Bool} (h : negated = true → v.isNull = false) :
    (cmp.passes v test pattern.toList != negated) =
      ((cmp.like d d.declaredEscape v
        (.text (test.wildcards (d.escapeLike pattern)))).negate negated).isYes := by
  rw [cmp.like_wildcards]
  cases hv : v.isNull with
  | true =>
    cases negated with
    | true => simp [hv] at h
    | false => simp [passes, hv]
  | false => simp

end Comparison

/-! ## Clauses and conditions -/

section Agreement

variable (d : SqlDialect) (cmp : Comparison) {row : String → Value} {doc : Document}

theorem Clause.holdsOn_nullFilter (f : Field) (negated : Bool)
    (hdoc : doc.value f.column = row f.column) :
    (Clause.nullFilter f negated).holdsOn cmp doc = ((row f.column).isNull != negated) := by
  cases negated with
  | false => simp [nullFilter, hdoc]
  | true =>
    have hne := Json.holdsOn_operator cmp doc f.column "$ne" .null (by decide)
    rw [nullFilter, if_pos rfl, hne, hdoc]
    change cmp.holds .ne (row f.column) .null = _
    simp [Comparison.holds, Comparison.equal]

/-- A guard decides about null, so its core has to agree only where nothing is null or there is no
guard. -/
theorem Clause.holdsOn_guardFilter (f : Field) (guard : NullGuard) {core : Json} {e : SqlExpr}
    (hdoc : doc.value f.column = row f.column)
    (hcore : guard = .none ∨ (row f.column).isNull = false →
      core.holdsOn cmp doc = (e.truth d cmp row).isYes) :
    (Clause.guardFilter f guard core).holdsOn cmp doc =
      ((guard.written f e).truth d cmp row).isYes := by
  cases guard with
  | none => exact hcore (.inl rfl)
  | orNull =>
    rw [NullGuard.isYes_truth_written_orNull, guardFilter, Json.holdsOn_or,
      holdsOn_nullFilter cmp f false hdoc]
    cases hnull : (row f.column).isNull with
    | true => rfl
    | false => simp [hcore (.inr hnull)]
  | andNotNull =>
    rw [NullGuard.isYes_truth_written_andNotNull, guardFilter, Json.holdsOn_and,
      holdsOn_nullFilter cmp f true hdoc]
    cases hnull : (row f.column).isNull with
    | true => rfl
    | false => simp [hcore (.inr hnull)]

/-- A portable clause holds on a document where it is true on the row. -/
theorem Clause.holdsOn_filter {c : Clause} (hc : c.Portable)
    (hdoc : ∀ column, doc.value column = row column) :
    c.filter.holdsOn cmp doc = ((c.written d).truth d cmp row).isYes := by
  -- a core that is not guarded is not negated
  have hguarded {f : Field} {guard : NullGuard} {negated : Prop} (h : negated → guard ≠ .none)
      (hopen : guard = .none ∨ (row f.column).isNull = false) (hneg : negated) :
      (row f.column).isNull = false :=
    hopen.resolve_left (h hneg)
  cases c with
  | always truth => simp [filter, written, SqlExpr.truth]
  | nullTest f negated =>
    rw [filter, holdsOn_nullFilter cmp f negated (hdoc f.column), written, SqlExpr.truth,
      Truth.isYes_ofBool]
  | compare f op v guard =>
    obtain ⟨hnull, hplain, hne⟩ := hc
    apply holdsOn_guardFilter d cmp f guard (hdoc f.column)
    intro hopen
    have hkey : op.filterKey ≠ "$not" := by cases op <;> decide
    rw [Json.holdsOn_operator cmp doc f.column _ _ hkey, Json.passesOperator_filterKey,
      Value.plain_toJson hplain, hdoc, SqlExpr.truth]
    exact cmp.holds_eq_isYes hnull (hguarded hne hopen)
  | oneOf f values negated guard =>
    obtain ⟨hvalues, hall, hneg⟩ := hc
    apply holdsOn_guardFilter d cmp f guard (hdoc f.column)
    intro hopen
    have hlist := Value.map_plain_toJson fun v hv => (hall v hv).2
    have hnull := fun v hv => (hall v hv).1
    rw [SqlExpr.truth, ← cmp.among_eq_isYes hvalues hnull (hguarded hneg hopen), ← hdoc]
    cases negated with
    | false =>
      rw [Json.holdsOn_operator cmp doc f.column _ _ (by decide)]
      change cmp.among _ ((values.map Value.toJson).map Json.plain) = _
      rw [hlist, Bool.bne_false]
    | true =>
      rw [Json.holdsOn_operator cmp doc f.column _ _ (by decide)]
      change (!cmp.among _ ((values.map Value.toJson).map Json.plain)) = _
      rw [hlist, Bool.bne_true]
  | like f pattern test negated guard =>
    apply holdsOn_guardFilter d cmp f guard (hdoc f.column)
    intro hopen
    have hregex (v : Value) : Json.passesOperator cmp v "$regex" (.string (test.regex pattern)) =
        cmp.passes v test pattern.toList := by
      change (TextTest.ofRegex? (test.regex pattern)).any _ = _
      rw [TextTest.ofRegex?_regex, Option.any_some]
    change _ = ((cmp.like d d.declaredEscape (row f.column)
      (.text (test.wildcards (d.escapeLike pattern)))).negate negated).isYes
    rw [← cmp.passes_eq_isYes d test pattern (hguarded hc hopen), ← hdoc, ← hregex]
    cases negated with
    | false =>
      rw [if_neg Bool.false_ne_true, Json.holdsOn_operator cmp doc f.column _ _ (by decide),
        Bool.bne_false]
    | true =>
      rw [if_pos rfl, Json.holdsOn_not cmp doc f.column _ _ (by decide), Bool.bne_true]

/-- A portable condition holds on a document where it is true on the row. -/
theorem Condition.holdsOn_filter {c : Condition} (hc : c.Portable)
    (hdoc : ∀ column, doc.value column = row column) :
    c.filter.holdsOn cmp doc = ((c.written d).truth d cmp row).isYes := by
  induction c with
  | clause c => exact Clause.holdsOn_filter d cmp hc hdoc
  | logical op left right ihl ihr =>
    have hl := ihl hc.1
    have hr := ihr hc.2
    cases op with
    | and =>
      change (Json.member "$and" (.array [left.filter, right.filter])).holdsOn cmp doc = _
      rw [Json.holdsOn_and, hl, hr, written, SqlExpr.truth, Truth.isYes_and]
    | or =>
      change (Json.member "$or" (.array [left.filter, right.filter])).holdsOn cmp doc = _
      rw [Json.holdsOn_or, hl, hr, written, SqlExpr.truth, Truth.isYes_or]

end Agreement

/-- An accepted predicate over plain constants is spelled as a filter and as the text of a
condition, in every dialect. On a row of plain cells the filter holds if and only if the condition
is true. -/
theorem Predicate.holdsOn_iff_truth_eq_yes {t : Table} {p : Predicate} {c : Condition}
    (h : Condition.ofPredicate t p = .ok c) (hp : ∀ v ∈ p.constants, v.isPlain = true)
    (d : SqlDialect) (cmp : Comparison) {row : String → Value}
    (hrow : ∀ column, (row column).isPlain = true) {doc : Document} (hdoc : doc.Stores row) :
    ∃ filter ts ps e, t.filterOf p = .ok filter ∧
      d.whereTokens t filterStem p .empty = .ok (ts, ps) ∧
      d.readCondition ⟨d.spell ts, ps⟩ = some e ∧
      (filter.holdsOn cmp doc = true ↔ e.truth d cmp row = .yes) := by
  have hportable := Condition.portable_of_ofPredicate h hp
  have hread := Condition.readCondition_spell d (Condition.sound_of_ofPredicate h)
  have htokens := d.whereTokens_of_ofPredicate h filterStem .empty
  refine ⟨c.filter, _, _, c.written d, ?_, htokens, hread, ?_⟩
  · rw [Table.filterOf, h]
    rfl
  · rw [← Truth.isYes_iff,
      Condition.holdsOn_filter d cmp hportable fun column => Document.value_eq hdoc (hrow column)]

/-- Someone without a name, thirty years old. -/
def namelessCells (column : String) : Value :=
  if column = "id" then .text "p1" else if column = "age" then .int 30 else .null

/-- The same in a document, which has no member for the name. -/
def namelessDocument : Document := fun column =>
  if column = "id" then some (.string "p1") else if column = "age" then some (.int 30) else none

theorem Predicate.holdsOn_pickyPredicate :
    (∀ v ∈ pickyPredicate.constants, v.isPlain = true) ∧ namelessDocument.Stores namelessCells ∧
    ∃ filter ts ps e, (Table.people .document).filterOf pickyPredicate = .ok filter ∧
      SqlDialect.sqlServer.whereTokens (.people .document) filterStem pickyPredicate .empty =
        .ok (ts, ps) ∧
      SqlDialect.sqlServer.readCondition ⟨SqlDialect.sqlServer.spell ts, ps⟩ = some e ∧
      filter.holdsOn .withinTypes namelessDocument = true ∧
      e.truth .sqlServer .withinTypes namelessCells = .yes := by
  have hconstants : ∀ v ∈ pickyPredicate.constants, v.isPlain = true := by
    have hall : pickyPredicate.constants.all Value.isPlain = true := rfl
    exact List.all_eq_true.1 hall
  have hrow (column : String) : (namelessCells column).isPlain = true := by
    unfold namelessCells
    split
    · rfl
    · split <;> rfl
  have hstores : namelessDocument.Stores namelessCells := by
    intro column
    unfold namelessDocument namelessCells
    split
    · exact .inl rfl
    · split
      · exact .inl rfl
      · exact .inr ⟨rfl, rfl⟩
  obtain ⟨filter, ts, ps, e, hfilter, hwhere, hread, hagree⟩ :=
    Predicate.holdsOn_iff_truth_eq_yes (t := .people .document) (p := pickyPredicate) rfl hconstants
      .sqlServer .withinTypes hrow hstores
  have hholds : filter.holdsOn .withinTypes namelessDocument = true := by
    cases hfilter
    rfl
  exact ⟨hconstants, hstores, filter, ts, ps, e, hfilter, hwhere, hread, hholds, hagree.1 hholds⟩

end Sift
