import Sift.Proofs.Sql.Statement

/-!
# Names are read back

A name stands in a statement in quotes, its closing quotes doubled. `SqlDialect.readIdent?_quote`:
it is read back whatever it contains, unless a closing quote follows. None ever does, so what a
store reads as names in a statement are the names that its plan mentions, `Plan.names`, in reading
order: those of its table and its columns, and in its filter those of mapped fields.
-/
namespace Sift

/-! ## One name -/

namespace SqlDialect

variable {d : SqlDialect}

/-- The name that a text begins with, and what follows its closing quote. -/
def readIdent? (d : SqlDialect) : List Char → Option (String × List Char)
  | [] => none
  | c :: cs =>
    match d.next? c cs with
    | some (.ident name, rest) => some (name, rest)
    | _ => none

/-- A name in quotes is read back, whatever follows it other than a closing quote. -/
theorem readIdent?_quote (name : String) {rest : List Char} (h : rest.head? ≠ some d.quotes.2) :
    d.readIdent? ((d.quote name).toList ++ rest) = some (name, rest) := by
  have hrest : rest.head?.all (· != d.quotes.2) = true := by
    cases rest with
    | nil => rfl
    | cons c rest => simpa using h
  simp [quote, readIdent?, next?, readQuoted_quoteBody _ _ hrest]

/-- Different names are different in quotes. -/
theorem quote_injective : Function.Injective d.quote := by
  intro x y h
  have hnil : ([] : List Char).head? ≠ some d.quotes.2 := by simp
  have hx := readIdent?_quote x hnil
  rw [h, readIdent?_quote y hnil] at hx
  exact (Prod.ext_iff.1 (Option.some.inj hx)).1.symm

end SqlDialect

/-! ## The names among tokens -/

namespace SqlToken

/-- The name in an identifier. -/
def name? : SqlToken → Option String
  | ident name => some name
  | _ => none

/-- The names that tokens mention, in reading order. -/
def names (ts : List SqlToken) : List String := ts.filterMap name?

@[simp] theorem names_nil : names [] = [] := rfl

@[simp] theorem names_append (ts us : List SqlToken) : names (ts ++ us) = names ts ++ names us := by
  simp [names]

@[simp] theorem names_cons_ident (name : String) (ts : List SqlToken) :
    names (ident name :: ts) = name :: names ts := rfl

@[simp] theorem names_cons_blank (ts : List SqlToken) : names (blank :: ts) = names ts := rfl

@[simp] theorem names_cons_word (w : String) (ts : List SqlToken) :
    names (word w :: ts) = names ts := rfl

@[simp] theorem names_cons_mark (m : String) (ts : List SqlToken) :
    names (mark m :: ts) = names ts := rfl

@[simp] theorem names_cons_number (n : Nat) (ts : List SqlToken) :
    names (number n :: ts) = names ts := rfl

@[simp] theorem names_cons_literal (s : String) (ts : List SqlToken) :
    names (literal s :: ts) = names ts := rfl

@[simp] theorem names_cons_param (slot : Params.Slot) (ts : List SqlToken) :
    names (param slot :: ts) = names ts := rfl

@[simp] theorem names_words (ws : List String) : names (words ws) = [] := by
  induction ws using words.induct with
  | case1 => rfl
  | case2 w => rfl
  | case3 w next rest ih => simp [words, ih]

@[simp] theorem names_parens (ts : List SqlToken) : names (parens ts) = names ts := by
  simp [parens]

@[simp] theorem names_always (truth : Bool) : names (always truth) = [] := rfl

theorem names_commaList (tss : List (List SqlToken)) :
    names (commaList tss) = tss.flatMap names := by
  induction tss using commaList.induct with
  | case1 => rfl
  | case2 ts => simp
  | case3 ts next rest ih => simp [commaList, ih]

end SqlToken

/-- The names among lexemes, in reading order. -/
def Lexeme.names {π : Type} (ls : List (Lexeme π)) : List String :=
  ls.filterMap fun
    | .ident name => some name
    | _ => none

theorem Lexeme.names_lexemes {π : Type} (g : Params.Slot → π) (ts : List SqlToken) :
    Lexeme.names (SqlToken.lexemes g ts) = SqlToken.names ts := by
  induction ts with
  | nil => rfl
  | cons t ts ih =>
    cases t with
    | ident name => exact congrArg (name :: ·) ih
    | blank => exact ih
    | word w => exact ih
    | mark m => exact ih
    | number n => exact ih
    | literal s => exact ih
    | param slot => exact ih

/-! ## The names in conditions -/

/-- The field of a core as often as it is mentioned with its guard. -/
def NullGuard.mentions (f : Field) : NullGuard → List Field
  | none => [f]
  | orNull | andNotNull => [f, f]

@[simp] theorem NullGuard.mem_mentions {f g : Field} {guard : NullGuard} :
    g ∈ guard.mentions f ↔ g = f := by
  cases guard <;> simp [mentions]

/-- The fields that a clause mentions. -/
def Clause.mentions : Clause → List Field
  | always _ => []
  | nullTest f _ => [f]
  | compare f _ _ guard | oneOf f _ _ guard | like f _ _ _ guard => guard.mentions f

/-- The fields that a condition mentions, from left to right. -/
def Condition.mentions : Condition → List Field
  | clause c => c.mentions
  | logical _ left right => left.mentions ++ right.mentions

section Conditions

open SqlToken

variable {d : SqlDialect} {t : Table}

theorem names_guardTokens (f : Field) (guard : NullGuard) {core : List SqlToken}
    (h : names core = [f.column]) :
    names (Clause.guardTokens f guard core) = (guard.mentions f).map Field.column := by
  cases guard <;> simp [Clause.guardTokens, Clause.nullTokens, NullGuard.mentions, h]

@[simp] theorem names_negatable (negated : Bool) (w : String) :
    names (Clause.negatable negated w) = [] := by
  simp [Clause.negatable]

@[simp] theorem names_escapeClause : names d.escapeClause = [] := by
  cases d <;> rfl

theorem names_params (slots : List Params.Slot) :
    names (commaList ((slots.map param).map fun t => [t])) = [] := by
  simp [names_commaList]

theorem Clause.names_sql (c : Clause) (stem : String) (ps : Params) :
    names ((c.sql d stem).run ps).1 = c.mentions.map Field.column := by
  cases c with
  | always truth => rfl
  | nullTest f negated => cases negated <;> rfl
  | compare f op v guard =>
    rw [run_sql_compare]
    exact names_guardTokens f guard rfl
  | oneOf f values negated guard =>
    obtain ⟨slots, hrun, -⟩ := run_bindParams (d := d) stem values ps
    rw [run_sql_oneOf, hrun]
    exact names_guardTokens f guard (by simp [names_params, -List.map_map])
  | like f pattern test negated guard =>
    rw [run_sql_like]
    exact names_guardTokens f guard (by simp)

theorem Condition.names_sql (c : Condition) (stem : String) (ps : Params) :
    names ((c.sql d stem).run ps).1 = c.mentions.map Field.column := by
  induction c generalizing ps with
  | clause c => exact Clause.names_sql c stem ps
  | logical op left right ihl ihr => simp [run_sql_logical, mentions, ihl, ihr]

theorem Clause.eq_of_mem_ofComparison {f g : Field} {op : Comparator} {v : Value}
    (h : g ∈ (ofComparison f op v).mentions) : g = f := by
  cases hv : v.isNull with
  | true =>
    obtain rfl := Value.isNull_iff.1 hv
    cases op with
    | eq | ne => exact List.mem_singleton.1 h
    | gt | ge | lt | le => cases h
  | false =>
    rw [ofComparison_of_isNull_eq_false f op hv] at h
    exact NullGuard.mem_mentions.1 h

theorem Clause.eq_of_mem_ofMembership {f g : Field} {values : List Value} {negated : Bool}
    (h : g ∈ (ofMembership f values negated).mentions) : g = f := by
  unfold ofMembership at h
  split at h
  · cases h
  · split at h
    · exact List.mem_singleton.1 h
    · exact NullGuard.mem_mentions.1 h

theorem Clause.eq_of_mem_ofTextMatch {f g : Field} {pattern : Value} {test : TextTest}
    {negated : Bool} {k : Clause} (hk : ofTextMatch f pattern test negated = .ok k)
    (h : g ∈ k.mentions) : g = f := by
  unfold ofTextMatch at hk
  split at hk
  · split at hk
    · cases hk
      cases h
    · split at hk
      · cases hk
        exact List.mem_singleton.1 h
      · cases hk
        exact NullGuard.mem_mentions.1 h
    · cases hk
  · cases hk

/-- The field of a comparison is named on one of its sides. -/
theorem Operand.mem_fields_of_orient {op op' : Comparator} {left right : Operand} {name : String}
    {v : Value} (h : orient op left right = .ok (name, op', v)) :
    name ∈ left.fields ++ right.fields := by
  cases left with
  | field n =>
    cases right with
    | field m => cases h
    | constant w =>
      cases h
      exact List.mem_singleton_self name
  | constant w =>
    cases right with
    | field m =>
      cases h
      exact List.mem_singleton_self name
    | constant u => cases h

/-- All fields that are mentioned are the mapped fields of names in the predicate. -/
theorem Condition.exists_name_of_mem_mentions {p : Predicate} {c : Condition}
    (h : ofPredicate t p = .ok c) {f : Field} (hf : f ∈ c.mentions) :
    ∃ name ∈ p.fields, t.field? name = some f := by
  induction p generalizing c with
  | comparison op left right =>
    obtain ⟨name, op', v, g, ho, hg, rfl⟩ := ofPredicate_comparison.1 h
    obtain rfl : f = g := Clause.eq_of_mem_ofComparison hf
    exact ⟨name, Operand.mem_fields_of_orient ho, hg⟩
  | logical op p q ihp ihq =>
    obtain ⟨l, r, hl, hr, rfl⟩ := ofPredicate_logical.1 h
    rcases List.mem_append.1 hf with hleft | hright
    · obtain ⟨name, hname, hfield⟩ := ihp hl hleft
      exact ⟨name, List.mem_append_left _ hname, hfield⟩
    · obtain ⟨name, hname, hfield⟩ := ihq hr hright
      exact ⟨name, List.mem_append_right _ hname, hfield⟩
  | textMatch name pattern test negated =>
    obtain ⟨g, k, hg, hk, rfl⟩ := ofPredicate_textMatch.1 h
    obtain rfl : f = g := Clause.eq_of_mem_ofTextMatch hk hf
    exact ⟨name, List.mem_singleton_self name, hg⟩
  | membership name values negated =>
    obtain ⟨g, hg, rfl⟩ := ofPredicate_membership.1 h
    obtain rfl : f = g := Clause.eq_of_mem_ofMembership hf
    exact ⟨name, List.mem_singleton_self name, hg⟩

theorem Condition.exists_name_of_ofFilter {filter : Option Predicate} {c : Option Condition}
    (h : ofFilter t filter = .ok c) {c' : Condition} (hc : c' ∈ c) {f : Field}
    (hf : f ∈ c'.mentions) :
    ∃ p name, filter = some p ∧ name ∈ p.fields ∧ t.field? name = some f := by
  cases filter with
  | none =>
    cases h
    cases hc
  | some p =>
    obtain ⟨lowered, hlowered, rfl⟩ := map_eq_ok_iff.1 h
    obtain rfl := Option.some.inj hc
    obtain ⟨name, hname, hfield⟩ := exists_name_of_mem_mentions hlowered hf
    exact ⟨p, name, rfl, hname, hfield⟩

end Conditions

/-! ## The names in statements -/

/-- The columns that the filter of a plan mentions. -/
def Condition.filterNames (c : Option Condition) : List String :=
  (c.map fun c => c.mentions.map Field.column).getD []

/-- The names that a plan mentions, with its filter lowered, in the order of its statement. Where
zero rows cannot be asked for, a query that wants none has no order. -/
def Plan.names (d : SqlDialect) (t : Table) (c : Option Condition) : Plan → List String
  | select s => s.columns.map Field.column ++ t.entity.table :: Condition.filterNames c ++
    if s.take = some 0 ∧ d.rejectsZeroFetch then [] else s.order.map fun k => k.field.column
  | count _ | delete _ => t.entity.table :: Condition.filterNames c
  | update _ assigned =>
    t.entity.table :: assigned.map (fun (f, _) => f.column) ++ Condition.filterNames c
  | insert values => t.entity.table :: values.map fun (f, _) => f.column

section Statements

open SqlToken

variable {d : SqlDialect} {t : Table} {c : Option Condition}

theorem names_filterPart (ps : Params) :
    names ((Condition.filterPart d c).run ps).1 = Condition.filterNames c := by
  cases c with
  | none => rfl
  | some c => exact Condition.names_sql c filterStem ps

theorem names_columnList (fields : List Field) :
    names (SqlDialect.columnList fields) = fields.map Field.column := by
  rw [SqlDialect.columnList, names_commaList, List.flatMap_map]
  exact List.flatMap_pure_eq_map Field.column fields

theorem names_orderTokens (s : SelectPlan) :
    names (d.orderTokens s) = s.order.map fun k => k.field.column := by
  have hkeys : names (commaList (s.order.map SqlDialect.sortTokens)) =
      s.order.map fun k => k.field.column := by
    rw [names_commaList, List.flatMap_map]
    exact List.flatMap_pure_eq_map (fun k => k.field.column) s.order
  unfold SqlDialect.orderTokens
  by_cases horder : s.order = []
  · rw [horder]
    split
    · contradiction
    · split <;> simp
  · rw [if_pos (by simpa using horder)]
    simp [hkeys]

theorem names_pagingTokens (s : SelectPlan) : names (d.pagingTokens s) = [] := by
  unfold SqlDialect.pagingTokens
  cases s.skip <;> cases s.take <;> cases d <;> rfl

theorem filterNames_effective (s : SelectPlan) :
    Condition.filterNames (s.effective d c) = Condition.filterNames c := by
  unfold SelectPlan.effective
  split
  · cases c with
    | none => rfl
    | some c => simp [Condition.filterNames, Condition.never, Condition.mentions, Clause.mentions]
  · rfl

theorem names_closing (s : SelectPlan) : names (s.closing d) =
    if s.take = some 0 ∧ d.rejectsZeroFetch then [] else s.order.map fun k => k.field.column := by
  unfold SelectPlan.closing
  split
  · rfl
  · rw [names_append, names_orderTokens, names_pagingTokens, List.append_nil]

/-- The names of a head and of the filter behind it. -/
theorem names_of_head {filter : Option Predicate} {ps : Params} {head : List SqlToken}
    {stmt : List SqlToken × Params}
    (h : (d.filterTokens t filter ps).map (fun (ts, ps) => (head ++ ts, ps)) = .ok stmt) :
    ∃ c, Condition.ofFilter t filter = .ok c ∧
      names stmt.1 = names head ++ Condition.filterNames c := by
  obtain ⟨⟨ts, ps'⟩, htokens, rfl⟩ := map_eq_ok_iff.1 h
  rw [Condition.filterTokens_eq] at htokens
  obtain ⟨c, hc, hpart⟩ := map_eq_ok_iff.1 htokens
  have hnames := names_filterPart (d := d) (c := c) ps
  rw [hpart] at hnames
  exact ⟨c, hc, by rw [names_append, hnames]⟩

theorem names_assignmentTokens {pairs : List (Field × Value)} {places : List Params.Slot}
    (h : places.length = pairs.length) :
    names (assignmentTokens pairs places) = pairs.map fun (f, _) => f.column := by
  have hone : ∀ pair : String × Params.Slot, names (assignment pair.1 pair.2) = [pair.1] :=
    fun _ => rfl
  rw [assignmentTokens, names_commaList, List.flatMap_map]
  simp only [hone]
  rw [← List.map_eq_flatMap, List.map_fst_zip (by simp [h])]

/-- The tokens of an accepted plan mention the names that the plan mentions. -/
theorem names_planTokens {p : Plan} {stmt : List SqlToken × Params}
    (h : d.planTokens t p = .ok stmt) :
    ∃ c, Condition.ofFilter t p.filter? = .ok c ∧ names stmt.1 = p.names d t c := by
  cases p with
  | select s =>
    have hne : s.columns ≠ [] := by
      intro hnil
      simp [SqlDialect.planTokens, SqlDialect.selectTokens, hnil] at h
    rw [SqlDialect.planTokens, selectTokens_eq hne] at h
    obtain ⟨c, hc, rfl⟩ := map_eq_ok_iff.1 h
    refine ⟨c, hc, ?_⟩
    simp [Plan.names, selectHead, names_columnList, names_filterPart, names_closing,
      filterNames_effective]
  | count filter => exact names_of_head h
  | update filter assigned =>
    have hne : ¬assigned.isEmpty = true := by
      intro hempty
      simp [SqlDialect.planTokens, SqlDialect.updateTokens, hempty] at h
    obtain ⟨places, hrun, -, hlength, -⟩ := run_assignments (d := d) assigned .empty
    rw [SqlDialect.planTokens, SqlDialect.updateTokens, if_neg hne, hrun] at h
    obtain ⟨c, hc, hnames⟩ := names_of_head h
    have hsets := names_assignmentTokens hlength
    refine ⟨c, hc, ?_⟩
    rw [hnames, names_append]
    exact congrArg (t.entity.table :: · ++ Condition.filterNames c) hsets
  | delete filter => exact names_of_head h
  | insert values =>
    have hne : ¬values.isEmpty = true := by
      intro hempty
      simp [SqlDialect.planTokens, SqlDialect.insertTokens, hempty] at h
    obtain ⟨places, hrun, -⟩ := run_bindParams (d := d) filterStem (values.map Prod.snd) .empty
    rw [SqlDialect.planTokens, SqlDialect.insertTokens, if_neg hne, hrun] at h
    cases h
    refine ⟨none, rfl, ?_⟩
    have hcolumns : (values.map Prod.fst).map Field.column = values.map fun (f, _) => f.column :=
      List.map_map
    simp [Plan.names, names_columnList, names_params, hcolumns, -List.map_map]

/-- Whatever a name contains, it is read back from its quotes, unless a closing quote follows; so
different names are different in quotes. In a statement none follows: what is read as names there
are the names that the plan mentions, each in its place, and every field that the filter mentions is
the mapped field of a name in it. -/
theorem Plan.names_compile (d : SqlDialect) :
    (∀ (name : String) (rest : List Char), rest.head? ≠ some d.quotes.2 →
      d.readIdent? ((d.quote name).toList ++ rest) = some (name, rest)) ∧
    Function.Injective d.quote ∧
    ∀ (t : Table) (p : Plan) (st : SqlStatement), t.dialect = .sql d →
      p.compile t = .ok (.sql st) → ∃ c ls, Condition.ofFilter t p.filter? = .ok c ∧
        d.lex st.text.toList = some ls ∧ Lexeme.names ls = p.names d t c ∧
        ∀ c' ∈ c, ∀ f ∈ c'.mentions, ∃ filter name, p.filter? = some filter ∧
          name ∈ filter.fields ∧ t.field? name = some f := by
  refine ⟨fun name rest h => SqlDialect.readIdent?_quote name h, SqlDialect.quote_injective,
    fun t p st hd h => ?_⟩
  simp only [compile, hd] at h
  obtain ⟨⟨ts, ps⟩, htokens, heq⟩ := map_eq_ok_iff.1 h
  cases heq
  obtain ⟨c, hc, hnames⟩ := names_planTokens htokens
  obtain ⟨_, -, hprepared⟩ := prepared_planTokens htokens
  refine ⟨c, _, hc, d.lex_spell hprepared.spaced, ?_, fun c' hc' f hf => ?_⟩
  · rw [Lexeme.names_lexemes, hnames]
  · exact Condition.exists_name_of_ofFilter hc hc' hf

theorem Plan.names_compile_pickyUpdate :
    SqlDialect.sqlite.readIdent? "\"na\"\"m\x60e] = $1\" = 1".toList =
        some ("na\"m\x60e] = $1", " = 1".toList) ∧
      ∃ st ls, pickyUpdate.compile (.people (.sql .sqlite)) = .ok (.sql st) ∧
        SqlDialect.sqlite.lex st.text.toList = some ls ∧
        Lexeme.names ls = ["people", "id", "na\"m\x60e] = $1", "age", "na\"m\x60e] = $1",
          "na\"m\x60e] = $1", "age", "na\"m\x60e] = $1", "na\"m\x60e] = $1", "age", "age"] := by
  obtain ⟨hread, -, hcompile⟩ := names_compile .sqlite
  obtain ⟨st, hst⟩ : ∃ st, pickyUpdate.compile (.people (.sql .sqlite)) = .ok (.sql st) := ⟨_, rfl⟩
  obtain ⟨c, ls, hc, hlex, hnames, -⟩ := hcompile _ pickyUpdate st rfl hst
  cases hc
  exact ⟨hread "na\"m\x60e] = $1" " = 1".toList (by decide), st, ls, hst, hlex, hnames⟩

end Statements

end Sift
