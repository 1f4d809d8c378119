import Sift.Proofs.Lowering
import Sift.Proofs.Sql.Phrase

/-!
# Conditions read back from their text

`SqlExpr` is what a store takes the text of a condition for: comparisons joined by `AND` and `OR`,
where `AND` binds tighter, each of the two groups to the left, and parentheses override both. The
word `NOT` belongs to the test that it stands in. `SqlExpr.read` is the reader, on lexemes whose
placeholders have been replaced by what they stand for.

The tree that is read from the tokens of a condition is the condition itself with its guards spelled
out, `Condition.written`. Guards have no parentheses of their own; they are understood because a
clause is an operand only inside parentheses.
-/
namespace Sift

/-- The text of a condition, understood. -/
inductive SqlExpr where
  | always (truth : Bool)
  | nullTest (column : String) (negated : Bool)
  | compare (column : String) (op : Comparator) (value : Value)
  | oneOf (column : String) (values : List Value) (negated : Bool)
  | like (column : String) (pattern : Value) (escape : Option String) (negated : Bool)
  | logical (op : Connective) (left right : SqlExpr)

/-- What reading from the front gives, with what is left. -/
abbrev LexemeReader (α : Type) : Type := List (Lexeme Value) → Option (α × List (Lexeme Value))

/-- Items with commas between them, up to the closing parenthesis. -/
def Lexeme.readList {α : Type} (item : Lexeme Value → Option α) : LexemeReader (List α)
  | l :: .mark m :: rest =>
    if m = ")" then (item l).map fun a => ([a], rest)
    else if m = "," then do
      let a ← item l
      let (as, rest) ← readList item rest
      some (a :: as, rest)
    else none
  | _ => none

/-- What a placeholder stands for. -/
def Lexeme.value? : Lexeme Value → Option Value
  | param v => some v
  | _ => none

/-- The operator of a mark. -/
def Comparator.ofMark? : String → Option Comparator
  | "=" => some eq
  | "<>" => some ne
  | ">" => some gt
  | ">=" => some ge
  | "<" => some lt
  | "<=" => some le
  | _ => none

namespace SqlExpr

/-- A declared escape character, if there is one. -/
def readEscape : List (Lexeme Value) → Option String × List (Lexeme Value)
  | .word "ESCAPE" :: .literal s :: rest => (some s, rest)
  | rest => (none, rest)

/-- The list of a membership test. -/
def readMembership (column : String) (negated : Bool) : LexemeReader SqlExpr
  | .mark "(" :: rest =>
    (Lexeme.readList Lexeme.value? rest).map fun (vs, rest) => (.oneOf column vs negated, rest)
  | _ => none

/-- The pattern of a text match. -/
def readLike (column : String) (negated : Bool) : LexemeReader SqlExpr
  | .param v :: rest =>
    let (escape, rest) := readEscape rest
    some (.like column v escape negated, rest)
  | _ => none

/-- A single test. -/
def readTest : LexemeReader SqlExpr
  | .number m :: .mark "=" :: .number n :: rest => some (.always (m == n), rest)
  | .ident c :: .word "IS" :: .word "NULL" :: rest => some (.nullTest c false, rest)
  | .ident c :: .word "IS" :: .word "NOT" :: .word "NULL" :: rest => some (.nullTest c true, rest)
  | .ident c :: .word "IN" :: rest => readMembership c false rest
  | .ident c :: .word "NOT" :: .word "IN" :: rest => readMembership c true rest
  | .ident c :: .word "LIKE" :: rest => readLike c false rest
  | .ident c :: .word "NOT" :: .word "LIKE" :: rest => readLike c true rest
  | .ident c :: .mark m :: .param v :: rest =>
    (Comparator.ofMark? m).map fun op => (.compare c op v, rest)
  | _ => none

mutual

/-- Conjunctions joined by `OR`. The number bounds how deep operands may be nested. -/
def readOr : Nat → LexemeReader SqlExpr
  | 0, _ => none
  | n + 1, ts => do
    let (e, rest) ← readAnd n ts
    moreOr n e rest

/-- What is joined to a disjunction that has been read so far. -/
def moreOr : Nat → SqlExpr → LexemeReader SqlExpr
  | n + 1, left, .word "OR" :: ts => do
    let (right, rest) ← readAnd n ts
    moreOr n (.logical .or left right) rest
  | _, left, ts => some (left, ts)

/-- Operands joined by `AND`. -/
def readAnd : Nat → LexemeReader SqlExpr
  | 0, _ => none
  | n + 1, ts => do
    let (e, rest) ← readOperand n ts
    moreAnd n e rest

/-- What is joined to a conjunction that has been read so far. -/
def moreAnd : Nat → SqlExpr → LexemeReader SqlExpr
  | n + 1, left, .word "AND" :: ts => do
    let (right, rest) ← readOperand n ts
    moreAnd n (.logical .and left right) rest
  | _, left, ts => some (left, ts)

/-- A single test, or a condition in parentheses. -/
def readOperand : Nat → LexemeReader SqlExpr
  | 0, _ => none
  | n + 1, .mark "(" :: ts => do
    let (e, rest) ← readOr n ts
    match rest with
    | .mark ")" :: rest => some (e, rest)
    | _ => none
  | _ + 1, ts => readTest ts

end

/-- A condition at the front. Every nesting takes three steps. -/
def read : LexemeReader SqlExpr := fun ts => readOr (4 * ts.length + 4) ts

end SqlExpr

/-! ## What a condition should be taken for -/

/-- A core behind the test that its guard asks for. -/
def NullGuard.written (f : Field) (core : SqlExpr) : NullGuard → SqlExpr
  | none => core
  | orNull => .logical .or (.nullTest f.column false) core
  | andNotNull => .logical .and (.nullTest f.column true) core

/-- A clause with its guard spelled out and its constants as they are bound. -/
def Clause.written (d : SqlDialect) : Clause → SqlExpr
  | always truth => .always truth
  | nullTest f negated => .nullTest f.column negated
  | compare f op v guard => guard.written f (.compare f.column op v)
  | oneOf f values negated guard => guard.written f (.oneOf f.column values negated)
  | like f pattern test negated guard =>
    guard.written f (.like f.column (.text (test.wildcards (d.escapeLike pattern)))
      (if d.declaresEscape then some "\\" else Option.none) negated)

/-- A condition with its guards spelled out. -/
def Condition.written (d : SqlDialect) : Condition → SqlExpr
  | clause c => c.written d
  | logical op left right => .logical op (left.written d) (right.written d)

/-! ## Reading phrases of the grammar -/

namespace SqlExpr

/-- What is left does not begin with one of some words. -/
def clear (ws : List String) : List (Lexeme Value) → Bool
  | .word w :: _ => !ws.contains w
  | _ => true

/-- A reader takes some lexemes for a tree, wherever they stand, unless they are followed by a word
that belongs to them. -/
def Reads (reader : Nat → LexemeReader SqlExpr) (ws : List String) (depth : Nat)
    (ts : List (Lexeme Value)) (e : SqlExpr) : Prop :=
  ∀ n, depth ≤ n → ∀ rest, clear ws rest = true → reader n (ts ++ rest) = some (e, rest)

variable {ts us : List (Lexeme Value)} {e f : SqlExpr} {k l : Nat}

theorem Reads.mono {reader : Nat → LexemeReader SqlExpr} {ws : List String}
    (h : Reads reader ws k ts e) (hkl : k ≤ l) : Reads reader ws l ts e :=
  fun n hn rest hrest => h n (Nat.le_trans hkl hn) rest hrest

theorem moreAnd_of_clear {rest : List (Lexeme Value)} (h : clear ["AND"] rest = true) (n : Nat) :
    moreAnd n e rest = some (e, rest) := by
  unfold moreAnd
  split
  · simp [clear] at h
  · rfl

theorem moreOr_of_clear {rest : List (Lexeme Value)} (h : clear ["OR"] rest = true) (n : Nat) :
    moreOr n e rest = some (e, rest) := by
  unfold moreOr
  split
  · simp [clear] at h
  · rfl

theorem clear_of_subset {ws vs : List String} (h : ∀ w ∈ vs, w ∈ ws) {rest : List (Lexeme Value)}
    (hrest : clear ws rest = true) : clear vs rest = true := by
  cases rest with
  | nil => rfl
  | cons t rest =>
    cases t with
    | word w =>
      simp only [clear, Bool.not_eq_true', List.contains_eq_mem, decide_eq_false_iff_not] at hrest ⊢
      exact fun hw => hrest (h w hw)
    | mark m => rfl
    | number n => rfl
    | literal s => rfl
    | ident name => rfl
    | param v => rfl

/-- A single operand is a conjunction. -/
theorem Reads.toAnd (h : Reads readOperand ["ESCAPE"] k ts e) :
    Reads readAnd ["ESCAPE", "AND"] (k + 1) ts e := by
  intro n hn rest hrest
  obtain ⟨n, rfl⟩ : ∃ m, n = m + 1 := ⟨n - 1, by omega⟩
  rw [readAnd, h n (by omega) rest (clear_of_subset (by simp) hrest)]
  exact moreAnd_of_clear (clear_of_subset (by simp) hrest) n

/-- A single conjunction is a disjunction. -/
theorem Reads.toOr (h : Reads readAnd ["ESCAPE", "AND"] k ts e) :
    Reads readOr ["ESCAPE", "AND", "OR"] (k + 1) ts e := by
  intro n hn rest hrest
  obtain ⟨n, rfl⟩ : ∃ m, n = m + 1 := ⟨n - 1, by omega⟩
  rw [readOr, h n (by omega) rest (clear_of_subset (by simp) hrest)]
  exact moreOr_of_clear (clear_of_subset (by simp) hrest) n

theorem Reads.and (hts : Reads readOperand ["ESCAPE"] k ts e)
    (hus : Reads readOperand ["ESCAPE"] k us f) :
    Reads readAnd ["ESCAPE", "AND"] (k + 2) (ts ++ .word "AND" :: us) (.logical .and e f) := by
  intro n hn rest hrest
  obtain ⟨n, rfl⟩ : ∃ m, n = m + 2 := ⟨n - 2, by omega⟩
  rw [List.append_assoc, List.cons_append, readAnd, hts (n + 1) (by omega) _ (by simp [clear])]
  simp only [Option.bind_eq_bind, Option.bind_some, moreAnd]
  rw [hus n (by omega) rest (clear_of_subset (by simp) hrest)]
  exact moreAnd_of_clear (clear_of_subset (by simp) hrest) n

theorem Reads.or (hts : Reads readAnd ["ESCAPE", "AND"] k ts e)
    (hus : Reads readAnd ["ESCAPE", "AND"] k us f) :
    Reads readOr ["ESCAPE", "AND", "OR"] (k + 2) (ts ++ .word "OR" :: us)
      (.logical .or e f) := by
  intro n hn rest hrest
  obtain ⟨n, rfl⟩ : ∃ m, n = m + 2 := ⟨n - 2, by omega⟩
  rw [List.append_assoc, List.cons_append, readOr, hts (n + 1) (by omega) _ (by simp [clear])]
  simp only [Option.bind_eq_bind, Option.bind_some, moreOr]
  rw [hus n (by omega) rest (clear_of_subset (by simp) hrest)]
  exact moreOr_of_clear (clear_of_subset (by simp) hrest) n

/-- Anything is an operand inside parentheses. -/
theorem Reads.parens (h : Reads readOr ["ESCAPE", "AND", "OR"] k ts e) :
    Reads readOperand ["ESCAPE"] (k + 1) (.mark "(" :: (ts ++ [.mark ")"])) e := by
  intro n hn rest hrest
  obtain ⟨n, rfl⟩ : ∃ m, n = m + 1 := ⟨n - 1, by omega⟩
  rw [List.cons_append, List.append_assoc, readOperand, h n (by omega) _ rfl]
  rfl

/-- A test is an operand; it does not begin with a mark. -/
theorem Reads.ofTest {t : Lexeme Value} (ht : ∀ m, t ≠ .mark m)
    (h : ∀ rest, clear ["ESCAPE"] rest = true → readTest (t :: ts ++ rest) = some (e, rest)) :
    Reads readOperand ["ESCAPE"] 1 (t :: ts) e := by
  intro n hn rest hrest
  obtain ⟨n, rfl⟩ : ∃ m, n = m + 1 := ⟨n - 1, by omega⟩
  rw [← h rest hrest]
  cases t with
  | mark m => exact absurd rfl (ht m)
  | word w => rfl
  | number n => rfl
  | literal s => rfl
  | ident name => rfl
  | param v => rfl

end SqlExpr

/-! ## Conditions are read as they are written -/

namespace Condition

/-- How deep the operands of a condition are nested. -/
def depth : Condition → Nat
  | clause _ => 4
  | logical _ left right => max left.depth right.depth + 4

end Condition

section Conditions

open SqlExpr

variable {d : SqlDialect} {stem : String} {g : Params.Slot → Value}

theorem reads_nullTokens (g : Params.Slot → Value) (f : Field) (negated : Bool) :
    Reads readOperand ["ESCAPE"] 1 (SqlToken.lexemes g (Clause.nullTokens f negated))
      (.nullTest f.column negated) := by
  cases negated with
  | false => exact Reads.ofTest (by simp) fun rest _ => rfl
  | true => exact Reads.ofTest (by simp) fun rest _ => rfl

theorem reads_always (g : Params.Slot → Value) (truth : Bool) :
    Reads readOperand ["ESCAPE"] 1 (SqlToken.lexemes g (SqlToken.always truth))
      (.always truth) := by
  cases truth with
  | false => exact Reads.ofTest (by simp) fun rest _ => rfl
  | true => exact Reads.ofTest (by simp) fun rest _ => rfl

/-- A guard needs no parentheses where a whole condition is read. -/
theorem reads_guardTokens (f : Field) (guard : NullGuard) {core : List SqlToken} {e : SqlExpr}
    (h : Reads readOperand ["ESCAPE"] 1 (SqlToken.lexemes g core) e) :
    Reads readOr ["ESCAPE", "AND", "OR"] 4 (SqlToken.lexemes g (Clause.guardTokens f guard core))
      (guard.written f e) := by
  cases guard with
  | none => exact h.toAnd.toOr.mono (by omega)
  | orNull =>
    have hor := (reads_nullTokens g f false).toAnd.or h.toAnd
    simpa [Clause.guardTokens, NullGuard.written] using hor
  | andNotNull =>
    have hand := ((reads_nullTokens g f true).and h).toOr
    simpa [Clause.guardTokens, NullGuard.written] using hand

/-- A list of single lexemes is read up to its closing parenthesis. -/
theorem readList_commaList {α β : Type} {item : Lexeme Value → Option β} {token : α → SqlToken}
    {value : α → β} (h : ∀ a, ∃ l, (token a).lexeme? g = some l ∧ item l = some (value a))
    {as : List α} (hne : as ≠ []) (rest : List (Lexeme Value)) :
    Lexeme.readList item
        (SqlToken.lexemes g (SqlToken.commaList (as.map fun a => [token a])) ++ .mark ")" :: rest) =
      some (as.map value, rest) := by
  induction as with
  | nil => exact absurd rfl hne
  | cons a as ih =>
    obtain ⟨l, hl, hitem⟩ := h a
    have hcons : ∀ ts, SqlToken.lexemes g (token a :: ts) = l :: SqlToken.lexemes g ts := by
      intro ts
      rw [SqlToken.lexemes_cons, hl]
      rfl
    cases as with
    | nil =>
      change Lexeme.readList item (SqlToken.lexemes g [token a] ++ .mark ")" :: rest) = _
      rw [hcons, List.cons_append, SqlToken.lexemes_nil, List.nil_append, Lexeme.readList,
        if_pos rfl, hitem]
      rfl
    | cons next as =>
      have hread := ih (List.cons_ne_nil next as)
      change Lexeme.readList item (SqlToken.lexemes g (token a :: .mark "," :: .blank ::
        SqlToken.commaList ((next :: as).map fun a => [token a])) ++ .mark ")" :: rest) = _
      rw [hcons, SqlToken.lexemes_cons_mark, SqlToken.lexemes_cons_blank, List.cons_append,
        List.cons_append, Lexeme.readList, if_neg (by decide), if_pos rfl, hitem, hread]
      rfl

/-- A list of placeholders is read as what they stand for. -/
theorem readList_params {slots : List Params.Slot} (hne : slots ≠ []) (rest : List (Lexeme Value)) :
    Lexeme.readList Lexeme.value?
        (SqlToken.lexemes g
          (SqlToken.commaList ((slots.map SqlToken.param).map fun t => [t])) ++
          .mark ")" :: rest) =
      some (slots.map g, rest) := by
  have hvalue : ∀ slot : Params.Slot, ∃ l, (SqlToken.param slot).lexeme? g = some l ∧
      l.value? = some (g slot) := fun slot => ⟨.param (g slot), rfl, rfl⟩
  rw [List.map_map]
  exact readList_commaList hvalue hne rest

theorem reads_compare (g : Params.Slot → Value) (f : Field) (op : Comparator)
    (slot : Params.Slot) :
    Reads readOperand ["ESCAPE"] 1
      (SqlToken.lexemes g [.ident f.column, .blank, .mark op.sqlMark, .blank, .param slot])
      (.compare f.column op (g slot)) := by
  apply Reads.ofTest (by simp)
  intro rest _
  cases op <;> rfl

theorem reads_oneOf (g : Params.Slot → Value) (f : Field) (negated : Bool)
    {slots : List Params.Slot} (hne : slots ≠ []) :
    Reads readOperand ["ESCAPE"] 1
      (SqlToken.lexemes g (.ident f.column :: .blank :: Clause.negatable negated "IN" ++ .blank ::
        SqlToken.parens (SqlToken.commaList ((slots.map SqlToken.param).map fun t => [t]))))
      (.oneOf f.column (slots.map g) negated) := by
  apply Reads.ofTest (by simp)
  intro rest _
  have hmembership : ∀ negated, readMembership f.column negated
      (SqlToken.lexemes g (SqlToken.parens
        (SqlToken.commaList ((slots.map SqlToken.param).map fun t => [t]))) ++ rest) =
        some (.oneOf f.column (slots.map g) negated, rest) := by
    intro negated
    have hread := readList_params (g := g) hne rest
    simp only [SqlToken.parens, SqlToken.lexemes_cons_mark, SqlToken.lexemes_append,
      SqlToken.lexemes_nil, List.cons_append, List.append_assoc, List.nil_append, readMembership]
    rw [hread]
    rfl
  cases negated with
  | false => exact hmembership false
  | true => exact hmembership true

/-- The pattern of a dialect that declares its escape character is read with it; elsewhere there
must not be one. -/
theorem readLike_escapeClause (g : Params.Slot → Value) (column : String) (negated : Bool)
    (slot : Params.Slot) {rest : List (Lexeme Value)} (hrest : clear ["ESCAPE"] rest = true) :
    readLike column negated (SqlToken.lexemes g (.param slot :: d.escapeClause) ++ rest) =
      some (.like column (g slot) (if d.declaresEscape then some "\\" else none) negated,
        rest) := by
  have hnone : readEscape rest = (none, rest) := by
    unfold readEscape
    split
    · simp [clear] at hrest
    · rfl
  cases hd : d.declaresEscape with
  | true =>
    rw [SqlDialect.escapeClause, hd]
    rfl
  | false =>
    rw [SqlDialect.escapeClause, hd]
    simp only [SqlToken.lexemes_cons_param, SqlToken.lexemes_nil, List.cons_append,
      List.nil_append, Bool.false_eq_true, if_false, readLike, hnone]

theorem reads_like (g : Params.Slot → Value) (f : Field) (negated : Bool) (slot : Params.Slot) :
    Reads readOperand ["ESCAPE"] 1
      (SqlToken.lexemes g (.ident f.column :: .blank :: Clause.negatable negated "LIKE" ++
        .blank :: .param slot :: d.escapeClause))
      (.like f.column (g slot) (if d.declaresEscape then some "\\" else none) negated) := by
  apply Reads.ofTest (by simp)
  intro rest hrest
  have hlike := fun negated => readLike_escapeClause (d := d) g f.column negated slot hrest
  cases negated with
  | false => exact hlike false
  | true => exact hlike true

/-- A clause is read as it is written if its placeholders stand for its constants. -/
theorem Clause.reads {c : Clause} (hc : c.Sound) (ps : Params)
    (hg : (SqlToken.slots ((c.sql d stem).run ps).1).map g = c.constants d) :
    Reads readOr ["ESCAPE", "AND", "OR"] 4 (SqlToken.lexemes g ((c.sql d stem).run ps).1)
      (c.written d) := by
  cases c with
  | always truth => exact (reads_always g truth).toAnd.toOr.mono (by omega)
  | nullTest f negated => exact (reads_nullTokens g f negated).toAnd.toOr.mono (by omega)
  | compare f op v guard =>
    rw [run_sql_compare] at hg ⊢
    have hv : g (ps.bind stem v).1 = v := by simpa [constants] using hg
    have hcore := reads_compare g f op (ps.bind stem v).1
    rw [hv] at hcore
    exact reads_guardTokens f guard hcore
  | oneOf f values negated guard =>
    obtain ⟨slots, hrun, -, hlength, -⟩ := run_bindParams (d := d) stem values ps
    rw [run_sql_oneOf, hrun] at hg ⊢
    have hvalues : slots.map g = values := by
      simpa [slots_paramList, -List.map_map, constants] using hg
    have hne : slots ≠ [] := by
      intro h
      rw [h, List.length_nil] at hlength
      exact hc.1 (List.length_eq_zero_iff.1 hlength.symm)
    have hcore := reads_oneOf g f negated hne
    rw [hvalues] at hcore
    exact reads_guardTokens f guard hcore
  | like f pattern test negated guard =>
    generalize hbound : ps.bind stem (.text (test.wildcards (d.escapeLike pattern))) = bound
    rw [run_sql_like, hbound] at hg ⊢
    have hv : g bound.1 = .text (test.wildcards (d.escapeLike pattern)) := by
      simpa [constants] using hg
    have hcore := reads_like (d := d) g f negated bound.1
    rw [hv] at hcore
    exact reads_guardTokens f guard hcore

/-- A condition is read as it is written, whatever is joined to it. -/
theorem Condition.reads (hstem : isStem stem = true) {c : Condition} (hc : c.Sound) (ps : Params)
    (hg : (SqlToken.slots ((c.sql d stem).run ps).1).map g = c.constants d) :
    Reads readOr ["ESCAPE", "AND", "OR"] c.depth
      (SqlToken.lexemes g ((c.sql d stem).run ps).1) (c.written d) := by
  induction c generalizing ps with
  | clause c => exact Clause.reads hc ps hg
  | logical op left right ihl ihr =>
    rw [run_sql_logical] at hg ⊢
    have hsplit : (SqlToken.slots ((left.sql d stem).run ps).1).map g ++
        (SqlToken.slots ((right.sql d stem).run ((left.sql d stem).run ps).2).1).map g =
          left.constants d ++ right.constants d := by
      simpa [constants] using hg
    have hlength : ((SqlToken.slots ((left.sql d stem).run ps).1).map g).length =
        (left.constants d).length := by
      rw [List.length_map, (Condition.binds hstem left).length_slots]
    obtain ⟨hgl, hgr⟩ := List.append_inj hsplit hlength
    -- both operands stand in parentheses, so the guards of clauses stay inside
    have hleft := ((ihl hc.1 ps hgl).mono (Nat.le_max_left _ right.depth)).parens
    have hright := ((ihr hc.2 _ hgr).mono (Nat.le_max_right left.depth _)).parens
    cases op with
    | and =>
      have hand := (hleft.and hright).toOr
      simpa [SqlToken.parens, Connective.sqlWord, written, depth] using hand
    | or =>
      have hor := hleft.toAnd.or hright.toAnd
      simpa [SqlToken.parens, Connective.sqlWord, written, depth] using hor

/-- The lexemes of a condition are enough for the depth of its operands. -/
theorem Condition.depth_le (g : Params.Slot → Value) (c : Condition) (ps : Params) :
    c.depth ≤ 4 * (SqlToken.lexemes g ((c.sql d stem).run ps).1).length + 4 := by
  induction c generalizing ps with
  | clause c => exact Nat.le_add_left 4 _
  | logical op left right ihl ihr =>
    have hl := ihl ps
    have hr := ihr ((left.sql d stem).run ps).2
    rw [run_sql_logical]
    simp only [SqlToken.parens, SqlToken.lexemes_append, SqlToken.lexemes_cons_mark,
      SqlToken.lexemes_cons_blank, SqlToken.lexemes_cons_word, List.length_append, List.length_cons,
      depth]
    omega

/-- A condition at the front is read as it is written. -/
theorem Condition.read_lexemes (hstem : isStem stem = true) {c : Condition} (hc : c.Sound)
    (ps : Params) (hg : (SqlToken.slots ((c.sql d stem).run ps).1).map g = c.constants d)
    {rest : List (Lexeme Value)} (hrest : clear ["ESCAPE", "AND", "OR"] rest = true) :
    SqlExpr.read (SqlToken.lexemes g ((c.sql d stem).run ps).1 ++ rest) =
      some (c.written d, rest) := by
  have hdepth : c.depth ≤ 4 * (SqlToken.lexemes g ((c.sql d stem).run ps).1).length + 4 :=
    Condition.depth_le g c ps
  exact Condition.reads hstem hc ps hg _ (by rw [List.length_append]; omega) rest hrest

-- `AND` binds tighter than `OR`.
example : SqlExpr.read [.ident "a", .word "IS", .word "NULL", .word "OR", .ident "b", .word "IS",
    .word "NULL", .word "AND", .number 1, .mark "=", .number 0] =
      some (.logical .or (.nullTest "a" false) (.logical .and (.nullTest "b" false)
        (.always false)), []) := rfl

end Conditions

end Sift
