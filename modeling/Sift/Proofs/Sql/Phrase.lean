import Sift.Plan
import Sift.Proofs.Binding
import Sift.Proofs.Outcome
import Sift.Proofs.Sql.Spacing

/-!
# The tokens of statements

Two facts about the tokens of a statement, from the smallest parts up. Its neighbours never run into
each other, so its text is read back as these tokens; and it mentions its parameters in the order in
which it binds them.

A `Phrase` is a list of tokens that may stand before any delimiter. Statements are made from phrases
with blanks, commas and parentheses.
-/
namespace Sift

namespace SqlToken

variable {d : SqlDialect} {t : SqlToken} {ts us : List SqlToken}

/-- The parameter that a token mentions. -/
def slot? : SqlToken → Option Params.Slot
  | param slot => some slot
  | _ => none

/-- The parameters that tokens mention, in reading order. -/
def slots (ts : List SqlToken) : List Params.Slot := ts.filterMap slot?

@[simp] theorem slots_nil : slots [] = [] := rfl

@[simp] theorem slots_append (ts us : List SqlToken) : slots (ts ++ us) = slots ts ++ slots us := by
  simp [slots]

@[simp] theorem slots_cons_param (slot : Params.Slot) (ts : List SqlToken) :
    slots (param slot :: ts) = slot :: slots ts := rfl

@[simp] theorem slots_cons_blank (ts : List SqlToken) : slots (blank :: ts) = slots ts := rfl

@[simp] theorem slots_cons_word (w : String) (ts : List SqlToken) :
    slots (word w :: ts) = slots ts := rfl

@[simp] theorem slots_cons_mark (m : String) (ts : List SqlToken) :
    slots (mark m :: ts) = slots ts := rfl

@[simp] theorem slots_cons_number (n : Nat) (ts : List SqlToken) :
    slots (number n :: ts) = slots ts := rfl

@[simp] theorem slots_cons_literal (s : String) (ts : List SqlToken) :
    slots (literal s :: ts) = slots ts := rfl

@[simp] theorem slots_cons_ident (name : String) (ts : List SqlToken) :
    slots (ident name :: ts) = slots ts := rfl

@[simp] theorem slots_words (ws : List String) : slots (words ws) = [] := by
  induction ws using words.induct with
  | case1 => rfl
  | case2 w => rfl
  | case3 w next rest ih => simpa [words] using ih

@[simp] theorem slots_parens (ts : List SqlToken) : slots (parens ts) = slots ts := by
  simp [parens]

@[simp] theorem slots_always (truth : Bool) : slots (always truth) = [] := by
  cases truth <;> rfl

theorem slots_commaList (tss : List (List SqlToken)) :
    slots (commaList tss) = tss.flatMap slots := by
  induction tss using commaList.induct with
  | case1 => rfl
  | case2 ts => simp
  | case3 ts next rest ih => simp [commaList, ih]

/-! ## Phrases -/

theorem spaced_append (next : Option SqlToken) :
    spaced d (ts ++ us) next = (spaced d ts (us.head?.or next) && spaced d us next) := by
  induction ts with
  | nil => simp [spaced]
  | cons t ts ih =>
    simp only [List.cons_append, spaced, List.head?_append, ih, Option.or_assoc, Bool.and_assoc]

/-- Tokens that may stand before any delimiter, and at the end. -/
def Phrase (d : SqlDialect) (ts : List SqlToken) : Prop :=
  ∀ next : Option SqlToken, next.all isDelimiter = true → spaced d ts next = true

theorem Phrase.spaced_none (h : Phrase d ts) : spaced d ts none = true := h none rfl

theorem endsBefore_blank (t : SqlToken) : t.endsBefore blank = true := by
  cases t <;> rfl

theorem endsBefore_of_isDelimiter (ht : ∀ m, t = mark m → t.isDelimiter = true) {u : SqlToken}
    (hu : u.isDelimiter = true) : t.endsBefore u = true := by
  cases t with
  | blank => rfl
  | mark m =>
    have hm := ht m rfl
    cases u <;> first | rfl | exact hm
  | word w => exact hu
  | number n => exact hu
  | literal s => exact hu
  | ident name => exact hu
  | param slot => exact hu

/-- A delimiter may stand anywhere. -/
theorem spaced_cons_of_isDelimiter (ht : t.isDelimiter = true) (next : Option SqlToken) :
    spaced d (t :: ts) next = spaced d ts next := by
  have hends : ∀ u : SqlToken, t.endsBefore u = true := by
    intro u
    cases t with
    | blank => rfl
    | mark m => cases u <;> first | rfl | exact ht
    | word w => cases ht
    | number n => cases ht
    | literal s => cases ht
    | ident name => cases ht
    | param slot => cases ht
  have hreadable : t.readable d = true := by
    cases t with
    | blank => rfl
    | mark m =>
      simp only [isDelimiter, Bool.or_eq_true, beq_iff_eq] at ht
      rcases ht with ((rfl | rfl) | rfl) | rfl <;> rfl
    | word w => cases ht
    | number n => cases ht
    | literal s => cases ht
    | ident name => cases ht
    | param slot => cases ht
  rw [spaced, hreadable]
  cases ts.head?.or next <;> simp [hends]

theorem phrase_nil : Phrase d [] := fun _ _ => rfl

/-- A token alone, if it is not a mark that might go on. -/
theorem phrase_singleton (hr : t.readable d = true) (ht : ∀ m, t = mark m → t.isDelimiter = true) :
    Phrase d [t] := by
  intro next hnext
  cases next with
  | none => simp [spaced, hr]
  | some u =>
    have hu : u.isDelimiter = true := by simpa using hnext
    simp [spaced, hr, endsBefore_of_isDelimiter ht hu]

theorem Phrase.append_blank (hts : Phrase d ts) (hus : Phrase d us) :
    Phrase d (ts ++ blank :: us) := by
  intro next hnext
  rw [spaced_append, hts _ rfl, spaced_cons_of_isDelimiter rfl, hus next hnext]
  rfl

/-- Anything readable may stand before a blank. -/
theorem Phrase.cons_blank (hr : t.readable d = true) (hus : Phrase d us) :
    Phrase d (t :: blank :: us) := by
  intro next hnext
  rw [spaced, spaced_cons_of_isDelimiter rfl, hus next hnext, hr]
  simp [endsBefore_blank]

theorem Phrase.parens (h : Phrase d ts) : Phrase d (parens ts) := by
  intro next hnext
  have hclose : Phrase d [mark ")"] := phrase_singleton rfl fun _ _ => rfl
  rw [SqlToken.parens, spaced_cons_of_isDelimiter rfl, spaced_append, h _ rfl, hclose next hnext]
  rfl

theorem Phrase.commaList {tss : List (List SqlToken)} (h : ∀ ts ∈ tss, Phrase d ts) :
    Phrase d (commaList tss) := by
  induction tss using commaList.induct with
  | case1 => exact phrase_nil
  | case2 ts => exact h ts (List.mem_singleton_self ts)
  | case3 ts next rest ih =>
    have hrest := ih fun us hus => h us (List.mem_cons_of_mem ts hus)
    have hcomma : Phrase d (mark "," :: blank :: SqlToken.commaList (next :: rest)) :=
      hrest.cons_blank rfl
    intro following hfollowing
    rw [SqlToken.commaList, spaced_append, hcomma following hfollowing,
      h ts (List.mem_cons_self ..) _ rfl]
    rfl

theorem phrase_words {ws : List String} (h : ws.all fun w => (word w).readable d = true) :
    Phrase d (words ws) := by
  induction ws using words.induct with
  | case1 => exact phrase_nil
  | case2 w => exact phrase_singleton (by simpa using h) (by simp)
  | case3 w next rest ih =>
    rw [List.all_cons, Bool.and_eq_true] at h
    exact (ih h.2).cons_blank (by simpa using h.1)

/-- Tokens that may be put behind a phrase: none, or a phrase behind a blank. -/
structure Tail (d : SqlDialect) (ts : List SqlToken) : Prop where
  phrase : Phrase d ts
  begins : ∀ t, ts.head? = some t → t = blank

theorem tail_nil : Tail d [] := ⟨phrase_nil, by simp⟩

theorem Phrase.tail (h : Phrase d ts) : Tail d (blank :: ts) := by
  refine ⟨fun next hnext => ?_, by simp⟩
  rw [spaced_cons_of_isDelimiter rfl]
  exact h next hnext

theorem Phrase.append_tail (hts : Phrase d ts) (hus : Tail d us) : Phrase d (ts ++ us) := by
  intro next hnext
  have hhead : (us.head?.or next).all isDelimiter = true := by
    cases hu : us.head? with
    | none => simpa using hnext
    | some u =>
      obtain rfl := hus.begins u hu
      rfl
  rw [spaced_append, hts _ hhead, hus.phrase next hnext]
  rfl

theorem Tail.append (hts : Tail d ts) (hus : Tail d us) : Tail d (ts ++ us) := by
  refine ⟨hts.phrase.append_tail hus, fun t ht => ?_⟩
  cases ts with
  | nil => exact hus.begins t ht
  | cons u ts => exact hts.begins t ht

end SqlToken

/-! ## Conditions -/

/-- The constants that a clause binds, as they are bound. -/
def Clause.constants (d : SqlDialect) : Clause → List Value
  | always _ | nullTest .. => []
  | compare _ _ v _ => [v]
  | oneOf _ values _ _ => values
  | like _ pattern test _ _ => [.text (test.wildcards (d.escapeLike pattern))]

/-- The constants that a condition binds, from left to right. -/
def Condition.constants (d : SqlDialect) : Condition → List Value
  | clause c => c.constants d
  | logical _ left right => left.constants d ++ right.constants d

/-- A leading text under which parameters have names that can be read. -/
def isStem (stem : String) : Bool := stem != "" && stem.toList.all SqlDialect.isNameChar

/-- A part of a statement binds some values, in the order in which it mentions them, and is a
phrase. -/
structure Binds (d : SqlDialect) (stem : String) (vs : List Value)
    (part : StateM Params (List SqlToken)) : Prop where
  params : ∀ ps, (part.run ps).2 = ps.bindAll stem vs
  slots : ∀ ps, (part.run ps).2.slots = ps.slots ++ SqlToken.slots (part.run ps).1
  phrase : ∀ ps, SqlToken.Phrase d (part.run ps).1

/-! ## The tokens of conditions -/

section Tokens

variable (d : SqlDialect) (stem : String) (ps : Params)

theorem Clause.run_sql_compare (f : Field) (op : Comparator) (v : Value) (guard : NullGuard) :
    ((compare f op v guard).sql d stem).run ps =
      (guardTokens f guard
        [.ident f.column, .blank, .mark op.sqlMark, .blank, .param (ps.bind stem v).1],
        (ps.bind stem v).2) := rfl

theorem Clause.run_sql_oneOf (f : Field) (values : List Value) (negated : Bool)
    (guard : NullGuard) :
    ((oneOf f values negated guard).sql d stem).run ps =
      (guardTokens f guard (.ident f.column :: .blank :: negatable negated "IN" ++ .blank ::
        SqlToken.parens (SqlToken.commaList
          (((bindParams stem values).run ps).1.map fun t => [t]))),
        ((bindParams stem values).run ps).2) := rfl

theorem Clause.run_sql_like (f : Field) (pattern : String) (test : TextTest) (negated : Bool)
    (guard : NullGuard) :
    ((like f pattern test negated guard).sql d stem).run ps =
      let bound := ps.bind stem (.text (test.wildcards (d.escapeLike pattern)))
      (guardTokens f guard (.ident f.column :: .blank :: negatable negated "LIKE" ++ .blank ::
        .param bound.1 :: d.escapeClause), bound.2) := rfl

theorem Condition.run_sql_logical (op : Connective) (left right : Condition) :
    ((logical op left right).sql d stem).run ps =
      let l := (left.sql d stem).run ps
      let r := (right.sql d stem).run l.2
      (SqlToken.parens l.1 ++ .blank :: .word op.sqlWord :: .blank :: SqlToken.parens r.1,
        r.2) := rfl

end Tokens

section Binding

variable {d : SqlDialect} {stem : String}

/-- There are as many placeholders as values. -/
theorem Binds.length_slots {vs : List Value} {part : StateM Params (List SqlToken)}
    (h : Binds d stem vs part) (ps : Params) :
    (SqlToken.slots (part.run ps).1).length = vs.length := by
  have hslots := congrArg List.length (h.slots ps)
  rw [h.params, List.length_append, Params.length_slots, Params.length_slots,
    Params.values_bindAll, List.length_append] at hslots
  omega

theorem readable_bind (hstem : isStem stem = true) (v : Value) (ps : Params) :
    (SqlToken.param (ps.bind stem v).1).readable d = true := by
  simp only [isStem, Bool.and_eq_true, bne_iff_ne, ne_eq] at hstem
  obtain ⟨hne, hall⟩ := hstem
  have hdigits : ∀ c ∈ Nat.toDigits 10 (ps.issued stem + 1), SqlDialect.isNameChar c = true :=
    fun c hc => SqlDialect.isNameChar_of_isDigit
      (Nat.isDigit_of_mem_toDigits (by decide) (by decide) hc)
  simp only [SqlToken.readable, Params.name_bind, Bool.and_eq_true, bne_iff_ne, ne_eq,
    String.append_eq_empty_iff, hne, false_and, not_false_eq_true, true_and,
    String.toList_append, List.all_append, hall, Nat.toString_eq_repr, Nat.toList_repr,
    List.all_eq_true]
  exact hdigits

theorem run_bindParams (stem : String) (vs : List Value) (ps : Params) :
    ∃ slots, (bindParams stem vs).run ps = (slots.map .param, ps.bindAll stem vs) ∧
      (ps.bindAll stem vs).slots = ps.slots ++ slots ∧ slots.length = vs.length ∧
      (isStem stem = true → ∀ slot ∈ slots, (SqlToken.param slot).readable d = true) := by
  induction vs generalizing ps with
  | nil => exact ⟨[], rfl, by simp, rfl, by simp⟩
  | cons v vs ih =>
    obtain ⟨slots, hrun, hslots, hlength, hreadable⟩ := ih (ps.bind stem v).2
    refine ⟨(ps.bind stem v).1 :: slots, ?_, ?_, by simp [hlength], ?_⟩
    · change (SqlToken.param (ps.bind stem v).1 :: ((bindParams stem vs).run (ps.bind stem v).2).1,
        ((bindParams stem vs).run (ps.bind stem v).2).2) = _
      rw [hrun]
      rfl
    · rw [Params.bindAll_cons, hslots, Params.slots_bind, List.append_assoc]
      rfl
    · intro hstem slot hslot
      rcases List.mem_cons.1 hslot with rfl | hslot
      · exact readable_bind hstem v ps
      · exact hreadable hstem slot hslot

theorem phrase_nullTokens (f : Field) (negated : Bool) :
    SqlToken.Phrase d (Clause.nullTokens f negated) := by
  refine SqlToken.Phrase.cons_blank rfl (SqlToken.phrase_words ?_)
  cases negated <;> rfl

@[simp] theorem slots_nullTokens (f : Field) (negated : Bool) :
    SqlToken.slots (Clause.nullTokens f negated) = [] := by
  simp [Clause.nullTokens]

theorem phrase_guardTokens (f : Field) (guard : NullGuard) {core : List SqlToken}
    (h : SqlToken.Phrase d core) : SqlToken.Phrase d (Clause.guardTokens f guard core) := by
  cases guard with
  | none => exact h
  | orNull => exact (phrase_nullTokens f false).append_blank (h.cons_blank rfl)
  | andNotNull => exact (phrase_nullTokens f true).append_blank (h.cons_blank rfl)

@[simp] theorem slots_guardTokens (f : Field) (guard : NullGuard) (core : List SqlToken) :
    SqlToken.slots (Clause.guardTokens f guard core) = SqlToken.slots core := by
  cases guard <;> simp [Clause.guardTokens]

theorem phrase_negatable (negated : Bool) {w : String}
    (hw : (SqlToken.word w).readable d = true) :
    SqlToken.Phrase d (Clause.negatable negated w) := by
  apply SqlToken.phrase_words
  cases negated with
  | false => simp [hw]
  | true =>
    have hnot : (SqlToken.word "NOT").readable d = true := rfl
    simp [hw, hnot]

@[simp] theorem slots_negatable (negated : Bool) (w : String) :
    SqlToken.slots (Clause.negatable negated w) = [] := by
  simp [Clause.negatable]

theorem phrase_escapeClause {t : SqlToken} (ht : SqlToken.Phrase d [t]) :
    SqlToken.Phrase d (t :: d.escapeClause) := by
  cases hd : d.declaresEscape with
  | false => simpa [SqlDialect.escapeClause, hd] using ht
  | true =>
    have hliteral : SqlToken.Phrase d [.literal "\\"] := by
      apply SqlToken.phrase_singleton _ (by simp)
      cases d <;> first | rfl | cases hd
    have hescape : SqlToken.Phrase d [.word "ESCAPE", .blank, .literal "\\"] :=
      hliteral.cons_blank rfl
    rw [SqlDialect.escapeClause, hd]
    exact ht.append_blank hescape

@[simp] theorem slots_escapeClause : SqlToken.slots d.escapeClause = [] := by
  cases d <;> rfl

theorem phrase_always (truth : Bool) : SqlToken.Phrase d (SqlToken.always truth) := by
  have hnumber : ∀ n, SqlToken.Phrase d [.number n] := fun n =>
    SqlToken.phrase_singleton rfl (by simp)
  intro next hnext
  rw [SqlToken.always, SqlToken.spaced, SqlToken.spaced_cons_of_isDelimiter rfl,
    hnumber _ next hnext]
  rfl

theorem readable_sqlMark (op : Comparator) : (SqlToken.mark op.sqlMark).readable d = true := by
  cases op <;> rfl

theorem phrase_param (hstem : isStem stem = true) (v : Value) (ps : Params) :
    SqlToken.Phrase d [.param (ps.bind stem v).1] :=
  SqlToken.phrase_singleton (readable_bind hstem v ps) (by simp)

/-- Parameters in parentheses, with commas between them. -/
theorem phrase_paramList {slots : List Params.Slot}
    (h : ∀ slot ∈ slots, (SqlToken.param slot).readable d = true) :
    SqlToken.Phrase d
      (SqlToken.parens (SqlToken.commaList ((slots.map SqlToken.param).map fun t => [t]))) := by
  apply SqlToken.Phrase.parens
  apply SqlToken.Phrase.commaList
  simp only [List.map_map, List.mem_map, Function.comp_apply]
  rintro _ ⟨slot, hslot, rfl⟩
  exact SqlToken.phrase_singleton (h slot hslot) (by simp)

theorem slots_paramList (slots : List Params.Slot) :
    SqlToken.slots (SqlToken.commaList ((slots.map SqlToken.param).map fun t => [t])) = slots := by
  rw [SqlToken.slots_commaList]
  induction slots with
  | nil => rfl
  | cons slot rest ih => simpa using ih

/-- A clause binds its constants under any leading text. -/
theorem Clause.params_sql (c : Clause) (ps : Params) :
    ((c.sql d stem).run ps).2 = ps.bindAll stem (c.constants d) := by
  cases c with
  | always truth => rfl
  | nullTest f negated => rfl
  | compare f op v guard => rfl
  | oneOf f values negated guard =>
    obtain ⟨slots, hrun, -⟩ := run_bindParams (d := d) stem values ps
    rw [run_sql_oneOf, hrun]
    rfl
  | like f pattern test negated guard => rfl

/-- A condition binds its constants from left to right, under any leading text. -/
theorem Condition.params_sql (c : Condition) (ps : Params) :
    ((c.sql d stem).run ps).2 = ps.bindAll stem (c.constants d) := by
  induction c generalizing ps with
  | clause c => exact c.params_sql ps
  | logical op left right ihl ihr =>
    rw [run_sql_logical, constants, Params.bindAll_append, ← ihl, ← ihr]

/-- A clause binds its constants. -/
theorem Clause.binds (hstem : isStem stem = true) (c : Clause) :
    Binds d stem (c.constants d) (c.sql d stem) := by
  cases c with
  | always truth =>
    refine ⟨fun ps => rfl, fun ps => ?_, fun ps => phrase_always truth⟩
    change ps.slots = ps.slots ++ SqlToken.slots (SqlToken.always truth)
    simp
  | nullTest f negated =>
    refine ⟨fun ps => rfl, fun ps => ?_, fun ps => phrase_nullTokens f negated⟩
    change ps.slots = ps.slots ++ SqlToken.slots (Clause.nullTokens f negated)
    simp
  | compare f op v guard =>
    refine ⟨fun ps => rfl, fun ps => ?_, fun ps => phrase_guardTokens f guard ?_⟩
    · rw [run_sql_compare]
      simp [Params.slots_bind]
    · exact ((phrase_param hstem v ps).cons_blank (readable_sqlMark op)).cons_blank rfl
  | oneOf f values negated guard =>
    refine ⟨Clause.params_sql _, fun ps => ?_, fun ps => ?_⟩
    · obtain ⟨slots, hrun, hslots, -⟩ := run_bindParams (d := d) stem values ps
      rw [run_sql_oneOf, hrun, hslots]
      simp [slots_paramList, -List.map_map]
    · obtain ⟨slots, hrun, -, -, hreadable⟩ := run_bindParams (d := d) stem values ps
      rw [run_sql_oneOf, hrun]
      apply phrase_guardTokens
      apply SqlToken.Phrase.append_blank _ (phrase_paramList (hreadable hstem))
      exact (phrase_negatable negated rfl).cons_blank rfl
  | like f pattern test negated guard =>
    refine ⟨fun ps => rfl, fun ps => ?_, fun ps => phrase_guardTokens f guard ?_⟩
    · rw [run_sql_like]
      simp [Params.slots_bind]
    · apply SqlToken.Phrase.append_blank
      · exact (phrase_negatable negated rfl).cons_blank rfl
      · exact phrase_escapeClause
          (phrase_param hstem (.text (test.wildcards (d.escapeLike pattern))) ps)

/-- A condition binds its constants from left to right. -/
theorem Condition.binds (hstem : isStem stem = true) (c : Condition) :
    Binds d stem (c.constants d) (c.sql d stem) := by
  induction c with
  | clause c => exact Clause.binds hstem c
  | logical op left right ihl ihr =>
    refine ⟨Condition.params_sql _, fun ps => ?_, fun ps => ?_⟩
    · rw [run_sql_logical]
      simp only [SqlToken.slots_append, SqlToken.slots_parens, SqlToken.slots_cons_blank,
        SqlToken.slots_cons_word, ihr.slots, ihl.slots, List.append_assoc]
    · rw [run_sql_logical]
      apply (ihl.phrase ps).parens.append_blank
      apply (ihr.phrase _).parens.cons_blank
      cases op <;> rfl

end Binding

end Sift
