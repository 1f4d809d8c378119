import Sift.Proofs.Sql.Phrase

/-!
# Conditions behind other parameters

The constants of a condition may be bound first in a statement, or behind `k` values that were bound
under other names. The condition then has the same tokens, except that its placeholders stand `k`
positions later: each leading text counts its names for itself, and positions count all parameters
together. Only Postgres writes positions. The other dialects spell both lists of tokens alike, and
there `renumber` makes one text out of the other by raising each `$n` outside of quotes.
-/
namespace Sift

/-! ## Tokens -/

namespace SqlToken

/-- A token whose parameter, if it has one, stands `k` positions later. -/
def moved (k : Nat) : SqlToken → SqlToken
  | param slot => param { slot with position := slot.position + k }
  | t => t

theorem map_moved_of_slots {k : Nat} {ts : List SqlToken} (h : slots ts = []) :
    ts.map (moved k) = ts := by
  induction ts with
  | nil => rfl
  | cons t ts ih =>
    cases t with
    | param slot => cases h
    | blank => exact congrArg (_ :: ·) (ih h)
    | word w => exact congrArg (_ :: ·) (ih h)
    | mark m => exact congrArg (_ :: ·) (ih h)
    | number n => exact congrArg (_ :: ·) (ih h)
    | literal s => exact congrArg (_ :: ·) (ih h)
    | ident name => exact congrArg (_ :: ·) (ih h)

theorem map_moved_commaList (k : Nat) (tss : List (List SqlToken)) :
    (commaList tss).map (moved k) = commaList (tss.map (List.map (moved k))) := by
  induction tss using commaList.induct with
  | case1 => rfl
  | case2 ts => rfl
  | case3 ts next rest ih =>
    rw [commaList, List.map_append, List.map_cons, List.map_cons, ih]
    rfl

theorem map_moved_parens (k : Nat) (ts : List SqlToken) :
    (parens ts).map (moved k) = parens (ts.map (moved k)) := by
  simp [parens, moved]

theorem map_moved_guardTokens (k : Nat) (f : Field) (guard : NullGuard) (core : List SqlToken) :
    (Clause.guardTokens f guard core).map (moved k) =
      Clause.guardTokens f guard (core.map (moved k)) := by
  have hnull : ∀ negated, (Clause.nullTokens f negated).map (moved k) =
      Clause.nullTokens f negated := fun negated => map_moved_of_slots (slots_nullTokens f negated)
  cases guard with
  | none => rfl
  | orNull => simp [Clause.guardTokens, hnull, moved]
  | andNotNull => simp [Clause.guardTokens, hnull, moved]

end SqlToken

/-- `qs` has the parameters `front` and then those of `ps`, and the names of `stem` go on alike. -/
structure Params.Behind (stem : String) (front : List Param) (ps qs : Params) : Prop where
  toList : qs.toList = front ++ ps.toList
  issued : qs.issued stem = ps.issued stem

/-- A part of a statement that can be put behind other parameters. -/
def Movable (stem : String) (part : StateM Params (List SqlToken)) : Prop :=
  ∀ (front : List Param) (ps qs : Params), ps.Behind stem front qs →
    (part.run qs).1 = (part.run ps).1.map (SqlToken.moved front.length) ∧
      (part.run ps).2.Behind stem front (part.run qs).2

section Movable

variable {d : SqlDialect} {stem : String}

/-- The same name is given out, at a later position. -/
theorem Params.Behind.bind {front : List Param} {ps qs : Params} (h : ps.Behind stem front qs)
    (v : Value) :
    SqlToken.param (qs.bind stem v).1 =
        (SqlToken.param (ps.bind stem v).1).moved front.length ∧
      (ps.bind stem v).2.Behind stem front (qs.bind stem v).2 := by
  have hsize : qs.entries.size = ps.entries.size + front.length := by
    have hlength := congrArg List.length h.toList
    simp only [Params.toList, Array.length_toList, List.length_append] at hlength
    omega
  have hslot : (qs.bind stem v).1 = { (ps.bind stem v).1 with
      position := (ps.bind stem v).1.position + front.length } := by
    simp only [Params.bind, h.issued, hsize, Params.Slot.mk.injEq, true_and]
    omega
  refine ⟨congrArg SqlToken.param hslot, ?_, ?_⟩
  · rw [Params.toList_bind, Params.toList_bind, h.toList, hslot, List.append_assoc]
  · rw [Params.issued_bind, Params.issued_bind, if_pos rfl, if_pos rfl, h.issued]

theorem movable_bindParams (stem : String) (vs : List Value) :
    Movable stem (bindParams stem vs) := by
  induction vs with
  | nil => exact fun front ps qs h => ⟨rfl, h⟩
  | cons v vs ih =>
    intro front ps qs h
    obtain ⟨hslot, hbound⟩ := h.bind v
    obtain ⟨hrest, hparams⟩ := ih front _ _ hbound
    have hrun : ∀ rs : Params, (bindParams stem (v :: vs)).run rs =
        (.param (rs.bind stem v).1 :: ((bindParams stem vs).run (rs.bind stem v).2).1,
          ((bindParams stem vs).run (rs.bind stem v).2).2) := fun _ => rfl
    rw [hrun, hrun]
    refine ⟨?_, hparams⟩
    rw [List.map_cons, ← hslot, ← hrest]

/-- A clause takes its tokens along. -/
theorem Clause.movable_sql (c : Clause) : Movable stem (c.sql d stem) := by
  intro front ps qs h
  cases c with
  | always truth => exact ⟨(SqlToken.map_moved_of_slots (SqlToken.slots_always truth)).symm, h⟩
  | nullTest f negated => exact ⟨(SqlToken.map_moved_of_slots (slots_nullTokens f negated)).symm, h⟩
  | compare f op v guard =>
    obtain ⟨hslot, hbound⟩ := h.bind v
    rw [run_sql_compare, run_sql_compare]
    refine ⟨?_, hbound⟩
    rw [SqlToken.map_moved_guardTokens, hslot]
    rfl
  | oneOf f values negated guard =>
    obtain ⟨htokens, hbound⟩ := movable_bindParams stem values front ps qs h
    have hword := SqlToken.map_moved_of_slots (k := front.length) (slots_negatable negated "IN")
    rw [run_sql_oneOf, run_sql_oneOf]
    refine ⟨?_, hbound⟩
    rw [SqlToken.map_moved_guardTokens, htokens]
    simp only [List.map_append, List.map_cons, hword, SqlToken.map_moved_parens,
      SqlToken.map_moved_commaList, List.map_map]
    rfl
  | like f pattern test negated guard =>
    obtain ⟨hslot, hbound⟩ := h.bind (.text (test.wildcards (d.escapeLike pattern)))
    have hword := SqlToken.map_moved_of_slots (k := front.length) (slots_negatable negated "LIKE")
    have hescape := SqlToken.map_moved_of_slots (k := front.length) (slots_escapeClause (d := d))
    rw [run_sql_like, run_sql_like]
    refine ⟨?_, hbound⟩
    simp only [SqlToken.map_moved_guardTokens, hslot, List.map_append, List.map_cons, hword,
      hescape]
    rfl

/-- A condition takes its tokens along, from left to right. -/
theorem Condition.movable_sql (c : Condition) : Movable stem (c.sql d stem) := by
  induction c with
  | clause c => exact c.movable_sql
  | logical op left right ihl ihr =>
    intro front ps qs h
    obtain ⟨hl, hbound⟩ := ihl front ps qs h
    obtain ⟨hr, hparams⟩ := ihr front _ _ hbound
    rw [run_sql_logical, run_sql_logical]
    refine ⟨?_, hparams⟩
    simp only [List.map_append, List.map_cons, SqlToken.map_moved_parens, hl, hr]
    rfl

end Movable

/-! ## Text -/

/-- Postgres text in which each placeholder `$n` outside of quotes has become `$(n + k)`. `closing?`
is the quote that the text has to come to before it is outside; one that is doubled closes and opens
again. -/
def renumberFrom (k : Nat) (closing? : Option Char) : List Char → List Char
  | [] => []
  | c :: cs =>
    if closing?.isSome then c :: renumberFrom k (if closing? = some c then none else closing?) cs
    else if c = '"' ∨ c = '\x27' then c :: renumberFrom k (some c) cs
    else if c = '$' ∧ cs.head?.any Char.isDigit then
      c :: (toString (Nat.ofDigitChars 10 (cs.takeWhile Char.isDigit) 0 + k)).toList ++
        renumberFrom k none (cs.dropWhile Char.isDigit)
    else c :: renumberFrom k none cs
termination_by cs => cs.length
decreasing_by
  all_goals
    have hrest := (List.dropWhile_sublist (l := cs) Char.isDigit).length_le
    simp only [List.length_cons]
    omega

/-- The same for a text as a whole. -/
def renumber (k : Nat) (text : String) : String := String.ofList (renumberFrom k none text.toList)

/-- Text as a dialect writes it when `k` other parameters are bound first. -/
def SqlDialect.movedText (d : SqlDialect) (k : Nat) (text : String) : String :=
  match d with
  | postgres => renumber k text
  | mySql | sqlite | sqlServer => text

section Renumbering

variable {k : Nat} {rest : List Char}

/-- What is quoted is left as it is. -/
theorem renumberFrom_quoteBody {quote : Char} (hquote : quote = '"' ∨ quote = '\x27')
    (cs rest : List Char) :
    renumberFrom k (some quote) (SqlDialect.quoteBody quote cs ++ quote :: rest) =
      SqlDialect.quoteBody quote cs ++ quote :: renumberFrom k none rest := by
  induction cs with
  | nil => simp [renumberFrom]
  | cons c cs ih =>
    by_cases hc : c = quote
    · subst hc
      simp [renumberFrom, ih, hquote]
    · have hne : ¬quote = c := fun h => hc h.symm
      simp [renumberFrom, ih, hc, hne]

theorem renumberFrom_append_of_plain {cs : List Char}
    (h : cs.all (fun c => c != '"' && c != '\x27' && c != '$') = true) :
    renumberFrom k none (cs ++ rest) = cs ++ renumberFrom k none rest := by
  induction cs with
  | nil => rfl
  | cons c cs ih =>
    simp only [List.all_cons, Bool.and_eq_true, bne_iff_ne, ne_eq] at h
    obtain ⟨⟨⟨hdouble, hsingle⟩, hsign⟩, hrest⟩ := h
    have hih := ih (by simpa using hrest)
    rw [List.cons_append, renumberFrom]
    simp [hdouble, hsingle, hsign, hih]

theorem renumberFrom_param (n : Nat) (h : rest.head?.all (!Char.isDigit ·) = true) :
    renumberFrom k none ('$' :: ((toString n).toList ++ rest)) =
      '$' :: ((toString (n + k)).toList ++ renumberFrom k none rest) := by
  have hdigits : (Nat.toDigits 10 n).all Char.isDigit = true := by
    simp only [List.all_eq_true]
    exact fun c hc => Nat.isDigit_of_mem_toDigits (by decide) (by decide) hc
  obtain ⟨htake, hdrop⟩ := SqlDialect.takeWhile_append_of_head hdigits h
  obtain ⟨c, cs, hn⟩ : ∃ c cs, Nat.toDigits 10 n = c :: cs :=
    List.exists_cons_of_ne_nil Nat.toDigits_ne_nil
  have hfirst : c.isDigit = true := by
    rw [hn, List.all_cons, Bool.and_eq_true] at hdigits
    exact hdigits.1
  have hhead : (Nat.toDigits 10 n ++ rest).head?.any Char.isDigit = true := by
    rw [hn]
    exact hfirst
  have htext : (toString n).toList = Nat.toDigits 10 n := by
    rw [Nat.toString_eq_repr, Nat.toList_repr]
  rw [htext, renumberFrom, if_neg (by simp), if_neg (by decide), if_pos ⟨rfl, hhead⟩, htake, hdrop,
    Nat.ofDigitChars_ten_toDigits]
  rfl

/-- No character of a word is a quote or the sign of a placeholder. -/
theorem plain_of_isNameChar {cs : List Char} (h : cs.all SqlDialect.isNameChar = true) :
    cs.all (fun c => c != '"' && c != '\x27' && c != '$') = true := by
  rw [List.all_eq_true] at h ⊢
  intro c hc
  have hdouble : c ≠ '"' := SqlDialect.ne_of_isNameChar (h c hc) (by decide)
  have hsingle : c ≠ '\x27' := SqlDialect.ne_of_isNameChar (h c hc) (by decide)
  have hsign : c ≠ '$' := SqlDialect.ne_of_isNameChar (h c hc) (by decide)
  simp [hdouble, hsingle, hsign]

/-- One token, and what follows it. -/
theorem renumberFrom_tokenText {t : SqlToken} (hr : t.readable .postgres = true)
    (hf : rest.head?.all (SqlDialect.postgres.mayFollow t) = true) :
    renumberFrom k none ((SqlDialect.postgres.tokenText t).toList ++ rest) =
      (SqlDialect.postgres.tokenText (t.moved k)).toList ++ renumberFrom k none rest := by
  cases t with
  | blank =>
    have hblank : (SqlDialect.postgres.tokenText .blank).toList = [' '] := by
      simp [SqlDialect.tokenText]
    have hmoved : SqlToken.blank.moved k = .blank := rfl
    rw [hmoved, hblank]
    exact renumberFrom_append_of_plain rfl
  | word w =>
    simp only [SqlToken.readable, Bool.and_eq_true] at hr
    exact renumberFrom_append_of_plain (plain_of_isNameChar hr.2)
  | mark m =>
    simp only [SqlToken.readable, List.contains_iff_mem, List.mem_cons, List.not_mem_nil,
      or_false] at hr
    apply renumberFrom_append_of_plain
    rcases hr with rfl | rfl | rfl | rfl | rfl | rfl | rfl | rfl | rfl | rfl <;> rfl
  | number n =>
    have hdigits : (toString n).toList.all SqlDialect.isNameChar = true := by
      rw [Nat.toString_eq_repr, Nat.toList_repr, List.all_eq_true]
      exact fun c hc => SqlDialect.isNameChar_of_isDigit
        (Nat.isDigit_of_mem_toDigits (by decide) (by decide) hc)
    exact renumberFrom_append_of_plain (plain_of_isNameChar hdigits)
  | literal s =>
    simp only [SqlToken.readable, Bool.and_eq_true] at hr
    have hmem : '\x27' ∉ s.toList := by
      intro hmem
      simpa using List.all_eq_true.1 hr.2 _ hmem
    have hbody := renumberFrom_quoteBody (k := k) (.inr rfl) s.toList rest
    rw [SqlDialect.quoteBody_of_not_mem hmem] at hbody
    simp [SqlDialect.tokenText, SqlToken.moved, renumberFrom, hbody]
  | ident name =>
    have hbody := renumberFrom_quoteBody (k := k) (.inl rfl) name.toList rest
    simp [SqlDialect.tokenText, SqlDialect.quote, SqlDialect.quotes, SqlToken.moved, renumberFrom,
      hbody]
  | param slot =>
    have hparam := renumberFrom_param (k := k) slot.position hf
    simpa [SqlDialect.tokenText, SqlDialect.placeholder, SqlToken.moved] using hparam

theorem renumber_spell {ts : List SqlToken} (h : SqlToken.spaced .postgres ts none = true) :
    renumber k (SqlDialect.postgres.spell ts) =
      SqlDialect.postgres.spell (ts.map (SqlToken.moved k)) := by
  suffices hchars : renumberFrom k none (SqlDialect.postgres.spell ts).toList =
      (SqlDialect.postgres.spell (ts.map (SqlToken.moved k))).toList by
    rw [renumber, hchars, String.ofList_toList]
  induction ts with
  | nil => simp [renumberFrom]
  | cons t ts ih =>
    simp only [SqlToken.spaced, Bool.and_eq_true] at h
    obtain ⟨⟨hr, hnext⟩, hts⟩ := h
    have hf := SqlDialect.head?_spell_of_endsBefore (d := .postgres) hnext
    rw [SqlDialect.spell_cons, String.toList_append, renumberFrom_tokenText hr hf, ih hts,
      List.map_cons, SqlDialect.spell_cons, String.toList_append]

example : renumber 2 "\"a $1\" = $1 AND \"b\" = $12" = "\"a $1\" = $3 AND \"b\" = $14" := by
  cbv

/-- Tokens with later positions are spelled as the dialect writes the text behind other
parameters. -/
theorem SqlDialect.spell_map_moved {d : SqlDialect} {ts : List SqlToken}
    (h : SqlToken.spaced d ts none = true) (k : Nat) :
    d.spell (ts.map (SqlToken.moved k)) = d.movedText k (d.spell ts) := by
  have hsame : (∀ t : SqlToken, d.tokenText (t.moved k) = d.tokenText t) →
      d.spell (ts.map (SqlToken.moved k)) = d.spell ts := by
    intro htoken
    clear h
    induction ts with
    | nil => rfl
    | cons t ts ih => rw [List.map_cons, spell_cons, spell_cons, htoken, ih]
  cases d with
  | postgres => exact (renumber_spell h).symm
  | mySql => exact hsame fun t => by cases t <;> rfl
  | sqlite => exact hsame fun t => by cases t <;> rfl
  | sqlServer => exact hsame fun t => by cases t <;> rfl

end Renumbering

end Sift
