import Sift.Proofs.Sql.Lexeme

/-!
# Tokens side by side

Text that was spelled from tokens is read back as these tokens, blanks apart, if no two neighbours
run into each other: `SqlDialect.lex_spell`. Identifiers may contain anything. What may stand beside
what is decided on the tokens, `SqlToken.spaced`; that it is right for the characters that they are
spelled with is shown for each kind of token.
-/
namespace Sift

namespace SqlToken

/-- A token that ends whatever stands directly before it. -/
def isDelimiter : SqlToken → Bool
  | blank => true
  | mark m => m == "(" || m == ")" || m == "," || m == "="
  | _ => false

/-- A token that may stand directly before another one without the two being read as something
else. -/
def endsBefore : SqlToken → SqlToken → Bool
  | blank, _ | mark _, blank | mark _, number _ => true
  | mark m, _ => (mark m).isDelimiter
  | _, next => next.isDelimiter

/-- A token that a dialect has a spelling for that it can read. -/
def readable (d : SqlDialect) : SqlToken → Bool
  | blank | number _ | ident _ => true
  | word w => w.toList.head?.any (!Char.isDigit ·) && w.toList.all SqlDialect.isNameChar
  | mark m => ["(", ")", ",", "=", "<>", "<=", "<", ">=", ">", "-"].contains m
  | literal s => d.literalEscape.isNone && s.toList.all (· != '\x27')
  | param slot => slot.name != "" && slot.name.toList.all SqlDialect.isNameChar

/-- Tokens that can be told apart again when they stand before `next`, or before the end. -/
def spaced (d : SqlDialect) : List SqlToken → Option SqlToken → Bool
  | [], _ => true
  | t :: ts, next => t.readable d && (ts.head?.or next).all t.endsBefore && spaced d ts next

/-- The lexeme of a token, if it has one, given what stands for placeholders. -/
def lexeme? {π : Type} (g : Params.Slot → π) : SqlToken → Option (Lexeme π)
  | blank => none
  | word w => some (.word w)
  | mark m => some (.mark m)
  | number n => some (.number n)
  | literal s => some (.literal s)
  | ident name => some (.ident name)
  | param slot => some (.param (g slot))

/-- The lexemes of tokens, given what stands for placeholders. -/
def lexemes {π : Type} (g : Params.Slot → π) (ts : List SqlToken) : List (Lexeme π) :=
  ts.filterMap (lexeme? g)

@[simp] theorem lexemes_nil {π : Type} (g : Params.Slot → π) : lexemes g [] = [] := rfl

theorem lexemes_cons {π : Type} (g : Params.Slot → π) (t : SqlToken) (ts : List SqlToken) :
    lexemes g (t :: ts) = (t.lexeme? g).toList ++ lexemes g ts := by
  cases h : t.lexeme? g <;> simp [lexemes, h]

section Cons

variable {π : Type} (g : Params.Slot → π) (ts : List SqlToken)

@[simp] theorem lexemes_cons_blank : lexemes g (blank :: ts) = lexemes g ts := rfl

@[simp] theorem lexemes_cons_word (w : String) :
    lexemes g (word w :: ts) = .word w :: lexemes g ts := rfl

@[simp] theorem lexemes_cons_mark (m : String) :
    lexemes g (mark m :: ts) = .mark m :: lexemes g ts := rfl

@[simp] theorem lexemes_cons_number (n : Nat) :
    lexemes g (number n :: ts) = .number n :: lexemes g ts := rfl

@[simp] theorem lexemes_cons_literal (s : String) :
    lexemes g (literal s :: ts) = .literal s :: lexemes g ts := rfl

@[simp] theorem lexemes_cons_ident (name : String) :
    lexemes g (ident name :: ts) = .ident name :: lexemes g ts := rfl

@[simp] theorem lexemes_cons_param (slot : Params.Slot) :
    lexemes g (param slot :: ts) = .param (g slot) :: lexemes g ts := rfl

end Cons

@[simp] theorem lexemes_append {π : Type} (g : Params.Slot → π) (ts us : List SqlToken) :
    lexemes g (ts ++ us) = lexemes g ts ++ lexemes g us := by
  simp [lexemes]

end SqlToken

namespace SqlDialect

/-- A character that may follow a token without becoming a part of it. -/
def mayFollow (d : SqlDialect) : SqlToken → Char → Bool
  | .blank, _ => true
  | .word _, c => !isNameChar c
  | .number _, c => !c.isDigit
  | .literal _, c => c != '\x27'
  | .ident _, c => c != d.quotes.2
  | .param _, c => !d.isParamChar c
  | .mark m, c =>
    (SqlToken.mark m).isDelimiter || (c != '=' && c != '>' && c != '-')

theorem isNameChar_of_isDigit {c : Char} (h : c.isDigit = true) : isNameChar c = true := by
  simp [isNameChar, Char.isAlphanum, h]

/-- No character of a word is one that begins something else. -/
theorem ne_of_isNameChar {c e : Char} (hc : isNameChar c = true) (he : isNameChar e = false) :
    c ≠ e := by
  rintro rfl
  rw [hc] at he
  cases he

theorem isWhitespace_of_isNameChar {c : Char} (h : isNameChar c = true) :
    c.isWhitespace = false := by
  have h1 : c ≠ ' ' := ne_of_isNameChar h (by decide)
  have h2 : c ≠ '\t' := ne_of_isNameChar h (by decide)
  have h3 : c ≠ '\r' := ne_of_isNameChar h (by decide)
  have h4 : c ≠ '\n' := ne_of_isNameChar h (by decide)
  simp [Char.isWhitespace, h1, h2, h3, h4]

theorem isNameChar_openQuote (d : SqlDialect) : isNameChar d.quotes.1 = false := by
  cases d <;> decide

theorem isNameChar_paramSign (d : SqlDialect) : isNameChar d.paramSign = false := by
  cases d <;> decide

/-- What begins with a character of a word is a number or a word. -/
theorem next?_of_isNameChar (d : SqlDialect) {c : Char} (h : isNameChar c = true)
    (cs : List Char) :
    d.next? c cs =
      if c.isDigit then
        some (.number (Nat.ofDigitChars 10 (c :: cs.takeWhile Char.isDigit) 0),
          cs.dropWhile Char.isDigit)
      else
        some (.word (String.ofList (c :: cs.takeWhile isNameChar)), cs.dropWhile isNameChar) := by
  have hq : c ≠ d.quotes.1 := ne_of_isNameChar h d.isNameChar_openQuote
  have hl : c ≠ '\x27' := ne_of_isNameChar h (by decide)
  have hp : c ≠ d.paramSign := ne_of_isNameChar h d.isNameChar_paramSign
  simp [next?, hq, hl, hp, h]

/-- The longest beginning of characters of a kind, when something of another kind follows it. -/
theorem takeWhile_append_of_head {p : Char → Bool} {body rest : List Char}
    (hbody : body.all p = true) (hrest : rest.head?.all (!p ·) = true) :
    (body ++ rest).takeWhile p = body ∧ (body ++ rest).dropWhile p = rest := by
  rw [List.takeWhile_append_of_pos (by simpa using hbody),
    List.dropWhile_append_of_pos (by simpa using hbody)]
  cases rest with
  | nil => simp
  | cons c rest => simp_all

theorem readQuoted_quoteBody {close : Char} (cs rest : List Char)
    (h : rest.head?.all (· != close) = true) :
    readQuoted none close (quoteBody close cs ++ close :: rest) = some (cs, rest) := by
  induction cs with
  | nil =>
    cases rest with
    | nil => simp [readQuoted]
    | cons next rest =>
      have hn : next ≠ close := by simpa using h
      simp [readQuoted, hn]
  | cons c cs ih =>
    by_cases hc : c = close
    · subst hc
      simp [readQuoted, ih]
    · rw [quoteBody_cons, if_neg hc, List.cons_append, List.nil_append, List.cons_append,
        readQuoted_cons (by simp) hc, ih]
      rfl

section Tokens

variable {d : SqlDialect} {rest : List Char}

theorem lex_word {w : String} (hr : (SqlToken.word w).readable d = true)
    (hf : rest.head?.all (d.mayFollow (.word w)) = true) :
    d.lex (w.toList ++ rest) = (d.lex rest).map (.word w :: ·) := by
  simp only [SqlToken.readable, Bool.and_eq_true] at hr
  obtain ⟨hfirst, hall⟩ := hr
  obtain ⟨c, cs, hw⟩ : ∃ c cs, w.toList = c :: cs := by
    cases h : w.toList with
    | nil => simp [h] at hfirst
    | cons c cs => exact ⟨c, cs, rfl⟩
  rw [hw, List.head?_cons, Option.any_some] at hfirst
  rw [hw, List.all_cons, Bool.and_eq_true] at hall
  have hdigit : c.isDigit = false := by simpa using hfirst
  obtain ⟨htake, hdrop⟩ := takeWhile_append_of_head hall.2 hf
  have hnext : d.next? c (cs ++ rest) = some (.word w, rest) := by
    rw [next?_of_isNameChar d hall.1, htake, hdrop, ← hw]
    simp [hdigit]
  rw [hw, List.cons_append, lex_cons (isWhitespace_of_isNameChar hall.1) hnext]

theorem lex_number {n : Nat} (hf : rest.head?.all (d.mayFollow (.number n)) = true) :
    d.lex ((toString n).toList ++ rest) = (d.lex rest).map (.number n :: ·) := by
  have hdigits : ∀ c ∈ Nat.toDigits 10 n, c.isDigit = true := fun c hc =>
    Nat.isDigit_of_mem_toDigits (by decide) (by decide) hc
  rw [Nat.toString_eq_repr, Nat.toList_repr]
  obtain ⟨c, cs, hn⟩ : ∃ c cs, Nat.toDigits 10 n = c :: cs :=
    List.exists_cons_of_ne_nil Nat.toDigits_ne_nil
  have hc : c.isDigit = true := hdigits c (by simp [hn])
  have hcs : cs.all Char.isDigit = true := by
    simp only [List.all_eq_true]
    intro e he
    exact hdigits e (by simp [hn, he])
  obtain ⟨htake, hdrop⟩ := takeWhile_append_of_head hcs hf
  have hnext : d.next? c (cs ++ rest) = some (.number n, rest) := by
    rw [next?_of_isNameChar d (isNameChar_of_isDigit hc), htake, hdrop, ← hn,
      Nat.ofDigitChars_ten_toDigits]
    simp [hc]
  rw [hn, List.cons_append, lex_cons (isWhitespace_of_isNameChar (isNameChar_of_isDigit hc)) hnext]

theorem lex_ident {name : String} (hf : rest.head?.all (d.mayFollow (.ident name)) = true) :
    d.lex ((d.quote name).toList ++ rest) = (d.lex rest).map (.ident name :: ·) := by
  have hnext : d.next? d.quotes.1 (quoteBody d.quotes.2 name.toList ++ d.quotes.2 :: rest) =
      some (.ident name, rest) := by
    simp [next?, readQuoted_quoteBody _ _ hf]
  have hblank : d.quotes.1.isWhitespace = false := by cases d <;> decide
  simp [quote, lex_cons hblank hnext]

theorem quoteBody_of_not_mem {close : Char} {cs : List Char} (h : close ∉ cs) :
    quoteBody close cs = cs := by
  induction cs with
  | nil => rfl
  | cons c cs ih =>
    rw [List.mem_cons, not_or] at h
    rw [quoteBody_cons, if_neg (Ne.symm h.1), ih h.2]
    rfl

theorem lex_literal {s : String} (hr : (SqlToken.literal s).readable d = true)
    (hf : rest.head?.all (d.mayFollow (.literal s)) = true) :
    d.lex ('\x27' :: (s.toList ++ '\x27' :: rest)) = (d.lex rest).map (.literal s :: ·) := by
  simp only [SqlToken.readable, Bool.and_eq_true, Option.isNone_iff_eq_none] at hr
  obtain ⟨hescape, hall⟩ := hr
  have hmem : '\x27' ∉ s.toList := by
    intro hmem
    simpa using List.all_eq_true.1 hall _ hmem
  have hread := @readQuoted_quoteBody '\x27' s.toList rest hf
  rw [quoteBody_of_not_mem hmem] at hread
  have hquote : '\x27' ≠ d.quotes.1 := by cases d <;> decide
  have hnext : d.next? '\x27' (s.toList ++ '\x27' :: rest) = some (.literal s, rest) := by
    simp [next?, hquote, hescape, hread]
  exact lex_cons (by decide) hnext

/-- What a dialect writes after the sign of its placeholders. -/
theorem toList_placeholder (d : SqlDialect) (slot : Params.Slot)
    (hr : (SqlToken.param slot).readable d = true) :
    ∃ body, (d.placeholder slot).toList = d.paramSign :: body ∧ body.all d.isParamChar = true ∧
      (body.isEmpty = true → d = mySql) := by
  simp only [SqlToken.readable, Bool.and_eq_true, bne_iff_ne, ne_eq] at hr
  obtain ⟨hname, hall⟩ := hr
  have hne : slot.name.toList.isEmpty = false := by
    cases h : slot.name.toList with
    | nil => exact absurd (String.toList_eq_nil_iff.1 h) hname
    | cons c cs => rfl
  cases d with
  | postgres =>
    refine ⟨Nat.toDigits 10 slot.position, ?_, ?_, ?_⟩
    · simp [placeholder, paramSign, Nat.toString_eq_repr, Nat.toList_repr]
    · simp only [List.all_eq_true]
      exact fun c hc => Nat.isDigit_of_mem_toDigits (by decide) (by decide) hc
    · simp [Nat.toDigits_ne_nil]
  | mySql => exact ⟨[], by simp [placeholder, paramSign], rfl, fun _ => rfl⟩
  | sqlite => exact ⟨slot.name.toList, by simp [placeholder, paramSign], hall, by simp [hne]⟩
  | sqlServer => exact ⟨slot.name.toList, by simp [placeholder, paramSign], hall, by simp [hne]⟩

theorem lex_param {slot : Params.Slot} (hr : (SqlToken.param slot).readable d = true)
    (hf : rest.head?.all (d.mayFollow (.param slot)) = true) :
    d.lex ((d.placeholder slot).toList ++ rest) =
      (d.lex rest).map (.param (d.placeholder slot) :: ·) := by
  obtain ⟨body, htext, hall, hempty⟩ := d.toList_placeholder slot hr
  obtain ⟨htake, hdrop⟩ := takeWhile_append_of_head hall hf
  have hquote : d.paramSign ≠ d.quotes.1 := by cases d <;> decide
  have hlit : d.paramSign ≠ '\x27' := by cases d <;> decide
  have hbody : (body.isEmpty && decide (d ≠ mySql)) = false := by
    cases h : body.isEmpty with
    | false => rfl
    | true => simp [hempty h]
  have hnext : d.next? d.paramSign (body ++ rest) = some (.param (d.placeholder slot), rest) := by
    simp only [next?, hquote, hlit, if_false, if_true, htake, hdrop, hbody, Bool.false_eq_true]
    rw [← htext, String.ofList_toList]
  have hblank : d.paramSign.isWhitespace = false := by cases d <;> decide
  rw [htext, List.cons_append, lex_cons hblank hnext]

/-- A mark is read as far as it goes. -/
theorem readMark_append {m : String} (hr : (SqlToken.mark m).readable d = true)
    (hf : rest.head?.all (d.mayFollow (.mark m)) = true) :
    ∃ c cs, m.toList = c :: cs ∧ c ∈ ['(', ')', ',', '=', '<', '>', '-'] ∧
      readMark c (cs ++ rest) = some (m, rest) := by
  simp only [SqlToken.readable, List.contains_iff_mem, List.mem_cons, List.not_mem_nil,
    or_false] at hr
  rcases hr with rfl | rfl | rfl | rfl | rfl | rfl | rfl | rfl | rfl | rfl
  · exact ⟨'(', [], rfl, by decide, rfl⟩
  · exact ⟨')', [], rfl, by decide, rfl⟩
  · exact ⟨',', [], rfl, by decide, rfl⟩
  · exact ⟨'=', [], rfl, by decide, rfl⟩
  · exact ⟨'<', ['>'], rfl, by decide, rfl⟩
  · exact ⟨'<', ['='], rfl, by decide, rfl⟩
  · refine ⟨'<', [], rfl, by decide, ?_⟩
    cases rest with
    | nil => rfl
    | cons c rest => simp_all [mayFollow, SqlToken.isDelimiter, readMark]
  · exact ⟨'>', ['='], rfl, by decide, rfl⟩
  · refine ⟨'>', [], rfl, by decide, ?_⟩
    cases rest with
    | nil => rfl
    | cons c rest => simp_all [mayFollow, SqlToken.isDelimiter, readMark]
  · refine ⟨'-', [], rfl, by decide, ?_⟩
    cases rest with
    | nil => rfl
    | cons c rest => simp_all [mayFollow, SqlToken.isDelimiter, readMark]

/-- Nothing but a mark begins with a character of a mark. -/
theorem next?_of_mark {c : Char} (hc : c ∈ ['(', ')', ',', '=', '<', '>', '-'])
    (cs : List Char) :
    c.isWhitespace = false ∧
      d.next? c cs = (readMark c cs).map fun (m, rest) => (.mark m, rest) := by
  have hall : (['(', ')', ',', '=', '<', '>', '-'].all fun c => !c.isWhitespace && !c.isDigit &&
      !isNameChar c && c != '\x27' && c != d.quotes.1 && c != d.paramSign) = true := by
    cases d <;> rfl
  have hclass := List.all_eq_true.1 hall c hc
  simp only [Bool.and_eq_true, Bool.not_eq_true', bne_iff_ne] at hclass
  obtain ⟨⟨⟨⟨⟨hblank, hdigit⟩, hname⟩, hlit⟩, hquote⟩, hparam⟩ := hclass
  refine ⟨hblank, ?_⟩
  simp [next?, hdigit, hname, hlit, hquote, hparam]

theorem lex_mark {m : String} (hr : (SqlToken.mark m).readable d = true)
    (hf : rest.head?.all (d.mayFollow (.mark m)) = true) :
    d.lex (m.toList ++ rest) = (d.lex rest).map (.mark m :: ·) := by
  obtain ⟨c, cs, hm, hc, hread⟩ := readMark_append hr hf
  obtain ⟨hblank, hnext⟩ := next?_of_mark (d := d) hc (cs ++ rest)
  rw [hread] at hnext
  rw [hm, List.cons_append, lex_cons hblank hnext]

/-- One token, and what follows it. -/
theorem lex_tokenText {t : SqlToken} (hr : t.readable d = true)
    (hf : rest.head?.all (d.mayFollow t) = true) :
    d.lex ((d.tokenText t).toList ++ rest) =
      (d.lex rest).map ((t.lexeme? d.placeholder).toList ++ ·) := by
  cases t with
  | blank => simp [tokenText, lex_blank, SqlToken.lexeme?]
  | word w => exact lex_word hr hf
  | mark m => exact lex_mark hr hf
  | number n => exact lex_number hf
  | literal s => simpa [tokenText, SqlToken.lexeme?] using lex_literal hr hf
  | ident name => exact lex_ident hf
  | param slot => exact lex_param hr hf

end Tokens

/-- A delimiter becomes a part of nothing but a mark. -/
theorem mayFollow_of_mem {d : SqlDialect} {t : SqlToken} (ht : ∀ m, t ≠ .mark m) {c : Char}
    (hc : c ∈ [' ', '(', ')', ',', '=']) : d.mayFollow t c = true := by
  have hall : [' ', '(', ')', ',', '='].all (d.mayFollow t) = true := by
    cases t with
    | mark m => exact absurd rfl (ht m)
    | blank => rfl
    | word w => rfl
    | number n => rfl
    | literal s => rfl
    | ident name => cases d <;> rfl
    | param slot => cases d <;> rfl
  exact List.all_eq_true.1 hall c hc

theorem exists_head_of_isDelimiter (d : SqlDialect) {u : SqlToken} (h : u.isDelimiter = true) :
    ∃ c cs, (d.tokenText u).toList = c :: cs ∧ c ∈ [' ', '(', ')', ',', '='] := by
  cases u with
  | blank => exact ⟨' ', [], by simp [tokenText], by decide⟩
  | mark m =>
    simp only [SqlToken.isDelimiter, Bool.or_eq_true, beq_iff_eq] at h
    rcases h with ((rfl | rfl) | rfl) | rfl
    · exact ⟨'(', [], by simp [tokenText], by decide⟩
    · exact ⟨')', [], by simp [tokenText], by decide⟩
    · exact ⟨',', [], by simp [tokenText], by decide⟩
    · exact ⟨'=', [], by simp [tokenText], by decide⟩
  | word w => cases h
  | number n => cases h
  | literal s => cases h
  | ident name => cases h
  | param slot => cases h

/-- A number becomes a part of no mark. -/
theorem mayFollow_mark_number (d : SqlDialect) (m : String) (n : Nat) (rest : List Char) :
    ((d.tokenText (.number n)).toList ++ rest).head?.all (d.mayFollow (.mark m)) = true := by
  obtain ⟨c, cs, hn⟩ : ∃ c cs, Nat.toDigits 10 n = c :: cs :=
    List.exists_cons_of_ne_nil Nat.toDigits_ne_nil
  have hmem : c ∈ Nat.toDigits 10 n := by rw [hn]; exact List.mem_cons_self ..
  have hc : c.isDigit = true := Nat.isDigit_of_mem_toDigits (by decide) (by decide) hmem
  have h1 : c ≠ '=' := ne_of_isNameChar (isNameChar_of_isDigit hc) (by decide)
  have h2 : c ≠ '>' := ne_of_isNameChar (isNameChar_of_isDigit hc) (by decide)
  have h3 : c ≠ '-' := ne_of_isNameChar (isNameChar_of_isDigit hc) (by decide)
  simp [tokenText, Nat.toString_eq_repr, Nat.toList_repr, hn, mayFollow, h1, h2, h3]

/-- Tokens that may stand side by side do not run into each other. -/
theorem mayFollow_of_endsBefore {d : SqlDialect} {t u : SqlToken} (h : t.endsBefore u = true)
    (rest : List Char) :
    ((d.tokenText u).toList ++ rest).head?.all (d.mayFollow t) = true := by
  by_cases hm : ∃ m, t = .mark m
  · obtain ⟨m, rfl⟩ := hm
    cases hd : (SqlToken.mark m).isDelimiter with
    | true => cases (d.tokenText u).toList ++ rest <;> simp [mayFollow, hd]
    | false =>
      cases u with
      | blank => simp [tokenText, mayFollow]
      | number n => exact d.mayFollow_mark_number m n rest
      | word w => simp [SqlToken.endsBefore, hd] at h
      | mark k => simp [SqlToken.endsBefore, hd] at h
      | literal s => simp [SqlToken.endsBefore, hd] at h
      | ident name => simp [SqlToken.endsBefore, hd] at h
      | param slot => simp [SqlToken.endsBefore, hd] at h
  · have ht : ∀ m, t ≠ .mark m := fun m e => hm ⟨m, e⟩
    by_cases hb : t = .blank
    · subst hb
      cases (d.tokenText u).toList ++ rest <;> simp [mayFollow]
    · have hu : u.isDelimiter = true := by
        cases t with
        | blank => exact absurd rfl hb
        | mark m => exact absurd rfl (ht m)
        | word w => exact h
        | number n => exact h
        | literal s => exact h
        | ident name => exact h
        | param slot => exact h
      obtain ⟨c, cs, htext, hc⟩ := d.exists_head_of_isDelimiter hu
      rw [htext, List.cons_append, List.head?_cons, Option.all_some]
      exact mayFollow_of_mem ht hc

/-- A token that ends before the first of some others does not run into their text. -/
theorem head?_spell_of_endsBefore {d : SqlDialect} {t : SqlToken} {ts : List SqlToken}
    (h : (ts.head?.or none).all t.endsBefore = true) :
    (d.spell ts).toList.head?.all (d.mayFollow t) = true := by
  cases ts with
  | nil => rfl
  | cons u us =>
    rw [spell_cons, String.toList_append]
    exact mayFollow_of_endsBefore (by simpa using h) _

/-- Text that was spelled from tokens is read as these tokens. -/
theorem lex_spell {d : SqlDialect} {ts : List SqlToken} (h : SqlToken.spaced d ts none = true) :
    d.lex (d.spell ts).toList = some (SqlToken.lexemes d.placeholder ts) := by
  induction ts with
  | nil => exact d.lex_nil
  | cons t ts ih =>
    simp only [SqlToken.spaced, Bool.and_eq_true] at h
    obtain ⟨⟨hr, hnext⟩, hts⟩ := h
    have hf : (d.spell ts).toList.head?.all (d.mayFollow t) = true :=
      head?_spell_of_endsBefore hnext
    rw [spell_cons, String.toList_append, lex_tokenText hr hf, ih hts, SqlToken.lexemes_cons]
    rfl

end SqlDialect

end Sift
