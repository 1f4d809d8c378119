import Sift.Proofs.Sql.Command

/-!
# Filters, and what closes a statement

Behind its head a statement has a filter, and a query an order and paging. `FilterPart` says what is
needed of a filter: that it binds its constants in order, that it can be taken apart again, and that
it is read as its condition whatever closes the statement. `Closing` says what is needed of the
rest: that it is not taken for a part of the filter.

A filter that no row passes is the filter of a condition that no row meets, `Condition.never`.
-/
namespace Sift

open SqlToken SqlCommand

/-! ## Filters -/

/-- Lower a filter, if there is one. -/
def Condition.ofFilter (t : Table) : Option Predicate → Except Error (Option Condition)
  | none => .ok none
  | some p => (Condition.ofPredicate t p).map some

/-- The condition that no row meets, beside the one that is there. -/
def Condition.never : Option Condition → Condition
  | none => .clause (.always false)
  | some c => .logical .and c (.clause (.always false))

/-- A part of a statement that binds some values and is taken for a filter, whatever closes the
statement behind it. -/
structure FilterPart (d : SqlDialect) (vs : List Value) (e : Option SqlExpr)
    (part : StateM Params (List SqlToken)) : Prop where
  binds : Binds d filterStem vs part
  tail : ∀ ps, Tail d (part.run ps).1
  ends : ∀ g ps rest, Lexeme.endsList rest = true →
    Lexeme.endsList (lexemes g (part.run ps).1 ++ rest) = true
  reads : ∀ g ps, (slots (part.run ps).1).map g = vs → ∀ rest,
    SqlExpr.clear filterWords rest = true →
      readFilter (lexemes g (part.run ps).1 ++ rest) = some (e, rest)

namespace Condition

/-- The tokens of a filter behind its word. -/
def filterPart (d : SqlDialect) : Option Condition → StateM Params (List SqlToken)
  | none => pure []
  | some c => do
    let ts ← c.sql d filterStem
    pure (SqlDialect.whereWord ++ ts)

variable {d : SqlDialect} {t : Table}

theorem filterTokens_eq (filter : Option Predicate) (ps : Params) :
    d.filterTokens t filter ps = (ofFilter t filter).map fun c => (filterPart d c).run ps := by
  cases filter with
  | none => rfl
  | some p =>
    simp only [SqlDialect.filterTokens, SqlDialect.whereTokens, ofFilter]
    cases ofPredicate t p <;> rfl

/-- A filter that no row passes is the filter of a condition that no row meets. -/
theorem neverTokens_eq (filter : Option Predicate) (ps : Params) :
    d.neverTokens t filter ps =
      (ofFilter t filter).map fun c => (filterPart d (some (never c))).run ps := by
  cases filter with
  | none => rfl
  | some p =>
    simp only [SqlDialect.neverTokens, SqlDialect.whereTokens, ofFilter]
    cases ofPredicate t p <;> rfl

theorem isStem_filterStem : isStem filterStem = true := by decide

theorem isStem_assignmentStem : isStem assignmentStem = true := by decide

/-- The condition of a filter is sound. -/
theorem sound_of_ofFilter {filter : Option Predicate} {c : Option Condition}
    (h : ofFilter t filter = .ok c) : ∀ c' ∈ c, c'.Sound := by
  intro c' hc'
  cases filter with
  | none =>
    cases h
    cases hc'
  | some p =>
    obtain ⟨c'', hc'', rfl⟩ := map_eq_ok_iff.1 h
    cases hc'
    exact sound_of_ofPredicate hc''

theorem isFilter_none : FilterPart d [] none (filterPart d none) := by
  refine ⟨⟨fun ps => rfl, fun ps => ?_, fun ps => phrase_nil⟩, fun ps => tail_nil,
    fun g ps rest hrest => hrest, fun g ps _ rest hrest => readFilter_of_clear hrest⟩
  change ps.slots = ps.slots ++ slots []
  simp

theorem isFilter_some {c : Condition} (hc : c.Sound) :
    FilterPart d (c.constants d) (some (c.written d)) (filterPart d (some c)) := by
  have hrun : ∀ ps, (filterPart d (some c)).run ps =
      (SqlDialect.whereWord ++ ((c.sql d filterStem).run ps).1,
        ((c.sql d filterStem).run ps).2) := fun ps => rfl
  have hbinds := Condition.binds (d := d) isStem_filterStem c
  have htail : ∀ ps, Tail d ((filterPart d (some c)).run ps).1 := by
    intro ps
    rw [hrun]
    exact ((hbinds.phrase ps).cons_blank (by rfl)).tail
  refine ⟨⟨fun ps => ?_, fun ps => ?_, fun ps => (htail ps).phrase⟩, htail,
    fun g ps rest _ => rfl, fun g ps hg rest hrest => ?_⟩
  · rw [hrun, hbinds.params]
  · rw [hrun, hbinds.slots]
    rfl
  · have hread := Condition.read_lexemes isStem_filterStem hc ps hg
      (SqlExpr.clear_of_subset (by simp [filterWords]) hrest)
    exact readFilter_where hread

theorem isFilter {c : Option Condition} (hc : ∀ c' ∈ c, c'.Sound) :
    FilterPart d ((c.map (constants d)).getD []) (c.map (written d)) (filterPart d c) := by
  cases c with
  | none => exact isFilter_none
  | some c => exact isFilter_some (hc c rfl)

end Condition

/-! ## Order and paging -/

/-- What may close a statement: it has no parameters, and does not go on with the filter before. -/
structure Closing (d : SqlDialect) (ts : List SqlToken) : Prop where
  tail : Tail d ts
  slots : slots ts = []
  clear : ∀ (g : Params.Slot → Value) rest, SqlExpr.clear filterWords rest = true →
    SqlExpr.clear filterWords (lexemes g ts ++ rest) = true
  ends : ∀ (g : Params.Slot → Value) rest, Lexeme.endsList rest = true →
    Lexeme.endsList (lexemes g ts ++ rest) = true

section Closing

variable {d : SqlDialect} {ts us : List SqlToken}

theorem closing_nil : Closing d [] :=
  ⟨tail_nil, rfl, fun _ _ hrest => hrest, fun _ _ hrest => hrest⟩

/-- A phrase that begins with a word of its own. -/
theorem closing_of_word {w : String} (hw : w ∉ filterWords) (h : Phrase d (.word w :: ts))
    (hts : slots ts = []) : Closing d (.blank :: .word w :: ts) := by
  refine ⟨h.tail, hts, fun g rest _ => ?_, fun g rest _ => rfl⟩
  change (!filterWords.contains w) = true
  simpa using hw

theorem Closing.append (hts : Closing d ts) (hus : Closing d us) : Closing d (ts ++ us) := by
  refine ⟨hts.tail.append hus.tail, ?_, fun g rest hrest => ?_, fun g rest hrest => ?_⟩
  · rw [slots_append, hts.slots, hus.slots]
    rfl
  · rw [lexemes_append, List.append_assoc]
    exact hts.clear g _ (hus.clear g rest hrest)
  · rw [lexemes_append, List.append_assoc]
    exact hts.ends g _ (hus.ends g rest hrest)

theorem lexemes_congr (g g' : Params.Slot → Value) (h : slots ts = []) :
    lexemes g ts = lexemes g' ts := by
  induction ts with
  | nil => rfl
  | cons t ts ih =>
    cases t with
    | param slot => cases h
    | blank => exact ih h
    | word w => exact congrArg (_ :: ·) (ih h)
    | mark m => exact congrArg (_ :: ·) (ih h)
    | number n => exact congrArg (_ :: ·) (ih h)
    | literal s => exact congrArg (_ :: ·) (ih h)
    | ident name => exact congrArg (_ :: ·) (ih h)

theorem phrase_ident (name : String) : Phrase d [.ident name] :=
  phrase_singleton rfl (by simp)

theorem phrase_number (n : Nat) : Phrase d [.number n] :=
  phrase_singleton rfl (by simp)

theorem phrase_sortTokens (k : SortKey) : Phrase d (SqlDialect.sortTokens k) := by
  refine Phrase.cons_blank rfl (phrase_singleton ?_ (by simp))
  cases k.ascending <;> rfl

theorem closing_orderTokens (s : SelectPlan) : Closing d (d.orderTokens s) := by
  have horder : ∀ us, Phrase d us → slots us = [] →
      Closing d (.blank :: words ["ORDER", "BY"] ++ [.blank] ++ us) := by
    intro us hus hslots
    exact closing_of_word (by decide) ((hus.cons_blank rfl).cons_blank rfl) hslots
  unfold SqlDialect.orderTokens
  split
  · apply horder
    · apply Phrase.commaList
      simp only [List.mem_map]
      rintro _ ⟨k, -, rfl⟩
      exact phrase_sortTokens k
    · rw [slots_commaList, List.flatMap_map]
      simp [SqlDialect.sortTokens]
  · split
    · apply horder
      · exact (phrase_words rfl).parens
      · simp
    · exact closing_nil

theorem phrase_wordNumber {w : String} (hw : (word w).readable d = true) (n : Nat) :
    Phrase d [.word w, .blank, .number n] :=
  (phrase_number n).cons_blank hw

theorem phrase_limit (n : Nat) : Phrase d [.word "LIMIT", .blank, .number n] :=
  phrase_wordNumber rfl n

theorem phrase_offset (n : Nat) : Phrase d [.word "OFFSET", .blank, .number n] :=
  phrase_wordNumber rfl n

/-- The largest limit that is none, where an offset needs a limit. -/
theorem phrase_limitMinusOne :
    Phrase d [.word "LIMIT", .blank, .mark "-", .number 1] := by
  intro next hnext
  have hnumber : spaced d [.number 1] next = true := phrase_number 1 next hnext
  rw [spaced, spaced_cons_of_isDelimiter rfl, spaced, hnumber]
  rfl

theorem closing_paging? {skip take : Option UInt64} (h : d.paging? skip take = some ts) :
    Closing d (.blank :: ts) := by
  unfold SqlDialect.paging? at h
  split at h
  · cases h
  · have hrows : Phrase .sqlServer [.word "OFFSET", .blank, .number (skip.getD 0).toNat, .blank,
        .word "ROWS"] :=
      (phrase_offset _).append_blank (phrase_singleton rfl (by simp))
    cases take with
    | none =>
      cases h
      exact closing_of_word (by decide) hrows rfl
    | some t =>
      cases h
      have hcount : Phrase .sqlServer ([.number t.toNat] ++ .blank :: words ["ROWS", "ONLY"]) :=
        (phrase_number t.toNat).append_blank (phrase_words rfl)
      have hfetch : Phrase .sqlServer (words ["FETCH", "NEXT"] ++
          [.blank, .number t.toNat, .blank] ++ words ["ROWS", "ONLY"]) :=
        (hcount.cons_blank rfl).cons_blank rfl
      exact closing_of_word (by decide) (hrows.append_blank hfetch) rfl
  · cases h
    exact closing_of_word (by decide) (phrase_limit _) rfl
  · cases h
    exact closing_of_word (by decide) ((phrase_limit _).append_blank (phrase_offset _)) rfl
  · cases h
    exact closing_of_word (by decide) (phrase_offset _) rfl
  · cases h
    exact closing_of_word (by decide) ((phrase_limit _).append_blank (phrase_offset _)) rfl
  · cases h
    exact closing_of_word (by decide) (phrase_limitMinusOne.append_blank (phrase_offset _)) rfl

theorem closing_pagingTokens (s : SelectPlan) : Closing d (d.pagingTokens s) := by
  unfold SqlDialect.pagingTokens
  split
  · rename_i ts h
    exact closing_paging? h
  · exact closing_nil

end Closing

end Sift
