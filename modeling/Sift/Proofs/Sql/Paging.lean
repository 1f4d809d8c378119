import Sift.Proofs.Paging
import Sift.Proofs.Sql.Execution

/-!
# The page that a query reads

Behind its filter a query has an order and a paging clause. `SqlCommand.readTail` reads them by the
grammar of a dialect, which has no offset without a limit in one place and none without an order in
another, and refuses what the dialect would refuse. What was read is a `QueryTail`; it says how many
of the ordered rows are left out and how many are kept. `SqlCommand.answer` is what a query gives:
the rows that its filter holds for, in order, cut by its tail. In every dialect this is the page
that the plan asks for, `SelectPlan.page`.
-/
namespace Sift

/-! ## What closes a query -/

/-- What stands behind the filter of a query, understood. -/
structure QueryTail where
  /-- The keys of the order, if there is one. An order without keys is any order. -/
  order : Option (List (String × Bool))
  skip : Nat
  /-- How many rows are kept; all of them if there is no limit. -/
  limit : Option Nat

/-- The rows that are kept of some ordered rows. -/
def QueryTail.page {α : Type} (q : QueryTail) (rows : List α) : List α :=
  match q.limit with
  | none => rows.drop q.skip
  | some n => (rows.drop q.skip).take n

namespace SqlCommand

/-- Whether a direction ascends. -/
def readDirection : String → Option Bool
  | "ASC" => some true
  | "DESC" => some false
  | _ => none

/-- Keys of an order with commas between them. -/
def readKeys : LexemeReader (List (String × Bool))
  | .ident c :: .word w :: .mark "," :: rest => do
    let ascending ← readDirection w
    let (keys, rest) ← readKeys rest
    some ((c, ascending) :: keys, rest)
  | .ident c :: .word w :: rest => do
    let ascending ← readDirection w
    some ([(c, ascending)], rest)
  | _ => none

/-- An order, if there is one. Where paging needs an order, there is one without a key. -/
def readOrder (d : SqlDialect) : LexemeReader (Option (List (String × Bool)))
  | .word "ORDER" :: .word "BY" :: .mark "(" :: .word "SELECT" :: .word "NULL" :: .mark ")" ::
      rest =>
    if d = .sqlServer then some (some [], rest) else none
  | .word "ORDER" :: .word "BY" :: rest => do
    let (keys, rest) ← readKeys rest
    some (some keys, rest)
  | rest => some (none, rest)

/-- A paging clause, as how many rows are left out and how many are kept. `ordered` says whether an
order stands before it. -/
def readPaging (ordered : Bool) : SqlDialect → List (Lexeme Value) → Option (Nat × Option Nat)
  | _, [] => some (0, none)
  | .sqlServer, [.word "OFFSET", .number s, .word "ROWS"] =>
    if ordered then some (s, none) else none
  | .sqlServer, [.word "OFFSET", .number s, .word "ROWS", .word "FETCH", .word "NEXT", .number n,
      .word "ROWS", .word "ONLY"] =>
    if ordered ∧ n ≠ 0 then some (s, some n) else none
  | .sqlServer, _ => none
  | .sqlite, [.word "LIMIT", .mark "-", .number 1] => some (0, none)
  | .sqlite, [.word "LIMIT", .mark "-", .number 1, .word "OFFSET", .number s] => some (s, none)
  | .postgres, [.word "OFFSET", .number s] => some (s, none)
  | _, [.word "LIMIT", .number n] => some (0, some n)
  | _, [.word "LIMIT", .number n, .word "OFFSET", .number s] => some (s, some n)
  | _, _ => none

/-- All that stands behind the filter of a query. -/
def readTail (d : SqlDialect) (ls : List (Lexeme Value)) : Option QueryTail := do
  let (order, rest) ← readOrder d ls
  let (skip, limit) ← readPaging order.isSome d rest
  some ⟨order, skip, limit⟩

end SqlCommand

/-! ## The page of a plan -/

/-- How a store puts rows in the order of some keys; it loses none and adds none. -/
structure Arrangement (α : Type) where
  sort : List (String × Bool) → List α → List α
  perm : ∀ keys rows, (sort keys rows).Perm rows

@[simp] theorem Arrangement.sort_nil {α : Type} (a : Arrangement α) (keys : List (String × Bool)) :
    a.sort keys [] = [] :=
  (a.perm keys []).eq_nil

/-- What a query gives: the rows of its table that its filter holds for, in order, cut by its
tail. -/
def SqlCommand.answer (d : SqlDialect) (cmp : Comparison) (a : Arrangement (String → Value))
    (db : Database) : SqlCommand → Option (List (String → Value))
  | select _ table filter tail => do
    let q ← readTail d tail
    some (q.page (a.sort (q.order.getD []) ((db table).filter (meets d cmp filter))))
  | _ => none

namespace SelectPlan

/-- The keys of the order that a query asks for. -/
def keys (s : SelectPlan) : List (String × Bool) :=
  s.order.map fun k => (k.field.column, k.ascending)

/-- The page that a query asks for of the rows that it is about, in their order. -/
def page {α : Type} (s : SelectPlan) (rows : List α) : List α :=
  upTo s.take (rows.drop (s.skip.getD 0).toNat)

theorem page_of_take_zero {α : Type} {s : SelectPlan} (htake : s.take = some 0) (rows : List α) :
    s.page rows = [] := by
  rw [page, htake]
  rfl

/-- The order of a query; any order, where paging needs one and none is asked for. -/
def ordering (d : SqlDialect) (s : SelectPlan) : Option (List (String × Bool)) :=
  if s.order ≠ [] then some s.keys
  else if (s.skip.isSome || s.take.isSome) && d.pagingRequiresOrder then some []
  else none

/-- What closes the statement of a query. -/
def tail (d : SqlDialect) (s : SelectPlan) : QueryTail :=
  if s.take = some 0 ∧ d.rejectsZeroFetch then ⟨none, 0, none⟩
  else
    { order := s.ordering d
      skip := (s.skip.getD 0).toNat
      limit :=
        match s.take with
        | some n => some n.toNat
        | none => if d = .mySql ∧ s.skip.isSome then some (UInt64.size - 1) else none }

end SelectPlan

theorem SqlDialect.eq_sqlServer_of_pagingRequiresOrder {d : SqlDialect}
    (h : d.pagingRequiresOrder = true) : d = .sqlServer := by
  cases d <;> first | rfl | cases h

theorem SqlDialect.eq_sqlServer_of_rejectsZeroFetch {d : SqlDialect}
    (h : d.rejectsZeroFetch = true) : d = .sqlServer := by
  cases d <;> first | rfl | cases h

section Tail

open SqlCommand SqlToken

variable {d : SqlDialect} {s : SelectPlan} {g : Params.Slot → Value} {rest : List (Lexeme Value)}

/-! ## Reading the order -/

/-- The word of a direction. -/
theorem readDirection_word (ascending : Bool) :
    readDirection (if ascending then "ASC" else "DESC") = some ascending := by
  cases ascending <;> rfl

theorem readKeys_of_endsList {c w : String} {ascending : Bool}
    (hw : readDirection w = some ascending) (h : Lexeme.endsList rest = true) :
    readKeys (.ident c :: .word w :: rest) = some ([(c, ascending)], rest) := by
  unfold readKeys
  split
  · rename_i heq
    simp only [List.cons.injEq] at heq
    obtain ⟨-, -, rfl⟩ := heq
    cases h
  · rename_i heq
    simp only [List.cons.injEq, Lexeme.ident.injEq, Lexeme.word.injEq] at heq
    obtain ⟨rfl, rfl, rfl⟩ := heq
    rw [hw]
    rfl
  · rename_i hnone
    exact absurd rfl (hnone c w rest)

theorem readKeys_sortTokens {order : List SortKey} (hne : order ≠ [])
    (hrest : Lexeme.endsList rest = true) :
    readKeys (lexemes g (commaList (order.map SqlDialect.sortTokens)) ++ rest) =
      some (order.map fun k => (k.field.column, k.ascending), rest) := by
  induction order with
  | nil => exact absurd rfl hne
  | cons k order ih =>
    have hk := readDirection_word k.ascending
    cases order with
    | nil => exact readKeys_of_endsList hk hrest
    | cons next order =>
      have hread := ih (List.cons_ne_nil next order)
      change readKeys (.ident k.field.column :: .word (if k.ascending then "ASC" else "DESC") ::
        .mark "," :: (lexemes g (commaList ((next :: order).map SqlDialect.sortTokens)) ++ rest)) = _
      rw [readKeys, hk, hread]
      rfl

/-- The lexemes of an order are its keys behind two words, or the placeholder of an order, or
none. -/
theorem lexemes_orderTokens : lexemes g (d.orderTokens s) =
    if s.order ≠ [] then .word "ORDER" :: .word "BY" ::
      lexemes g (commaList (s.order.map SqlDialect.sortTokens))
    else if (s.skip.isSome || s.take.isSome) && d.pagingRequiresOrder then
      [.word "ORDER", .word "BY", .mark "(", .word "SELECT", .word "NULL", .mark ")"]
    else [] := by
  unfold SqlDialect.orderTokens
  by_cases horder : s.order = []
  · rw [if_neg (by simp [horder]), if_neg (not_not_intro horder)]
    split
    · rfl
    · rfl
  · rw [if_pos (by simpa using horder), if_pos horder]
    rfl

theorem readOrder_keys {keys : List (String × Bool)} {ls : List (Lexeme Value)}
    (hls : readKeys ls = some (keys, rest)) :
    readOrder d (.word "ORDER" :: .word "BY" :: ls) = some (some keys, rest) := by
  unfold readOrder
  split
  · rename_i heq
    simp only [List.cons.injEq, true_and] at heq
    subst heq
    cases hls
  · rename_i heq
    simp only [List.cons.injEq, true_and] at heq
    subst heq
    rw [hls]
    rfl
  · rename_i hnone
    exact absurd rfl (hnone ls)

theorem readOrder_of_clear (h : SqlExpr.clear ["ORDER"] rest = true) :
    readOrder d rest = some (none, rest) := by
  unfold readOrder
  split
  · simp [SqlExpr.clear] at h
  · simp [SqlExpr.clear] at h
  · rfl

/-- An order is read as what the plan asks for. -/
theorem readOrder_orderTokens (hends : Lexeme.endsList rest = true)
    (hclear : SqlExpr.clear ["ORDER"] rest = true) :
    readOrder d (lexemes g (d.orderTokens s) ++ rest) = some (s.ordering d, rest) := by
  rw [lexemes_orderTokens, SelectPlan.ordering]
  by_cases horder : s.order = []
  · rw [if_neg (not_not_intro horder), if_neg (not_not_intro horder)]
    split
    · rename_i hpaged
      obtain rfl := d.eq_sqlServer_of_pagingRequiresOrder (Bool.and_eq_true_iff.1 hpaged).2
      rfl
    · exact readOrder_of_clear hclear
  · rw [if_pos horder, if_pos horder]
    exact readOrder_keys (readKeys_sortTokens horder hends)

/-! ## Reading the paging clause -/

/-- A paging clause does not go on with an order, nor with what stands in one. -/
theorem clear_pagingTokens : SqlExpr.clear ["ORDER"] (lexemes g (d.pagingTokens s)) = true ∧
    Lexeme.endsList (lexemes g (d.pagingTokens s)) = true := by
  unfold SqlDialect.pagingTokens
  generalize s.skip = skip
  generalize s.take = take
  cases skip <;> cases take <;> cases d <;> exact ⟨rfl, rfl⟩

/-- Where zero rows cannot be asked for, a paging clause asks for some. -/
theorem toNat_ne_zero_of_take {n : UInt64} (htake : s.take = some n)
    (hzero : ¬(s.take = some 0 ∧ d.rejectsZeroFetch = true)) (hd : d.rejectsZeroFetch = true) :
    n.toNat ≠ 0 := by
  intro hn
  obtain rfl : n = 0 := UInt64.toNat_inj.1 hn
  exact hzero ⟨htake, hd⟩

theorem readPaging_pagingTokens (hzero : ¬(s.take = some 0 ∧ d.rejectsZeroFetch = true))
    {ordered : Bool}
    (hordered : (s.skip.isSome || s.take.isSome) && d.pagingRequiresOrder → ordered = true) :
    readPaging ordered d (lexemes g (d.pagingTokens s)) =
      some ((s.tail d).skip, (s.tail d).limit) := by
  have htail : s.tail d = ⟨_, _, _⟩ := if_neg hzero
  rw [htail]
  unfold SqlDialect.pagingTokens
  cases hskip : s.skip with
  | none =>
    cases htake : s.take with
    | none => cases d <;> rfl
    | some n =>
      cases d with
      | postgres => rfl
      | mySql => rfl
      | sqlite => rfl
      | sqlServer =>
        rw [hskip, htake] at hordered
        exact if_pos ⟨hordered rfl, toNat_ne_zero_of_take htake hzero rfl⟩
  | some k =>
    cases htake : s.take with
    | none =>
      cases d with
      | postgres => rfl
      | mySql => rfl
      | sqlite => rfl
      | sqlServer =>
        rw [hskip, htake] at hordered
        exact if_pos (hordered rfl)
    | some n =>
      cases d with
      | postgres => rfl
      | mySql => rfl
      | sqlite => rfl
      | sqlServer =>
        rw [hskip, htake] at hordered
        exact if_pos ⟨hordered rfl, toNat_ne_zero_of_take htake hzero rfl⟩

/-- What closes the statement of a query is read as it was meant. -/
theorem readTail_closing : readTail d (lexemes g (s.closing d)) = some (s.tail d) := by
  unfold SelectPlan.closing
  by_cases hzero : s.take = some 0 ∧ d.rejectsZeroFetch = true
  · have htail : s.tail d = ⟨none, 0, none⟩ := if_pos hzero
    rw [if_pos hzero, htail]
    cases d <;> rfl
  · obtain ⟨hclear, hends⟩ := clear_pagingTokens (d := d) (s := s) (g := g)
    have htail : s.tail d = ⟨_, _, _⟩ := if_neg hzero
    rw [if_neg hzero, lexemes_append, readTail, readOrder_orderTokens hends hclear]
    simp only [Option.bind_eq_bind, Option.bind_some]
    rw [readPaging_pagingTokens hzero]
    · rw [htail]
      rfl
    · intro hpaged
      by_cases horder : s.order = [] <;> simp [SelectPlan.ordering, horder, hpaged]

end Tail

/-! ## What dialects permit -/

/-- Wherever a lexeme stands, others stand before it. -/
def Lexeme.OnlyBehind (l : Lexeme Value) (first ls : List (Lexeme Value)) : Prop :=
  ∀ before after, ls = before ++ l :: after → first <:+: before

/-- What dialects demand of what stands behind a filter: in some an offset needs a limit, in one it
needs an order, and there zero rows cannot be fetched. -/
def SqlDialect.Permits (d : SqlDialect) (ls : List (Lexeme Value)) : Prop :=
  match d with
  | .postgres => True
  | .mySql | .sqlite => (Lexeme.word "OFFSET").OnlyBehind [.word "LIMIT"] ls
  | .sqlServer => (Lexeme.word "OFFSET").OnlyBehind [.word "ORDER", .word "BY"] ls ∧
    ¬[.word "FETCH", .word "NEXT", .number 0] <:+: ls

section Permits

open SqlCommand SqlToken

variable {d : SqlDialect} {s : SelectPlan} {g : Params.Slot → Value} {l : Lexeme Value}
  {first ls ms : List (Lexeme Value)}

theorem Lexeme.onlyBehind_of_notMem (h : l ∉ ls) : l.OnlyBehind first ls := by
  rintro before after rfl
  exact absurd (List.mem_append_right before (List.mem_cons_self ..)) h

/-- Behind what has to stand first a lexeme may stand anywhere. -/
theorem Lexeme.onlyBehind_append (h : l ∉ ls) (hfirst : first <:+: ls) (ms : List (Lexeme Value)) :
    l.OnlyBehind first (ls ++ ms) := by
  intro before after heq
  rcases List.append_eq_append_iff.1 heq with ⟨mid, rfl, -⟩ | ⟨mid, rfl, hmid⟩
  · exact hfirst.trans (List.prefix_append ls mid).isInfix
  · cases mid with
    | nil =>
      rw [List.append_nil] at hfirst
      exact hfirst
    | cons m mid =>
      obtain rfl : l = m := (List.cons.inj hmid).1
      exact absurd (List.mem_append_right before (List.mem_cons_self ..)) h

/-- What begins with a lexeme that is not there lies behind. -/
theorem Lexeme.infix_of_infix_append (h : l ∉ ls) (hin : l :: first <:+: ls ++ ms) :
    l :: first <:+: ms := by
  induction ls with
  | nil => exact hin
  | cons m ls ih =>
    obtain ⟨hm, hls⟩ := List.ne_and_not_mem_of_not_mem_cons h
    rcases List.infix_cons_iff.1 hin with hprefix | hrest
    · exact absurd (List.cons_prefix_cons.1 hprefix).1 hm
    · exact ih hls hrest

theorem notMem_lexemes_commaList {tss : List (List SqlToken)} (hl : l ≠ .mark ",")
    (h : ∀ ts ∈ tss, l ∉ lexemes g ts) : l ∉ lexemes g (commaList tss) := by
  induction tss using commaList.induct with
  | case1 => exact List.not_mem_nil
  | case2 ts => exact h ts (List.mem_cons_self ..)
  | case3 ts next rest ih =>
    have hts := h ts (List.mem_cons_self ..)
    have hrest := ih fun us hus => h us (List.mem_cons_of_mem ts hus)
    simp [commaList, hl, hts, hrest]

/-- An order has no other words than these. -/
theorem notMem_lexemes_orderTokens {w : String}
    (hw : w ∉ ["ORDER", "BY", "ASC", "DESC", "SELECT", "NULL"]) :
    .word w ∉ lexemes g (d.orderTokens s) := by
  simp only [List.mem_cons, List.not_mem_nil, or_false, not_or] at hw
  obtain ⟨horder, hby, hasc, hdesc, hselect, hnull⟩ := hw
  have hsort : ∀ ts ∈ s.order.map SqlDialect.sortTokens, Lexeme.word w ∉ lexemes g ts := by
    intro ts hts
    obtain ⟨k, -, rfl⟩ := List.mem_map.1 hts
    cases h : k.ascending <;> simp [SqlDialect.sortTokens, h, hasc, hdesc]
  have hkeys := notMem_lexemes_commaList (l := .word w) (by simp) hsort
  rw [lexemes_orderTokens]
  split
  · simpa [horder, hby] using hkeys
  · split
    · simp [horder, hby, hselect, hnull]
    · exact List.not_mem_nil

/-- The dialects without an offset of its own begin with a limit, if anything is cut. -/
theorem lexemes_pagingTokens_eq_limit (hd : d = .mySql ∨ d = .sqlite) :
    lexemes g (d.pagingTokens s) = [] ∨
      ∃ ls, lexemes g (d.pagingTokens s) = .word "LIMIT" :: ls := by
  unfold SqlDialect.pagingTokens
  rcases hd with rfl | rfl
  · cases s.skip <;> cases s.take <;> first | exact .inl rfl | exact .inr ⟨_, rfl⟩
  · cases s.skip <;> cases s.take <;> first | exact .inl rfl | exact .inr ⟨_, rfl⟩

theorem permits_nil : d.Permits [] := by
  have hoffset : ∀ first, (Lexeme.word "OFFSET").OnlyBehind first [] := fun first =>
    Lexeme.onlyBehind_of_notMem List.not_mem_nil
  cases d with
  | postgres => trivial
  | mySql => exact hoffset _
  | sqlite => exact hoffset _
  | sqlServer => exact ⟨hoffset _, by simp⟩

theorem onlyBehind_limit (hd : d = .mySql ∨ d = .sqlite) :
    (Lexeme.word "OFFSET").OnlyBehind [.word "LIMIT"]
      (lexemes g (d.orderTokens s) ++ lexemes g (d.pagingTokens s)) := by
  have horder : Lexeme.word "OFFSET" ∉ lexemes g (d.orderTokens s) :=
    notMem_lexemes_orderTokens (by decide)
  rcases lexemes_pagingTokens_eq_limit (s := s) (g := g) hd with hnil | ⟨ls, hlimit⟩
  · rw [hnil, List.append_nil]
    exact Lexeme.onlyBehind_of_notMem horder
  · rw [hlimit, List.append_cons]
    exact Lexeme.onlyBehind_append (by simpa using horder) (List.suffix_append _ _).isInfix ls

/-- Where an offset needs an order there is one, if anything is cut. -/
theorem isInfix_orderTokens (hd : d.pagingRequiresOrder = true)
    (hpaged : (s.skip.isSome || s.take.isSome) = true) :
    [.word "ORDER", .word "BY"] <:+: lexemes g (d.orderTokens s) := by
  rw [lexemes_orderTokens]
  by_cases horder : s.order = []
  · rw [if_neg (not_not_intro horder), hpaged, hd]
    exact (List.prefix_append [Lexeme.word "ORDER", .word "BY"] _).isInfix
  · rw [if_pos horder]
    exact (List.prefix_append [Lexeme.word "ORDER", .word "BY"] _).isInfix

theorem onlyBehind_order (hd : d.pagingRequiresOrder = true) :
    (Lexeme.word "OFFSET").OnlyBehind [.word "ORDER", .word "BY"]
      (lexemes g (d.orderTokens s) ++ lexemes g (d.pagingTokens s)) := by
  have horder : Lexeme.word "OFFSET" ∉ lexemes g (d.orderTokens s) :=
    notMem_lexemes_orderTokens (by decide)
  cases hpaged : s.skip.isSome || s.take.isSome with
  | true => exact Lexeme.onlyBehind_append horder (isInfix_orderTokens hd hpaged) _
  | false =>
    have hnone : s.skip = none ∧ s.take = none := by simpa using hpaged
    have hpaging : d.pagingTokens s = [] := by
      rw [SqlDialect.pagingTokens, hnone.1, hnone.2, SqlDialect.paging?_none]
    rw [hpaging, lexemes_nil, List.append_nil]
    exact Lexeme.onlyBehind_of_notMem horder

/-- Where zero rows cannot be fetched, they are not. -/
theorem not_isInfix_fetch (hzero : ¬(s.take = some 0 ∧ d.rejectsZeroFetch = true))
    (hd : d = .sqlServer) :
    ¬[.word "FETCH", .word "NEXT", .number 0] <:+:
      lexemes g (d.orderTokens s) ++ lexemes g (d.pagingTokens s) := by
  intro hfetch
  have horder : Lexeme.word "FETCH" ∉ lexemes g (d.orderTokens s) :=
    notMem_lexemes_orderTokens (by decide)
  have hpaging := Lexeme.infix_of_infix_append horder hfetch
  subst hd
  unfold SqlDialect.pagingTokens at hpaging
  cases htake : s.take with
  | none =>
    rw [htake] at hpaging
    cases hskip : s.skip <;> rw [hskip] at hpaging <;>
      simp [SqlDialect.paging?, List.infix_cons_iff] at hpaging
  | some n =>
    have hn := toNat_ne_zero_of_take htake hzero rfl
    rw [htake] at hpaging
    cases hskip : s.skip <;> rw [hskip] at hpaging <;>
      simp [SqlDialect.paging?, words, List.infix_cons_iff] at hpaging <;> omega

/-- What closes the statement of a query is permitted. -/
theorem permits_closing : d.Permits (lexemes g (s.closing d)) := by
  unfold SelectPlan.closing
  split
  · exact permits_nil
  · rename_i hzero
    rw [lexemes_append]
    cases d with
    | postgres => trivial
    | mySql => exact onlyBehind_limit (.inl rfl)
    | sqlite => exact onlyBehind_limit (.inr rfl)
    | sqlServer => exact ⟨onlyBehind_order rfl, not_isInfix_fetch hzero rfl⟩

end Permits

/-! ## The answer to a query -/

namespace SelectPlan

open SqlCommand

variable {d : SqlDialect} {t : Table} {s : SelectPlan} {c : Option Condition}

/-- The tail of a query cuts the page that is asked for, unless that is cut by the filter. A limit
that stands for none is larger than there can be rows. -/
theorem page_tail {α : Type} {rows : List α}
    (hzero : ¬(s.take = some 0 ∧ d.rejectsZeroFetch = true)) (hrows : rows.length < UInt64.size) :
    (s.tail d).page rows = s.page rows := by
  have htail : s.tail d = ⟨_, _, _⟩ := if_neg hzero
  rw [htail, QueryTail.page, page]
  cases s.take with
  | some n => rfl
  | none =>
    by_cases hlimit : d = .mySql ∧ s.skip.isSome = true
    · have hall : (rows.drop (s.skip.getD 0).toNat).length ≤ UInt64.size - 1 := by
        rw [List.length_drop]
        omega
      simp only [if_pos hlimit, upTo]
      exact List.take_of_length_le hall
    · simp only [if_neg hlimit, upTo]

/-- The keys of the order are those that are asked for. -/
theorem getD_ordering : (s.ordering d).getD [] = s.keys := by
  unfold ordering
  by_cases horder : s.order = []
  · rw [if_neg (not_not_intro horder), keys, horder, List.map_nil]
    split <;> rfl
  · rw [if_pos horder]
    rfl

/-- An order without keys stands where one is needed and none is asked for. -/
theorem eq_sqlServer_of_ordering (h : s.ordering d = some []) : d = .sqlServer ∧ s.order = [] := by
  unfold ordering at h
  by_cases horder : s.order = []
  · rw [if_neg (not_not_intro horder)] at h
    split at h
    · rename_i hpaged
      have hneeded := (Bool.and_eq_true_iff.1 hpaged).2
      exact ⟨d.eq_sqlServer_of_pagingRequiresOrder hneeded, horder⟩
    · cases h
  · rw [if_pos horder] at h
    have hkeys : s.keys ≠ [] := by simpa [keys] using horder
    exact absurd (Option.some.inj h) hkeys

theorem order_tail_of_nil (h : (s.tail d).order = some []) : d = .sqlServer ∧ s.order = [] := by
  unfold tail at h
  split at h
  · cases h
  · exact eq_sqlServer_of_ordering h

/-- Where the filter is left as it is, so is the order. -/
theorem getD_order_tail (hzero : ¬(s.take = some 0 ∧ d.rejectsZeroFetch = true)) :
    (s.tail d).order.getD [] = s.keys := by
  rw [tail, if_neg hzero]
  exact getD_ordering

/-- No row passes the filter of a query for zero rows where these cannot be fetched. -/
theorem meets_never (cmp : Comparison) (row : String → Value) :
    meets d cmp (some ((Condition.never c).written d)) row = false := by
  cases c with
  | none => rfl
  | some c =>
    change ((((c.written d).truth d cmp row).and (.ofBool false)).isYes) = false
    simp

/-- The rows that a query is about, by its filter as it was lowered. -/
def matching (d : SqlDialect) (cmp : Comparison) (c : Option Condition)
    (rows : List (String → Value)) : List (String → Value) :=
  rows.filter (meets d cmp (c.map (Condition.written d)))

/-- The answer to a query is the page that is asked for of the rows that it is about. -/
theorem answer_command (cmp : Comparison) (a : Arrangement (String → Value)) (db : Database)
    (hrows : (matching d cmp c (db t.entity.table)).length < UInt64.size) :
    ((Plan.select s).command d t c).answer d cmp a db =
      some (s.page (a.sort s.keys (matching d cmp c (db t.entity.table)))) := by
  rw [Plan.command, answer, readTail_closing]
  simp only [Option.bind_eq_bind, Option.bind_some]
  by_cases hzero : s.take = some 0 ∧ d.rejectsZeroFetch = true
  · have htail : s.tail d = ⟨none, 0, none⟩ := if_pos hzero
    have heffective : s.effective d c = some (.never c) := if_pos hzero
    have hnone : (db t.entity.table).filter
        (meets d cmp ((s.effective d c).map (Condition.written d))) = [] := by
      rw [heffective, List.filter_eq_nil_iff]
      intro row _
      rw [Option.map_some, meets_never]
      exact Bool.false_ne_true
    rw [hnone, htail, page_of_take_zero hzero.1, Arrangement.sort_nil]
    rfl
  · have heffective : s.effective d c = c := if_neg hzero
    have hkeys : (s.tail d).order.getD [] = s.keys := getD_order_tail hzero
    rw [heffective, hkeys]
    refine congrArg some (page_tail hzero ?_)
    rw [(a.perm ..).length_eq]
    exact hrows

/-- The statement of a query asks for the page of its plan, in every dialect. It is read as a query
for the columns and the filter of the plan; what closes it is permitted, and names the keys of the
plan in order, but for the placeholder of an order and the query that no row answers; and whatever
is stored, in whatever way it is put in order, its answer is the page. -/
theorem answer_compile (hd : t.dialect = .sql d) (hne : s.columns ≠ [])
    (hc : Condition.ofFilter t s.filter = .ok c) : ∃ st filter closing tail,
      (Plan.select s).compile t = .ok (.sql st) ∧
      d.readCommand st =
        some (.select (s.columns.map Field.column) t.entity.table filter closing) ∧
      readTail d closing = some tail ∧ d.Permits closing ∧
      (tail.order = some [] → d = .sqlServer ∧ s.order = []) ∧
      (¬(d = .sqlServer ∧ s.take = some 0) → tail.order.getD [] = s.keys) ∧
      ∀ (cmp : Comparison) (a : Arrangement (String → Value)) (db : Database),
        (matching d cmp c (db t.entity.table)).length < UInt64.size →
          answer d cmp a db
              (.select (s.columns.map Field.column) t.entity.table filter closing) =
            some (s.page (a.sort s.keys (matching d cmp c (db t.entity.table)))) := by
  obtain ⟨st, hst, hsays⟩ := Plan.exists_compile (t := t) (p := .select s) hne hc
  rw [hd] at hsays
  obtain @⟨_, st, hread⟩ := hsays
  refine ⟨st, _, _, _, hst, hread, readTail_closing, permits_closing, order_tail_of_nil,
    fun hzero => ?_, answer_command⟩
  exact getD_order_tail fun h => hzero ⟨d.eq_sqlServer_of_rejectsZeroFetch h.2, h.1⟩

/-- All but the first of those whom `pickyPredicate` is about, in the reverse order of their
columns. -/
def pickyRest (d : Dialect) : SelectPlan where
  filter := some pickyPredicate
  columns := (Table.people d).fields
  order := (Table.people d).fields.map fun f => ⟨f, false⟩
  skip := some 1
  take := none

theorem exists_ofFilter_pickyRest (d : Dialect) : ∃ c,
    Condition.ofPredicate (.people d) pickyPredicate = .ok c ∧
      Condition.ofFilter (.people d) (pickyRest d).filter = .ok (some c) :=
  ⟨_, rfl, rfl⟩

theorem answer_compile_pickyRest : ∃ st c filter closing,
    (Plan.select (pickyRest (.sql .mySql))).compile (.people (.sql .mySql)) = .ok (.sql st) ∧
      Condition.ofPredicate (.people (.sql .mySql)) pickyPredicate = .ok c ∧
      SqlDialect.mySql.readCommand st =
        some (.select ["id", "na\"m\x60e] = $1", "age"] "people" filter closing) ∧
      (Lexeme.word "OFFSET").OnlyBehind [.word "LIMIT"] closing ∧
      ∀ (cmp : Comparison) (a : Arrangement (String → Value)) (rows : List (String → Value)),
        rows.length < UInt64.size →
          answer .mySql cmp a (fun _ => rows)
              (.select ["id", "na\"m\x60e] = $1", "age"] "people" filter closing) =
            some ((a.sort [("id", false), ("na\"m\x60e] = $1", false), ("age", false)]
              (rows.filter (meets .mySql cmp (some (c.written .mySql))))).drop 1) := by
  have hcolumns : (pickyRest (.sql .mySql)).columns ≠ [] := List.cons_ne_nil _ _
  obtain ⟨c, hc, hfilter⟩ := exists_ofFilter_pickyRest (.sql .mySql)
  obtain ⟨st, filter, closing, tail, hst, hread, -, hpermits, -, -, hanswer⟩ :=
    answer_compile rfl hcolumns hfilter
  refine ⟨st, c, filter, closing, hst, hc, hread, hpermits, fun cmp a rows hrows => ?_⟩
  exact hanswer cmp a (fun _ => rows) ((List.length_filter_le ..).trans_lt hrows)

end SelectPlan

end Sift
