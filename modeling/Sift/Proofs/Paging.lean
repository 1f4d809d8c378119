import Sift.Proofs.Builder.Query
import Sift.Proofs.Cursor

/-!
# Reading page after page

Each page says where the next one begins. `Query.pages` reads pages of given sizes one after the
other, and `Consecutive` is what is known of them: each page is cut from the rows where the one
before it ended, and its token is the offset behind it. One page of a query is such a page,
`Query.run_toPage`, so a whole run is consecutive, `Query.consecutive_pages`; that no row is lost or
read twice is then a matter of cutting lists.
-/
namespace Sift

/-- As many rows as are wanted; all of them if no size is given. -/
def upTo {α : Type} (size : Option UInt64) (rows : List α) : List α :=
  match size with
  | none => rows
  | some n => rows.take n.toNat

section UpTo

variable {α : Type}

theorem isPrefix_upTo (size : Option UInt64) (rows : List α) : upTo size rows <+: rows := by
  cases size with
  | none => exact List.prefix_rfl
  | some n => exact List.take_prefix n.toNat rows

theorem length_upTo_le (size : Option UInt64) (rows : List α) :
    (upTo size rows).length ≤ rows.length :=
  (isPrefix_upTo size rows).length_le

/-- Behind a page there is what the page left. -/
theorem upTo_append_drop (size : Option UInt64) (rows : List α) :
    upTo size rows ++ rows.drop (upTo size rows).length = rows := by
  obtain ⟨rest, hrest⟩ := isPrefix_upTo size rows
  have hdrop : (upTo size rows ++ rest).drop (upTo size rows).length = rest := List.drop_left
  rw [hrest] at hdrop
  rw [hdrop, hrest]

/-- Nothing is given of rows that are there only if nothing is wanted. -/
theorem eq_nil_of_upTo_eq_nil {size : Option UInt64} (hsize : size ≠ some 0) {rows : List α}
    (h : upTo size rows = []) : rows = [] := by
  cases size with
  | none => exact h
  | some n =>
    rcases List.take_eq_nil_iff.1 h with hzero | hrows
    · have hn : n = 0 := UInt64.toNat_inj.1 hzero
      exact absurd (congrArg some hn) hsize
    · exact hrows

@[simp] theorem upTo_nil (size : Option UInt64) : upTo size ([] : List α) = [] := by
  cases size <;> simp [upTo]

theorem forall₂_upTo {β : Type} {R : α → β → Prop} {as : List α} {bs : List β}
    (h : List.Forall₂ R as bs) (size : Option UInt64) :
    List.Forall₂ R (upTo size as) (upTo size bs) := by
  cases size with
  | none => exact h
  | some n => exact List.forall₂_take n.toNat h

end UpTo

/-! ## One page -/

namespace Query

variable {e : Entity} {σ : Type} {q : Query e} {t : Table} {x : Executor (StateM σ)}
  {records : List Record} {rows : List (Row e.fields)}

/-- An executor that answers the plans of a query's pages from some records: it leaves out what a
plan skips, and gives no more than the plan takes. -/
def AnsweredBy (q : Query e) (t : Table) (x : Executor (StateM σ)) (records : List Record) : Prop :=
  ∀ (s : SelectPlan) (st : Statement), s.filter = q.scope.filter →
    q.projection t = .ok s.columns → q.sortKeys t = .ok s.order →
    (Plan.select s).compile t = .ok st → ∀ (c : Context) (w : σ),
      ((x.fetch st c).run w).1 = .ok (upTo s.take (records.drop (s.skip.getD 0).toNat))

/-- The parts of a query that stay from page to page are there, and there is a filter. -/
structure Pageable (q : Query e) (t : Table) : Prop where
  state : q.scope.state = .ok t
  filter : q.scope.filter ≠ none
  lowered : ∃ c, Condition.ofFilter t q.scope.filter = .ok c
  projection : ∃ columns, q.projection t = .ok columns
  sortKeys : ∃ order, q.sortKeys t = .ok order

/-- A query with a filter that has a statement can be read in pages. -/
theorem pageable_of_toStatement {st : Statement} (ht : q.scope.state = .ok t)
    (hfilter : q.scope.filter ≠ none) (h : q.toStatement = .ok st) : q.Pageable t := by
  obtain ⟨t', skip, columns, order, ht', -, hcolumns, horder, hst⟩ := compileSelect_eq_ok_iff.1 h
  obtain rfl : t = t' := by
    rw [ht] at ht'
    exact Except.ok.inj ht'
  have hcomplete : (Plan.select ⟨q.scope.filter, columns, order, skip, q.limit⟩).Complete :=
    projection_ne_nil hcolumns
  have hlowered := Plan.ofFilter_of_compile hcomplete hst
  exact ⟨ht, hfilter, hlowered, ⟨columns, hcolumns⟩, ⟨order, horder⟩⟩

/-- A page of a query is read from a statement for that page. -/
theorem Pageable.exists_compilePage (hq : q.Pageable t) {start : Option UInt64}
    (hstart : q.resolvedStart = .ok start) :
    ∃ s st, (Plan.select s).compile t = .ok st ∧ q.compilePage = .ok (start.getD 0, st) ∧
      s.filter = q.scope.filter ∧ q.projection t = .ok s.columns ∧ q.sortKeys t = .ok s.order ∧
      s.skip = start ∧ s.take = q.limit := by
  obtain ⟨c, hc⟩ := hq.lowered
  obtain ⟨columns, hcolumns⟩ := hq.projection
  obtain ⟨order, horder⟩ := hq.sortKeys
  have hcomplete : (Plan.select ⟨q.scope.filter, columns, order, start, q.limit⟩).Complete :=
    projection_ne_nil hcolumns
  obtain ⟨st, hst, -⟩ := Plan.exists_compile hcomplete hc
  have hstatement : q.toStatement = .ok st :=
    compileSelect_eq_ok_iff.2 ⟨t, start, columns, order, hq.state, hstart, hcolumns, horder, hst⟩
  have hpage := compilePage_eq_ok_iff.2 ⟨hq.filter, hstatement, start, hstart, rfl⟩
  exact ⟨_, st, hst, hpage, rfl, hcolumns, horder, rfl, rfl⟩

theorem run_sendFetch (x : Executor (StateM σ)) (st : Statement) (c : Context) (w : σ) :
    (x.sendFetch st c).run w = (x.fetch st c).run ((x.announce st c).run w).2 := rfl

/-- What a page is, given the statement that it is read from and the answer to it. -/
theorem run_toPage_fst {offset : UInt64} {st : Statement} (h : q.compilePage = .ok (offset, st))
    (w : σ) :
    ((q.toPage x).run w).1 =
      (((x.sendFetch st (q.scope.context .select .read)).run w).1.bind (rowsOf e)).bind
        (pageOf offset) := by
  unfold toPage
  rw [h]
  rfl

/-- The token of a page that ends within the reach of offsets. -/
theorem pageOf_of_lt {offset : UInt64} {items : List (Row e.fields)}
    (h : offset.toNat + items.length < UInt64.size) :
    pageOf offset items =
      .ok ⟨items, Cursor.encode (UInt64.ofNat (offset.toNat + items.length))⟩ :=
  if_pos h

/-- A page of a query is what its size gives of the rows behind its start, and its token is the
offset behind it. -/
theorem run_toPage (hq : q.Pageable t) (hx : q.AnsweredBy t x records)
    (hrows : rowsOf e records = .ok rows) (hlength : records.length < UInt64.size)
    {start : Option UInt64} (hstart : q.resolvedStart = .ok start) (w : σ) :
    ∃ next : UInt64, ((q.toPage x).run w).1 =
        .ok ⟨upTo q.limit (rows.drop (start.getD 0).toNat), Cursor.encode next⟩ ∧
      next.toNat = (start.getD 0).toNat +
        (upTo q.limit (rows.drop (start.getD 0).toNat)).length := by
  obtain ⟨s, st, hst, hpage, hfilter, hcolumns, horder, hskip, htake⟩ :=
    hq.exists_compilePage hstart
  have hrelated := mapM_eq_ok_iff.1 hrows
  generalize hoffset : start.getD 0 = offset at hpage ⊢
  have hanswer := hx s st hfilter hcolumns horder hst
  rw [hskip, htake, hoffset] at hanswer
  have hitems : rowsOf e (upTo q.limit (records.drop offset.toNat)) =
      .ok (upTo q.limit (rows.drop offset.toNat)) :=
    mapM_eq_ok_iff.2 (forall₂_upTo (List.forall₂_drop offset.toNat hrelated) q.limit)
  have hfits : offset.toNat + (upTo q.limit (rows.drop offset.toNat)).length < UInt64.size := by
    have hcut := length_upTo_le q.limit (rows.drop offset.toNat)
    have hsame : records.length = rows.length := hrelated.length_eq
    have hoffset' : offset.toNat < UInt64.size := offset.toNat_lt
    rw [List.length_drop] at hcut
    omega
  refine ⟨UInt64.ofNat (offset.toNat + (upTo q.limit (rows.drop offset.toNat)).length), ?_,
    UInt64.toNat_ofNat_of_lt' hfits⟩
  rw [run_toPage_fst hpage, run_sendFetch, hanswer, Except.bind, hitems, Except.bind,
    pageOf_of_lt hfits]

/-! ## Page after page -/

/-- Read pages of some sizes, each from where the one before it ended. The first error ends the
reading. -/
def pages {m : Type → Type} [Monad m] (q : Query e) (x : Executor m) :
    List (Option UInt64) → m (Except Error (List (Page e)))
  | [] => pure (.ok [])
  | size :: sizes => do
    let page ← ({ q with limit := size } : Query e).toPage x
    match page with
    | .error err => pure (.error err)
    | .ok page => do
      let rest ← (q.skipCursor page.next).pages x sizes
      pure (rest.map (page :: ·))

end Query

/-- Pages of some sizes that follow one another in the rows from an offset on. -/
inductive Consecutive {e : Entity} (rows : List (Row e.fields)) :
    Nat → List (Option UInt64) → List (Page e) → Prop
  | nil (offset : Nat) : Consecutive rows offset [] []
  | cons {offset : Nat} {size : Option UInt64} {sizes : List (Option UInt64)} {next : UInt64}
      {pages : List (Page e)} (hnext : next.toNat = offset + (upTo size (rows.drop offset)).length)
      (rest : Consecutive rows next.toNat sizes pages) :
      Consecutive rows offset (size :: sizes)
        (⟨upTo size (rows.drop offset), Cursor.encode next⟩ :: pages)

namespace Query

variable {e : Entity} {σ : Type} {q : Query e} {t : Table} {x : Executor (StateM σ)}
  {records : List Record} {rows : List (Row e.fields)}

/-- What has been read when the first page has. -/
theorem run_pages_cons {size : Option UInt64} {page : Page e} {w : σ}
    (h : ((({ q with limit := size } : Query e).toPage x).run w).1 = .ok page)
    (sizes : List (Option UInt64)) :
    ∃ w', ((q.pages x (size :: sizes)).run w).1 =
      (((q.skipCursor page.next).pages x sizes).run w').1.map (page :: ·) := by
  generalize hrun : (({ q with limit := size } : Query e).toPage x).run w = result at h
  obtain ⟨outcome, w'⟩ := result
  obtain rfl : outcome = .ok page := h
  refine ⟨w', ?_⟩
  rw [pages, StateT.run_bind, hrun]
  rfl

/-- Whatever sizes are asked for, all pages are read, and they are consecutive. -/
theorem consecutive_pages (hq : q.Pageable t) (hx : q.AnsweredBy t x records)
    (hrows : rowsOf e records = .ok rows) (hlength : records.length < UInt64.size)
    {start : Option UInt64} (hstart : q.resolvedStart = .ok start)
    (sizes : List (Option UInt64)) (w : σ) :
    ∃ read, ((q.pages x sizes).run w).1 = .ok read ∧
      Consecutive rows (start.getD 0).toNat sizes read := by
  induction sizes generalizing q start w with
  | nil => exact ⟨[], rfl, .nil _⟩
  | cons size sizes ih =>
    -- neither the size of a page nor where it starts is among the parts that have to be there
    have hsized : ({ q with limit := size } : Query e).Pageable t :=
      ⟨hq.state, hq.filter, hq.lowered, hq.projection, hq.sortKeys⟩
    obtain ⟨next, hpage, hnext⟩ := run_toPage hsized hx hrows hlength hstart w
    obtain ⟨w', hrun⟩ := run_pages_cons hpage sizes
    have hcontinued : (q.skipCursor (Cursor.encode next)).Pageable t :=
      ⟨hq.state, hq.filter, hq.lowered, hq.projection, hq.sortKeys⟩
    have hresolved : (q.skipCursor (Cursor.encode next)).resolvedStart = .ok (some next) := by
      rw [resolvedStart, skipCursor, Cursor.decode_encode]
    obtain ⟨read, hread, hconsecutive⟩ := ih hcontinued hx hresolved w'
    refine ⟨_, ?_, .cons hnext hconsecutive⟩
    rw [hrun, hread]
    rfl

end Query

namespace Consecutive

variable {e : Entity} {rows : List (Row e.fields)} {offset : Nat} {sizes : List (Option UInt64)}
  {read : List (Page e)}

theorem length_eq (h : Consecutive rows offset sizes read) : read.length = sizes.length := by
  induction h with
  | nil => rfl
  | cons hnext rest ih => simp [ih]

/-- Together the pages are the first rows from the offset on. -/
theorem isPrefix_flatMap_items (h : Consecutive rows offset sizes read) :
    read.flatMap Page.items <+: rows.drop offset := by
  induction h with
  | nil => exact List.nil_prefix
  | @cons offset size sizes next read hnext rest ih =>
    have hcut := upTo_append_drop size (rows.drop offset)
    rw [List.drop_drop, ← hnext] at hcut
    have hrest := (List.prefix_append_right_inj (upTo size (rows.drop offset))).2 ih
    rw [hcut] at hrest
    exact hrest

/-- Each page is cut from where all pages before it have come to, and its token says where it comes
to itself. -/
theorem getElem?_eq_some (h : Consecutive rows offset sizes read) {k : Nat} {page : Page e}
    (hpage : read[k]? = some page) :
    ∃ size next, sizes[k]? = some size ∧
      page.items = upTo size (rows.drop (offset + ((read.take k).flatMap Page.items).length)) ∧
      page.next = Cursor.encode next ∧
      next.toNat = offset + ((read.take (k + 1)).flatMap Page.items).length := by
  induction h generalizing k with
  | nil => cases hpage
  | @cons offset size sizes next read hnext rest ih =>
    cases k with
    | zero =>
      cases hpage
      exact ⟨size, next, rfl, by simp, rfl, by simpa using hnext⟩
    | succ k =>
      obtain ⟨size', next', hsize, hitems, htoken, hoffset⟩ := ih hpage
      refine ⟨size', next', hsize, ?_, htoken, ?_⟩
      · rw [hitems, hnext, List.take_succ_cons, List.flatMap_cons, List.length_append,
          Nat.add_assoc]
      · rw [hoffset, hnext, List.take_succ_cons, List.flatMap_cons, List.length_append,
          Nat.add_assoc]

/-- Behind the last row all pages are empty, and their tokens stay where they are. -/
theorem of_drop_eq_nil (h : Consecutive rows offset sizes read) (hend : rows.drop offset = []) :
    ∀ page ∈ read, page.items = [] ∧ page.next = Cursor.encode (UInt64.ofNat offset) := by
  induction h with
  | nil => simp
  | @cons offset size sizes next read hnext rest ih =>
    rw [hend, upTo_nil, List.length_nil, Nat.add_zero] at hnext
    have hoffset : UInt64.ofNat offset = next := by rw [← hnext, UInt64.ofNat_toNat]
    intro page hpage
    rcases List.mem_cons.1 hpage with rfl | hlater
    · rw [hoffset, hend, upTo_nil]
      exact ⟨rfl, rfl⟩
    · rw [hnext] at ih
      exact ih hend page hlater

/-- When a page that wants rows gets none, there are none for any later page. -/
theorem eq_of_items_eq_nil (h : Consecutive rows offset sizes read) {i j : Nat} (hij : i < j)
    {size : Option UInt64} (hsize : sizes[i]? = some size) (hwants : size ≠ some 0)
    {page later : Page e} (hpage : read[i]? = some page) (hempty : page.items = [])
    (hlater : read[j]? = some later) : later.items = [] ∧ later.next = page.next := by
  induction h generalizing i j with
  | nil => cases hpage
  | @cons offset size' sizes next read hnext rest ih =>
    obtain ⟨j, rfl⟩ : ∃ j', j = j' + 1 := ⟨j - 1, by omega⟩
    cases i with
    | zero =>
      cases hsize
      cases hpage
      have hend : rows.drop offset = [] := eq_nil_of_upTo_eq_nil hwants hempty
      rw [hend, upTo_nil, List.length_nil, Nat.add_zero] at hnext
      rw [← hnext] at hend
      have hrest := rest.of_drop_eq_nil hend later (List.mem_of_getElem? hlater)
      rw [UInt64.ofNat_toNat] at hrest
      exact hrest
    | succ i => exact ih (by omega) hsize hpage hlater

end Consecutive

namespace Query

variable {e : Entity} {σ : Type} {q : Query e} {t : Table} {x : Executor (StateM σ)}
  {records : List Record}

/-- Reading a query page by page never fails, and neither loses nor repeats a row, whatever sizes
are asked for. The pages are cut one after the other from the rows behind the start of the query;
each token is read as the number of rows that the start and the pages so far make up; and when a
page that wants rows gets none, so do all later pages. -/
theorem run_pages (ht : q.scope.state = .ok t) (hfilter : q.scope.filter ≠ none) {st : Statement}
    (hst : q.toStatement = .ok st) (hx : q.AnsweredBy t x records)
    (hlength : records.length < UInt64.size)
    (hrecords : ∀ r ∈ records, ∃ row, Row.ofRecord e.fields r = .ok row)
    (sizes : List (Option UInt64)) (w : σ) :
    ∃ start rows read, q.resolvedStart = .ok start ∧ rowsOf e records = .ok rows ∧
      ((q.pages x sizes).run w).1 = .ok read ∧ read.length = sizes.length ∧
      read.flatMap Page.items <+: rows.drop (start.getD 0).toNat ∧
      (∀ (k : Nat) (page : Page e), read[k]? = some page → ∃ size next,
        sizes[k]? = some size ∧
        page.items = upTo size (rows.drop
          ((start.getD 0).toNat + ((read.take k).flatMap Page.items).length)) ∧
        Cursor.decode page.next = .ok next ∧
        next.toNat = (start.getD 0).toNat + ((read.take (k + 1)).flatMap Page.items).length) ∧
      ∀ (i j : Nat) (size : Option UInt64) (page later : Page e), i < j →
        sizes[i]? = some size → size ≠ some 0 → read[i]? = some page → page.items = [] →
        read[j]? = some later → later.items = [] ∧ later.next = page.next := by
  have hq := pageable_of_toStatement ht hfilter hst
  obtain ⟨_, start, _, _, -, hstart, -⟩ := compileSelect_eq_ok_iff.1 hst
  obtain ⟨rows, hrows⟩ := exists_mapM_of_forall hrecords
  obtain ⟨read, hread, hconsecutive⟩ := consecutive_pages hq hx hrows hlength hstart sizes w
  refine ⟨start, rows, read, hstart, hrows, hread, hconsecutive.length_eq,
    hconsecutive.isPrefix_flatMap_items, ?_, ?_⟩
  · intro k page hpage
    obtain ⟨size, next, hsize, hitems, htoken, hoffset⟩ := hconsecutive.getElem?_eq_some hpage
    refine ⟨size, next, hsize, hitems, ?_, hoffset⟩
    rw [htoken, Cursor.decode_encode]
  · intro i j size page later hij hsize hwants hpage hempty hlater
    exact hconsecutive.eq_of_items_eq_nil hij hsize hwants hpage hempty hlater

/-- A document store that has some records for every query, and gives the part that is asked for. -/
def pagingStore (records : List Record) : Executor (StateM Unit) where
  dialect := .document
  logLimit := none
  emit _ := pure ()
  fetch
    | .document (.find _ _ _ _ skip limit), _ =>
      pure (.ok (upTo limit (records.drop (skip.getD 0).toNat)))
    | _, _ => pure (.error (.other "queries only"))
  execute _ _ := pure (.error (.other "queries only"))
  executeBatch _ _ := pure (.error (.other "queries only"))

theorem answeredBy_pagingStore (hd : t.dialect = .document) :
    q.AnsweredBy t (pagingStore records) records := by
  intro s st _ hcolumns _ hst c w
  have hcomplete : (Plan.select s).Complete := projection_ne_nil hcolumns
  simp only [Plan.compile, hd] at hst
  rw [Command.ofPlan_eq hcomplete] at hst
  obtain ⟨command, hcommand, rfl⟩ := map_eq_ok_iff.1 hst
  obtain ⟨lowered, -, rfl⟩ := map_eq_ok_iff.1 hcommand
  rfl

/-- Those whom `pickyPredicate` is about but the first, the oldest first. -/
def pickyPages : Query (Table.people .document).entity :=
  (((Query.new (.start "Person" (.ok (.people .document)) none)).filter pickyPredicate).sortBy
    "age" false).skip 1

/-- Three people, one of unknown age. -/
def pickyRecords : List Record :=
  [⟨[("id", .text "p1"), ("na\"m\x60e] = $1", .text "ann"), ("age", .int 41)]⟩,
    ⟨[("id", .text "p2"), ("na\"m\x60e] = $1", .null), ("age", .int 40)]⟩,
    ⟨[("id", .text "p3"), ("na\"m\x60e] = $1", .text "eve"), ("age", .null)]⟩]

theorem run_pages_pickyPages : ∃ rows read,
    rowsOf (Table.people .document).entity pickyRecords = .ok rows ∧
      ((pickyPages.pages (pagingStore pickyRecords) [some 1, some 0, none, some 5]).run ()).1 =
        .ok read ∧
      read.flatMap Page.items <+: rows.drop 1 ∧
      ∀ (k : Nat) (page : Page (Table.people .document).entity), read[k]? = some page →
        ∃ next, Cursor.decode page.next = .ok next ∧
          next.toNat = 1 + ((read.take (k + 1)).flatMap Page.items).length := by
  have hread : ∀ r ∈ pickyRecords, ∃ row,
      Row.ofRecord (Table.people .document).entity.fields r = .ok row := by
    intro r hr
    simp only [pickyRecords, List.mem_cons, List.not_mem_nil, or_false] at hr
    rcases hr with rfl | rfl | rfl
    · exact ⟨_, rfl⟩
    · exact ⟨_, rfl⟩
    · exact ⟨_, rfl⟩
  obtain ⟨st, hst⟩ : ∃ st, pickyPages.toStatement = .ok st := ⟨_, rfl⟩
  have hfilter : pickyPages.scope.filter ≠ none := Option.some_ne_none pickyPredicate
  obtain ⟨start, rows, read, hstart, hrows, hrun, -, hprefix, hpages, -⟩ :=
    run_pages (t := .people .document) (q := pickyPages) rfl hfilter hst
      (answeredBy_pagingStore rfl) (by decide) hread [some 1, some 0, none, some 5] ()
  obtain rfl : some 1 = start := Except.ok.inj hstart
  refine ⟨rows, read, hrows, hrun, hprefix, ?_⟩
  intro k page hpage
  obtain ⟨_, next, -, -, hdecode, hnext⟩ := hpages k page hpage
  exact ⟨next, hdecode, hnext⟩

end Query

end Sift
