import QueryLoom.Proofs.Paging
import QueryLoom.Proofs.Preview

/-!
# Fetching a page

Fetching a page from beginning to end, on any database: the count that is sent first, what becomes
of its answer, and the rows that are asked for.

* `Session.totalOf` : the total that the answer to a count tells;
* `Session.getPage_windowed` : a window that was set earlier plays no part;
* `Session.getPage_of_no_room`, `Session.getPage_of_uncounted`, `Session.getPage_of_past`,
  `Session.getPage_of_within` : the four ways to end;
* `page_fetched` : all of it.
-/

namespace QueryLoom

variable {σ β : Type}

/-! ## Numbers of pages -/

namespace Page

/-- Pages are numbered from 1, and page 0 stands for the first. -/
theorem toNat_number (page : UInt64) :
    (if page = 0 then 1 else page).toNat = max page.toNat 1 := by
  by_cases first : page = 0
  · rw [if_pos first, first]
    rfl
  · have positive := toNat_pos first
    rw [if_neg first]
    omega

theorem number_ne_zero (page : UInt64) : (if page = 0 then 1 else page) ≠ 0 := by
  intro zero
  have number := toNat_number page
  rw [zero, UInt64.toNat_zero] at number
  omega

end Page

namespace Session

/-- The total that the answer to a count tells: without a row it is zero. -/
def totalOf : Except Error (Option Row) → Except Error UInt64 :=
  ofRow (ColumnType.zero .uint64) fun row => row.get 0 .uint64

variable [Database σ] {s : Session σ} {b : Builder} {page size : UInt64}

/-- A window of rows is asked for with one statement, and the rows of its answer are shown. -/
theorem sendMany_window {table : String} (clean : b.draft.firstError = none)
    (chosen : b.draft.table = some table) (s : Session σ) (offset size : UInt64)
    (visit : Visitor β) (memory : β) :
    let ended := s.sendMany { b with draft := b.draft.window offset size } visit memory
    ∃ fetch, (b.draft.window offset size).compile .select = .ok fetch ∧
      ended.1 = visited visit memory (Database.queryMany b.target fetch s.database).1 ∧
      ended.2.database = Database.after .many b.target fetch s.database := by
  let windowed : Builder := { b with draft := b.draft.window offset size }
  have fetches : windowed.draft.compile .select = .ok _ := Draft.compile_select chosen
  refine ⟨_, fetches, ?_⟩
  rw [sendMany_eq, send_of_ok (prepare_of_compile_ok (b := windowed) clean fetches), database_close]
  exact ⟨rfl, rfl⟩

/-! ## Paging -/

/-- A window that was set earlier plays no part. -/
theorem getPage_windowed (s : Session σ) (b : Builder) (limit offset : Option UInt64)
    (page size : UInt64) (visit : Visitor β) (memory : β) :
    s.getPage { b with draft := { b.draft with limit := limit, offset := offset } } page size visit
      memory = s.getPage b page size visit memory := by
  by_cases none : size = 0
  · simp only [getPage, Draft.paged, if_pos none]
    rfl
  · simp only [getPage, Draft.paged_of_ne none]
    rfl

/-- A page without room for a row is refused, and nothing is counted. -/
theorem getPage_of_no_room (clean : b.draft.errors = []) (s : Session σ) (page : UInt64)
    (visit : Visitor β) (memory : β) :
    (s.getPage b page 0 visit memory).1 =
        (.error (.build (.pagination "page size must be at least 1")), memory) ∧
      (s.getPage b page 0 visit memory).2.database = s.database := by
  have first : ((Terminal.getPage page 0 visit).draft b.draft).firstError =
      some (.pagination "page size must be at least 1") := by
    simp [Terminal.draft, Draft.paged, Draft.aggregating, Draft.addError, Draft.firstError, clean]
  have ended := finish_of_firstError (s := s) first memory
  rw [finish] at ended
  rw [ended]
  exact ⟨rfl, database_close _ _⟩

section

variable {count : Statement} {e : Error} {total : UInt64} (clean : b.draft.firstError = none)
  (compiled : (b.draft.aggregating .count).compile .select = .ok count) (room : size ≠ 0)

include clean compiled

/-- The count is sent from a copy of the draft, and the draft stays as it was. -/
theorem counted_first (s : Session σ) :
    ∃ s', s.acquire.2.aggregate b .count .uint64 =
        (totalOf (Database.queryOne b.target count s.database).1, s') ∧
      s'.database = Database.after .one b.target count s.database := by
  have ready : s.acquire.2.prepare { b with draft := b.draft.aggregating .count } .select =
      (.ok count, s.acquire.2) := prepare_of_compile_ok clean compiled
  simp only [aggregate, column, sendOne, send_of_ok ready]
  exact ⟨_, rfl, database_close _ _⟩

include room

/-- When the count fails, or its answer is no number, paging fails in the same way. -/
theorem getPage_of_uncounted
    (told : totalOf (Database.queryOne b.target count s.database).1 = .error e) (page : UInt64)
    (visit : Visitor β) (memory : β) :
    (s.getPage b page size visit memory).1 = (.error e, memory) ∧
      (s.getPage b page size visit memory).2.database =
        Database.after .one b.target count s.database := by
  obtain ⟨s', counted, received⟩ := counted_first clean compiled s
  rw [told] at counted
  simp only [getPage, Draft.paged_of_ne room, check, clean, fork, counted, database_close, received]
  trivial

/-- A page behind the last one is told from the count alone. -/
theorem getPage_of_past
    (told : totalOf (Database.queryOne b.target count s.database).1 = .ok total)
    (past : (Page.of total size).totalPages.toNat < max page.toNat 1) (visit : Visitor β)
    (memory : β) :
    (s.getPage b page size visit memory).1 = (.ok (Page.of total size), memory) ∧
      (s.getPage b page size visit memory).2.database =
        Database.after .one b.target count s.database := by
  obtain ⟨s', counted, received⟩ := counted_first clean compiled s
  rw [told] at counted
  have less : (Page.of total size).totalPages < (if page = 0 then 1 else page) := by
    rwa [UInt64.lt_iff_toNat_lt, Page.toNat_number]
  rw [getPage_of_total clean room counted]
  simp only [if_pos less, database_close, received]
  trivial

/-- On any other page a row is left, and the rows of the page are asked for. -/
theorem getPage_of_within {table : String} (chosen : b.draft.table = some table)
    (told : totalOf (Database.queryOne b.target count s.database).1 = .ok total)
    (within : max page.toNat 1 ≤ (Page.of total size).totalPages.toNat) (visit : Visitor β)
    (memory : β) :
    (max page.toNat 1 - 1) * size.toNat < total.toNat ∧
      ∃ (offset : UInt64) (fetch : Statement),
        offset.toNat = (max page.toNat 1 - 1) * size.toNat ∧
        (b.draft.window offset size).compile .select = .ok fetch ∧
        let counted := Database.after .one b.target count s.database
        let shown := visited visit memory (Database.queryMany b.target fetch counted).1
        (s.getPage b page size visit memory).1 =
            (shown.1.map fun _ => Page.of total size, shown.2) ∧
          (s.getPage b page size visit memory).2.database =
            Database.after .many b.target fetch counted := by
  obtain ⟨s', counted, received⟩ := counted_first clean compiled s
  rw [told] at counted
  have last : (if page = 0 then 1 else page) ≤ (Page.of total size).totalPages := by
    rwa [UInt64.le_iff_toNat_le, Page.toNat_number]
  have first := Page.toNat_offset room (Page.number_ne_zero page) last
  rw [Page.toNat_number] at first
  have left := (Page.lt_totalPages_iff total room (max page.toNat 1 - 1)).1 (by omega)
  obtain ⟨fetch, fetches, shown, asked⟩ := sendMany_window clean chosen s'
    (((if page = 0 then 1 else page) - 1) * size) size visit memory
  rw [received] at shown asked
  refine ⟨left, _, fetch, first, fetches, ?_⟩
  rw [getPage_of_total clean room counted]
  simp only [if_neg (UInt64.not_lt.2 last)]
  exact ⟨by rw [shown], asked⟩

end

end Session

/-! ## Main statement -/

/-- Fetching a page counts the rows of the builder first. A page without room for a row is refused,
and nothing is sent. If the count fails, or its answer is no number, paging fails with that error
and asks for no rows. Otherwise it tells the total and how many pages that makes; a page behind the
last one is left at that. For any other page one more statement is sent, which asks for the rows of
the builder with the size of the page as the limit; its offset is the number of the first row of the
page, and there is such a row, so that no arithmetic overflows. A window that was set earlier
changes nothing. An answer without a row tells a total of zero, and one statement is one entry of a
recorder. -/
theorem page_fetched {b : Builder} {table : String} (clean : b.draft.errors = [])
    (chosen : b.draft.table = some table) :
    ∃ count : Statement, (b.draft.aggregating .count).compile .select = .ok count ∧
      (∀ {σ β : Type} [Database σ] (s : Session σ) (page size : UInt64) (visit : Visitor β)
        (memory : β),
        let ended := s.getPage b page size visit memory
        let counted := Database.after .one b.target count s.database
        (size = 0 →
          ended.1 = (.error (.build (.pagination "page size must be at least 1")), memory) ∧
            ended.2.database = s.database) ∧
        (size ≠ 0 →
          match Session.totalOf (Database.queryOne b.target count s.database).1 with
          | .error e => ended.1 = (.error e, memory) ∧ ended.2.database = counted
          | .ok total =>
            let number := max page.toNat 1
            ∃ answer : Page, answer.total = total ∧
              answer.totalPages.toNat = (total.toNat + size.toNat - 1) / size.toNat ∧
              if answer.totalPages.toNat < number then
                ended.1 = (.ok answer, memory) ∧ ended.2.database = counted
              else
                (number - 1) * size.toNat < total.toNat ∧
                ∃ (offset : UInt64) (fetch : Statement),
                  offset.toNat = (number - 1) * size.toNat ∧
                  ({ b.draft with limit := some size, offset := some offset } : Draft).compile
                    .select = .ok fetch ∧
                  let shown :=
                    Session.visited visit memory (Database.queryMany b.target fetch counted).1
                  ended.1 = (shown.1.map fun _ => answer, shown.2) ∧
                    ended.2.database = Database.after .many b.target fetch counted) ∧
        ∀ limit offset,
          s.getPage { b with draft := { b.draft with limit := limit, offset := offset } } page size
            visit memory = ended) ∧
      Session.totalOf (.ok none) = .ok 0 ∧
      ∀ shape target st (r : Recorder),
        (Database.after shape target st r).sent = r.sent ++ [Recorder.sentOn target st] := by
  have nothing : b.draft.firstError = none := by rw [Draft.firstError, clean, List.head?_nil]
  have compiled : (b.draft.aggregating .count).compile .select = .ok _ :=
    Draft.compile_select chosen
  refine ⟨_, compiled, fun s page size visit memory => ⟨?_, fun room => ?_, ?_⟩, rfl,
    Recorder.sent_after⟩
  · rintro rfl
    exact s.getPage_of_no_room clean page visit memory
  · split
    · rename_i e told
      exact Session.getPage_of_uncounted nothing compiled room told page visit memory
    · rename_i total told
      refine ⟨Page.of total size, rfl, Page.toNat_totalPages room, ?_⟩
      split
      · rename_i past
        exact Session.getPage_of_past nothing compiled room told past visit memory
      · rename_i within
        exact Session.getPage_of_within nothing compiled room chosen told (Nat.not_lt.1 within)
          visit memory
  · exact fun limit offset => s.getPage_windowed b limit offset page size visit memory

/-! ### The last page of all -/

/-- All orders; the window is of no use to paging. -/
def everyOrder : Builder :=
  ⟨.connection, { table := some "orders", limit := some 7, offset := some 9 }⟩

/-- A database that counts as many orders as can be told. -/
def countlessOrders : Session Recorder where
  database := ({} : Recorder).pushScalar "count" (.uint64 18446744073709551615)
  pool := { maxIdle := 1 }
  logArguments := false

/-- The last page of the largest total is asked for with an offset that can just be told. -/
theorem page_fetched_everyOrder :
    everyOrder.draft.errors = [] ∧ everyOrder.draft.table = some "orders" ∧
      (countlessOrders.getPage everyOrder 9223372036854775808 2 (fun _ memory => (.ok (), memory))
          ()).2.database.sent =
        [⟨"SELECT COUNT(*) AS count FROM orders", []⟩,
          ⟨"SELECT * FROM orders LIMIT 2 OFFSET 18446744073709551614", []⟩].map
            (Recorder.sentOn .connection) := by
  have clean : everyOrder.draft.errors = [] := rfl
  have chosen : everyOrder.draft.table = some "orders" := rfl
  obtain ⟨count, compiled, ends, -, receives⟩ := page_fetched clean chosen
  obtain ⟨-, fetched, -⟩ := ends countlessOrders 9223372036854775808 2
    (fun _ memory => (.ok (), memory)) ()
  obtain ⟨answer, -, pages, rest⟩ := fetched (by decide)
  rw [if_neg (by rw [pages]; decide)] at rest
  obtain ⟨-, offset, fetch, first, fetches, -, asked⟩ := rest
  obtain rfl : offset = 18446744073709551614 := UInt64.toNat_inj.1 first
  cases compiled
  cases fetches
  refine ⟨clean, chosen, ?_⟩
  rw [asked, receives, receives]
  rfl

end QueryLoom
