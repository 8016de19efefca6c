import QueryLoom.Proofs.InPlace
import QueryLoom.Proofs.Paging

/-!
# The rows behind an aggregate

What a query shows of its rows, in which order and how many of them has nothing to do with which
rows there are. The statement that fetches rows and those that count or add them up have the part
that decides about the rows in common.

* `Draft.SameRows` : drafts that agree on everything that decides about the rows;
* `Arranges` : texts that put rows in order and cut a window out of them;
* `Draft.compile_rows`, `Draft.compile_aggregate`, `Draft.compile_groups` : the statements of drafts
  with the same rows;
* `Session.sent_getPage` : paging sends nothing when the draft holds an error or a page has no room,
  and otherwise the count, or the count and a window;
* `aggregates_share_source` : all of these statements have the same source and the same arguments.
-/

namespace QueryLoom

/-! ## Arrangements -/

/-- The text arranges rows: it may put them in order and cut a window out of them, and does nothing
else. -/
def Arranges (t : String) : Prop :=
  ∃ order window, t = order ++ window ∧
    (order = "" ∨ ∃ keys : List SortKey, keys ≠ [] ∧
      order = " ORDER BY " ++ ",".intercalate (keys.map SortKey.text)) ∧
    (window = "" ∨ ∃ n m, n ≠ 0 ∧ window = windowText n m)

namespace Draft

variable {d e : Draft} {table : String}

theorem pagingText_cases (d : Draft) :
    d.pagingText = "" ∨ ∃ n m, n ≠ 0 ∧ d.pagingText = windowText n m := by
  cases limit : d.limit with
  | none =>
    left
    simp only [pagingText, limit]
  | some n =>
    by_cases room : n = 0
    · left
      simp only [pagingText, limit, if_pos room]
    · right
      have same : d.pagingText = (d.window (d.offset.getD 0) n).pagingText := by
        simp only [pagingText, window, limit]
        cases d.offset <;> simp
      have some : n.toNat ≠ 0 := fun zero => room (UInt64.toNat_inj.1 zero)
      rw [same, pagingText_window d _ room]
      exact ⟨n.toNat, (d.offset.getD 0).toNat, some, rfl⟩

theorem arranges (d : Draft) : Arranges (d.orderText ++ d.pagingText) := by
  refine ⟨d.orderText, d.pagingText, rfl, ?_, d.pagingText_cases⟩
  unfold orderText
  split
  · exact .inl rfl
  · rename_i some
    exact .inr ⟨d.sortKeys, by simpa using some, rfl⟩

/-! ## Drafts with the same rows -/

/-- The drafts agree on everything that decides which rows there are. They may differ in what is
shown of the rows, in which order, and how many. -/
structure SameRows (e d : Draft) : Prop where
  table : e.table = d.table
  joins : e.joins = d.joins
  predicates : e.predicates = d.predicates
  fragments : e.fragments = d.fragments
  groups : e.groups = d.groups

namespace SameRows

theorem sourceText (same : e.SameRows d) (table : String) :
    e.sourceText table = d.sourceText table := by
  cases e
  obtain ⟨-, rfl, rfl, rfl, rfl⟩ := same
  rfl

theorem whereArguments (same : e.SameRows d) : e.whereArguments = d.whereArguments := by
  simp only [Draft.whereArguments, same.predicates]

/-- Drafts with the same rows have statements with the same arguments. -/
theorem compile_select (same : e.SameRows d) (h : d.table = some table) :
    e.compile .select = .ok ⟨e.selectText table, d.whereArguments⟩ := by
  rw [Draft.compile_select (same.table.trans h), same.whereArguments]

end SameRows

/-- The rows themselves: what is shown of them stands in front of the source, and what arranges them
behind it. -/
theorem compile_rows (same : e.SameRows d) (h : d.table = some table)
    (rows : e.aggregate = none) :
    ∃ tail, Arranges tail ∧
      e.compile .select =
        .ok ⟨"SELECT " ++ ",".intercalate (if e.fields = [] then ["*"] else e.fields) ++
          d.sourceText table ++ tail, d.whereArguments⟩ := by
  refine ⟨_, e.arranges, ?_⟩
  rw [same.compile_select h, selectText, rows, ← same.sourceText, ← clause_empty, inPlace_fields]
  simp only [String.append_assoc]

/-- An aggregate over the rows. -/
theorem compile_aggregate (same : e.SameRows d) (h : d.table = some table) {a : Aggregate}
    (aggregated : e.aggregate = some a) (single : a ≠ .count ∨ e.groups = []) :
    e.compile .select =
      .ok ⟨"SELECT " ++ a.text ++ d.sourceText table, d.whereArguments⟩ := by
  have ungrouped : ¬ (a = .count ∧ ¬ e.groups.isEmpty) := by
    rintro ⟨rfl, some⟩
    rcases single with other | none
    · exact other rfl
    · exact some (by simp [none])
  rw [same.compile_select h, selectText, aggregated, ← same.sourceText]
  simp only [if_neg ungrouped]

/-- A count of groups: the rows are grouped inside, and show the selected fields or else the columns
grouped by. -/
theorem compile_groups (same : e.SameRows d) (h : d.table = some table)
    (aggregated : e.aggregate = some .count) (grouped : e.groups ≠ []) :
    e.compile .select =
      .ok ⟨"SELECT COUNT(*) AS count FROM (SELECT " ++
          ",".intercalate (if e.fields = [] then e.groups else e.fields) ++
          d.sourceText table ++ ") AS grouped", d.whereArguments⟩ := by
  have some : Aggregate.count = .count ∧ ¬ e.groups.isEmpty := ⟨rfl, by simpa using grouped⟩
  have front : "SELECT " ++ Aggregate.count.text ++ " FROM (SELECT " =
      "SELECT COUNT(*) AS count FROM (SELECT " := rfl
  have inner : e.groupedFieldText =
      ",".intercalate (if e.fields = [] then e.groups else e.fields) := by
    simp only [groupedFieldText, List.isEmpty_iff]
  have text : e.selectText table = "SELECT " ++ Aggregate.count.text ++ " FROM (SELECT " ++
      e.groupedFieldText ++ e.sourceText table ++ ") AS grouped" := by
    rw [selectText, aggregated]
    exact if_pos some
  rw [same.compile_select h, text, front, inner, same.sourceText]

/-- A count, of rows or of groups, has the source in it. -/
theorem compile_count (same : e.SameRows d) (h : d.table = some table)
    (aggregated : e.aggregate = some .count) :
    ∃ front back,
      e.compile .select = .ok ⟨front ++ d.sourceText table ++ back, d.whereArguments⟩ := by
  by_cases none : e.groups = []
  · refine ⟨"SELECT " ++ Aggregate.count.text, "", ?_⟩
    rw [String.append_empty]
    exact compile_aggregate same h aggregated (.inr none)
  · exact ⟨_, _, compile_groups same h aggregated none⟩

end Draft

/-! ## Paging -/

theorem Draft.firstError_paged_ne_none {d : Draft} {size : UInt64} :
    (d.paged size).firstError ≠ none ↔ d.firstError ≠ none ∨ size = 0 := by
  by_cases room : size = 0
  · simp [paged, room, addError, firstError]
  · simp [paged_of_ne room, room]

namespace Session

variable {β : Type} {table : String}

/-- An error of the draft, or a page without room, keeps paging from sending anything. -/
theorem sent_getPage_of_firstError (s : Session Recorder) {b : Builder} {page size : UInt64}
    {e : BuildError} (failed : (b.draft.paged size).firstError = some e) (visit : Visitor β)
    (memory : β) :
    (s.getPage b page size visit memory).2.database.sent = s.database.sent := by
  have ended := finish_of_firstError (s := s) (t := .getPage page size visit) failed memory
  rw [finish] at ended
  rw [ended, database_close]
  rfl

/-- Otherwise paging sends the count, or the count and then a window of the rows. -/
theorem sent_getPage (s : Session Recorder) {b : Builder} (h : b.draft.table = some table)
    (page : UInt64) {size : UInt64} (clean : b.draft.firstError = none) (room : size ≠ 0)
    (visit : Visitor β) (memory : β) :
    let sent := (s.getPage b page size visit memory).2.database.sent
    ∃ count, (b.draft.aggregating .count).compile .select = .ok count ∧
      (sent = s.database.sent ++ [Recorder.sentOn b.target count] ∨
        ∃ offset fetch, (b.draft.window offset size).compile .select = .ok fetch ∧
          sent = s.database.sent ++ [count, fetch].map (Recorder.sentOn b.target)) := by
  intro sent
  have paged : b.draft.paged size = b.draft := Draft.paged_of_ne room
  have ended := @getPage_session Recorder _ β s b page size visit memory (by rw [paged, clean])
  rw [paged] at ended
  let counting : Builder := { b with draft := b.draft.aggregating .count }
  have same : (Terminal.getPage page size visit).builder b = counting := by
    simp only [Terminal.builder, Terminal.draft, paged, counting]
  rw [same] at ended
  have ready : s.acquire.2.prepare counting .select = (.ok _, s.acquire.2) :=
    prepare_select clean h
  have counted := sent_sendOne ready
  generalize (s.acquire.2.sendOne counting).2 = s' at counted ended
  refine ⟨_, Draft.compile_select h, ?_⟩
  rcases ended with ended | ⟨offset, ended⟩
  · left
    simp only [sent, ended, database_close]
    exact counted
  · right
    let windowed : Builder := { b with draft := b.draft.window offset size }
    have shown : s'.prepare windowed .select = (.ok _, s') := prepare_select clean h
    refine ⟨offset, _, Draft.compile_select h, ?_⟩
    simp only [sent, ended]
    rw [sent_sendMany shown, counted, List.append_assoc]
    rfl

end Session

/-! ## Main statement -/

/-- All drafts with the same rows have one source and one list of arguments in common, which do not
depend on what is shown of the rows, on their order or on the window. The rows themselves, the
aggregates over them and the count of their groups are put around this source, and only the rows
themselves have something behind it, which arranges them. So an aggregate takes no notice of order
and paging, and the count and the rows of a page are about the same. Paging sends nothing exactly
when the draft holds an error or the page has no room. -/
theorem aggregates_share_source (d : Draft) (table : String) (h : d.table = some table) :
    ∃ source params,
      source = d.sourceInPlace (fun _ => "?") table ∧
      params = d.predicates.flatMap Predicate.values ∧
      (∀ e : Draft, e.SameRows d →
        (e.aggregate = none → ∃ tail, Arranges tail ∧
          e.compile .select = .ok ⟨"SELECT " ++
            ",".intercalate (if e.fields = [] then ["*"] else e.fields) ++ source ++ tail,
            params⟩) ∧
        (∀ a, e.aggregate = some a → a ≠ .count ∨ e.groups = [] →
          e.compile .select = .ok ⟨"SELECT " ++ a.text ++ source, params⟩) ∧
        (e.aggregate = some .count → e.groups ≠ [] →
          e.compile .select = .ok ⟨"SELECT COUNT(*) AS count FROM (SELECT " ++
            ",".intercalate (if e.fields = [] then e.groups else e.fields) ++ source ++
            ") AS grouped", params⟩) ∧
        ∀ a keys limit offset,
          ({ e with
              aggregate := some a, sortKeys := keys, limit := limit,
              offset := offset } : Draft).compile .select =
            ({ e with aggregate := some a } : Draft).compile .select) ∧
      ∀ {β : Type} (s : Session Recorder) (b : Builder) (page size : UInt64) (visit : Visitor β)
        (memory : β), b.draft.SameRows d → b.draft.aggregate = none →
        let sent := (s.getPage b page size visit memory).2.database.sent
        (b.draft.firstError ≠ none ∨ size = 0 → sent = s.database.sent) ∧
        (b.draft.firstError = none → size ≠ 0 →
          ∃ count front back, (b.draft.aggregating .count).compile .select = .ok count ∧
            count = ⟨front ++ source ++ back, params⟩ ∧
            (sent = s.database.sent ++ [Recorder.sentOn b.target count] ∨
              ∃ fetch tail, Arranges tail ∧
                fetch = ⟨"SELECT " ++
                  ",".intercalate (if b.draft.fields = [] then ["*"] else b.draft.fields) ++
                  source ++ tail, params⟩ ∧
                sent = s.database.sent ++ [count, fetch].map (Recorder.sentOn b.target))) := by
  refine ⟨d.sourceText table, d.whereArguments, (d.sourceInPlace_marks table).symm, rfl,
    fun e same => ⟨?_, ?_, ?_, ?_⟩, ?_⟩
  · exact Draft.compile_rows same h
  · exact fun a => Draft.compile_aggregate same h
  · exact Draft.compile_groups same h
  · intro a keys limit offset
    rfl
  · intro β s b page size visit memory same rows sent
    refine ⟨fun failed => ?_, fun clean room => ?_⟩
    · obtain ⟨e, failed⟩ : ∃ e, (b.draft.paged size).firstError = some e :=
        Option.ne_none_iff_exists'.1 (Draft.firstError_paged_ne_none.2 failed)
      exact s.sent_getPage_of_firstError failed visit memory
    · have counting : (b.draft.aggregating .count).SameRows d :=
        ⟨same.table, same.joins, same.predicates, same.fragments, same.groups⟩
      obtain ⟨front, back, counted⟩ := Draft.compile_count counting h rfl
      obtain ⟨count, compiled, shown⟩ :=
        s.sent_getPage (same.table.trans h) page clean room visit memory
      obtain rfl : count = _ := Except.ok.inj (compiled.symm.trans counted)
      refine ⟨_, front, back, compiled, rfl, ?_⟩
      rcases shown with ended | ⟨offset, fetch, fetched, ended⟩
      · exact .inl ended
      · have windowed : (b.draft.window offset size).SameRows d :=
          ⟨same.table, same.joins, same.predicates, same.fragments, same.groups⟩
        obtain ⟨tail, arranges, text⟩ := Draft.compile_rows windowed h rows
        obtain rfl : fetch = _ := Except.ok.inj (fetched.symm.trans text)
        exact .inr ⟨_, tail, arranges, rfl, ended⟩

/-- Large orders by user, ten users at most. -/
def ordersByUser : Draft :=
  ({ table := some "orders" } : Draft).applyAll
    [.join ⟨.inner, "users", "users.id=orders.user"⟩, .groupBy ["user"],
      .require false (.compare "total" (.known (.scalar .ge)) (.int32 5)),
      .orderBy ⟨"user", .ascending⟩, .limit 10]

/-- The users are counted without regard to the order and the limit. -/
theorem aggregates_share_source_ordersByUser :
    ordersByUser.table = some "orders" ∧ ∃ source params,
      source = " FROM orders INNER JOIN users ON users.id=orders.user WHERE total >= ? " ++
        "GROUP BY user" ∧
      params = [.int32 5] ∧
      (ordersByUser.aggregating .count).compile .select =
        .ok ⟨"SELECT COUNT(*) AS count FROM (SELECT " ++ "user" ++ source ++ ") AS grouped",
          params⟩ ∧
      (ordersByUser.aggregating (.sum "total")).compile .select =
        .ok ⟨"SELECT " ++ "SUM(total) AS sum" ++ source, params⟩ ∧
      ∃ tail, Arranges tail ∧
        ordersByUser.compile .select = .ok ⟨"SELECT " ++ "*" ++ source ++ tail, params⟩ := by
  have table : ordersByUser.table = some "orders" := rfl
  obtain ⟨source, params, text, values, forms, -⟩ :=
    aggregates_share_source ordersByUser "orders" table
  have itself (a : Option Aggregate) :
      ({ ordersByUser with aggregate := a } : Draft).SameRows ordersByUser :=
    ⟨rfl, rfl, rfl, rfl, rfl⟩
  refine ⟨table, source, params, text, values, ?_, ?_, ?_⟩
  · exact (forms _ (itself (some .count))).2.2.1 rfl (by decide)
  · exact (forms _ (itself (some (.sum "total")))).2.1 _ rfl (.inl (by decide))
  · exact (forms _ (itself none)).1 rfl

end QueryLoom
