import Mathlib.Data.List.Chain
import Mathlib.Data.List.DropRight
import QueryLoom.Proofs.Refusal

/-!
# Pages

The statements that fetch the pages of a query, one after the other, and the rows that each of them
asks for.

* `Statement.window?`, `Statement.rows` : the window at the end of a statement, as it is read from
  the text, and the rows in it;
* `Tiles` : intervals that follow upon each other without gaps;
* `Page.lt_totalPages_iff` : a page is one of the pages exactly when a row is left for it;
* `Session.getPage_of_total` : how paging goes on after the count;
* `pages_tile` : the windows of all pages tile the rows.
-/

namespace QueryLoom

/-! ## Reading windows -/

/-- The number at the end of a text, with the text before it. -/
def numberAtEnd (cs : List Char) : Option (List Char × Nat) :=
  let digits := cs.rtakeWhile Char.isDigit
  if digits = [] then none
  else some (cs.rdropWhile Char.isDigit, Nat.ofDigitChars 10 digits 0)

/-- The number behind a keyword at the end of a text, with the text before the keyword. -/
def clauseAtEnd (keyword : String) (cs : List Char) : Option (List Char × Nat) :=
  (numberAtEnd cs).bind fun (before, n) =>
    (before.dropSuffix? keyword.toList).map fun front => (front, n)

/-- The text in front of the window of a statement, the number of rows that it asks for, and the
number of those that it leaves out. A window without an offset begins with the first row. -/
def Statement.window? (st : Statement) : Option (String × Nat × Nat) :=
  match clauseAtEnd " LIMIT " st.sql.toList with
  | some (front, n) => some (String.ofList front, n, 0)
  | none =>
    (clauseAtEnd " OFFSET " st.sql.toList).bind fun (before, m) =>
      (clauseAtEnd " LIMIT " before).map fun (front, n) => (String.ofList front, n, m)

/-- The rows that a statement asks for, of so many rows: those from the first number up to the
second. -/
def Statement.rows (total : Nat) (st : Statement) : Nat × Nat :=
  match st.window? with
  | some (_, n, m) => (m, min (m + n) total)
  | none => (0, total)

theorem numberAtEnd_decimal {front : List Char} (stop : front.getLast? = some ' ') (n : Nat) :
    numberAtEnd (front ++ Text.decimal n) = some (front, n) := by
  obtain ⟨before, rfl⟩ := List.getLast?_eq_some_iff.1 stop
  have digits : ∀ c ∈ (Text.decimal n).reverse, c.isDigit = true := fun c member =>
    Text.isDigit_of_mem_decimal (List.mem_reverse.1 member)
  have taken : (before ++ [' '] ++ Text.decimal n).rtakeWhile Char.isDigit = Text.decimal n := by
    rw [List.rtakeWhile, List.reverse_append, List.takeWhile_append_of_pos digits]
    simp
  have dropped : (before ++ [' '] ++ Text.decimal n).rdropWhile Char.isDigit = before ++ [' '] := by
    rw [List.rdropWhile, List.reverse_append, List.dropWhile_append_of_pos digits]
    simp
  have some : Text.decimal n ≠ [] := Nat.toDigits_ne_nil
  have value : Nat.ofDigitChars 10 (Text.decimal n) 0 = n := Nat.ofDigitChars_ten_toDigits
  rw [numberAtEnd, taken, dropped, if_neg some, value]

theorem getLast?_append_keyword {keyword : String} (stop : keyword.toList.getLast? = some ' ')
    (front : List Char) : (front ++ keyword.toList).getLast? = some ' ' := by
  rw [List.getLast?_append, stop, Option.some_or]

/-- A keyword is found at the end. -/
theorem clauseAtEnd_self {keyword : String} (stop : keyword.toList.getLast? = some ' ')
    (front : List Char) (n : Nat) :
    clauseAtEnd keyword (front ++ keyword.toList ++ Text.decimal n) = some (front, n) := by
  have found : (front ++ keyword.toList).dropSuffix? keyword.toList = some front :=
    List.dropSuffix?_eq_some_iff.2 ⟨_, rfl, by simp⟩
  simp only [clauseAtEnd, numberAtEnd_decimal (getLast?_append_keyword stop front),
    Option.bind_some, found, Option.map_some]

/-- A keyword is not found in the place of another one. -/
theorem clauseAtEnd_other {keyword other : String} (stop : other.toList.getLast? = some ' ')
    (apart : ¬ keyword.toList <:+ other.toList ∧ ¬ other.toList <:+ keyword.toList)
    (front : List Char) (n : Nat) :
    clauseAtEnd keyword (front ++ other.toList ++ Text.decimal n) = none := by
  have missing : (front ++ other.toList).dropSuffix? keyword.toList = none := by
    rw [Option.eq_none_iff_forall_ne_some]
    intro before found
    obtain ⟨end_, split, same⟩ := List.dropSuffix?_eq_some_iff.1 found
    rw [beq_iff_eq] at same
    have behind : keyword.toList <:+ front ++ other.toList := ⟨before, by rw [split, same]⟩
    have other_behind : other.toList <:+ front ++ other.toList := List.suffix_append _ _
    rcases List.suffix_or_suffix_of_suffix behind other_behind with inside | inside
    · exact apart.1 inside
    · exact apart.2 inside
  simp only [clauseAtEnd, numberAtEnd_decimal (getLast?_append_keyword stop front),
    Option.bind_some, missing, Option.map_none]

/-- A window as it is written: an offset of zero is left out. -/
def windowText (n m : Nat) : String :=
  " LIMIT " ++ String.ofList (Text.decimal n) ++
    if m = 0 then "" else " OFFSET " ++ String.ofList (Text.decimal m)

/-- A window is read as it was written. -/
theorem Statement.window?_of_text {st : Statement} {front : String} {n m : Nat}
    (text : st.sql = front ++ windowText n m) : st.window? = some (front, n, m) := by
  by_cases first : m = 0
  · have chars : st.sql.toList = front.toList ++ " LIMIT ".toList ++ Text.decimal n := by
      simp [text, windowText, first]
    rw [window?, chars, clauseAtEnd_self (by decide), first]
    simp
  · have chars : st.sql.toList = front.toList ++ " LIMIT ".toList ++ Text.decimal n ++
        " OFFSET ".toList ++ Text.decimal m := by
      simp [text, windowText, first]
    have other : clauseAtEnd " LIMIT " st.sql.toList = none := by
      rw [chars, clauseAtEnd_other (by decide) (by decide)]
    have limited : clauseAtEnd " LIMIT " (front.toList ++ " LIMIT ".toList ++ Text.decimal n) =
        some (front.toList, n) := clauseAtEnd_self (by decide) _ _
    rw [window?, other, chars, clauseAtEnd_self (by decide)]
    simp only [Option.bind_some, limited, Option.map_some, String.ofList_toList]

/-! ## Tiles -/

/-- Intervals of rows, none of them empty, that follow upon each other without gaps from a first row
up to a last one, which is not included. -/
def Tiles : Nat → List (Nat × Nat) → Nat → Prop
  | lo, [], hi => lo = hi
  | lo, w :: ws, hi => w.1 = lo ∧ w.1 < w.2 ∧ Tiles w.2 ws hi

namespace Tiles

variable {lo hi : Nat} {ws : List (Nat × Nat)}

theorem lo_le (h : Tiles lo ws hi) : lo ≤ hi := by
  induction ws generalizing lo with
  | nil => exact Nat.le_of_eq h
  | cons w ws ih =>
    obtain ⟨rfl, some, rest⟩ := h
    exact some.le.trans (ih rest)

theorem nonempty (h : Tiles lo ws hi) : ∀ w ∈ ws, w.1 < w.2 := by
  induction ws generalizing lo with
  | nil => simp
  | cons w ws ih =>
    obtain ⟨-, some, rest⟩ := h
    exact List.forall_mem_cons.2 ⟨some, ih rest⟩

/-- All of the intervals begin behind the first row. -/
theorem lo_le_of_mem (h : Tiles lo ws hi) : ∀ w ∈ ws, lo ≤ w.1 := by
  induction ws generalizing lo with
  | nil => simp
  | cons w ws ih =>
    obtain ⟨rfl, some, rest⟩ := h
    refine List.forall_mem_cons.2 ⟨Nat.le_refl _, fun v member => ?_⟩
    exact some.le.trans (ih rest v member)

/-- An earlier interval ends before a later one begins. -/
theorem pairwise (h : Tiles lo ws hi) : ws.Pairwise fun v w => v.2 ≤ w.1 := by
  induction ws generalizing lo with
  | nil => exact .nil
  | cons w ws ih =>
    obtain ⟨-, -, rest⟩ := h
    exact .cons (lo_le_of_mem rest) (ih rest)

/-- An interval ends where the next one begins. -/
theorem isChain (h : Tiles lo ws hi) : ws.IsChain fun v w => v.2 = w.1 := by
  induction ws generalizing lo with
  | nil => exact .nil
  | cons w ws ih =>
    obtain ⟨-, -, rest⟩ := h
    refine List.isChain_cons.2 ⟨fun v first => ?_, ih rest⟩
    obtain ⟨vs, rfl⟩ := List.head?_eq_some_iff.1 first
    exact rest.1.symm

/-- A row is between the first and the last exactly when it is in one of the intervals. -/
theorem covers (h : Tiles lo ws hi) (i : Nat) :
    lo ≤ i ∧ i < hi ↔ ∃ w ∈ ws, w.1 ≤ i ∧ i < w.2 := by
  induction ws generalizing lo with
  | nil =>
    have same : lo = hi := h
    simp
    omega
  | cons w ws ih =>
    obtain ⟨rfl, some, rest⟩ := h
    have last := rest.lo_le
    rw [List.exists_mem_cons_iff, ← ih rest]
    omega

end Tiles

/-- Windows of one size, from some page on up to the one that the last row is on. -/
theorem tiles_windows {size total first count : Nat}
    (some : ∀ k < first + count, k * size < total) (all : total ≤ (first + count) * size) :
    Tiles (min (first * size) total)
      ((List.range' first count).map fun k => (k * size, min (k * size + size) total)) total := by
  induction count generalizing first with
  | zero =>
    rw [Nat.add_zero] at all
    exact Nat.min_eq_right all
  | succ count ih =>
    have here := some first (by omega)
    have rest := @ih (first + 1) (fun k less => some k (by omega)) (by
      rwa [Nat.add_assoc, Nat.add_comm 1])
    rw [Nat.add_one_mul] at rest
    refine ⟨(Nat.min_eq_left here.le).symm, ?_, rest⟩
    show first * size < min (first * size + size) total
    have room : size ≠ 0 := by
      rintro rfl
      omega
    omega

/-! ## Numbers of pages -/

namespace Page

variable {total size : UInt64}

theorem toNat_pos (room : size ≠ 0) : 0 < size.toNat := by
  have some : size.toNat ≠ 0 := fun zero => room (UInt64.toNat_inj.1 zero)
  omega

/-- The last page may be short. -/
theorem toNat_totalPages (room : size ≠ 0) :
    (Page.of total size).totalPages.toNat = (total.toNat + size.toNat - 1) / size.toNat := by
  have positive := toNat_pos room
  have parts := Nat.div_add_mod' total.toNat size.toNat
  have rest := Nat.mod_lt total.toNat positive
  have exact_iff : total % size = 0 ↔ total.toNat % size.toNat = 0 := by
    rw [← UInt64.toNat_mod]
    exact ⟨fun whole => congrArg UInt64.toNat whole, fun zero => UInt64.toNat_inj.1 zero⟩
  symm
  by_cases whole : total % size = 0
  · have none := exact_iff.1 whole
    simp only [Page.of, if_pos whole, UInt64.toNat_div]
    apply Nat.div_eq_of_lt_le
    · omega
    · rw [Nat.add_one_mul]
      omega
  · have some : total.toNat % size.toNat ≠ 0 := fun zero => whole (exact_iff.2 zero)
    have bound := total.toNat_lt
    have fewer := Nat.le_mul_of_pos_right (total.toNat / size.toNat) positive
    have one : (1 : UInt64).toNat = 1 := rfl
    have sum : (total / size + 1).toNat = total.toNat / size.toNat + 1 := by
      rw [UInt64.toNat_add, UInt64.toNat_div, one]
      apply Nat.mod_eq_of_lt
      omega
    simp only [Page.of, if_neg whole, sum]
    apply Nat.div_eq_of_lt_le
    · rw [Nat.add_one_mul]
      omega
    · rw [Nat.add_one_mul, Nat.add_one_mul]
      omega

/-- A page is one of the pages exactly when a row is left for it. -/
theorem lt_totalPages_iff (total : UInt64) (room : size ≠ 0) (k : Nat) :
    k < (Page.of total size).totalPages.toNat ↔ k * size.toNat < total.toNat := by
  have positive := toNat_pos room
  rw [toNat_totalPages room, ← Nat.add_one_le_iff, Nat.le_div_iff_mul_le positive,
    Nat.add_one_mul]
  omega

/-- The first row of a page is a number of a row, so that it can be told. -/
theorem toNat_offset (room : size ≠ 0) {page : UInt64} (first : page ≠ 0)
    (last : page ≤ (Page.of total size).totalPages) :
    ((page - 1) * size).toNat = (page.toNat - 1) * size.toNat := by
  have positive := toNat_pos first
  have within : page.toNat ≤ (Page.of total size).totalPages.toNat := last
  have left := (lt_totalPages_iff total room (page.toNat - 1)).1 (by omega)
  have bound := total.toNat_lt
  have one : (1 : UInt64) ≤ page := by
    rw [UInt64.le_iff_toNat_le]
    exact positive
  rw [UInt64.toNat_mul, UInt64.toNat_sub_of_le _ _ one]
  apply Nat.mod_eq_of_lt
  have same : (1 : UInt64).toNat = 1 := rfl
  rw [same]
  omega

/-- The windows of all pages tile the rows. -/
theorem tiles (total : UInt64) (room : size ≠ 0) :
    Tiles 0 ((List.range (Page.of total size).totalPages.toNat).map fun k =>
      (k * size.toNat, min (k * size.toNat + size.toNat) total.toNat)) total.toNat := by
  have all : total.toNat ≤ (Page.of total size).totalPages.toNat * size.toNat := by
    have ended := (lt_totalPages_iff total room
      (Page.of total size).totalPages.toNat).not.1 (Nat.lt_irrefl _)
    omega
  have windows := @tiles_windows size.toNat total.toNat 0 (Page.of total size).totalPages.toNat
    (fun k less => (lt_totalPages_iff total room k).1 (by rwa [Nat.zero_add] at less))
    (by rwa [Nat.zero_add])
  rw [Nat.zero_mul, Nat.zero_min] at windows
  rwa [List.range_eq_range']

end Page

/-! ## Statements of a draft -/

namespace Draft

variable {d : Draft} {table : String}

theorem compile_select (h : d.table = some table) :
    d.compile .select = .ok ⟨d.selectText table, d.whereArguments⟩ := by
  simp only [compile, h]

theorem paged_of_ne {size : UInt64} (room : size ≠ 0) : d.paged size = d := if_neg room

theorem pagingText_window (d : Draft) {n : UInt64} (m : UInt64) (room : n ≠ 0) :
    (d.window m n).pagingText = windowText n.toNat m.toNat := by
  have zero_iff : m.toNat = 0 ↔ m = 0 := ⟨fun zero => UInt64.toNat_inj.1 zero, fun zero => by
    rw [zero]
    rfl⟩
  simp only [pagingText, window, if_neg room, windowText, zero_iff]

/-- The text of a window of rows: only its end depends on the window. -/
theorem selectText_window (rows : d.aggregate = none) {n : UInt64} (m : UInt64) (room : n ≠ 0) :
    (d.window m n).selectText table =
      "SELECT " ++ d.fieldText ++ d.sourceText table ++ d.orderText ++
        windowText n.toNat m.toNat := by
  have same : (d.window m n).aggregate = none := rows
  rw [← pagingText_window d m room, selectText, same]
  rfl

theorem aggregate_apply (d : Draft) (c : Call) : (d.apply c).aggregate = d.aggregate := by
  cases c with
  | require skipZero c => simp only [apply]; cases c.outcome skipZero <;> rfl
  | _ => rfl

/-- No chain of calls asks for an aggregate. -/
theorem aggregate_applyAll (d : Draft) (calls : List Call) :
    (d.applyAll calls).aggregate = d.aggregate :=
  applyAll_induction (P := fun e => e.aggregate = d.aggregate)
    (fun e c same => (aggregate_apply e c).trans same) rfl calls

end Draft

/-! ## Counting first -/

/-- The recorder answers a count with a number: of a missing row the number is zero. -/
structure Recorder.CountsTo (r : Recorder) (total : UInt64) : Prop where
  ready : r.failure = none
  reply : Session.ofRow (ColumnType.zero .uint64) (fun row => row.get 0 .uint64)
    (.ok r.answerRows.1.head?) = .ok total

theorem Recorder.query_of_none {r : Recorder} (h : r.failure = none) (target : Target)
    (st : Statement) : (query target st r).1 = .ok r.answerRows.1 := by
  rw [query, receive_of_none h]
  simp only [answerRows]
  split <;> rfl

namespace Session

section

variable {σ β : Type} [Database σ] {s s' : Session σ} {b : Builder} {page size total : UInt64}

/-- Once the rows are counted, paging ends there if no row is left for the page, and goes on with
the window of the page otherwise. -/
theorem getPage_of_total (clean : b.draft.firstError = none) (room : size ≠ 0)
    (counted : s.acquire.2.aggregate b .count .uint64 = (.ok total, s')) (visit : Visitor β)
    (memory : β) :
    s.getPage b page size visit memory =
      let result := Page.of total size
      let number := if page = 0 then 1 else page
      if result.totalPages < number then ((.ok result, memory), s'.close b)
      else
        let windowed := { b with draft := b.draft.window ((number - 1) * size) size }
        let shown := s'.sendMany windowed visit memory
        ((shown.1.1.map fun _ => result, shown.1.2), shown.2) := by
  simp only [getPage, Draft.paged_of_ne room, check, clean, fork, counted]

end

variable {β : Type} {s s' : Session Recorder} {b : Builder} {st : Statement} {total : UInt64}

/-- A draft with a table and without errors has its rows to ask for. -/
theorem prepare_select {table : String} (clean : b.draft.firstError = none)
    (h : b.draft.table = some table) :
    s.prepare b .select = (.ok ⟨b.draft.selectText table, b.draft.whereArguments⟩, s) :=
  prepare_of_compile_ok clean (Draft.compile_select h)

theorem sent_sendOne (ready : s.prepare b .select = (.ok st, s)) :
    (s.sendOne b).2.database.sent = s.database.sent ++ [Recorder.sentOn b.target st] := by
  rw [sendOne, send_of_ok ready, database_close]
  exact Recorder.sent_query b.target st s.database

theorem sent_sendMany (ready : s.prepare b .select = (.ok st, s)) (visit : Visitor β)
    (memory : β) : (s.sendMany b visit memory).2.database.sent =
      s.database.sent ++ [Recorder.sentOn b.target st] := by
  rw [sendMany_eq, send_of_ok ready, database_close]
  exact Recorder.sent_query b.target st s.database

/-- A count gives the number with which the recorder answers. -/
theorem aggregate_count (counts : s.database.CountsTo total)
    (ready : s.prepare { b with draft := b.draft.aggregating .count } .select = (.ok st, s)) :
    (s.aggregate b .count .uint64).1 = .ok total := by
  have answer : (s.queryOne b.target st).1 = .ok s.database.answerRows.1.head? :=
    congrArg (Except.map List.head?) (Recorder.query_of_none counts.ready b.target st)
  simp only [aggregate, column, sendOne, send_of_ok ready, answer]
  exact counts.reply

/-- A page on which there are rows: the count is sent, and then the window of the page. -/
theorem getPage_of_countsTo {table : String} {page size : UInt64}
    (clean : b.draft.firstError = none) (chosen : b.draft.table = some table)
    (rows : b.draft.aggregate = none) (room : size ≠ 0) (counts : s.database.CountsTo total)
    (first : page ≠ 0) (last : page ≤ (Page.of total size).totalPages) (visit : Visitor β)
    (memory : β) :
    (∀ answer, (s.getPage b page size visit memory).1.1 = .ok answer →
        answer = Page.of total size) ∧
      (s.getPage b page size visit memory).2.database.sent = s.database.sent ++
        [⟨(b.draft.aggregating .count).selectText table, b.draft.whereArguments⟩,
          ⟨"SELECT " ++ b.draft.fieldText ++ b.draft.sourceText table ++ b.draft.orderText ++
              windowText size.toNat ((page.toNat - 1) * size.toNat),
            b.draft.whereArguments⟩].map (Recorder.sentOn b.target) := by
  let counting : Builder := { b with draft := b.draft.aggregating .count }
  let windowed : Builder := { b with draft := b.draft.window ((page - 1) * size) size }
  have ready : s.acquire.2.prepare counting .select = (.ok _, s.acquire.2) :=
    prepare_select clean chosen
  have counted : s.acquire.2.aggregate b .count .uint64 =
      (.ok total, (s.acquire.2.aggregate b .count .uint64).2) :=
    Prod.ext (aggregate_count (by simpa using counts) ready) rfl
  have sent : (s.acquire.2.aggregate b .count .uint64).2.database.sent =
      s.database.sent ++ [Recorder.sentOn b.target _] := sent_sendOne ready
  generalize (s.acquire.2.aggregate b .count .uint64).2 = s' at counted sent
  have shown : s'.prepare windowed .select = (.ok _, s') := prepare_select clean chosen
  rw [getPage_of_total clean room counted]
  simp only [if_neg first, if_neg (UInt64.not_lt.2 last)]
  refine ⟨fun answer given => ?_, ?_⟩
  · cases answered : (s'.sendMany windowed visit memory).1.1 with
    | error e =>
      rw [answered] at given
      cases given
    | ok _ =>
      rw [answered] at given
      exact (Except.ok.inj given).symm
  · have text : windowed.draft.selectText table = _ :=
      Draft.selectText_window rows ((page - 1) * size) room
    rw [Page.toNat_offset room first last] at text
    rw [sent_sendMany shown, sent, List.append_assoc, ← text]
    rfl

end Session

/-! ## Main statement -/

/-- The statements that fetch the pages of a query, when so many rows are counted, differ only in
the windows at their ends. Read from the texts, the windows of all pages are not empty, follow upon
each other without gaps, and cover exactly the rows that were counted. -/
theorem pages_tile (target : Target) (table : String) (calls : List Call) (total size : UInt64)
    (clean : (({ table := some table } : Draft).applyAll calls).errors = []) (room : size ≠ 0) :
    ∃ (count : Statement) (fetches : List Statement),
      fetches.length = (Page.of total size).totalPages.toNat ∧
      (∀ {β : Type} (s : Session Recorder) (page : UInt64) (visit : Visitor β) (memory : β),
        s.database.CountsTo total → page ≠ 0 → page ≤ (Page.of total size).totalPages →
          let ended := s.getPage (.chained target (some table) calls) page size visit memory
          (∀ answer, ended.1.1 = .ok answer → answer = Page.of total size) ∧
            ∃ fetch, fetches[page.toNat - 1]? = some fetch ∧
              ended.2.database.sent =
                s.database.sent ++ [count, fetch].map (Recorder.sentOn target)) ∧
      (∃ front params, ∀ st ∈ fetches, st.params = params ∧
        ∃ n m, st.sql = front ++ windowText n m ∧ st.window? = some (front, n, m)) ∧
      let windows := fetches.map (Statement.rows total.toNat)
      (∀ w ∈ windows, w.1 < w.2) ∧ (windows.Pairwise fun v w => v.2 ≤ w.1) ∧
        (windows.IsChain fun v w => v.2 = w.1) ∧
        ∀ i, i < total.toNat ↔ ∃ w ∈ windows, w.1 ≤ i ∧ i < w.2 := by
  let b : Builder := .chained target (some table) calls
  have chosen : b.draft.table = some table := Draft.table_applyAll _ calls
  have rows : b.draft.aggregate = none := Draft.aggregate_applyAll _ calls
  have none : b.draft.firstError = none := by rw [Draft.firstError, clean, List.head?_nil]
  let front := "SELECT " ++ b.draft.fieldText ++ b.draft.sourceText table ++ b.draft.orderText
  let fetch (k : Nat) : Statement :=
    ⟨front ++ windowText size.toNat (k * size.toNat), b.draft.whereArguments⟩
  let fetches := (List.range (Page.of total size).totalPages.toNat).map fetch
  let count : Statement := ⟨(b.draft.aggregating .count).selectText table, b.draft.whereArguments⟩
  have window (k : Nat) : (fetch k).window? = some (front, size.toNat, k * size.toNat) :=
    Statement.window?_of_text rfl
  refine ⟨count, fetches, by simp [fetches], ?_, ⟨front, b.draft.whereArguments, ?_⟩, ?_⟩
  · intro β s page visit memory counts first last
    obtain ⟨answers, sent⟩ :=
      s.getPage_of_countsTo none chosen rows room counts first last visit memory
    have within : page.toNat ≤ (Page.of total size).totalPages.toNat := last
    have positive := Page.toNat_pos first
    refine ⟨answers, fetch (page.toNat - 1), ?_, sent⟩
    rw [List.getElem?_map, List.getElem?_range (by omega), Option.map_some]
  · intro st member
    obtain ⟨k, -, rfl⟩ := List.mem_map.1 member
    exact ⟨rfl, size.toNat, k * size.toNat, rfl, window k⟩
  · have tiles : Tiles 0 (fetches.map (Statement.rows total.toNat)) total.toNat := by
      have all := Page.tiles total room
      simpa only [fetches, List.map_map, Function.comp_def, Statement.rows, window] using all
    refine ⟨tiles.nonempty, tiles.pairwise, tiles.isChain, fun i => ?_⟩
    rw [← tiles.covers i]
    omega

/-! ### Pages of two orders -/

/-- The latest open orders; the limit is of no use to paging. -/
def latestOrders : List Call :=
  [.require true (.equals "state" (.text "open")), .orderBy ⟨"id", .descending⟩, .limit 1]

/-- A database that counts five orders. -/
def fiveOrders : Session Recorder where
  database := ({} : Recorder).pushScalar "count" (.uint64 5)
  pool := { maxIdle := 1 }
  logArguments := false

/-- Five orders fill three pages, and the statement of the third page is the third of them. -/
theorem pages_tile_latestOrders :
    (({ table := some "orders" } : Draft).applyAll latestOrders).errors = [] ∧
      (2 : UInt64) ≠ 0 ∧ fiveOrders.database.CountsTo 5 ∧
      ∃ (count : Statement) (fetches : List Statement) (fetch : Statement),
        fetches.length = 3 ∧ fetches[2]? = some fetch ∧
        (fiveOrders.getPage (.chained .connection (some "orders") latestOrders) 3 2
            (fun _ memory => (.ok (), memory)) ()).2.database.sent =
          [count, fetch].map (Recorder.sentOn .connection) ∧
        ((fetches.map (Statement.rows 5)).Pairwise fun v w => v.2 ≤ w.1) ∧
        ∀ i, i < 5 ↔ ∃ w ∈ fetches.map (Statement.rows 5), w.1 ≤ i ∧ i < w.2 := by
  have clean : (({ table := some "orders" } : Draft).applyAll latestOrders).errors = [] := by rfl
  have room : (2 : UInt64) ≠ 0 := by decide
  have counts : fiveOrders.database.CountsTo 5 := ⟨rfl, rfl⟩
  obtain ⟨count, fetches, length, sends, -, -, apart, -, cover⟩ :=
    pages_tile .connection "orders" latestOrders 5 2 clean room
  obtain ⟨-, fetch, third, sent⟩ := sends fiveOrders 3 (fun _ memory => (.ok (), memory)) ()
    counts (by decide) (by decide)
  exact ⟨clean, room, counts, count, fetches, fetch, length, third, sent, apart, cover⟩

/-- The window of the last page has room for one order more. -/
example :
    (⟨"SELECT * FROM orders ORDER BY id DESC LIMIT 2 OFFSET 4", []⟩ : Statement).rows 5 =
      (4, 5) := by rfl

end QueryLoom
