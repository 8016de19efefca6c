import QueryLoom.Draft.Payload
import QueryLoom.Row.Form
import QueryLoom.Session.Basic

/-!
# Terminals

The operations that end a builder: each compiles one statement (paging may compile two), sends it,
reads the answer, and gives the draft back however it ends.

* `Terminal` : the operations; `Terminal.Answer` is what each gives;
* `Session.finish` : does it.
-/

namespace QueryLoom

/-! ## Drafts of particular statements -/

namespace Draft

def firstRow (d : Draft) : Draft := { d with limit := some 1 }

def only (d : Draft) (field : String) : Draft := { d with fields := [field] }

def aggregating (d : Draft) (aggregate : Aggregate) : Draft :=
  { d with aggregate := some aggregate }

def carrying (d : Draft) (payload : Payload) : Draft := { d with payload := payload.columns }

def window (d : Draft) (offset limit : UInt64) : Draft :=
  { d with offset := some offset, limit := some limit }

/-- The draft for a page, which must have room for a row. -/
def paged (d : Draft) (size : UInt64) : Draft :=
  if size = 0 then d.addError (.pagination "page size must be at least 1") else d

end Draft

/-! ## Pages -/

/-- How many rows there are, and how many pages they fill. -/
structure Page where
  total : UInt64
  totalPages : UInt64
  deriving DecidableEq, Repr

/-- The pages of so many rows: the last one may be short. -/
def Page.of (total size : UInt64) : Page where
  total := total
  totalPages := if total % size = 0 then total / size else total / size + 1

/-! ## Operations -/

/-- An operation that ends a builder. Rows are shown to a visitor that remembers a `β`. -/
inductive Terminal (β : Type) where
  | firstRow
  /-- The first columns of the first row. -/
  | first (ts : List ColumnType)
  /-- One field of the first row. -/
  | value (field : String) (t : ColumnType)
  /-- Shows every row to the visitor. -/
  | get (visit : Visitor β)
  | fetchAll (form : RowForm)
  /-- Counts the rows, then shows those of one page to the visitor. -/
  | getPage (page size : UInt64) (visit : Visitor β)
  | count
  | sum (field : String)
  | max (field : String) (t : ColumnType)
  | min (field : String) (t : ColumnType)
  /-- Whether there are rows. -/
  | exists
  /-- Adds a row; gives the number of the new row. -/
  | insert (payload : Payload)
  /-- Changes rows; gives their number. -/
  | update (payload : Payload)
  /-- Deletes rows; gives their number. -/
  | delete

/-- What an operation gives when nothing fails. -/
@[reducible] def Terminal.Answer {β : Type} : Terminal β → Type
  | .firstRow => Option Row
  | .first ts => ColumnType.Tuple ts
  | .value _ t => t.Carrier
  | .get _ => Unit
  | .fetchAll form => List form.Carrier
  | .getPage .. => Page
  | .count => UInt64
  | .sum _ => Binary64
  | .max _ t => t.Carrier
  | .min _ t => t.Carrier
  | .exists => Bool
  | .insert _ => Nat
  | .update _ => Nat
  | .delete => Nat

namespace Session

variable {σ : Type} [Database σ]

/-- Prepares the statement of a kind, sends it, and gives the draft back. -/
def send {α : Type} (s : Session σ) (b : Builder) (kind : Statement.Kind) (refuse : Error → α)
    (answer : Session σ → Statement → α × Session σ) : α × Session σ :=
  match s.prepare b kind with
  | (.error e, s) => (refuse e, s.close b)
  | (.ok statement, s) =>
    let answered := answer s statement
    (answered.1, answered.2.close b)

def sendOne (s : Session σ) (b : Builder) : Except Error (Option Row) × Session σ :=
  s.send b .select .error fun s statement => s.queryOne b.target statement

def sendMany {β : Type} (s : Session σ) (b : Builder) (visit : Visitor β) (memory : β) :
    (Except Error Unit × β) × Session σ :=
  s.send b .select (fun e => (.error e, memory)) fun s statement =>
    match s.queryMany b.target statement with
    | (.error e, s) => ((.error e, memory), s)
    | (.ok rows, s) => (visitAll visit rows memory, s)

def sendAll {α : Type} (s : Session σ) (b : Builder) (read : Row → Except Error α) :
    Except Error (List α) × Session σ :=
  s.send b .select .error fun s statement =>
    match s.queryMany b.target statement with
    | (.error e, s) => (.error e, s)
    | (.ok rows, s) => (readAll read rows, s)

def sendChange (s : Session σ) (b : Builder) (kind : Statement.Kind) :
    Except Error Outcome × Session σ :=
  s.send b kind .error fun s statement => s.execute b.target statement

/-- Reads the answer to a query for one row; without a row it is the one for no row. -/
def ofRow {α : Type} (none : α) (read : Row → Except Error α) :
    Except Error (Option Row) → Except Error α
  | .error e => .error e
  | .ok Option.none => .ok none
  | .ok (some row) => read row

/-- One column of the first row; its zero without a row. -/
def column (s : Session σ) (b : Builder) (t : ColumnType) : Except Error t.Carrier × Session σ :=
  let answered := s.sendOne b
  (ofRow t.zero (fun row => row.get 0 t) answered.1, answered.2)

def aggregate (s : Session σ) (b : Builder) (a : Aggregate) (t : ColumnType) :
    Except Error t.Carrier × Session σ :=
  s.column { b with draft := b.draft.aggregating a } t

/-- Counts the rows, then shows those of one page to the visitor. Pages are numbered from 1, and
page 0 stands for the first; a page past the last one has no rows to ask for. -/
def getPage {β : Type} (s : Session σ) (b : Builder) (page size : UInt64) (visit : Visitor β)
    (memory : β) : (Except Error Page × β) × Session σ :=
  let b := { b with draft := b.draft.paged size }
  match s.check b with
  | (.error e, s) => ((.error e, memory), s.close b)
  | (.ok (), s) =>
    let forked := s.fork b
    match forked.2.aggregate forked.1 .count .uint64 with
    | (.error e, s) => ((.error e, memory), s.close b)
    | (.ok total, s) =>
      let result := Page.of total size
      let number := if page = 0 then 1 else page
      if result.totalPages < number then ((.ok result, memory), s.close b)
      else
        let windowed := { b with draft := b.draft.window ((number - 1) * size) size }
        let shown := s.sendMany windowed visit memory
        ((shown.1.1.map fun _ => result, shown.1.2), shown.2)

/-- Ends a builder with an operation. -/
def finish {β : Type} (s : Session σ) (b : Builder) (t : Terminal β) (memory : β) :
    (Except Error t.Answer × β) × Session σ :=
  match t with
  | .firstRow =>
    let answered := s.sendOne { b with draft := b.draft.firstRow }
    ((answered.1, memory), answered.2)
  | .first ts =>
    let answered := s.sendOne { b with draft := b.draft.firstRow }
    ((ofRow (ColumnType.zeros ts) (fun row => row.readTuple ts) answered.1, memory), answered.2)
  | .value field t =>
    let answered := s.column { b with draft := (b.draft.only field).firstRow } t
    ((answered.1, memory), answered.2)
  | .get visit => s.sendMany b visit memory
  | .fetchAll form =>
    let answered := s.sendAll b fun row => row.readForm form
    ((answered.1, memory), answered.2)
  | .getPage page size visit => s.getPage b page size visit memory
  | .count =>
    let answered := s.aggregate b .count .uint64
    ((answered.1, memory), answered.2)
  | .sum field =>
    let answered := s.aggregate b (.sum field) .float64
    ((answered.1, memory), answered.2)
  | .max field t =>
    let answered := s.aggregate b (.max field) t
    ((answered.1, memory), answered.2)
  | .min field t =>
    let answered := s.aggregate b (.min field) t
    ((answered.1, memory), answered.2)
  | .exists =>
    let answered := s.aggregate b .count .uint64
    ((answered.1.map fun (n : UInt64) => n != 0, memory), answered.2)
  | .insert payload =>
    let answered := s.sendChange { b with draft := b.draft.carrying payload } .insert
    ((answered.1.map fun o => o.insertId.getD 0, memory), answered.2)
  | .update payload =>
    let answered := s.sendChange { b with draft := b.draft.carrying payload } .update
    ((answered.1.map Outcome.affected, memory), answered.2)
  | .delete =>
    let answered := s.sendChange b .delete
    ((answered.1.map Outcome.affected, memory), answered.2)

end Session

end QueryLoom
