import Mathlib.Data.List.InsertIdx
import QueryLoom.Proofs.Likeness

/-!
# Pooling is unobservable

Whether drafts are used again, and how many of them may wait for it, shows nowhere but in the number
of those that wait and in what the pool itself reports.

* `Session.heard` : what the log says but for the reports of the pool;
* `unpooled` : the likeness of sessions that differ in their pools only;
* `Story` : what was done with one builder, `State.stories` : that of each live builder;
* `Terminal.Sends` : the statements that an operation may send for a draft;
* `pooling_unobservable` : the same program does the same with any two bounds of the pool, and every
  builder holds what its own calls gathered.
-/

namespace QueryLoom

variable {β : Type}

/-! ## Sessions with different pools -/

/-- Whether an event is a report of the pool. -/
def Event.isPooling : Event → Bool
  | .acquired _ | .released _ => true
  | _ => false

namespace Session

section

variable {σ : Type}

/-- What the log says but for the reports of the pool. -/
def heard (s : Session σ) : List Event := s.events.filter fun e => !e.isPooling

theorem heard_log (s : Session σ) (e : Event) :
    (s.log e).heard = s.heard ++ [e].filter fun e => !e.isPooling := by
  simp [heard, log]

@[simp] theorem heard_acquire (s : Session σ) : s.acquire.2.heard = s.heard := by
  simp [acquire, heard, log, Event.isPooling]

@[simp] theorem heard_release (s : Session σ) (d : Draft) : (s.release d).heard = s.heard := by
  unfold release
  split <;> simp [heard, log, Event.isPooling]

@[simp] theorem logArguments_release (s : Session σ) (d : Draft) :
    (s.release d).logArguments = s.logArguments := by
  unfold release
  split <;> rfl

end

/-- Two sessions whose pools may differ, but neither of which has a draft waiting that still holds
something. -/
structure Unpooled (s s' : Session Recorder) : Prop where
  database : s.database = s'.database
  logArguments : s.logArguments = s'.logArguments
  heard : s.heard = s'.heard
  left : s.pool.Clean
  right : s'.pool.Clean

namespace Unpooled

variable {s s' : Session Recorder}

theorem log (h : Unpooled s s') (e : Event) : Unpooled (s.log e) (s'.log e) where
  database := h.database
  logArguments := h.logArguments
  heard := by rw [heard_log, heard_log, h.heard]
  left := h.left
  right := h.right

/-- Nothing but the database changes. -/
theorem withDatabase (h : Unpooled s s') {r r' : Recorder} (same : r = r') :
    Unpooled { s with database := r } { s' with database := r' } where
  database := same
  logArguments := h.logArguments
  heard := h.heard
  left := h.left
  right := h.right

/-- A draft is as good as new, wherever it comes from. -/
theorem acquire (h : Unpooled s s') :
    s.acquire.1 = s'.acquire.1 ∧ Unpooled s.acquire.2 s'.acquire.2 := by
  have drafts : s.pool.acquire.1 = s'.pool.acquire.1 := by
    rw [Pool.acquire_fst h.left, Pool.acquire_fst h.right]
  refine ⟨drafts, h.database, h.logArguments, ?_, ?_, ?_⟩
  · rw [heard_acquire, heard_acquire, h.heard]
  · exact Pool.clean_acquire h.left
  · exact Pool.clean_acquire h.right

/-- A draft is emptied when it is given back, whatever it held and whether it may wait or not. -/
theorem release (h : Unpooled s s') (d d' : Draft) : Unpooled (s.release d) (s'.release d') where
  database := by rw [database_release, database_release, h.database]
  logArguments := by rw [logArguments_release, logArguments_release, h.logArguments]
  heard := by rw [heard_release, heard_release, h.heard]
  left := by
    rw [pool_release]
    exact Pool.clean_release h.left d
  right := by
    rw [pool_release]
    exact Pool.clean_release h.right d'

theorem dispatch (h : Unpooled s s') (target : Target) (shape : Shape) (st : Statement) :
    Unpooled (s.dispatch target shape st) (s'.dispatch target shape st) := by
  rw [Session.dispatch, Session.dispatch, h.logArguments]
  exact h.log _

end Unpooled

end Session

/-! ## Runs with different pools -/

/-- Drafts that do not differ. -/
def sameDraft : DraftLikeness where
  draft := Eq
  statement := Eq
  call := Eq
  payload := Eq
  call_refl _ := rfl
  payload_refl _ := rfl
  table h := congrArg Draft.table h
  errors h := congrArg Draft.errors h
  choose h table := congrArg (fun d : Draft => { d with table := some table }) h
  only h field := congrArg (·.only field) h
  firstRow h := congrArg Draft.firstRow h
  window h offset limit := congrArg (·.window offset limit) h
  aggregating h a := congrArg (·.aggregating a) h
  addError h e := congrArg (·.addError e) h
  carrying h _ _ k := congrArg₂ Draft.carrying h k
  apply h _ _ k := congrArg₂ Draft.apply h k
  compile := by
    intro d d' h kind
    subst h
    cases d.compile kind with
    | error e => exact .inl ⟨e, rfl, rfl⟩
    | ok st => exact .inr ⟨st, st, rfl, rfl, rfl⟩

/-- Sessions that differ in their pools only. -/
def unpooled : Likeness where
  toDraftLikeness := sameDraft
  session := Session.Unpooled
  sent := Eq
  received h := by
    rw [List.forall₂_eq_eq_eq, h.database]
  log h e := h.log e
  acquire h := h.acquire
  release h d d' := h.release d d'
  push h reply := h.withDatabase (congrArg (·.push reply) h.database)
  failNext h reason := h.withDatabase (congrArg (·.failNext reason) h.database)
  queryOne := by
    intro s s' h target st st' k
    cases k
    have answered : Database.queryOne target st s.database =
        Database.queryOne target st s'.database :=
      congrArg _ h.database
    have answer : (s.queryOne target st).1 = (s'.queryOne target st).1 := by
      simp only [Session.queryOne, Session.dispatch, Session.database_log, answered]
    exact ⟨answer, (h.dispatch target .one st).withDatabase (congrArg Prod.snd answered)⟩
  queryMany := by
    intro s s' h target st st' k
    cases k
    have answered : Database.queryMany target st s.database =
        Database.queryMany target st s'.database :=
      congrArg _ h.database
    have answer : (s.queryMany target st).1 = (s'.queryMany target st).1 := by
      simp only [Session.queryMany, Session.dispatch, Session.database_log, answered]
    exact ⟨answer, (h.dispatch target .many st).withDatabase (congrArg Prod.snd answered)⟩
  execute := by
    intro s s' h target st st' k
    cases k
    have answered : Database.execute target st s.database =
        Database.execute target st s'.database :=
      congrArg _ h.database
    have answer : (s.execute target st).1 = (s'.execute target st).1 := by
      simp only [Session.execute, Session.dispatch, Session.database_log, answered]
    exact ⟨answer, (h.dispatch target .execute st).withDatabase (congrArg Prod.snd answered)⟩
  start := by
    intro s s' h
    have answered := congrArg Database.start h.database
    exact ⟨congrArg Prod.fst answered, h.withDatabase (congrArg Prod.snd answered)⟩
  commit := by
    intro s s' h id
    have answered := congrArg (Database.commit id) h.database
    exact ⟨congrArg Prod.fst answered, h.withDatabase (congrArg Prod.snd answered)⟩
  rollback := by
    intro s s' h id
    have answered := congrArg (Database.rollback id) h.database
    exact ⟨congrArg Prod.fst answered, h.withDatabase (congrArg Prod.snd answered)⟩

theorem unpooled_builders {b b' : Builder} (h : unpooled.Builders b b') : b = b' := by
  obtain ⟨target, draft⟩ := b
  obtain ⟨target', draft'⟩ := b'
  obtain ⟨targets, drafts⟩ := h
  cases targets
  cases drafts
  rfl

theorem unpooled_held {h h' : Held} (like : h.Like unpooled h') : h = h' := by
  obtain ⟨b, origin⟩ := h
  obtain ⟨b', origin'⟩ := h'
  obtain ⟨builders, origins⟩ := like
  cases unpooled_builders builders
  cases origins
  rfl

/-- States that differ in their pools only: not even in what was seen. -/
structure State.Unpooled (s s' : State β) : Prop where
  like : State.Like unpooled s s'
  seen : s.seen = s'.seen

namespace State.Unpooled

variable {s s' : State β}

theorem live (h : s.Unpooled s') : s.live = s'.live := by
  have held := h.like.live.imp fun _ _ => unpooled_held
  rwa [List.forall₂_eq_eq_eq] at held

theorem scopes (h : s.Unpooled s') : s.scopes = s'.scopes := by
  have scopes := h.like.scopes.imp fun p p' like => Prod.ext like.1 (unpooled_builders like.2)
  rwa [List.forall₂_eq_eq_eq] at scopes

theorem at? (h : s.Unpooled s') (place : Place) : s.at? place = s'.at? place := by
  cases place with
  | live n => exact congrArg (·[n]?) h.live
  | scope id => simp only [State.at?, State.scope?, h.scopes]

/-- What is seen of an operation does not depend on the pool either. -/
theorem seen_step (h : s.Unpooled s') (op : Operation β) :
    (s.step op).seen = (s'.step op).seen := by
  have sessions : unpooled.session s.session s'.session := h.like.session
  have same (b : Builder) : unpooled.Builders b b := ⟨rfl, rfl⟩
  cases op with
  | push _ | failNext _ | query | table _ => exact h.seen
  | beside parent _ =>
    simp only [State.step, h.at? parent]
    cases s'.at? parent with
    | none => exact h.seen
    | some held => exact h.seen
  | gather n _ | drop n =>
    simp only [State.step, h.live]
    cases s'.live[n]? with
    | none => exact h.seen
    | some held => exact h.seen
  | preview place kind =>
    simp only [State.step, h.at? place]
    cases s'.at? place with
    | none => exact h.seen
    | some held =>
      have answer : (s.session.prepare held.builder kind).1 =
          (s'.session.prepare held.builder kind).1 := by
        obtain ⟨e, t, t', refused, refused', _⟩ | ⟨st, st', ready, ready', statements⟩ :=
          Likeness.prepare sessions (same held.builder) kind
        · rw [refused, refused']
        · cases statements
          rw [ready, ready']
      simp only [Option.elim, State.preview, State.note, answer, h.seen]
  | finish n t memory =>
    simp only [State.step, h.live]
    cases s'.live[n]? with
    | none => exact h.seen
    | some held =>
      obtain ⟨answer, ended⟩ := Likeness.finish sessions (same held.builder) t memory
      have database := Session.Unpooled.database ended
      simp only [Option.elim, State.finish, State.note, answer, database,
        Session.Unpooled.database sessions, h.seen]
  | start =>
    have answer : (s.session.openScope.1).map (fun scope => scope.1) =
        (s'.session.openScope.1).map fun scope => scope.1 := by
      obtain ⟨e, failed, failed', _⟩ | ⟨id, b, b', opened, opened', _⟩ :=
        Likeness.openScope sessions
      · rw [failed, failed']
      · rw [opened, opened']
        rfl
    simp only [State.step, State.start, State.note, answer, h.seen]
  | stop id worked =>
    have scope : s.scope? id = s'.scope? id := by simp only [State.scope?, h.scopes]
    simp only [State.step, scope]
    cases s'.scope? id with
    | none => exact h.seen
    | some b =>
      have answer := (Likeness.closeScope sessions id b b worked).1
      simp only [Option.elim, State.stop, State.note, answer, h.seen]

theorem step (h : s.Unpooled s') (op : Operation β) : (s.step op).Unpooled (s'.step op) where
  like := h.like.step op
  seen := h.seen_step op

theorem stepAll (h : s.Unpooled s') (ops : List (Operation β)) :
    (s.stepAll ops).Unpooled (s'.stepAll ops) := by
  induction ops generalizing s s' with
  | nil => exact h
  | cons op ops ih => exact ih (h.step op)

/-- Nothing waits in a pool at first. -/
theorem initial (maxIdle maxIdle' : Nat) (logArguments : Bool) :
    (State.initial (β := β) maxIdle logArguments).Unpooled
      (State.initial maxIdle' logArguments) where
  like := ⟨⟨rfl, rfl, rfl, by simp [Pool.Clean, State.initial],
    by simp [Pool.Clean, State.initial]⟩, .nil, .nil, .nil⟩
  seen := rfl

end State.Unpooled

/-! ## What builders hold -/

/-- What was done with one builder: the table that it was made for, and its calls. -/
structure Story where
  table : Option String
  calls : List Call := []

/-- What a builder should hold on account of its story. -/
def Story.draft (x : Story) : Draft := ({ table := x.table } : Draft).applyAll x.calls

/-- The story with one more call. -/
def Story.add (x : Story) (call : Call) : Story := { x with calls := x.calls ++ [call] }

theorem Story.draft_add (x : Story) (call : Call) : (x.add call).draft = x.draft.apply call := by
  simp [draft, add, Draft.applyAll_append]

namespace State

/-- The stories of the live builders after one more operation. -/
def tell (s : State β) (told : List Story) : Operation β → List Story
  | .query => told ++ [⟨none, []⟩]
  | .table name => told ++ [⟨some name, []⟩]
  | .beside parent name => (s.at? parent).elim told fun _ => told ++ [⟨some name, []⟩]
  | .gather n call => told.modify n fun x => x.add call
  | .finish n _ _ | .drop n => told.eraseIdx n
  | .push _ | .failNext _ | .preview _ _ | .start | .stop _ _ => told

/-- The stories of the live builders after some more operations. -/
def tellAll (s : State β) (told : List Story) : List (Operation β) → List Story
  | [] => told
  | op :: ops => (s.step op).tellAll (s.tell told op) ops

/-- The stories of the builders that are alive after a program. -/
def stories (maxIdle : Nat) (logArguments : Bool) (ops : List (Operation β)) : List Story :=
  (initial maxIdle logArguments).tellAll [] ops

/-- Every builder holds what its story says, and those that stand for transactions hold nothing. -/
structure Told (s : State β) (told : List Story) : Prop where
  clean : s.Unpooled s
  live : s.live.map (fun h => h.builder.draft) = told.map Story.draft
  scopes : ∀ p ∈ s.scopes, p.2.draft = {}

namespace Told

variable {s : State β} {told : List Story}

theorem length_eq (h : s.Told told) : s.live.length = told.length := by
  simpa using congrArg List.length h.live

/-- A new draft is empty. -/
theorem acquire (h : s.Told told) : s.session.acquire.1 = {} :=
  Pool.acquire_fst h.clean.like.session.left

/-- The stories with one of them changed. -/
theorem map_modify (h : s.Told told) {n : Nat} {held : Held} (found : s.live[n]? = some held)
    (call : Call) :
    (s.gather n held call).live.map (fun h => h.builder.draft) =
      (told.modify n fun x => x.add call).map Story.draft := by
  have here : (told.map Story.draft)[n]? = some held.builder.draft := by
    rw [← h.live, List.getElem?_map, found]
    rfl
  obtain ⟨x, hx, same⟩ : ∃ x, told[n]? = some x ∧ x.draft = held.builder.draft := by
    simpa using here
  simp only [State.gather, List.map_set, h.live]
  rw [List.modify_eq_set_getElem?, hx]
  simp [List.map_set, Story.draft_add, same, Builder.applyAll]

/-- Forgetting a builder that is not alive forgets no story. -/
theorem eraseIdx_of_none (h : s.Told told) {n : Nat} (none : s.live[n]? = none) :
    told.eraseIdx n = told := by
  rw [List.getElem?_eq_none_iff, h.length_eq] at none
  exact List.eraseIdx_of_length_le none

/-- Every operation changes the builder that it is about as its story says, and no other one. -/
theorem live_step (h : s.Told told) (op : Operation β) :
    (s.step op).live.map (fun h => h.builder.draft) = (s.tell told op).map Story.draft := by
  have new := h.acquire
  cases op with
  | push _ | failNext _ => exact h.live
  | query =>
    simp only [State.step, tell, State.hold, Session.query, Session.builder, new, List.map_append,
      h.live]
    rfl
  | table name =>
    simp only [State.step, tell, State.hold, Session.table, Session.tableOn, Session.builder, new,
      List.map_append, h.live]
    rfl
  | beside parent name =>
    simp only [State.step, tell]
    cases s.at? parent with
    | none => exact h.live
    | some held =>
      simp only [Option.elim, State.hold, Session.beside, Session.tableOn, Session.builder, new,
        List.map_append, h.live]
      rfl
  | gather n call =>
    simp only [State.step, tell]
    cases found : s.live[n]? with
    | none =>
      have unknown : told[n]? = none := by
        rw [List.getElem?_eq_none_iff, ← h.length_eq]
        exact List.getElem?_eq_none_iff.1 found
      rw [List.modify_eq_set_getElem?, unknown]
      exact h.live
    | some held => exact h.map_modify found call
  | preview place kind =>
    simp only [State.step, tell]
    cases s.at? place <;> exact h.live
  | finish n t memory =>
    simp only [State.step, tell]
    cases found : s.live[n]? with
    | none =>
      rw [h.eraseIdx_of_none found]
      exact h.live
    | some held => simp only [Option.elim, State.finish, State.note, ← List.eraseIdx_map, h.live]
  | drop n =>
    simp only [State.step, tell]
    cases found : s.live[n]? with
    | none =>
      rw [h.eraseIdx_of_none found]
      exact h.live
    | some held => simp only [Option.elim, State.drop, ← List.eraseIdx_map, h.live]
  | start => exact h.live
  | stop id worked =>
    simp only [State.step, tell]
    cases s.scope? id <;> exact h.live

/-- Nothing is gathered in a builder that stands for a transaction. -/
theorem scopes_step (h : s.Told told) (op : Operation β) :
    ∀ p ∈ (s.step op).scopes, p.2.draft = {} := by
  cases op with
  | push _ | failNext _ | query | table _ => exact h.scopes
  | beside place _ | preview place _ =>
    simp only [State.step]
    cases s.at? place <;> exact h.scopes
  | gather n _ | finish n _ _ | drop n =>
    simp only [State.step]
    cases s.live[n]? <;> exact h.scopes
  | start =>
    intro p member
    simp only [State.step, State.start, State.note, Session.openScope] at member
    generalize Database.start s.session.database = started at member
    obtain ⟨e | id, r⟩ := started
    · exact h.scopes p member
    · rcases List.mem_append.1 member with member | member
      · exact h.scopes p member
      · rw [List.mem_singleton.1 member]
        exact h.acquire
  | stop id worked =>
    simp only [State.step]
    cases s.scope? id with
    | none => exact h.scopes
    | some b => exact fun p member => h.scopes p (List.mem_filter.1 member).1

theorem step (h : s.Told told) (op : Operation β) : (s.step op).Told (s.tell told op) where
  clean := h.clean.step op
  live := h.live_step op
  scopes := h.scopes_step op

theorem stepAll (h : s.Told told) (ops : List (Operation β)) :
    (s.stepAll ops).Told (s.tellAll told ops) := by
  induction ops generalizing s told with
  | nil => exact h
  | cons op ops ih => exact ih (h.step op)

end Told

theorem told_run (maxIdle : Nat) (logArguments : Bool) (ops : List (Operation β)) :
    (run maxIdle logArguments ops).Told (stories maxIdle logArguments ops) :=
  Told.stepAll ⟨.initial maxIdle maxIdle logArguments, rfl, by simp [initial]⟩ ops

end State

/-! ## What builders send -/

/-- The statements that an operation may send for a draft: its first one and, after the count of
paging, that of a window of the rows. -/
inductive Terminal.Sends : Terminal β → Draft → Statement → Prop where
  | first {t : Terminal β} {d : Draft} {st : Statement} (h : (t.draft d).compile t.kind = .ok st) :
      Sends t d st
  | page {page size : UInt64} {visit : Visitor β} {d : Draft} {st : Statement} (offset : UInt64)
      (h : ((d.paged size).window offset size).compile .select = .ok st) :
      Sends (.getPage page size visit) d st

namespace Session

/-- Between two sessions some statements of a target were received, each of them as it may be. -/
def Received (target : Target) (may : Statement → Prop) (s s' : Session Recorder) : Prop :=
  ∃ sts : List Statement,
    s'.database.sent = s.database.sent ++ sts.map (Recorder.sentOn target) ∧ ∀ st ∈ sts, may st

namespace Received

variable {target : Target} {may : Statement → Prop} {s s' s'' : Session Recorder}

theorem of_same (h : s'.database = s.database) : Received target may s s' :=
  ⟨[], by simp [h], by simp⟩

theorem one {st : Statement} (h : s'.database.sent = s.database.sent ++ [Recorder.sentOn target st])
    (k : may st) : Received target may s s' :=
  ⟨[st], h, by simpa using k⟩

theorem trans (h : Received target may s s') (k : Received target may s' s'') :
    Received target may s s'' := by
  obtain ⟨sts, sent, each⟩ := h
  obtain ⟨more, sent', each'⟩ := k
  refine ⟨sts ++ more, by simp [sent', sent], fun st member => ?_⟩
  rcases List.mem_append.1 member with member | member
  · exact each st member
  · exact each' st member

theorem mono {may' : Statement → Prop} (h : Received target may s s')
    (k : ∀ st, may st → may' st) : Received target may' s s' := by
  obtain ⟨sts, sent, each⟩ := h
  exact ⟨sts, sent, fun st member => k st (each st member)⟩

end Received

section

variable {s : Session Recorder} {b : Builder}

/-- What is sent is what the draft compiles into. -/
theorem received_send {α : Type} {kind : Statement.Kind} {refuse : Error → α}
    {answer : Session Recorder → Statement → α × Session Recorder}
    (h : ∀ s st, (answer s st).2.database.sent =
      s.database.sent ++ [Recorder.sentOn b.target st]) :
    Received b.target (fun st => b.draft.compile kind = .ok st) s
      (s.send b kind refuse answer).2 := by
  obtain ⟨e, s', refused, same⟩ | ⟨st, ready⟩ := s.prepare_cases b kind
  · rw [send_of_error refused]
    exact .of_same (by rw [database_close, same])
  · have compiled := ((prepare_eq_ok_iff s b kind st).1 (by rw [ready])).2
    rw [send_of_ok ready]
    exact .one (by rw [database_close, h]) compiled

theorem received_sendOne :
    Received b.target (fun st => b.draft.compile .select = .ok st) s (s.sendOne b).2 :=
  received_send fun s st => Recorder.sent_query b.target st s.database

theorem received_sendMany {visit : Visitor β} {memory : β} :
    Received b.target (fun st => b.draft.compile .select = .ok st) s
      (s.sendMany b visit memory).2 := by
  rw [sendMany_eq]
  exact received_send fun s st => Recorder.sent_query b.target st s.database

theorem received_sendAll {α : Type} {read : Row → Except Error α} :
    Received b.target (fun st => b.draft.compile .select = .ok st) s (s.sendAll b read).2 := by
  rw [sendAll_eq]
  exact received_send fun s st => Recorder.sent_query b.target st s.database

theorem received_sendChange {kind : Statement.Kind} :
    Received b.target (fun st => b.draft.compile kind = .ok st) s (s.sendChange b kind).2 :=
  received_send fun s st => Recorder.sent_change b.target st s.database

theorem received_getPage {page size : UInt64} {visit : Visitor β} {memory : β} :
    Received b.target ((Terminal.getPage page size visit).Sends b.draft) s
      (s.getPage b page size visit memory).2 := by
  let counting := (Terminal.getPage page size visit).builder b
  cases clean : (b.draft.paged size).firstError with
  | some e =>
    have ended := finish_of_firstError (s := s) (t := .getPage page size visit) clean memory
    rw [finish] at ended
    rw [ended]
    exact .of_same (database_close _ _)
  | none =>
    have counted : Received b.target ((Terminal.getPage page size visit).Sends b.draft) s
        (s.acquire.2.sendOne counting).2 :=
      (received_sendOne (s := s.acquire.2) (b := counting)).mono fun st compiled => .first compiled
    rcases getPage_session (s := s) clean with ended | ⟨offset, ended⟩
    · rw [ended]
      exact counted.trans (.of_same (database_close _ _))
    · rw [ended]
      exact counted.trans (received_sendMany.mono fun st compiled => .page offset compiled)

/-- An operation sends statements of its own builder only. -/
theorem received_finish (s : Session Recorder) (b : Builder) (t : Terminal β) (memory : β) :
    Received b.target (t.Sends b.draft) s (s.finish b t memory).2 := by
  have only {s' : Session Recorder} (h : Received (t.builder b).target
      (fun st => (t.builder b).draft.compile t.kind = .ok st) s s') :
      Received b.target (t.Sends b.draft) s s' := h.mono fun st compiled => .first compiled
  cases t with
  | firstRow | first _ | value _ _ | count | sum _ | max _ _ | min _ _ | «exists» =>
    exact only (received_sendOne (b := Terminal.builder _ b))
  | get visit => exact only received_sendMany
  | fetchAll form => exact only received_sendAll
  | getPage page size visit => exact received_getPage
  | insert _ | update _ | delete =>
    exact only (received_sendChange (b := Terminal.builder _ b))

end

end Session

/-! ## Main statement -/

/-- With any two bounds of the pool, one of which may leave no room at all, a program does the same:
the builders that are alive and those that stand for open transactions hold the same, the same was
seen, the recorder is in the same state, and the log says the same but for the reports of the pool.

Every live builder holds what its own story says and sends nothing else, and one that is made beside
another has its target and nothing else of it. -/
theorem pooling_unobservable (maxIdle maxIdle' : Nat) (logArguments : Bool)
    (ops : List (Operation β)) :
    let s := State.run maxIdle logArguments ops
    let s' := State.run maxIdle' logArguments ops
    s.live = s'.live ∧ s.scopes = s'.scopes ∧ s.seen = s'.seen ∧
      s.session.database = s'.session.database ∧ s.session.heard = s'.session.heard ∧
      s.live.map (fun h => h.builder.draft) =
        (State.stories maxIdle logArguments ops).map Story.draft ∧
      (∀ p ∈ s.scopes, p.2.draft = {}) ∧
      (∀ n h t memory, s.live[n]? = some h →
        Session.Received h.builder.target (t.Sends h.builder.draft) s.session
          (s.step (.finish n t memory)).session) ∧
      ∀ parent h name, s.at? parent = some h →
        (s.step (.beside parent name)).live =
          s.live ++ [⟨⟨h.builder.target, { table := some name }⟩, h.origin⟩] := by
  intro s s'
  have same : s.Unpooled s' :=
    State.Unpooled.stepAll (.initial maxIdle maxIdle' logArguments) ops
  have told : s.Told (State.stories maxIdle logArguments ops) :=
    State.told_run maxIdle logArguments ops
  refine ⟨same.live, same.scopes, same.seen, same.like.session.database, same.like.session.heard,
    told.live, told.scopes, fun n h t memory alive => ?_, fun parent h name found => ?_⟩
  · have ended := Session.received_finish s.session h.builder t memory
    simp only [State.step, alive]
    exact ended
  · have new := told.acquire
    simp only [State.step, found, Option.elim, State.hold, Session.beside, Session.tableOn,
      Session.builder, new]

end QueryLoom
