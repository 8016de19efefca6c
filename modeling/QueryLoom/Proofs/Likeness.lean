import QueryLoom.Pointwise
import QueryLoom.Proofs.Ending
import QueryLoom.Proofs.Program

/-!
# Likeness of two runs

Two programs may differ in some respect, and so may their runs. Here is what has to be known of that
respect, step by step, so that nothing else comes to differ in the whole of the two runs.

* `DraftLikeness` : drafts that differ in that respect only, and what is done with them;
* `Likeness` : sessions that differ in that respect only, and what happens to them;
* `Likeness.finish` : like builders of like sessions give the same answers;
* `State.Like.run` : like programs have like runs.
-/

namespace QueryLoom

/-! ## What may differ -/

/-- A respect in which the drafts of two runs, their calls and their payloads may differ. -/
structure DraftLikeness where
  draft : Draft → Draft → Prop
  statement : Statement → Statement → Prop
  call : Call → Call → Prop
  payload : Payload → Payload → Prop
  call_refl (c : Call) : call c c
  payload_refl (p : Payload) : payload p p
  table {d d' : Draft} (h : draft d d') : d.table = d'.table
  errors {d d' : Draft} (h : draft d d') : d.errors = d'.errors
  choose {d d' : Draft} (h : draft d d') (table : String) :
    draft { d with table := some table } { d' with table := some table }
  only {d d' : Draft} (h : draft d d') (field : String) : draft (d.only field) (d'.only field)
  firstRow {d d' : Draft} (h : draft d d') : draft d.firstRow d'.firstRow
  window {d d' : Draft} (h : draft d d') (offset limit : UInt64) :
    draft (d.window offset limit) (d'.window offset limit)
  aggregating {d d' : Draft} (h : draft d d') (a : Aggregate) :
    draft (d.aggregating a) (d'.aggregating a)
  addError {d d' : Draft} (h : draft d d') (e : BuildError) : draft (d.addError e) (d'.addError e)
  carrying {d d' : Draft} (h : draft d d') {p p' : Payload} (k : payload p p') :
    draft (d.carrying p) (d'.carrying p')
  apply {d d' : Draft} (h : draft d d') {c c' : Call} (k : call c c') :
    draft (d.apply c) (d'.apply c')
  /-- Both drafts lack the same, or they compile into statements that differ in that respect. -/
  compile {d d' : Draft} (h : draft d d') (kind : Statement.Kind) :
    (∃ e, d.compile kind = .error e ∧ d'.compile kind = .error e) ∨
      ∃ st st', d.compile kind = .ok st ∧ d'.compile kind = .ok st' ∧ statement st st'

/-- A respect in which two sessions may differ. -/
structure Likeness extends DraftLikeness where
  session : Session Recorder → Session Recorder → Prop
  sent : Sent → Sent → Prop
  received {s s' : Session Recorder} (h : session s s') :
    List.Forall₂ sent s.database.sent s'.database.sent
  log {s s' : Session Recorder} (h : session s s') (e : Event) : session (s.log e) (s'.log e)
  acquire {s s' : Session Recorder} (h : session s s') :
    draft s.acquire.1 s'.acquire.1 ∧ session s.acquire.2 s'.acquire.2
  release {s s' : Session Recorder} (h : session s s') (d d' : Draft) :
    session (s.release d) (s'.release d')
  push {s s' : Session Recorder} (h : session s s') (reply : Reply) :
    session { s with database := s.database.push reply }
      { s' with database := s'.database.push reply }
  failNext {s s' : Session Recorder} (h : session s s') (reason : String) :
    session { s with database := s.database.failNext reason }
      { s' with database := s'.database.failNext reason }
  queryOne {s s' : Session Recorder} (h : session s s') (target : Target) {st st' : Statement}
    (k : statement st st') :
    (s.queryOne target st).1 = (s'.queryOne target st').1 ∧
      session (s.queryOne target st).2 (s'.queryOne target st').2
  queryMany {s s' : Session Recorder} (h : session s s') (target : Target) {st st' : Statement}
    (k : statement st st') :
    (s.queryMany target st).1 = (s'.queryMany target st').1 ∧
      session (s.queryMany target st).2 (s'.queryMany target st').2
  execute {s s' : Session Recorder} (h : session s s') (target : Target) {st st' : Statement}
    (k : statement st st') :
    (s.execute target st).1 = (s'.execute target st').1 ∧
      session (s.execute target st).2 (s'.execute target st').2
  start {s s' : Session Recorder} (h : session s s') :
    (Database.start s.database).1 = (Database.start s'.database).1 ∧
      session { s with database := (Database.start s.database).2 }
        { s' with database := (Database.start s'.database).2 }
  commit {s s' : Session Recorder} (h : session s s') (id : Nat) :
    (Database.commit id s.database).1 = (Database.commit id s'.database).1 ∧
      session { s with database := (Database.commit id s.database).2 }
        { s' with database := (Database.commit id s'.database).2 }
  rollback {s s' : Session Recorder} (h : session s s') (id : Nat) :
    (Database.rollback id s.database).1 = (Database.rollback id s'.database).1 ∧
      session { s with database := (Database.rollback id s.database).2 }
        { s' with database := (Database.rollback id s'.database).2 }

namespace Likeness

variable {L : Likeness} {β : Type}

/-- Builders with one target and like drafts. -/
def Builders (L : Likeness) (b b' : Builder) : Prop :=
  b.target = b'.target ∧ L.draft b.draft b'.draft

/-- The same answer, and like sessions. -/
def Same (L : Likeness) {α : Type} (x x' : α × Session Recorder) : Prop :=
  x.1 = x'.1 ∧ L.session x.2 x'.2

section Sending

variable {s s' : Session Recorder} {b b' : Builder}

/-! ## Sending -/

theorem firstError (k : L.Builders b b') : b.draft.firstError = b'.draft.firstError :=
  congrArg List.head? (L.errors k.2)

theorem check (h : L.session s s') (k : L.Builders b b') : L.Same (s.check b) (s'.check b') := by
  cases first : b.draft.firstError with
  | none =>
    have first' := (firstError k).symm.trans first
    simp only [Session.check, first, first']
    exact ⟨rfl, h⟩
  | some e =>
    have first' := (firstError k).symm.trans first
    simp only [Session.check, first, first', L.table k.2, L.errors k.2]
    exact ⟨rfl, L.log h _⟩

/-- Both builders are refused for the same error, or both have their statement. -/
theorem prepare (h : L.session s s') (k : L.Builders b b') (kind : Statement.Kind) :
    (∃ e t t', s.prepare b kind = (.error e, t) ∧ s'.prepare b' kind = (.error e, t') ∧
        L.session t t') ∨
      ∃ st st', s.prepare b kind = (.ok st, s) ∧ s'.prepare b' kind = (.ok st', s') ∧
        L.statement st st' := by
  cases first : b.draft.firstError with
  | some e =>
    have first' := (firstError k).symm.trans first
    refine .inl ⟨_, _, _, Session.prepare_of_firstError first,
      Session.prepare_of_firstError first', ?_⟩
    rw [L.table k.2, L.errors k.2]
    exact L.log h _
  | none =>
    have first' := (firstError k).symm.trans first
    obtain ⟨e, failed, failed'⟩ | ⟨st, st', made, made', like⟩ := L.compile k.2 kind
    · exact .inl ⟨_, s, s', Session.prepare_of_compile_error first failed,
        Session.prepare_of_compile_error first' failed', h⟩
    · exact .inr ⟨st, st', Session.prepare_of_compile_ok first made,
        Session.prepare_of_compile_ok first' made', like⟩

theorem close (h : L.session s s') (b b' : Builder) : L.session (s.close b) (s'.close b') :=
  L.release h b.draft b'.draft

theorem send {α : Type} (h : L.session s s') (k : L.Builders b b') (kind : Statement.Kind)
    (refuse : Error → α) {answer answer' : Session Recorder → Statement → α × Session Recorder}
    (answers : ∀ st st', L.statement st st' → L.Same (answer s st) (answer' s' st')) :
    L.Same (s.send b kind refuse answer) (s'.send b' kind refuse answer') := by
  obtain ⟨e, t, t', refused, refused', like⟩ | ⟨st, st', ready, ready', like⟩ := prepare h k kind
  · rw [Session.send_of_error refused, Session.send_of_error refused']
    exact ⟨rfl, close like b b'⟩
  · rw [Session.send_of_ok ready, Session.send_of_ok ready']
    exact ⟨(answers st st' like).1, close (answers st st' like).2 b b'⟩

theorem sendOne (h : L.session s s') (k : L.Builders b b') :
    L.Same (s.sendOne b) (s'.sendOne b') :=
  send h k _ _ fun _ _ like => k.1 ▸ L.queryOne h b.target like

theorem sendMany (h : L.session s s') (k : L.Builders b b') (visit : Visitor β) (memory : β) :
    L.Same (s.sendMany b visit memory) (s'.sendMany b' visit memory) := by
  rw [Session.sendMany_eq, Session.sendMany_eq, ← k.1]
  refine send h k _ _ fun st st' like => ?_
  obtain ⟨answer, sessions⟩ := L.queryMany h b.target like
  exact ⟨congrArg (Session.visited visit memory) answer, sessions⟩

theorem sendAll {α : Type} (h : L.session s s') (k : L.Builders b b')
    (read : Row → Except Error α) : L.Same (s.sendAll b read) (s'.sendAll b' read) := by
  rw [Session.sendAll_eq, Session.sendAll_eq, ← k.1]
  refine send h k _ _ fun st st' like => ?_
  obtain ⟨answer, sessions⟩ := L.queryMany h b.target like
  exact ⟨congrArg (Except.bind · (readAll read)) answer, sessions⟩

theorem sendChange (h : L.session s s') (k : L.Builders b b') (kind : Statement.Kind) :
    L.Same (s.sendChange b kind) (s'.sendChange b' kind) :=
  send h k _ _ fun _ _ like => k.1 ▸ L.execute h b.target like

theorem column (h : L.session s s') (k : L.Builders b b') (t : ColumnType) :
    L.Same (s.column b t) (s'.column b' t) := by
  obtain ⟨answer, sessions⟩ := sendOne h k
  exact ⟨congrArg (Session.ofRow t.zero fun row => row.get 0 t) answer, sessions⟩

theorem aggregate (h : L.session s s') (k : L.Builders b b') (a : Aggregate) (t : ColumnType) :
    L.Same (s.aggregate b a t) (s'.aggregate b' a t) := by
  have k₁ : L.Builders { b with draft := b.draft.aggregating a }
      { b' with draft := b'.draft.aggregating a } := ⟨k.1, L.aggregating k.2 a⟩
  exact column h k₁ t

theorem paged (k : L.Builders b b') (size : UInt64) :
    L.draft (b.draft.paged size) (b'.draft.paged size) := by
  unfold Draft.paged
  split
  · exact L.addError k.2 _
  · exact k.2

/-- Paging takes the same way in both sessions, and gives the same. -/
theorem getPage (h : L.session s s') (k : L.Builders b b') (page size : UInt64)
    (visit : Visitor β) (memory : β) :
    L.Same (s.getPage b page size visit memory) (s'.getPage b' page size visit memory) := by
  have k₁ : L.Builders { b with draft := b.draft.paged size }
      { b' with draft := b'.draft.paged size } := ⟨k.1, paged k size⟩
  obtain ⟨checked, sessions⟩ := check h k₁
  simp only [Session.getPage]
  generalize s.check { b with draft := b.draft.paged size } = x at checked sessions ⊢
  generalize s'.check { b' with draft := b'.draft.paged size } = x' at checked sessions ⊢
  -- Both checks end alike, then both counts do, and then both pages exist or neither.
  obtain ⟨failed | ⟨⟩, t⟩ := x <;> obtain ⟨_, t'⟩ := x' <;> cases checked
  · exact ⟨rfl, close sessions _ _⟩
  · obtain ⟨counted, sessions⟩ := aggregate (L.acquire sessions).2 k₁ .count .uint64
    dsimp only [Session.fork]
    generalize t.acquire.2.aggregate { b with draft := b.draft.paged size } .count .uint64 = y
      at counted sessions ⊢
    generalize t'.acquire.2.aggregate { b' with draft := b'.draft.paged size } .count .uint64 = y'
      at counted sessions ⊢
    obtain ⟨failed | total, u⟩ := y <;> obtain ⟨_, u'⟩ := y' <;> cases counted
    · exact ⟨rfl, close sessions _ _⟩
    · dsimp only
      generalize (if page = 0 then 1 else page) = number
      split
      · exact ⟨rfl, close sessions _ _⟩
      · have k₂ : L.Builders
            { b with draft := (b.draft.paged size).window ((number - 1) * size) size }
            { b' with draft := (b'.draft.paged size).window ((number - 1) * size) size } :=
          ⟨k.1, L.window (paged k size) ((number - 1) * size) size⟩
        obtain ⟨shown, sessions⟩ := sendMany sessions k₂ visit memory
        exact ⟨by simp only [shown], sessions⟩

/-! ## Ending builders -/

/-- Like builders of like sessions give the same answer to an operation. -/
theorem finish (h : L.session s s') (k : L.Builders b b') (t : Terminal β) (memory : β) :
    L.Same (s.finish b t memory) (s'.finish b' t memory) := by
  cases t with
  | firstRow | first _ =>
    have k₁ : L.Builders { b with draft := b.draft.firstRow }
        { b' with draft := b'.draft.firstRow } := ⟨k.1, L.firstRow k.2⟩
    obtain ⟨answer, sessions⟩ := sendOne h k₁
    exact ⟨by simp only [Session.finish, answer], sessions⟩
  | value field t =>
    have k₁ : L.Builders { b with draft := (b.draft.only field).firstRow }
        { b' with draft := (b'.draft.only field).firstRow } :=
      ⟨k.1, L.firstRow (L.only k.2 field)⟩
    obtain ⟨answer, sessions⟩ := column h k₁ t
    exact ⟨by simp only [Session.finish, answer], sessions⟩
  | get visit => exact sendMany h k visit memory
  | fetchAll form =>
    obtain ⟨answer, sessions⟩ := sendAll h k fun row => row.readForm form
    exact ⟨by simp only [Session.finish, answer], sessions⟩
  | getPage page size visit => exact getPage h k page size visit memory
  | count | «exists» =>
    obtain ⟨answer, sessions⟩ := aggregate h k .count .uint64
    exact ⟨by simp only [Session.finish, answer], sessions⟩
  | sum field =>
    obtain ⟨answer, sessions⟩ := aggregate h k (.sum field) .float64
    exact ⟨by simp only [Session.finish, answer], sessions⟩
  | max field t =>
    obtain ⟨answer, sessions⟩ := aggregate h k (.max field) t
    exact ⟨by simp only [Session.finish, answer], sessions⟩
  | min field t =>
    obtain ⟨answer, sessions⟩ := aggregate h k (.min field) t
    exact ⟨by simp only [Session.finish, answer], sessions⟩
  | insert p | update p =>
    have k₁ : L.Builders { b with draft := b.draft.carrying p }
        { b' with draft := b'.draft.carrying p } := ⟨k.1, L.carrying k.2 (L.payload_refl p)⟩
    obtain ⟨answer, sessions⟩ := sendChange h k₁ _
    exact ⟨by simp only [Session.finish, answer], sessions⟩
  | delete =>
    obtain ⟨answer, sessions⟩ := sendChange h k .delete
    exact ⟨by simp only [Session.finish, answer], sessions⟩

/-- Two payloads that are alike give the same answer. -/
theorem finish_insert (h : L.session s s') (k : L.Builders b b') {p p' : Payload}
    (like : L.payload p p') (memory : β) :
    L.Same (s.finish b (.insert p) memory) (s'.finish b' (.insert p') memory) := by
  have k₁ : L.Builders { b with draft := b.draft.carrying p }
      { b' with draft := b'.draft.carrying p' } := ⟨k.1, L.carrying k.2 like⟩
  obtain ⟨answer, sessions⟩ := sendChange h k₁ .insert
  exact ⟨by simp only [Session.finish, answer], sessions⟩

theorem finish_update (h : L.session s s') (k : L.Builders b b') {p p' : Payload}
    (like : L.payload p p') (memory : β) :
    L.Same (s.finish b (.update p) memory) (s'.finish b' (.update p') memory) := by
  have k₁ : L.Builders { b with draft := b.draft.carrying p }
      { b' with draft := b'.draft.carrying p' } := ⟨k.1, L.carrying k.2 like⟩
  obtain ⟨answer, sessions⟩ := sendChange h k₁ .update
  exact ⟨by simp only [Session.finish, answer], sessions⟩

end Sending

section Sessions

variable {s s' : Session Recorder}

/-! ## Builders and transactions -/

theorem builder (h : L.session s s') (target : Target) :
    L.Builders (s.builder target).1 (s'.builder target).1 ∧
      L.session (s.builder target).2 (s'.builder target).2 :=
  ⟨⟨rfl, (L.acquire h).1⟩, (L.acquire h).2⟩

theorem tableOn (h : L.session s s') (target : Target) (table : String) :
    L.Builders (s.tableOn target table).1 (s'.tableOn target table).1 ∧
      L.session (s.tableOn target table).2 (s'.tableOn target table).2 :=
  ⟨⟨rfl, L.choose (L.acquire h).1 table⟩, (L.acquire h).2⟩

/-- Both sessions fail to open a transaction with the same error, or both open it under the same
number. -/
theorem openScope (h : L.session s s') :
    (∃ e, s.openScope.1 = .error e ∧ s'.openScope.1 = .error e ∧
        L.session s.openScope.2 s'.openScope.2) ∨
      ∃ id b b', s.openScope.1 = .ok (id, b) ∧ s'.openScope.1 = .ok (id, b') ∧
        L.Builders b b' ∧ L.session s.openScope.2 s'.openScope.2 := by
  obtain ⟨answer, sessions⟩ := L.start h
  simp only [Session.openScope]
  generalize Database.start s.database = x at answer sessions ⊢
  generalize Database.start s'.database = x' at answer sessions ⊢
  obtain ⟨e | id, r⟩ := x <;> obtain ⟨_, r'⟩ := x' <;> cases answer
  · exact .inl ⟨e, rfl, rfl, sessions⟩
  · obtain ⟨builders, opened⟩ := builder (L.log sessions .transactionStarted) (.transaction id)
    exact .inr ⟨id, _, _, rfl, rfl, builders, opened⟩

theorem commitScope {ε α : Type} [FromError ε] (h : L.session s s') (id : Nat) (x : α) :
    L.Same (s.commitScope (ε := ε) id x) (s'.commitScope id x) := by
  obtain ⟨answer, sessions⟩ := L.commit h id
  simp only [Session.commitScope]
  generalize Database.commit id s.database = y at answer sessions ⊢
  generalize Database.commit id s'.database = y' at answer sessions ⊢
  obtain ⟨e | ⟨⟩, r⟩ := y <;> obtain ⟨_, r'⟩ := y' <;> cases answer
  · exact ⟨rfl, sessions⟩
  · exact ⟨rfl, L.log sessions _⟩

theorem rollbackScope (h : L.session s s') (id : Nat) :
    L.session (s.rollbackScope id) (s'.rollbackScope id) := by
  obtain ⟨answer, sessions⟩ := L.rollback h id
  simp only [Session.rollbackScope]
  generalize Database.rollback id s.database = y at answer sessions ⊢
  generalize Database.rollback id s'.database = y' at answer sessions ⊢
  obtain ⟨e | ⟨⟩, r⟩ := y <;> obtain ⟨_, r'⟩ := y' <;> cases answer <;> exact L.log sessions _

theorem closeScope {ε α : Type} [FromError ε] (h : L.session s s') (id : Nat) (b b' : Builder)
    (worked : Except ε α) :
    L.Same (s.closeScope id b worked) (s'.closeScope id b' worked) := by
  cases worked with
  | ok x => exact commitScope (close h b b') id x
  | error e => exact ⟨rfl, rollbackScope (close h b b') id⟩

end Sessions

end Likeness

/-! ## Like programs -/

section Programs

variable {β : Type} (L : Likeness)

/-- Operations that differ in their calls and payloads only. -/
inductive Operation.Like : Operation β → Operation β → Prop where
  | same (op : Operation β) : Like op op
  | gather (n : Nat) {c c' : Call} (h : L.call c c') : Like (.gather n c) (.gather n c')
  | insert (n : Nat) {p p' : Payload} (h : L.payload p p') (memory : β) :
      Like (.finish n (.insert p) memory) (.finish n (.insert p') memory)
  | update (n : Nat) {p p' : Payload} (h : L.payload p p') (memory : β) :
      Like (.finish n (.update p) memory) (.finish n (.update p') memory)

/-- The same is seen, but for the statements themselves and the payloads that were given. -/
inductive Seen.Like : Seen β → Seen β → Prop where
  | refused (e : Error) : Like (.previewed (.error e)) (.previewed (.error e))
  | previewed {st st' : Statement} (h : L.statement st st') :
      Like (.previewed (.ok st)) (.previewed (.ok st'))
  | finished (origin : Option Nat) (t : Terminal β) (answer : Except Error t.Answer) (memory : β)
      {received received' : List Sent} (h : List.Forall₂ L.sent received received') :
      Like (.finished origin t answer memory received) (.finished origin t answer memory received')
  | inserted (origin : Option Nat) {p p' : Payload} (answer : Except Error Nat) (memory : β)
      {received received' : List Sent} (h : List.Forall₂ L.sent received received') :
      Like (.finished origin (.insert p) answer memory received)
        (.finished origin (.insert p') answer memory received')
  | updated (origin : Option Nat) {p p' : Payload} (answer : Except Error Nat) (memory : β)
      {received received' : List Sent} (h : List.Forall₂ L.sent received received') :
      Like (.finished origin (.update p) answer memory received)
        (.finished origin (.update p') answer memory received')
  | started (answer : Except Error Nat) : Like (.started answer) (.started answer)
  | stopped (id : Nat) (worked answer : Except Error Unit) :
      Like (.stopped id worked answer) (.stopped id worked answer)

/-- Like builders that derive from the same transaction, or both from none. -/
def Held.Like (h h' : Held) : Prop := L.Builders h.builder h'.builder ∧ h.origin = h'.origin

/-- States that differ in that respect only. -/
structure State.Like (s s' : State β) : Prop where
  session : L.session s.session s'.session
  live : List.Forall₂ (Held.Like L) s.live s'.live
  scopes : List.Forall₂ (fun p p' => p.1 = p'.1 ∧ L.Builders p.2 p'.2) s.scopes s'.scopes
  seen : List.Forall₂ (Seen.Like L) s.seen s'.seen

end Programs

namespace State.Like

variable {L : Likeness} {β : Type} {s s' : State β}

theorem scope? (h : State.Like L s s') (id : Nat) :
    Option.Rel L.Builders (s.scope? id) (s'.scope? id) := by
  have found := forall₂_find? h.scopes (p := fun p => p.1 == id) fun p p' like => by rw [like.1]
  unfold State.scope?
  generalize s.scopes.find? (fun p => p.1 == id) = x at found
  generalize s'.scopes.find? (fun p => p.1 == id) = x' at found
  cases found with
  | none => exact .none
  | some like => exact .some like.2

theorem at? (h : State.Like L s s') (place : Place) :
    Option.Rel (Held.Like L) (s.at? place) (s'.at? place) := by
  cases place with
  | live n => exact forall₂_getElem? h.live n
  | scope id =>
    have found := h.scope? id
    unfold State.at?
    dsimp only
    generalize s.scope? id = x at found
    generalize s'.scope? id = x' at found
    cases found with
    | none => exact .none
    | some like => exact .some ⟨like, rfl⟩

theorem hold (h : State.Like L s s') {made made' : Builder × Session Recorder}
    (like : L.Builders made.1 made'.1 ∧ L.session made.2 made'.2) (origin : Option Nat) :
    State.Like L (s.hold made origin) (s'.hold made' origin) where
  session := like.2
  live := forall₂_concat h.live ⟨like.1, rfl⟩
  scopes := h.scopes
  seen := h.seen

/-- The statements received meanwhile are like. -/
theorem received {t t' : Session Recorder} (h : L.session t t') (k : State.Like L s s') :
    List.Forall₂ L.sent (t.database.sent.drop s.session.database.sent.length)
      (t'.database.sent.drop s'.session.database.sent.length) := by
  rw [← (L.received k.session).length_eq]
  exact List.forall₂_drop _ (L.received h)

theorem finish (h : State.Like L s s') (n : Nat) {held held' : Held} (like : held.Like L held')
    (t : Terminal β) (memory : β) :
    State.Like L (s.finish n held t memory) (s'.finish n held' t memory) := by
  obtain ⟨answer, sessions⟩ := Likeness.finish h.session like.1 t memory
  refine ⟨sessions, forall₂_eraseIdx h.live n, h.scopes, forall₂_concat h.seen ?_⟩
  rw [answer, like.2]
  exact .finished _ _ _ _ (received sessions h)

theorem finish_insert (h : State.Like L s s') (n : Nat) {held held' : Held}
    (like : held.Like L held') {p p' : Payload} (k : L.payload p p') (memory : β) :
    State.Like L (s.finish n held (.insert p) memory) (s'.finish n held' (.insert p') memory) := by
  obtain ⟨answer, sessions⟩ := Likeness.finish_insert h.session like.1 k memory
  refine ⟨sessions, forall₂_eraseIdx h.live n, h.scopes, forall₂_concat h.seen ?_⟩
  rw [answer, like.2]
  exact .inserted _ _ _ (received sessions h)

theorem finish_update (h : State.Like L s s') (n : Nat) {held held' : Held}
    (like : held.Like L held') {p p' : Payload} (k : L.payload p p') (memory : β) :
    State.Like L (s.finish n held (.update p) memory) (s'.finish n held' (.update p') memory) := by
  obtain ⟨answer, sessions⟩ := Likeness.finish_update h.session like.1 k memory
  refine ⟨sessions, forall₂_eraseIdx h.live n, h.scopes, forall₂_concat h.seen ?_⟩
  rw [answer, like.2]
  exact .updated _ _ _ (received sessions h)

theorem preview (h : State.Like L s s') {held held' : Held} (like : held.Like L held')
    (kind : Statement.Kind) : State.Like L (s.preview held kind) (s'.preview held' kind) := by
  unfold State.preview
  obtain ⟨e, t, t', refused, refused', sessions⟩ | ⟨st, st', ready, ready', statements⟩ :=
    Likeness.prepare h.session like.1 kind
  · rw [refused, refused']
    exact ⟨sessions, h.live, h.scopes, forall₂_concat h.seen (.refused e)⟩
  · rw [ready, ready']
    exact ⟨h.session, h.live, h.scopes, forall₂_concat h.seen (.previewed statements)⟩

theorem gather (h : State.Like L s s') (n : Nat) {held held' : Held} (like : held.Like L held')
    {c c' : Call} (k : L.call c c') :
    State.Like L (s.gather n held c) (s'.gather n held' c') where
  session := h.session
  live := forall₂_set h.live n ⟨⟨like.1.1, L.apply like.1.2 k⟩, like.2⟩
  scopes := h.scopes
  seen := h.seen

theorem start (h : State.Like L s s') : State.Like L s.start s'.start := by
  unfold State.start
  obtain ⟨e, failed, failed', sessions⟩ | ⟨id, b, b', opened, opened', builders, sessions⟩ :=
    Likeness.openScope h.session
  · simp only [failed, failed']
    exact ⟨sessions, h.live, h.scopes, forall₂_concat h.seen (.started _)⟩
  · simp only [opened, opened']
    exact ⟨sessions, h.live, forall₂_concat h.scopes ⟨rfl, builders⟩,
      forall₂_concat h.seen (.started _)⟩

theorem stop (h : State.Like L s s') (id : Nat) (scope scope' : Builder)
    (worked : Except Error Unit) :
    State.Like L (s.stop id scope worked) (s'.stop id scope' worked) := by
  obtain ⟨answer, sessions⟩ := Likeness.closeScope h.session id scope scope' worked
  refine ⟨sessions, h.live, ?_, forall₂_concat h.seen ?_⟩
  · refine List.rel_filter (fun p p' like => ?_) h.scopes
    simp only [like.1]
  · rw [answer]
    exact .stopped id worked _

/-- What is done with something that both states have, or neither. -/
theorem elim (h : State.Like L s s') {α : Type} {R : α → α → Prop} {x x' : Option α}
    (found : Option.Rel R x x') {f f' : α → State β}
    (k : ∀ a a', R a a' → State.Like L (f a) (f' a')) :
    State.Like L (x.elim s f) (x'.elim s' f') := by
  cases found with
  | none => exact h
  | some like => exact k _ _ like

/-- One operation does the same in both states. -/
theorem step (h : State.Like L s s') (op : Operation β) :
    State.Like L (s.step op) (s'.step op) := by
  cases op with
  | push reply => exact ⟨L.push h.session reply, h.live, h.scopes, h.seen⟩
  | failNext reason => exact ⟨L.failNext h.session reason, h.live, h.scopes, h.seen⟩
  | query => exact h.hold (Likeness.builder h.session .connection) none
  | table name => exact h.hold (Likeness.tableOn h.session .connection name) none
  | beside parent name =>
    refine h.elim (h.at? parent) fun held held' like => ?_
    have made := Likeness.tableOn h.session held.builder.target name
    rw [Session.beside, Session.beside, ← like.1.1, ← like.2]
    exact h.hold made held.origin
  | gather n call =>
    refine h.elim (forall₂_getElem? h.live n) fun held held' like => ?_
    exact h.gather n like (L.call_refl call)
  | preview place kind =>
    exact h.elim (h.at? place) fun held held' like => h.preview like kind
  | finish n t memory =>
    refine h.elim (forall₂_getElem? h.live n) fun held held' like => ?_
    exact h.finish n like t memory
  | drop n =>
    refine h.elim (forall₂_getElem? h.live n) fun held held' like => ?_
    exact ⟨Likeness.close h.session _ _, forall₂_eraseIdx h.live n, h.scopes, h.seen⟩
  | start => exact h.start
  | stop id worked =>
    exact h.elim (h.scope? id) fun scope scope' _ => h.stop id scope scope' worked

/-- Like operations do the same in both states. -/
theorem step_like (h : State.Like L s s') {op op' : Operation β} (k : Operation.Like L op op') :
    State.Like L (s.step op) (s'.step op') := by
  cases k with
  | same => exact h.step op
  | gather n call =>
    refine h.elim (forall₂_getElem? h.live n) fun held held' like => ?_
    exact h.gather n like call
  | insert n payload memory =>
    refine h.elim (forall₂_getElem? h.live n) fun held held' like => ?_
    exact h.finish_insert n like payload memory
  | update n payload memory =>
    refine h.elim (forall₂_getElem? h.live n) fun held held' like => ?_
    exact h.finish_update n like payload memory

/-- Like programs do the same in both states. -/
theorem stepAll (h : State.Like L s s') {ops ops' : List (Operation β)}
    (k : List.Forall₂ (Operation.Like L) ops ops') :
    State.Like L (s.stepAll ops) (s'.stepAll ops') := by
  induction k generalizing s s' with
  | nil => exact h
  | cons like _ ih => exact ih (h.step_like like)

/-- Like programs have like runs, if they start with like sessions. -/
theorem run {maxIdle maxIdle' : Nat} {logArguments logArguments' : Bool}
    (start : L.session (initial (β := β) maxIdle logArguments).session
      (initial (β := β) maxIdle' logArguments').session) {ops ops' : List (Operation β)}
    (k : List.Forall₂ (Operation.Like L) ops ops') :
    State.Like L (State.run maxIdle logArguments ops) (State.run maxIdle' logArguments' ops') :=
  stepAll ⟨start, .nil, .nil, .nil⟩ k

end State.Like

end QueryLoom
