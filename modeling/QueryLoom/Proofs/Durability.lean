import QueryLoom.Proofs.Ending
import QueryLoom.Proofs.Program

/-!
# Durability

Which changes last, in every program.

* `Effect` : what an operation does to the changes that last, read off the builders that callers
  hold and the answers that they get;
* `lasting` : the changes that should last on account of some effects;
* `Kept`, `Noted` : what a recorder keeps of changes, and what it remembers of everything seen;
* `Ended` : what becomes of a recorder when a builder is ended;
* `Tracked` : what every operation keeps;
* `durable_run` : what lasts is what should.
-/

namespace QueryLoom

variable {β : Type}

/-! ## What should last -/

/-- What an operation does to the changes that last. -/
inductive Effect where
  /-- A change was answered: it belongs to a transaction, or to the base connection. -/
  | changed (origin : Option Nat) (st : Statement)
  | committed (id : Nat)
  deriving DecidableEq, Repr

namespace Effect

/-- The change, if it belongs where is asked. -/
def changes (origin : Option Nat) : Effect → List Sent
  | .changed o st => if o = origin then [⟨st, origin.isSome⟩] else []
  | .committed _ => []

/-- The transaction that a change belongs to. -/
def origin? : Effect → Option Nat
  | .changed origin _ => origin
  | .committed _ => none

end Effect

/-- All changes that belong where is asked, in their order. -/
def changesOf (origin : Option Nat) (effects : List Effect) : List Sent :=
  effects.flatMap (Effect.changes origin)

/-- What should last on account of an effect after `past`: a change on the base connection at once,
and those of a transaction when it is committed. -/
def Effect.lasting (past : List Effect) : Effect → List Sent
  | .changed origin st => changes none (.changed origin st)
  | .committed id => changesOf (some id) past

/-- What should last on account of effects after `past`. -/
def lasting (past : List Effect) : List Effect → List Sent
  | [] => []
  | e :: rest => e.lasting past ++ lasting (past ++ [e]) rest

theorem lasting_append (past a b : List Effect) :
    lasting past (a ++ b) = lasting past a ++ lasting (past ++ a) b := by
  induction a generalizing past with
  | nil => simp [lasting]
  | cons e a ih => simp [lasting, ih]

/-- What one more effect adds to what should last. -/
theorem lasting_concat (effects : List Effect) (e : Effect) :
    lasting [] (effects ++ [e]) = lasting [] effects ++ e.lasting effects := by
  simp [lasting_append, lasting]

theorem changesOf_concat (origin : Option Nat) (effects : List Effect) (e : Effect) :
    changesOf origin (effects ++ [e]) = changesOf origin effects ++ e.changes origin := by
  simp [changesOf]

/-! ## The effects of operations -/

/-- The effect of ending a builder: if its operation changes rows and succeeds, the statement that
its draft compiles into is a change. -/
def Terminal.effects (t : Terminal β) (h : Held) (answer : Except Error t.Answer) : List Effect :=
  if t.kind ≠ .select ∧ answer.isOk then
    match (t.draft h.builder.draft).compile t.kind with
    | .error _ => []
    | .ok st => [.changed h.origin st]
  else []

/-- The effect of ending a transaction: it is committed when its work and its end both succeed. -/
def Effect.ofStop (id : Nat) : Except Error Unit → Except Error Unit → List Effect
  | .ok (), .ok () => [.committed id]
  | _, _ => []

namespace State

def effects (s : State β) : Operation β → List Effect
  | .finish n t memory =>
    s.live[n]?.elim [] fun h => t.effects h (s.session.finish h.builder t memory).1.1
  | .stop id worked =>
    (s.scope? id).elim [] fun scope =>
      Effect.ofStop id worked (s.session.closeScope id scope worked).1
  | _ => []

def effectsAll (s : State β) : List (Operation β) → List Effect
  | [] => []
  | op :: ops => s.effects op ++ (s.step op).effectsAll ops

end State

namespace Terminal

variable {t : Terminal β} {held : Held} {answer : Except Error t.Answer}

theorem effects_of_nothing (h : t.kind = .select ∨ answer.isOk = false) :
    t.effects held answer = [] := by
  refine if_neg fun done => ?_
  rcases h with select | failed
  · exact done.1 select
  · simp [failed] at done

theorem effects_of_change {st : Statement} (change : t.kind ≠ .select)
    (succeeded : answer.isOk = true)
    (h : (t.draft held.builder.draft).compile t.kind = .ok st) :
    t.effects held answer = [.changed held.origin st] := by
  rw [effects, if_pos ⟨change, succeeded⟩, h]

end Terminal

/-! ## What is seen of programs -/

namespace Seen

def received : Seen β → List Sent
  | .finished _ _ _ _ received => received
  | _ => []

/-- The transaction that a builder which was ended derives from. -/
def origin? : Seen β → Option Nat
  | .finished origin _ _ _ _ => origin
  | _ => none

/-- The number of a transaction that was opened. -/
def started? : Seen β → Option Nat
  | .started (.ok id) => some id
  | _ => none

/-- The number of a transaction that was ended. -/
def stopped? : Seen β → Option Nat
  | .stopped id _ _ => some id
  | _ => none

end Seen

/-! ## What lasts -/

/-- The target of the builders that derive from a transaction, or from none. -/
def Target.ofOrigin : Option Nat → Target
  | none => .connection
  | some id => .transaction id

theorem Target.inTransaction_ofOrigin (origin : Option Nat) :
    (ofOrigin origin).inTransaction = origin.isSome := by
  cases origin <;> rfl

/-- What a recorder keeps of changes when some transactions are open. -/
structure Kept (r : Recorder) (ids : List Nat) (effects : List Effect) : Prop where
  durable : r.durable = lasting [] effects
  pending : r.pending = ids.map fun id => (id, changesOf (some id) effects)
  /-- No change belongs to a transaction that was not opened yet. -/
  origins : ∀ e ∈ effects, ∀ id ∈ e.origin?, id ≤ r.starts

namespace Kept

variable {r r' : Recorder} {ids : List Nat} {effects : List Effect}

theorem initial : Kept {} [] [] where
  durable := rfl
  pending := rfl
  origins := by simp

/-- Only what is remembered of changes and transactions matters. -/
theorem of_same (h : Kept r ids effects) (durable : r'.durable = r.durable)
    (pending : r'.pending = r.pending) (starts : r'.starts = r.starts) : Kept r' ids effects where
  durable := durable.trans h.durable
  pending := pending.trans h.pending
  origins := starts ▸ h.origins

/-- Nothing belongs to a transaction before it is opened. -/
theorem changesOf_fresh (h : Kept r ids effects) {id : Nat} (fresh : r.starts < id) :
    changesOf (some id) effects = [] := by
  rw [changesOf, List.flatMap_eq_nil_iff]
  intro e he
  cases e with
  | changed origin st =>
    refine if_neg fun same => ?_
    have := h.origins _ he id same
    omega
  | committed _ => rfl

/-- The recorder holds back exactly the changes of an open transaction. -/
theorem changesOf_eq (h : Kept r ids effects) {id : Nat} (opened : id ∈ ids) :
    r.changesOf id = changesOf (some id) effects := by
  obtain ⟨p, hp⟩ : ∃ p, r.pending.find? (fun p => p.1 == id) = some p := by
    rw [← Option.isSome_iff_exists, List.find?_isSome, h.pending]
    exact ⟨_, List.mem_map_of_mem opened, beq_self_eq_true id⟩
  have same : p.1 = id := by simpa using List.find?_some hp
  have member := List.mem_of_find?_eq_some hp
  rw [h.pending] at member
  obtain ⟨id', _, rfl⟩ := List.mem_map.1 member
  rw [Recorder.changesOf, hp, ← same]
  rfl

/-- A change lasts at once on the base connection, and else it waits with those of its
transaction. -/
theorem changed (h : Kept r ids effects) {origin : Option Nat}
    (bound : ∀ id ∈ origin, id ≤ r.starts) (st : Statement) :
    Kept (Recorder.keep (.ofOrigin origin) (Recorder.sentOn (.ofOrigin origin) st) r) ids
      (effects ++ [.changed origin st]) := by
  have origins : ∀ e ∈ effects ++ [.changed origin st], ∀ id ∈ e.origin?, id ≤ r.starts :=
    List.forall_mem_append.2 ⟨h.origins, List.forall_mem_singleton.2 bound⟩
  cases origin with
  | none =>
    refine ⟨?_, ?_, origins⟩
    · rw [lasting_concat, ← h.durable]
      rfl
    · simp only [changesOf_concat, Effect.changes, reduceCtorEq, if_false, List.append_nil]
      exact h.pending
  | some id =>
    refine ⟨?_, ?_, origins⟩
    · rw [lasting_concat, ← h.durable]
      exact (List.append_nil _).symm
    · simp only [Recorder.keep, Target.ofOrigin, h.pending, List.map_map, changesOf_concat]
      refine List.map_congr_left fun open' _ => ?_
      by_cases same : open' = id
      · simp [same, Effect.changes, Recorder.sentOn, Target.inTransaction]
      · simp [same, Effect.changes, Ne.symm same]

/-- A new transaction has made no changes. -/
theorem opened (h : Kept r ids effects) :
    Kept { r with starts := r.starts + 1, pending := r.pending ++ [(r.starts + 1, [])] }
      (ids ++ [r.starts + 1]) effects where
  durable := h.durable
  pending := by simp [h.pending, h.changesOf_fresh (Nat.lt_succ_self r.starts)]
  origins := fun e he id belongs => Nat.le_succ_of_le (h.origins e he id belongs)

/-- A transaction whose changes are given up is forgotten. -/
theorem forgotten (h : Kept r ids effects) (id : Nat) :
    Kept (r.forget id) (ids.filter (· != id)) effects where
  durable := h.durable
  pending := by
    simp only [Recorder.forget, h.pending, List.filter_map]
    rfl
  origins := h.origins

theorem committed (h : Kept r ids effects) {id : Nat} (opened : id ∈ ids) :
    Kept { r.forget id with durable := r.durable ++ r.changesOf id } (ids.filter (· != id))
      (effects ++ [.committed id]) where
  durable := by
    rw [lasting_concat, ← h.durable, h.changesOf_eq opened]
    rfl
  pending := by
    simp only [changesOf_concat, Effect.changes, List.append_nil]
    exact (h.forgotten id).pending
  origins := by
    have none : ∀ id' ∈ (Effect.committed id).origin?, id' ≤ r.starts := by simp [Effect.origin?]
    exact List.forall_mem_append.2 ⟨h.origins, List.forall_mem_singleton.2 none⟩

end Kept

/-! ## What was received -/

/-- What a recorder remembers of what was seen when some transactions are open. -/
structure Noted (r : Recorder) (ids : List Nat) (seen : List (Seen β)) : Prop where
  sent : r.sent = seen.flatMap Seen.received
  flags : ∀ e ∈ seen, ∀ st ∈ e.received, st.inTransaction = e.origin?.isSome
  /-- Transactions are numbered in the order in which they were opened. -/
  started : seen.filterMap Seen.started? = List.range' 1 r.starts
  /-- Each is either open or was ended once. -/
  ended : (ids ++ seen.filterMap Seen.stopped?).Perm (seen.filterMap Seen.started?)

namespace Noted

variable {r r' : Recorder} {ids : List Nat} {seen : List (Seen β)}

theorem initial : Noted (β := β) {} [] [] where
  sent := rfl
  flags := by simp
  started := rfl
  ended := .refl _

/-- Only what is remembered of statements and transactions matters. -/
theorem of_same (h : Noted r ids seen) (sent : r'.sent = r.sent) (starts : r'.starts = r.starts) :
    Noted r' ids seen where
  sent := sent.trans h.sent
  flags := h.flags
  started := starts ▸ h.started
  ended := h.ended

/-- No transaction is open after it was ended, and none is opened or ended twice. -/
theorem nodup (h : Noted r ids seen) : (ids ++ seen.filterMap Seen.stopped?).Nodup := by
  rw [h.ended.nodup_iff, h.started]
  exact List.nodup_range'

/-- The open transactions are among those that were numbered. -/
theorem le_starts (h : Noted r ids seen) {id : Nat} (opened : id ∈ ids) : id ≤ r.starts := by
  have numbered : id ∈ seen.filterMap Seen.started? :=
    h.ended.subset (List.mem_append_left _ opened)
  rw [h.started, List.mem_range'_1] at numbered
  omega

theorem flags_concat (h : Noted r ids seen) {e : Seen β}
    (flags : ∀ st ∈ e.received, st.inTransaction = e.origin?.isSome) :
    ∀ e' ∈ seen ++ [e], ∀ st ∈ e'.received, st.inTransaction = e'.origin?.isSome :=
  List.forall_mem_append.2 ⟨h.flags, List.forall_mem_singleton.2 flags⟩

/-- Something is seen that neither opens nor ends a transaction. -/
theorem concat {e : Seen β} (h : Noted r ids seen) (started : e.started? = none)
    (stopped : e.stopped? = none) (starts : r'.starts = r.starts)
    (sent : r'.sent = r.sent ++ e.received)
    (flags : ∀ st ∈ e.received, st.inTransaction = e.origin?.isSome) :
    Noted r' ids (seen ++ [e]) where
  sent := by simp [sent, h.sent]
  flags := h.flags_concat flags
  started := by simp [started, starts, h.started]
  ended := by simpa [stopped, started] using h.ended

/-- A new transaction gets the next number. -/
theorem opened (h : Noted r ids seen) (sent : r'.sent = r.sent)
    (starts : r'.starts = r.starts + 1) :
    Noted r' (ids ++ [r.starts + 1]) (seen ++ [.started (.ok (r.starts + 1))]) where
  sent := by simp [sent, h.sent, Seen.received]
  flags := h.flags_concat (by simp [Seen.received])
  started := by
    rw [List.filterMap_append, h.started, starts, List.range'_1_concat]
    simp [Seen.started?, Nat.add_comm]
  ended := by
    rw [List.filterMap_append, List.filterMap_append]
    refine List.Perm.trans ?_ (h.ended.append_right [r.starts + 1])
    simp only [Seen.stopped?, List.filterMap_cons, List.filterMap_nil, List.append_nil,
      List.append_assoc]
    exact List.perm_append_comm.append_left ids

/-- A transaction that ends is no longer open. -/
theorem stopped (h : Noted r ids seen) {id : Nat} (member : id ∈ ids)
    (worked answer : Except Error Unit) (sent : r'.sent = r.sent) (starts : r'.starts = r.starts) :
    Noted r' (ids.filter (· != id)) (seen ++ [.stopped id worked answer]) where
  sent := by simp [sent, h.sent, Seen.received]
  flags := h.flags_concat (by simp [Seen.received])
  started := by simp [h.started, Seen.started?, starts]
  ended := by
    -- The number moves from those that are open to those that were ended.
    have nodup : ids.Nodup := (List.nodup_append.1 h.nodup).1
    have split : (ids.filter (· != id) ++ [id]).Perm ids := by
      rw [← nodup.erase_eq_filter]
      exact List.perm_append_comm.trans (List.perm_cons_erase member).symm
    rw [List.filterMap_append, List.filterMap_append]
    simp only [Seen.stopped?, Seen.started?, List.filterMap_cons, List.filterMap_nil,
      List.append_nil]
    refine List.Perm.trans ?_ ((split.append_right _).trans h.ended)
    rw [List.append_assoc]
    exact List.perm_append_comm.append_left _

end Noted

/-! ## Ending a builder -/

/-- What becomes of a recorder when a builder is ended: it receives some statements and changes
nothing, or it receives and keeps the one change that the draft of the builder compiles into. -/
inductive Ended (b : Builder) (t : Terminal β) (answer : Except Error t.Answer) (r : Recorder) :
    Recorder → Prop where
  | unchanged (sts : List Statement) (replies : List Reply) (failure : Option String)
      (nothing : t.kind = .select ∨ answer.isOk = false) :
      Ended b t answer r
        { r with
          sent := r.sent ++ sts.map (Recorder.sentOn b.target), replies := replies,
          failure := failure }
  | changed (st : Statement) (replies : List Reply) (lastInsertId : Nat)
      (change : t.kind ≠ .select) (succeeded : answer.isOk = true)
      (compiled : (t.draft b.draft).compile t.kind = .ok st) :
      Ended b t answer r
        { Recorder.keep b.target (Recorder.sentOn b.target st) r with
          sent := r.sent ++ [Recorder.sentOn b.target st], replies := replies,
          lastInsertId := lastInsertId }

namespace Ended

theorem refused (b : Builder) {t : Terminal β} {answer : Except Error t.Answer} (r : Recorder)
    (failed : answer.isOk = false) : Ended b t answer r r := by
  have ended := Ended.unchanged (b := b) (r := r) [] r.replies r.failure (.inr failed)
  simp only [List.map_nil, List.append_nil] at ended
  exact ended

/-- Every ending is of one of the two kinds. -/
theorem finish (s : Session Recorder) (b : Builder) (t : Terminal β) (memory : β) :
    Ended b t (s.finish b t memory).1.1 s.database (s.finish b t memory).2.database := by
  obtain ⟨select, sts, queried⟩ | ⟨failed, same⟩ | ⟨change, st, compiled, executed, succeeds⟩ :=
    s.finish_cases b t memory
  · obtain ⟨replies, failure, frame⟩ := Recorder.Queried.frame queried
    rw [frame]
    exact .unchanged sts replies failure (.inl select)
  · rw [same]
    exact .refused b s.database failed
  · rw [executed]
    cases failing : s.database.failure with
    | some reason =>
      have answered : Database.execute b.target st s.database = _ :=
        Recorder.change_of_some failing b.target st
      rw [answered] at succeeds ⊢
      exact .unchanged [st] s.database.replies none (.inr succeeds)
    | none =>
      obtain ⟨o, replies, lastInsertId, changed⟩ := Recorder.change_of_none failing b.target st
      have answered : Database.execute b.target st s.database = _ := changed
      rw [answered] at succeeds ⊢
      exact .changed st replies lastInsertId change succeeds compiled

variable {b : Builder} {t : Terminal β} {answer : Except Error t.Answer} {r r' : Recorder}

/-- No transaction is opened meanwhile. -/
theorem starts_eq (h : Ended b t answer r r') : r'.starts = r.starts := by
  cases h with
  | unchanged => rfl
  | changed st =>
    simp only [Recorder.keep]
    split <;> rfl

/-- Everything that is received has the target of the builder. -/
theorem sent_eq (h : Ended b t answer r r') :
    ∃ sts : List Statement, r'.sent = r.sent ++ sts.map (Recorder.sentOn b.target) := by
  cases h with
  | unchanged sts => exact ⟨sts, rfl⟩
  | changed st => exact ⟨[st], rfl⟩

/-- A change that succeeds is the statement of its draft, received once. -/
theorem of_success (h : Ended b t answer r r') (change : t.kind ≠ .select)
    (succeeded : answer.isOk = true) :
    ∃ st, (t.draft b.draft).compile t.kind = .ok st ∧
      r'.sent = r.sent ++ [Recorder.sentOn b.target st] := by
  cases h with
  | unchanged _ _ _ nothing =>
    rcases nothing with select | failed
    · exact absurd select change
    · simp [failed] at succeeded
  | changed st _ _ _ _ compiled => exact ⟨st, compiled, rfl⟩

/-- What is kept is the effect of the operation. -/
theorem kept {ids : List Nat} {effects : List Effect} {held : Held}
    (h : Ended held.builder t answer r r') (k : Kept r ids effects)
    (target : held.builder.target = .ofOrigin held.origin)
    (bound : ∀ id ∈ held.origin, id ≤ r.starts) :
    Kept r' ids (effects ++ t.effects held answer) := by
  cases h with
  | unchanged sts replies failure nothing =>
    rw [Terminal.effects_of_nothing nothing, List.append_nil]
    exact k.of_same rfl rfl rfl
  | changed st replies lastInsertId change succeeded compiled =>
    rw [Terminal.effects_of_change change succeeded compiled, target]
    exact (k.changed bound st).of_same rfl rfl rfl

end Ended

/-! ## Opening and ending transactions -/

namespace Session

theorem openScope_of_some {s : Session Recorder} {reason : String}
    (h : s.database.failure = some reason) :
    s.openScope = (.error (.driver reason),
      { s with database := { s.database with failure := none } }) := by
  simp only [openScope, Database.start, Recorder.start, Recorder.takeFailure, h]

theorem openScope_of_none {s : Session Recorder} (h : s.database.failure = none) :
    ∃ s', s.openScope = (.ok (s.database.starts + 1,
        ⟨.transaction (s.database.starts + 1), s.pool.acquire.1⟩), s') ∧
      s'.database = { s.database with
        starts := s.database.starts + 1,
        pending := s.database.pending ++ [(s.database.starts + 1, [])] } := by
  simp only [openScope, Database.start, Recorder.start, Recorder.takeFailure, h]
  exact ⟨_, rfl, rfl⟩

/-- However a transaction ends it is forgotten. Its changes last exactly when it was committed, and
that succeeded. -/
theorem database_closeScope (s : Session Recorder) (id : Nat) (scope : Builder)
    (worked : Except Error Unit) :
    ∃ failure commits rollbacks, (s.closeScope id scope worked).2.database =
      { s.database.forget id with
        failure := failure, commits := commits, rollbacks := rollbacks
        durable := s.database.durable ++
          match worked, (s.closeScope id scope worked).1 with
          | .ok (), .ok () => s.database.changesOf id
          | _, _ => [] } := by
  cases failing : s.database.failure with
  | some reason =>
    refine ⟨none, s.database.commits, s.database.rollbacks, ?_⟩
    cases worked <;>
      simp [closeScope, commitScope, rollbackScope, Database.commit, Database.rollback,
        Recorder.commit, Recorder.rollback, Recorder.takeFailure, Recorder.forget, failing]
  | none =>
    cases worked with
    | ok x =>
      refine ⟨none, s.database.commits + 1, s.database.rollbacks, ?_⟩
      simp [closeScope, commitScope, Database.commit, Recorder.commit, Recorder.takeFailure,
        Recorder.forget, Recorder.changesOf, failing]
    | error e =>
      refine ⟨none, s.database.commits, s.database.rollbacks + 1, ?_⟩
      simp [closeScope, rollbackScope, Database.rollback, Recorder.rollback, Recorder.takeFailure,
        Recorder.forget, failing]

end Session

/-- What is kept at the end of a transaction is its effect. -/
theorem Kept.stopped {r : Recorder} {ids : List Nat} {effects : List Effect}
    (h : Kept r ids effects) {id : Nat} (opened : id ∈ ids) {worked answer : Except Error Unit}
    {failure : Option String} {commits rollbacks : Nat} :
    Kept { r.forget id with
        failure := failure, commits := commits, rollbacks := rollbacks
        durable := r.durable ++
          match worked, answer with
          | .ok (), .ok () => r.changesOf id
          | _, _ => [] }
      (ids.filter (· != id)) (effects ++ Effect.ofStop id worked answer) := by
  match worked, answer with
  | .ok (), .ok () => exact (h.committed opened).of_same rfl rfl rfl
  | .ok (), .error _ | .error _, _ =>
    simp only [Effect.ofStop, List.append_nil]
    exact (h.forgotten id).of_same rfl rfl rfl

/-! ## What every operation keeps -/

/-- What is known of a state after the effects of everything that was done. -/
structure Tracked (s : State β) (past : List Effect) : Prop where
  kept : Kept s.session.database (s.scopes.map (·.1)) past
  noted : Noted s.session.database (s.scopes.map (·.1)) s.seen
  live : ∀ h ∈ s.live, h.builder.target = .ofOrigin h.origin
  origins : ∀ h ∈ s.live, ∀ id ∈ h.origin, id ≤ s.session.database.starts
  scopes : ∀ p ∈ s.scopes, p.2.target = .transaction p.1

namespace Tracked

variable {s : State β} {past : List Effect}

theorem initial (maxIdle : Nat) (logArguments : Bool) :
    Tracked (State.initial (β := β) maxIdle logArguments) [] where
  kept := Kept.initial
  noted := Noted.initial
  live := by simp [State.initial]
  origins := by simp [State.initial]
  scopes := by simp [State.initial]

/-- The builder that stands for a transaction has it as its target. -/
theorem scope (h : Tracked s past) {id : Nat} {b : Builder} (found : s.scope? id = some b) :
    id ∈ s.scopes.map (·.1) ∧ b.target = .transaction id := by
  obtain ⟨p, hp, rfl⟩ := Option.map_eq_some_iff.1 found
  have same : p.1 = id := by simpa using List.find?_some hp
  have member := List.mem_of_find?_eq_some hp
  subst same
  exact ⟨List.mem_map_of_mem member, h.scopes p member⟩

/-- A builder at any place has the target that goes with what it derives from. -/
theorem at? (h : Tracked s past) {place : Place} {held : Held} (found : s.at? place = some held) :
    held.builder.target = .ofOrigin held.origin ∧
      ∀ id ∈ held.origin, id ≤ s.session.database.starts := by
  cases place with
  | live n =>
    have member := List.mem_of_getElem? found
    exact ⟨h.live held member, h.origins held member⟩
  | scope id =>
    obtain ⟨b, hb, rfl⟩ := Option.map_eq_some_iff.1 found
    obtain ⟨member, target⟩ := h.scope hb
    refine ⟨target, fun id' same => ?_⟩
    cases same
    exact h.noted.le_starts member

/-- Only the recorder and what is held matter. -/
theorem of_same {s' : State β} (h : Tracked s past)
    (recorder : s'.session.database = s.session.database) (seen : s'.seen = s.seen)
    (scopes : s'.scopes = s.scopes)
    (live : ∀ held ∈ s'.live, held.builder.target = .ofOrigin held.origin ∧
      ∀ id ∈ held.origin, id ≤ s.session.database.starts) : Tracked s' past where
  kept := by
    rw [recorder, scopes]
    exact h.kept
  noted := by
    rw [recorder, scopes, seen]
    exact h.noted
  live := fun held member => (live held member).1
  origins := by
    rw [recorder]
    exact fun held member => (live held member).2
  scopes := scopes ▸ h.scopes

/-- Every live builder has its target, and derives from a transaction that was opened. -/
theorem at_live (h : Tracked s past) (held : Held) (member : held ∈ s.live) :
    held.builder.target = .ofOrigin held.origin ∧
      ∀ id ∈ held.origin, id ≤ s.session.database.starts :=
  ⟨h.live held member, h.origins held member⟩

theorem hold (h : Tracked s past) {made : Builder × Session Recorder} {origin : Option Nat}
    (database : made.2.database = s.session.database) (target : made.1.target = .ofOrigin origin)
    (bound : ∀ id ∈ origin, id ≤ s.session.database.starts) :
    Tracked (s.hold made origin) past := by
  refine h.of_same database rfl rfl ?_
  exact List.forall_mem_append.2 ⟨h.at_live, List.forall_mem_singleton.2 ⟨target, bound⟩⟩

theorem gather (h : Tracked s past) {n : Nat} {held : Held} (member : held ∈ s.live)
    (call : Call) : Tracked (s.gather n held call) past := by
  refine h.of_same rfl rfl rfl fun held' member' => ?_
  rcases List.mem_or_eq_of_mem_set member' with old | rfl
  · exact h.at_live held' old
  · exact h.at_live held member

theorem drop (h : Tracked s past) (n : Nat) (held : Held) : Tracked (s.drop n held) past :=
  h.of_same (s.session.database_close held.builder) rfl rfl
    fun held' member => h.at_live held' (List.mem_of_mem_eraseIdx member)

theorem preview (h : Tracked s past) (held : Held) (kind : Statement.Kind) :
    Tracked (s.preview held kind) past := by
  have same := (s.session.database_prepare held.builder kind).1
  refine ⟨?_, ?_, h.live, ?_, h.scopes⟩
  · rw [State.preview, State.note, same]
    exact h.kept
  · rw [State.preview, State.note, same]
    exact h.noted.concat rfl rfl rfl (List.append_nil _).symm (by simp [Seen.received])
  · rw [State.preview, State.note, same]
    exact h.origins

theorem finish (h : Tracked s past) {n : Nat} {held : Held} (member : held ∈ s.live)
    (t : Terminal β) (memory : β) :
    Tracked (s.finish n held t memory)
      (past ++ t.effects held (s.session.finish held.builder t memory).1.1) := by
  obtain ⟨target, bound⟩ := h.at_live held member
  have ended := Ended.finish s.session held.builder t memory
  obtain ⟨sts, sent⟩ := ended.sent_eq
  rw [target] at sent
  refine ⟨ended.kept h.kept target bound, ?_, fun held' member' => ?_, fun held' member' => ?_,
    h.scopes⟩
  · have received : (s.session.finish held.builder t memory).2.database.sent.drop
        s.session.database.sent.length = sts.map (Recorder.sentOn (.ofOrigin held.origin)) := by
      rw [sent, List.drop_left]
    refine h.noted.concat rfl rfl ended.starts_eq ?_ ?_
    · rw [Seen.received, received]
      exact sent
    · rw [Seen.received, received]
      intro st member
      obtain ⟨st', _, rfl⟩ := List.mem_map.1 member
      exact Target.inTransaction_ofOrigin held.origin
  · exact h.live held' (List.mem_of_mem_eraseIdx member')
  · rw [State.finish, State.note, ended.starts_eq]
    exact h.origins held' (List.mem_of_mem_eraseIdx member')

theorem start (h : Tracked s past) : Tracked s.start past := by
  cases failing : s.session.database.failure with
  | some reason =>
    have failed := Session.openScope_of_some failing
    rw [State.start, failed]
    refine ⟨h.kept.of_same rfl rfl rfl, ?_, h.live, h.origins, h.scopes⟩
    exact h.noted.concat rfl rfl rfl (List.append_nil _).symm (by simp [Seen.received])
  | none =>
    obtain ⟨s', opened, database⟩ := Session.openScope_of_none failing
    rw [State.start, opened]
    refine ⟨?_, ?_, h.live, fun held member id belongs => ?_, ?_⟩
    · rw [State.note, database, List.map_append]
      exact h.kept.opened
    · rw [State.note, database, List.map_append]
      exact h.noted.opened rfl rfl
    · rw [State.note, database]
      exact Nat.le_succ_of_le (h.origins held member id belongs)
    · exact List.forall_mem_append.2 ⟨h.scopes, List.forall_mem_singleton.2 rfl⟩

theorem stop (h : Tracked s past) {id : Nat} {scope : Builder} (found : s.scope? id = some scope)
    (worked : Except Error Unit) :
    Tracked (s.stop id scope worked)
      (past ++ Effect.ofStop id worked (s.session.closeScope id scope worked).1) := by
  have member := (h.scope found).1
  obtain ⟨failure, commits, rollbacks, ended⟩ :=
    Session.database_closeScope s.session id scope worked
  have ids : (s.scopes.filter fun p => p.1 != id).map (·.1) =
      (s.scopes.map (·.1)).filter (· != id) := by
    rw [List.filter_map]
    rfl
  refine ⟨?_, ?_, h.live, ?_, fun p member => ?_⟩
  · rw [State.stop, State.note, ended, ids]
    exact h.kept.stopped member
  · rw [State.stop, State.note, ended, ids]
    exact h.noted.stopped member worked _ rfl rfl
  · rw [State.stop, State.note, ended]
    exact h.origins
  · exact h.scopes p ((List.mem_filter.1 member).1)

theorem quietly (h : Tracked s past) : Tracked s (past ++ []) := (List.append_nil past).symm ▸ h

/-- What is done with something that may not be there. -/
theorem elim (h : Tracked s past) {α : Type} {x : Option α} {f : α → State β}
    {effects : α → List Effect} (k : ∀ a, x = some a → Tracked (f a) (past ++ effects a)) :
    Tracked (x.elim s f) (past ++ x.elim [] effects) := by
  cases x with
  | none => exact h.quietly
  | some a => exact k a rfl

theorem elim_quietly (h : Tracked s past) {α : Type} {x : Option α} {f : α → State β}
    (k : ∀ a, x = some a → Tracked (f a) past) : Tracked (x.elim s f) (past ++ []) := by
  cases x with
  | none => exact h.quietly
  | some a => exact (k a rfl).quietly

/-- Every operation keeps what is known, with the effects that it has. -/
theorem step (h : Tracked s past) (op : Operation β) :
    Tracked (s.step op) (past ++ s.effects op) := by
  cases op with
  | push _ | failNext _ =>
    exact quietly
      ⟨h.kept.of_same rfl rfl rfl, h.noted.of_same rfl rfl, h.live, h.origins, h.scopes⟩
  | query | table name => exact (h.hold rfl rfl (by simp)).quietly
  | beside parent name =>
    refine h.elim_quietly fun held found => ?_
    obtain ⟨target, bound⟩ := h.at? found
    exact h.hold rfl target bound
  | gather n call =>
    exact h.elim_quietly fun held found => h.gather (List.mem_of_getElem? found) call
  | preview place kind => exact h.elim_quietly fun held _ => h.preview held kind
  | finish n t memory =>
    exact h.elim fun held found => h.finish (List.mem_of_getElem? found) t memory
  | drop n => exact h.elim_quietly fun held _ => h.drop n held
  | start => exact h.start.quietly
  | stop id worked => exact h.elim fun scope found => h.stop found worked

theorem stepAll (h : Tracked s past) (ops : List (Operation β)) :
    Tracked (s.stepAll ops) (past ++ s.effectsAll ops) := by
  induction ops generalizing s past with
  | nil =>
    rw [State.effectsAll, List.append_nil]
    exact h
  | cons op ops ih =>
    rw [State.effectsAll, ← List.append_assoc]
    exact ih (h.step op)

end Tracked

/-! ## Main statement -/

theorem tracked_run (maxIdle : Nat) (logArguments : Bool) (ops : List (Operation β)) :
    Tracked (State.run maxIdle logArguments ops)
      ((State.initial maxIdle logArguments).effectsAll ops) :=
  (Tracked.initial maxIdle logArguments).stepAll ops

/-- After every program, what lasts is what should: each change on the base connection from the
moment when it succeeded, and at each successful commit the changes of that transaction, all in
their order. Whenever an operation that changes rows succeeds, its effect is the one statement that
its draft compiles into, which is received just then. What was received is what was received while
builders were ended, as part of a transaction exactly when the builder derives from one; so do the
targets of the builders that are alive, and of those that stand for the open transactions. No
transaction is opened or ended twice. -/
theorem durable_run (maxIdle : Nat) (logArguments : Bool) (ops : List (Operation β)) :
    let s := State.run maxIdle logArguments ops
    s.session.database.durable =
        lasting [] ((State.initial maxIdle logArguments).effectsAll ops) ∧
      (∀ n held (t : Terminal β) memory, s.live[n]? = some held → t.kind ≠ .select →
        (s.session.finish held.builder t memory).1.1.isOk →
          ∃ st, (t.draft held.builder.draft).compile t.kind = .ok st ∧
            s.effects (.finish n t memory) = [.changed held.origin st] ∧
            (s.step (.finish n t memory)).session.database.sent =
              s.session.database.sent ++ [⟨st, held.origin.isSome⟩]) ∧
      s.session.database.sent = s.seen.flatMap Seen.received ∧
      (∀ e ∈ s.seen, ∀ st ∈ e.received, st.inTransaction = e.origin?.isSome) ∧
      (∀ h ∈ s.live, h.builder.target = .ofOrigin h.origin) ∧
      (∀ p ∈ s.scopes, p.2.target = .transaction p.1) ∧
      (s.seen.filterMap Seen.started?).Nodup ∧ (s.seen.filterMap Seen.stopped?).Nodup := by
  intro s
  have h : Tracked s _ := tracked_run maxIdle logArguments ops
  have once : (s.seen.filterMap Seen.started?).Nodup := h.noted.started ▸ List.nodup_range'
  refine ⟨h.kept.durable, ?_, h.noted.sent, h.noted.flags, h.live, h.scopes, once,
    (List.nodup_append.1 h.noted.nodup).2.1⟩
  intro n held t memory found change succeeded
  obtain ⟨st, compiled, sent⟩ :=
    (Ended.finish s.session held.builder t memory).of_success change succeeded
  rw [Recorder.sentOn, h.live held (List.mem_of_getElem? found),
    Target.inTransaction_ofOrigin] at sent
  refine ⟨st, compiled, ?_, ?_⟩
  · rw [State.effects, found]
    exact Terminal.effects_of_change change succeeded compiled
  · rw [State.step, found]
    exact sent

/-- Of two transactions, one inside the other, the inner one fails to commit. -/
example :
    let delete (place : Operation Unit) : List (Operation Unit) :=
      [place, .gather 0 (.fragment "old"), .finish 0 .delete ()]
    let ops := .start :: delete (.beside (.scope 1) "a") ++ .start ::
      delete (.beside (.scope 2) "b") ++ [.failNext "lost", .stop 2 (.ok ())] ++
      delete (.table "c") ++ [.stop 1 (.ok ())]
    (State.run 0 false ops).session.database.durable.map (·.sql) =
      ["DELETE FROM c WHERE old", "DELETE FROM a WHERE old"] := by rfl

end QueryLoom
