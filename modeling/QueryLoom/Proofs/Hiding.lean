import QueryLoom.Proofs.Redaction

/-!
# Bound values are hidden

Values that are bound to statements show nowhere but in the arguments that the database receives.

* `Session.Redacted` : two sessions that differ in bound values only;
* `redaction` : the likeness of such sessions;
* `run_hides_values` : programs that differ in values only cannot be told apart by what they send as
  text, by what is seen of them, or by the log.
-/

namespace QueryLoom

/-! ## Sessions -/

/-- Two sessions that differ in bound values only. Their logs are the same unless they may show
arguments, which both may or neither. -/
structure Session.Redacted (mayShow : Bool) (s s' : Session Recorder) : Prop where
  database : s.database.redact = s'.database.redact
  pool : s.pool = s'.pool
  left : s.logArguments = mayShow
  right : s'.logArguments = mayShow
  events : mayShow = false → s.events = s'.events

namespace Session.Redacted

variable {mayShow : Bool} {s s' : Session Recorder}

theorem log (h : Redacted mayShow s s') (e : Event) : Redacted mayShow (s.log e) (s'.log e) where
  database := h.database
  pool := h.pool
  left := h.left
  right := h.right
  events := fun quiet => congrArg (· ++ [e]) (h.events quiet)

/-- Nothing but the database changes. -/
theorem withDatabase (h : Redacted mayShow s s') {r r' : Recorder} (same : r.redact = r'.redact) :
    Redacted mayShow { s with database := r } { s' with database := r' } where
  database := same
  pool := h.pool
  left := h.left
  right := h.right
  events := h.events

theorem acquire (h : Redacted mayShow s s') : Redacted mayShow s.acquire.2 s'.acquire.2 where
  database := h.database
  pool := by rw [pool_acquire, pool_acquire, h.pool]
  left := h.left
  right := h.right
  events := by
    intro quiet
    have same := h.events quiet
    simp only [Session.acquire, Session.log, same, h.pool]

/-- What is given back is empty, whatever it held. -/
theorem release (h : Redacted mayShow s s') (d d' : Draft) :
    Redacted mayShow (s.release d) (s'.release d') := by
  have emptied : s.pool.release d = s'.pool.release d' := by rw [h.pool]; rfl
  have bare : Redacted mayShow { s with pool := s.pool.release d }
      { s' with pool := s'.pool.release d' } :=
    ⟨h.database, emptied, h.left, h.right, h.events⟩
  -- Whether the log hears of it depends on the pool alone.
  unfold Session.release
  rw [← h.pool] at bare ⊢
  dsimp only
  split
  · have count : (s.pool.release d).idleCount = (s.pool.release d').idleCount := rfl
    rw [count]
    exact bare.log _
  · exact bare

/-- Reporting a statement shows its text and, if arguments may not be shown, their number. -/
theorem dispatch (h : Redacted mayShow s s') (target : Target) (shape : Shape) {st st' : Statement}
    (k : st.redact = st'.redact) :
    Redacted mayShow (s.dispatch target shape st) (s'.dispatch target shape st') where
  database := h.database
  pool := h.pool
  left := h.left
  right := h.right
  events := by
    intro quiet
    have sql : st.redact.sql = st'.redact.sql := congrArg Statement.sql k
    rw [Statement.sql_redact, Statement.sql_redact] at sql
    have count : st.params.length = st'.params.length := by
      simpa [Statement.redact] using congrArg (fun st => st.params.length) k
    simp only [Session.dispatch, Session.log]
    rw [h.events quiet, h.left, h.right, quiet, sql]
    simp [Arguments.of, count]

end Session.Redacted

/-! ## What a recorder does -/

namespace Recorder

variable {r r' : Recorder} {st st' : Statement}

theorem query_of_redact (h : r.redact = r'.redact) (k : st.redact = st'.redact) (target : Target) :
    (query target st r).1 = (query target st' r').1 ∧
      (query target st r).2.redact = (query target st' r').2.redact := by
  refine Prod.mk.inj ?_
  rw [← query_redact, ← query_redact, h, k]

theorem change_of_redact (h : r.redact = r'.redact) (k : st.redact = st'.redact)
    (target : Target) :
    (change target st r).1 = (change target st' r').1 ∧
      (change target st r).2.redact = (change target st' r').2.redact := by
  refine Prod.mk.inj ?_
  rw [← change_redact, ← change_redact, h, k]

theorem start_of_redact (h : r.redact = r'.redact) :
    r.start.1 = r'.start.1 ∧ r.start.2.redact = r'.start.2.redact := by
  refine Prod.mk.inj ?_
  rw [← start_redact, ← start_redact, h]

theorem commit_of_redact (h : r.redact = r'.redact) (id : Nat) :
    (r.commit id).1 = (r'.commit id).1 ∧ (r.commit id).2.redact = (r'.commit id).2.redact := by
  refine Prod.mk.inj ?_
  rw [← commit_redact, ← commit_redact, h]

theorem rollback_of_redact (h : r.redact = r'.redact) (id : Nat) :
    (r.rollback id).1 = (r'.rollback id).1 ∧
      (r.rollback id).2.redact = (r'.rollback id).2.redact := by
  refine Prod.mk.inj ?_
  rw [← rollback_redact, ← rollback_redact, h]

end Recorder

/-! ## What drafts compile into -/

/-- Drafts that differ in values only lack the same, or compile into statements that differ in
values only. -/
theorem Draft.compile_of_redact {d d' : Draft} (h : d.redact = d'.redact) (kind : Statement.Kind) :
    (∃ e, d.compile kind = .error e ∧ d'.compile kind = .error e) ∨
      ∃ st st', d.compile kind = .ok st ∧ d'.compile kind = .ok st' ∧ st.redact = st'.redact := by
  have same : (d.compile kind).map Statement.redact = (d'.compile kind).map Statement.redact := by
    rw [← compile_redact, ← compile_redact, h]
  cases made : d.compile kind with
  | error e =>
    cases made' : d'.compile kind with
    | error e' =>
      rw [made, made'] at same
      cases same
      exact .inl ⟨e, rfl, rfl⟩
    | ok st' =>
      rw [made, made'] at same
      cases same
  | ok st =>
    cases made' : d'.compile kind with
    | error e' =>
      rw [made, made'] at same
      cases same
    | ok st' =>
      rw [made, made'] at same
      exact .inr ⟨st, st', rfl, rfl, Except.ok.inj same⟩

/-! ## Runs -/

/-- Drafts that differ in bound values only. -/
def draftRedaction : DraftLikeness where
  draft d d' := d.redact = d'.redact
  statement st st' := st.redact = st'.redact
  call := Call.Alike
  payload := Payload.Alike
  call_refl := .same
  payload_refl := .refl
  table := by
    intro d d' h
    have same : d.redact.table = d'.redact.table := congrArg Draft.table h
    exact same
  errors := by
    intro d d' h
    have same : d.redact.errors = d'.redact.errors := congrArg Draft.errors h
    exact same
  choose h table := congrArg (fun d : Draft => { d with table := some table }) h
  only h field := congrArg (·.only field) h
  firstRow h := congrArg Draft.firstRow h
  window h offset limit := congrArg (·.window offset limit) h
  aggregating h a := congrArg (·.aggregating a) h
  addError h e := congrArg (·.addError e) h
  carrying := by
    intro d d' h p p' k
    have columns := redact_columns k
    exact congrArg₂ (fun (d : Draft) columns => { d with payload := columns }) h columns
  apply := Draft.redact_apply
  compile := Draft.compile_of_redact

/-- Sessions that differ in bound values only, in the log too if it may not show arguments. -/
def redaction (mayShow : Bool) : Likeness where
  toDraftLikeness := draftRedaction
  session := Session.Redacted mayShow
  sent x x' := x.redact = x'.redact
  received := by
    intro s s' h
    have sent : List.Forall₂ (· = ·) (s.database.sent.map Sent.redact)
        (s'.database.sent.map Sent.redact) := by
      rw [List.forall₂_eq_eq_eq]
      exact congrArg Recorder.sent h.database
    rwa [List.forall₂_map_left_iff, List.forall₂_map_right_iff] at sent
  log h e := h.log e
  acquire h := ⟨congrArg (fun p : Pool => p.acquire.1.redact) h.pool, h.acquire⟩
  release h d d' := h.release d d'
  push h reply := h.withDatabase (congrArg (·.push reply) h.database)
  failNext h reason := h.withDatabase (congrArg (·.failNext reason) h.database)
  queryOne := by
    intro s s' h target st st' k
    have sent := h.dispatch target .one k
    obtain ⟨answer, database⟩ := Recorder.query_of_redact h.database k target
    exact ⟨congrArg (Except.map List.head?) answer, sent.withDatabase database⟩
  queryMany := by
    intro s s' h target st st' k
    have sent := h.dispatch target .many k
    obtain ⟨answer, database⟩ := Recorder.query_of_redact h.database k target
    let each (rows : List Row) : List (Except Error Row) := rows.map .ok
    exact ⟨congrArg (Except.map each) answer, sent.withDatabase database⟩
  execute := by
    intro s s' h target st st' k
    have sent := h.dispatch target .execute k
    obtain ⟨answer, database⟩ := Recorder.change_of_redact h.database k target
    exact ⟨answer, sent.withDatabase database⟩
  start := by
    intro s s' h
    obtain ⟨answer, database⟩ := Recorder.start_of_redact h.database
    exact ⟨answer, h.withDatabase database⟩
  commit := by
    intro s s' h id
    obtain ⟨answer, database⟩ := Recorder.commit_of_redact h.database id
    exact ⟨answer, h.withDatabase database⟩
  rollback := by
    intro s s' h id
    obtain ⟨answer, database⟩ := Recorder.rollback_of_redact h.database id
    exact ⟨answer, h.withDatabase database⟩

variable {β : Type}

/-- Two programs that differ in bound values only, like values in the same places being of one kind
and both zero or both not, send the same texts to the same connections, see the same answers and
previews, and leave the recorder in states that differ in arguments only. Their logs are the same
when arguments are not to be shown. -/
theorem run_hides_values (maxIdle : Nat) (logArguments : Bool) {ops ops' : List (Operation β)}
    (h : List.Forall₂ (Operation.Like (redaction logArguments)) ops ops') :
    let s := State.run maxIdle logArguments ops
    let s' := State.run maxIdle logArguments ops'
    s.session.database.sent.map (fun x => (x.sql, x.inTransaction)) =
        s'.session.database.sent.map (fun x => (x.sql, x.inTransaction)) ∧
      List.Forall₂ (Seen.Like (redaction logArguments)) s.seen s'.seen ∧
      s.session.database.redact = s'.session.database.redact ∧
      (logArguments = false → s.session.events = s'.session.events) := by
  intro s s'
  have start : Session.Redacted logArguments
      (State.initial (β := β) maxIdle logArguments).session
      (State.initial (β := β) maxIdle logArguments).session :=
    ⟨rfl, rfl, rfl, rfl, fun _ => rfl⟩
  have like : State.Like (redaction logArguments) s s' := State.Like.run start h
  have sessions : Session.Redacted logArguments s.session s'.session := like.session
  refine ⟨?_, like.seen, sessions.database, sessions.events⟩
  have sent := congrArg (fun r : Recorder => r.sent.map fun x => (x.sql, x.inTransaction))
    sessions.database
  simpa [Recorder.redact, Sent.redact, Function.comp_def] using sent

/-- Finds users by name and secret, and notes their visits. -/
def signIn (name secret : String) (visits : Int32) : List (Operation Unit) :=
  [.table "users", .gather 0 (.require true (.like "name" .startsWith name)),
    .gather 0 (.require false (.equals "secret" (.text secret))), .preview (.live 0) .select,
    .finish 0 (.update (.listed [("visits", .int32 visits)])) ()]

/-- Whoever signs in, the same is sent but for the arguments, and the same is reported. -/
theorem run_hides_signIn :
    List.Forall₂ (Operation.Like (redaction false)) (signIn "ada" "' OR '1'='1" 3)
        (signIn "grace" "hopper" 4) ∧
      (State.run 4 false (signIn "ada" "' OR '1'='1" 3)).session.events =
        (State.run 4 false (signIn "grace" "hopper" 4)).session.events ∧
      (State.run 4 false (signIn "ada" "' OR '1'='1" 3)).session.database.sent.map (·.sql) =
        ["UPDATE users SET visits=? WHERE name LIKE ? AND secret = ?"] ∧
      (State.run 4 false (signIn "grace" "hopper" 4)).session.database.sent.map (·.sql) =
        ["UPDATE users SET visits=? WHERE name LIKE ? AND secret = ?"] := by
  have names : Condition.Alike (.like "name" .startsWith "ada")
      (.like "name" .startsWith "grace") := .like "name" .startsWith (by decide)
  have secrets : Condition.Alike (.equals "secret" (.text "' OR '1'='1"))
      (.equals "secret" (.text "hopper")) := .compare "secret" _ ⟨rfl, rfl⟩
  have visits : Payload.Alike (.listed [("visits", .int32 3)]) (.listed [("visits", .int32 4)]) :=
    .listed (.cons ⟨rfl, rfl, rfl⟩ .nil)
  have like : List.Forall₂ (Operation.Like (redaction false)) (signIn "ada" "' OR '1'='1" 3)
      (signIn "grace" "hopper" 4) :=
    .cons (.same _) (.cons (.gather 0 (.require true names)) (.cons (.gather 0
      (.require false secrets)) (.cons (.same _) (.cons (.update 0 visits ()) .nil))))
  obtain ⟨texts, _, _, events⟩ := run_hides_values 4 false like
  have sent : (State.run 4 false (signIn "grace" "hopper" 4)).session.database.sent.map (·.sql) =
      ["UPDATE users SET visits=? WHERE name LIKE ? AND secret = ?"] := by rfl
  have same := congrArg (List.map Prod.fst) texts
  rw [List.map_map, List.map_map] at same
  exact ⟨like, events rfl, same.trans sent, sent⟩

end QueryLoom
