import QueryLoom.Script.Report
import QueryLoom.Session.Transaction

/-!
# Running scripts

* `Script.runTask` : makes a builder, gathers, asks, and ends it;
* `Script.runStep`, `Script.runSteps` : steps, those of a transaction's work included;
* `Script.run` : a whole script.

A step that names a slot in which nothing is kept is left out.
-/

namespace QueryLoom.Script

/-! ## Questions -/

/-- Answers a question about a builder. -/
def answerPeek (s : Session Recorder) (b : Builder) : Peek → Peeked × Session Recorder
  | .sql =>
    let prepared := s.prepare b .select
    (.sql (prepared.1.map Statement.sql), prepared.2)
  | .statement kind =>
    let prepared := s.prepare b kind
    (.statement prepared.1, prepared.2)
  | .compiled kind => (.compiled (b.draft.compile kind), s)
  | .draft => (.draft b.draft, s)
  | .arguments => (.arguments b.draft.whereArguments b.draft.payloadArguments, s)
  | .inTransaction => (.inTransaction b.target.inTransaction, s)
  | .cleared => (.cleared (b.draft.same b.draft) b.draft.isClear b.draft.clear.isClear, s)

/-- Answers questions about a builder in order. -/
def answerPeeks (s : Session Recorder) (b : Builder) :
    List Peek → List Peeked × Session Recorder
  | [] => ([], s)
  | peek :: rest =>
    let first := answerPeek s b peek
    let others := answerPeeks first.2 b rest
    (first.1 :: others.1, others.2)

/-! ## Tasks -/

/-- The builder of a task, if there is one. -/
def makeBuilder (scope : Option Builder) (p : Progress) : Source → Option (Builder × Progress)
  | .base none => some ((p.session.query).1, { p with session := (p.session.query).2 })
  | .base (some table) =>
    let made := p.session.table table
    some (made.1, { p with session := made.2 })
  | .scope table =>
    scope.map fun b =>
      let made := p.session.beside b table
      (made.1, { p with session := made.2 })
  | .beside slot table =>
    (NameMap.find? slot p.kept).map fun b =>
      let made := p.session.beside b table
      (made.1, { p with session := made.2 })
  | .kept slot =>
    (NameMap.find? slot p.kept).map fun b => (b, { p with kept := NameMap.erase slot p.kept })

/-- Ends a builder. -/
def endBuilder (p : Progress) (b : Builder) : Ending → Ended × Progress
  | .keep slot => (.kept, p.keep slot b)
  | .drop => (.dropped, { p with session := p.session.close b })
  | .finish t =>
    let finished := p.session.finish b t []
    (.finished t finished.1.1 finished.1.2, { p with session := finished.2 })

/-- Does a task. -/
def runTask (scope : Option Builder) (task : Task) (p : Progress) : Option Error × Progress :=
  match makeBuilder scope p task.source with
  | none => (none, p)
  | some (made, p) =>
    let b := made.applyAll task.calls
    let peeked := answerPeeks p.session b task.peeks
    let ended := endBuilder { p with session := peeked.2 } b task.ending
    let result := Result.ran peeked.1 ended.1
    (if task.propagate then result.error? else none, ended.2.report .run result)

/-! ## Steps without builders -/

/-- The kind of step that prepares a reply. -/
def Action.ofReply : Reply → Action
  | .rows .. => .pushRows
  | .outcome _ => .pushOutcome

/-- Opens a transaction under a name. -/
def openNamed (slot : String) (p : Progress) : Progress :=
  let started := Database.start p.session.database
  let p := p.withRecorder fun _ => started.2
  match started.1 with
  | .error e => p.report .start (.done (.error e))
  | .ok id =>
    { p with transactions := NameMap.insert slot id p.transactions }.report .start (.done (.ok ()))

/-- Ends the transaction of a name. -/
def endNamed (action : Action) (finish : Nat → Recorder → Except Error Unit × Recorder)
    (slot : String) (p : Progress) : Progress :=
  match NameMap.find? slot p.transactions with
  | none => p
  | some id =>
    let ended := finish id p.session.database
    let p := p.withRecorder fun _ => ended.2
    { p with transactions := NameMap.erase slot p.transactions }.report action (.done ended.1)

/-- Puts a question to the recorder. -/
def ask (call : DirectCall) (target : Target) (statement : Statement) (r : Recorder) :
    Result × Recorder :=
  match call with
  | .queryOne =>
    let answered := Database.queryOne target statement r
    (.row answered.1, answered.2)
  | .queryMany take =>
    let answered := Database.queryMany target statement r
    (.rows (answered.1.map fun rows => rows.take (take.getD rows.length)), answered.2)
  | .execute =>
    let answered := Database.execute target statement r
    (.outcome answered.1, answered.2)

/-- Puts a question to the recorder on the base connection. -/
def runDirect (call : DirectCall) (target : Target) (statement : Statement) (p : Progress) :
    Progress :=
  let asked := ask call target statement p.session.database
  (p.withRecorder fun _ => asked.2).report .direct asked.1

/-! ## Steps -/

/-- What the work of a transaction ends with. -/
def workOutcome (stopped : Option Error) (failure : Option String) : Except Error Unit :=
  match stopped, failure with
  | some e, _ => .error e
  | none, some reason => .error (.invalidQuery reason)
  | none, none => .ok ()

mutual

/-- Does a step; an error that it gives ends the steps that it is among. -/
def runStep (scope : Option Builder) : Step → Progress → Option Error × Progress
  | .push reply, p =>
    (none, (p.withRecorder fun r => r.push reply).report (.ofReply reply) (.done (.ok ())))
  | .pushScalar column v, p =>
    (none, (p.withRecorder fun r => r.pushScalar column v).report .pushScalar (.done (.ok ())))
  | .failNext reason, p =>
    (none, (p.withRecorder fun r => r.failNext reason).report .failNext (.done (.ok ())))
  | .run task, p => runTask scope task p
  | .transaction work failure propagate, p =>
    match p.session.openScope with
    | (.error e, session) =>
      (if propagate then some e else none,
        { p with session := session }.report .transaction (.done (.error e)))
    | (.ok (id, inner), session) =>
      let begun := { p with session := session }.report .begun .begun
      let worked := runSteps (some inner) work { begun with kept := [] }
      let left := worked.2.dropKept
      let ended := left.session.closeScope id inner (workOutcome worked.1 failure)
      let result := Result.done ended.1
      (if propagate then result.error? else none,
        { left with session := ended.2, kept := p.kept }.report .transaction result)
  | .peekScope peeks, p =>
    match scope with
    | none => (none, p)
    | some b =>
      let answered := answerPeeks p.session b peeks
      (none, { p with session := answered.2 }.report .peekScope (.peeked answered.1))
  | .start slot, p => (none, openNamed slot p)
  | .commit slot, p => (none, endNamed .commit Database.commit slot p)
  | .rollback slot, p => (none, endNamed .rollback Database.rollback slot p)
  | .direct call statement slot, p =>
    match slot with
    | none => (none, runDirect call .connection statement p)
    | some slot =>
      match NameMap.find? slot p.transactions with
      | none => (none, p)
      | some id => (none, runDirect call (.transaction id) statement p)

/-- Does steps in order until one of them ends them. -/
def runSteps (scope : Option Builder) : List Step → Progress → Option Error × Progress
  | [], p => (none, p)
  | step :: rest, p =>
    match runStep scope step p with
    | (some e, p) => (some e, p)
    | (none, p) => runSteps scope rest p

end

/-! ## Scripts -/

/-- Runs a script with a recorder that remembers nothing yet. -/
def run (maxIdle : Nat) (logArguments : Bool) (steps : List Step) : Report :=
  let session : Session Recorder := {
    database := {}
    pool := { maxIdle := maxIdle }
    logArguments := logArguments }
  let ran := runSteps none steps { session := session }
  let left := ran.2.dropKept
  { entries := left.entries
    durable := left.session.database.durable
    failure := ran.1
    idle := left.session.pool.idleCount }

end QueryLoom.Script
