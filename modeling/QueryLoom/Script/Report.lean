import QueryLoom.Script.Basic

/-!
# Reports

What is seen while a script runs.

* `Script.Result` : what a step gives;
* `Script.Entry` : what is seen after a step; `Script.Report` : what is seen of a script;
* `Script.Progress` : how far a script has come.
-/

namespace QueryLoom.Script

/-! ## Results -/

/-- The answer to a question about a builder. -/
inductive Peeked where
  | sql (r : Except Error String)
  | statement (r : Except Error Statement)
  | compiled (r : Except BuildError Statement)
  | draft (d : Draft)
  | arguments (conditions payload : List Value)
  | inTransaction (b : Bool)
  | cleared (sameAsCopy copyIsClear clearedIsClear : Bool)

/-- What becomes of a builder, as it is seen. -/
inductive Ended where
  | kept
  | dropped
  /-- An operation with what it gave and what its visitor remembered. -/
  | finished (t : Terminal (List Seen)) (answer : Except Error t.Answer) (seen : List Seen)

/-- What a step gives. -/
inductive Result where
  /-- The work of a transaction begins. -/
  | begun
  /-- What is done either succeeds or fails. -/
  | done (r : Except Error Unit)
  | ran (peeked : List Peeked) (ended : Ended)
  | peeked (answers : List Peeked)
  | row (r : Except Error (Option Row))
  | rows (r : Except Error (List (Except Error Row)))
  | outcome (r : Except Error Outcome)

/-- The error that a result stands for. -/
def Result.error? : Result → Option Error
  | .done (.error e) => some e
  | .ran _ (.finished _ (.error e) _) => some e
  | _ => none

/-! ## Entries -/

/-- The kinds of steps that are seen. -/
inductive Action where
  | pushRows
  | pushScalar
  | pushOutcome
  | failNext
  | run
  | begun
  | transaction
  | peekScope
  | start
  | commit
  | rollback
  | direct
  deriving DecidableEq, Repr

/-- What is seen after a step. -/
structure Entry where
  action : Action
  result : Result
  /-- The statements that the recorder received since the last entry. -/
  sent : List Sent
  idle : Nat
  starts : Nat
  commits : Nat
  rollbacks : Nat
  durable : Nat
  /-- What happened since the last entry. -/
  events : List Event

/-- What is seen of a script. -/
structure Report where
  entries : List Entry
  durable : List Sent
  /-- The error that ended the script. -/
  failure : Option Error
  idle : Nat

/-! ## Progress -/

/-- How far a script has come. -/
structure Progress where
  session : Session Recorder
  /-- The builders that the steps of one list have kept. -/
  kept : List (String × Builder) := []
  /-- The open transactions that steps name. -/
  transactions : List (String × Nat) := []
  entries : List Entry := []
  /-- How many statements are in entries. -/
  reportedSent : Nat := 0
  /-- How many events are in entries. -/
  reportedEvents : Nat := 0

namespace Progress

/-- Adds an entry. -/
def report (p : Progress) (action : Action) (result : Result) : Progress :=
  let r := p.session.database
  let entry : Entry := {
    action := action
    result := result
    sent := r.sent.drop p.reportedSent
    idle := p.session.pool.idleCount
    starts := r.starts
    commits := r.commits
    rollbacks := r.rollbacks
    durable := r.durable.length
    events := p.session.events.drop p.reportedEvents }
  { p with
    entries := p.entries ++ [entry]
    reportedSent := r.sent.length
    reportedEvents := p.session.events.length }

/-- Changes the recorder. -/
def withRecorder (p : Progress) (f : Recorder → Recorder) : Progress :=
  { p with session := { p.session with database := f p.session.database } }

/-- Keeps a builder; one that was kept under the same name is given back. -/
def keep (p : Progress) (slot : String) (b : Builder) : Progress :=
  let session :=
    match NameMap.find? slot p.kept with
    | none => p.session
    | some old => p.session.close old
  { p with session := session, kept := NameMap.insert slot b p.kept }

/-- Gives back every builder that was kept. -/
def dropKept (p : Progress) : Progress :=
  { p with session := p.kept.foldl (fun s b => s.close b.2) p.session, kept := [] }

end Progress

end QueryLoom.Script
