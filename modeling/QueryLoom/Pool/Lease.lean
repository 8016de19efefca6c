import QueryLoom.NameMap
import QueryLoom.Pool.Basic

/-!
# Leases

Drafts of one pool that are held under names until they are given back.

* `Leases.Step` : what can be done with them, and `Leases.step` does it;
* `Leases.trace` : what can be seen after each of several steps.
-/

namespace QueryLoom

/-- A pool and the drafts taken from it, each held under a name. -/
structure Leases where
  pool : Pool
  held : List (String × Draft) := []
  deriving DecidableEq, Repr

namespace Leases

/-- What can be done with drafts that are held. -/
inductive Step where
  /-- Takes a draft. -/
  | acquire (name : String)
  /-- Takes a draft and copies a held one into it. -/
  | fork (source name : String)
  /-- Changes a held draft. -/
  | edit (name : String) (d : Draft)
  /-- Empties a held draft. -/
  | clear (name : String)
  /-- Gives a held draft back. -/
  | drop (name : String)
  deriving DecidableEq, Repr

/-- Gives back what is held under a name, if anything is. -/
def drop (l : Leases) (name : String) : Leases :=
  match NameMap.find? name l.held with
  | none => l
  | some d => { pool := l.pool.release d, held := NameMap.erase name l.held }

/-- Holds a draft under a name; what was held under it is given back. -/
def hold (l : Leases) (name : String) (d : Draft) : Leases :=
  let l := l.drop name
  { l with held := NameMap.insert name d l.held }

/-- Changes what is held under a name, if anything is. -/
def edit (l : Leases) (name : String) (d : Draft) : Leases :=
  match NameMap.find? name l.held with
  | none => l
  | some _ => { l with held := NameMap.insert name d l.held }

/-- Takes a draft to be held under a name; `fill` says what it is to hold. -/
def take (l : Leases) (name : String) (fill : Draft → Draft) : Leases :=
  let taken := l.pool.acquire
  { l with pool := taken.2 }.hold name (fill taken.1)

/-- Does one step. A copy of nothing is not made. -/
def step (l : Leases) : Step → Leases
  | .acquire name => l.take name id
  | .fork source name =>
    match NameMap.find? source l.held with
    | none => l
    | some d => l.take name fun _ => d
  | .edit name d => l.edit name d
  | .clear name => l.edit name {}
  | .drop name => l.drop name

/-- What can be seen from outside. -/
structure View where
  idle : Nat
  held : Nat
  /-- Whether the draft that the last step was about is empty. -/
  clear : Option Bool
  deriving DecidableEq, Repr

/-- The draft that a step made or changed. -/
def touched (l : Leases) : Step → Option Draft
  | .acquire name | .fork _ name | .edit name _ | .clear name => NameMap.find? name l.held
  | .drop _ => none

/-- What can be seen after a step. -/
def view (l : Leases) (last : Step) : View where
  idle := l.pool.idleCount
  held := l.held.length
  clear := (l.touched last).map Draft.isClear

/-- What can be seen after each of several steps. -/
def trace (l : Leases) : List Step → List View
  | [] => []
  | s :: rest => (l.step s).view s :: (l.step s).trace rest

end Leases

end QueryLoom
