import QueryLoom.Draft.Basic

/-!
# Pools of drafts

Drafts that have been given back wait here, emptied, to be used again.

* `Pool.acquire` : takes a waiting draft, or a new one when none waits;
* `Pool.release` : gives a draft back;
* `Pool.Clean` : no waiting draft holds anything, which both operations keep.
-/

namespace QueryLoom

/-- The drafts that wait to be used again. -/
structure Pool where
  /-- The number of drafts that may wait. -/
  maxIdle : Nat
  /-- The waiting drafts, the one given back last first. -/
  idle : List Draft := []
  deriving DecidableEq, Repr

namespace Pool

instance : Inhabited Pool := ⟨{ maxIdle := 0 }⟩

/-- The number of waiting drafts. -/
def idleCount (p : Pool) : Nat := p.idle.length

/-- Whether the next draft is one that was used before. -/
def reuses (p : Pool) : Bool := !p.idle.isEmpty

/-- Whether one more draft may wait. -/
def hasRoom (p : Pool) : Bool := decide (p.idleCount < p.maxIdle)

/-- Takes the draft that was given back last, or a new one when none waits. -/
def acquire (p : Pool) : Draft × Pool :=
  match p.idle with
  | [] => ({}, p)
  | d :: ds => (d, { p with idle := ds })

/-- Empties a draft and lets it wait, if one more may. -/
def release (p : Pool) (d : Draft) : Pool :=
  if p.hasRoom then { p with idle := d.clear :: p.idle } else p

/-! ## What both keep -/

/-- No waiting draft holds anything. -/
def Clean (p : Pool) : Prop := ∀ d ∈ p.idle, d = {}

/-- The number of waiting drafts is within the bound. -/
def Bounded (p : Pool) : Prop := p.idleCount ≤ p.maxIdle

/-- A draft taken from a clean pool is as good as a new one. -/
theorem acquire_fst {p : Pool} (h : p.Clean) : p.acquire.1 = {} := by
  unfold acquire
  split
  · rfl
  · rename_i d ds waiting
    exact h d (by simp [waiting])

theorem clean_acquire {p : Pool} (h : p.Clean) : p.acquire.2.Clean := by
  unfold acquire
  split
  · exact h
  · rename_i d ds waiting
    exact fun e he => h e (by simp [waiting, show e ∈ ds from he])

theorem clean_release {p : Pool} (h : p.Clean) (d : Draft) : (p.release d).Clean := by
  unfold release
  split
  · intro e he
    rcases List.mem_cons.1 he with rfl | he
    · exact d.clear_eq
    · exact h e he
  · exact h

theorem idleCount_acquire (p : Pool) : p.acquire.2.idleCount = p.idleCount - 1 := by
  unfold acquire idleCount
  split <;> simp_all

theorem idleCount_release (p : Pool) (d : Draft) :
    (p.release d).idleCount = if p.idleCount < p.maxIdle then p.idleCount + 1 else p.idleCount := by
  unfold release hasRoom
  by_cases room : p.idleCount < p.maxIdle
  · rw [if_pos (decide_eq_true room), if_pos room]
    rfl
  · rw [if_neg (by simpa using room), if_neg room]

@[simp] theorem maxIdle_acquire (p : Pool) : p.acquire.2.maxIdle = p.maxIdle := by
  unfold acquire
  split <;> rfl

@[simp] theorem maxIdle_release (p : Pool) (d : Draft) : (p.release d).maxIdle = p.maxIdle := by
  unfold release
  split <;> rfl

theorem bounded_acquire {p : Pool} (h : p.Bounded) : p.acquire.2.Bounded := by
  rw [Bounded, idleCount_acquire, maxIdle_acquire]
  exact Nat.le_trans (Nat.sub_le _ _) h

theorem bounded_release {p : Pool} (h : p.Bounded) (d : Draft) : (p.release d).Bounded := by
  rw [Bounded, idleCount_release, maxIdle_release]
  split
  · assumption
  · exact h

end Pool

end QueryLoom
