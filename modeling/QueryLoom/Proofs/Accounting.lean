import QueryLoom.Pool.Lease

/-!
# Pool accounting

How many drafts a pool has waiting, told from how many are held and how many were held at most.

* `Leases.Moves` : from one moment to the next one draft is taken, or one is given back, or neither;
* `Leases.history` : every moment of a run, those inside its steps included;
* `watch` : the moments of a run with the largest number of drafts held at one time so far;
* `Leases.Accounted` : the two-sided bound, which every move keeps;
* `pool_accounting` : the bound at every moment of every run, and what the drafts that wait or were
  just taken hold.
-/

namespace QueryLoom

namespace Leases

open Pool

variable {l l' : Leases} {maxIdle peak : Nat}

/-! ## Moments -/

/-- A draft was taken under a name, and what was held under that name before is still held. -/
def overlap (l : Leases) (name : String) (d : Draft) : Leases where
  pool := l.pool.acquire.2
  held := (name, d) :: l.held

/-- The moments that a step leads through, of which the last one is its end. A draft is taken before
the one that it replaces is given back. -/
def moments (l : Leases) (s : Step) : List Leases :=
  match s with
  | .acquire name => [l.overlap name l.pool.acquire.1, l.step s]
  | .fork source name =>
    match NameMap.find? source l.held with
    | none => [l.step s]
    | some d => [l.overlap name d, l.step s]
  | .edit .. | .clear _ | .drop _ => [l.step s]

/-- The moments of several steps, without the one before them. -/
def later (l : Leases) : List Step → List Leases
  | [] => []
  | s :: rest => l.moments s ++ (l.step s).later rest

/-- The moments of several steps. -/
def history (l : Leases) (steps : List Step) : List Leases := l :: l.later steps

/-- From one moment to the next one draft is taken, or one is given back, or only what the held
drafts contain changes. -/
inductive Moves (l l' : Leases) : Prop where
  | taken (pool : l'.pool = l.pool.acquire.2) (held : l'.held.length = l.held.length + 1)
  | given (d : Draft) (pool : l'.pool = l.pool.release d)
    (held : l'.held.length + 1 = l.held.length)
  | kept (pool : l'.pool = l.pool) (held : l'.held.length = l.held.length)

/-! ### What a step does -/

theorem moves_overlap (name : String) (d : Draft) : l.Moves (l.overlap name d) := .taken rfl rfl

/-- Behind the overlap the replaced draft is given back, if there was one. -/
theorem moves_hold (names : NameMap.Increasing l.held) (name : String) (d : Draft) :
    (l.overlap name d).Moves ({ l with pool := l.pool.acquire.2 }.hold name d) := by
  unfold hold drop
  cases found : NameMap.find? name l.held with
  | none => exact .kept rfl (NameMap.length_insert_of_none found)
  | some old =>
    refine .given old rfl ?_
    have erased := NameMap.length_erase_of_some names found
    have inserted : (NameMap.insert name d (NameMap.erase name l.held)).length =
        (NameMap.erase name l.held).length + 1 :=
      NameMap.length_insert_of_none (NameMap.find?_erase_self name l.held)
    show (NameMap.insert name d (NameMap.erase name l.held)).length + 1 = l.held.length + 1
    omega

theorem moves_edit (names : NameMap.Increasing l.held) (name : String) (d : Draft) :
    l.Moves (l.edit name d) := by
  unfold edit
  cases found : NameMap.find? name l.held with
  | none => exact .kept rfl rfl
  | some old => exact .kept rfl (NameMap.length_insert_of_some names found)

theorem moves_drop (names : NameMap.Increasing l.held) (name : String) : l.Moves (l.drop name) := by
  unfold drop
  cases found : NameMap.find? name l.held with
  | none => exact .kept rfl rfl
  | some d => exact .given d rfl (NameMap.length_erase_of_some names found)

/-- A step is one move, or two when a draft is taken. -/
theorem moments_cases (names : NameMap.Increasing l.held) (s : Step) :
    (l.moments s = [l.step s] ∧ l.Moves (l.step s)) ∨
      ∃ between, l.moments s = [between, l.step s] ∧ l.Moves between ∧
        between.Moves (l.step s) := by
  cases s with
  | acquire name =>
    exact .inr ⟨_, rfl, moves_overlap name _, moves_hold names name _⟩
  | fork source name =>
    cases found : NameMap.find? source l.held with
    | none =>
      simp only [moments, step, found]
      exact .inl ⟨trivial, .kept rfl rfl⟩
    | some d =>
      simp only [moments, step, found]
      exact .inr ⟨_, rfl, moves_overlap name d, moves_hold names name d⟩
  | edit name d => exact .inl ⟨rfl, moves_edit names name d⟩
  | clear name => exact .inl ⟨rfl, moves_edit names name {}⟩
  | drop name => exact .inl ⟨rfl, moves_drop names name⟩

/-! ### Names -/

theorem names_drop (names : NameMap.Increasing l.held) (name : String) :
    NameMap.Increasing (l.drop name).held := by
  unfold drop
  cases NameMap.find? name l.held with
  | none => exact names
  | some d => exact NameMap.increasing_erase names

theorem names_edit (names : NameMap.Increasing l.held) (name : String) (d : Draft) :
    NameMap.Increasing (l.edit name d).held := by
  unfold edit
  cases NameMap.find? name l.held with
  | none => exact names
  | some old => exact NameMap.increasing_insert name d names

theorem names_take (names : NameMap.Increasing l.held) (name : String) (fill : Draft → Draft) :
    NameMap.Increasing (l.take name fill).held :=
  NameMap.increasing_insert name _
    (names_drop (l := { l with pool := l.pool.acquire.2 }) names name)

/-- Every name holds at most one draft, whatever is done. -/
theorem names_step (names : NameMap.Increasing l.held) (s : Step) :
    NameMap.Increasing (l.step s).held := by
  cases s with
  | acquire name => exact names_take names name id
  | fork source name =>
    cases found : NameMap.find? source l.held with
    | none => simpa only [step, found] using names
    | some d => simpa only [step, found] using names_take names name fun _ => d
  | edit name d => exact names_edit names name d
  | clear name => exact names_edit names name {}
  | drop name => exact names_drop names name

end Leases

/-! ## The largest number held -/

/-- Moments, each with the largest number of drafts that were held at one time up to it. -/
def watch (peak : Nat) : List Leases → List (Leases × Nat)
  | [] => []
  | l :: rest => (l, max peak l.held.length) :: watch (max peak l.held.length) rest

namespace Leases

variable {l l' : Leases} {maxIdle peak : Nat}

/-- The waiting drafts are empty and within the bound. Together with the held ones they are as many
as were held at most, unless the pool had no room for so many. -/
structure Accounted (maxIdle : Nat) (l : Leases) (peak : Nat) : Prop where
  room : l.pool.maxIdle = maxIdle
  clean : l.pool.Clean
  bounded : l.pool.idleCount ≤ maxIdle
  lower : min maxIdle peak ≤ l.pool.idleCount + l.held.length
  upper : l.pool.idleCount + l.held.length ≤ peak

namespace Accounted

/-- Every move keeps the account. Taking a draft from an empty pool and giving one back to a full
one change the sum, and these are the cases in which the peak or the bound gives way. -/
theorem moves (h : Accounted maxIdle l peak) (m : l.Moves l') :
    Accounted maxIdle l' (max peak l'.held.length) := by
  obtain ⟨room, clean, bounded, lower, upper⟩ := h
  cases m with
  | taken pool held =>
    have idle : l'.pool.idleCount = l.pool.idleCount - 1 := by rw [pool, Pool.idleCount_acquire]
    refine ⟨?_, ?_, ?_, ?_, ?_⟩
    · rw [pool, Pool.maxIdle_acquire, room]
    · rw [pool]
      exact Pool.clean_acquire clean
    · omega
    · omega
    · omega
  | given d pool held =>
    have idle : l'.pool.idleCount =
        if l.pool.idleCount < maxIdle then l.pool.idleCount + 1 else l.pool.idleCount := by
      rw [pool, Pool.idleCount_release, room]
    refine ⟨?_, ?_, ?_, ?_, ?_⟩
    · rw [pool, Pool.maxIdle_release, room]
    · rw [pool]
      exact Pool.clean_release clean d
    all_goals
      split at idle
      · omega
      · omega
  | kept pool held =>
    have idle : l'.pool.idleCount = l.pool.idleCount := by rw [pool]
    refine ⟨?_, ?_, ?_, ?_, ?_⟩
    · rw [pool, room]
    · rw [pool]
      exact clean
    · omega
    · omega
    · omega

/-- The account is in order at every moment of a run. -/
theorem later (h : Accounted maxIdle l peak) (names : NameMap.Increasing l.held)
    (steps : List Step) : ∀ m ∈ watch peak (l.later steps), Accounted maxIdle m.1 m.2 := by
  induction steps generalizing l peak with
  | nil => simp [Leases.later, watch]
  | cons s rest ih =>
    have after := names_step names s
    intro m member
    rcases moments_cases names s with ⟨once, move⟩ | ⟨between, twice, first, second⟩
    · rw [Leases.later, once, List.singleton_append, watch] at member
      rcases List.mem_cons.1 member with rfl | member
      · exact h.moves move
      · exact ih (h.moves move) after m member
    · rw [Leases.later, twice, List.cons_append, List.singleton_append, watch, watch] at member
      rcases List.mem_cons.1 member with rfl | member
      · exact h.moves first
      · rcases List.mem_cons.1 member with rfl | member
        · exact (h.moves first).moves second
        · exact ih ((h.moves first).moves second) after m member

theorem start (maxIdle : Nat) : Accounted maxIdle { pool := { maxIdle := maxIdle } } 0 where
  room := rfl
  clean := by simp [Pool.Clean]
  bounded := Nat.zero_le _
  lower := by simp
  upper := Nat.le_refl 0

theorem history (steps : List Step) :
    ∀ m ∈ watch 0 (Leases.history { pool := { maxIdle := maxIdle } } steps),
      Accounted maxIdle m.1 m.2 := by
  intro m member
  rcases List.mem_cons.1 member with rfl | member
  · exact start maxIdle
  · exact (start maxIdle).later .nil steps m member

end Accounted

/-! ## What a step leaves alone -/

/-- The name that a step is about. -/
def Step.name : Step → String
  | .acquire name | .fork _ name | .edit name _ | .clear name | .drop name => name

variable {other : String}

theorem find?_drop_of_ne {name : String} (h : other ≠ name) :
    NameMap.find? other (l.drop name).held = NameMap.find? other l.held := by
  unfold drop
  cases NameMap.find? name l.held with
  | none => rfl
  | some d => exact NameMap.find?_erase_of_ne h l.held

theorem find?_edit_of_ne {name : String} (h : other ≠ name) (d : Draft) :
    NameMap.find? other (l.edit name d).held = NameMap.find? other l.held := by
  unfold edit
  cases NameMap.find? name l.held with
  | none => rfl
  | some old => exact NameMap.find?_insert_of_ne h d l.held

theorem find?_take_of_ne {name : String} (h : other ≠ name) (fill : Draft → Draft) :
    NameMap.find? other (l.take name fill).held = NameMap.find? other l.held :=
  (NameMap.find?_insert_of_ne h _ _).trans
    (find?_drop_of_ne (l := { l with pool := l.pool.acquire.2 }) h)

/-- Drafts that are held under other names stay as they are: no two names share one. -/
theorem find?_step_of_ne {s : Step} (h : other ≠ s.name) :
    NameMap.find? other (l.step s).held = NameMap.find? other l.held := by
  cases s with
  | acquire name => exact find?_take_of_ne h id
  | fork source name =>
    cases found : NameMap.find? source l.held with
    | none => simp only [step, found]
    | some d =>
      simp only [step, found]
      exact find?_take_of_ne h fun _ => d
  | edit name d => exact find?_edit_of_ne h d
  | clear name => exact find?_edit_of_ne h {}
  | drop name => exact find?_drop_of_ne h

/-- A draft that was taken is held as it was filled. -/
theorem find?_take (name : String) (fill : Draft → Draft) :
    NameMap.find? name (l.take name fill).held = some (fill l.pool.acquire.1) :=
  NameMap.find?_insert_self name _ _

end Leases

/-! ## Main statement -/

/-- At every moment of every run the waiting drafts are empty and within the bound, and together
with the held ones they are at most as many as were ever held at one time, and at least as many or
as the pool has room for. So when none is held, that is how many wait.

Whatever was done before, a draft that is taken is empty, a copy is what it was copied from, and a
step changes nothing that is held under another name. -/
theorem pool_accounting (maxIdle : Nat) (steps : List Leases.Step) (now : Leases) (peak : Nat)
    (h : (now, peak) ∈ watch 0 (Leases.history { pool := { maxIdle := maxIdle } } steps)) :
    (∀ d ∈ now.pool.idle, d = {}) ∧ now.pool.idleCount ≤ maxIdle ∧
      min maxIdle peak ≤ now.pool.idleCount + now.held.length ∧
      now.pool.idleCount + now.held.length ≤ peak ∧
      (now.held = [] → now.pool.idleCount = min maxIdle peak) ∧
      (∀ name, NameMap.find? name (now.step (.acquire name)).held = some {}) ∧
      (∀ source name d, NameMap.find? source now.held = some d →
        NameMap.find? name (now.step (.fork source name)).held = some d) ∧
      ∀ s other, other ≠ s.name →
        NameMap.find? other (now.step s).held = NameMap.find? other now.held := by
  have account : Leases.Accounted maxIdle now peak := Leases.Accounted.history steps (now, peak) h
  obtain ⟨_, clean, bounded, lower, upper⟩ := account
  refine ⟨clean, bounded, lower, upper, fun none => ?_, fun name => ?_,
    fun source name d found => ?_, fun s other different => Leases.find?_step_of_ne different⟩
  · simp only [none, List.length_nil, Nat.add_zero] at lower upper
    omega
  · have taken : NameMap.find? name (now.take name id).held = some now.pool.acquire.1 :=
      Leases.find?_take name id
    rw [Pool.acquire_fst clean] at taken
    exact taken
  · have taken : NameMap.find? name (now.take name fun _ => d).held = some d :=
      Leases.find?_take name fun _ => d
    simpa only [Leases.step, found] using taken

/-- A draft is taken and filled, copied, replaced by another one, and then all are given back. -/
def replacing : List Leases.Step :=
  [.acquire "a", .edit "a" { table := some "users" }, .fork "a" "b", .acquire "a", .drop "a",
    .drop "b"]

/-- The moment inside the fourth step at which the second draft was taken under a name and the first
one is not yet given back. -/
def replaced : Leases where
  pool := { maxIdle := 1 }
  held := [("a", {}), ("a", { table := some "users" }), ("b", { table := some "users" })]

/-- The moment at which everything was given back. -/
def returned : Leases where
  pool := { maxIdle := 1, idle := [{}] }

/-- Three drafts were held at one moment inside a step, and of the three one waits in the end. -/
theorem pool_accounting_replacing :
    let moments := watch 0 (Leases.history { pool := { maxIdle := 1 } } replacing)
    ((replaced, 3) ∈ moments ∧ min 1 3 ≤ replaced.pool.idleCount + replaced.held.length ∧
        replaced.pool.idleCount + replaced.held.length ≤ 3 ∧
        NameMap.find? "c" (replaced.step (.fork "b" "c")).held =
          some { table := some "users" }) ∧
      (returned, 3) ∈ moments ∧ returned.held = [] ∧ returned.pool.idleCount = min 1 3 := by
  intro moments
  have inside : (replaced, 3) ∈ moments := by decide +kernel
  have atEnd : (returned, 3) ∈ moments := by decide +kernel
  obtain ⟨_, _, lower, upper, _, _, copied, _⟩ := pool_accounting 1 replacing replaced 3 inside
  obtain ⟨_, _, _, _, none, _⟩ := pool_accounting 1 replacing returned 3 atEnd
  exact ⟨⟨inside, lower, upper, copied "b" "c" _ (by decide)⟩, atEnd, rfl, none rfl⟩

end QueryLoom
