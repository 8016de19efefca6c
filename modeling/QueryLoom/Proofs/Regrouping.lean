import QueryLoom.Proofs.Program

/-!
# Regrouping of chains

Every call gathers clauses of one group, and calls of different groups do not take notice of each
other. So a chain may be rearranged as long as the calls of each group stay in their order.

* `Call.Group`, `Call.group` : what a call gathers; `Call.ofGroup` : the calls of one group;
* `Draft.apply_comm` : two calls of different groups;
* `Draft.applyAll_split` : the calls of one group may as well come last;
* `Draft.applyAll_eq_of_groups` : a chain does what the calls of its groups do;
* `regrouped_chain` : chains that agree in each group, but for the limits and offsets that are
  replaced, cannot be told apart.
-/

namespace QueryLoom

/-! ## Groups -/

/-- What a call gathers. -/
inductive Call.Group where
  | selection
  | conditions
  | fragments
  | joins
  | order
  | grouping
  | limit
  | offset
  deriving DecidableEq, Repr

namespace Call

/-- The groups. -/
def Group.all : List Group :=
  [.selection, .conditions, .fragments, .joins, .order, .grouping, .limit, .offset]

theorem Group.mem_all (g : Group) : g ∈ all := by
  cases g <;> decide

/-- The group of a call. -/
def group : Call → Group
  | .select _ | .selectText _ => .selection
  | .require _ _ => .conditions
  | .fragment _ => .fragments
  | .join _ => .joins
  | .orderBy _ => .order
  | .groupBy _ => .grouping
  | .limit _ => .limit
  | .offset _ => .offset

/-- The calls of a group, in their order. -/
def ofGroup (g : Group) (calls : List Call) : List Call := calls.filter fun c => c.group = g

/-- The calls of the other groups, in their order. -/
def withoutGroup (g : Group) (calls : List Call) : List Call := calls.filter fun c => c.group ≠ g

theorem ofGroup_withoutGroup_self (g : Group) (calls : List Call) :
    ofGroup g (withoutGroup g calls) = [] := by
  simp [ofGroup, withoutGroup, List.filter_filter]

/-- Leaving out one group does not touch another one. -/
theorem ofGroup_withoutGroup {g g' : Group} (h : g' ≠ g) (calls : List Call) :
    ofGroup g' (withoutGroup g calls) = ofGroup g' calls := by
  rw [ofGroup, withoutGroup, List.filter_filter]
  refine List.filter_congr fun c _ => ?_
  by_cases same : c.group = g'
  · simp [same, h]
  · simp [same]

end Call

open Call (Group ofGroup withoutGroup)

/-! ## Calls of different groups -/

namespace Draft

/-- What becomes of a condition has nothing to do with the calls of other groups. -/
theorem apply_follow {c : Call} (h : c.group ≠ .conditions) (d : Draft) (o : Condition.Outcome) :
    (d.follow o).apply c = (d.apply c).follow o := by
  cases c with
  | require skipZero c => exact absurd rfl h
  | _ => cases o <;> rfl

/-- Calls of different groups may change places. -/
theorem apply_comm {a b : Call} (h : a.group ≠ b.group) (d : Draft) :
    (d.apply a).apply b = (d.apply b).apply a := by
  cases a with
  | require skipZero c => exact apply_follow (Ne.symm h) d _
  | _ =>
    cases b with
    | require skipZero c => exact (apply_follow h d _).symm
    -- Both set a clause of their own, unless they are of one group after all.
    | _ => first | rfl | exact absurd rfl h

/-- A call may as well come behind calls of other groups. -/
theorem applyAll_apply_comm {c : Call} {calls : List Call} (h : ∀ b ∈ calls, b.group ≠ c.group)
    (d : Draft) : (d.apply c).applyAll calls = (d.applyAll calls).apply c := by
  induction calls generalizing d with
  | nil => rfl
  | cons b calls ih =>
    obtain ⟨here, rest⟩ := List.forall_mem_cons.1 h
    rw [applyAll_cons, apply_comm (Ne.symm here), ih rest, applyAll_cons]

/-- The calls of one group may as well come last. -/
theorem applyAll_split (g : Group) (d : Draft) (calls : List Call) :
    d.applyAll calls = (d.applyAll (withoutGroup g calls)).applyAll (ofGroup g calls) := by
  induction calls generalizing d with
  | nil => rfl
  | cons c calls ih =>
    rw [applyAll_cons, ih]
    by_cases same : c.group = g
    · have others : ∀ b ∈ withoutGroup g calls, b.group ≠ c.group := by
        intro b member
        rw [same]
        simpa using (List.mem_filter.1 member).2
      have front : ofGroup g (c :: calls) = c :: ofGroup g calls := by simp [ofGroup, same]
      have left : withoutGroup g (c :: calls) = withoutGroup g calls := by
        simp [withoutGroup, same]
      rw [front, left, applyAll_cons, applyAll_apply_comm others]
    · have front : withoutGroup g (c :: calls) = c :: withoutGroup g calls := by
        simp [withoutGroup, same]
      have left : ofGroup g (c :: calls) = ofGroup g calls := by simp [ofGroup, same]
      rw [front, left, applyAll_cons]

/-! ## Chains -/

/-- Chains of calls of some groups do the same if the calls of each of these groups do. -/
theorem applyAll_eq_of_mem_groups {gs : List Group} {cs cs' : List Call}
    (within : ∀ c ∈ cs, c.group ∈ gs) (within' : ∀ c ∈ cs', c.group ∈ gs)
    (h : ∀ g ∈ gs, ∀ d : Draft, d.applyAll (ofGroup g cs) = d.applyAll (ofGroup g cs'))
    (d : Draft) : d.applyAll cs = d.applyAll cs' := by
  induction gs generalizing cs cs' with
  | nil =>
    rw [List.eq_nil_iff_forall_not_mem.2 fun c member => List.not_mem_nil (within c member),
      List.eq_nil_iff_forall_not_mem.2 fun c member => List.not_mem_nil (within' c member)]
  | cons g gs ih =>
    -- One group is taken out of both chains, and what is left has calls of the other groups only.
    have narrow {calls : List Call} (within : ∀ c ∈ calls, c.group ∈ g :: gs) :
        ∀ c ∈ withoutGroup g calls, c.group ∈ gs := by
      intro c member
      obtain ⟨member, other⟩ := List.mem_filter.1 member
      exact List.mem_of_ne_of_mem (by simpa using other) (within c member)
    have left : d.applyAll (withoutGroup g cs) = d.applyAll (withoutGroup g cs') := by
      refine ih (narrow within) (narrow within') fun g' member e => ?_
      by_cases same : g' = g
      · rw [same, Call.ofGroup_withoutGroup_self, Call.ofGroup_withoutGroup_self]
      · rw [Call.ofGroup_withoutGroup same, Call.ofGroup_withoutGroup same]
        exact h g' (List.mem_cons_of_mem g member) e
    rw [applyAll_split g d cs, applyAll_split g d cs', left]
    exact h g List.mem_cons_self _

/-- A chain does what the calls of its groups do. -/
theorem applyAll_eq_of_groups {cs cs' : List Call}
    (h : ∀ (g : Group) (d : Draft), d.applyAll (ofGroup g cs) = d.applyAll (ofGroup g cs'))
    (d : Draft) : d.applyAll cs = d.applyAll cs' :=
  applyAll_eq_of_mem_groups (fun c _ => c.group.mem_all) (fun c _ => c.group.mem_all)
    (fun g _ => h g) d

/-! ## Limits and offsets -/

/-- A limit replaces an earlier one, and an offset an earlier one. -/
theorem apply_replaces {a b : Call} (same : a.group = b.group)
    (window : b.group = .limit ∨ b.group = .offset) (d : Draft) :
    (d.apply a).apply b = d.apply b := by
  cases b with
  | limit n | offset n => cases a <;> first | rfl | cases same
  | _ => simp [Call.group] at window

/-- Of several limits, or of several offsets, only the last one matters. -/
theorem applyAll_eq_last {g : Group} (window : g = .limit ∨ g = .offset) {calls : List Call}
    (h : ∀ c ∈ calls, c.group = g) (d : Draft) :
    d.applyAll calls = d.applyAll calls.getLast?.toList := by
  induction calls generalizing d with
  | nil => rfl
  | cons a calls ih =>
    obtain ⟨here, rest⟩ := List.forall_mem_cons.1 h
    cases calls with
    | nil => rfl
    | cons b calls =>
      have next : b.group = g := rest b List.mem_cons_self
      have replaced : (d.apply a).apply b = d.apply b :=
        apply_replaces (here.trans next.symm) (next ▸ window) d
      rw [applyAll_cons, applyAll_cons, replaced, ← applyAll_cons, ih rest,
        List.getLast?_cons_cons]

/-- Chains agree in a group of limits or offsets as soon as their last ones do. -/
theorem applyAll_ofGroup_eq {g : Group} (window : g = .limit ∨ g = .offset) {cs cs' : List Call}
    (last : (ofGroup g cs).getLast? = (ofGroup g cs').getLast?) (d : Draft) :
    d.applyAll (ofGroup g cs) = d.applyAll (ofGroup g cs') := by
  have within (calls : List Call) : ∀ c ∈ ofGroup g calls, c.group = g := by
    intro c member
    simpa using (List.mem_filter.1 member).2
  rw [applyAll_eq_last window (within cs), applyAll_eq_last window (within cs'), last]

end Draft

/-! ## Programs -/

namespace State

variable {β : Type}

/-- Gathering one clause after the other in a live builder gathers the chain. -/
theorem stepAll_gather {s : State β} {n : Nat} {h : Held} (found : s.live[n]? = some h)
    (calls : List Call) :
    s.stepAll (calls.map (.gather n)) =
      { s with live := s.live.set n { h with builder := h.builder.applyAll calls } } := by
  induction calls generalizing s h with
  | nil =>
    have same : s.live.set n h = s.live := by
      obtain ⟨lt, rfl⟩ := List.getElem?_eq_some_iff.1 found
      exact List.set_getElem_self lt
    show s = { s with live := s.live.set n h }
    rw [same]
  | cons c calls ih =>
    have alive : n < s.live.length := (List.getElem?_eq_some_iff.1 found).1
    have first : s.step (.gather n c) = s.gather n h c := by simp only [step, found, Option.elim]
    have held : (s.gather n h c).live[n]? = some { h with builder := h.builder.applyAll [c] } := by
      simp [gather, alive]
    rw [List.map_cons, stepAll, List.foldl_cons, first]
    refine (ih held).trans ?_
    simp [gather, Builder.applyAll]

/-- Nothing is gathered in a builder that is not alive. -/
theorem stepAll_gather_of_none {s : State β} {n : Nat} (none : s.live[n]? = none)
    (calls : List Call) : s.stepAll (calls.map (.gather n)) = s := by
  induction calls with
  | nil => rfl
  | cons c calls ih =>
    have first : s.step (.gather n c) = s := by simp only [step, none, Option.elim]
    rw [List.map_cons, stepAll, List.foldl_cons, first]
    exact ih

end State

/-! ## Main statement -/

/-- Two chains whose calls agree in each group, in their order, lead any draft to the same draft,
the recorded errors included; of limits only the last ones need to agree, and so of offsets. Then
the builders have the same statements, every operation at their end does the same with any database
and gives the same answer, and a program goes on in the same way after either chain. -/
theorem regrouped_chain {cs cs' : List Call}
    (same : ∀ g : Group, g ≠ .limit → g ≠ .offset → ofGroup g cs = ofGroup g cs')
    (limits : (ofGroup .limit cs).getLast? = (ofGroup .limit cs').getLast?)
    (offsets : (ofGroup .offset cs).getLast? = (ofGroup .offset cs').getLast?) :
    (∀ d : Draft, d.applyAll cs = d.applyAll cs') ∧
      (∀ {σ : Type} (s : Session σ) (b : Builder) (kind : Statement.Kind),
        s.prepare (b.applyAll cs) kind = s.prepare (b.applyAll cs') kind) ∧
      (∀ {σ β : Type} [Database σ] (s : Session σ) (b : Builder) (t : Terminal β) (memory : β),
        s.finish (b.applyAll cs) t memory = s.finish (b.applyAll cs') t memory) ∧
      ∀ {β : Type} (s : State β) (n : Nat) (ops : List (Operation β)),
        s.stepAll (cs.map (.gather n) ++ ops) = s.stepAll (cs'.map (.gather n) ++ ops) := by
  have drafts : ∀ d : Draft, d.applyAll cs = d.applyAll cs' := by
    refine Draft.applyAll_eq_of_groups fun g d => ?_
    by_cases limit : g = .limit
    · exact Draft.applyAll_ofGroup_eq (.inl limit) (limit ▸ limits) d
    · by_cases offset : g = .offset
      · exact Draft.applyAll_ofGroup_eq (.inr offset) (offset ▸ offsets) d
      · rw [same g limit offset]
  have builders : ∀ b : Builder, b.applyAll cs = b.applyAll cs' := fun b => by
    rw [Builder.applyAll, Builder.applyAll, drafts]
  refine ⟨drafts, fun s b kind => ?_, fun s b t memory => ?_, fun s n ops => ?_⟩
  · rw [builders]
  · rw [builders]
  · rw [State.stepAll_append, State.stepAll_append]
    cases found : s.live[n]? with
    | none => rw [State.stepAll_gather_of_none found, State.stepAll_gather_of_none found]
    | some h => rw [State.stepAll_gather found, State.stepAll_gather found, builders]

/-- Clauses as they came to mind. -/
def hastyCalls : List Call :=
  [.limit 5, .orderBy ⟨"seen", .descending⟩, .require true (.number "age" (.spelled ">=") "18"),
    .select ["id"], .fragment "banned = 0", .offset 40, .limit 20, .selectText "name, age",
    .require false (.like "name" .startsWith "A")]

/-- The same clauses in the order of a statement. -/
def tidyCalls : List Call :=
  [.select ["id"], .selectText "name, age", .require true (.number "age" (.spelled ">=") "18"),
    .require false (.like "name" .startsWith "A"), .fragment "banned = 0",
    .orderBy ⟨"seen", .descending⟩, .limit 20, .offset 40]

/-- Both chains make one draft, and so one statement. -/
theorem regrouped_hastyCalls :
    (∀ g : Group, g ≠ .limit → g ≠ .offset → ofGroup g hastyCalls = ofGroup g tidyCalls) ∧
      (ofGroup .limit hastyCalls).getLast? = (ofGroup .limit tidyCalls).getLast? ∧
      (ofGroup .offset hastyCalls).getLast? = (ofGroup .offset tidyCalls).getLast? ∧
      (({ table := some "users" } : Draft).applyAll hastyCalls).compile .select =
        .ok ⟨"SELECT id,name,age FROM users WHERE age >= ? AND name LIKE ? AND banned = 0 " ++
          "ORDER BY seen DESC LIMIT 20 OFFSET 40", [.int64 18, .text "A%"]⟩ := by
  have same : ∀ g : Group, g ≠ .limit → g ≠ .offset →
      ofGroup g hastyCalls = ofGroup g tidyCalls := by
    intro g limit offset
    cases g with
    | limit => exact absurd rfl limit
    | offset => exact absurd rfl offset
    | _ => rfl
  have limits : (ofGroup .limit hastyCalls).getLast? = (ofGroup .limit tidyCalls).getLast? := rfl
  have offsets : (ofGroup .offset hastyCalls).getLast? = (ofGroup .offset tidyCalls).getLast? := rfl
  refine ⟨same, limits, offsets, ?_⟩
  rw [(regrouped_chain same limits offsets).1]
  rfl

end QueryLoom
