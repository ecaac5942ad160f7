import Mathlib.Data.List.Perm.Lattice
import ParentalCoord.Webhooks.Slots

/-!
The limiter over whole runs.

A call is started once and then runs or has finished.  So once all calls have finished, nobody
can be left in a line or hold a slot.
-/

namespace ParentalCoord.Webhooks.Limiter

open EndpointLimiter
open scoped List

variable {state later first : State} {host : String} {call : RunCall} {held : Held} {event : Event}
  {events : List Event} {configured : Option ℤ}

/-! ## Where the calls are -/

/-- Every call that was started is among those that run or among those that have finished. -/
structure Accounted (state : State) : Prop where
  once : state.arrived.Nodup
  started : state.started.Perm (state.running.map (·.call) ++ state.finished.map (·.1.call))
  open_ : 0 < state.limiter.cap

theorem leave_calls (state : State) (held : Held) (outcome : Outcome) :
    (state.leave held outcome).finished.map (·.1.call) = state.finished.map (·.1.call) ++ [held.call] := by
  simp [State.leave]

theorem cap_release (limiter : EndpointLimiter) (releaser : Releaser) :
    (limiter.release releaser).2.2.cap = limiter.cap := by
  unfold EndpointLimiter.release
  split
  · rfl
  · cases limiter.waitersOf releaser.host with
    | nil => rfl
    | cons next rest => rfl

theorem cap_acquire (limiter : EndpointLimiter) (call : RunCall) :
    (limiter.acquire call).2.cap = limiter.cap := by
  unfold EndpointLimiter.acquire
  dsimp only
  split
  · rfl
  · rfl

theorem running_perm (found : state.running.find? (·.call = call) = some held) :
    (state.running.map (·.call)).Perm ((state.running.eraseP (·.call = call)).map (·.call) ++ [call]) := by
  obtain ⟨one, before, after, -, same, split, left⟩ := List.exists_of_eraseP
    (List.mem_of_find?_eq_some found) (List.find?_some found)
  have mine : one.call = call := of_decide_eq_true same
  rw [split] at left ⊢
  rw [left, List.map_append, List.map_append, List.map_cons, mine, List.append_assoc]
  exact (List.Perm.refl _).append (List.perm_append_singleton _ _).symm

theorem Accounted.onward (accounted : Accounted state) (done : step event state = some later) :
    Accounted later := by
  cases event with
  | run call =>
    unfold step at done
    dsimp only at done
    split at done
    · cases done
    · rename_i new
      cases done
      refine ⟨?_, accounted.started, (cap_acquire _ call).symm ▸ accounted.open_⟩
      exact accounted.once.append (List.nodup_singleton call) (by simpa using new)
  | start call =>
    obtain ⟨⟨held, between⟩, taken, rfl⟩ := Option.map_eq_some_iff.mp done
    obtain ⟨same, rest, ready, rfl⟩ := next_cases taken
    refine ⟨accounted.once, ?_, accounted.open_⟩
    rw [List.map_append, List.map_singleton, same, List.append_assoc]
    calc state.started ++ [call]
      _ ~ (state.running.map (·.call) ++ state.finished.map (·.1.call)) ++ [call] :=
        accounted.started.append_right _
      _ ~ state.running.map (·.call) ++ ([call] ++ state.finished.map (·.1.call)) := by
        rw [List.append_assoc]
        exact List.perm_append_comm.append_left _
  | startThrows call =>
    obtain ⟨⟨held, between⟩, taken, rfl⟩ := Option.map_eq_some_iff.mp done
    obtain ⟨same, rest, ready, rfl⟩ := next_cases taken
    refine ⟨accounted.once, ?_, (cap_release _ _).symm ▸ accounted.open_⟩
    rw [leave_calls, same, ← List.append_assoc]
    exact accounted.started.append_right _
  | settle call outcome =>
    obtain ⟨held, found, rfl⟩ := Option.map_eq_some_iff.mp done
    have same : held.call = call := by simpa using List.find?_some found
    refine ⟨accounted.once, accounted.started.trans ?_, (cap_release _ _).symm ▸ accounted.open_⟩
    rw [leave_calls, same]
    calc state.running.map (·.call) ++ state.finished.map (·.1.call)
      _ ~ ((state.running.eraseP (·.call = call)).map (·.call) ++ [call]) ++ state.finished.map (·.1.call) :=
        (running_perm found).append_right _
      _ ~ (state.running.eraseP (·.call = call)).map (·.call) ++ (state.finished.map (·.1.call) ++ [call]) := by
        rw [List.append_assoc]
        exact List.perm_append_comm.append_left _

theorem Steps.accounted (accounted : Accounted first) (steps : Steps first events state) :
    Accounted state := by
  induction steps with
  | here => exact accounted
  | step _ done ih => exact ih.onward done

theorem accounted_start (configured : Option ℤ) : Accounted (start configured) :=
  ⟨.nil, .refl _, cap_pos configured⟩

/-! ## When all have finished -/

/-- All calls have finished. -/
def State.done (state : State) : Prop := ∀ call ∈ state.arrived, call ∈ state.finished.map (·.1.call)

/-- No call of the host is left in the lists. -/
theorem CallsPlaced.nobody (allHeld : AllSlotsHeld state) (accounted : Accounted state) (done : state.done)
    (host : String) :
    state.ready.filter (·.call.host = host) = [] ∧ state.running.filter (·.call.host = host) = [] ∧
      state.limiter.waitersOf host = [] := by
  have line := allHeld.line host
  have once : (state.arrived.filter (·.host = host)).Nodup := accounted.once.filter _
  have of_arrived : ∀ call ∈ state.arrived.filter (·.host = host), call ∈ state.started.filter (·.host = host) := by
    intro call there
    obtain ⟨arrived, mine⟩ := List.mem_filter.mp there
    exact List.mem_filter.mpr
      ⟨accounted.started.mem_iff.mpr (List.mem_append_right _ (done call arrived)), mine⟩
  rw [line, List.append_assoc] at once
  obtain ⟨started, -, apart⟩ := List.nodup_append'.mp once
  have left : (state.ready.filter (·.call.host = host)).map (·.call) ++ state.limiter.waitersOf host = [] := by
    refine List.eq_nil_iff_forall_not_mem.mpr fun call there => apart (of_arrived call ?_) there
    rw [line, List.append_assoc]
    exact List.mem_append_right _ there
  obtain ⟨ready, waiters⟩ := List.append_eq_nil_iff.mp left
  refine ⟨List.map_eq_nil_iff.mp ready, List.eq_nil_iff_forall_not_mem.mpr fun held there => ?_, waiters⟩
  -- A call that runs was started, and so would be there twice.
  obtain ⟨runs, mine⟩ := List.mem_filter.mp there
  have twice := ((accounted.started.filter (·.host = host)).nodup_iff.mp started)
  rw [List.filter_append] at twice
  have here : held.call ∈ (state.running.map (·.call)).filter (·.host = host) :=
    List.mem_filter.mpr ⟨List.mem_map_of_mem runs, mine⟩
  have known : held.call ∈ state.arrived := by
    have : held.call ∈ state.arrived.filter (·.host = host) := by
      rw [line, List.append_assoc]
      refine List.mem_append_left _ (List.mem_filter.mpr ⟨?_, mine⟩)
      exact accounted.started.mem_iff.mpr (List.mem_append_left _ (List.mem_map_of_mem runs))
    exact List.mem_of_mem_filter this
  exact (List.nodup_append'.mp twice).2.2 here (List.mem_filter.mpr ⟨done _ known, mine⟩)

/-! ## The limiter -/

/-- What is true of the limiter whenever nothing of it is under way. -/
structure BoundedInOrder (state : State) : Prop where
  bounded : ∀ host, (state.running.filter (·.call.host = host)).length ≤ state.limiter.cap
  /-- Slots are held by tasks that run and by calls that have not gone on yet. -/
  counted : ∀ host, state.limiter.activeCount host =
    (state.running.filter (·.call.host = host)).length + (state.ready.filter (·.call.host = host)).length
  full : ∀ host, state.limiter.waitersOf host ≠ [] → state.limiter.activeCount host = state.limiter.cap
  /-- There is always a slot of the host that can still be released. -/
  alive : ∀ host, state.limiter.waitersOf host ≠ [] →
    ∃ held ∈ state.running ++ state.ready, held.call.host = host
  /-- Every call that came was started, has a slot or waits, in the order in which they came. -/
  line : ∀ host, state.arrived.filter (·.host = host) =
    state.started.filter (·.host = host) ++ (state.ready.filter (·.call.host = host)).map (·.call) ++
      state.limiter.waitersOf host
  ordered : ∀ host, state.started.filter (·.host = host) <+: state.arrived.filter (·.host = host)
  idle : state.done → ∀ host, state.limiter.activeCount host = 0 ∧ state.limiter.waitersOf host = []

theorem CallsPlaced.boundedInOrder (allHeld : AllSlotsHeld state) (accounted : Accounted state) :
    BoundedInOrder state where
  bounded host := by
    have counted := allHeld.counted host
    have bounded := allHeld.bounded host
    omega
  counted host := by
    have counted := allHeld.counted host
    omega
  full := allHeld.full
  alive host waits := by
    have counted := allHeld.counted host
    have positive := accounted.open_
    rw [allHeld.full host waits] at counted
    have slots : 0 < ((state.running ++ state.ready).filter (·.call.host = host)).length := by
      rw [List.filter_append, List.length_append]
      omega
    obtain ⟨held, there⟩ := List.exists_mem_of_length_pos slots
    exact ⟨held, (List.mem_filter.mp there).1, of_decide_eq_true (List.mem_filter.mp there).2⟩
  line := allHeld.line
  ordered host := by
    rw [allHeld.line host, List.append_assoc]
    exact List.prefix_append _ _
  idle done host := by
    obtain ⟨ready, running, waiters⟩ := allHeld.nobody accounted done host
    have counted := allHeld.counted host
    rw [ready, running] at counted
    exact ⟨counted, waiters⟩

/-- The events of one host are a run of their own. -/
theorem Steps.only (allHeld : AllSlotsHeld first) (steps : Steps first events state) (host : String) :
    Steps (first.only host) (events.filter (·.call.host = host)) (state.only host) := by
  induction steps with
  | here => exact .here
  | @step events state later event before done ih =>
    obtain ⟨own, others⟩ := (before.allSlotsHeld allHeld).only_step done host
    rw [List.filter_append]
    by_cases mine : event.call.host = host
    · simpa [mine] using ih.step (own mine)
    · simpa [mine, others mine] using ih

theorem only_start (configured : Option ℤ) (host : String) : (start configured).only host = start configured := by
  simp [State.only, start, EndpointLimiter.only, EndpointLimiter.new]

/-- **The limiter keeps to its cap, and to the order of the calls of each host.** A call that
waits gets a slot with as many releases of its host as there are others ahead of it, and one
more; and what is seen of a host is what would be seen if there were no other. -/
theorem endpoint_limiter (configured : Option ℤ) (events : List Event) (state : State)
    (run : Steps (start configured) events state) :
    BoundedInOrder state ∧
      (∀ call places events' later, state.waits call places → Steps state events' later →
        places < events'.countP (·.releases call.host) → later.granted call) ∧
      ∀ host, Steps (start configured) (events.filter (·.call.host = host)) (state.only host) := by
  have allHeld := run.allSlotsHeld (allSlotsHeld_start configured)
  refine ⟨allHeld.boundedInOrder (run.accounted (accounted_start configured)), ?_, fun host => ?_⟩
  · intro call places events' later waits further enough
    rcases further.granted allHeld waits with granted | ⟨fewer, -, count⟩
    · exact granted
    · omega
  · rw [← only_start configured host]
    exact run.only (allSlotsHeld_start configured) host

/-- Of two calls for a host with one slot, the second waits until the first has thrown. -/
theorem endpoint_limiter_handed : ∃ state later,
    Steps (start (some 1)) [.run ⟨0, "hooks.example"⟩, .run ⟨1, "hooks.example"⟩] state ∧
    state.waits ⟨1, "hooks.example"⟩ 0 ∧ state.limiter.activeCount "hooks.example" = 1 ∧
      Steps state [.startThrows ⟨0, "hooks.example"⟩] later ∧ later.granted ⟨1, "hooks.example"⟩ ∧
        BoundedInOrder state :=
  have run : Steps (start (some 1)) [.run ⟨0, "hooks.example"⟩, .run ⟨1, "hooks.example"⟩] _ :=
    .step (.step .here rfl) rfl
  have further := .step .here rfl
  have waits := ⟨[], [], rfl, rfl⟩
  have ⟨sound, waiting, _⟩ := endpoint_limiter (some 1) _ _ run
  ⟨_, _, run, waits, rfl, further, waiting _ 0 _ _ waits further (by decide), sound⟩

end ParentalCoord.Webhooks.Limiter
