import Mathlib.Data.List.Infix
import ParentalCoord.Webhooks.EndpointLimiter

/-!
What the calls of a host can count on.

For each host, those that have come are those that were started, then those that can start, and
then those that wait, all in the order in which they came.  The count of the host is that of the
slots that are held, and nobody waits while it is below the cap.
-/

namespace ParentalCoord.Webhooks.Limiter

open EndpointLimiter

/-! ## One call of the limiter -/

namespace EndpointLimiter

variable {limiter : EndpointLimiter} {host other : String} {count : ℕ} {waiters rest : List RunCall}
  {call next : RunCall}

@[simp] theorem activeCount_setActive : (limiter.setActive host count).activeCount other =
    if other = host then count else limiter.activeCount other := by
  unfold activeCount setActive
  by_cases same : other = host
  · simp [same]
  · simp [same]

@[simp] theorem waitersOf_setActive : (limiter.setActive host count).waitersOf other =
    limiter.waitersOf other := rfl

@[simp] theorem cap_setActive : (limiter.setActive host count).cap = limiter.cap := rfl

@[simp] theorem waitersOf_setWaiters : (limiter.setWaiters host waiters).waitersOf other =
    if other = host then waiters else limiter.waitersOf other := by
  unfold waitersOf setWaiters
  by_cases same : other = host
  · simp [same]
  · simp [same]

@[simp] theorem activeCount_setWaiters : (limiter.setWaiters host waiters).activeCount other =
    limiter.activeCount other := rfl

@[simp] theorem cap_setWaiters : (limiter.setWaiters host waiters).cap = limiter.cap := rfl

theorem acquire_of_lt (room : limiter.activeCount call.host < limiter.cap) :
    limiter.acquire call =
      (some (makeReleaser call.host), limiter.setActive call.host (limiter.activeCount call.host + 1)) :=
  if_pos room

theorem acquire_of_le (full : limiter.cap ≤ limiter.activeCount call.host) :
    limiter.acquire call = (none, limiter.setWaiters call.host (limiter.waitersOf call.host ++ [call])) :=
  if_neg (Nat.not_lt.mpr full)

theorem release_cons (waiting : limiter.waitersOf host = next :: rest) :
    limiter.release (makeReleaser host) =
      (⟨host, true⟩, some (next, makeReleaser host), limiter.setWaiters host rest) := by
  unfold release makeReleaser
  simp only [Bool.false_eq_true, if_false, waiting]

theorem release_nil (nobody : limiter.waitersOf host = []) (busy : 0 < limiter.activeCount host) :
    limiter.release (makeReleaser host) =
      (⟨host, true⟩, none, limiter.setActive host (limiter.activeCount host - 1)) := by
  have current : (limiter.active host).getD 1 = limiter.activeCount host := by
    unfold activeCount at busy ⊢
    cases found : limiter.active host with
    | none => simp [found] at busy
    | some count => rfl
  unfold release makeReleaser
  simp only [Bool.false_eq_true, if_false, nobody, current]

theorem cap_pos (configured : Option ℤ) : 0 < (new configured).cap := by
  unfold new
  cases configured with
  | none => decide
  | some cap =>
    dsimp only
    split
    · omega
    · decide

end EndpointLimiter

section Erase

variable {α : Type} {p q : α → Bool} {values : List α}

theorem filter_eraseP_of_imp (within : ∀ value, q value → p value) :
    (values.eraseP q).filter p = (values.filter p).eraseP q := by
  rw [List.eraseP_filter]
  have same : (fun value => q value && p value) = q := by
    funext value
    cases here : q value with
    | false => rfl
    | true => exact within value here
  rw [same]

theorem filter_eraseP_of_not (apart : ∀ value, q value → p value = false) :
    (values.eraseP q).filter p = values.filter p := by
  induction values with
  | nil => rfl
  | cons first rest ih =>
    cases here : q first with
    | true => simp [List.eraseP_cons_of_pos here, apart first here]
    | false =>
      rw [List.eraseP_cons_of_neg (by simp [here]), List.filter_cons, List.filter_cons, ih]

end Erase

/-! ## What holds between any two events -/

/-- Every call in its place; `owed` tells of the slots that are held by nobody in the lists. -/
structure CallsPlaced (owed : String → ℕ) (state : State) : Prop where
  line : ∀ host, state.arrived.filter (·.host = host) = state.started.filter (·.host = host) ++
    (state.ready.filter (·.call.host = host)).map (·.call) ++ state.limiter.waitersOf host
  own : ∀ held ∈ state.ready ++ state.running, held.release = makeReleaser held.call.host
  counted : ∀ host, state.limiter.activeCount host =
    (state.ready.filter (·.call.host = host)).length +
      (state.running.filter (·.call.host = host)).length + owed host
  full : ∀ host, state.limiter.waitersOf host ≠ [] → state.limiter.activeCount host = state.limiter.cap
  bounded : ∀ host, state.limiter.activeCount host ≤ state.limiter.cap

/-- All slots are held by calls. -/
abbrev AllSlotsHeld (state : State) : Prop := CallsPlaced (fun _ => 0) state

/-- One slot of the host is about to be released or used. -/
abbrev Owing (host : String) (state : State) : Prop := CallsPlaced (fun other => if other = host then 1 else 0) state

variable {state later : State} {host other : String} {call next : RunCall} {held : Held} {event : Event}
  {rest : List RunCall} {owed : String → ℕ}

theorem CallsPlaced.host_of_waiting (kept : CallsPlaced owed state) (waits : call ∈ state.limiter.waitersOf host) :
    call.host = host := by
  have there : call ∈ state.arrived.filter (·.host = host) := by
    rw [kept.line host]
    exact List.mem_append_right _ waits
  exact of_decide_eq_true (List.mem_filter.mp there).2

/-- The slot goes to the first in line. -/
theorem leave_of_cons (release : held.release = makeReleaser host)
    (waiting : state.limiter.waitersOf host = next :: rest) (outcome : Outcome) :
    state.leave held outcome = { state with
      limiter := state.limiter.setWaiters host rest
      ready := state.ready ++ [⟨next, makeReleaser host⟩]
      finished := state.finished ++ [(⟨held.call, ⟨host, true⟩⟩, outcome)] } := by
  unfold State.leave
  rw [release, release_cons waiting]
  rfl

/-- Where nobody waits, the slot goes back. -/
theorem leave_of_nil (release : held.release = makeReleaser host)
    (nobody : state.limiter.waitersOf host = []) (busy : 0 < state.limiter.activeCount host)
    (outcome : Outcome) :
    state.leave held outcome = { state with
      limiter := state.limiter.setActive host (state.limiter.activeCount host - 1)
      finished := state.finished ++ [(⟨held.call, ⟨host, true⟩⟩, outcome)] } := by
  unfold State.leave
  rw [release, release_nil nobody busy]
  simp

theorem CallsPlaced.busy (owing : Owing host state) : 0 < state.limiter.activeCount host := by
  have counted := owing.counted host
  simp only [if_true] at counted
  omega

theorem CallsPlaced.leave (owing : Owing host state) (release : held.release = makeReleaser host)
    (outcome : Outcome) : AllSlotsHeld (state.leave held outcome) := by
  cases waiting : state.limiter.waitersOf host with
  | nil =>
    rw [leave_of_nil release waiting owing.busy]
    refine ⟨owing.line, owing.own, fun other => ?_, fun other waits => ?_, fun other => ?_⟩
    · have counted := owing.counted other
      have busy := owing.busy
      simp only [activeCount_setActive]
      split
      · rename_i same
        subst same
        simp only [if_true] at counted
        omega
      · rename_i apart
        simpa [apart] using counted
    · simp only [waitersOf_setActive] at waits
      have apart : other ≠ host := fun same => waits (same ▸ waiting)
      simpa [apart] using owing.full other waits
    · have bounded := owing.bounded other
      simp only [activeCount_setActive, cap_setActive]
      split
      · rename_i same
        subst same
        omega
      · exact bounded
  | cons next rest =>
    rw [leave_of_cons release waiting]
    have mine : next.host = host := owing.host_of_waiting (waiting ▸ List.mem_cons_self)
    have full := owing.full host (by simp [waiting])
    refine ⟨fun other => ?_, fun one there => ?_, fun other => ?_, fun other waits => ?_, owing.bounded⟩
    · have line := owing.line other
      by_cases same : other = host
      · subst same
        simp [mine, waiting, line]
      · simpa [mine, Ne.symm same, same] using line
    · simp only [List.append_assoc, List.mem_append, List.mem_singleton] at there
      rcases there with known | rfl | known
      · exact owing.own one (List.mem_append_left _ known)
      · simp [mine]
      · exact owing.own one (List.mem_append_right _ known)
    · have counted := owing.counted other
      by_cases same : other = host
      · subst same
        simp only [activeCount_setWaiters, List.filter_append, List.length_append, mine, decide_true,
          List.filter_cons_of_pos, List.filter_nil, List.length_singleton]
        simp only [if_true] at counted
        omega
      · simpa [mine, Ne.symm same, same] using counted
    · by_cases same : other = host
      · exact same ▸ full
      · simp only [waitersOf_setWaiters, same, if_false] at waits
        exact owing.full other waits

/-- The first of those that are ready is started, and its slot is its own. -/
theorem next_cases (taken : state.next call = some (held, later)) :
    held.call = call ∧ ∃ rest, state.ready = held :: rest ∧
      later = { state with ready := rest, started := state.started ++ [call] } := by
  unfold State.next at taken
  split at taken
  · rename_i first rest ready
    split at taken
    · rename_i same
      cases taken
      exact ⟨same, rest, ready, rfl⟩
    · cases taken
  · cases taken

theorem CallsPlaced.takes (allHeld : AllSlotsHeld state) (taken : state.next call = some (held, later)) :
    Owing call.host later ∧ held.call = call ∧ held.release = makeReleaser call.host := by
  obtain ⟨rfl, rest, ready, rfl⟩ := next_cases taken
  refine ⟨⟨fun other => ?_, fun one there => ?_, fun other => ?_, allHeld.full, allHeld.bounded⟩, rfl, ?_⟩
  · have line := allHeld.line other
    rw [ready] at line
    by_cases same : held.call.host = other
    · simpa [same] using line
    · simpa [same] using line
  · refine allHeld.own one ?_
    rw [ready]
    exact List.mem_cons_of_mem _ there
  · have counted := allHeld.counted other
    rw [ready] at counted
    by_cases same : held.call.host = other
    · simp only [same, decide_true, List.filter_cons_of_pos, List.length_cons] at counted
      simp only [same, if_true]
      omega
    · simpa [same, Ne.symm same] using counted
  · exact allHeld.own held (by simp [ready])

theorem CallsPlaced.run (allHeld : AllSlotsHeld state) (done : step (.run call) state = some later) :
    AllSlotsHeld later := by
  unfold step at done
  dsimp only at done
  split at done
  · cases done
  · by_cases room : state.limiter.activeCount call.host < state.limiter.cap
    · have nobody : state.limiter.waitersOf call.host = [] := by
        by_contra waits
        exact absurd (allHeld.full _ waits) (Nat.ne_of_lt room)
      rw [acquire_of_lt room, Option.some.injEq] at done
      subst done
      refine ⟨fun other => ?_, fun one there => ?_, fun other => ?_, fun other waits => ?_, fun other => ?_⟩
      · have line := allHeld.line other
        by_cases same : call.host = other
        · subst same
          simp only [nobody, List.append_nil] at line
          simp [nobody, line]
        · simpa [same] using line
      · simp only [Option.map_some, Option.toList_some, List.append_assoc, List.mem_append,
          List.mem_singleton] at there
        rcases there with known | rfl | known
        · exact allHeld.own one (List.mem_append_left _ known)
        · rfl
        · exact allHeld.own one (List.mem_append_right _ known)
      · have counted := allHeld.counted other
        by_cases same : call.host = other
        · subst same
          simp only [activeCount_setActive, if_true, Option.map_some, Option.toList_some,
            List.filter_append, decide_true, List.filter_cons_of_pos, List.filter_nil,
            List.length_append, List.length_singleton]
          omega
        · simpa [same, Ne.symm same] using counted
      · simp only [waitersOf_setActive] at waits
        have apart : other ≠ call.host := fun same => waits (same ▸ nobody)
        simpa [apart] using allHeld.full other waits
      · simp only [activeCount_setActive, cap_setActive]
        split
        · exact room
        · exact allHeld.bounded other
    · have full := Nat.le_antisymm (allHeld.bounded call.host) (Nat.not_lt.mp room)
      rw [acquire_of_le (Nat.not_lt.mp room), Option.some.injEq] at done
      subst done
      refine ⟨fun other => ?_, fun one there => ?_, fun other => ?_, fun other waits => ?_, allHeld.bounded⟩
      · have line := allHeld.line other
        by_cases same : call.host = other
        · subst same
          simpa [← List.append_assoc] using line
        · simpa [same, Ne.symm same] using line
      · exact allHeld.own one (by simpa using there)
      · simpa using allHeld.counted other
      · by_cases same : other = call.host
        · exact same ▸ full
        · simp only [waitersOf_setWaiters, same, if_false] at waits
          exact allHeld.full other waits

/-- A task that has settled is no longer among those that run. -/
theorem CallsPlaced.settle (allHeld : AllSlotsHeld state)
    (found : state.running.find? (·.call = call) = some held) :
    Owing call.host { state with running := state.running.eraseP (·.call = call) } ∧
      held.release = makeReleaser call.host := by
  have there := List.mem_of_find?_eq_some found
  have mine : held.call = call := by simpa using List.find?_some found
  refine ⟨⟨allHeld.line, fun one member => allHeld.own one ?_, fun other => ?_, allHeld.full, allHeld.bounded⟩, ?_⟩
  · rcases List.mem_append.mp member with known | known
    · exact List.mem_append_left _ known
    · exact List.mem_append_right _ (List.mem_of_mem_eraseP known)
  · have counted := allHeld.counted other
    by_cases same : other = call.host
    · subst same
      have some_ : held ∈ state.running.filter (·.call.host = call.host) :=
        List.mem_filter.mpr ⟨there, by simp [mine]⟩
      have positive := List.length_pos_of_mem some_
      dsimp only
      rw [filter_eraseP_of_imp fun value here => by simp [of_decide_eq_true here],
        List.length_eraseP_of_mem some_ (decide_eq_true mine), if_pos rfl]
      omega
    · dsimp only
      rw [filter_eraseP_of_not fun value here => by simp [of_decide_eq_true here, Ne.symm same], if_neg same]
      exact counted
  · rw [← mine]
    exact allHeld.own held (List.mem_append_right _ there)

/-- **One event.** -/
theorem CallsPlaced.onward (allHeld : AllSlotsHeld state) (done : step event state = some later) :
    AllSlotsHeld later := by
  cases event with
  | run call => exact allHeld.run done
  | start call =>
    obtain ⟨⟨held, between⟩, taken, rfl⟩ := Option.map_eq_some_iff.mp done
    obtain ⟨owing, mine, release⟩ := allHeld.takes taken
    refine ⟨owing.line, fun one there => ?_, fun other => ?_, owing.full, owing.bounded⟩
    · simp only [← List.append_assoc, List.mem_append, List.mem_singleton] at there
      rcases there with known | rfl
      · exact owing.own one (List.mem_append.mpr known)
      · rw [release, mine]
    · have counted := owing.counted other
      by_cases same : other = call.host
      · subst same
        simp only [List.filter_append, List.length_append, mine, decide_true, List.filter_cons_of_pos,
          List.filter_nil, List.length_singleton]
        simp only [if_true] at counted
        omega
      · simpa [mine, same, Ne.symm same] using counted
  | startThrows call =>
    obtain ⟨⟨held, between⟩, taken, rfl⟩ := Option.map_eq_some_iff.mp done
    obtain ⟨owing, -, release⟩ := allHeld.takes taken
    exact owing.leave release .rejected
  | settle call outcome =>
    obtain ⟨held, found, rfl⟩ := Option.map_eq_some_iff.mp done
    obtain ⟨owing, release⟩ := allHeld.settle found
    exact owing.leave release outcome

/-! ## A call that waits -/

/-- The call has a slot, or has had one. -/
def State.granted (state : State) (call : RunCall) : Prop :=
  call ∈ state.started ∨ call ∈ state.ready.map (·.call)

/-- The call waits, with so many others ahead of it. -/
def State.waits (state : State) (call : RunCall) (places : ℕ) : Prop :=
  ∃ ahead behind, state.limiter.waitersOf call.host = ahead ++ call :: behind ∧ ahead.length = places

/-- A slot that is given up goes to the first in line. -/
theorem CallsPlaced.leave_eq (owing : Owing host state) (release : held.release = makeReleaser host)
    (outcome : Outcome) : (state.leave held outcome).started = state.started ∧
      (state.leave held outcome).ready =
        state.ready ++ ((state.limiter.waitersOf host).head?.map fun next => ⟨next, makeReleaser host⟩).toList ∧
      ∀ other, (state.leave held outcome).limiter.waitersOf other =
        if other = host then (state.limiter.waitersOf host).tail else state.limiter.waitersOf other := by
  cases waiting : state.limiter.waitersOf host with
  | nil =>
    rw [leave_of_nil release waiting owing.busy]
    refine ⟨rfl, by simp, fun other => ?_⟩
    split
    · rename_i same
      exact same ▸ waiting
    · rfl
  | cons next rest =>
    rw [leave_of_cons release waiting]
    exact ⟨rfl, rfl, fun other => waitersOf_setWaiters⟩

theorem CallsPlaced.granted_leave (owing : Owing host state) (release : held.release = makeReleaser host)
    (outcome : Outcome) (granted : state.granted call) : (state.leave held outcome).granted call := by
  obtain ⟨started, ready, -⟩ := owing.leave_eq release outcome
  unfold State.granted
  rw [started, ready, List.map_append]
  exact granted.imp_right (List.mem_append_left _)

/-- A release lets one waiter of its host go on, and no one else. -/
theorem CallsPlaced.waits_leave {places : ℕ} (owing : Owing host state) (release : held.release = makeReleaser host)
    (outcome : Outcome) (waits : state.waits call places) :
    (host ≠ call.host → (state.leave held outcome).waits call places) ∧
      (host = call.host → (state.leave held outcome).granted call ∨
        ∃ fewer, places = fewer + 1 ∧ (state.leave held outcome).waits call fewer) := by
  obtain ⟨started, ready, waiters⟩ := owing.leave_eq release outcome
  obtain ⟨ahead, behind, line, length⟩ := waits
  refine ⟨fun apart => ⟨ahead, behind, ?_, length⟩, fun same => ?_⟩
  · rw [waiters, if_neg (Ne.symm apart), line]
  · subst same
    cases ahead with
    | nil =>
      refine .inl (.inr ?_)
      simp [ready, line]
    | cons first rest =>
      refine .inr ⟨rest.length, length.symm, rest, behind, ?_, rfl⟩
      simp [waiters, line]

theorem granted_next (taken : state.next call = some (held, later)) {other : RunCall}
    (granted : state.granted other) : later.granted other := by
  obtain ⟨rfl, rest, ready, rfl⟩ := next_cases taken
  unfold State.granted at granted ⊢
  rw [ready, List.map_cons, List.mem_cons] at granted
  rcases granted with earlier | rfl | later
  · exact .inl (List.mem_append_left _ earlier)
  · exact .inl (List.mem_append_right _ List.mem_cons_self)
  · exact .inr later

/-- What was granted is not taken back. -/
theorem CallsPlaced.granted_step (allHeld : AllSlotsHeld state) (done : step event state = some later)
    (granted : state.granted call) : later.granted call := by
  cases event with
  | run new =>
    unfold step at done
    dsimp only at done
    split at done
    · cases done
    · cases done
      refine granted.imp_right fun there => ?_
      rw [List.map_append]
      exact List.mem_append_left _ there
  | start first =>
    obtain ⟨⟨held, between⟩, taken, rfl⟩ := Option.map_eq_some_iff.mp done
    exact granted_next taken granted
  | startThrows first =>
    obtain ⟨⟨held, between⟩, taken, rfl⟩ := Option.map_eq_some_iff.mp done
    obtain ⟨owing, -, release⟩ := allHeld.takes taken
    exact owing.granted_leave release .rejected (granted_next taken granted)
  | settle ended outcome =>
    obtain ⟨held, found, rfl⟩ := Option.map_eq_some_iff.mp done
    obtain ⟨owing, release⟩ := allHeld.settle found
    exact owing.granted_leave release outcome granted

/-- Every release of its host brings a waiting call forward by one place. -/
theorem CallsPlaced.waits_step {places : ℕ} (allHeld : AllSlotsHeld state) (done : step event state = some later)
    (waits : state.waits call places) :
    (event.releases call.host = false → later.waits call places) ∧
      (event.releases call.host = true → later.granted call ∨
        ∃ fewer, places = fewer + 1 ∧ later.waits call fewer) := by
  cases event with
  | run new =>
    refine ⟨fun _ => ?_, nofun⟩
    obtain ⟨ahead, behind, line, length⟩ := waits
    unfold step at done
    dsimp only at done
    split at done
    · cases done
    · by_cases room : state.limiter.activeCount new.host < state.limiter.cap
      · rw [acquire_of_lt room, Option.some.injEq] at done
        subst done
        exact ⟨ahead, behind, line, length⟩
      · rw [acquire_of_le (Nat.not_lt.mp room), Option.some.injEq] at done
        subst done
        by_cases same : call.host = new.host
        · exact ⟨ahead, behind ++ [new], by simp [← same, line], length⟩
        · exact ⟨ahead, behind, by simpa [same] using line, length⟩
  | start first =>
    obtain ⟨⟨held, between⟩, taken, rfl⟩ := Option.map_eq_some_iff.mp done
    obtain ⟨-, rest, -, rfl⟩ := next_cases taken
    exact ⟨fun _ => waits, nofun⟩
  | startThrows first =>
    obtain ⟨⟨held, between⟩, taken, rfl⟩ := Option.map_eq_some_iff.mp done
    obtain ⟨owing, -, release⟩ := allHeld.takes taken
    obtain ⟨-, rest, -, rfl⟩ := next_cases taken
    obtain ⟨others, own⟩ := owing.waits_leave release .rejected waits
    exact ⟨fun apart => others (of_decide_eq_false apart), fun same => own (of_decide_eq_true same)⟩
  | settle ended outcome =>
    obtain ⟨held, found, rfl⟩ := Option.map_eq_some_iff.mp done
    obtain ⟨owing, release⟩ := allHeld.settle found
    obtain ⟨others, own⟩ := owing.waits_leave release outcome waits
    exact ⟨fun apart => others (of_decide_eq_false apart), fun same => own (of_decide_eq_true same)⟩

/-! ## Every run -/

variable {first : State} {events : List Event}

theorem Steps.allSlotsHeld (allHeld : AllSlotsHeld first) (steps : Steps first events state) :
    AllSlotsHeld state := by
  induction steps with
  | here => exact allHeld
  | step _ done ih => exact ih.onward done

theorem allSlotsHeld_start (configured : Option ℤ) : AllSlotsHeld (start configured) :=
  ⟨fun _ => rfl, by simp [start], fun _ => rfl, fun _ waits => absurd rfl waits, fun _ => Nat.zero_le _⟩

/-- **A waiting call gets its slot.** As many releases of its host as there are calls ahead of
it leave it first in line, and one more is its own. -/
theorem Steps.granted {places : ℕ} (allHeld : AllSlotsHeld first) (waits : first.waits call places)
    (steps : Steps first events state) : state.granted call ∨
      ∃ fewer, state.waits call fewer ∧ fewer + events.countP (·.releases call.host) = places := by
  induction steps with
  | here => exact .inr ⟨places, waits, rfl⟩
  | @step events state later event before done ih =>
    have kept := before.allSlotsHeld allHeld
    rcases ih with granted | ⟨fewer, still, count⟩
    · exact .inl (kept.granted_step done granted)
    · obtain ⟨others, own⟩ := kept.waits_step done still
      rw [List.countP_append, List.countP_singleton]
      cases releases : event.releases call.host with
      | false =>
        exact .inr ⟨fewer, others releases, by simpa using count⟩
      | true =>
        rcases own releases with granted | ⟨less, same, waiting⟩
        · exact .inl granted
        · refine .inr ⟨less, waiting, ?_⟩
          simp only [if_true]
          omega

/-! ## One host among others -/

section Only

variable {limiter : EndpointLimiter} {count : ℕ} {waiters : List RunCall}

theorem only_setActive_self : (limiter.setActive host count).only host =
    (limiter.only host).setActive host count := by
  simp only [EndpointLimiter.only, setActive, EndpointLimiter.mk.injEq, true_and, and_true]
  funext other
  by_cases same : other = host <;> simp [same]

theorem only_setActive_other (apart : other ≠ host) :
    (limiter.setActive other count).only host = limiter.only host := by
  simp only [EndpointLimiter.only, setActive, EndpointLimiter.mk.injEq, true_and, and_true]
  funext asked
  by_cases same : asked = host
  · simp [same, Ne.symm apart]
  · simp [same]

theorem only_setWaiters_self : (limiter.setWaiters host waiters).only host =
    (limiter.only host).setWaiters host waiters := by
  simp only [EndpointLimiter.only, setWaiters, EndpointLimiter.mk.injEq, true_and]
  funext other
  by_cases same : other = host <;> simp [same]

theorem only_setWaiters_other (apart : other ≠ host) :
    (limiter.setWaiters other waiters).only host = limiter.only host := by
  simp only [EndpointLimiter.only, setWaiters, EndpointLimiter.mk.injEq, true_and]
  funext asked
  by_cases same : asked = host
  · simp [same, Ne.symm apart]
  · simp [same]

@[simp] theorem activeCount_only : (limiter.only host).activeCount host = limiter.activeCount host := by
  simp [activeCount, EndpointLimiter.only]

@[simp] theorem waitersOf_only : (limiter.only host).waitersOf host = limiter.waitersOf host := by
  simp [waitersOf, EndpointLimiter.only]

end Only

theorem CallsPlaced.only_leave_other (owing : Owing other state) (release : held.release = makeReleaser other)
    (mine : held.call.host = other) (apart : other ≠ host) (outcome : Outcome) :
    (state.leave held outcome).only host = state.only host := by
  cases waiting : state.limiter.waitersOf other with
  | nil =>
    rw [leave_of_nil release waiting owing.busy]
    simp [State.only, only_setActive_other apart, mine, apart]
  | cons next rest =>
    rw [leave_of_cons release waiting]
    have theirs : next.host = other := owing.host_of_waiting (waiting ▸ List.mem_cons_self)
    simp [State.only, only_setWaiters_other apart, mine, theirs, apart]

theorem CallsPlaced.only_leave_self (owing : Owing host state) (release : held.release = makeReleaser host)
    (mine : held.call.host = host) (outcome : Outcome) :
    (state.leave held outcome).only host = (state.only host).leave held outcome := by
  have count : (state.only host).limiter.activeCount host = state.limiter.activeCount host :=
    activeCount_only
  have line : (state.only host).limiter.waitersOf host = state.limiter.waitersOf host := waitersOf_only
  cases waiting : state.limiter.waitersOf host with
  | nil =>
    rw [leave_of_nil release waiting owing.busy,
      leave_of_nil release (line.trans waiting) (count ▸ owing.busy), count]
    simp [State.only, only_setActive_self, mine]
  | cons next rest =>
    rw [leave_of_cons release waiting, leave_of_cons release (line.trans waiting)]
    have theirs : next.host = host := owing.host_of_waiting (waiting ▸ List.mem_cons_self)
    simp [State.only, only_setWaiters_self, mine, theirs]

theorem only_next_self (taken : state.next call = some (held, later)) (mine : call.host = host) :
    (state.only host).next call = some (held, later.only host) := by
  obtain ⟨rfl, rest, ready, rfl⟩ := next_cases taken
  unfold State.next State.only
  simp [ready, mine]

theorem only_next_other (taken : state.next call = some (held, later)) (apart : call.host ≠ host) :
    later.only host = state.only host := by
  obtain ⟨rfl, rest, ready, rfl⟩ := next_cases taken
  simp [State.only, ready, apart]

theorem only_running_other (apart : call.host ≠ host) :
    { state with running := state.running.eraseP (·.call = call) }.only host = state.only host := by
  have same := @filter_eraseP_of_not _ (fun held : Held => decide (held.call.host = host))
    (fun held => decide (held.call = call)) state.running fun value here => by simp [of_decide_eq_true here, apart]
  simp only [State.only, same]

theorem only_running_self (mine : call.host = host) :
    { state with running := state.running.eraseP (·.call = call) }.only host =
      { state.only host with running := (state.only host).running.eraseP (·.call = call) } := by
  have same := @filter_eraseP_of_imp _ (fun held : Held => decide (held.call.host = host))
    (fun held => decide (held.call = call)) state.running fun value here => by simp [of_decide_eq_true here, mine]
  simp only [State.only, same]

theorem only_find?_self (found : state.running.find? (·.call = call) = some held)
    (mine : call.host = host) : (state.only host).running.find? (·.call = call) = some held := by
  unfold State.only
  rw [List.find?_filter, ← found]
  congr
  funext value
  by_cases here : value.call = call
  · simp [here, mine]
  · simp [here]

theorem only_run (done : step (.run call) state = some later) (host : String) :
    (call.host = host → step (.run call) (state.only host) = some (later.only host)) ∧
      (call.host ≠ host → later.only host = state.only host) := by
  unfold step at done ⊢
  dsimp only at done ⊢
  split at done
  · cases done
  · rename_i new
    have fresh : call ∉ (state.only host).arrived := fun there => new (List.mem_of_mem_filter there)
    rw [if_neg fresh]
    by_cases room : state.limiter.activeCount call.host < state.limiter.cap
    · rw [acquire_of_lt room, Option.some.injEq] at done
      subst done
      refine ⟨fun mine => ?_, fun apart => ?_⟩
      · subst mine
        have count : (state.only call.host).limiter.activeCount call.host =
          state.limiter.activeCount call.host := activeCount_only
        rw [acquire_of_lt (count ▸ room), count]
        simp [State.only, only_setActive_self]
      · simp [State.only, only_setActive_other apart, apart]
    · rw [acquire_of_le (Nat.not_lt.mp room), Option.some.injEq] at done
      subst done
      refine ⟨fun mine => ?_, fun apart => ?_⟩
      · subst mine
        have count : (state.only call.host).limiter.activeCount call.host =
          state.limiter.activeCount call.host := activeCount_only
        have line : (state.only call.host).limiter.waitersOf call.host =
          state.limiter.waitersOf call.host := waitersOf_only
        rw [acquire_of_le (count ▸ Nat.not_lt.mp room), line]
        simp [State.only, only_setWaiters_self]
      · simp [State.only, only_setWaiters_other apart, apart]

/-- An event of another host does not concern this one, and an event of its own does so as if
there were no other. -/
theorem CallsPlaced.only_step (allHeld : AllSlotsHeld state) (done : step event state = some later) (host : String) :
    (event.call.host = host → step event (state.only host) = some (later.only host)) ∧
      (event.call.host ≠ host → later.only host = state.only host) := by
  cases event with
  | run call => exact only_run done host
  | start call =>
    obtain ⟨⟨held, between⟩, taken, rfl⟩ := Option.map_eq_some_iff.mp done
    obtain ⟨-, same, -⟩ := allHeld.takes taken
    refine ⟨fun mine => Option.map_eq_some_iff.mpr ⟨_, only_next_self taken mine, ?_⟩, fun apart => ?_⟩
    · simp [State.only, same, show call.host = host from mine]
    · rw [← only_next_other taken apart]
      simp [State.only, same, show call.host ≠ host from apart]
  | startThrows call =>
    obtain ⟨⟨held, between⟩, taken, rfl⟩ := Option.map_eq_some_iff.mp done
    obtain ⟨owing, same, release⟩ := allHeld.takes taken
    refine ⟨fun mine => Option.map_eq_some_iff.mpr ⟨_, only_next_self taken mine, ?_⟩, fun apart => ?_⟩
    · cases show call.host = host from mine
      exact (owing.only_leave_self release (congrArg _ same) .rejected).symm
    · rw [← only_next_other taken apart]
      exact owing.only_leave_other release (congrArg _ same) apart .rejected
  | settle call outcome =>
    obtain ⟨held, found, rfl⟩ := Option.map_eq_some_iff.mp done
    obtain ⟨owing, release⟩ := allHeld.settle found
    have same : held.call = call := by simpa using List.find?_some found
    refine ⟨fun mine => Option.map_eq_some_iff.mpr ⟨held, only_find?_self found mine, ?_⟩, fun apart => ?_⟩
    · cases show call.host = host from mine
      rw [owing.only_leave_self release (congrArg _ same) outcome, only_running_self rfl]
    · rw [owing.only_leave_other release (congrArg _ same) apart outcome]
      exact only_running_other (show call.host ≠ host from apart)

end ParentalCoord.Webhooks.Limiter
