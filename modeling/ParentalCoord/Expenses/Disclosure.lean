import ParentalCoord.Expenses.Guarantees
import ParentalCoord.Interleaving.Vouching

/-!
Who is told of an expense.

To one who is not a member of its bond an expense does not exist: a request is answered as one for
an expense that there never was.  A member is one at some moment of the request, which is when
he is asked about; he may have left before it ends.
-/

namespace ParentalCoord.Expenses

open Interleaving Store

/-- Who requests; the reminder and retention are nobody's. -/
def Entry.viewer : Entry → Option Uuid
  | .create _ _ viewerId | .getDetail _ viewerId | .update _ _ viewerId | .cancel _ viewerId
  | .approve _ viewerId | .reject _ viewerId _ | .pay _ viewerId => some viewerId
  | .staleReminder | .retention => none

/-- The expense that a request names, to read it or to change it. -/
def Entry.names : Entry → Option Uuid
  | .getDetail id _ => some id
  | entry => entry.target

/-- The bond that a request is about: the one that a creation names, else that of the expense. -/
def Entry.Concerns (entry : Entry) (world : World) (bondId : Uuid) : Prop :=
  match entry with
  | .create asked _ _ => bondId = asked
  | entry => ∃ id row, entry.names = some id ∧ world.expenses.get id = some row ∧ row.bondId = bondId

/-- The answer to one who is not a member. -/
def Entry.stranger : Entry → Exception
  | .create _ _ _ => notFoundException "Bond not found or you are not a member"
  | _ => expenseNotFound

section Vouched

variable {config : Config} {entry : Entry} {past : List (Event (expenses config))} {id viewerId bondId : Uuid}

/-- The viewer has been found to be a member of the bond. -/
def Confirmed (past : List (Event (expenses config))) (bondId viewerId : Uuid) : Prop :=
  ∃ event ∈ past, event.query = .isActiveBondForMember bondId viewerId ∧
    event.before.directory.isActiveBondForMember bondId viewerId

/-- The bond of a creation, or that of the expense as it was loaded. -/
def Entry.Vouched (entry : Entry) (past : List (Event (expenses config))) : Prop :=
  match entry with
  | .create bondId _ viewerId => Confirmed past bondId viewerId
  | .staleReminder | .retention => True
  | entry => ∃ id row viewerId, entry.names = some id ∧ entry.viewer = some viewerId ∧
      (∃ load ∈ past, loadOf load = some (id, row)) ∧ Confirmed past row.bondId viewerId

theorem Confirmed.cons {event : Event (expenses config)} (confirmed : Confirmed past bondId viewerId) :
    Confirmed (event :: past) bondId viewerId := by
  obtain ⟨seen, member, rest⟩ := confirmed
  exact ⟨seen, List.mem_cons_of_mem _ member, rest⟩

theorem Entry.Vouched.cons {event : Event (expenses config)} (vouched : entry.Vouched past) :
    entry.Vouched (event :: past) := by
  have more (there : ∃ id row viewerId, entry.names = some id ∧ entry.viewer = some viewerId ∧
      (∃ load ∈ past, loadOf load = some (id, row)) ∧ Confirmed past row.bondId viewerId) :
      ∃ id row viewerId, entry.names = some id ∧ entry.viewer = some viewerId ∧
        (∃ load ∈ event :: past, loadOf load = some (id, row)) ∧
        Confirmed (event :: past) row.bondId viewerId := by
    obtain ⟨id, row, viewerId, named, viewer, ⟨load, member, loads⟩, confirmed⟩ := there
    exact ⟨id, row, viewerId, named, viewer, ⟨load, List.mem_cons_of_mem _ member, loads⟩, confirmed.cons⟩
  cases entry with
  | create bondId dto viewerId => exact Confirmed.cons vouched
  | staleReminder | retention => trivial
  | getDetail | update | cancel | approve | reject | pay => exact more vouched

theorem Entry.vouched_of_loaded {row : ExpenseEntity} (named : entry.names = some id)
    (viewer : entry.viewer = some viewerId) (loads : ∃ load ∈ past, loadOf load = some (id, row))
    (confirmed : Confirmed past row.bondId viewerId) : entry.Vouched past := by
  cases entry with
  | create | staleReminder | retention => cases named
  | getDetail | update | cancel | approve | reject | pay =>
    exact ⟨id, row, viewerId, named, viewer, loads, confirmed⟩

/-- Nothing is written for one who has not been found to be a member, and he is shown nothing but that
there is nothing. -/
def membership (config : Config) : Vouching (expenses config) where
  sensitive _ query := ¬query.idle
  silent entry error := error = .fault ∨ error = entry.stranger
  vouched := Entry.Vouched
  stays := Entry.Vouched.cons

/-! ## Requests -/

theorem asking {query : Call} {β : Type} {rest : interface.Answer query → Request β} (reads : query.reads)
    (more : ∀ world value, (serve query world).1 = .ok value →
      (membership config).Keeps entry (rest value) (⟨world, query, .ok value, world⟩ :: past)) :
    (membership config).Keeps entry ((perform query).bind rest) past := by
  refine Vouching.keeps_asking ?_ (fun before answer after answers => ?_) fun before error after answers => ?_
  · intro sensitive
    cases query <;> first | exact sensitive trivial | cases reads
  · obtain ⟨rfl, -⟩ := answered_of_reads reads answers
    rcases answers.elim with ⟨same, -⟩ | ⟨error, -, same, -⟩
    · exact more after answer same.symm
    · cases same
  · exact .inl ((answered_of_reads reads answers).2 error rfl)

/-- The answer to a stranger is that there is no such expense. -/
theorem stranger_of_names (named : entry.names = some id) : entry.stranger = expenseNotFound := by
  cases entry with
  | create => cases named
  | _ => rfl

theorem loadForViewer_vouched (named : entry.names = some id) (viewer : entry.viewer = some viewerId) :
    (membership config).Keeps entry (loadForViewer id viewerId) past := by
  have refused {β : Type} {past : List (Event (expenses config))} :
      (membership config).Keeps entry (.throw expenseNotFound : Request β) past :=
    Vouching.keeps_throw (.inr (stranger_of_names named).symm)
  unfold loadForViewer findAliveById
  simp only [Handler.bind_eq, Handler.pure_eq, Handler.throw_eq, Handler.bind_assoc]
  refine asking trivial fun world found _ => ?_
  cases found with
  | none => exact refused
  | some row =>
    obtain ⟨row, category⟩ := row
    simp only [Handler.bind_assoc, Handler.ret_bind]
    refine asking trivial fun _ hasDocument _ => ?_
    refine asking trivial fun later isMember answered => ?_
    cases isMember with
    | false => exact refused
    | true =>
      refine Vouching.keeps_of_vouched (@Entry.vouched_of_loaded _ _ _ _ _ row named viewer ?_ ?_) _
      · exact ⟨⟨world, .findOne id, .ok (some (row, category)), world⟩, by simp, rfl⟩
      · refine ⟨_, List.mem_cons_self, rfl, ?_⟩
        simpa [serve] using answered

theorem create_vouched (bondId : Uuid) (dto : CreateExpenseDto) (viewerId : Uuid) :
    (membership config).Keeps (.create bondId dto viewerId) (create bondId dto viewerId) [] := by
  unfold create assertBondMember
  simp only [Handler.bind_eq, Handler.bind_assoc]
  refine asking trivial fun world isMember answered => ?_
  cases isMember with
  | false => exact Vouching.keeps_throw (.inr rfl)
  | true =>
    have confirmed : (Entry.create bondId dto viewerId).Vouched
        [(⟨world, .isActiveBondForMember bondId viewerId, .ok true, world⟩ : Event (expenses config))] :=
      ⟨_, List.mem_cons_self, rfl, by simpa [serve] using answered⟩
    exact Vouching.keeps_of_vouched confirmed _

/-- Every request of a user begins with a check. -/
theorem handler_vouched (entry : Entry) : (membership config).Keeps entry (handler config entry) [] := by
  have shows {β : Type} {first : Request β} {answer : β → Reply} {past : List (Event (expenses config))}
      (kept : (membership config).Keeps entry first past) :
      (membership config).Keeps entry (first.bind fun value => .ret (answer value)) past :=
    Vouching.keeps_bind kept
  cases entry <;> simp only [handler, Handler.bind_eq, Handler.pure_eq]
  case create bondId dto viewerId => exact shows (create_vouched bondId dto viewerId)
  case getDetail id viewerId =>
    exact shows (Vouching.keeps_bind (loadForViewer_vouched rfl rfl))
  case update id dto viewerId =>
    exact shows (Vouching.keeps_bind (loadForViewer_vouched rfl rfl))
  case cancel id viewerId => exact Vouching.keeps_bind (loadForViewer_vouched rfl rfl)
  case approve id viewerId =>
    exact shows (asking trivial fun _ now _ => Vouching.keeps_bind (loadForViewer_vouched rfl rfl))
  case reject id viewerId rawReason =>
    exact shows (Vouching.keeps_bind (loadForViewer_vouched rfl rfl))
  case pay id viewerId =>
    exact shows (asking trivial fun _ now _ => Vouching.keeps_bind (loadForViewer_vouched rfl rfl))
  case staleReminder => exact Vouching.keeps_of_vouched trivial _
  case retention => exact Vouching.keeps_of_vouched trivial _

end Vouched

variable {config : Config} {cfg : Interleaving.Config (expenses config)} {thread : Thread (expenses config)}

/-- **An expense is the business of the members of its bond.**  In every run, a request of a user that
has written anything, or that has ended in any other way than with a failure or as it ends for what
does not exist, is about a bond of which he was found to be a member during the request. -/
theorem members_only {viewerId : Uuid} (run : Reachable (expenses config) cfg) (member : thread ∈ cfg.threads)
    (viewer : thread.entry.viewer = some viewerId)
    (told : (∃ event ∈ thread.past, ¬event.query.idle) ∨ (∃ reply, thread.rest = .ret reply) ∨
      ∃ error, thread.rest = .throw error ∧ error ≠ .fault ∧ error ≠ thread.entry.stranger) :
    ∃ bondId, thread.entry.Concerns cfg.world bondId ∧ ∃ event ∈ thread.past,
      event.query = .isActiveBondForMember bondId viewerId ∧
        event.before.directory.isActiveBondForMember bondId viewerId := by
  have loud (error : Exception) (other : error ≠ .fault ∧ error ≠ thread.entry.stranger) :
      ¬(membership config).silent thread.entry error := by
    rintro (rfl | rfl)
    · exact other.1 rfl
    · exact other.2 rfl
  have vouched : thread.entry.Vouched thread.past := by
    refine run.vouched handler_vouched member ?_
    rcases told with wrote | replied | ⟨error, ended, other⟩
    · exact .inl wrote
    · exact .inr (.inl replied)
    · exact .inr (.inr ⟨error, ended, loud error other⟩)
  have behind := ((run.disciplined (discipline_sound config)
    (Discipline.supplies_of_assumes fun _ _ _ => trivial)).2 thread member).behind
  have loaded (there : ∃ id row viewerId, thread.entry.names = some id ∧ thread.entry.viewer = some viewerId ∧
      (∃ load ∈ thread.past, loadOf load = some (id, row)) ∧ Confirmed thread.past row.bondId viewerId) :
      ∃ bondId, (∃ id row, thread.entry.names = some id ∧ cfg.world.expenses.get id = some row ∧
        row.bondId = bondId) ∧ Confirmed thread.past bondId viewerId := by
    obtain ⟨id, row, other, named, same, ⟨load, seen, loads⟩, confirmed⟩ := there
    cases viewer.symm.trans same
    obtain ⟨genuine, more, -, onward⟩ := behind load seen
    obtain ⟨row', there, same, -⟩ := onward id row (loads_seen genuine loads).1
    exact ⟨row.bondId, ⟨id, row', named, there, same.bondId⟩, confirmed⟩
  cases asked : thread.entry with
  | create bondId dto asker =>
    rw [asked] at vouched viewer
    cases viewer
    exact ⟨bondId, rfl, vouched⟩
  | staleReminder | retention =>
    rw [asked] at viewer
    cases viewer
  | getDetail | update | cancel | approve | reject | pay =>
    rw [asked] at vouched loaded
    exact loaded vouched

/-- A detail that `u2` has been shown. -/
def seen (thread : Thread (expenses defaults)) : Bool :=
  match thread.entry, thread.rest with
  | .getDetail "e1" "u2", .ret _ => true
  | _, _ => false

theorem members_only_seen : ∃ (cfg : Interleaving.Config (expenses defaults)) (bondId : Uuid),
    Reachable (expenses defaults) cfg ∧ (Entry.getDetail "e1" "u2").Concerns cfg.world bondId ∧
      ∃ thread ∈ cfg.threads, ∃ event ∈ thread.past,
      event.query = .isActiveBondForMember bondId "u2" ∧
        event.before.directory.isActiveBondForMember bondId "u2" := by
  obtain ⟨cfg, run, shown⟩ := exists_played (fun _ _ => True)
    (creation ++ .arrive (.getDetail "e1" "u2") :: turns 1 5)
    (fun cfg => cfg.threads.any seen) (by decide +kernel)
  obtain ⟨thread, member, shown⟩ := List.any_eq_true.mp shown
  unfold seen at shown
  split at shown
  · rename_i reply entry ended
    have viewer : thread.entry.viewer = some "u2" := by rw [entry]; rfl
    obtain ⟨bondId, concerns, event, there, asked⟩ :=
      members_only run member viewer (.inr (.inl ⟨_, ended⟩))
    exact ⟨cfg, bondId, run, entry ▸ concerns, thread, member, event, there, asked⟩
  · cases shown

end ParentalCoord.Expenses
