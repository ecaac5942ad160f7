import ParentalCoord.Expenses.Guarantees

/-!
How often an expense is reminded of.

The only memory of a reminder is its outbox row.  The anti-join consults it on the
snapshot of the statement, before the row is locked, and retention deletes it.  In
the runs where neither of the two loses it (`Spared`), an expense is reminded of
at most once; otherwise it may be reminded of again.
-/

namespace ParentalCoord.Expenses

open Interleaving Store

/-- How often a reminder of the expense was inserted. -/
def reminders (id : Uuid) (world : World) : ℕ := world.inserted.countP (isStaleOf id)

/-- The expense is alive and pending. -/
def ExpenseEntity.waiting (row : ExpenseEntity) : Bool := row.status = .pending ∧ row.deletedAt = none

/-- The reminder that an outbox row holds is needed: its expense still waits. -/
def OutboxRow.needed (world : World) (row : OutboxRow) : Bool :=
  isStaleOf row.event.aggregateId row.event ∧
    (world.expenses.get row.event.aggregateId).any (·.waiting)

/-- The call does not lose a reminder: a purge deletes none of an expense that
still waits, and a reminder does not lock a row whose reminder has been committed
since its snapshot. -/
def Spares (world : World) : Call → Prop
  | .purgeDispatchedBefore before => ∀ row ∈ world.outbox, row.needed world → ¬purged before row
  | .lockStale _ today id => (world.expenses.get id).any (eligible today) → ¬world.remembers id
  | _ => True

instance (world : World) (query : Call) : Decidable (Spares world query) := by
  unfold Spares
  rcases query with ⟨⟩ <;> infer_instance

/-- A move whose call, if any, does not lose a reminder. -/
def Spared {config : Config} (cfg : Interleaving.Config (expenses config))
    (move : Move (expenses config)) : Prop :=
  match cfg.acts move with
  | some (_, event, _) => Spares event.before event.query
  | none => True

instance {config : Config} (cfg : Interleaving.Config (expenses config))
    (move : Move (expenses config)) : Decidable (Spared cfg move) := by
  unfold Spared
  rcases cfg.acts move with _ | ⟨_, event, _⟩ <;> infer_instance

/-- The expense is alive and pending in the world. -/
def Waits (world : World) (id : Uuid) : Prop :=
  ∃ row, world.expenses.get id = some row ∧ row.waiting

/-- What the outbox, the locks and the expenses say of the reminders. -/
structure Reminded (world : World) : Prop where
  once : ∀ id, reminders id world ≤ 1
  /-- While the expense waits, its reminder is remembered. -/
  recalled : ∀ id, 0 < reminders id world → Waits world id → world.remembers id
  rooted : ∀ id, 0 < reminders id world → world.expenses.get id ≠ none
  /-- A locked row waits, and has not been reminded of. -/
  claimed : ∀ scan ∈ world.scans, ∀ id ∈ scan.locked, reminders id world = 0 ∧ Waits world id
  exclusive : ∀ scan ∈ world.scans, ∀ other ∈ world.scans, ∀ id ∈ scan.locked,
    id ∈ other.locked → scan.txn = other.txn
  started : ∀ scan ∈ world.scans, scan.txn < world.nextTxn

/-- The transaction has locked the row, unless it has ended. -/
def Locked (world : World) (txn : ℕ) (id : Uuid) : Prop :=
  txn < world.nextTxn ∧ ∀ scan ∈ world.scans, scan.txn = txn → id ∈ scan.locked

/-- A lock that is held stays held until its transaction ends. -/
def Holding (first second : World) : Prop := ∀ txn id, Locked first txn id → Locked second txn id

variable {config : Config} {before after world : World} {id : Uuid} {query : Call}
  {answer : Except Exception (interface.Answer query)} {events : List InsertOutboxEventInput}

/-! ## What is inserted -/

@[simp] theorem reminders_emit : reminders id (world.emit events) =
    reminders id world + events.countP (isStaleOf id) := by
  simp [reminders, World.emit]

@[simp] theorem remembers_emit : (world.emit events).remembers id =
    (world.remembers id || events.any (isStaleOf id)) := by
  simp [World.remembers, World.emit, List.any_append, List.any_map, Function.comp_def]

theorem countP_stale (staleExpenses : List StaleExpense) :
    (staleExpenses.map fun expense => staleEvent expense.id expense.bondId).countP (isStaleOf id) =
      (staleExpenses.map (·.id)).count id := by
  rw [List.countP_map, List.count, List.countP_map]
  refine List.countP_congr fun expense _ => ?_
  simp [isStaleOf, isStale, staleEvent]

/-- Events that are no reminders do not count. -/
theorem countP_other (other : ∀ event ∈ events, isStale event = false) :
    events.countP (isStaleOf id) = 0 := by
  rw [List.countP_eq_zero]
  intro event member stale
  simp [isStaleOf, other event member] at stale

/-! ## One call -/

/-- A call that touches neither the expenses nor what was inserted, forgets no
reminder that is needed and opens no transaction. -/
theorem Reminded.frame (held : Reminded before)
    (expenses : after.expenses = before.expenses) (inserted : after.inserted = before.inserted)
    (remembers : ∀ id, Waits before id → before.remembers id → after.remembers id)
    (scans : ∀ scan ∈ after.scans, scan ∈ before.scans) (nextTxn : after.nextTxn = before.nextTxn) :
    Reminded after := by
  have count : ∀ id, reminders id after = reminders id before := by simp [reminders, inserted]
  have waits : ∀ id, Waits after id ↔ Waits before id := by simp [Waits, expenses]
  constructor
  · intro id
    rw [count]
    exact held.once id
  · intro id reminded waiting
    rw [count] at reminded
    rw [waits] at waiting
    exact remembers id waiting (held.recalled id reminded waiting)
  · intro id reminded
    rw [count] at reminded
    rw [expenses]
    exact held.rooted id reminded
  · intro scan member id locked
    rw [count, waits]
    exact held.claimed scan (scans scan member) id locked
  · intro scan member other member' id locked locked'
    exact held.exclusive scan (scans scan member) other (scans other member') id locked locked'
  · intro scan member
    rw [nextTxn]
    exact held.started scan (scans scan member)

theorem Reminded.endScan (held : Reminded world) (txn : ℕ) : Reminded (world.endScan txn) :=
  held.frame rfl rfl (fun _ _ known => known) (fun _ member => List.mem_of_mem_filter member) rfl

theorem Holding.endScan (world : World) (txn : ℕ) : Holding world (world.endScan txn) :=
  fun _ _ locked => ⟨locked.1, fun scan member => locked.2 scan (List.mem_of_mem_filter member)⟩

/-- A purge that spares the reminders that are needed forgets none of them. -/
theorem Reminded.purge (held : Reminded world) {cutoff : Instant}
    (spares : ∀ row ∈ world.outbox, row.needed world → ¬purged cutoff row) :
    Reminded { world with outbox := world.outbox.filter (!purged cutoff ·) } := by
  refine held.frame rfl rfl (fun id waits remembered => ?_) (fun _ member => member) rfl
  obtain ⟨row, member, stale⟩ := List.any_eq_true.mp remembered
  have own : row.event.aggregateId = id := by simp_all [isStaleOf]
  obtain ⟨expense, found, waiting⟩ := waits
  have needed : row.needed world := by simp [OutboxRow.needed, own, stale, found, waiting]
  have kept := spares row member needed
  exact List.any_eq_true.mpr ⟨row, List.mem_filter.mpr ⟨member, by simpa using kept⟩, stale⟩

/-- A write of a row that nobody has locked, and that does not make it wait again. -/
theorem Reminded.write (held : Reminded world) {write : GuardedWrite} {row : ExpenseEntity}
    (found : world.expenses.get write.id = some row) (free : world.locks write.id = false)
    (forward : write.patch.status ≠ some .pending)
    (other : ∀ event ∈ write.event, isStale event = false) : Reminded (write.commit row world) := by
  have key : row.id = write.id := Table.key_of_get found
  have rows : ∀ id, (write.commit row world).expenses.get id =
      if id = write.id then some (write.patch.onto row world.clock) else world.expenses.get id := by
    intro id
    by_cases same : id = write.id
    · subst same
      rw [if_pos rfl, ← key]
      exact Table.get_put_self (by rw [onto_id, key]; exact found)
    · rw [if_neg same]
      exact Table.get_put_other (by rw [onto_id, key]; exact same)
  have count : ∀ id, reminders id (write.commit row world) = reminders id world := by
    intro id
    have silent : write.event.toList.countP (isStaleOf id) = 0 :=
      countP_other fun event member => other event (by simpa using member)
    simp only [GuardedWrite.commit, reminders_emit, silent]
    rfl
  have waited : ∀ id, Waits (write.commit row world) id → Waits world id := by
    rintro id ⟨row', there, waiting⟩
    rw [rows] at there
    split at there
    · rename_i same
      cases there
      obtain ⟨pending, live⟩ : (write.patch.onto row world.clock).status = .pending ∧
          (write.patch.deletedAt.or row.deletedAt) = none := by
        simpa [ExpenseEntity.waiting, ExpensePatch.onto] using waiting
      refine ⟨row, same ▸ found, ?_⟩
      cases target : write.patch.status with
      | none =>
        rw [onto_status, target] at pending
        have alive : row.deletedAt = none := by simp_all [Option.or_eq_none_iff]
        simpa [ExpenseEntity.waiting, alive] using pending
      | some status =>
        rw [onto_status, target] at pending
        exact absurd (by rw [target]; exact congrArg some pending) forward
    · exact ⟨row', there, waiting⟩
  constructor
  · intro id
    rw [count]
    exact held.once id
  · intro id reminded waiting
    rw [count] at reminded
    simp only [GuardedWrite.commit, remembers_emit, Bool.or_eq_true]
    exact .inl (held.recalled id reminded (waited id waiting))
  · intro id reminded
    rw [count] at reminded
    rw [rows]
    split
    · simp
    · exact held.rooted id reminded
  · intro scan member id locked
    obtain ⟨fresh, row', there, waiting⟩ := held.claimed scan member id locked
    refine ⟨(count id).trans fresh, row', ?_, waiting⟩
    rw [rows, if_neg]
    · exact there
    · rintro rfl
      have taken : world.locks write.id := List.any_eq_true.mpr ⟨scan, member, by simpa using locked⟩
      rw [free] at taken
      cases taken
  · exact held.exclusive
  · exact held.started

/-- A new expense has not been reminded of. -/
theorem Reminded.open (held : Reminded world) {row : ExpenseEntity} {table : Table ExpenseEntity.id}
    {audit : List ExpenseAuditEntryInput} (accepted : world.expenses.insert row = some table)
    (other : ∀ event ∈ events, isStale event = false) :
    Reminded (World.emit { world with expenses := table, audit := audit } events) := by
  obtain ⟨free, added⟩ := Table.get_insert accepted
  have count : ∀ id, reminders id (World.emit { world with expenses := table, audit := audit } events) =
      reminders id world := by
    intro id
    rw [reminders_emit, countP_other other]
    rfl
  have blank : reminders row.id world = 0 := by
    rcases Nat.eq_zero_or_pos (reminders row.id world) with none_ | some_
    · exact none_
    · exact absurd free (held.rooted row.id some_)
  have rows : ∀ id, id ≠ row.id → table.get id = world.expenses.get id := by
    intro id apart
    rw [added, if_neg apart]
  constructor
  · intro id
    rw [count]
    exact held.once id
  · intro id reminded waiting
    rw [count] at reminded
    have apart : id ≠ row.id := by
      rintro rfl
      omega
    obtain ⟨found, there, waits⟩ := waiting
    have old : Waits world id := ⟨found, (rows id apart).symm.trans there, waits⟩
    simp only [remembers_emit, Bool.or_eq_true]
    exact .inl (held.recalled id reminded old)
  · intro id reminded
    rw [count] at reminded
    change table.get id ≠ none
    rw [added]
    split
    · simp
    · exact held.rooted id reminded
  · intro scan member id locked
    obtain ⟨fresh, found, there, waits⟩ := held.claimed scan member id locked
    have apart : id ≠ row.id := by
      rintro rfl
      rw [free] at there
      cases there
    exact ⟨(count id).trans fresh, found, (rows id apart).trans there, waits⟩
  · exact held.exclusive
  · exact held.started

/-! ## The reminder's transaction -/

/-- A new transaction holds no lock. -/
theorem Reminded.beginScan (held : Reminded world) :
    Reminded { world with
      scans := world.scans ++ [{ txn := world.nextTxn }], nextTxn := world.nextTxn + 1 } := by
  refine ⟨held.once, held.recalled, held.rooted, ?_, ?_, ?_⟩
  · intro scan member id locked
    rcases List.mem_append.mp member with old | new
    · exact held.claimed scan old id locked
    · rw [List.mem_singleton] at new
      subst new
      cases locked
  · intro scan member other member' id locked locked'
    rcases List.mem_append.mp member with old | new
    · rcases List.mem_append.mp member' with old' | new'
      · exact held.exclusive scan old other old' id locked locked'
      · rw [List.mem_singleton] at new'
        subst new'
        cases locked'
    · rw [List.mem_singleton] at new
      subst new
      cases locked
  · intro scan member
    change scan.txn < world.nextTxn + 1
    rcases List.mem_append.mp member with old | new
    · have started := held.started scan old
      omega
    · rw [List.mem_singleton] at new
      subst new
      exact Nat.lt_succ_self _

/-- What the scans hold once a lock was granted. -/
theorem mem_grant {txn : ℕ} {scan : StaleScan} (member : scan ∈ (world.grant txn id).scans) :
    ∃ old ∈ world.scans, scan.txn = old.txn ∧ (∀ row ∈ old.locked, row ∈ scan.locked) ∧
      (old.txn = txn → id ∈ scan.locked) ∧
      ∀ row ∈ scan.locked, row ∈ old.locked ∨ old.txn = txn ∧ row = id := by
  obtain ⟨old, there, rfl⟩ := List.mem_map.mp member
  refine ⟨old, there, ?_⟩
  by_cases own : old.txn = txn
  · rw [if_pos own]
    refine ⟨rfl, fun row member => List.mem_append_left _ member,
      fun _ => List.mem_append_right _ (List.mem_singleton_self id), fun row member => ?_⟩
    rcases List.mem_append.mp member with before | added
    · exact .inl before
    · exact .inr ⟨own, List.mem_singleton.mp added⟩
  · rw [if_neg own]
    exact ⟨rfl, fun _ member => member, fun same => absurd same own, fun _ => .inl⟩

/-- A lock on a row that waits, that nobody else holds and that has not been
reminded of. -/
theorem Reminded.grant (held : Reminded world) {txn : ℕ}
    (free : ∀ scan ∈ world.scans, scan.txn ≠ txn → id ∉ scan.locked)
    (fresh : reminders id world = 0) (waits : Waits world id) : Reminded (world.grant txn id) := by
  refine ⟨held.once, held.recalled, held.rooted, ?_, ?_, ?_⟩
  · intro scan member row locked
    obtain ⟨old, there, -, -, -, within⟩ := mem_grant member
    rcases within row locked with before | ⟨-, rfl⟩
    · exact held.claimed old there row before
    · exact ⟨fresh, waits⟩
  · intro scan member other member' row locked locked'
    obtain ⟨old, there, txn_eq, -, -, within⟩ := mem_grant member
    obtain ⟨old', there', txn_eq', -, -, within'⟩ := mem_grant member'
    have own : ∀ holder ∈ world.scans, id ∈ holder.locked → holder.txn = txn :=
      fun holder present holds => by_contra fun apart => free holder present apart holds
    rw [txn_eq, txn_eq']
    rcases within row locked with before | ⟨mine, rfl⟩
    · rcases within' row locked' with before' | ⟨mine', rfl⟩
      · exact held.exclusive old there old' there' row before before'
      · rw [own old there before, mine']
    · rcases within' row locked' with before' | ⟨mine', -⟩
      · rw [mine, own old' there' before']
      · rw [mine, mine']
  · intro scan member
    obtain ⟨old, there, txn_eq, -⟩ := mem_grant member
    rw [txn_eq]
    exact held.started old there

/-- The reminders of rows that the transaction has locked, each of them once. -/
theorem Reminded.commit (held : Reminded world) {txn : ℕ} {staleExpenses : List StaleExpense}
    (live : ∃ scan ∈ world.scans, scan.txn = txn) (distinct : (staleExpenses.map (·.id)).Nodup)
    (locked : ∀ expense ∈ staleExpenses, Locked world txn expense.id) :
    Reminded ((world.endScan txn).emit
      (staleExpenses.map fun expense => staleEvent expense.id expense.bondId)) := by
  obtain ⟨own, present, mine⟩ := live
  have claimed : ∀ id ∈ staleExpenses.map (·.id), id ∈ own.locked := by
    intro id member
    obtain ⟨expense, there, rfl⟩ := List.mem_map.mp member
    exact (locked expense there).2 own present mine
  have count : ∀ id, reminders id ((world.endScan txn).emit
      (staleExpenses.map fun expense => staleEvent expense.id expense.bondId)) =
      reminders id world + (staleExpenses.map (·.id)).count id := by
    intro id
    rw [reminders_emit, countP_stale]
    rfl
  constructor
  · intro id
    rw [count]
    by_cases member : id ∈ staleExpenses.map (·.id)
    · have fresh := (held.claimed own present id (claimed id member)).1
      have single := List.nodup_iff_count_le_one.mp distinct id
      omega
    · rw [List.count_eq_zero_of_not_mem member]
      exact held.once id
  · intro id reminded waits
    rw [count] at reminded
    rw [remembers_emit, Bool.or_eq_true]
    by_cases member : id ∈ staleExpenses.map (·.id)
    · obtain ⟨expense, there, rfl⟩ := List.mem_map.mp member
      refine .inr (List.any_eq_true.mpr ⟨_, List.mem_map_of_mem there, ?_⟩)
      simp [isStaleOf, isStale, staleEvent]
    · rw [List.count_eq_zero_of_not_mem member] at reminded
      exact .inl (held.recalled id reminded waits)
  · intro id reminded
    rw [count] at reminded
    by_cases member : id ∈ staleExpenses.map (·.id)
    · obtain ⟨-, row, found, -⟩ := held.claimed own present id (claimed id member)
      exact fun missing => by cases found.symm.trans missing
    · rw [List.count_eq_zero_of_not_mem member] at reminded
      exact held.rooted id reminded
  · intro scan member id holds
    obtain ⟨there, other⟩ := List.mem_filter.mp member
    have apart : id ∉ staleExpenses.map (·.id) := by
      intro emitted
      have same := held.exclusive scan there own present id holds (claimed id emitted)
      rw [mine] at same
      simp [same] at other
    rw [count, List.count_eq_zero_of_not_mem apart]
    exact held.claimed scan there id holds
  · intro scan member other member' id
    exact held.exclusive scan (List.mem_of_mem_filter member) other (List.mem_of_mem_filter member') id
  · intro scan member
    exact held.started scan (List.mem_of_mem_filter member)

/-- Locks are only gained, as long as their transaction is open. -/
theorem Holding.of_scans (nextTxn : before.nextTxn ≤ after.nextTxn)
    (scans : ∀ scan ∈ after.scans, scan.txn < before.nextTxn →
      ∃ old ∈ before.scans, scan.txn = old.txn ∧ ∀ row ∈ old.locked, row ∈ scan.locked) :
    Holding before after := by
  rintro txn id ⟨opened, holds⟩
  refine ⟨by omega, fun scan member same => ?_⟩
  obtain ⟨old, there, txn_eq, kept⟩ := scans scan member (by omega)
  exact kept id (holds old there (txn_eq.symm.trans same))

theorem Holding.same (scans : after.scans = before.scans) (nextTxn : after.nextTxn = before.nextTxn) :
    Holding before after :=
  .of_scans (by omega) fun scan member _ => ⟨scan, scans ▸ member, rfl, fun _ => id⟩

theorem Holding.grant (world : World) (txn : ℕ) (id : Uuid) : Holding world (world.grant txn id) :=
  .of_scans (Nat.le_refl _) fun _ member _ =>
    let ⟨old, there, txn_eq, kept, _⟩ := mem_grant member
    ⟨old, there, txn_eq, kept⟩

/-! ## One call of a request -/

/-- The call writes no reminder and lets no expense wait again. -/
def Call.tame : Call → Prop
  | .updateGuarded write =>
      write.patch.status ≠ some .pending ∧ ∀ event ∈ write.event, isStale event = false
  | .commitStale _ _ => False
  | _ => True

theorem tame_of_reads (reads : query.reads) : query.tame := by
  cases query <;> trivial

/-- A lock is refused, or is one on an eligible row that no other transaction holds. -/
theorem lockStale_cases (txn : ℕ) (today : ℤ) (id : Uuid) (world : World) :
    ((lockStale txn today id world).2 = world ∧
      ∀ granted, (lockStale txn today id world).1 ≠ .ok (some granted)) ∨
    ∃ row, world.expenses.get id = some row ∧ eligible today row ∧
      (∃ scan ∈ world.scans, scan.txn = txn) ∧
      (∀ scan ∈ world.scans, scan.txn ≠ txn → id ∉ scan.locked) ∧
      lockStale txn today id world = (.ok (some row.selected), world.grant txn id) := by
  unfold lockStale
  by_cases closed : world.scans.all (·.txn ≠ txn)
  · rw [if_pos closed]
    exact .inl ⟨rfl, nofun⟩
  · rw [if_neg closed]
    by_cases taken : world.scans.any fun scan => scan.txn ≠ txn ∧ id ∈ scan.locked
    · rw [if_pos taken]
      exact .inl ⟨rfl, nofun⟩
    · rw [if_neg taken]
      cases found : (world.expenses.get id).filter (eligible today) with
      | none => exact .inl ⟨rfl, nofun⟩
      | some row =>
        obtain ⟨there, fits⟩ := Option.filter_eq_some_iff.mp found
        exact .inr ⟨row, there, fits, by simpa using closed, by simpa using taken, rfl⟩

/-- The end of a reminder's transaction commits its events, unless the transaction
is no longer open. -/
theorem commitStale_cases (txn : ℕ) (staleExpenses : List StaleExpense) (world : World) :
    commitStale txn staleExpenses world = (.error .fault, world) ∨
    (∃ scan ∈ world.scans, scan.txn = txn) ∧
      commitStale txn staleExpenses world = (.ok (), (world.endScan txn).emit
        (staleExpenses.map fun expense => staleEvent expense.id expense.bondId)) := by
  unfold commitStale
  by_cases closed : world.scans.all (·.txn ≠ txn)
  · rw [if_pos closed]
    exact .inl rfl
  · rw [if_neg closed]
    exact .inr ⟨by simpa using closed, rfl⟩

/-- An eligible row waits, and a lock that loses no reminder is on one that has not
been reminded of. -/
theorem Reminded.locked (held : Reminded world) {row : ExpenseEntity} {txn : ℕ} {today : ℤ}
    (found : world.expenses.get id = some row) (fits : eligible today row)
    (free : ∀ scan ∈ world.scans, scan.txn ≠ txn → id ∉ scan.locked)
    (spares : Spares world (.lockStale txn today id)) : Reminded (world.grant txn id) := by
  have waits : Waits world id := by
    refine ⟨row, found, ?_⟩
    obtain ⟨pending, live, -⟩ : row.status = .pending ∧ row.deletedAt = none ∧
        (parseDay row.expenseDate).any (· ≤ today - 7) := by simpa [eligible] using fits
    simp [ExpenseEntity.waiting, pending, live]
  have forgotten : ¬world.remembers id := spares (by simp [found, fits])
  refine held.grant free (Nat.eq_zero_of_not_pos fun reminded => ?_) waits
  exact forgotten (held.recalled id reminded waits)

/-- Every call of a request, and every call of retention that spares the reminders,
keeps what is known of them, and the locks that are held. -/
theorem Reminded.tame (held : Reminded before) (tame : query.tame) (spares : Spares before query)
    (answers : Answers (expenses config) query before answer after) :
    Holding before after ∧ Reminded after := by
  rcases answers.elim with ⟨-, rfl⟩ | ⟨error, -, -, rfl⟩
  · cases query with
    | insertWithManager input =>
      rcases insertWithManager_cases input before with failed | ⟨table, accepted, written⟩
      · simp only [serve, failed]
        exact ⟨.same rfl rfl, held⟩
      · simp only [serve, written]
        refine ⟨.same rfl rfl, held.open accepted fun event member => ?_⟩
        rw [List.mem_singleton] at member
        subst member
        rfl
    | updateGuarded write =>
      by_cases locked : before.locks write.id
      · simp only [serve, updateGuarded, if_pos locked]
        exact ⟨.same rfl rfl, held⟩
      · rcases updateGuarded_cases write before with failed | missing | ⟨row, there, -, -, written⟩
        · simp only [serve, failed]
          exact ⟨.same rfl rfl, held⟩
        · simp only [serve, missing]
          exact ⟨.same rfl rfl, held⟩
        · simp only [serve, written]
          exact ⟨.same rfl rfl, held.write there (by simpa using locked) tame.1 tame.2⟩
    | beginScan =>
      refine ⟨.of_scans (Nat.le_succ _) fun scan member old => ?_, held.beginScan⟩
      rcases List.mem_append.mp member with there | new
      · exact ⟨scan, there, rfl, fun _ => id⟩
      · rw [List.mem_singleton] at new
        subst new
        exact absurd old (Nat.lt_irrefl _)
    | lockStale txn today id =>
      rcases lockStale_cases txn today id before with ⟨kept, -⟩ | ⟨row, found, fits, -, free, granted⟩
      · simp only [serve, kept]
        exact ⟨.same rfl rfl, held⟩
      · simp only [serve, granted]
        exact ⟨.grant before txn id, held.locked found fits free spares⟩
    | commitStale => cases tame
    | rollbackScan txn => exact ⟨.endScan before txn, held.endScan txn⟩
    | purgeDispatchedBefore cutoff => exact ⟨.same rfl rfl, held.purge spares⟩
    | _ => exact ⟨.same rfl rfl, held.frame rfl rfl (fun _ _ known => known) (fun _ member => member) rfl⟩
  · exact ⟨.same rfl rfl, held⟩

/-- Nothing that happens by itself forgets a reminder. -/
theorem Reminded.nudge (held : Reminded world) (how : Nudge) :
    Reminded (nudge how world) ∧ Holding world (nudge how world) := by
  cases how with
  | dispatch index =>
    refine ⟨held.frame rfl rfl (fun id _ known => ?_) (fun _ member => member) rfl, .same rfl rfl⟩
    obtain ⟨row, member, stale⟩ := List.any_eq_true.mp known
    obtain ⟨at_, bound, rfl⟩ := List.getElem_of_mem member
    have kept : at_ < (world.outbox.modify index fun row =>
        { row with dispatchedAt := some world.clock }).length := by simpa using bound
    refine List.any_eq_true.mpr ⟨_, List.getElem_mem kept, ?_⟩
    rw [List.getElem_modify]
    split <;> exact stale
  | abort txn => exact ⟨held.endScan txn, .endScan world txn⟩
  | _ =>
    exact ⟨held.frame rfl rfl (fun _ _ known => known) (fun _ member => member) rfl, .same rfl rfl⟩

theorem reminded_start : Reminded start :=
  ⟨fun _ => Nat.zero_le 1, nofun, nofun, nofun, nofun, nofun⟩

/-! ## The discipline of the requests -/

/-- No request loses a reminder, and the locks that one holds are not taken from it. -/
def reminding (config : Config) : Discipline (expenses config) where
  inv := Reminded
  rely := Holding
  assumes _ _ event := Spares event.before event.query
  guar _ _ event := Holding event.before event.after

variable {entry : Entry} {past : List (Event (expenses config))} {β : Type}

theorem tame_keeps {handler : Request β} {post : Discipline.Post (expenses config) β}
    (calls : handler.Calls Call.tame) (ends : ∀ result later, post result later) :
    (reminding config).Keeps entry post handler past :=
  .of_calls calls (fun _ tame _ _ _ _ held answers spares => held.tame tame spares answers)
    fun result _ _ => ends result _

theorem tame_of_calls {handler : Request β} (calls : handler.Calls Call.reads) :
    handler.Calls Call.tame := calls.mono fun _ => tame_of_reads

theorem create_tame (bondId : Uuid) (dto : CreateExpenseDto) (viewerId : Uuid) :
    (create bondId dto viewerId).Calls Call.tame := by
  have asked : ∀ query, query.tame → (perform query).Calls Call.tame :=
    fun query tame => Handler.calls_perform.mpr tame
  refine .bind (tame_of_calls (assertBondMember_reads bondId viewerId)) fun _ => ?_
  refine .bind (tame_of_calls (verifyCategoryActive_reads _)) fun category => ?_
  refine .bind (tame_of_calls (parseExpenseDate_reads _)) fun _ => ?_
  refine .bind (asked _ trivial) fun saved => ?_
  refine .bind (.bind (asked _ trivial) fun _ => trivial) fun counterpartId => ?_
  exact .bind (asked _ trivial) fun names => trivial

/-- A write of a request, and the reading after it. -/
theorem written_tame {write : GuardedWrite} {rest : Request β} (tame : Call.tame (.updateGuarded write))
    (more : rest.Calls Call.tame) : ((guardedUpdate write).bind fun applied =>
      if !applied then .throw (conflictException CONFLICT) else rest).Calls Call.tame := by
  refine .bind (Handler.calls_perform.mpr tame) fun applied => ?_
  cases applied with
  | false => trivial
  | true => exact more

theorem update_tame (id : Uuid) (dto : UpdateExpenseDto) (viewerId : Uuid) :
    (update id dto viewerId).Calls Call.tame := by
  refine .bind (tame_of_calls (loadForViewer_reads id viewerId)) fun viewed => ?_
  split
  · trivial
  · dsimp only
    split
    · trivial
    · refine .bind (tame_of_calls (verifyPatch_reads _)) fun _ => ?_
      exact written_tame ⟨nofun, nofun⟩ (tame_of_calls (getDetail_reads id viewerId))

theorem cancel_tame (id viewerId : Uuid) : (cancel id viewerId).Calls Call.tame := by
  refine .bind (tame_of_calls (loadForViewer_reads id viewerId)) fun viewed => ?_
  split
  · trivial
  · refine .bind (Handler.calls_perform.mpr trivial) fun now => ?_
    exact written_tame ⟨nofun, nofun⟩ trivial

/-- No change of status is announced as a reminder. -/
theorem isStale_status (status : NextStatus) (id bondId actorId : Uuid) :
    isStale (expenseEvent (EXPENSE_STATUS_EVENT status) id bondId status actorId) = false := by
  obtain ⟨status, later⟩ := status
  cases status with
  | pending => exact absurd rfl later
  | approved => rfl
  | rejected => rfl
  | paid => rfl

theorem transition_tame (params : TransitionParams) : (transition params).Calls Call.tame := by
  refine .bind (tame_of_calls (loadForViewer_reads _ _)) fun viewed => ?_
  split
  · trivial
  · refine written_tame ⟨fun same => params.nextStatus.2 (Option.some.inj same), ?_⟩
      (tame_of_calls (getDetail_reads _ _))
    intro event announced
    cases announced
    exact isStale_status _ _ _ _

theorem retention_tame : (retention config).Calls Call.tame := by
  refine .bind (Handler.calls_perform.mpr trivial) fun now => ?_
  refine .bind (Handler.calls_perform.mpr trivial) fun purgedAttempts => ?_
  exact .bind (Handler.calls_perform.mpr trivial) fun purgedOutbox => trivial

/-- The locks of the snapshot's rows: what was granted is locked ever after, and no
row is granted twice. -/
theorem lockAll_keeps {txn : ℕ} {today : ℤ} {candidates : List StaleExpense}
    {post : Discipline.Post (expenses config) (List StaleExpense)}
    (granted : ∀ staleExpenses later, past <:+ later →
      (staleExpenses.map (·.id)).Sublist (candidates.map (·.id)) →
      (∀ expense ∈ staleExpenses, ∃ event ∈ later, Locked event.after txn expense.id) →
      post (.ok staleExpenses) later)
    (fails : ∀ error later, post (.error error) later) :
    (reminding config).Keeps entry post (lockAll txn today candidates) past := by
  induction candidates generalizing past post with
  | nil => exact granted [] past List.suffix_rfl (List.Sublist.refl _) (by simp)
  | cons candidate rest ih =>
    refine .perform_bind fun before answer after behind held answers spares => ?_
    have tame : Call.tame (.lockStale txn today candidate.id) := trivial
    obtain ⟨holding, kept⟩ := held.tame tame spares answers
    refine ⟨holding, kept, ?_⟩
    cases answer with
    | error error => exact fails _ _
    | ok locked =>
      refine .bind (ih (fun staleExpenses later grown among known => ?_) fun error later => fails _ _)
      have back : past <:+ later := (List.suffix_cons _ _).trans grown
      cases locked with
      | none => exact granted _ later back (among.cons _) known
      | some row =>
        rcases answers.elim with ⟨served, moved⟩ | ⟨error, -, never, -⟩
        · rcases lockStale_cases txn today candidate.id before with
            ⟨-, none_⟩ | ⟨found, there, -, ⟨scan, present, own⟩, -, written⟩
          · exact absurd served.symm (none_ row)
          · simp only [serve, written] at served moved
            cases served
            have key : found.id = candidate.id := Table.key_of_get there
            have open_ : txn < after.nextTxn := by
              rw [moved, ← own]
              exact held.started scan present
            have mine : Locked after txn candidate.id := by
              refine ⟨open_, fun scan' member same => ?_⟩
              rw [moved] at member
              obtain ⟨old, -, txn_eq, -, gained, -⟩ := mem_grant member
              exact gained (txn_eq.symm.trans same)
            refine granted _ later back ?_ fun expense member => ?_
            · simpa [ExpenseEntity.selected, key] using among
            · rcases List.mem_cons.mp member with rfl | old
              · exact ⟨_, grown.subset (List.mem_cons_self ..), key ▸ mine⟩
              · exact known expense old
        · cases never

/-- The transaction commits reminders of rows that it has locked and still holds. -/
theorem commitStale_keeps {txn : ℕ} {staleExpenses : List StaleExpense}
    {post : Discipline.Post (expenses config) Unit} (distinct : (staleExpenses.map (·.id)).Nodup)
    (locked : ∀ expense ∈ staleExpenses, ∃ event ∈ past, Locked event.after txn expense.id)
    (ends : ∀ result later, post result later) :
    (reminding config).Keeps entry post (perform (.commitStale txn staleExpenses)) past := by
  refine .perform fun before answer after behind held answers _ => ?_
  rcases answers.elim with ⟨-, rfl⟩ | ⟨error, -, -, rfl⟩
  · rcases commitStale_cases txn staleExpenses before with failed | ⟨live, written⟩
    · simp only [serve, failed]
      exact ⟨.same rfl rfl, held, ends _ _⟩
    · simp only [serve, written]
      refine ⟨.endScan before txn, held.commit live distinct fun expense member => ?_, ends _ _⟩
      obtain ⟨event, there, mine⟩ := locked expense member
      exact (behind event there).2 txn expense.id mine
  · exact ⟨.same rfl rfl, held, ends _ _⟩

/-- The rows of a snapshot have distinct keys. -/
theorem selectStale_distinct (today : ℤ) (world : World) :
    ((selectStale today world).map (·.id)).Nodup := by
  have rows : (selectStale today world).map (·.id) = (world.expenses.rows.filter fun row =>
      eligible today row && !world.remembers row.id).map (·.id) := by
    simp [selectStale, ExpenseEntity.selected]
  rw [rows]
  exact (List.filter_sublist.map _).nodup world.expenses.unique

theorem emitStaleEvents_spares {post : Discipline.Post (expenses config) ℕ}
    (ends : ∀ result later, post result later) :
    (reminding config).Keeps entry post emitStaleEvents past := by
  refine .perform_bind fun before answer after behind held answers spares => ?_
  have tame : Call.tame .beginScan := trivial
  obtain ⟨holding, kept⟩ := held.tame tame spares answers
  refine ⟨holding, kept, ?_⟩
  cases answer with
  | error error => exact ends _ _
  | ok opened =>
    obtain ⟨txn, today⟩ := opened
    -- Whatever fails inside the transaction is rolled back and thrown on.
    have fails : ∀ error later, (reminding config).Keeps entry post
        ((perform (.rollbackScan txn)).bind fun _ => .throw error) later := fun error later =>
      tame_keeps (.bind (Handler.calls_perform.mpr trivial) fun _ => trivial) ends
    refine .tryCatch (.perform_bind fun before' answer' after' behind' held' answers' spares' => ?_)
    have tame' : Call.tame (.selectStale today) := trivial
    obtain ⟨holding', kept'⟩ := held'.tame tame' spares' answers'
    refine ⟨holding', kept', ?_⟩
    cases answer' with
    | error error => exact fails error _
    | ok candidates =>
      have distinct : (candidates.map (·.id)).Nodup := by
        rcases answers'.elim with ⟨served, -⟩ | ⟨error, -, never, -⟩
        · cases served
          exact selectStale_distinct today before'
        · cases never
      refine .bind (lockAll_keeps (fun staleExpenses later grown among known => ?_) fails)
      refine .bind (commitStale_keeps (among.nodup distinct) known fun result later => ?_)
      cases result with
      | ok value => exact ends _ _
      | error error => exact fails error later

theorem processStaleReminder_spares {post : Discipline.Post (expenses config) Unit}
    (ends : ∀ result later, post result later) :
    (reminding config).Keeps entry post processStaleReminder past := by
  refine .tryCatch (.bind (emitStaleEvents_spares fun result later => ?_))
  cases result <;> exact ends _ _

theorem handler_spares (entry : Entry) :
    (reminding config).Keeps entry (fun _ _ => True) (handler config entry) [] := by
  have tame : ∀ {β : Type} {handler : Request β} {answer : β → Reply}, handler.Calls Call.tame →
      (reminding config).Keeps entry (fun _ _ => True)
        (handler.bind fun value => .ret (answer value)) [] := fun calls =>
    tame_keeps (.bind calls fun _ => trivial) fun _ _ => trivial
  cases entry with
  | create bondId dto viewerId => exact tame (create_tame bondId dto viewerId)
  | getDetail id viewerId => exact tame (tame_of_calls (getDetail_reads id viewerId))
  | update id dto viewerId => exact tame (update_tame id dto viewerId)
  | cancel id viewerId => exact tame_keeps (cancel_tame id viewerId) fun _ _ => trivial
  | approve id viewerId =>
    exact tame (.bind (Handler.calls_perform.mpr trivial) fun now => transition_tame _)
  | reject id viewerId rawReason => exact tame (transition_tame _)
  | pay id viewerId =>
    exact tame (.bind (Handler.calls_perform.mpr trivial) fun now => transition_tame _)
  | staleReminder =>
    refine .bind (processStaleReminder_spares fun result later => ?_)
    cases result <;> trivial
  | retention => exact tame retention_tame

theorem reminding_sound (config : Config) : (reminding config).Sound where
  refl _ _ _ locked := locked
  trans first second txn id locked := second txn id (first txn id locked)
  start := reminded_start
  nudge how _ held := held.nudge how
  guar_rely _ holding := holding
  handlers := handler_spares

theorem reminding_supplied : (reminding config).Supplies Spared := by
  intro cfg move thread event rest run spared acts
  simp only [Spared, acts] at spared
  exact spared

/-! ## How often an expense is reminded of -/

variable {cfg : Interleaving.Config (expenses config)}

/-- In every run whose calls lose no reminder, every expense is reminded of at most
once. -/
theorem reminded_at_most_once (run : Run (expenses config) Spared cfg) (id : Uuid) :
    reminders id cfg.world ≤ 1 :=
  (run.disciplined (reminding_sound config) reminding_supplied).1.once id

def reminder (index : ℕ) : List (Move (expenses defaults)) := .arrive .staleReminder :: turns index 4

/-- The retention pass of a month later. -/
def retained (index : ℕ) : List (Move (expenses defaults)) :=
  [.nudge (.dispatch 1), .nudge (.tick 2678400000), .arrive .retention] ++ turns index 3

/-- `u1` asks for an expense, and eight days later `u2` is reminded of it. -/
def remindedOnce : List (Move (expenses defaults)) :=
  creation ++ [.nudge (.tick 691200000)] ++ reminder 1

/-- Reminded of, approved, forgotten, and looked for again. -/
theorem reminded_at_most_once_approved : ∃ cfg : Interleaving.Config (expenses defaults),
    Run (expenses defaults) Spared cfg ∧ reminders "e1" cfg.world = 1 ∧
      cfg.world.remembers "e1" = false := by
  obtain ⟨cfg, run, shown⟩ := exists_played Spared
    (remindedOnce ++ .arrive (.approve "e1" "u2") :: turns 2 12 ++ retained 3 ++
      .arrive .staleReminder :: turns 4 3)
    (fun cfg => 0 < reminders "e1" cfg.world && !cfg.world.remembers "e1") (by decide +kernel)
  have once := reminded_at_most_once run "e1"
  have shown : 0 < reminders "e1" cfg.world ∧ cfg.world.remembers "e1" = false := by
    simpa using shown
  exact ⟨cfg, run, by omega, shown.2⟩

/-- An expense that is pending for longer than the events are retained is reminded
of again. -/
theorem reminded_twice : ¬∀ (cfg : Interleaving.Config (expenses defaults)) (id : Uuid),
    Reachable (expenses defaults) cfg → reminders id cfg.world ≤ 1 := by
  intro always
  obtain ⟨cfg, run, shown⟩ := exists_played (fun _ _ => True)
    (remindedOnce ++ retained 2 ++ reminder 3) (fun cfg => reminders "e1" cfg.world = 2)
    (by decide +kernel)
  have once := always cfg "e1" run
  have twice : reminders "e1" cfg.world = 2 := by simpa using shown
  omega

/-- So does a reminder that takes its snapshot before another one commits, and its
locks after. -/
example : (play (fun _ _ => True) (creation ++ [.nudge (.tick 691200000)] ++
    .arrive .staleReminder :: turns 1 2 ++ reminder 2 ++ turns 1 2)
    ⟨(expenses defaults).start, []⟩).any (fun cfg => reminders "e1" cfg.world = 2) = true := by
  decide +kernel

end ParentalCoord.Expenses
