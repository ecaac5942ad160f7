import ParentalCoord.Admin.Service
import ParentalCoord.Interleaving.Discipline

/-!
What a bond needs, and who keeps it.

A bond is created with two members and a child.  Later a member is added after a look whether
the user is one already, with nothing in between that would hold off another request; and the
removal of a child does not look at the others.  A request that creates a bond reads it again
once it is there, and fails when this read does.
-/

namespace ParentalCoord.Admin

open Bonds Interleaving Store

/-- A bond has two members at least, none of them twice, and a child. -/
structure WellFormed (world : World) (bondId : Uuid) : Prop where
  members : 2 ≤ (world.membersOf bondId).length
  apart : ((world.membersOf bondId).map (·.userId)).Nodup
  child : world.childrenOf bondId ≠ []

/-- No row of a bond, of a member or of a child is different. -/
structure SameRows (before after : World) : Prop where
  bonds : after.bonds = before.bonds
  members : after.members = before.members
  children : after.children = before.children

/-- No event has written a row. -/
def Quiet (past : List (Event admin)) : Prop := ∀ event ∈ past, SameRows event.before event.after

def Entry.creates : Entry → Bool
  | .createBond _ => true
  | _ => false

/-- A request to create a bond that has failed has written no row. -/
def CleanFailures (cfg : Config admin) : Prop :=
  ∀ thread ∈ cfg.threads, thread.entry.creates → ∀ error, thread.rest = .throw error → Quiet thread.past

/-- Every bond is as it has to be, and so is what failed. -/
structure BondsWellFormed (cfg : Config admin) : Prop where
  bonds : ∀ bond ∈ cfg.world.bonds.rows, WellFormed cfg.world bond.id
  failures : CleanFailures cfg

/-! ## The steps that keep it -/

def Call.enriches : Call → Bool
  | .findBondEnriched _ => true
  | _ => false

/-- The user is a member of the bond. -/
def World.joined (world : World) (bondId userId : Uuid) : Bool :=
  world.members.rows.any fun member => member.bondId = bondId && member.userId = userId

/-- A child goes where another one stays, a member comes who is none yet, and the answer to
the creation of a bond comes back. -/
def World.spares (world : World) : Call → Bool
  | .removeChild child => (world.children.get child.id).all fun row =>
      world.children.rows.any fun other => other.bondId = row.bondId && other.id ≠ row.id
  | .createMember bondId userId => !world.joined bondId userId ||
      ((world.generate 1).commit { members := [world.newMember bondId userId 0] }).isNone
  | .commit tx => world.surroundings.acknowledges || (world.commit tx).isNone
  | _ => true

/-- Every call that is served is such a one, and the read of a bond that was created does not fail. -/
def SparesBonds (cfg : Config admin) (move : Move admin) : Bool :=
  match move, cfg.acts move with
  | .turn _, some (_, event, _) => event.before.spares event.query
  | .fault _, some (thread, event, _) => !(thread.entry.creates && event.query.enriches)
  | _, _ => true

/-! ## What a write does -/

variable {world after : World} {tx : Transaction} {bondId : Uuid} {query : Call}

/-- What holds of the rows between any two calls. -/
structure RowsWellFormed (world : World) : Prop where
  bonds : ∀ bond ∈ world.bonds.rows, WellFormed world bond.id
  refers : world.refers = true

theorem SameRows.refl (world : World) : SameRows world world := ⟨rfl, rfl, rfl⟩

theorem refers_iff : world.refers = true ↔
    (∀ member ∈ world.members.rows,
      (world.bonds.get member.bondId).isSome ∧ (world.users.get member.userId).isSome) ∧
    ∀ child ∈ world.children.rows, (world.bonds.get child.bondId).isSome := by
  simp [World.refers]

/-- What a bond needs depends on the rows of its members and of its children. -/
theorem WellFormed.of_eq (formed : WellFormed world bondId)
    (members : after.membersOf bondId = world.membersOf bondId)
    (children : after.childrenOf bondId = world.childrenOf bondId) : WellFormed after bondId :=
  ⟨members ▸ formed.members, members ▸ formed.apart, children ▸ formed.child⟩

theorem RowsWellFormed.of_same (sound : RowsWellFormed world) (same : SameRows world after)
    (users : ∀ id, (world.users.get id).isSome → (after.users.get id).isSome) : RowsWellFormed after := by
  have rows : ∀ bondId, after.membersOf bondId = world.membersOf bondId ∧
      after.childrenOf bondId = world.childrenOf bondId := by
    intro bondId
    unfold World.membersOf World.childrenOf
    rw [same.members, same.children]
    exact ⟨rfl, rfl⟩
  refine ⟨fun bond there => ?_, ?_⟩
  · rw [same.bonds] at there
    exact (sound.bonds bond there).of_eq (rows _).1 (rows _).2
  · obtain ⟨members, children⟩ := refers_iff.mp sound.refers
    rw [refers_iff, same.bonds, same.members, same.children]
    exact ⟨fun member there => ⟨(members member there).1, users _ (members member there).2⟩, children⟩

/-- A commit adds the rows of its transaction, to which every key then refers. -/
theorem commit_eq (done : world.commit tx = some after) :
    after.bonds.rows = world.bonds.rows ++ tx.bonds ∧
    after.members.rows = world.members.rows ++ tx.members ∧
    after.children.rows = world.children.rows ++ tx.children ∧ after.refers = true := by
  obtain ⟨bonds, bonded, done⟩ := Option.bind_eq_some_iff.mp done
  obtain ⟨members, joined, done⟩ := Option.bind_eq_some_iff.mp done
  obtain ⟨children, born, done⟩ := Option.bind_eq_some_iff.mp done
  dsimp only at done
  split at done
  · rename_i refers
    cases done
    exact ⟨Table.rows_of_inserted bonded, Table.rows_of_inserted joined, Table.rows_of_inserted born, refers⟩
  · cases done

/-- A transaction that leaves every bond with what it needs. -/
structure WholeBonds (world : World) (tx : Transaction) : Prop where
  apart : ∀ bondId, ((tx.members.filter (·.bondId = bondId)).map (·.userId)).Nodup
  joins : ∀ member ∈ tx.members, world.joined member.bondId member.userId = false
  whole : ∀ bond ∈ tx.bonds, 2 ≤ (tx.members.filter (·.bondId = bond.id)).length ∧
    ∃ child ∈ tx.children, child.bondId = bond.id

theorem not_joined {userId : Uuid} : world.joined bondId userId = false ↔
    ∀ member ∈ world.members.rows, member.bondId = bondId → member.userId ≠ userId := by
  simp [World.joined]

/-- A bond has no member, and no child, before it is there. -/
theorem RowsWellFormed.absent (sound : RowsWellFormed world) (absent : world.bonds.get bondId = none) :
    world.membersOf bondId = [] ∧ world.childrenOf bondId = [] := by
  obtain ⟨members, children⟩ := refers_iff.mp sound.refers
  constructor
  · refine List.filter_eq_nil_iff.mpr fun member there same => ?_
    have known := (members member there).1
    rw [of_decide_eq_true same, absent] at known
    cases known
  · refine List.filter_eq_nil_iff.mpr fun child there same => ?_
    have known := children child there
    rw [of_decide_eq_true same, absent] at known
    cases known

theorem RowsWellFormed.commit (sound : RowsWellFormed world) (fits : WholeBonds world tx)
    (done : world.commit tx = some after) : RowsWellFormed after := by
  obtain ⟨bonds, members, children, refers⟩ := commit_eq done
  have membersOf (bondId : Uuid) : after.membersOf bondId =
      world.membersOf bondId ++ tx.members.filter (·.bondId = bondId) := by
    rw [World.membersOf, members, List.filter_append]
    rfl
  have childrenOf (bondId : Uuid) : after.childrenOf bondId =
      world.childrenOf bondId ++ tx.children.filter (·.bondId = bondId) := by
    rw [World.childrenOf, children, List.filter_append]
    rfl
  refine ⟨fun bond there => ?_, refers⟩
  have distinct (apart : ((world.membersOf bond.id).map (·.userId)).Nodup) :
      ((after.membersOf bond.id).map (·.userId)).Nodup := by
    rw [membersOf, List.map_append, List.nodup_append]
    refine ⟨apart, fits.apart bond.id, fun userId old other new same => ?_⟩
    obtain ⟨member, known, rfl⟩ := List.mem_map.mp old
    obtain ⟨added, joins, rfl⟩ := List.mem_map.mp new
    simp only [World.membersOf, List.mem_filter, decide_eq_true_eq] at known joins
    exact not_joined.mp (fits.joins added joins.1) member known.1 (known.2.trans joins.2.symm) same
  rw [bonds, List.mem_append] at there
  rcases there with old | new
  · have formed := sound.bonds bond old
    refine ⟨?_, distinct formed.apart, ?_⟩
    · rw [membersOf, List.length_append]
      exact Nat.le_add_right_of_le formed.members
    · rw [childrenOf]
      exact List.append_ne_nil_of_left_ne_nil formed.child _
  · obtain ⟨two, child, born, own⟩ := fits.whole bond new
    have stray : ((world.membersOf bond.id).map (·.userId)).Nodup := by
      cases found : world.bonds.get bond.id with
      | none =>
        rw [(sound.absent found).1]
        exact List.nodup_nil
      | some known =>
        have own := Table.key_of_get found
        rw [← own]
        exact (sound.bonds known (Table.mem_of_get found)).apart
    refine ⟨?_, distinct stray, ?_⟩
    · rw [membersOf, List.length_append]
      exact Nat.le_add_left_of_le two
    · rw [childrenOf]
      refine List.append_ne_nil_of_right_ne_nil _ (List.ne_nil_of_mem (List.mem_filter.mpr ⟨born, ?_⟩))
      exact decide_eq_true own

theorem RowsWellFormed.saveBond {loaded : LoadedBond} (sound : RowsWellFormed world)
    (done : world.saveBond loaded = some after) : RowsWellFormed after := by
  unfold World.saveBond at done
  split at done
  · cases done
    refine ⟨fun bond there => ?_, ?_⟩
    · obtain ⟨old, known, same⟩ := List.mem_map.mp there
      have own : bond.id = old.id := by
        rw [← same]
        split <;> simp [*]
      rw [own]
      exact (sound.bonds old known).of_eq rfl rfl
    · have kept (bondId : Uuid) := @Table.isSome_get_put _ _ _ _ world.bonds loaded.bond bondId
      obtain ⟨members, children⟩ := refers_iff.mp sound.refers
      rw [refers_iff]
      refine ⟨fun member there => ⟨?_, (members member there).2⟩, fun child there => ?_⟩
      · exact (kept member.bondId).trans (members member there).1
      · exact (kept child.bondId).trans (children child there)
  · cases done

/-- Children that go from the table leave every bond what it needs, when each bond has one after it. -/
theorem RowsWellFormed.of_children (sound : RowsWellFormed world) (bonds : after.bonds = world.bonds)
    (members : after.members = world.members) (users : after.users = world.users)
    (children : ∀ child ∈ after.children.rows, ∃ old ∈ world.children.rows, child.bondId = old.bondId)
    (stay : ∀ child ∈ world.children.rows, ∃ other ∈ after.children.rows, other.bondId = child.bondId) :
    RowsWellFormed after := by
  refine ⟨fun bond there => ?_, ?_⟩
  · rw [bonds] at there
    have formed := sound.bonds bond there
    have same : after.membersOf bond.id = world.membersOf bond.id := by
      rw [World.membersOf, members]
      rfl
    obtain ⟨child, own⟩ := List.exists_mem_of_ne_nil _ formed.child
    obtain ⟨born, mine⟩ := List.mem_filter.mp own
    obtain ⟨other, stays, theirs⟩ := stay child born
    refine ⟨same ▸ formed.members, same ▸ formed.apart, List.ne_nil_of_mem (List.mem_filter.mpr ⟨stays, ?_⟩)⟩
    rw [theirs]
    exact mine
  · obtain ⟨known, theirs⟩ := refers_iff.mp sound.refers
    rw [refers_iff, bonds, members, users]
    refine ⟨known, fun child there => ?_⟩
    obtain ⟨old, was, same⟩ := children child there
    rw [same]
    exact theirs old was

theorem RowsWellFormed.removeChild {child : StoredChild} (sound : RowsWellFormed world)
    (spares : world.spares (.removeChild child)) : RowsWellFormed (world.removeChild child) := by
  refine sound.of_children rfl rfl rfl (fun old there => ⟨old, List.mem_of_mem_filter there, rfl⟩) ?_
  intro old there
  by_cases goes : old.id = child.id
  · have found := Table.get_of_mem there
    simp only [World.spares, ← goes, found, Option.all_some, List.any_eq_true, Bool.and_eq_true,
      decide_eq_true_eq] at spares
    obtain ⟨other, stays, theirs, apart⟩ := spares
    exact ⟨other, List.mem_filter.mpr ⟨stays, by simpa [← goes] using apart⟩, theirs⟩
  · exact ⟨old, List.mem_filter.mpr ⟨there, by simpa using goes⟩, rfl⟩

/-- A transaction of children fits, where there are no others to come. -/
theorem fits_children (world : World) (children : List StoredChild) : WholeBonds world { children := children } :=
  ⟨fun _ => List.nodup_nil, nofun, nofun⟩

theorem RowsWellFormed.saveChild {child : StoredChild} (sound : RowsWellFormed world)
    (done : world.saveChild child = some after) : RowsWellFormed after := by
  unfold World.saveChild at done
  split at done
  · rename_i row found
    cases done
    have own := Table.key_of_get found
    let written : StoredChild := { child with bondId := row.bondId }
    have rows (other : StoredChild) := @Table.mem_put_iff _ _ _ _ world.children written row found other
    refine sound.of_children rfl rfl rfl (fun other there => ?_) fun old there => ?_
    · rcases (rows other).mp there with rfl | ⟨old, -⟩
      · exact ⟨row, Table.mem_of_get found, rfl⟩
      · exact ⟨other, old, rfl⟩
    · by_cases same : old.id = child.id
      · have again := Table.get_of_mem there
        rw [same, found, Option.some.injEq] at again
        exact ⟨written, (rows written).mpr (.inl rfl), by rw [← again]⟩
      · exact ⟨old, (rows old).mpr (.inr ⟨there, same⟩), rfl⟩
  · exact sound.commit (fits_children _ _) done

/-- What is answered is done, or refused. -/
theorem answered_cases {α : Type} {value : α} (holds : World → Prop) {result : Option World}
    (kept : holds world) (done : ∀ after, result = some after → holds after) :
    holds (world.answered value result).2 := by
  cases result with
  | none => exact kept
  | some after => exact done after rfl

theorem fits_member {userId : Uuid} {row : BondMemberEntity} (same : row.bondId = bondId ∧ row.userId = userId)
    (joins : world.joined bondId userId = false) : WholeBonds world { members := [row] } := by
  refine ⟨fun other => ?_, fun member there => ?_, nofun⟩
  · rw [List.filter_cons, List.filter_nil]
    split <;> simp
  · rw [List.mem_singleton.mp there, same.1, same.2]
    exact joins

theorem RowsWellFormed.generate (sound : RowsWellFormed world) (count : ℕ) : RowsWellFormed (world.generate count) :=
  sound.of_same ⟨rfl, rfl, rfl⟩ fun _ there => there

/-- **One call.** Every bond keeps what it needs, when the call spares it. -/
theorem RowsWellFormed.serve (sound : RowsWellFormed world) (spares : world.spares query)
    (fits : ∀ tx, query = .commit tx → ∀ after, world.commit tx = some after → WholeBonds world tx) :
    RowsWellFormed (Admin.serve query world).2 := by
  cases query with
  | commit tx =>
    exact answered_cases RowsWellFormed sound fun after done => sound.commit (fits tx rfl after done) done
  | managerSaveBond title agreementType => exact sound.generate 1
  | managerSaveMembers tx bondId userIds => exact sound.generate _
  | managerSaveChildren tx bondId children => exact sound.generate _
  | saveBond loaded => exact answered_cases RowsWellFormed sound fun after done => sound.saveBond done
  | createMember bondId userId =>
    have counted := sound.generate 1
    refine answered_cases RowsWellFormed counted fun after done => counted.commit (fits_member ⟨rfl, rfl⟩ ?_) done
    have new : world.joined bondId userId = false := by simpa [World.spares, done] using spares
    exact new
  | createChild bondId dto =>
    have counted := sound.generate 1
    exact answered_cases RowsWellFormed counted fun after done => counted.commit (fits_children _ _) done
  | saveChild child => exact answered_cases RowsWellFormed sound fun after done => sound.saveChild done
  | removeChild child =>
    refine answered_cases RowsWellFormed sound fun after done => ?_
    cases done
    exact sound.removeChild spares
  | findByIds _ => exact sound
  | findBondEnriched _ => exact sound
  | findBond _ => exact sound
  | findUser _ => exact sound
  | findOneByBondAndUser _ _ => exact sound
  | findChild _ => exact sound

end ParentalCoord.Admin
