import ParentalCoord.Exceptions
import ParentalCoord.Store.Table

/-!
Who is a member of a bond, by the two queries that are asked for it.

One query tells whether a user is an active member of a bond that is active.  The other
lists the bonds of a user with all that a client shows of them, and whoever asks it for a
membership looks for the bond in the list.  Its joins are those of the list: a bond that
has nothing to show for one of the inner joins is not in it.
-/

namespace ParentalCoord.Bonds

open Store

structure BondEntity where
  id : Uuid
  courtCaseRef : Option String
  isActive : Bool
  createdAt : Instant

structure BondMemberEntity where
  id : Uuid
  bondId : Uuid
  userId : Uuid
  role : String
  joinedAt : Option Instant
  leftAt : Option Instant
  deriving DecidableEq

structure ChildEntity where
  id : Uuid
  bondId : Uuid
  firstName : String
  lastName : String
  dateOfBirth : Option String
  deriving DecidableEq

structure UserEntity where
  id : Uuid
  systemRole : String
  deriving DecidableEq

structure PersonalDataEntity where
  userId : Uuid
  firstName : String
  lastName : String
  avatarUrl : Option String
  deriving DecidableEq

structure Database where
  bonds : Table BondEntity.id
  members : Table BondMemberEntity.id
  children : Table ChildEntity.id
  users : Table UserEntity.id
  personalData : Table PersonalDataEntity.userId

/-! ## The list of a user -/

/-- What a left join has on its right: the rows, or once nothing. -/
def outer {α : Type} (rows : List α) : List (Option α) := if rows.isEmpty then [none] else rows.map some

/-- A row of the joined tables. -/
structure BondRow where
  bond : BondEntity
  member : Option BondMemberEntity
  user : Option UserEntity
  personalData : Option PersonalDataEntity
  child : ChildEntity

/-- The members of a bond that have not left. -/
def Database.activeMembers (db : Database) (bondId : Uuid) : List BondMemberEntity :=
  db.members.rows.filter fun member => member.bondId = bondId ∧ member.leftAt = none

/-- The rows for one bond: an inner join with the memberships of the user and with the
children, and left joins with the members, their users and the data of these. -/
def Database.joined (db : Database) (userId : Uuid) (bond : BondEntity) : List BondRow :=
  ((db.activeMembers bond.id).filter (·.userId = userId)).flatMap fun _ =>
    (outer (db.activeMembers bond.id)).flatMap fun member =>
      (outer (db.users.rows.filter fun user => member.any (·.userId = user.id))).flatMap fun user =>
        (outer (db.personalData.rows.filter fun data => user.any (·.id = data.userId))).flatMap
          fun personalData =>
            (db.children.rows.filter (·.bondId = bond.id)).map fun child =>
              ⟨bond, member, user, personalData, child⟩

/-- A bond as it is read, with the members and the children of its rows. -/
structure LoadedBond where
  bond : BondEntity
  members : List (BondMemberEntity × Option UserEntity × Option PersonalDataEntity)
  children : List ChildEntity

/-- One entity for the rows of one bond; without a row there is none. -/
def hydrate (rows : List BondRow) : Option LoadedBond :=
  rows.head?.map fun first =>
    { bond := first.bond
      members := (rows.filterMap fun row => row.member.map (·, row.user, row.personalData)).eraseDups
      children := (rows.map (·.child)).eraseDups }

/-- `bonds.repository.ts::findBondsByUserId`: active bonds, the latest first. -/
def BondsRepository.findBondsByUserId (db : Database) (userId : Uuid) : List LoadedBond :=
  ((db.bonds.rows.filter (·.isActive)).mergeSort fun a b => b.createdAt ≤ a.createdAt).filterMap
    fun bond => hydrate (db.joined userId bond)

def BondsRepository.existsActiveBondForMember (db : Database) (bondId userId : Uuid) : Bool :=
  db.bonds.rows.any fun bond => bond.id = bondId && bond.isActive &&
    db.members.rows.any fun member =>
      member.bondId = bondId && member.userId = userId && member.leftAt.isNone

structure BondMemberUserDto where
  id : Uuid
  systemRole : String
  firstName : Option String
  lastName : Option String
  avatarUrl : Option String

structure BondMemberResponseDto where
  id : Uuid
  role : String
  joinedAt : Option Instant
  user : Option BondMemberUserDto

structure BondChildResponseDto where
  id : Uuid
  firstName : String
  lastName : String
  dateOfBirth : Option String

structure BondResponseDto where
  id : Uuid
  courtCaseRef : Option String
  isActive : Bool
  members : List BondMemberResponseDto
  children : List BondChildResponseDto

def userDto (user : UserEntity) (data : Option PersonalDataEntity) : BondMemberUserDto where
  id := user.id
  systemRole := user.systemRole
  firstName := data.map (jsTrim ·.firstName)
  lastName := data.map (jsTrim ·.lastName)
  avatarUrl := data.bind (·.avatarUrl)

def responseDto (loaded : LoadedBond) : BondResponseDto where
  id := loaded.bond.id
  courtCaseRef := loaded.bond.courtCaseRef
  isActive := loaded.bond.isActive
  members := loaded.members.map fun (member, user, data) =>
    { id := member.id
      role := member.role
      joinedAt := member.joinedAt
      user := user.map (userDto · data) }
  children := loaded.children.map fun child =>
    ⟨child.id, child.firstName, child.lastName, child.dateOfBirth⟩

def BondsService.findByUserId (db : Database) (userId : Uuid) : List BondResponseDto :=
  (BondsRepository.findBondsByUserId db userId).map responseDto

def BondsService.isActiveBondForMember (db : Database) (bondId userId : Uuid) : Bool :=
  BondsRepository.existsActiveBondForMember db bondId userId

/-- `bonds.some((b) => b.id === bondId)`. -/
def isMember (bonds : List BondResponseDto) (bondId : Uuid) : Bool := bonds.any (·.id = bondId)

/-- `AdminService.removeChild`. -/
def AdminService.removeChild (db : Database) (childId : Uuid) : Except Exception Database :=
  match db.children.get childId with
  | none => .error (notFoundException ("Child " ++ childId ++ " not found"))
  | some child => .ok { db with children := db.children.filter (·.id ≠ child.id) }

/-! ## When the two agree -/

variable {db : Database} {bondId userId : Uuid} {bond : BondEntity}

theorem outer_ne_nil {α : Type} (rows : List α) : outer rows ≠ [] := by
  cases rows <;> simp [outer]

/-- The bond has a child. -/
def Database.HasChild (db : Database) (bondId : Uuid) : Prop :=
  ∃ child ∈ db.children.rows, child.bondId = bondId

/-- The user has a membership of the bond that has not ended. -/
def Database.HasMember (db : Database) (bondId userId : Uuid) : Prop :=
  ∃ member ∈ db.members.rows, member.bondId = bondId ∧ member.userId = userId ∧ member.leftAt = none

/-- The bond is there and active. -/
def Database.HasActive (db : Database) (bondId : Uuid) : Prop :=
  ∃ bond ∈ db.bonds.rows, bond.id = bondId ∧ bond.isActive = true

theorem flatMap_eq_nil_of_outer {α β : Type} {rows : List α} {f : Option α → List β}
    (empty : (outer rows).flatMap f = []) : ∃ value, f value = [] := by
  obtain ⟨value, member⟩ := List.exists_mem_of_ne_nil _ (outer_ne_nil rows)
  exact ⟨value, List.flatMap_eq_nil_iff.mp empty value member⟩

/-- A bond has rows for its members when it has a child, and rows for nobody else. -/
theorem joined_ne_nil : db.joined userId bond ≠ [] ↔
    db.HasMember bond.id userId ∧ db.HasChild bond.id := by
  constructor
  · intro some_
    obtain ⟨row, there⟩ := List.exists_mem_of_ne_nil _ some_
    unfold Database.joined at there
    obtain ⟨own, mine, there⟩ := List.mem_flatMap.mp there
    obtain ⟨_, -, there⟩ := List.mem_flatMap.mp there
    obtain ⟨_, -, there⟩ := List.mem_flatMap.mp there
    obtain ⟨_, -, there⟩ := List.mem_flatMap.mp there
    obtain ⟨child, theirs, -⟩ := List.mem_map.mp there
    simp only [Database.activeMembers, List.mem_filter, decide_eq_true_eq] at mine theirs
    exact ⟨⟨own, mine.1.1, mine.1.2.1, mine.2, mine.1.2.2⟩, child, theirs.1, theirs.2⟩
  · rintro ⟨⟨own, there, here, mine, stays⟩, child, born, theirs⟩ empty
    have membership : own ∈ (db.activeMembers bond.id).filter (·.userId = userId) := by
      simp [Database.activeMembers, there, here, mine, stays]
    obtain ⟨_, empty⟩ := flatMap_eq_nil_of_outer (List.flatMap_eq_nil_iff.mp empty own membership)
    obtain ⟨_, empty⟩ := flatMap_eq_nil_of_outer empty
    obtain ⟨_, empty⟩ := flatMap_eq_nil_of_outer empty
    have family : child ∈ db.children.rows.filter (·.bondId = bond.id) := by simp [born, theirs]
    rw [List.map_eq_nil_iff] at empty
    rw [empty] at family
    cases family

theorem joined_bond {row : BondRow} (there : row ∈ db.joined userId bond) : row.bond = bond := by
  unfold Database.joined at there
  obtain ⟨_, -, there⟩ := List.mem_flatMap.mp there
  obtain ⟨_, -, there⟩ := List.mem_flatMap.mp there
  obtain ⟨_, -, there⟩ := List.mem_flatMap.mp there
  obtain ⟨_, -, there⟩ := List.mem_flatMap.mp there
  obtain ⟨_, -, rfl⟩ := List.mem_map.mp there
  rfl

/-- A bond is in the list of a user when it is active and has the user for a member, and a child. -/
theorem isMember_findByUserId : isMember (BondsService.findByUserId db userId) bondId ↔
    db.HasActive bondId ∧ db.HasMember bondId userId ∧ db.HasChild bondId := by
  unfold isMember BondsService.findByUserId BondsRepository.findBondsByUserId
  simp only [List.any_eq_true, List.mem_map, List.mem_filterMap, List.mem_mergeSort, List.mem_filter,
    decide_eq_true_eq]
  constructor
  · rintro ⟨_, ⟨loaded, ⟨bond, ⟨there, active⟩, found⟩, rfl⟩, rfl⟩
    obtain ⟨first, head, rfl⟩ := Option.map_eq_some_iff.mp found
    have member := List.mem_of_head? head
    have rows : db.joined userId bond ≠ [] := List.ne_nil_of_mem member
    have same : first.bond = bond := joined_bond member
    change db.HasActive first.bond.id ∧ db.HasMember first.bond.id userId ∧ db.HasChild first.bond.id
    rw [same]
    exact ⟨⟨bond, there, rfl, active⟩, joined_ne_nil.mp rows⟩
  · rintro ⟨⟨bond, there, rfl, active⟩, member, child⟩
    have rows := joined_ne_nil.mpr ⟨member, child⟩
    obtain ⟨first, rest, shape⟩ := List.exists_cons_of_ne_nil rows
    have same : first.bond = bond := joined_bond (shape ▸ List.mem_cons_self)
    obtain ⟨loaded, found, own⟩ : ∃ loaded, hydrate (db.joined userId bond) = some loaded ∧
        loaded.bond = bond := by
      rw [shape]
      exact ⟨_, rfl, same⟩
    exact ⟨responseDto loaded, ⟨loaded, ⟨bond, ⟨there, active⟩, found⟩, rfl⟩, congrArg (·.id) own⟩

theorem isActiveBondForMember_iff : BondsService.isActiveBondForMember db bondId userId ↔
    db.HasActive bondId ∧ db.HasMember bondId userId := by
  unfold BondsService.isActiveBondForMember BondsRepository.existsActiveBondForMember
  simp only [List.any_eq_true, Bool.and_eq_true, decide_eq_true_eq, Option.isNone_iff_eq_none, and_assoc]
  constructor
  · rintro ⟨bond, there, own, active, member⟩
    exact ⟨⟨bond, there, own, active⟩, member⟩
  · rintro ⟨⟨bond, there, own, active⟩, member⟩
    exact ⟨bond, there, own, active, member⟩

/-- **The two checks of a membership.** They agree on a bond and a user exactly when the bond has
a child, or is not active, or the user has no membership of it that lasts. -/
theorem membership_agrees_iff (db : Database) (bondId userId : Uuid) :
    (isMember (BondsService.findByUserId db userId) bondId =
        BondsService.isActiveBondForMember db bondId userId) ↔
      db.HasChild bondId ∨ (∀ bond ∈ db.bonds.rows, bond.id = bondId → bond.isActive = false) ∨
        ∀ member ∈ db.members.rows, member.bondId = bondId → member.userId = userId →
          member.leftAt ≠ none := by
  have inactive : (∀ bond ∈ db.bonds.rows, bond.id = bondId → bond.isActive = false) ↔
      ¬ db.HasActive bondId := by
    simp [Database.HasActive]
  have stranger : (∀ member ∈ db.members.rows, member.bondId = bondId → member.userId = userId →
      member.leftAt ≠ none) ↔ ¬ db.HasMember bondId userId := by
    simp [Database.HasMember]
  rw [inactive, stranger, Bool.eq_iff_iff, isMember_findByUserId, isActiveBondForMember_iff]
  by_cases active : db.HasActive bondId <;> by_cases member : db.HasMember bondId userId <;>
    by_cases child : db.HasChild bondId <;> simp [active, member, child]

/-- An active bond of one user, with one child. -/
def family : Database where
  bonds := .singleton ⟨"b1", none, true, 0⟩
  members := .singleton ⟨"m1", "b1", "u1", "progenitor", none, none⟩
  children := .singleton ⟨"c1", "b1", "Ana", "Paz", none⟩
  users := .singleton ⟨"u1", "user"⟩
  personalData := .empty

/-- The only child of the bond is removed, and its member is one by one check alone. -/
theorem childless_member : ∃ db, AdminService.removeChild family "c1" = .ok db ∧
    ¬ (isMember (BondsService.findByUserId db "u1") "b1" ↔
      BondsService.isActiveBondForMember db "b1" "u1") := by
  refine ⟨_, rfl, ?_⟩
  decide +kernel

end ParentalCoord.Bonds
