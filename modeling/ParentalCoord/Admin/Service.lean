import ParentalCoord.Bonds.Membership
import ParentalCoord.Interleaving.Pool

/-!
The administration of bonds, of their members and of their children.

A bond is created with its two members and its children in one transaction, of which nothing
is seen before it commits.  All that is done to a bond later is a read, or several, and then
one write.  No two rows have an id in common; that a user is a member of a bond only once, no
key of the database says.
-/

namespace ParentalCoord.Admin

open Bonds Interleaving Store

inductive AgreementType where
  | FORMAL
  | INFORMAL
  deriving DecidableEq

/-! ## Rows -/

structure StoredUser extends UserEntity where
  email : String
  deriving DecidableEq

structure StoredBond extends BondEntity where
  title : String
  agreementType : AgreementType

structure StoredChild extends ChildEntity where
  createdAt : Instant
  deriving DecidableEq

/-- A bond with the rows that are joined to it. -/
structure LoadedBond where
  bond : StoredBond
  members : List (BondMemberEntity × Option StoredUser) := []
  children : List StoredChild := []

/-! ## Requests and their answers -/

/-- `CreateBondChildDto` and `CreateChildDto`. -/
structure CreateChildDto where
  firstName : String
  lastName : String
  dateOfBirth : Option String

structure CreateBondDto where
  title : String
  agreementType : AgreementType
  userIds : List Uuid
  children : Option (List CreateChildDto)

/-- What is not sent is `none`, and a `null` is `some none`. -/
structure UpdateChildDto where
  firstName : Option (Option String)
  lastName : Option (Option String)
  dateOfBirth : Option (Option String)

structure BondMemberView where
  id : Uuid
  email : Option String
  role : String

structure BondAdminView where
  id : Uuid
  title : String
  agreementType : AgreementType
  isActive : Bool
  members : List BondMemberView
  childrenCount : ℕ
  createdAt : Instant

def toBondAdminView (loaded : LoadedBond) : BondAdminView where
  id := loaded.bond.id
  title := loaded.bond.title
  agreementType := loaded.bond.agreementType
  isActive := loaded.bond.isActive
  members := loaded.members.map fun (member, user) => ⟨member.userId, user.map (·.email), member.role⟩
  childrenCount := loaded.children.length
  createdAt := loaded.bond.createdAt

structure AddedMemberView where
  id : Uuid
  bondId : Uuid
  userId : Uuid
  role : String

structure AdminChildView where
  id : Uuid
  bondId : Uuid
  firstName : String
  lastName : String
  dateOfBirth : Option String
  createdAt : Instant

def toAdminChildView (child : StoredChild) : AdminChildView where
  id := child.id
  bondId := child.bondId
  firstName := child.firstName
  lastName := child.lastName
  dateOfBirth := child.dateOfBirth
  createdAt := child.createdAt

/-- `Object.assign(child, patch)`; `none` when a name is `null`, which its column refuses. -/
def StoredChild.assign (child : StoredChild) (dto : UpdateChildDto) : Option StoredChild := do
  let firstName ← dto.firstName.getD (some child.firstName)
  let lastName ← dto.lastName.getD (some child.lastName)
  return { child with
    firstName := firstName
    lastName := lastName
    dateOfBirth := dto.dateOfBirth.getD child.dateOfBirth }

inductive Response where
  | bond (view : BondAdminView)
  | member (view : AddedMemberView)
  | child (view : AdminChildView)
  | noContent

/-! ## The world -/

structure Surroundings where
  /-- Whether the answer to a write comes back. -/
  acknowledges : Bool := true
  /-- The ids that the database generates. -/
  uuids : ℕ → Uuid := fun _ => ""

structure World where
  clock : Instant
  users : Table fun user : StoredUser => user.id
  bonds : Table fun bond : StoredBond => bond.id
  members : Table BondMemberEntity.id
  children : Table fun child : StoredChild => child.id
  /-- How many ids have been generated. -/
  generated : ℕ
  surroundings : Surroundings

/-- What a transaction has written so far. -/
structure Transaction where
  bonds : List StoredBond := []
  members : List BondMemberEntity := []
  children : List StoredChild := []

def World.membersOf (world : World) (bondId : Uuid) : List BondMemberEntity :=
  world.members.rows.filter (·.bondId = bondId)

def World.childrenOf (world : World) (bondId : Uuid) : List StoredChild :=
  world.children.rows.filter (·.bondId = bondId)

/-- What the foreign keys refer to is there. -/
def World.refers (world : World) : Bool :=
  (world.members.rows.all fun member =>
    (world.bonds.get member.bondId).isSome && (world.users.get member.userId).isSome) &&
  world.children.rows.all fun child => (world.bonds.get child.bondId).isSome

/-- All that the transaction has written, or nothing when a key refuses a part of it. -/
def World.commit (world : World) (tx : Transaction) : Option World := do
  let bonds ← tx.bonds.foldlM Table.insert world.bonds
  let members ← tx.members.foldlM Table.insert world.members
  let children ← tx.children.foldlM Table.insert world.children
  let after := { world with bonds := bonds, members := members, children := children }
  if after.refers then some after else none

/-- A write that a key refuses fails; one that is done may still fail for its caller. -/
def World.answered {α : Type} (world : World) (value : α) : Option World → Except Exception α × World
  | none => (.error .fault, world)
  | some after => (if world.surroundings.acknowledges then .ok value else .error .fault, after)

def World.uuid (world : World) (index : ℕ) : Uuid :=
  world.surroundings.uuids (world.generated + index)

def World.generate (world : World) (count : ℕ) : World :=
  { world with generated := world.generated + count }

def World.newBond (world : World) (title : String) (agreementType : AgreementType) : StoredBond where
  id := world.uuid 0
  courtCaseRef := none
  isActive := true
  createdAt := world.clock
  title := title
  agreementType := agreementType

def World.newMember (world : World) (bondId userId : Uuid) (index : ℕ) : BondMemberEntity where
  id := world.uuid index
  bondId := bondId
  userId := userId
  role := "progenitor"
  joinedAt := some world.clock
  leftAt := none

def World.newChild (world : World) (bondId : Uuid) (dto : CreateChildDto) (index : ℕ) : StoredChild where
  id := world.uuid index
  bondId := bondId
  firstName := dto.firstName
  lastName := dto.lastName
  dateOfBirth := dto.dateOfBirth
  createdAt := world.clock

def World.findBondEnriched (world : World) (bondId : Uuid) : Option LoadedBond :=
  (world.bonds.get bondId).map fun bond =>
    { bond := bond
      members := (world.membersOf bondId).map fun member => (member, world.users.get member.userId)
      children := world.childrenOf bondId }

/-- Members and children that the entity was loaded without would lose their bond, and the
columns refuse that.  No request deletes a bond. -/
def World.saveBond (world : World) (loaded : LoadedBond) : Option World :=
  if ((world.membersOf loaded.bond.id).all fun member => loaded.members.any (·.1.id = member.id)) &&
      (world.childrenOf loaded.bond.id).all fun child => loaded.children.any (·.id = child.id) then
    some { world with bonds := world.bonds.put loaded.bond }
  else none

/-- An update of the row, which keeps its bond: an id is not given out twice.  A row that is
gone by now is inserted again. -/
def World.saveChild (world : World) (child : StoredChild) : Option World :=
  match world.children.get child.id with
  | some row =>
      some { world with children := world.children.put { child with bondId := row.bondId } }
  | none => world.commit { children := [child] }

/-- Nothing is deleted when the row is gone by now. -/
def World.removeChild (world : World) (child : StoredChild) : World :=
  { world with children := world.children.filter (·.id ≠ child.id) }

inductive Call where
  | findByIds (ids : List Uuid)
  | managerSaveBond (title : String) (agreementType : AgreementType)
  | managerSaveMembers (tx : Transaction) (bondId : Uuid) (userIds : List Uuid)
  | managerSaveChildren (tx : Transaction) (bondId : Uuid) (children : List CreateChildDto)
  | commit (tx : Transaction)
  | findBondEnriched (bondId : Uuid)
  | saveBond (loaded : LoadedBond)
  | findBond (bondId : Uuid)
  | findUser (userId : Uuid)
  | findOneByBondAndUser (bondId userId : Uuid)
  | createMember (bondId userId : Uuid)
  | createChild (bondId : Uuid) (dto : CreateChildDto)
  | findChild (childId : Uuid)
  | saveChild (child : StoredChild)
  | removeChild (child : StoredChild)

@[reducible] def interface : Interface where
  Call := Call
  Answer
    | .findByIds _ => List StoredUser
    | .managerSaveBond _ _ => StoredBond × Transaction
    | .managerSaveMembers _ _ _ => Transaction
    | .managerSaveChildren _ _ _ => Transaction
    | .commit _ => Unit
    | .findBondEnriched _ => Option LoadedBond
    | .saveBond _ => LoadedBond
    | .findBond _ => Option StoredBond
    | .findUser _ => Option StoredUser
    | .findOneByBondAndUser _ _ => Option BondMemberEntity
    | .createMember _ _ => BondMemberEntity
    | .createChild _ _ => StoredChild
    | .findChild _ => Option StoredChild
    | .saveChild _ => StoredChild
    | .removeChild _ => Unit

def serve (query : Call) (world : World) : Except Exception (interface.Answer query) × World :=
  match query with
  | .findByIds ids => (.ok (world.users.rows.filter (·.id ∈ ids)), world)
  | .managerSaveBond title agreementType =>
      let bond := world.newBond title agreementType
      (.ok (bond, { bonds := [bond] }), world.generate 1)
  | .managerSaveMembers tx bondId userIds =>
      let rows := userIds.mapIdx fun index userId => world.newMember bondId userId index
      (.ok { tx with members := rows }, world.generate rows.length)
  | .managerSaveChildren tx bondId children =>
      let rows := children.mapIdx fun index dto => world.newChild bondId dto index
      (.ok { tx with children := rows }, world.generate rows.length)
  | .commit tx => world.answered () (world.commit tx)
  | .findBondEnriched bondId => (.ok (world.findBondEnriched bondId), world)
  | .saveBond loaded => world.answered loaded (world.saveBond loaded)
  | .findBond bondId => (.ok (world.bonds.get bondId), world)
  | .findUser userId => (.ok (world.users.get userId), world)
  | .findOneByBondAndUser bondId userId =>
      (.ok ((world.membersOf bondId).find? (·.userId = userId)), world)
  | .createMember bondId userId =>
      let row := world.newMember bondId userId 0
      (world.generate 1).answered row ((world.generate 1).commit { members := [row] })
  | .createChild bondId dto =>
      let row := world.newChild bondId dto 0
      (world.generate 1).answered row ((world.generate 1).commit { children := [row] })
  | .findChild childId => (.ok (world.children.get childId), world)
  | .saveChild child => world.answered child (world.saveChild child)
  | .removeChild child => world.answered () (some (world.removeChild child))

/-- Every call is one to the database. -/
def failure (_ : Call) : Option Exception := some .fault

/-- How the world moves by itself.  No request deletes a user. -/
inductive Nudge where
  | tick (ms : ℕ)
  | surroundings (surroundings : Surroundings)
  | register (user : StoredUser)

def nudge (how : Nudge) (world : World) : World :=
  match how with
  | .tick ms => { world with clock := world.clock + ms }
  | .surroundings surroundings => { world with surroundings := surroundings }
  | .register user => { world with users := (world.users.insert user).getD world.users }

def start : World where
  clock := 0
  users := .empty
  bonds := .empty
  members := .empty
  children := .empty
  generated := 0
  surroundings := {}

/-! ## AdminService -/

abbrev Request := Handler interface Exception

def perform (query : Call) : Request (interface.Answer query) :=
  @Handler.perform interface Exception query

/-- Whatever fails before the commit, or in it, rolls back and is thrown on. -/
def createBondTransaction (dto : CreateBondDto) (children : List CreateChildDto) : Request StoredBond := do
  let (bond, tx) ← perform (.managerSaveBond dto.title dto.agreementType)
  let tx ← perform (.managerSaveMembers tx bond.id dto.userIds)
  let tx ← perform (.managerSaveChildren tx bond.id children)
  perform (.commit tx)
  return bond

/-- `admin.service.ts::createBond`: the bond, its members and its children in one transaction, which
is read after it. -/
def createBond (dto : CreateBondDto) : Request Response := do
  if dto.userIds.length ≠ 2 then throw (badRequestException "A bond must have exactly 2 members")
  else match dto.children with
    | none | some [] => throw (badRequestException "A bond must have at least one child")
    | some (first :: rest) =>
      let users ← perform (.findByIds dto.userIds)
      if users.length ≠ dto.userIds.length then
        throw (badRequestException "One or more user IDs are invalid")
      else
        let savedBond ← createBondTransaction dto (first :: rest)
        let enriched ← perform (.findBondEnriched savedBond.id)
        return .bond (toBondAdminView (enriched.getD { bond := savedBond }))

def setBondActive (bondId : Uuid) (isActive : Bool) : Request Response := do
  match ← perform (.findBondEnriched bondId) with
  | none => throw (notFoundException ("Bond " ++ bondId ++ " not found"))
  | some loaded =>
    let saved ← perform (.saveBond { loaded with bond := { loaded.bond with isActive := isActive } })
    return .bond (toBondAdminView saved)

/-- `admin.service.ts::addBondMember`: a user who is not in the bond yet joins it. -/
def addBondMember (bondId userId : Uuid) : Request Response := do
  match ← perform (.findBond bondId) with
  | none => throw (notFoundException ("Bond " ++ bondId ++ " not found"))
  | some _ =>
    match ← perform (.findUser userId) with
    | none => throw (notFoundException ("User " ++ userId ++ " not found"))
    | some _ =>
      match ← perform (.findOneByBondAndUser bondId userId) with
      | some _ => throw (conflictException ("User " ++ userId ++ " is already a member of this bond"))
      | none =>
        let saved ← perform (.createMember bondId userId)
        return .member ⟨saved.id, saved.bondId, saved.userId, saved.role⟩

def addChildToBond (bondId : Uuid) (dto : CreateChildDto) : Request Response := do
  match ← perform (.findBond bondId) with
  | none => throw (notFoundException ("Bond " ++ bondId ++ " not found"))
  | some _ =>
    let saved ← perform (.createChild bondId dto)
    return .child (toAdminChildView saved)

/-- `admin.service.ts::updateChild`: the columns that are given are written over the child that was
read. -/
def updateChild (childId : Uuid) (dto : UpdateChildDto) : Request Response := do
  match ← perform (.findChild childId) with
  | none => throw (notFoundException ("Child " ++ childId ++ " not found"))
  | some child =>
    match child.assign dto with
    | none => throw .fault
    | some child =>
      let saved ← perform (.saveChild child)
      return .child (toAdminChildView saved)

def removeChild (childId : Uuid) : Request Response := do
  match ← perform (.findChild childId) with
  | none => throw (notFoundException ("Child " ++ childId ++ " not found"))
  | some child =>
    perform (.removeChild child)
    return .noContent

inductive Entry where
  | createBond (dto : CreateBondDto)
  | addBondMember (bondId userId : Uuid)
  | setBondActive (bondId : Uuid) (isActive : Bool)
  | addChildToBond (bondId : Uuid) (dto : CreateChildDto)
  | updateChild (childId : Uuid) (dto : UpdateChildDto)
  | removeChild (childId : Uuid)

def handler : Entry → Request Response
  | .createBond dto => createBond dto
  | .addBondMember bondId userId => addBondMember bondId userId
  | .setBondActive bondId isActive => setBondActive bondId isActive
  | .addChildToBond bondId dto => addChildToBond bondId dto
  | .updateChild childId dto => updateChild childId dto
  | .removeChild childId => removeChild childId

@[reducible] def admin : System interface Exception Response where
  World := World
  Entry := Entry
  Nudge := Nudge
  start := start
  handler := handler
  serve := serve
  failure := failure
  nudge := nudge

end ParentalCoord.Admin
