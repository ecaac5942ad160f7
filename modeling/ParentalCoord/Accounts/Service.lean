import ParentalCoord.Exceptions
import ParentalCoord.Interleaving.Pool
import ParentalCoord.Store.Pages
import ParentalCoord.Store.Table

/-!
Accounts: how they are made, how one logs in, and whom a token admits.

Registration and login put what is sent into a normal form; the administration takes it as it
comes.  Whoever logs in or registers is given a signed token, and from then on is who the token
says, until it expires: no request looks at the account again.

A body that its validation refuses goes no further, and is not part of the model.  Passwords are
hashed, and tokens are signed, outside of this repository.
-/

namespace ParentalCoord.Accounts

open Interleaving Store

inductive SystemRole where
  | USER
  | ADMIN
  deriving DecidableEq

def SystemRole.value : SystemRole → String
  | .USER => "user"
  | .ADMIN => "admin"

/-! ## Rows -/

structure UserEntity where
  id : Uuid
  email : String
  passwordHash : String
  systemRole : SystemRole
  isActive : Bool
  createdAt : Instant
  updatedAt : Instant
  deriving DecidableEq

structure PersonalDataEntity where
  id : Uuid
  userId : Uuid
  firstName : String
  lastName : String
  deriving DecidableEq

/-- `user`, with its primary key and the unique index on the e-mail address. -/
structure UserTable extends Table UserEntity.id where
  emails : (rows.map UserEntity.email).Nodup

def UserTable.empty : UserTable := ⟨.empty, List.nodup_nil⟩

def UserTable.insert (table : UserTable) (row : UserEntity) : Option UserTable := do
  let added ← table.toTable.insert row
  if emails : (added.rows.map UserEntity.email).Nodup then some ⟨added, emails⟩ else none

def UserTable.put (table : UserTable) (row : UserEntity) : Option UserTable :=
  let written := table.toTable.put row
  if emails : (written.rows.map UserEntity.email).Nodup then some ⟨written, emails⟩ else none

/-! ## Requests and their answers -/

structure RegisterBody where
  email : String
  password : String
  firstName : String
  lastName : String

structure LoginBody where
  email : String
  password : String

structure CreateUserDto where
  email : String
  password : String
  firstName : String
  lastName : String

structure JwtPayload where
  sub : Uuid
  email : String
  systemRole : String
  deriving DecidableEq

structure AuthUser where
  id : Uuid
  email : String
  systemRole : String
  deriving DecidableEq

structure AuthUserView where
  id : Uuid
  email : String
  systemRole : SystemRole
  firstName : Option String
  lastName : Option String

structure AuthResponse where
  access_token : String
  user : AuthUserView

structure AdminUserView where
  id : Uuid
  email : String
  systemRole : SystemRole
  firstName : Option String
  lastName : Option String
  isActive : Bool
  createdAt : Instant

def unauthorizedException (message : String) : Exception := .http 401 none message none

/-! ## What is not of this repository -/

/-- `bcryptjs`. -/
structure Bcrypt where
  /-- `hash`, with the salt that it draws. -/
  hash : String → String → String
  compare : String → String → Bool
  compare_hash : ∀ salt password, compare password (hash salt password) = true

/-- `JwtService`, with its secret.  A token is good from when it is signed until it expires. -/
structure JwtService where
  expiresIn : ℕ
  sign : JwtPayload → Instant → String
  verify : String → Instant → Option JwtPayload
  verify_sign : ∀ payload signedAt now, signedAt ≤ now →
    verify (sign payload signedAt) now = if now < signedAt + expiresIn then some payload else none

structure Libraries where
  bcrypt : Bcrypt
  jwt : JwtService
  toLowerCase : String → String

/-! ## Bodies -/

def normalizedEmail (libraries : Libraries) (value : String) : String :=
  libraries.toLowerCase (jsTrim value)

def trimmedPassword (value : String) : String := jsTrim value

def RegisterBody.toDto (libraries : Libraries) (body : RegisterBody) : RegisterBody :=
  { body with
    email := normalizedEmail libraries body.email
    password := trimmedPassword body.password }

def LoginBody.toDto (libraries : Libraries) (body : LoginBody) : LoginBody where
  email := normalizedEmail libraries body.email
  password := trimmedPassword body.password

/-! ## The calls -/

structure NewUser where
  email : String
  passwordHash : String
  systemRole : SystemRole
  isActive : Bool

inductive Call where
  | findOneByEmail (email : String)
  | findById (userId : Uuid)
  | findAllWithPersonalData
  | findOneByUserId (userId : Uuid)
  | createUser (data : NewUser)
  | createPersonalData (userId : Uuid) (firstName lastName : String)
  | saveUser (user : UserEntity)
  | hash (password : String)
  | sign (payload : JwtPayload)
  | verify (token : String)

@[reducible] def interface : Interface where
  Call := Call
  Answer
    | .findOneByEmail _ => Option UserEntity
    | .findById _ => Option (UserEntity × Option PersonalDataEntity)
    | .findAllWithPersonalData => List (UserEntity × Option PersonalDataEntity)
    | .findOneByUserId _ => Option PersonalDataEntity
    | .createUser _ => UserEntity
    | .createPersonalData _ _ _ => PersonalDataEntity
    | .saveUser _ => UserEntity
    | .hash _ => String
    | .sign _ => String
    | .verify _ => Option JwtPayload

abbrev Request := Handler interface Exception

def perform (query : Call) : Request (interface.Answer query) :=
  @Handler.perform interface Exception query

/-! ## Registration and login -/

def payloadOf (user : UserEntity) : JwtPayload where
  sub := user.id
  email := user.email
  systemRole := user.systemRole.value

/-- `auth.service.ts::buildAuthResponse`: the account without its password, and a token that is signed
for it. -/
def buildAuthResponse (user : UserEntity) : Request AuthResponse := do
  let token ← perform (.sign (payloadOf user))
  let personal ← perform (.findOneByUserId user.id)
  return {
    access_token := token
    user := {
      id := user.id
      email := user.email
      systemRole := user.systemRole
      firstName := personal.map (·.firstName)
      lastName := personal.map (·.lastName) } }

def register (dto : RegisterBody) : Request AuthResponse := do
  match ← perform (.findOneByEmail dto.email) with
  | some _ => throw (badRequestException "Email already registered")
  | none =>
    let hashed ← perform (.hash dto.password)
    let user ← perform (.createUser ⟨dto.email, hashed, .USER, true⟩)
    let _ ← perform (.createPersonalData user.id dto.firstName dto.lastName)
    buildAuthResponse user

def login (libraries : Libraries) (dto : LoginBody) : Request AuthResponse := do
  match ← perform (.findOneByEmail dto.email) with
  | none => throw (unauthorizedException "Invalid credentials")
  | some user =>
    if !user.isActive then throw (unauthorizedException "Account is deactivated")
    else if !libraries.bcrypt.compare dto.password user.passwordHash then
      throw (unauthorizedException "Invalid credentials")
    else buildAuthResponse user

/-! ## Whom a token admits -/

def toAuthUser (payload : JwtPayload) : AuthUser where
  id := payload.sub
  email := payload.email
  systemRole := payload.systemRole

/-- `JwtAuthGuard`, for the token of the header `Authorization`. -/
def jwtAuthGuard (token : Option String) : Request AuthUser := do
  match token with
  | none => throw (unauthorizedException "Unauthorized")
  | some token =>
    match ← perform (.verify token) with
    | none => throw (unauthorizedException "Unauthorized")
    | some payload => return toAuthUser payload

/-- `roles.guard.ts::RolesGuard`, for the roles that a handler requires. -/
def rolesGuard (requiredRoles : List SystemRole) (user : AuthUser) : Request Unit :=
  if requiredRoles = [] then return ()
  else if !truthy user.systemRole then throw (forbiddenException "No role information in token")
  else if (requiredRoles.map SystemRole.value).contains user.systemRole then return ()
  else
    throw (forbiddenException ("Role \"" ++ user.systemRole ++ "\" is not authorized. Required: " ++
      ", ".intercalate (requiredRoles.map SystemRole.value)))

/-- A line ends there, so the pattern `.` does not match it. -/
def isLineTerminator (c : Char) : Bool := c = '\n' || c = '\r' || c = '\u2028' || c = '\u2029'

/-- The pattern `/^Bearer (.+)$/i` on a trimmed header. -/
def bearerToken (header : String) : Option String :=
  let chars := (jsTrim header).toList
  let token := chars.drop 7
  if (chars.take 7).map Char.toLower = "bearer ".toList && !token.isEmpty && !token.any isLineTerminator then
    some (String.ofList token)
  else none

/-- `realtime-auth.service.ts::authenticate`: the handshake of a socket; what goes wrong admits
nobody. -/
def authenticate (header : Option String) : Request (Option AuthUser) := do
  match header.filter truthy with
  | none => return none
  | some header =>
    match bearerToken header with
    | none => return none
    | some token =>
      let payload ← perform (.verify token)
      return payload.map toAuthUser

/-! ## The administration of accounts -/

def toAdminUserView (user : UserEntity) (personalData : Option PersonalDataEntity) : AdminUserView where
  id := user.id
  email := user.email
  systemRole := user.systemRole
  firstName := personalData.map (·.firstName)
  lastName := personalData.map (·.lastName)
  isActive := user.isActive
  createdAt := user.createdAt

/-- `admin.service.ts::createUser`: an administrator creates an account with its personal data. -/
def createUser (dto : CreateUserDto) : Request AdminUserView := do
  match ← perform (.findOneByEmail dto.email) with
  | some _ => throw (conflictException ("Email \"" ++ dto.email ++ "\" is already registered"))
  | none =>
    let hashed ← perform (.hash dto.password)
    let saved ← perform (.createUser ⟨dto.email, hashed, .USER, true⟩)
    let _ ← perform (.createPersonalData saved.id dto.firstName dto.lastName)
    return {
      id := saved.id
      email := saved.email
      systemRole := saved.systemRole
      firstName := some dto.firstName
      lastName := some dto.lastName
      isActive := saved.isActive
      createdAt := saved.createdAt }

def listUsers : Request (List AdminUserView) := do
  let users ← perform .findAllWithPersonalData
  return users.map fun (user, personalData) => toAdminUserView user personalData

def setUserActive (userId : Uuid) (isActive : Bool) : Request AdminUserView := do
  match ← perform (.findById userId) with
  | none => throw (notFoundException ("User " ++ userId ++ " not found"))
  | some (user, personalData) =>
    let saved ← perform (.saveUser { user with isActive := isActive })
    return toAdminUserView saved personalData

/-! ## The world -/

structure Surroundings where
  /-- Whether the answer to a write comes back. -/
  acknowledges : Bool := true
  /-- The ids that the database generates, and the salts that are drawn. -/
  uuids : ℕ → Uuid := fun _ => ""
  salts : ℕ → String := fun _ => ""
  /-- `ORDER BY user.createdAt DESC`. -/
  order : Arrangement UserEntity.createdAt := .stable

structure World where
  clock : Instant
  users : UserTable
  personalData : Table PersonalDataEntity.userId
  /-- The tokens that have been signed, and when. -/
  issued : List (JwtPayload × Instant)
  /-- How many ids and salts have been generated. -/
  generated : ℕ
  surroundings : Surroundings

/-- A write that a key refuses fails; one that is done may still fail for its caller. -/
def World.answered {α : Type} (world : World) (value : α) : Option World → Except Exception α × World
  | none => (.error .fault, world)
  | some after => (if world.surroundings.acknowledges then .ok value else .error .fault, after)

def World.uuid (world : World) : Uuid := world.surroundings.uuids world.generated

def World.newUser (world : World) (data : NewUser) : UserEntity where
  id := world.uuid
  email := data.email
  passwordHash := data.passwordHash
  systemRole := data.systemRole
  isActive := data.isActive
  createdAt := world.clock
  updatedAt := world.clock

def World.newPersonalData (world : World) (userId : Uuid) (firstName lastName : String) :
    PersonalDataEntity where
  id := world.uuid
  userId := userId
  firstName := firstName
  lastName := lastName

def World.findOneByEmail (world : World) (email : String) : Option UserEntity :=
  world.users.rows.find? (·.email = email)

/-- All columns of a row that is there, or a new row. -/
def World.saveUser (world : World) (user : UserEntity) : Option World :=
  (if (world.users.get user.id).isSome then world.users.put { user with updatedAt := world.clock }
    else world.users.insert user).map fun users => { world with users := users }

def serve (libraries : Libraries) (query : Call) (world : World) :
    Except Exception (interface.Answer query) × World :=
  match query with
  | .findOneByEmail email => (.ok (world.findOneByEmail email), world)
  | .findById userId =>
      (.ok ((world.users.get userId).map fun user => (user, world.personalData.get userId)), world)
  | .findAllWithPersonalData =>
      (.ok ((world.surroundings.order.arrange world.users.rows).map fun user =>
        (user, world.personalData.get user.id)), world)
  | .findOneByUserId userId => (.ok (world.personalData.get userId), world)
  | .createUser data =>
      let user := world.newUser data
      world.answered user ((world.users.insert user).map fun users =>
        { world with users := users, generated := world.generated + 1 })
  | .createPersonalData userId firstName lastName =>
      let row := world.newPersonalData userId firstName lastName
      world.answered row ((world.personalData.insert row).map fun personalData =>
        { world with personalData := personalData, generated := world.generated + 1 })
  | .saveUser user => world.answered user (world.saveUser user)
  | .hash password =>
      (.ok (libraries.bcrypt.hash (world.surroundings.salts world.generated) password),
        { world with generated := world.generated + 1 })
  | .sign payload =>
      (.ok (libraries.jwt.sign payload world.clock),
        { world with issued := world.issued ++ [(payload, world.clock)] })
  | .verify token => (.ok (libraries.jwt.verify token world.clock), world)

/-- Every query can fail; what is computed here cannot. -/
def failure : Call → Option Exception
  | .hash _ => none
  | .sign _ => none
  | .verify _ => none
  | _ => some .fault

inductive Nudge where
  | tick (ms : ℕ)
  | surroundings (surroundings : Surroundings)

def nudge (how : Nudge) (world : World) : World :=
  match how with
  | .tick ms => { world with clock := world.clock + ms }
  | .surroundings surroundings => { world with surroundings := surroundings }

/-! ## The requests -/

inductive Entry where
  | register (body : RegisterBody)
  | login (body : LoginBody)
  | me (token : Option String)
  | connect (header : Option String)
  | createUser (token : Option String) (dto : CreateUserDto)
  | listUsers (token : Option String)
  | setUserActive (token : Option String) (userId : Uuid) (isActive : Bool)

inductive Response where
  | session (response : AuthResponse)
  | user (user : AuthUser)
  | socket (user : Option AuthUser)
  | account (view : AdminUserView)
  | accounts (views : List AdminUserView)

/-- The controller of the administration: its guards, and then its handler. -/
def administer {α : Type} (token : Option String) (handler : Request α) : Request α := do
  let user ← jwtAuthGuard token
  rolesGuard [.ADMIN] user
  handler

def handle (libraries : Libraries) : Entry → Request Response
  | .register body => .session <$> register (body.toDto libraries)
  | .login body => .session <$> login libraries (body.toDto libraries)
  | .me token => .user <$> jwtAuthGuard token
  | .connect header => .socket <$> authenticate header
  | .createUser token dto => .account <$> administer token (createUser dto)
  | .listUsers token => .accounts <$> administer token listUsers
  | .setUserActive token userId isActive => .account <$> administer token (setUserActive userId isActive)

/-- What is there before the first request: no code makes an account of an administrator. -/
structure Seed where
  clock : Instant
  users : UserTable
  personalData : Table PersonalDataEntity.userId

def Seed.world (seed : Seed) : World where
  clock := seed.clock
  users := seed.users
  personalData := seed.personalData
  issued := []
  generated := 0
  surroundings := {}

def accounts (libraries : Libraries) (seed : Seed) : System interface Exception Response where
  World := World
  Entry := Entry
  Nudge := Nudge
  start := seed.world
  handler := handle libraries
  serve := serve libraries
  failure := failure
  nudge := nudge

end ParentalCoord.Accounts
