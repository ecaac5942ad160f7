import ParentalCoord.Accounts.Service
import ParentalCoord.Interleaving.Chronicle
import ParentalCoord.Interleaving.Discipline

/-!
Where a session comes from.

Tokens are signed for one who has given the password of an account, or has just made it, and for
nobody else; who the token says is all that a request is ever admitted by.  So behind everything
that is done as a user there is a login to that account or its registration, and behind everything
that only an administrator may do there is the login of one who was there from the start.

Nobody can make up a token: what a request presents has been signed here, or is good at no time.
-/

namespace ParentalCoord.Accounts

open Interleaving Store Discipline

variable {libraries : Libraries} {seed : Seed}

/-! ## What is kept of an account -/

/-- The same account: what is active or not, and since when, may differ. -/
structure SameAccount (row other : UserEntity) : Prop where
  id : other.id = row.id
  email : other.email = row.email
  passwordHash : other.passwordHash = row.passwordHash
  systemRole : other.systemRole = row.systemRole

theorem SameAccount.refl (row : UserEntity) : SameAccount row row := ⟨rfl, rfl, rfl, rfl⟩

theorem SameAccount.trans {first second third : UserEntity} (earlier : SameAccount first second)
    (later : SameAccount second third) : SameAccount first third :=
  ⟨later.id.trans earlier.id, later.email.trans earlier.email,
    later.passwordHash.trans earlier.passwordHash, later.systemRole.trans earlier.systemRole⟩

theorem SameAccount.payloadOf {row other : UserEntity} (same : SameAccount row other) :
    payloadOf other = payloadOf row := by
  simp only [Accounts.payloadOf, same.id, same.email, same.systemRole]

/-- Time goes on, accounts stay, and tokens stay signed. -/
structure Later (before after : World) : Prop where
  clock : before.clock ≤ after.clock
  accounts : ∀ row ∈ before.users.rows, ∃ row' ∈ after.users.rows, SameAccount row row'
  issued : ∀ token ∈ before.issued, token ∈ after.issued

theorem Later.refl (world : World) : Later world world :=
  ⟨le_rfl, fun row member => ⟨row, member, .refl row⟩, fun _ member => member⟩

theorem Later.trans {first second third : World} (earlier : Later first second) (later : Later second third) :
    Later first third := by
  refine ⟨earlier.clock.trans later.clock, fun row member => ?_, fun token member =>
    later.issued _ (earlier.issued _ member)⟩
  obtain ⟨row', member', same⟩ := earlier.accounts row member
  obtain ⟨row'', member'', same'⟩ := later.accounts row' member'
  exact ⟨row'', member'', same.trans same'⟩

/-- An administrator has been one from the start, and tokens were signed before now. -/
structure SeededAdmins (seed : Seed) (world : World) : Prop where
  admins : ∀ row ∈ world.users.rows, row.systemRole = .ADMIN → ∃ old ∈ seed.users.rows, SameAccount old row
  issued : ∀ token ∈ world.issued, token.2 ≤ world.clock

/-! ## What a request may do -/

/-- The token that a request comes with. -/
def Entry.presents : Entry → Option String
  | .register _ => none
  | .login _ => none
  | .me token => token
  | .connect header => (header.filter truthy).bind bearerToken
  | .createUser token _ => token
  | .listUsers token => token
  | .setUserActive token _ _ => token

/-- What `@Roles(SystemRole.ADMIN)` stands over. -/
def Entry.administers : Entry → Bool
  | .createUser _ _ => true
  | .listUsers _ => true
  | .setUserActive _ _ _ => true
  | _ => false

abbrev Past (libraries : Libraries) (seed : Seed) := List (Event (accounts libraries seed))

/-- The password of the account that was found, or the account was made just now. -/
def Earned (entry : Entry) (past : Past libraries seed) (payload : JwtPayload) : Prop :=
  (∃ body row world, entry = .login body ∧
      (⟨world, .findOneByEmail (normalizedEmail libraries body.email), .ok (some row), world⟩ :
        Event (accounts libraries seed)) ∈ past ∧ row.isActive ∧
      libraries.bcrypt.compare (trimmedPassword body.password) row.passwordHash ∧ payload = payloadOf row) ∨
    ∃ body row data before after, entry = .register body ∧
      (⟨before, .createUser data, .ok row, after⟩ : Event (accounts libraries seed)) ∈ past ∧
      payload = payloadOf row

/-- The token that was presented has been found to be good. -/
def Admitted (entry : Entry) (past : Past libraries seed) (payload : JwtPayload) : Prop :=
  ∃ token world, entry.presents = some token ∧
    (⟨world, .verify token, .ok (some payload), world⟩ : Event (accounts libraries seed)) ∈ past

/-- The token is that of an administrator. -/
def Cleared (entry : Entry) (past : Past libraries seed) : Prop :=
  ∃ payload, Admitted entry past payload ∧ payload.systemRole = SystemRole.ADMIN.value

/-- The account of the request that makes it, as it is put down. -/
def Made (libraries : Libraries) (entry : Entry) (data : NewUser) : Prop :=
  data.systemRole = .USER ∧ data.isActive ∧
    ((∃ body salt, entry = .register body ∧ data.email = normalizedEmail libraries body.email ∧
        data.passwordHash = libraries.bcrypt.hash salt (trimmedPassword body.password)) ∨
      ∃ token dto salt, entry = .createUser token dto ∧ data.email = dto.email ∧
        data.passwordHash = libraries.bcrypt.hash salt dto.password)

/-- What a request may call, given its past. -/
structure Rightful (entry : Entry) (past : Past libraries seed) (query : Call) : Prop where
  verify : ∀ token, query = .verify token → entry.presents = some token
  sign : ∀ payload, query = .sign payload → Earned entry past payload
  made : ∀ data, query = .createUser data → Made libraries entry data
  admin : entry.administers → (∀ token, query ≠ .verify token) → Cleared entry past

/-- Who is given out as a user is the one the token says. -/
def admission (libraries : Libraries) (seed : Seed) : Discipline (accounts libraries seed) where
  inv := SeededAdmins seed
  rely := Later
  guar entry past event := Later event.before event.after ∧ Rightful entry past event.query
  post entry result past := ∀ user, result = .ok (.user user) ∨ result = .ok (.socket (some user)) →
    ∃ payload, Admitted entry past payload ∧ user = toAuthUser payload

/-! ## Calls -/

theorem UserTable.rows_insert {table after : UserTable} {row : UserEntity}
    (accepted : table.insert row = some after) : after.rows = table.rows ++ [row] := by
  obtain ⟨added, inserted, more⟩ := Option.bind_eq_some_iff.mp accepted
  split at more
  · cases more
    exact Table.rows_insert inserted
  · cases more

theorem UserTable.put_eq {table after : UserTable} {row : UserEntity} (accepted : table.put row = some after) :
    after.rows = (table.toTable.put row).rows := by
  unfold UserTable.put at accepted
  dsimp only at accepted
  split at accepted
  · cases accepted
    rfl
  · cases accepted

/-- Whether or not the answer to a write comes back, it is done or refused. -/
theorem World.answered_elim {α : Type} (holds : World → Prop) {world : World} {value : α} {write : Option World}
    (stays : holds world) (written : ∀ after, write = some after → holds after) :
    holds (world.answered value write).2 := by
  cases write with
  | none => exact stays
  | some after => exact written after rfl

/-- An account that is answered as made is a new row: its id and its address were nobody's. -/
theorem UserTable.fresh_of_insert {table after : UserTable} {row : UserEntity}
    (accepted : table.insert row = some after) : ∀ old ∈ table.rows, old.id ≠ row.id ∧ old.email ≠ row.email := by
  intro old member
  have rows := rows_insert accepted
  have ids := after.unique
  have emails := after.emails
  rw [rows, List.map_append] at ids emails
  have apart (same : old.id = row.id) : False :=
    List.disjoint_of_nodup_append ids (List.mem_map_of_mem member) (by simp [same])
  have apart' (same : old.email = row.email) : False :=
    List.disjoint_of_nodup_append emails (List.mem_map_of_mem member) (by simp [same])
  exact ⟨apart, apart'⟩

/-- The calls that write no account over. -/
def Call.Adds : Call → Prop
  | .saveUser _ => False
  | .createUser data => data.systemRole = .USER
  | _ => True

variable {world : World} {query : Call}

theorem kept_of_same {after : World} (seeded : SeededAdmins seed world) (clock : after.clock = world.clock)
    (users : after.users = world.users) (issued : after.issued = world.issued) :
    Later world after ∧ SeededAdmins seed after := by
  refine ⟨⟨clock.ge, fun row member => ⟨row, users ▸ member, .refl row⟩, fun _ member => issued ▸ member⟩,
    ⟨fun row member => seeded.admins row (users ▸ member), fun token member => ?_⟩⟩
  rw [clock]
  exact seeded.issued token (issued ▸ member)

theorem kept_of_adds (adds : query.Adds) (seeded : SeededAdmins seed world) :
    Later world (serve libraries query world).2 ∧ SeededAdmins seed (serve libraries query world).2 := by
  cases query with
  | createUser data =>
    refine World.answered_elim (fun after => Later world after ∧ SeededAdmins seed after)
      ⟨.refl world, seeded⟩ fun after written => ?_
    obtain ⟨users, inserted, rfl⟩ := Option.map_eq_some_iff.mp written
    have added := UserTable.rows_insert inserted
    refine ⟨⟨le_rfl, fun row member => ⟨row, ?_, .refl row⟩, fun _ member => member⟩,
      ⟨fun row member admin => ?_, seeded.issued⟩⟩
    · rw [added]
      exact List.mem_append_left _ member
    · rw [added] at member
      rcases List.mem_append.mp member with old | new
      · exact seeded.admins row old admin
      · rw [List.mem_singleton.mp new] at admin
        cases admin.symm.trans adds
  | createPersonalData userId firstName lastName =>
    refine World.answered_elim (fun after => Later world after ∧ SeededAdmins seed after)
      ⟨.refl world, seeded⟩ fun after written => ?_
    obtain ⟨personalData, -, rfl⟩ := Option.map_eq_some_iff.mp written
    exact kept_of_same seeded rfl rfl rfl
  | saveUser user => exact adds.elim
  | sign payload =>
    refine ⟨⟨le_rfl, fun row member => ⟨row, member, .refl row⟩, fun _ member => List.mem_append_left _ member⟩,
      ⟨seeded.admins, fun token member => ?_⟩⟩
    rcases List.mem_append.mp member with old | new
    · exact seeded.issued token old
    · rw [List.mem_singleton.mp new]
      exact le_rfl
  | hash password => exact kept_of_same seeded rfl rfl rfl
  | _ => exact ⟨.refl world, seeded⟩

/-- An account that is written over as it is known stays the same account. -/
theorem kept_of_save {user row : UserEntity} (seeded : SeededAdmins seed world) (there : row ∈ world.users.rows)
    (same : SameAccount row user) :
    Later world (serve libraries (.saveUser user) world).2 ∧
      SeededAdmins seed (serve libraries (.saveUser user) world).2 := by
  refine World.answered_elim (fun after => Later world after ∧ SeededAdmins seed after)
      ⟨.refl world, seeded⟩ fun after written => ?_
  have found : world.users.get user.id = some row := same.id ▸ Table.get_of_mem there
  unfold World.saveUser at written
  rw [found, Option.isSome_some, if_pos rfl] at written
  obtain ⟨users, put, rfl⟩ := Option.map_eq_some_iff.mp written
  have rows := UserTable.put_eq put
  have whose : (world.users.get { user with updatedAt := world.clock }.id) = some row := found
  have rewritten := @Table.mem_put_iff _ _ _ _ _ _ _ whose
  have same' : SameAccount row { user with updatedAt := world.clock } :=
    ⟨same.id, same.email, same.passwordHash, same.systemRole⟩
  refine ⟨⟨le_rfl, fun old member => ?_, fun _ member => member⟩, ⟨fun new member admin => ?_, seeded.issued⟩⟩
  · by_cases own : old.id = user.id
    · have known := Table.get_of_mem member
      rw [own, found] at known
      cases known
      exact ⟨_, rows ▸ rewritten.mpr (.inl rfl), same'⟩
    · exact ⟨old, rows ▸ rewritten.mpr (.inr ⟨member, own⟩), .refl old⟩
  · rcases rewritten.mp (rows ▸ member) with rfl | ⟨old, -⟩
    · obtain ⟨first, from_, known⟩ := seeded.admins row there (same.systemRole.symm.trans admin)
      exact ⟨first, from_, known.trans same'⟩
    · exact seeded.admins new old admin

/-! ## Handlers -/

variable {entry : Entry} {past : Past libraries seed} {β : Type}
  {post : Post (accounts libraries seed) β}

/-- A call that writes no account over, and what comes after it. -/
theorem keeps_call {rest : interface.Answer query → Request β} (adds : query.Adds)
    (rightful : Rightful entry past query) (fails : ∀ error past, post (.error error) past)
    (more : ∀ before value, (serve libraries query before).1 = .ok value →
      (admission libraries seed).Keeps entry post (rest value)
        (⟨before, query, .ok value, (serve libraries query before).2⟩ :: past)) :
    (admission libraries seed).Keeps entry post ((perform query).bind rest) past := by
  refine Keeps.perform_bind fun before answer after behind seeded answers _ => ?_
  rcases answers.elim with ⟨same, rfl⟩ | ⟨error, -, rfl, rfl⟩
  · obtain ⟨kept, sane'⟩ := (kept_of_adds adds seeded : Later before (serve libraries query before).2 ∧ _)
    refine ⟨⟨kept, rightful⟩, sane', ?_⟩
    cases answer with
    | ok value => exact more before value same.symm
    | error error => exact fails _ _
  · exact ⟨⟨.refl _, rightful⟩, seeded, fails _ _⟩

theorem Admitted.cons {payload : JwtPayload} {event : Event (accounts libraries seed)}
    (admitted : Admitted entry past payload) : Admitted entry (event :: past) payload := by
  obtain ⟨token, world, presented, verified⟩ := admitted
  exact ⟨token, world, presented, List.mem_cons_of_mem _ verified⟩

theorem Cleared.cons {event : Event (accounts libraries seed)} (cleared : Cleared entry past) :
    Cleared entry (event :: past) := by
  obtain ⟨payload, admitted, admin⟩ := cleared
  exact ⟨payload, admitted.cons, admin⟩

/-- Reading, hashing and adding rows is for whoever need not be an administrator or is one. -/
theorem rightful_of_cleared (plain : (∀ token, query ≠ .verify token) ∧ ∀ payload, query ≠ .sign payload)
    (made : ∀ data, query = .createUser data → Made libraries entry data)
    (cleared : entry.administers → Cleared entry past) : Rightful entry past query :=
  ⟨fun token same => absurd same (plain.1 token), fun payload same => absurd same (plain.2 payload), made,
    fun administers _ => cleared administers⟩

theorem created_eq {data : NewUser} {user : UserEntity}
    (made : (serve libraries (.createUser data) world).1 = .ok user) : user = world.newUser data := by
  simp only [serve, World.answered] at made
  split at made
  · cases made
  · split at made
    · exact (Except.ok.inj made).symm
    · cases made

/-- The signature and the answer around it. -/
theorem keeps_buildAuthResponse {user : UserEntity} {post : Post (accounts libraries seed) AuthResponse}
    (session : ¬entry.administers) (earned : Earned entry past (payloadOf user))
    (anyhow : ∀ result past, post result past) :
    (admission libraries seed).Keeps entry post (buildAuthResponse user) past := by
  refine keeps_call trivial ⟨fun _ same => (by cases same), fun payload same => ?_, fun _ same =>
    (by cases same), fun administers => absurd administers session⟩ (fun _ _ => anyhow _ _) fun _ _ _ => ?_
  · cases same
    exact earned
  · refine keeps_call trivial ?_ (fun _ _ => anyhow _ _) fun _ _ _ => anyhow _ _
    exact rightful_of_cleared ⟨by simp, by simp⟩ (by simp) fun administers => absurd administers session

theorem keeps_register (body : RegisterBody) {post : Post (accounts libraries seed) AuthResponse}
    (anyhow : ∀ result past, post result past) :
    (admission libraries seed).Keeps (.register body) post (register (body.toDto libraries)) [] := by
  have session : ¬(Entry.register body).administers := by simp [Entry.administers]
  have plain {query : Call} {past : Past libraries seed}
      (plain : (∀ token, query ≠ .verify token) ∧ ∀ payload, query ≠ .sign payload)
      (made : ∀ data, query = .createUser data → Made libraries (.register body) data) :
      Rightful (.register body) past query :=
    rightful_of_cleared plain made fun administers => absurd administers session
  refine keeps_call trivial (plain ⟨by simp, by simp⟩ (by simp)) (fun _ _ => anyhow _ _) fun _ existing _ => ?_
  cases existing with
  | some user => exact anyhow _ _
  | none =>
    refine keeps_call trivial (plain ⟨by simp, by simp⟩ (by simp)) (fun _ _ => anyhow _ _)
      fun salted hashed drawn => ?_
    refine keeps_call rfl (plain ⟨by simp, by simp⟩ ?_) (fun _ _ => anyhow _ _) fun before user made => ?_
    · rintro data same
      cases same
      exact ⟨rfl, rfl, .inl ⟨body, _, rfl, rfl, (Except.ok.inj drawn).symm⟩⟩
    refine keeps_call trivial (plain ⟨by simp, by simp⟩ (by simp)) (fun _ _ => anyhow _ _) fun _ _ _ => ?_
    exact keeps_buildAuthResponse session
      (.inr ⟨body, user, _, before, _, rfl, List.mem_cons_of_mem _ List.mem_cons_self, rfl⟩) anyhow

theorem keeps_login (body : LoginBody) {post : Post (accounts libraries seed) AuthResponse}
    (anyhow : ∀ result past, post result past) :
    (admission libraries seed).Keeps (.login body) post (login libraries (body.toDto libraries)) [] := by
  have session : ¬(Entry.login body).administers := by simp [Entry.administers]
  refine keeps_call trivial
    (rightful_of_cleared ⟨by simp, by simp⟩ (by simp) fun administers => absurd administers session)
    (fun _ _ => anyhow _ _) fun before found _ => ?_
  cases found with
  | none => exact anyhow _ _
  | some user =>
    dsimp only
    by_cases active : user.isActive
    · by_cases correct : libraries.bcrypt.compare (body.toDto libraries).password user.passwordHash
      · simp only [active, correct, Bool.not_true, Bool.false_eq_true, if_false]
        exact keeps_buildAuthResponse session
          (.inl ⟨body, user, before, rfl, List.mem_cons_self, active, correct, rfl⟩) anyhow
      · simp only [active, correct, Bool.not_true, Bool.false_eq_true, if_false, Bool.not_false, if_true]
        exact anyhow _ _
    · simp only [active, Bool.not_false, if_true]
      exact anyhow _ _

/-- A token is good for what it presents. -/
theorem keeps_jwtAuthGuard {token : Option String} {post : Post (accounts libraries seed) AuthUser}
    (presents : entry.presents = token) (fails : ∀ error past, post (.error error) past)
    (admits : ∀ payload past, Admitted entry past payload → post (.ok (toAuthUser payload)) past) :
    (admission libraries seed).Keeps entry post (jwtAuthGuard token) past := by
  cases token with
  | none => exact fails _ _
  | some token =>
    refine keeps_call trivial ⟨fun other same => ?_, fun _ same => (by cases same),
      fun _ same => (by cases same), fun _ other =>
      absurd rfl (other token)⟩ fails fun before verified good => ?_
    · cases same
      exact presents
    · cases verified with
      | none => exact fails _ _
      | some payload => exact admits payload _ ⟨token, before, presents, List.mem_cons_self⟩

/-- Past its guards, a handler of the administration is an administrator's. -/
theorem keeps_administer {α : Type} {token : Option String} {handler : Request α}
    {post : Post (accounts libraries seed) α} (presents : entry.presents = token)
    (anyhow : ∀ result past, post result past)
    (kept : ∀ past, Cleared entry past → (admission libraries seed).Keeps entry post handler past) :
    (admission libraries seed).Keeps entry post (administer token handler) past := by
  refine Keeps.bind (keeps_jwtAuthGuard presents (fun _ _ => anyhow _ _) fun payload past admitted => ?_)
  refine Keeps.bind ?_
  unfold rolesGuard
  rw [if_neg (by simp)]
  split
  · exact anyhow _ _
  · split
    · rename_i required
      simp only [List.map_cons, List.map_nil, List.contains_cons, List.contains_nil, Bool.or_false,
        beq_iff_eq] at required
      exact kept past ⟨payload, admitted, required⟩
    · exact anyhow _ _

theorem keeps_createUser {token : Option String} {dto : CreateUserDto}
    {post : Post (accounts libraries seed) AdminUserView} (anyhow : ∀ result past, post result past)
    (cleared : Cleared (.createUser token dto) past) :
    (admission libraries seed).Keeps (.createUser token dto) post (createUser dto) past := by
  refine keeps_call trivial (rightful_of_cleared ⟨by simp, by simp⟩ (by simp) fun _ => cleared) (fun _ _ => anyhow _ _)
    fun _ existing _ => ?_
  cases existing with
  | some user => exact anyhow _ _
  | none =>
    refine keeps_call trivial (rightful_of_cleared ⟨by simp, by simp⟩ (by simp) fun _ => cleared.cons)
      (fun _ _ => anyhow _ _) fun _ hashed drawn => ?_
    refine keeps_call rfl (rightful_of_cleared ⟨by simp, by simp⟩ ?_ fun _ => cleared.cons.cons)
      (fun _ _ => anyhow _ _) fun _ saved _ => ?_
    · rintro data same
      cases same
      exact ⟨rfl, rfl, .inr ⟨token, dto, _, rfl, rfl, (Except.ok.inj drawn).symm⟩⟩
    exact keeps_call trivial (rightful_of_cleared ⟨by simp, by simp⟩ (by simp) fun _ => cleared.cons.cons.cons)
      (fun _ _ => anyhow _ _) fun _ _ _ => anyhow _ _

theorem keeps_setUserActive {userId : Uuid} {isActive : Bool}
    {post : Post (accounts libraries seed) AdminUserView} (anyhow : ∀ result past, post result past)
    (cleared : Cleared entry past) :
    (admission libraries seed).Keeps entry post (setUserActive userId isActive) past := by
  refine keeps_call trivial (rightful_of_cleared ⟨by simp, by simp⟩ (by simp) fun _ => cleared) (fun _ _ => anyhow _ _)
    fun before found read => ?_
  cases found with
  | none => exact anyhow _ _
  | some loaded =>
    obtain ⟨user, personalData⟩ := loaded
    refine Keeps.perform_bind fun later answer after behind seeded answers _ => ?_
    -- the account is there still, and is written over as it was read
    obtain ⟨loaded, stored, pair⟩ := Option.map_eq_some_iff.mp (Except.ok.inj read)
    cases pair
    obtain ⟨row, there, same⟩ := behind.head.2.accounts user (Table.mem_of_get stored)
    rcases answers.elim with ⟨-, rfl⟩ | ⟨error, -, rfl, rfl⟩
    · have saved : Later later (serve libraries (.saveUser { user with isActive := isActive }) later).2 ∧
          SeededAdmins seed (serve libraries (.saveUser { user with isActive := isActive }) later).2 :=
        kept_of_save seeded there ⟨same.id.symm, same.email.symm, same.passwordHash.symm, same.systemRole.symm⟩
      refine ⟨⟨saved.1, rightful_of_cleared ⟨by simp, by simp⟩ (by simp) fun _ => cleared.cons⟩, saved.2, ?_⟩
      cases answer <;> exact anyhow _ _
    · exact ⟨⟨.refl _, rightful_of_cleared ⟨by simp, by simp⟩ (by simp) fun _ => cleared.cons⟩, seeded, anyhow _ _⟩

/-- An answer that gives nobody out as a user. -/
theorem keeps_wrapped {α : Type} {wrap : α → Response} {handler : Request α}
    (plain : ∀ value user, wrap value ≠ .user user) (bare : ∀ value user, wrap value ≠ .socket (some user))
    (kept : ∀ {post : Post (accounts libraries seed) α}, (∀ result past, post result past) →
      (admission libraries seed).Keeps entry post handler past) :
    (admission libraries seed).Keeps entry ((admission libraries seed).post entry) (wrap <$> handler) past := by
  refine Keeps.bind (kept fun result past => ?_)
  cases result with
  | ok value =>
    rintro user (same | same)
    · exact absurd (Except.ok.inj same) (plain value user)
    · exact absurd (Except.ok.inj same) (bare value user)
  | error error => rintro user (same | same) <;> cases same

theorem keeps_connect (header : Option String) :
    (admission libraries seed).Keeps (.connect header) ((admission libraries seed).post (.connect header))
      (handle libraries (.connect header)) [] := by
  have nobody (past : Past libraries seed) :
      (admission libraries seed).post (.connect header) (.ok (.socket none)) past := by
    rintro user (same | same) <;> cases same
  simp only [handle, authenticate]
  split
  · exact nobody _
  · rename_i header' given
    split
    · exact nobody _
    · rename_i token bearer
      have presents : (Entry.connect header).presents = some token := by
        rw [Entry.presents, given, Option.bind_some, bearer]
      refine Keeps.bind (keeps_call trivial ⟨fun other same => ?_, fun _ same => (by cases same),
          fun _ same => (by cases same), fun _ other =>
        absurd rfl (other token)⟩ ?_ fun before verified good => ?_)
      · cases same
        exact presents
      · rintro error past user (same | same) <;> cases same
      · cases verified with
        | none => exact nobody _
        | some payload =>
          rintro user (same | same)
          · cases same
          · cases same
            exact ⟨payload, ⟨token, before, presents, List.mem_cons_self⟩, rfl⟩

/-! ## Every run -/

theorem admission_sound : (admission libraries seed).Sound where
  refl := Later.refl
  trans := Later.trans
  start := ⟨fun row member _ => ⟨row, member, .refl row⟩, fun _ member => by cases member⟩
  nudge how world seeded := by
    cases how with
    | tick ms =>
      have later : world.clock ≤ world.clock + ms := by simp
      exact ⟨⟨seeded.admins, fun token member => (seeded.issued token member).trans later⟩,
        later, fun row member => ⟨row, member, .refl row⟩, fun _ member => member⟩
    | surroundings surroundings =>
      have kept : Later world { world with surroundings := surroundings } ∧ _ := kept_of_same seeded rfl rfl rfl
      exact kept.symm
  guar_rely _ met := met.1
  handlers entry := by
    cases entry with
    | register body => exact keeps_wrapped (by simp) (by simp) fun anyhow => keeps_register body anyhow
    | login body => exact keeps_wrapped (by simp) (by simp) fun anyhow => keeps_login body anyhow
    | me token =>
      refine Keeps.bind (keeps_jwtAuthGuard rfl ?_ ?_)
      · rintro error past user (same | same) <;> cases same
      · rintro payload past admitted user (same | same)
        · cases same
          exact ⟨payload, admitted, rfl⟩
        · cases same
    | connect header => exact keeps_connect header
    | createUser token dto =>
      exact keeps_wrapped (by simp) (by simp) fun anyhow => keeps_administer rfl anyhow fun _ cleared =>
        keeps_createUser anyhow cleared
    | listUsers token =>
      refine keeps_wrapped (by simp) (by simp) fun anyhow => keeps_administer rfl anyhow fun _ cleared => ?_
      exact keeps_call trivial (rightful_of_cleared ⟨by simp, by simp⟩ (by simp) fun _ => cleared)
        (fun _ _ => anyhow _ _) fun _ _ _ => anyhow _ _
    | setUserActive token userId isActive =>
      exact keeps_wrapped (by simp) (by simp) fun anyhow => keeps_administer rfl anyhow fun _ cleared =>
        keeps_setUserActive anyhow cleared

/-- A token that has been signed, or one that is never good. -/
def Unforged (cfg : Config (accounts libraries seed)) : Move (accounts libraries seed) → Prop
  | .arrive entry => ∀ token, entry.presents = some token →
      (∃ issued ∈ World.issued cfg.world, token = libraries.jwt.sign issued.1 issued.2) ∨
        ∀ now, libraries.jwt.verify token now = none
  | _ => True

variable {cfg : Config (accounts libraries seed)} {moments : List (Moment (accounts libraries seed))}
  {thread : Thread (accounts libraries seed)} {payload : JwtPayload}

theorem kept_of_advance {cfg' : Config (accounts libraries seed)} {move : Move (accounts libraries seed)}
    (run : Run (accounts libraries seed) Unforged cfg) (permitted : Unforged cfg move)
    (moved : advance move cfg = some cfg') : Later cfg.world cfg'.world :=
  run.relied admission_sound (supplies_of_assumes fun _ _ _ => trivial) (Onward.here.step permitted moved)

/-- What a request presents was signed before the first of its calls. -/
theorem signed_of_presented (run : Run (accounts libraries seed) Unforged cfg) :
    ∀ thread ∈ cfg.threads, ∀ token, thread.entry.presents = some token →
      (∃ issued ∈ World.issued cfg.world, token = libraries.jwt.sign issued.1 issued.2 ∧
        ∀ event ∈ thread.past, issued.2 ≤ World.clock event.before) ∨
          ∀ now, libraries.jwt.verify token now = none := by
  induction run with
  | start => simp
  | @step cfg cfg' move run permitted moved ih =>
    have kept := kept_of_advance run permitted moved
    have known : ∀ thread ∈ cfg.threads, ∀ token, thread.entry.presents = some token →
        (∃ issued ∈ World.issued cfg'.world, token = libraries.jwt.sign issued.1 issued.2 ∧
          ∀ event ∈ thread.past, issued.2 ≤ World.clock event.before) ∨
            ∀ now, libraries.jwt.verify token now = none := by
      intro thread member token presented
      refine (ih thread member token presented).imp_left fun ⟨issued, signed, same, before⟩ => ?_
      exact ⟨issued, kept.issued _ signed, same, before⟩
    rcases advance_cases moved with ⟨how, rfl, rfl⟩ | ⟨entry, rfl, rfl⟩ | ⟨index, rfl, rfl⟩ |
      ⟨index, acting, event, rest, at_, acts, rfl⟩
    · exact known
    · intro thread member token presented
      rcases List.mem_append.mp member with old | new
      · exact known thread old token presented
      · rw [List.mem_singleton] at new
        subst new
        refine (permitted token presented).imp_left fun ⟨issued, signed, same⟩ => ?_
        exact ⟨issued, signed, same, fun _ happened => by cases happened⟩
    · exact fun thread member => known thread (List.mem_of_mem_eraseIdx member)
    · intro thread member token presented
      rcases List.mem_or_eq_of_mem_set member with old | rfl
      · exact known thread old token presented
      · obtain ⟨mine, query, next, answer, after, -, rfl, -, -⟩ := acts_cases acts
        refine (ih acting mine token presented).imp_left fun ⟨issued, signed, same, before⟩ => ?_
        refine ⟨issued, kept.issued _ signed, same, fun event happened => ?_⟩
        rcases List.mem_cons.mp happened with rfl | earlier
        · exact (run.disciplined admission_sound (supplies_of_assumes fun _ _ _ => trivial)).1.issued _ signed
        · exact before event earlier

/-- The token was found to be good when it was presented: it is that of the account, signed then, and its
time was not up. -/
def Accepted (past : Past libraries seed) (payload : JwtPayload) (signedAt : Instant) : Prop :=
  ∃ world, (⟨world, .verify (libraries.jwt.sign payload signedAt), .ok (some payload), world⟩ :
      Event (accounts libraries seed)) ∈ past ∧
    signedAt ≤ world.clock ∧ world.clock < signedAt + libraries.jwt.expiresIn

/-- Whom a token admits, it was signed for, and it has not expired. -/
theorem signed_of_admitted (run : Run (accounts libraries seed) Unforged cfg) (member : thread ∈ cfg.threads)
    (admitted : Admitted thread.entry thread.past payload) :
    ∃ signedAt, (payload, signedAt) ∈ World.issued cfg.world ∧
      thread.entry.presents = some (libraries.jwt.sign payload signedAt) ∧
      Accepted thread.past payload signedAt := by
  obtain ⟨token, world, presented, verified⟩ := admitted
  have holds := (run.disciplined admission_sound (supplies_of_assumes fun _ _ _ => trivial)).2 thread member
  have good : libraries.jwt.verify token world.clock = some payload := by
    have genuine : Answers (accounts libraries seed) (.verify token) world (.ok (some payload)) world :=
      (holds.behind _ verified).1
    rcases genuine.elim with ⟨same, -⟩ | ⟨error, -, same, -⟩
    · exact (Except.ok.inj same).symm
    · cases same
  rcases signed_of_presented run thread member token presented with ⟨issued, signed, rfl, before⟩ | never
  · rw [libraries.jwt.verify_sign _ _ _ (before _ verified)] at good
    split at good
    · rename_i soon
      cases good
      exact ⟨issued.2, signed, presented, world, verified, before _ verified, soon⟩
    · cases good
  · rw [never] at good
    cases good

/-- At a moment of the run a token was signed for one who had given the password of the account, which
was active when it was looked up. -/
def LoggedIn (moments : List (Moment (accounts libraries seed))) (account : UserEntity) (signedAt : Instant) :
    Prop :=
  ∃ moment ∈ moments, ∃ signer event rest body world, moment.1.acts moment.2 = some (signer, event, rest) ∧
    event.query = .sign (payloadOf account) ∧ World.clock moment.1.world = signedAt ∧
    signer.entry = .login body ∧
    (⟨world, .findOneByEmail (normalizedEmail libraries body.email), .ok (some account), world⟩ :
      Event (accounts libraries seed)) ∈ signer.past ∧
    account ∈ world.users.rows ∧ account.isActive ∧ account.email = normalizedEmail libraries body.email ∧
    libraries.bcrypt.compare (trimmedPassword body.password) account.passwordHash

/-- The account was made for that body: its row was added, and nobody's id or address was its own before. -/
def MadeFor (body : RegisterBody) (past : Past libraries seed) (account : UserEntity) : Prop :=
  ∃ data before after, (⟨before, .createUser data, .ok account, after⟩ : Event (accounts libraries seed)) ∈ past ∧
    after.users.rows = before.users.rows ++ [account] ∧
    (∀ old ∈ before.users.rows, old.id ≠ account.id ∧ old.email ≠ account.email) ∧
    account.systemRole = .USER ∧ account.isActive ∧ account.email = normalizedEmail libraries body.email ∧
    ∃ salt, account.passwordHash = libraries.bcrypt.hash salt (trimmedPassword body.password)

theorem MadeFor.role {body : RegisterBody} {past : Past libraries seed} {account : UserEntity}
    (madeFor : MadeFor body past account) : account.systemRole = .USER := by
  obtain ⟨-, -, -, -, -, -, role, -⟩ := madeFor
  exact role

/-- At a moment of the run a token was signed in the registration that had made the account. -/
def Registered (moments : List (Moment (accounts libraries seed))) (account : UserEntity) (signedAt : Instant) :
    Prop :=
  ∃ moment ∈ moments, ∃ signer event rest body, moment.1.acts moment.2 = some (signer, event, rest) ∧
    event.query = .sign (payloadOf account) ∧ World.clock moment.1.world = signedAt ∧
    signer.entry = .register body ∧ MadeFor body signer.past account

/-- Whatever was answered as made is a new row, as it was asked for. -/
theorem created_of_answers {data : NewUser} {user : UserEntity} {before after : World}
    (answers : Answers (accounts libraries seed) (.createUser data) before (.ok user) after) :
    user = before.newUser data ∧ after.users.rows = before.users.rows ++ [user] ∧
      ∀ old ∈ before.users.rows, old.id ≠ user.id ∧ old.email ≠ user.email := by
  rcases answers.elim with ⟨same, rfl⟩ | ⟨error, -, same, -⟩
  · have row : user = before.newUser data := @created_eq libraries _ _ _ same.symm
    subst row
    cases inserted : before.users.insert (before.newUser data) with
    | none => simp [accounts, serve, inserted, World.answered] at same
    | some users =>
      refine ⟨rfl, ?_, UserTable.fresh_of_insert inserted⟩
      simp [accounts, serve, inserted, World.answered, UserTable.rows_insert inserted]
  · cases same

/-- The registration that signs for an account has made it. -/
theorem madeFor_of_created {body : RegisterBody} {data : NewUser} {account : UserEntity} {before after world : World}
    {thread : Thread (accounts libraries seed)} (holds : (admission libraries seed).Holds world thread)
    (register : thread.entry = .register body)
    (created : (⟨before, .createUser data, .ok account, after⟩ : Event (accounts libraries seed)) ∈ thread.past) :
    MadeFor body thread.past account := by
  obtain ⟨row, added, fresh⟩ : account = before.newUser data ∧ _ ∧ _ :=
    created_of_answers (holds.behind _ created).1
  obtain ⟨earlier, -, -, rightful⟩ := holds.lawful.of_mem created
  obtain ⟨role, active, ⟨body', salt, same, email, hash⟩ | ⟨token, dto, salt, same, -⟩⟩ := rightful.made data rfl
  · cases register.symm.trans same
    exact ⟨data, before, after, created, added, fresh, row ▸ role, row ▸ active, row ▸ email, salt, row ▸ hash⟩
  · cases register.symm.trans same

theorem issued_of_serve (other : ∀ payload, query ≠ .sign payload) :
    (serve libraries query world).2.issued = world.issued := by
  cases query with
  | sign payload => exact absurd rfl (other payload)
  | createUser data =>
    refine World.answered_elim (fun after => after.issued = world.issued) rfl fun after written => ?_
    obtain ⟨users, -, rfl⟩ := Option.map_eq_some_iff.mp written
    rfl
  | createPersonalData userId firstName lastName =>
    refine World.answered_elim (fun after => after.issued = world.issued) rfl fun after written => ?_
    obtain ⟨personalData, -, rfl⟩ := Option.map_eq_some_iff.mp written
    rfl
  | saveUser user =>
    refine World.answered_elim (fun after => after.issued = world.issued) rfl fun after written => ?_
    obtain ⟨users, -, rfl⟩ := Option.map_eq_some_iff.mp written
    rfl
  | _ => rfl

/-- A token that was not signed before and is now has just been signed. -/
theorem signed_now {before after : World} {answer : Except Exception (interface.Answer query)}
    {signedAt : Instant} (answers : Answers (accounts libraries seed) query before answer after)
    (fresh : (payload, signedAt) ∉ before.issued) (now : (payload, signedAt) ∈ after.issued) :
    query = .sign payload ∧ before.clock = signedAt := by
  rcases answers.elim with ⟨-, rfl⟩ | ⟨error, -, -, rfl⟩
  · by_cases signs : ∃ other, query = .sign other
    · obtain ⟨other, rfl⟩ := signs
      rcases List.mem_append.mp now with old | new
      · exact absurd old fresh
      · cases List.mem_singleton.mp new
        exact ⟨rfl, rfl⟩
    · have same : (serve libraries query before).2.issued = before.issued :=
        issued_of_serve fun other signed => signs ⟨other, signed⟩
      exact absurd (same ▸ now) fresh
  · exact absurd now fresh

/-- An account that a request has read, and that was an administrator's, was one from the start. -/
theorem seeded_of_past (chronicle : Chronicle (accounts libraries seed) Unforged moments cfg)
    (member : thread ∈ cfg.threads) {event : Event (accounts libraries seed)} (happened : event ∈ thread.past) :
    SeededAdmins seed event.before := by
  obtain ⟨moment, there, acting, rest, acts⟩ := chronicle.happened thread member event happened
  obtain ⟨-, query, next, answer, after, -, rfl, -⟩ := acts_cases acts
  exact ((chronicle.run_at moment there).disciplined admission_sound (supplies_of_assumes fun _ _ _ => trivial)).1

theorem account_of_issued {signedAt : Instant}
    (chronicle : Chronicle (accounts libraries seed) Unforged moments cfg)
    (issued : (payload, signedAt) ∈ World.issued cfg.world) :
    ∃ account, payload = payloadOf account ∧
      (account.systemRole = .ADMIN → ∃ old ∈ seed.users.rows, SameAccount old account) ∧
      (LoggedIn moments account signedAt ∨ Registered moments account signedAt) := by
  obtain ⟨newer, before, move, older, signer, event, rest, rfl, earlier, permitted, acts, fresh, now⟩ :=
    chronicle.origin (fun world => (payload, signedAt) ∈ World.issued world) (by simp [accounts, Seed.world])
      (fun how world known => by cases how <;> exact known) issued
  have holds := (earlier.run.disciplined admission_sound (supplies_of_assumes fun _ _ _ => trivial)).2 signer
    (acts_cases acts).1
  have rightful := (earlier.run.guaranteed admission_sound (supplies_of_assumes fun _ _ _ => trivial)
    permitted acts).2
  have here : (before, move) ∈ newer ++ (before, move) :: older := by simp
  obtain ⟨-, query, next, answer, after, -, shape, -, answers⟩ := acts_cases acts
  subst shape
  obtain ⟨rfl, rfl⟩ := signed_now answers fresh now
  rcases rightful.sign payload rfl with ⟨body, row, world, login, found, active, correct, rfl⟩ |
    ⟨body, row, data, seen, made, register, created, rfl⟩
  · have genuine : Answers (accounts libraries seed) (.findOneByEmail (normalizedEmail libraries body.email))
        world (.ok (some row)) world := (holds.behind _ found).1
    have known : world.findOneByEmail (normalizedEmail libraries body.email) = some row := by
      rcases genuine.elim with ⟨same, -⟩ | ⟨error, -, same, -⟩
      · exact (Except.ok.inj same).symm
      · cases same
    have there := List.mem_of_find?_eq_some known
    have seeded : SeededAdmins seed world := seeded_of_past earlier (acts_cases acts).1 found
    exact ⟨row, rfl, seeded.admins row there, .inl ⟨_, here, signer, _, rest, body, world, acts, rfl, rfl, login,
      found, there, active, by simpa using List.find?_some known, correct⟩⟩
  · have madeFor := madeFor_of_created holds register created
    exact ⟨row, rfl, fun admin => (by cases madeFor.role.symm.trans admin),
      .inr ⟨_, here, signer, _, rest, body, acts, rfl, rfl, register, madeFor⟩⟩

/-- **Behind every session there is a password or a registration.**  Whoever is admitted as a user, by a
request or by a socket, presents a token that was signed in the run, for one who gave the password of that
account while it was active or in the registration that had just made it, and less than its time ago. -/
theorem session_earned (chronicle : Chronicle (accounts libraries seed) Unforged moments cfg)
    (member : thread ∈ cfg.threads) {user : AuthUser}
    (admitted : thread.rest = .ret (.user user) ∨ thread.rest = .ret (.socket (some user))) :
    ∃ account signedAt, user = toAuthUser (payloadOf account) ∧
      (LoggedIn moments account signedAt ∨ Registered moments account signedAt) ∧
      thread.entry.presents = some (libraries.jwt.sign (payloadOf account) signedAt) ∧
      Accepted thread.past (payloadOf account) signedAt := by
  have ended := (chronicle.run.ended admission_sound (supplies_of_assumes fun _ _ _ => trivial) member).1
  obtain ⟨payload, known, rfl⟩ : ∃ payload, Admitted thread.entry thread.past payload ∧
      user = toAuthUser payload := by
    rcases admitted with out | out
    · exact ended _ out user (.inl rfl)
    · exact ended _ out user (.inr rfl)
  obtain ⟨signedAt, issued, presented, accepted⟩ := signed_of_admitted chronicle.run member known
  obtain ⟨account, rfl, -, origin⟩ := account_of_issued chronicle issued
  exact ⟨account, signedAt, rfl, origin, presented, accepted⟩

/-- **Nobody becomes an administrator.**  Whatever is done in a request that only an administrator may
make, beyond checking its token, there was a login with the password of an account that had been an
administrator's from the start. -/
theorem administrator_logged_in (chronicle : Chronicle (accounts libraries seed) Unforged moments cfg)
    (member : thread ∈ cfg.threads) (administers : thread.entry.administers)
    {event : Event (accounts libraries seed)} (did : event ∈ thread.past)
    (beyond : ∀ token, event.query ≠ .verify token) :
    ∃ admin ∈ seed.users.rows, admin.systemRole = .ADMIN ∧ ∃ account signedAt,
      SameAccount admin account ∧ LoggedIn moments account signedAt ∧
      thread.entry.presents = some (libraries.jwt.sign (payloadOf account) signedAt) ∧
      Accepted thread.past (payloadOf account) signedAt := by
  have holds := (chronicle.run.disciplined admission_sound (supplies_of_assumes fun _ _ _ => trivial)).2 thread member
  obtain ⟨earlier, within, -, rightful⟩ := holds.lawful.of_mem did
  obtain ⟨payload, ⟨token, world, presents, verified⟩, role⟩ := rightful.admin administers beyond
  have admitted : Admitted thread.entry thread.past payload := ⟨token, world, presents, within.mem verified⟩
  obtain ⟨signedAt, issued, presented, accepted⟩ := signed_of_admitted chronicle.run member admitted
  obtain ⟨account, rfl, first, origin⟩ := account_of_issued chronicle issued
  have admin : account.systemRole = .ADMIN := by
    cases known : account.systemRole with
    | ADMIN => rfl
    | USER => simp [payloadOf, known, SystemRole.value] at role
  rcases origin with login | ⟨_, _, _, _, _, _, _, _, _, _, madeFor⟩
  · obtain ⟨old, there, same⟩ := first admin
    exact ⟨old, there, same.systemRole.symm.trans admin, account, signedAt, same, login, presented, accepted⟩
  · cases admin.symm.trans madeFor.role

/-! ## A run with plain tokens -/

def tally (n : ℕ) : List Char := List.replicate n '1' ++ ['.']

def readTally : List Char → ℕ × List Char
  | '1' :: rest => ((readTally rest).1 + 1, (readTally rest).2)
  | _ :: rest => (0, rest)
  | [] => (0, [])

theorem readTally_tally (n : ℕ) (rest : List Char) : readTally (tally n ++ rest) = (n, rest) := by
  induction n with
  | zero => rfl
  | succ n ih =>
    have more : tally (n + 1) ++ rest = '1' :: (tally n ++ rest) := by simp [tally, List.replicate_succ]
    rw [more, readTally, ih]

def field (value : String) : List Char := tally value.toList.length ++ value.toList

def readField (text : List Char) : String × List Char :=
  (String.ofList ((readTally text).2.take (readTally text).1), (readTally text).2.drop (readTally text).1)

theorem readField_field (value : String) (rest : List Char) : readField (field value ++ rest) = (value, rest) := by
  simp [readField, field, readTally_tally]

def plainToken (payload : JwtPayload) (signedAt : Instant) : String :=
  String.ofList (tally signedAt.toNat ++ (tally (-signedAt).toNat ++
    (field payload.sub ++ (field payload.email ++ field payload.systemRole))))

def readPlain (token : String) : JwtPayload × Instant :=
  let (signedAt, text) := readTally token.toList
  let (before, text) := readTally text
  let (sub, text) := readField text
  let (email, text) := readField text
  (⟨sub, email, (readField text).1⟩, signedAt - before)

theorem readPlain_plainToken (payload : JwtPayload) (signedAt : Instant) :
    readPlain (plainToken payload signedAt) = (payload, signedAt) := by
  have last := readField_field payload.systemRole []
  rw [List.append_nil] at last
  have instant : (signedAt.toNat : ℤ) - (-signedAt).toNat = signedAt := by omega
  simp only [readPlain, plainToken, String.toList_ofList, readTally_tally, readField_field, last, instant]

/-- Nothing is hidden, but what is signed is read back. -/
def plain : Libraries where
  bcrypt := ⟨fun _ password => password, fun password hash => password = hash, fun _ _ => by simp⟩
  jwt :=
    { expiresIn := 86400000
      sign := plainToken
      verify := fun token now => if now < (readPlain token).2 + 86400000 then some (readPlain token).1 else none
      verify_sign := fun payload signedAt now _ => by simp [readPlain_plainToken] }
  toLowerCase value := String.ofList (value.toList.map Char.toLower)

def courtSeed : Seed where
  clock := 1
  users :=
    { rows := [⟨"a1", "a@x", "secret00", .ADMIN, true, 0, 0⟩]
      unique := by decide
      emails := by decide }
  personalData := .empty

/-- Requests present tokens that have been signed. -/
def honest (cfg : Config (accounts plain courtSeed)) : Move (accounts plain courtSeed) → Bool
  | .arrive entry => entry.presents.all fun token =>
      (World.issued cfg.world).any fun issued => token = plain.jwt.sign issued.1 issued.2
  | _ => true

theorem unforged_of_honest {cfg : Config (accounts plain courtSeed)} {move : Move (accounts plain courtSeed)}
    (known : honest cfg move = true) : Unforged cfg move := by
  cases move with
  | arrive entry =>
    intro token presented
    have found := (Option.all_eq_true _ _).mp known token presented
    obtain ⟨issued, there, same⟩ := List.any_eq_true.mp found
    exact .inl ⟨issued, there, of_decide_eq_true same⟩
  | _ => trivial

def adminToken : String := plainToken ⟨"a1", "a@x", "admin"⟩ 1

/-- An administrator logs in, asks who that is, and lists the accounts. -/
def adminDay : List (Move (accounts plain courtSeed)) :=
  [.arrive (.login ⟨" A@x ", "secret00 "⟩), .turn 0, .turn 0, .turn 0, .arrive (.me (some adminToken)), .turn 1,
    .arrive (.listUsers (some adminToken)), .turn 2, .turn 2]

theorem session_earned_me : ∃ moments, ∃ cfg : Config (accounts plain courtSeed), ∃ thread ∈ cfg.threads, ∃ user,
    thread.rest = .ret (.user user) ∧ Chronicle (accounts plain courtSeed) Unforged moments cfg ∧
    ∃ account signedAt, user = toAuthUser (payloadOf account) ∧
      (LoggedIn moments account signedAt ∨ Registered moments account signedAt) ∧
      thread.entry.presents = some (plain.jwt.sign (payloadOf account) signedAt) ∧
      Accepted thread.past (payloadOf account) signedAt := by
  obtain ⟨moments, cfg, chronicle, shown⟩ := exists_followed (honest · · = true) adminDay
    (fun _ cfg => cfg.threads.any fun thread => match thread.rest with
      | .ret (.user _) => true
      | _ => false) (by decide)
  obtain ⟨thread, member, shown⟩ := List.any_eq_true.mp shown
  split at shown
  · rename_i user out
    have run := chronicle.weaken fun _ _ known => unforged_of_honest known
    exact ⟨moments, cfg, thread, member, user, out, run, session_earned run member (.inl out)⟩
  · cases shown

theorem administrator_logged_in_lists : ∃ moments, ∃ cfg : Config (accounts plain courtSeed),
    ∃ thread ∈ cfg.threads, thread.entry.administers ∧
    Chronicle (accounts plain courtSeed) Unforged moments cfg ∧
    ∃ admin ∈ courtSeed.users.rows, admin.systemRole = .ADMIN ∧ ∃ account signedAt,
      SameAccount admin account ∧ LoggedIn moments account signedAt ∧
      thread.entry.presents = some (plain.jwt.sign (payloadOf account) signedAt) ∧
      Accepted thread.past (payloadOf account) signedAt := by
  obtain ⟨moments, cfg, chronicle, shown⟩ := exists_followed (honest · · = true) adminDay
    (fun _ cfg => cfg.threads.any fun thread => thread.entry.administers && thread.past.any fun event =>
      match event.query with
      | .findAllWithPersonalData => true
      | _ => false) (by decide)
  obtain ⟨thread, member, shown⟩ := List.any_eq_true.mp shown
  obtain ⟨administers, shown⟩ := Bool.and_eq_true_iff.mp shown
  obtain ⟨event, did, shown⟩ := List.any_eq_true.mp shown
  split at shown
  · rename_i listed
    have run := chronicle.weaken fun _ _ known => unforged_of_honest known
    exact ⟨moments, cfg, thread, member, administers, run,
      administrator_logged_in run member administers did (by simp [listed])⟩
  · cases shown

end ParentalCoord.Accounts
