import ParentalCoord.Accounts.Admission

/-!
What lets one into an account again.

A registration puts down the normal form of what was sent, and a login looks for the normal form of
what is sent then, so whoever registered gets in with the same text and with all that looks the same
to a person.  The administration puts down what it was sent as it is.  An account that it makes with
another than a normal address is one that nobody can log in to.
-/

namespace ParentalCoord.Accounts

open Interleaving Store Discipline

variable {libraries : Libraries} {seed : Seed} {world : World} {row user : UserEntity} {dto : LoginBody}

theorem findOneByEmail_of_mem (there : row ∈ world.users.rows) : world.findOneByEmail row.email = some row := by
  cases found : world.findOneByEmail row.email with
  | none => simpa using List.find?_eq_none.mp found row there
  | some other =>
    have same : other.email = row.email := by simpa using List.find?_some found
    rw [List.inj_on_of_nodup_map world.users.emails (List.mem_of_find?_eq_some found) there same]

/-- What one who is let in is given. -/
def sessionOf (libraries : Libraries) (world : World) (user : UserEntity) : AuthResponse where
  access_token := libraries.jwt.sign (payloadOf user) world.clock
  user := {
    id := user.id
    email := user.email
    systemRole := user.systemRole
    firstName := (world.personalData.get user.id).map (·.firstName)
    lastName := (world.personalData.get user.id).map (·.lastName) }

theorem run_buildAuthResponse (world : World) (user : UserEntity) :
    ((buildAuthResponse user).run (serve libraries) world).1 = .ok (sessionOf libraries world user) := rfl

/-- A login is let in as the account of the address, when it is active and the password is its own. -/
theorem run_login_of_found (found : world.findOneByEmail dto.email = some user) :
    (login libraries dto).run (serve libraries) world =
      if !user.isActive then (.error (unauthorizedException "Account is deactivated"), world)
      else if !libraries.bcrypt.compare dto.password user.passwordHash then
        (.error (unauthorizedException "Invalid credentials"), world)
      else (buildAuthResponse user).run (serve libraries) world := by
  have answered : serve libraries (.findOneByEmail dto.email) world = (.ok (some user), world) := by
    simp only [serve, found]
  rw [login, perform, Handler.bind_eq, Handler.run_perform_bind_of_ok answered]
  dsimp only
  split
  · rfl
  · split <;> rfl

theorem run_login_of_none (found : world.findOneByEmail dto.email = none) :
    (login libraries dto).run (serve libraries) world =
      (.error (unauthorizedException "Invalid credentials"), world) := by
  have answered : serve libraries (.findOneByEmail dto.email) world = (.ok none, world) := by
    simp only [serve, found]
  rw [login, perform, Handler.bind_eq, Handler.run_perform_bind_of_ok answered]
  rfl

theorem run_login_of_correct (there : row ∈ world.users.rows) (active : row.isActive)
    (email : dto.email = row.email) (correct : libraries.bcrypt.compare dto.password row.passwordHash) :
    ((login libraries dto).run (serve libraries) world).1 = .ok (sessionOf libraries world row) := by
  have found : world.findOneByEmail dto.email = some row := by
    rw [email]
    exact findOneByEmail_of_mem there
  rw [run_login_of_found found]
  simp only [active, correct, Bool.not_true, Bool.false_eq_true, if_false]
  exact run_buildAuthResponse world row

/-- The words that let one into an active account. -/
theorem admits_iff (there : row ∈ world.users.rows) (active : row.isActive) :
    (∃ response, ((login libraries dto).run (serve libraries) world).1 = .ok response ∧
        response.user.id = row.id) ↔
      dto.email = row.email ∧ libraries.bcrypt.compare dto.password row.passwordHash := by
  constructor
  · rintro ⟨response, answered, own⟩
    cases found : world.findOneByEmail dto.email with
    | none =>
      rw [run_login_of_none found] at answered
      cases answered
    | some user =>
      rw [run_login_of_found found] at answered
      split at answered
      · cases answered
      · split at answered
        · cases answered
        · rename_i correct
          rw [run_buildAuthResponse] at answered
          cases answered
          obtain rfl : user = row := List.inj_on_of_nodup_map world.users.unique
            (List.mem_of_find?_eq_some found) there own
          have same : user.email = dto.email := by simpa using List.find?_some found
          exact ⟨same.symm, by simpa using correct⟩
  · rintro ⟨same, correct⟩
    exact ⟨_, run_login_of_correct there active same correct, rfl⟩

/-! ## Accounts that a run has made -/

variable {cfg cfg' : Config (accounts libraries seed)} {thread : Thread (accounts libraries seed)}
  {data : NewUser} {before after : World}

/-- A row that was added is there when its insertion has been answered. -/
theorem created_there (created : Answers (accounts libraries seed) (.createUser data) before (.ok user) after) :
    user = before.newUser data ∧ user ∈ after.users.rows := by
  rcases created.elim with ⟨answered, rfl⟩ | ⟨error, -, failed, -⟩
  · have row : user = before.newUser data := @created_eq libraries _ _ _ answered.symm
    refine ⟨row, ?_⟩
    have done := answered
    change _ = (before.answered _ _).1 at done
    change user ∈ (before.answered (before.newUser data) _).2.users.rows
    cases inserted : before.users.insert (before.newUser data) with
    | none =>
      rw [inserted] at done
      cases done
    | some users =>
      rw [row]
      change before.newUser data ∈ users.rows
      rw [UserTable.rows_insert inserted]
      exact List.mem_append_right _ List.mem_cons_self
  · cases failed

/-- An account that was made is there ever after, as the request for it says. -/
theorem account_stands (run : Reachable (accounts libraries seed) cfg) (member : thread ∈ cfg.threads)
    (created : (⟨before, .createUser data, .ok user, after⟩ : Event (accounts libraries seed)) ∈ thread.past)
    (onward : Onward (accounts libraries seed) (fun _ _ => True) cfg cfg') :
    Made libraries thread.entry data ∧ ∃ row ∈ (World.users cfg'.world).rows, row.id = user.id ∧
      row.email = data.email ∧ row.passwordHash = data.passwordHash ∧ row.systemRole = .USER := by
  have free : (admission libraries seed).Supplies fun _ _ => True := supplies_of_assumes fun _ _ _ => trivial
  have holds := (run.disciplined admission_sound free).2 thread member
  obtain ⟨earlier, -, -, rightful⟩ := holds.lawful.of_mem created
  obtain ⟨genuine, kept⟩ := holds.behind _ created
  obtain ⟨new, there⟩ : user = before.newUser data ∧ user ∈ after.users.rows := created_there genuine
  have made := rightful.made data rfl
  obtain ⟨row, now, same⟩ := (kept.trans (run.relied admission_sound free onward)).accounts user there
  subst new
  exact ⟨made, row, now, same.id, same.email, same.passwordHash, same.systemRole.trans made.1⟩

/-- **An account that an administrator has made lets in the text it was made with exactly when that is
in normal form:** the address as it stands, and the password without the blanks around it. -/
theorem created_logs_in_iff (run : Reachable (accounts libraries seed) cfg) (member : thread ∈ cfg.threads)
    {token : Option String} {dto : CreateUserDto} (made : thread.entry = .createUser token dto)
    (created : (⟨before, .createUser data, .ok user, after⟩ : Event (accounts libraries seed)) ∈ thread.past)
    (onward : Onward (accounts libraries seed) (fun _ _ => True) cfg cfg')
    (active : ∀ row ∈ (World.users cfg'.world).rows, row.id = user.id → row.isActive) :
    (∃ response, ((login libraries (LoginBody.toDto libraries ⟨dto.email, dto.password⟩)).run (serve libraries)
        cfg'.world).1 = .ok response ∧ response.user.id = user.id) ↔
      normalizedEmail libraries dto.email = dto.email ∧
        libraries.bcrypt.compare (trimmedPassword dto.password) data.passwordHash := by
  obtain ⟨⟨-, -, how⟩, row, there, own, address, hashed, -⟩ := account_stands run member created onward
  rw [made] at how
  rcases how with ⟨_, _, same, -⟩ | ⟨_, _, salt, same, written, -⟩
  · cases same
  · cases same
    have admits := @admits_iff libraries _ row (LoginBody.toDto libraries ⟨dto.email, dto.password⟩) there
      (active row there own)
    rw [address, written, hashed] at admits
    rw [← own]
    exact admits

/-! ## Two accounts -/

/-- Whether a thread has made an account for a request that is meant. -/
def hasMade (meant : Entry → Bool) (thread : Thread (accounts plain courtSeed)) : Bool :=
  meant thread.entry && thread.past.any fun event => match event with
    | ⟨_, .createUser _, .ok _, _⟩ => true
    | _ => false

theorem exists_made {meant : Entry → Bool} {cfg : Config (accounts plain courtSeed)}
    (shown : cfg.threads.any (hasMade meant) = true) :
    ∃ thread ∈ cfg.threads, meant thread.entry = true ∧ ∃ before data user after,
      (⟨before, .createUser data, .ok user, after⟩ : Event (accounts plain courtSeed)) ∈ thread.past := by
  obtain ⟨thread, member, made⟩ := List.any_eq_true.mp shown
  obtain ⟨fits, happened⟩ := Bool.and_eq_true_iff.mp made
  obtain ⟨event, there, shape⟩ := List.any_eq_true.mp happened
  split at shape
  · exact ⟨thread, member, fits, _, _, _, _, there⟩
  · cases shape

def isCreation : Entry → Bool
  | .createUser _ dto => dto.email = "Dad@x"
  | _ => false

theorem created_logs_in_never : ∃ cfg : Config (accounts plain courtSeed),
    Reachable (accounts plain courtSeed) cfg ∧ ∃ thread ∈ cfg.threads, ∃ token dto user before data after,
      thread.entry = .createUser token dto ∧
      (⟨before, .createUser data, .ok user, after⟩ : Event (accounts plain courtSeed)) ∈ thread.past ∧
      dto.email = "Dad@x" ∧
      ¬∃ response, ((login plain (LoginBody.toDto plain ⟨dto.email, dto.password⟩)).run (serve plain)
        cfg.world).1 = .ok response ∧ response.user.id = user.id := by
  obtain ⟨cfg, run, shown⟩ := exists_played (fun (_ : Config (accounts plain courtSeed)) _ => True)
    [.arrive (.createUser (some adminToken) ⟨"Dad@x", "secret77", "D", "L"⟩), .turn 0, .turn 0, .turn 0, .turn 0]
    (fun cfg => cfg.threads.any (hasMade isCreation) && (World.users cfg.world).rows.all (·.isActive))
    (by decide)
  obtain ⟨made, active⟩ := Bool.and_eq_true_iff.mp shown
  obtain ⟨thread, member, fits, before, data, user, after, created⟩ := exists_made made
  cases entry : thread.entry with
  | createUser token dto =>
    simp only [entry, isCreation, decide_eq_true_eq] at fits
    refine ⟨cfg, run, thread, member, token, dto, user, before, data, after, entry, created, fits, fun lets => ?_⟩
    have normal := ((created_logs_in_iff run member entry created .here
      fun row there _ => List.all_eq_true.mp active row there).mp lets).1
    rw [fits] at normal
    exact absurd normal (by decide)
  | _ =>
    rw [entry] at fits
    cases fits

end ParentalCoord.Accounts
