import ParentalCoord.Admin.Upkeep

/-!
The bonds of the administration, over whole runs.

A step that takes the only child of a bond, or adds a member who is one already, leaves a bond
without what it needs.  A request whose bond is there, and that is not told so or fails to read
it, has failed with the rows written.
-/

namespace ParentalCoord.Admin

open Bonds Interleaving Store

/-! ## How far a creation is -/

inductive Progress where
  /-- It has nothing in the tables. -/
  | checking
  | saved
  | answered
  | failed
  /-- A request that creates no bond. -/
  | apart

def Entry.progress (entry : Entry) : Progress := if entry.creates then .checking else .apart

def creation : Protocol interface Exception where
  Phase := Progress
  permits
    | .checking, query => query.enriches = false
    | .saved, query => query.enriches = true
    | .apart, query => query.plain = true
    | _, _ => False
  next
    | .checking, .commit _, .ok _ => .saved
    | .checking, _, .ok _ => .checking
    | .saved, _, .ok _ => .answered
    | .apart, _, _ => .apart
    | _, _, .error _ => .failed
    | progress, _, _ => progress

/-- What has failed does not end with an answer. -/
def Ends {α : Type} (result : Except Exception α) (progress : Progress) : Prop :=
  progress = .failed → ∃ error, result = .error error

variable {cfg cfg' : Config admin} {move : Move admin} {thread : Thread admin} {event : Event admin}
  {past : List (Event admin)} {query : Call} {world after : World} {entry : Entry} {bondId : Uuid}

/-- A call before the commit: its failure ends the request. -/
theorem checks_bind {β : Type} {rest : interface.Answer query → Request β}
    {post : Except Exception β → Progress → Prop} (early : query.enriches = false) (plain : query.plain)
    (fails : ∀ error, post (.error error) .failed)
    (more : ∀ value, creation.Follows post .checking (rest value)) :
    creation.Follows post .checking ((perform query).bind rest) := by
  refine Protocol.Follows.perform_bind early (fun value => ?_) fun error => ?_
  · cases query <;> first | exact more value | cases plain
  · cases query <;> exact fails error

theorem transaction_follows (dto : CreateBondDto) (children : List CreateChildDto) :
    creation.Follows (fun result progress => match result with
      | .ok _ => progress = .saved
      | .error _ => True) .checking (createBondTransaction dto children) :=
  checks_bind rfl rfl (fun _ => trivial) fun _ =>
    checks_bind rfl rfl (fun _ => trivial) fun _ =>
      checks_bind rfl rfl (fun _ => trivial) fun _ =>
        Protocol.Follows.perform_bind rfl (fun _ => rfl) fun _ => trivial

theorem createBond_follows (dto : CreateBondDto) : creation.Follows Ends .checking (createBond dto) := by
  have thrown (error : Exception) (progress : Progress) :
      Ends (.error error : Except Exception Response) progress := fun _ => ⟨error, rfl⟩
  unfold createBond
  split
  · exact thrown _ _
  · split
    · exact thrown _ _
    · exact thrown _ _
    · refine checks_bind rfl rfl (thrown · _) fun users => ?_
      dsimp only
      split
      · exact thrown _ _
      · refine .bind ((transaction_follows dto _).mono fun result progress shown => ?_)
        cases result with
        | error error => exact thrown _ _
        | ok bond =>
          subst shown
          exact Protocol.Follows.perform_bind rfl (fun _ => nofun) fun _ => thrown _ _

theorem handler_follows (entry : Entry) : creation.Follows Ends entry.progress (handler entry) := by
  by_cases creates : entry.creates
  · cases entry with
    | createBond dto => exact createBond_follows dto
    | _ => cases creates
  · rw [Entry.progress, if_neg creates]
    exact .of_calls (handler_plain (Bool.eq_false_iff.mpr creates)) (fun _ plain => ⟨plain, fun _ => rfl⟩)
      fun _ => nofun

/-! ## What a step breaks -/

theorem reached_apart (past : List (Event admin)) : creation.reached .apart past = .apart := by
  induction past with
  | nil => rfl
  | cons event past ih =>
    change creation.next (creation.reached .apart past) event.query event.answer = .apart
    rw [ih]
    rfl

/-- A creation stays one. -/
theorem reached_ne_apart {progress : Progress} (first : progress ≠ .apart) :
    creation.reached progress past ≠ .apart := by
  induction past with
  | nil => exact first
  | cons event past ih =>
    obtain ⟨before, query, answer, after⟩ := event
    change creation.next (creation.reached progress past) query answer ≠ .apart
    cases at_ : creation.reached progress past with
    | apart => exact absurd at_ ih
    | checking => cases answer <;> cases query <;> nofun
    | _ => cases answer <;> nofun

/-- A creation that is saved has committed. -/
theorem committed_of_saved {progress : Progress} (first : progress ≠ .saved)
    (saved : creation.reached progress past = .saved) :
    ∃ before tx after, (⟨before, .commit tx, .ok (), after⟩ : Event admin) ∈ past := by
  induction past with
  | nil => exact absurd saved first
  | cons event past ih =>
    obtain ⟨before, query, answer, after⟩ := event
    change creation.next (creation.reached progress past) query answer = .saved at saved
    cases at_ : creation.reached progress past with
    | checking =>
      rw [at_] at saved
      cases answer with
      | error error => cases query <;> cases saved
      | ok value =>
        cases query with
        | commit tx => exact ⟨before, tx, after, List.mem_cons_self⟩
        | _ => cases saved
    | saved =>
      obtain ⟨before, tx, after, member⟩ := ih at_
      exact ⟨before, tx, after, List.mem_cons_of_mem _ member⟩
    | _ =>
      rw [at_] at saved
      cases answer <;> cases saved

/-- Where nothing more may be called and no answer is given, an error is thrown. -/
theorem thrown_of_failed {rest : Request Response} (follows : creation.Follows Ends .failed rest) :
    ∃ error, rest = .throw error := by
  cases rest with
  | ret value =>
    obtain ⟨error, never⟩ := follows rfl
    cases never
  | throw error => exact ⟨error, rfl⟩
  | call query next => exact follows.1.elim

/-- A transaction that has a bond writes a row. -/
theorem not_sameRows_commit {tx : Transaction} (bonds : tx.bonds ≠ []) (done : world.commit tx = some after) :
    ¬SameRows world after := by
  intro same
  have rows := (commit_eq done).1
  rw [same.bonds] at rows
  exact bonds (List.self_eq_append_right.mp rows)

theorem guar_of_lawful {sparing : Prop} (lawful : (upkeep sparing).Lawful entry past) {before after : World}
    {tx : Transaction} {answer : Except Exception Unit}
    (there : (⟨before, .commit tx, answer, after⟩ : Event admin) ∈ past) : tx.bonds ≠ [] := by
  induction past with
  | nil => cases there
  | cons event past ih =>
    rcases List.mem_cons.mp there with rfl | earlier
    · exact lawful.1 tx rfl
    · exact ih lawful.2 earlier

/-- A creation that fails after a commit of its own leaves rows behind. -/
theorem not_clean_of_commit {tx : Transaction} {before after : World} {answer : Except Exception Unit}
    {error : Exception} (run : Reachable admin cfg) (member : thread ∈ cfg.threads)
    (creates : thread.entry.creates) (thrown : thread.rest = .throw error)
    (there : (⟨before, .commit tx, answer, after⟩ : Event admin) ∈ thread.past)
    (done : before.commit tx = some after) : ¬CleanFailures cfg := by
  have holds := (run.disciplined (upkeep_sound False) fun _ _ _ _ _ _ _ _ => False.elim).2 thread member
  exact fun clean => not_sameRows_commit (guar_of_lawful holds.lawful there) done
    (clean thread member creates error thrown _ there)

/-- What a commit was answered for, it has written. -/
theorem written_of_past {tx : Transaction} {before after : World} (run : Reachable admin cfg)
    (member : thread ∈ cfg.threads)
    (there : (⟨before, .commit tx, .ok (), after⟩ : Event admin) ∈ thread.past) :
    before.commit tx = some after := by
  have holds := (run.disciplined (upkeep_sound False) fun _ _ _ _ _ _ _ _ => False.elim).2 thread member
  have answers : Answers admin (.commit tx) before (.ok ()) after := (holds.behind _ there).1
  rcases answers.elim with ⟨answered, rfl⟩ | ⟨error, -, never, -⟩
  · simp only [serve] at answered ⊢
    cases done : before.commit tx with
    | none =>
      rw [done] at answered
      cases answered
    | some later => rfl
  · cases never

/-- A bond that a child or a member of the table is of is there. -/
theorem bond_of_isSome (known : (world.bonds.get bondId).isSome) :
    ∃ bond ∈ world.bonds.rows, bond.id = bondId := by
  obtain ⟨bond, found⟩ := Option.isSome_iff_exists.mp known
  have own := Table.key_of_get found
  exact ⟨bond, Table.mem_of_get found, own⟩

theorem broken_of_remove {child : StoredChild} (sound : RowsWellFormed world)
    (takes : world.spares (.removeChild child) = false) :
    ¬∀ bond ∈ (world.removeChild child).bonds.rows, WellFormed (world.removeChild child) bond.id := by
  intro all
  cases found : world.children.get child.id with
  | none => simp [World.spares, found] at takes
  | some row =>
    obtain ⟨bond, there, same⟩ :=
      bond_of_isSome ((refers_iff.mp sound.refers).2 row (Table.mem_of_get found))
    obtain ⟨other, mine⟩ := List.exists_mem_of_ne_nil _ (all bond there).child
    obtain ⟨stays, own⟩ := List.mem_filter.mp mine
    obtain ⟨born, apart⟩ := List.mem_filter.mp stays
    have key := Table.key_of_get found
    simp only [World.spares, found, Option.all_some, List.any_eq_false, Bool.and_eq_true,
      decide_eq_true_eq, not_and] at takes own apart
    exact takes other born (own.trans same) (key ▸ apart)

theorem broken_of_member {userId : Uuid} {row : BondMemberEntity}
    (same : row.bondId = bondId ∧ row.userId = userId) (joined : world.joined bondId userId = true)
    (done : world.commit { members := [row] } = some after) :
    ¬∀ bond ∈ after.bonds.rows, WellFormed after bond.id := by
  intro all
  obtain ⟨-, members, -, refers⟩ := commit_eq done
  have here : row ∈ after.members.rows := members ▸ List.mem_append_right _ List.mem_cons_self
  obtain ⟨bond, there, own⟩ := bond_of_isSome ((refers_iff.mp refers).1 row here).1
  have apart := (all bond there).apart
  have rows : after.membersOf bond.id = world.membersOf bond.id ++ [row] := by
    rw [World.membersOf, members, List.filter_append]
    exact congrArg (world.membersOf bond.id ++ ·) (by simp [own])
  rw [rows, List.map_append, List.nodup_append] at apart
  obtain ⟨member, known, mine⟩ := List.any_eq_true.mp joined
  simp only [Bool.and_eq_true, decide_eq_true_eq] at mine
  refine apart.2.2 userId (List.mem_map.mpr ⟨member, List.mem_filter.mpr ⟨known, ?_⟩, mine.2⟩) userId
    (List.mem_singleton.mpr same.2.symm) rfl
  exact decide_eq_true (mine.1.trans (same.1.symm.trans own.symm))

/-! ## Every run -/

/-- A call that is served without care leaves a bond, or what has failed, as it must not be. -/
theorem not_wellFormed_turn {rest : Request Response} {index : ℕ}
    (run : Run admin (fun cfg move => SparesBonds cfg move = true) cfg)
    (moved : advance (.turn index) cfg = some cfg')
    (acts : cfg.acts (.turn index) = some (thread, event, rest))
    (takes : event.before.spares event.query = false) : ¬BondsWellFormed cfg' := by
  have kept := (run.disciplined (upkeep_sound True) upkeep_supplied).1 trivial
  obtain ⟨member, query, next, answer, after, shape, rfl, rfl, -⟩ := acts_cases acts
  obtain ⟨world, there⟩ := advance_of_acts moved acts
  have same := served_of_turn acts
  simp only [served, Event.mk.injEq, heq_eq_eq, true_and] at same
  obtain ⟨rfl, rfl⟩ := same
  obtain ⟨permitted, onward⟩ := (run.follows handler_follows thread member).act acts
  intro wellFormed
  have bonds := wellFormed.bonds
  rw [world] at bonds
  cases query with
  | removeChild child => exact broken_of_remove kept takes bonds
  | createMember bondId userId =>
    simp only [World.spares, Bool.or_eq_false_iff, Bool.not_eq_false', Option.isNone_eq_false_iff] at takes
    obtain ⟨later, done⟩ := Option.isSome_iff_exists.mp takes.2
    refine @broken_of_member (cfg.world.generate 1) later bondId userId _ ⟨rfl, rfl⟩ takes.1 done ?_
    simpa only [serve, done, World.answered] using bonds
  | commit tx =>
    simp only [World.spares, Bool.or_eq_false_iff, Option.isNone_eq_false_iff] at takes
    obtain ⟨later, done⟩ := Option.isSome_iff_exists.mp takes.2
    have answered : serve (.commit tx) cfg.world = (.error .fault, later) := by
      simp [serve, done, World.answered, takes.1]
    change creation.Follows Ends (creation.next (creation.reached thread.entry.progress thread.past)
      (.commit tx) (serve (.commit tx) cfg.world).1) (next (serve (.commit tx) cfg.world).1) at onward
    have began : creation.reached thread.entry.progress thread.past = .checking := by
      cases at_ : creation.reached thread.entry.progress thread.past with
      | checking => rfl
      | _ =>
        rw [at_] at permitted
        cases permitted
    have creates : thread.entry.creates := by
      by_contra no
      rw [Entry.progress, if_neg no, reached_apart] at began
      cases began
    rw [began, answered] at onward
    obtain ⟨error, thrown⟩ := thrown_of_failed onward
    have later_run : Reachable admin cfg' := run.reachable.step trivial moved
    refine not_clean_of_commit later_run there creates (answered ▸ thrown) List.mem_cons_self ?_ wellFormed.failures
    rw [answered]
    exact done
  | _ => cases takes

/-- A creation that fails to read its bond has failed with the bond there. -/
theorem not_wellFormed_fault {rest : Request Response} {index : ℕ}
    (run : Run admin (fun cfg move => SparesBonds cfg move = true) cfg)
    (moved : advance (.fault index) cfg = some cfg')
    (acts : cfg.acts (.fault index) = some (thread, event, rest)) (creates : thread.entry.creates)
    (reads : event.query.enriches) : ¬BondsWellFormed cfg' := by
  have later_run : Reachable admin cfg' := run.reachable.step trivial moved
  obtain ⟨member, query, next, answer, after, shape, rfl, rfl, -⟩ := acts_cases acts
  obtain ⟨-, there⟩ := advance_of_acts moved acts
  obtain ⟨error, same⟩ := failed_of_fault acts
  simp only [failed, Event.mk.injEq, heq_eq_eq, true_and] at same
  obtain ⟨rfl, rfl⟩ := same
  obtain ⟨permitted, onward⟩ := (run.follows handler_follows thread member).act acts
  change creation.Follows Ends (creation.next (creation.reached thread.entry.progress thread.past)
    query (.error error)) (next (.error error)) at onward
  have begun : thread.entry.progress = .checking := by rw [Entry.progress, if_pos creates]
  rw [begun] at permitted onward
  have saved : creation.reached .checking thread.past = .saved := by
    cases at_ : creation.reached .checking thread.past with
    | saved => rfl
    | checking =>
      rw [at_] at permitted
      cases permitted.symm.trans reads
    | apart => exact absurd at_ (reached_ne_apart nofun)
    | _ =>
      rw [at_] at permitted
      exact permitted.elim
  rw [saved] at onward
  obtain ⟨error', thrown⟩ := thrown_of_failed onward
  obtain ⟨before, tx, after, committed⟩ := @committed_of_saved _ .checking nofun saved
  have still := List.mem_cons_of_mem (⟨cfg.world, query, .error error, cfg.world⟩ : Event admin) committed
  exact fun wellFormed => not_clean_of_commit later_run there creates thrown still
    (written_of_past later_run there still) wellFormed.failures

/-- **The bonds of the administration.** In every run whose steps spare the bonds, every bond has two
members, none of them twice, and a child, and every creation that has failed has written nothing;
and a step that does not spare them ends that. -/
theorem bonds_orderly {cfg : Config admin} (run : Run admin (fun cfg move => SparesBonds cfg move = true) cfg) :
    BondsWellFormed cfg ∧ ∀ cfg' move, advance move cfg = some cfg' → SparesBonds cfg move = false →
      ¬BondsWellFormed cfg' := by
  refine ⟨bondsWellFormed_of_run run, fun cfg' move moved unsparing => ?_⟩
  cases acts : cfg.acts move with
  | none => cases move <;> simp [SparesBonds, acts] at unsparing
  | some step =>
    obtain ⟨thread, event, rest⟩ := step
    cases move with
    | nudge how => cases acts
    | arrive entry => cases acts
    | crash index => cases acts
    | turn index =>
      simp only [SparesBonds, acts] at unsparing
      exact not_wellFormed_turn run moved acts unsparing
    | fault index =>
      simp only [SparesBonds, acts, Bool.not_eq_false', Bool.and_eq_true] at unsparing
      exact not_wellFormed_fault run moved acts unsparing.1 unsparing.2

/-! ## Closed runs -/

def turns (index count : ℕ) : List (Move admin) := List.replicate count (.turn index)

def registered (id : Uuid) : Move admin := .nudge (.register ⟨⟨id, "user"⟩, id ++ "@example.com"⟩)

def child : CreateChildDto := ⟨"Mateo", "Paz", none⟩

/-- Three users, and a bond of two of them with one child: all but the read of it. -/
def committed : List (Move admin) :=
  [.nudge (.surroundings { uuids := fun n => String.ofList (List.replicate (n + 1) '#') }),
    registered "u1", registered "u2", registered "u3",
    .arrive (.createBond ⟨"Paz–Gómez", .FORMAL, ["u1", "u2"], some [child]⟩)] ++ turns 0 5

/-- A second child comes, and the first one goes. -/
def replaced : List (Move admin) :=
  committed ++ turns 0 1 ++ [.arrive (.addChildToBond "#" child)] ++ turns 1 2 ++
    [.arrive (.removeChild "####")] ++ turns 2 2

theorem bonds_orderly_replaced : ∃ cfg, Run admin (fun cfg move => SparesBonds cfg move = true) cfg ∧
    cfg.world.bonds.rows.map (·.id) = ["#"] ∧ cfg.world.children.rows.map (·.id) = ["#####"] ∧
      BondsWellFormed cfg ∧ ∀ cfg' move, advance move cfg = some cfg' → SparesBonds cfg move = false →
        ¬BondsWellFormed cfg' := by
  obtain ⟨cfg, run, shown⟩ := exists_played (fun cfg move => SparesBonds cfg move = true) replaced
    (fun cfg => cfg.world.bonds.rows.map (·.id) = ["#"] && cfg.world.children.rows.map (·.id) = ["#####"])
    (by decide +kernel)
  simp only [Bool.and_eq_true, decide_eq_true_eq] at shown
  exact ⟨cfg, run, shown.1, shown.2, bonds_orderly run⟩

/-- The only child is removed; a user is added by two requests at once; and a bond is not read
that was just created. -/
theorem bonds_disorderly :
    (¬∀ cfg, Reachable admin cfg → ∀ bond ∈ cfg.world.bonds.rows, cfg.world.childrenOf bond.id ≠ []) ∧
    (¬∀ cfg, Reachable admin cfg → ∀ bond ∈ cfg.world.bonds.rows,
      ((cfg.world.membersOf bond.id).map (·.userId)).Nodup) ∧
    ¬∀ cfg, Reachable admin cfg → CleanFailures cfg := by
  refine ⟨fun all => ?_, fun all => ?_, fun all => ?_⟩
  · obtain ⟨cfg, run, shown⟩ := exists_played (fun (_ : Config admin) (_ : Move admin) => True)
      (committed ++ [.arrive (.removeChild "####")] ++ turns 1 2)
      (fun cfg => cfg.world.bonds.rows.any fun bond => (cfg.world.childrenOf bond.id).isEmpty)
      (by decide +kernel)
    obtain ⟨bond, there, none_⟩ := List.any_eq_true.mp shown
    exact all cfg run bond there (List.isEmpty_iff.mp none_)
  · obtain ⟨cfg, run, shown⟩ := exists_played (fun (_ : Config admin) (_ : Move admin) => True)
      (committed ++ [.arrive (.addBondMember "#" "u3"), .arrive (.addBondMember "#" "u3")] ++
        turns 1 3 ++ turns 2 4 ++ turns 1 1)
      (fun cfg => cfg.world.bonds.rows.any fun bond =>
        (cfg.world.membersOf bond.id).map (·.userId) = ["u1", "u2", "u3", "u3"])
      (by decide +kernel)
    obtain ⟨bond, there, twice⟩ := List.any_eq_true.mp shown
    have apart := all cfg run bond there
    rw [of_decide_eq_true twice] at apart
    exact absurd apart (by decide)
  · obtain ⟨cfg, run, shown⟩ :=
      exists_played (fun (_ : Config admin) (_ : Move admin) => True) (committed ++ [.fault 0])
      (fun cfg => cfg.threads.any fun thread => thread.entry.creates &&
        (thread.rest matches .throw _) && thread.past.any fun event =>
          event.before.bonds.rows.isEmpty && !event.after.bonds.rows.isEmpty)
      (by decide +kernel)
    obtain ⟨thread, member, shown⟩ := List.any_eq_true.mp shown
    simp only [Bool.and_eq_true, List.any_eq_true, Bool.not_eq_true'] at shown
    obtain ⟨⟨creates, thrown⟩, event, there, empty, written⟩ := shown
    cases shape : thread.rest with
    | throw error =>
      rw [(all cfg run thread member creates error shape event there).bonds, empty] at written
      cases written
    | _ =>
      rw [shape] at thrown
      cases thrown

end ParentalCoord.Admin
