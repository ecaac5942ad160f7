import ParentalCoord.Admin.WellFormed
import ParentalCoord.Interleaving.Protocol

/-!
The requests of the administration, among each other.

A request that does not create a bond makes one write, and what this write needs does not
depend on what was read before it.  The creation of a bond commits what its checks promise:
two users that are there are two different users.
-/

namespace ParentalCoord.Admin

open Bonds Interleaving Store

/-- A call that fails and writes nothing, or one that is served and spares every bond. -/
def Spared (entry : Entry) : Event admin → Prop
  | ⟨before, query, answer, after⟩ =>
      (∃ error, answer = .error error ∧ after = before ∧ (entry.creates && query.enriches) = false) ∨
      (answer = (serve query before).1 ∧ after = (serve query before).2 ∧ before.spares query = true)

/-- What has failed has written nothing, where steps spare the bonds. -/
def Created (sparing : Prop) {α : Type} (result : Except Exception α) (past : List (Event admin)) : Prop :=
  match result with
  | .ok _ => True
  | .error _ => sparing → Quiet past

/-- Where steps spare the bonds, every bond keeps what it needs; and wherever a commit is made, it
is one of a bond. -/
def upkeep (sparing : Prop) : Discipline admin where
  inv world := sparing → RowsWellFormed world
  rely _ _ := True
  assumes entry _ event := sparing → Spared entry event
  guar _ _ event := ∀ tx, event.query = .commit tx → tx.bonds ≠ []
  post entry result past := entry.creates → Created sparing result past

/-- It is not the commit of a bond that is created. -/
def Call.plain : Call → Bool
  | .commit _ => false
  | _ => true

def Call.writes : Call → Bool
  | .commit _ | .saveBond _ | .createMember _ _ | .createChild _ _ | .saveChild _ | .removeChild _ => true
  | _ => false

variable {sparing : Prop} {entry : Entry} {query : Call} {before after world : World}
  {answer : Except Exception (interface.Answer query)} {past : List (Event admin)} {dto : CreateBondDto}

theorem sound_of_spared (sound : RowsWellFormed before) (spared : Spared entry ⟨before, query, answer, after⟩)
    (fits : ∀ tx, query = .commit tx → ∀ later, before.commit tx = some later → WholeBonds before tx) :
    RowsWellFormed after := by
  rcases spared with ⟨_, -, rfl, -⟩ | ⟨-, rfl, spares⟩
  · exact sound
  · exact sound.serve spares fits

theorem wholeBonds_of_plain (plain : query.plain) : ∀ tx, query = .commit tx → ∀ later,
    before.commit tx = some later → WholeBonds before tx := by
  rintro tx rfl
  cases plain

/-! ## Requests that create no bond -/

theorem handler_plain (plain : entry.creates = false) : (handler entry).Calls fun query : Call => query.plain := by
  have reads {query : Call} (plain : query.plain) : (perform query).Calls fun query : Call => query.plain :=
    Handler.calls_perform.mpr plain
  cases entry with
  | createBond dto => cases plain
  | addBondMember bondId userId =>
    refine (reads rfl).bind fun bond => ?_
    cases bond with
    | none => trivial
    | some bond =>
      refine (reads rfl).bind fun user => ?_
      cases user with
      | none => trivial
      | some user =>
        refine (reads rfl).bind fun existing => ?_
        cases existing with
        | none => exact (reads rfl).bind fun saved => trivial
        | some member => trivial
  | setBondActive bondId isActive =>
    refine (reads rfl).bind fun bond => ?_
    cases bond with
    | none => trivial
    | some loaded => exact (reads rfl).bind fun saved => trivial
  | addChildToBond bondId dto =>
    refine (reads rfl).bind fun bond => ?_
    cases bond with
    | none => trivial
    | some bond => exact (reads rfl).bind fun saved => trivial
  | updateChild childId dto =>
    refine (reads rfl).bind fun child => ?_
    cases child with
    | none => trivial
    | some child =>
      dsimp only
      cases child.assign dto with
      | none => trivial
      | some child => exact (reads rfl).bind fun saved => trivial
  | removeChild childId =>
    refine (reads rfl).bind fun child => ?_
    cases child with
    | none => trivial
    | some child => exact (reads rfl).bind fun _ => trivial

theorem plain_keeps (plain : entry.creates = false) :
    (upkeep sparing).Keeps entry ((upkeep sparing).post entry) (handler entry) [] := by
  refine .of_calls (handler_plain plain) ?_ fun result added _ creates => ?_
  · intro query ordinary past before answer after sound _ spared
    refine ⟨?_, fun assumed => sound_of_spared (sound assumed) (spared assumed) (wholeBonds_of_plain ordinary)⟩
    rintro tx rfl
    cases ordinary
  · rw [plain] at creates
    cases creates

/-! ## The creation of a bond -/

theorem sameRows_serve (reads : query.writes = false) : SameRows world (serve query world).2 := by
  cases query with
  | commit _ => cases reads
  | saveBond _ => cases reads
  | createMember _ _ => cases reads
  | createChild _ _ => cases reads
  | saveChild _ => cases reads
  | removeChild _ => cases reads
  | _ => exact ⟨rfl, rfl, rfl⟩

theorem sameRows_of_answers (reads : query.writes = false)
    (answers : Answers admin query before answer after) : SameRows before after := by
  rcases answers.elim with ⟨-, rfl⟩ | ⟨-, -, -, rfl⟩
  · exact sameRows_serve reads
  · exact .refl _

theorem Quiet.cons {event : Event admin} (quiet : Quiet past) (same : SameRows event.before event.after) :
    Quiet (event :: past) := by
  intro other member
  rcases List.mem_cons.mp member with rfl | earlier
  · exact same
  · exact quiet other earlier

/-- A read that goes on with what it was served. -/
theorem reads_bind {α : Type} {rest : interface.Answer query → Request α} (reads : query.writes = false)
    (quiet : sparing → Quiet past)
    (more : ∀ world value past, (sparing → Quiet past) → (serve query world).1 = .ok value →
      (upkeep sparing).Keeps entry (Created sparing) (rest value) past) :
    (upkeep sparing).Keeps entry (Created sparing) ((perform query).bind rest) past := by
  refine .perform_bind fun before answer after _ sound answers spared => ?_
  have plain : query.plain := by
    cases query <;> first | rfl | cases reads
  have still (assumed : sparing) : Quiet (⟨before, query, answer, after⟩ :: past) :=
    (quiet assumed).cons (sameRows_of_answers reads answers)
  refine ⟨?_, fun assumed => sound_of_spared (sound assumed) (spared assumed) (wholeBonds_of_plain plain), ?_⟩
  · rintro tx rfl
    cases plain
  · cases answer with
    | error error => exact still
    | ok value =>
      rcases answers.elim with ⟨served, -⟩ | ⟨error, -, never, -⟩
      · exact more before value _ still served.symm
      · cases never

/-- As many users as ids are found only when no id is there twice. -/
theorem nodup_of_found {ids : List Uuid}
    (all : (world.users.rows.filter (·.id ∈ ids)).length = ids.length) : ids.Nodup := by
  have apart : ((world.users.rows.filter (·.id ∈ ids)).map (·.id)).Nodup :=
    (List.filter_sublist.map _).nodup world.users.unique
  have within : (world.users.rows.filter (·.id ∈ ids)).map (·.id) ⊆ ids := by
    intro id found
    obtain ⟨user, kept, rfl⟩ := List.mem_map.mp found
    exact of_decide_eq_true (List.mem_filter.mp kept).2
  have same := (List.subperm_of_subset apart within).perm_of_length_le (by rw [List.length_map, all])
  exact same.nodup_iff.mp apart

/-- A bond has a free key when it is committed. -/
theorem free_of_commit {bond : StoredBond} {tx : Transaction} (only : tx.bonds = [bond])
    (done : world.commit tx = some after) : world.bonds.get bond.id = none := by
  obtain ⟨bonds, bonded, -⟩ := Option.bind_eq_some_iff.mp done
  rw [only] at bonded
  obtain ⟨next, accepted, -⟩ := Option.bind_eq_some_iff.mp bonded
  exact (Table.get_insert accepted).1

/-- A bond that is new comes with what it needs. -/
theorem fits_bond {bond : StoredBond} {tx : Transaction} (sound : RowsWellFormed world) (only : tx.bonds = [bond])
    (own : ∀ member ∈ tx.members, member.bondId = bond.id) (two : 2 ≤ tx.members.length)
    (apart : (tx.members.map (·.userId)).Nodup) (child : ∃ child ∈ tx.children, child.bondId = bond.id)
    (done : world.commit tx = some after) : WholeBonds world tx := by
  refine ⟨fun bondId => (List.filter_sublist.map _).nodup apart, fun member there => ?_,
    fun other there => ?_⟩
  · refine not_joined.mpr fun old known same => ?_
    have absent := (sound.absent (free_of_commit only done)).1
    have member : old ∈ world.membersOf bond.id :=
      List.mem_filter.mpr ⟨known, decide_eq_true (same.trans (own _ there))⟩
    rw [absent] at member
    cases member
  · rw [only, List.mem_singleton] at there
    subst there
    refine ⟨?_, child⟩
    rw [List.filter_eq_self.mpr fun member there => decide_eq_true (own member there)]
    exact two

/-- The commit of a bond writes nothing where it fails. -/
theorem commit_keeps {tx : Transaction} (quiet : sparing → Quiet past) (bonds : tx.bonds ≠ [])
    (fits : ∀ world after, RowsWellFormed world → world.commit tx = some after → WholeBonds world tx) :
    (upkeep sparing).Keeps entry (Created sparing) (perform (.commit tx)) past := by
  refine .perform fun before answer after _ sound answers spared => ⟨?_, ?_, ?_⟩
  · rintro other same
    cases same
    exact bonds
  · refine fun assumed => sound_of_spared (sound assumed) (spared assumed) fun other same later done => ?_
    cases same
    exact fits before later (sound assumed) done
  · cases answer with
    | ok _ => trivial
    | error error =>
      refine fun assumed => (quiet assumed).cons ?_
      rcases spared assumed with ⟨_, -, rfl, -⟩ | ⟨failed, rfl, spares⟩
      · exact .refl _
      · simp only [serve] at failed ⊢
        cases done : before.commit tx with
        | none => exact .refl _
        | some written =>
          rw [done] at failed
          have acknowledged : before.surroundings.acknowledges = true := by
            simpa [World.spares, done] using spares
          simp [World.answered, acknowledged] at failed

theorem map_newMember (world : World) (bondId : Uuid) (userIds : List Uuid) :
    (userIds.mapIdx fun index userId => world.newMember bondId userId index).map (·.userId) = userIds := by
  refine List.ext_getElem? fun index => ?_
  rw [List.getElem?_map, List.getElem?_mapIdx, Option.map_map]
  exact Option.map_id'

theorem transaction_keeps {children : List CreateChildDto} (quiet : sparing → Quiet past)
    (two : dto.userIds.length = 2) (apart : dto.userIds.Nodup) (some_ : children ≠ []) :
    (upkeep sparing).Keeps entry (Created sparing) (createBondTransaction dto children) past := by
  refine reads_bind rfl quiet fun world created past quiet first => ?_
  cases first
  refine reads_bind rfl quiet fun members tx past quiet second => ?_
  cases second
  refine reads_bind rfl quiet fun born tx past quiet third => ?_
  cases third
  refine .bind ((commit_keeps quiet (List.cons_ne_nil _ _) ?_).mono fun result later shown => ?_)
  · intro before after sound done
    refine fits_bond sound rfl ?_ ?_ ?_ ?_ done
    · intro member there
      obtain ⟨index, _, rfl⟩ := List.mem_mapIdx.mp there
      rfl
    · rw [List.length_mapIdx, two]
    · exact (map_newMember _ _ _).symm ▸ apart
    · obtain ⟨dto, rest, rfl⟩ := List.exists_cons_of_ne_nil some_
      exact ⟨_, List.mem_mapIdx.mpr ⟨0, by simp, rfl⟩, rfl⟩
  · cases result with
    | ok _ => trivial
    | error error => exact shown

theorem createBond_keeps (dto : CreateBondDto) :
    (upkeep sparing).Keeps (.createBond dto) (Created sparing) (createBond dto) [] := by
  have quiet (_ : sparing) : Quiet [] := by simp [Quiet]
  unfold createBond
  split
  · exact quiet
  · rename_i two
    rw [not_not] at two
    split
    · exact quiet
    · exact quiet
    · rename_i first rest sent
      refine reads_bind rfl quiet fun world users past quiet found => ?_
      cases found
      dsimp only
      split
      · exact quiet
      · rename_i all
        have apart := nodup_of_found (not_not.mp all)
        refine .bind ((transaction_keeps quiet two apart (List.cons_ne_nil _ _)).mono ?_)
        intro result later shown
        cases result with
        | error error => exact shown
        | ok bond =>
          refine .perform_bind fun before answer after _ sound answers spared => ?_
          refine ⟨nofun, fun assumed => sound_of_spared (sound assumed) (spared assumed) (wholeBonds_of_plain rfl), ?_⟩
          cases answer with
          | ok enriched => trivial
          | error error =>
            intro assumed
            rcases spared assumed with ⟨_, -, -, never⟩ | ⟨never, -⟩
            · cases never
            · cases never

theorem upkeep_sound (sparing : Prop) : (upkeep sparing).Sound where
  refl _ := trivial
  trans _ _ := trivial
  start _ := ⟨nofun, rfl⟩
  nudge how world sound := by
    refine ⟨fun assumed => ?_, trivial⟩
    replace sound := sound assumed
    cases how with
    | tick ms => exact sound.of_same ⟨rfl, rfl, rfl⟩ fun _ there => there
    | surroundings surroundings => exact sound.of_same ⟨rfl, rfl, rfl⟩ fun _ there => there
    | register user =>
      refine sound.of_same ⟨rfl, rfl, rfl⟩ fun id there => ?_
      change (((world.users.insert user).getD world.users).get id).isSome
      cases inserted : world.users.insert user with
      | none => exact there
      | some users => exact Table.isSome_get_insert inserted there
  guar_rely _ _ := trivial
  handlers entry := by
    by_cases creates : entry.creates
    · cases entry with
      | createBond dto => exact (createBond_keeps dto).mono fun _ _ shown _ => shown
      | _ => cases creates
    · exact plain_keeps (Bool.eq_false_iff.mpr creates)

/-- What the steps of a run meet, the requests count on. -/
theorem upkeep_supplied : (upkeep True).Supplies fun cfg move => SparesBonds cfg move = true := by
  intro cfg move thread event rest run sparing acts _
  cases move with
  | nudge how => cases acts
  | arrive entry => cases acts
  | crash index => cases acts
  | turn index =>
    simp only [SparesBonds, acts] at sparing
    rw [served_of_turn acts] at sparing ⊢
    exact .inr ⟨rfl, rfl, sparing⟩
  | fault index =>
    obtain ⟨error, same⟩ := failed_of_fault acts
    simp only [SparesBonds, acts, Bool.not_eq_true'] at sparing
    rw [same]
    exact .inl ⟨error, rfl, rfl, sparing⟩

theorem bondsWellFormed_of_run {cfg : Config admin} (run : Run admin (fun cfg move => SparesBonds cfg move = true) cfg) :
    BondsWellFormed cfg := by
  have sound := upkeep_sound True
  refine ⟨((run.disciplined sound upkeep_supplied).1 trivial).bonds, ?_⟩
  intro thread member creates error thrown
  exact (run.ended sound upkeep_supplied member).2 error thrown creates trivial

end ParentalCoord.Admin
