import Mathlib.Data.List.Forall2
import ParentalCoord.Interleaving.Pool

/-!
What one party of a system can learn of the others.

A `View` says which requests and which moves of the world a party sees, and which worlds look
alike to it.  Its conditions speak of one call at a time: a call of a request that is seen goes
the same way in worlds that look alike, and one of a request that is not seen changes nothing
that shows.  From them, whatever the others did in a run, the party could have seen the same
without them.
-/

namespace Interleaving

variable {ι : Interface} {ε α : Type} {sys : System ι ε α}
  {allowed : Config sys → Move sys → Prop} {cfg cfg' : Config sys} {move : Move sys}

namespace Handler

variable {same : (query : ι.Call) → Except ε (ι.Answer query) → Except ε (ι.Answer query) → Prop}
  {agree : α → α → Prop} {handler other : Handler ι ε α}

/-- Two handlers that make the same calls and end alike as long as they are answered the same. -/
inductive Like (same : (query : ι.Call) → Except ε (ι.Answer query) → Except ε (ι.Answer query) → Prop)
    (agree : α → α → Prop) : Handler ι ε α → Handler ι ε α → Prop where
  | ret {value value' : α} (agrees : agree value value') : Like same agree (.ret value) (.ret value')
  | throw (error : ε) : Like same agree (.throw error) (.throw error)
  | call {query : ι.Call} {next next' : Except ε (ι.Answer query) → Handler ι ε α}
      (likes : ∀ answer answer', same query answer answer' → Like same agree (next answer) (next' answer')) :
      Like same agree (.call query next) (.call query next')

/-- Answered alike in every way, a handler goes as it does. -/
theorem like_refl (handler : Handler ι ε α) : handler.Like (fun _ => Eq) Eq handler := by
  induction handler with
  | ret value => exact .ret rfl
  | throw error => exact .throw error
  | call query next ih => exact .call fun answer answer' equal => equal ▸ ih answer

theorem eq_of_like (likes : handler.Like (fun _ => Eq) Eq other) : handler = other := by
  induction likes with
  | ret agrees => exact congrArg _ agrees
  | throw error => rfl
  | call _ ih => exact congrArg _ (funext fun answer => ih answer answer rfl)

end Handler

/-! ## Lists of threads -/

section Lists

variable {τ σ : Type} (keep : τ → Bool) {rows : List τ} {row new : τ} {index : ℕ}
  {related : τ → σ → Prop} {others : List σ} {other : σ}

/-- Where an element of a list stands among those that are kept. -/
theorem exists_place (found : rows[index]? = some row) (kept : keep row) :
    ∃ place, (rows.filter keep)[place]? = some row ∧
      (rows.eraseIdx index).filter keep = (rows.filter keep).eraseIdx place ∧
      ∀ new, keep new → (rows.set index new).filter keep = (rows.filter keep).set place new := by
  induction rows generalizing index with
  | nil => cases found
  | cons first rest ih =>
    cases index with
    | zero =>
      cases found
      refine ⟨0, by simp [kept], by simp [kept], fun new fits => by simp [kept, fits]⟩
    | succ index =>
      obtain ⟨place, here, erased, written⟩ := ih (by simpa using found)
      by_cases heading : keep first
      · refine ⟨place + 1, by simpa [heading] using here, by simp [heading, erased], fun new fits => ?_⟩
        simp [heading, written new fits]
      · refine ⟨place, by simpa [heading] using here, by simp [heading, erased], fun new fits => ?_⟩
        simp [heading, written new fits]

theorem filter_eraseIdx_of_not (found : rows[index]? = some row) (dropped : ¬keep row) :
    (rows.eraseIdx index).filter keep = rows.filter keep := by
  induction rows generalizing index with
  | nil => cases found
  | cons first rest ih =>
    cases index with
    | zero =>
      cases found
      simp [dropped]
    | succ index =>
      rw [List.eraseIdx_cons_succ, List.filter_cons, List.filter_cons, ih (by simpa using found)]

theorem filter_set_of_not (found : rows[index]? = some row) (dropped : ¬keep row) (hidden : ¬keep new) :
    (rows.set index new).filter keep = rows.filter keep := by
  induction rows generalizing index with
  | nil => cases found
  | cons first rest ih =>
    cases index with
    | zero =>
      cases found
      simp [dropped, hidden]
    | succ index => rw [List.set_cons_succ, List.filter_cons, List.filter_cons, ih (by simpa using found)]

theorem getElem?_of_forall₂ (pairs : List.Forall₂ related rows others) (found : rows[index]? = some row) :
    ∃ other, others[index]? = some other ∧ related row other := by
  induction pairs generalizing index with
  | nil => cases found
  | cons pair _ ih =>
    cases index with
    | zero =>
      cases found
      exact ⟨_, rfl, pair⟩
    | succ index => simpa using ih (by simpa using found)

theorem forall₂_set (pairs : List.Forall₂ related rows others) (pair : related new other) :
    List.Forall₂ related (rows.set index new) (others.set index other) := by
  induction pairs generalizing index with
  | nil => exact .nil
  | cons first rest ih =>
    cases index with
    | zero => exact .cons pair rest
    | succ index => exact .cons first ih

theorem forall₂_eraseIdx (pairs : List.Forall₂ related rows others) :
    List.Forall₂ related (rows.eraseIdx index) (others.eraseIdx index) := by
  induction pairs generalizing index with
  | nil => exact .nil
  | cons first rest ih =>
    cases index with
    | zero => exact rest
    | succ index => exact .cons first ih

end Lists

/-- What moves lead to from where other moves have led to. -/
theorem Onward.trans {first second third : Config sys} (onward : Onward sys allowed first second)
    (more : Onward sys allowed second third) : Onward sys allowed first third := by
  induction more with
  | here => exact onward
  | step _ permitted moved ih => exact ih.step permitted moved

/-- What moves lead to under a stricter condition. -/
theorem Onward.weaken {stricter : Config sys → Move sys → Prop} {first : Config sys}
    (onward : Onward sys stricter first cfg) (implied : ∀ cfg move, stricter cfg move → allowed cfg move) :
    Onward sys allowed first cfg := by
  induction onward with
  | here => exact .here
  | step _ permitted moved ih => exact ih.step (implied _ _ permitted) moved

/-- A thread at a call can go on with any answer that the world gives. -/
theorem exists_advance {thread : Thread sys} {query : ι.Call}
    {next : Except ε (ι.Answer query) → Handler ι ε α} {answer : Except ε (ι.Answer query)}
    {after : sys.World} {index : ℕ} (found : cfg.threads[index]? = some thread)
    (waits : thread.rest = .call query next) (answers : Answers sys query cfg.world answer after) :
    ∃ move, (move = .turn index ∨ move = .fault index) ∧ advance move cfg = some
      ⟨after, cfg.threads.set index (thread.after ⟨cfg.world, query, answer, after⟩ (next answer))⟩ := by
  rcases answers.elim with ⟨rfl, rfl⟩ | ⟨error, may, rfl, rfl⟩
  · refine ⟨.turn index, .inl rfl, ?_⟩
    simp [advance, Config.acts, found, Thread.turn, waits, served]
  · refine ⟨.fault index, .inr rfl, ?_⟩
    simp [advance, Config.acts, found, Thread.fault, waits, may, failed]

/-- A call and its answer. -/
abbrev Told (ι : Interface) (ε : Type) := Σ query : ι.Call, Except ε (ι.Answer query)

/-- What a thread has learnt, the latest first. -/
def Thread.tale (thread : Thread sys) : List (Told ι ε) :=
  thread.past.map fun event => ⟨event.query, event.answer⟩

/-! ## Views -/

structure View (sys : System ι ε α) where
  sees : sys.Entry → Bool
  shows : sys.Nudge → Bool
  alike : sys.World → sys.World → Prop
  /-- How far the answers to a request that is seen are the same to the party. -/
  same : sys.Entry → (query : ι.Call) → Except ε (ι.Answer query) → Except ε (ι.Answer query) → Prop
  agree : sys.Entry → α → α → Prop
  makes : sys.Entry → ι.Call → Prop
  calls : ∀ entry, (sys.handler entry).Calls (makes entry)
  begins : ∀ entry, sees entry → (sys.handler entry).Like (same entry) (agree entry) (sys.handler entry)
  fails : ∀ entry query error, sees entry → makes entry query →
    same entry query (.error error) (.error error)
  seen : ∀ entry query world world', sees entry → makes entry query → alike world world' →
    same entry query (sys.serve query world).1 (sys.serve query world').1 ∧
      alike (sys.serve query world).2 (sys.serve query world').2
  unseen : ∀ entry query world world', ¬sees entry → makes entry query → alike world world' →
    alike (sys.serve query world).2 world'
  nudged : ∀ how world world', alike world world' →
    (shows how ∧ alike (sys.nudge how world) (sys.nudge how world')) ∨ alike (sys.nudge how world) world'

namespace View

variable {view : View sys} {thread other : Thread sys}

inductive SameTold (same : (query : ι.Call) → Except ε (ι.Answer query) → Except ε (ι.Answer query) → Prop) :
    Told ι ε → Told ι ε → Prop where
  | told {query : ι.Call} {answer answer' : Except ε (ι.Answer query)} (equal : same query answer answer') :
      SameTold same ⟨query, answer⟩ ⟨query, answer'⟩

/-- Two threads of one request that have been told the same and go on alike. -/
structure LikeThread (view : View sys) (thread other : Thread sys) : Prop where
  entry : thread.entry = other.entry
  past : List.Forall₂ (SameTold (view.same thread.entry)) thread.tale other.tale
  rest : thread.rest.Like (view.same thread.entry) (view.agree thread.entry) other.rest

/-- What the party sees of one configuration is all that there is in the other. -/
structure LikeConfig (view : View sys) (cfg other : Config sys) : Prop where
  world : view.alike cfg.world other.world
  threads : List.Forall₂ view.LikeThread (cfg.threads.filter (view.sees ·.entry)) other.threads

/-- The moves that the party sees. -/
def Visible (view : View sys) (_ : Config sys) : Move sys → Prop
  | .nudge how => view.shows how
  | .arrive entry => view.sees entry
  | _ => True

theorem likeThread_begin {entry : sys.Entry} (sees : view.sees entry) :
    view.LikeThread (Thread.begin sys entry) (Thread.begin sys entry) :=
  ⟨rfl, .nil, view.begins entry sees⟩

/-- Where what the party is told of is exact, the threads have been told and will do the same. -/
theorem LikeThread.exact (likes : view.LikeThread thread other)
    (same : view.same thread.entry = fun _ => Eq) (agree : view.agree thread.entry = Eq) :
    thread.tale = other.tale ∧ thread.rest = other.rest := by
  have past := likes.past
  have rest := likes.rest
  rw [same] at past
  rw [same, agree] at rest
  refine ⟨?_, Handler.eq_of_like rest⟩
  have equal : SameTold (ι := ι) (ε := ε) (fun _ => Eq) = Eq := by
    funext first second
    refine propext ⟨fun told => ?_, ?_⟩
    · cases told with
      | told equal => rw [equal]
    · rintro rfl
      exact .told rfl
  rwa [equal, List.forall₂_eq_eq_eq] at past

/-- A move of a run, with what the party sees of it. -/
theorem advance_like {beside : Config sys} (likes : view.LikeConfig cfg beside)
    (calls : ∀ thread ∈ cfg.threads, thread.rest.Calls (view.makes thread.entry))
    (moved : advance move cfg = some cfg') :
    ∃ beside', Onward sys view.Visible beside beside' ∧ view.LikeConfig cfg' beside' := by
  obtain ⟨world, threads⟩ := likes
  rcases advance_cases moved with ⟨how, rfl, rfl⟩ | ⟨entry, rfl, rfl⟩ | ⟨index, rfl, rfl⟩ |
    ⟨index, thread, event, rest, at_, acts, rfl⟩
  · rcases view.nudged how _ _ world with ⟨shown, alike⟩ | alike
    · exact ⟨_, Onward.here.step (show view.Visible beside (.nudge how) from shown) rfl, alike, threads⟩
    · exact ⟨_, .here, alike, threads⟩
  · by_cases sees : view.sees entry
    · refine ⟨_, Onward.here.step (show view.Visible beside (.arrive entry) from sees) rfl, world, ?_⟩
      have kept : [Thread.begin sys entry].filter (view.sees ·.entry) = [Thread.begin sys entry] :=
        List.filter_cons_of_pos sees
      rw [List.filter_append, kept]
      exact List.rel_append threads (.cons (likeThread_begin sees) .nil)
    · refine ⟨_, .here, world, ?_⟩
      have dropped : [Thread.begin sys entry].filter (view.sees ·.entry) = [] :=
        List.filter_cons_of_neg sees
      rwa [List.filter_append, dropped, List.append_nil]
  · cases found : cfg.threads[index]? with
    | none =>
      rw [List.eraseIdx_of_length_le (List.getElem?_eq_none_iff.mp found)]
      exact ⟨_, .here, world, threads⟩
    | some thread =>
      by_cases sees : view.sees thread.entry
      · obtain ⟨place, -, erased, -⟩ := exists_place (view.sees ·.entry) found sees
        refine ⟨_, Onward.here.step (show view.Visible beside (.crash place) from trivial) rfl, world, ?_⟩
        rw [erased]
        exact forall₂_eraseIdx threads
      · refine ⟨_, .here, world, ?_⟩
        rwa [filter_eraseIdx_of_not (view.sees ·.entry) found sees]
  · obtain ⟨mine, query, next, answer, after, waits, rfl, rfl, answers⟩ := acts_cases acts
    have own := calls thread mine
    rw [waits] at own
    by_cases sees : view.sees thread.entry
    · obtain ⟨place, here, -, written⟩ := exists_place (view.sees ·.entry) at_ sees
      obtain ⟨twin, there, entry, past, going⟩ := getElem?_of_forall₂ threads here
      rw [waits] at going
      generalize stands : twin.rest = left at going
      cases going with
      | @call _ _ next' likes =>
        -- the twin is answered the same way, by being served or by failing too
        obtain ⟨answer', after', answers', same, alike⟩ : ∃ answer' after',
            Answers sys query beside.world answer' after' ∧ view.same thread.entry query answer answer' ∧
              view.alike after after' := by
          rcases answers.elim with ⟨rfl, rfl⟩ | ⟨error, may, rfl, rfl⟩
          · obtain ⟨same, alike⟩ := view.seen _ _ _ _ sees own.1 world
            exact ⟨_, _, .served _, same, alike⟩
          · exact ⟨_, _, .failed _ may, view.fails _ _ _ sees own.1, world⟩
        obtain ⟨move', visible, moved'⟩ := exists_advance there stands answers'
        refine ⟨_, Onward.here.step ?_ moved', alike, ?_⟩
        · rcases visible with rfl | rfl <;> trivial
        · dsimp only
          rw [written (thread.after _ _) sees]
          exact forall₂_set threads ⟨entry, .cons (.told same) past, likes _ _ same⟩
    · refine ⟨_, .here, ?_, ?_⟩
      · rcases answers.elim with ⟨rfl, rfl⟩ | ⟨error, may, rfl, rfl⟩
        · exact view.unseen _ _ _ _ sees own.1 world
        · exact world
      · dsimp only
        rwa [filter_set_of_not (view.sees ·.entry) at_ sees (show ¬view.sees (thread.after _ _).entry from sees)]

/-- A request makes the calls that its handler may make. -/
theorem calls_of_run (view : View sys) (run : Run sys allowed cfg) :
    ∀ thread ∈ cfg.threads, thread.rest.Calls (view.makes thread.entry) := by
  induction run with
  | start => simp
  | step _ _ moved ih =>
    intro thread member
    rcases thread_came moved member with old | ⟨entry, rfl⟩ | ⟨acting, event, rest, acts, -, rfl⟩
    · exact ih thread old
    · exact view.calls entry
    · obtain ⟨mine, query, next, answer, after, waits, rfl, rfl, -⟩ := acts_cases acts
      have own := ih acting mine
      rw [waits] at own
      exact own.2 answer

/-- Whatever happens in a run, the party could see the same of one with nothing in it that the
party does not see. -/
theorem exists_visible (view : View sys) {first : sys.World} (alike : view.alike sys.start first)
    (run : Run sys allowed cfg) :
    ∃ beside, Onward sys view.Visible ⟨first, []⟩ beside ∧ view.LikeConfig cfg beside := by
  induction run with
  | start => exact ⟨_, .here, alike, .nil⟩
  | step earlier _ moved ih =>
    obtain ⟨beside, onward, likes⟩ := ih
    obtain ⟨beside', more, likes'⟩ := advance_like likes (view.calls_of_run earlier) moved
    exact ⟨beside', onward.trans more, likes'⟩

end View

end Interleaving
