import Mathlib.Data.List.Infix
import Mathlib.Data.List.TakeWhile
import ParentalCoord.Replacing

/-!
Taking tokens out of a text.

A token begins at the boundary of a word with letters that are fixed, and goes on for as long as it
can.  All of them are replaced in one pass from the left, and what is put in their place does not
look like a part of one.  Nothing is left then that would be taken for a token in the text as it is
afterwards, nor in one that it is written into with escapes.
-/

namespace ParentalCoord

variable {α : Type} [DecidableEq α]

/-- A boundary, letters that are fixed, and at least so many out of a class. -/
structure Token (α : Type) where
  opening : α
  more : List α
  inside : α → Bool
  least : ℕ
  word : α → Bool
  inside_opening : inside opening

/-- What is put in the place of a token. -/
structure Token.Mark (token : Token α) where
  first : α
  rest : List α
  first_fixed : first ∉ token.opening :: token.more
  first_inside : token.inside first = false
  opening_first : token.opening ≠ first
  opening_rest : token.opening ∉ rest

namespace Token

variable (token : Token α)

/-- What follows the fixed letters as long as it can. -/
def run (text : List α) : List α := (text.drop (token.more.length + 1)).takeWhile token.inside

/-- The text begins with a token, after a last element of what comes before it. -/
def here (last : Option α) (text : List α) : Bool :=
  !last.any token.word && (token.opening :: token.more).isPrefixOf text &&
    token.least ≤ (token.run text).length

/-- One pass from the left, with what is left to skip of the token that was found last. -/
def replace (mark : token.Mark) : ℕ → Option α → List α → List α
  | _, _, [] => []
  | skip + 1, _, c :: text => replace mark skip (some c) text
  | 0, last, c :: text =>
      if token.here last (c :: text) then
        mark.first :: mark.rest ++
          replace mark (token.more.length + (token.run (c :: text)).length) (some c) text
      else c :: replace mark 0 (some c) text

/-- There is a token somewhere in the text. -/
def occurs (last : Option α) : List α → Bool
  | [] => false
  | c :: text => token.here last (c :: text) || occurs (some c) text

variable {token} {mark : token.Mark} {last last' : Option α} {text wanted rest : List α} {c : α}

theorem here_iff : token.here last text ↔ last.any token.word = false ∧ ∃ run, run.length = token.least ∧
    (∀ c ∈ run, token.inside c) ∧ token.opening :: token.more ++ run <+: text := by
  simp only [here, Bool.and_eq_true, Bool.not_eq_true', decide_eq_true_eq, List.isPrefixOf_iff_prefix,
    and_assoc]
  refine and_congr_right fun _ => ⟨?_, ?_⟩
  · rintro ⟨⟨tail, rfl⟩, enough⟩
    have dropped : (token.opening :: token.more ++ tail).drop (token.more.length + 1) = tail :=
      List.drop_left
    rw [run, dropped] at enough
    refine ⟨(tail.takeWhile token.inside).take token.least, ?_, fun c member => ?_, ?_⟩
    · rw [List.length_take, Nat.min_eq_left enough]
    · exact List.mem_takeWhile_imp (List.mem_of_mem_take member)
    · rw [List.prefix_append_right_inj]
      exact (List.take_prefix _ _).trans (List.takeWhile_prefix _)
  · rintro ⟨run, length, within, tail, rfl⟩
    refine ⟨⟨run ++ tail, by rw [List.append_assoc]⟩, ?_⟩
    have dropped : (token.opening :: token.more ++ run ++ tail).drop (token.more.length + 1) = run ++ tail := by
      rw [List.append_assoc]
      exact List.drop_left
    rw [Token.run, dropped, List.takeWhile_append_of_pos within, List.length_append, length]
    omega

/-- A token is told by its beginning. -/
theorem here_of_begun (found : token.here last text)
    (same : ∀ wanted, (∀ c ∈ wanted, c ∈ token.opening :: token.more ∨ token.inside c) → wanted <+: text →
      wanted <+: rest) (bounded : last.any token.word = false → last'.any token.word = false) :
    token.here last' rest := by
  obtain ⟨boundary, run, length, within, found⟩ := here_iff.mp found
  refine here_iff.mpr ⟨bounded boundary, run, length, within, same _ ?_ found⟩
  intro c member
  rcases List.mem_append.mp member with fixed | member
  · exact .inl fixed
  · exact .inr (within c member)

theorem not_here_of_ne (other : c ≠ token.opening) : token.here last (c :: text) = false := by
  rw [Bool.eq_false_iff]
  intro found
  obtain ⟨-, run, -, -, found⟩ := here_iff.mp found
  exact other (List.cons_prefix_cons.mp found).1.symm

/-! ## One pass -/

/-- What is kept at the beginning was there. -/
theorem prefix_of_replace (apart : mark.first ∉ wanted) (kept : wanted <+: token.replace mark 0 last text) :
    wanted <+: text := by
  induction text generalizing last wanted with
  | nil => exact kept
  | cons c text ih =>
    unfold replace at kept
    cases wanted with
    | nil => exact List.nil_prefix
    | cons first more =>
      split at kept
      · exact absurd (List.cons_prefix_cons.mp kept).1 fun same => apart (by simp [same])
      · obtain ⟨rfl, kept⟩ := List.cons_prefix_cons.mp kept
        exact List.cons_prefix_cons.mpr
          ⟨rfl, ih (fun member => apart (List.mem_cons_of_mem _ member)) kept⟩

/-- Where a token cannot begin none is added. -/
theorem occurs_append_of_not_mem {front : List α} (apart : token.opening ∉ front)
    (clean : ∀ last, token.occurs last text = false) : token.occurs last (front ++ text) = false := by
  induction front generalizing last with
  | nil => exact clean last
  | cons c front ih =>
    rw [List.cons_append, occurs, not_here_of_ne fun same => apart (by simp [same]), Bool.false_or]
    exact ih fun member => apart (List.mem_cons_of_mem _ member)

omit [DecidableEq α] in
/-- After a token that has been skipped comes what it could not go on with. -/
theorem head_after_run (token : Token α) (text : List α) :
    ∀ c, (text.drop (token.more.length + 1 + (token.run text).length)).head? = some c →
      token.inside c = false := by
  intro c head
  rw [← List.drop_drop, run] at head
  have stops := List.head?_dropWhile_not token.inside (text.drop (token.more.length + 1))
  have parts : (text.drop (token.more.length + 1)).takeWhile token.inside ++
      (text.drop (token.more.length + 1)).dropWhile token.inside = text.drop (token.more.length + 1) :=
    List.takeWhile_append_dropWhile
  have after := @List.drop_left _ ((text.drop (token.more.length + 1)).takeWhile token.inside)
    ((text.drop (token.more.length + 1)).dropWhile token.inside)
  rw [parts] at after
  rw [← after, head] at stops
  exact stops

/-- **No token is left.**  Either the last element of the result is that of the text, or a token has
been skipped, and what comes then does not begin one. -/
theorem occurs_replace (skip : ℕ)
    (state : skip = 0 ∧ last' = last ∨ ∀ c, (text.drop skip).head? = some c → token.inside c = false) :
    token.occurs last' (token.replace mark skip last text) = false := by
  induction text generalizing skip last last' with
  | nil => cases skip <;> rfl
  | cons c text ih =>
    cases skip with
    | succ skip =>
      refine ih skip (.inr ?_)
      rcases state with ⟨zero, -⟩ | after
      · cases zero
      · exact after
    | zero =>
      unfold replace
      split
      · rename_i found
        refine occurs_append_of_not_mem ?_ fun last => ih _ (.inr ?_)
        · simp [mark.opening_first, mark.opening_rest]
        · have after := token.head_after_run (c :: text)
          rwa [Nat.add_right_comm, List.drop_succ_cons] at after
      · rename_i absent
        rw [occurs, ih 0 (.inl ⟨rfl, rfl⟩), Bool.or_false, Bool.eq_false_iff]
        intro found
        rcases state with ⟨-, rfl⟩ | after
        · refine absent (here_of_begun found (fun wanted within kept => ?_) id)
          refine @prefix_of_replace _ _ token mark last' (c :: text) wanted (fun member => ?_) ?_
          · rcases within _ member with fixed | inside
            · exact mark.first_fixed fixed
            · rw [mark.first_inside] at inside
              cases inside
          · rwa [replace, if_neg absent]
        · have other : c ≠ token.opening := by
            rintro rfl
            have outside := after token.opening rfl
            rw [token.inside_opening] at outside
            cases outside
          rw [not_here_of_ne other] at found
          cases found

/-! ## Texts that are put together -/

theorem occurs_of_not_mem (apart : token.opening ∉ text) : token.occurs last text = false := by
  have clean := @occurs_append_of_not_mem _ _ token last [] text apart fun _ => rfl
  rwa [List.append_nil] at clean

/-- Only whether a word goes on matters of what comes before. -/
theorem occurs_congr (same : last.any token.word = last'.any token.word) :
    token.occurs last text = token.occurs last' text := by
  cases text with
  | nil => rfl
  | cons c text => rw [occurs, occurs, here, here, same]

/-- What a token cannot have in it, and no word either. -/
structure Breaks (token : Token α) (stop : α) : Prop where
  fixed : stop ∉ token.opening :: token.more
  inside : token.inside stop = false
  word : token.word stop = false

/-- A token stands on one side of a break. -/
theorem occurs_break {stop : α} (breaks : token.Breaks stop) (front : List α) :
    token.occurs last (front ++ stop :: text) = (token.occurs last front || token.occurs none text) := by
  have apart : ∀ wanted : List α, (∀ c ∈ wanted, c ∈ token.opening :: token.more ∨ token.inside c) →
      stop ∉ wanted := by
    intro wanted within member
    rcases within stop member with fixed | inside
    · exact breaks.fixed fixed
    · rw [breaks.inside] at inside
      cases inside
  induction front generalizing last with
  | nil =>
    have other : stop ≠ token.opening := by
      rintro rfl
      exact breaks.fixed List.mem_cons_self
    change (token.here last (stop :: text) || token.occurs (some stop) text) = _
    rw [not_here_of_ne other]
    exact congrArg (false || ·) (occurs_congr (by simp [breaks.word]))
  | cons c front ih =>
    have same : token.here last (c :: (front ++ stop :: text)) = token.here last (c :: front) := by
      rw [Bool.eq_iff_iff]
      constructor
      · intro found
        exact here_of_begun found
          (fun wanted within kept => @prefix_of_apart _ wanted (c :: front) text stop (apart wanted within) kept) id
      · intro found
        exact here_of_begun found
          (fun wanted _ kept => kept.trans (List.prefix_append (c :: front) (stop :: text))) id
    rw [List.cons_append, occurs, same, ih, occurs, Bool.or_assoc]

/-- A way to write elements of a text with others, each of them by itself. -/
structure Escaping (token : Token α) where
  slash : α
  escape : α → List α
  slash_fixed : slash ∉ token.opening :: token.more
  slash_inside : token.inside slash = false
  cases : ∀ c, escape c = [c] ∨
    token.word c = false ∧ ∃ tail, escape c = slash :: tail ∧ token.opening ∉ slash :: tail

omit [DecidableEq α] in
theorem prefix_of_escaped (escaping : token.Escaping) (apart : escaping.slash ∉ wanted)
    (kept : wanted <+: text.flatMap escaping.escape) : wanted <+: text := by
  induction text generalizing wanted with
  | nil => exact kept
  | cons c text ih =>
    rw [List.flatMap_cons] at kept
    cases wanted with
    | nil => exact List.nil_prefix
    | cons first more =>
      rcases escaping.cases c with plain | ⟨-, tail, written, -⟩
      · rw [plain, List.singleton_append] at kept
        obtain ⟨rfl, held⟩ := List.cons_prefix_cons.mp kept
        exact List.cons_prefix_cons.mpr ⟨rfl, ih (fun member => apart (List.mem_cons_of_mem _ member)) held⟩
      · rw [written] at kept
        exact absurd (List.cons_prefix_cons.mp kept).1 fun same => apart (by simp [same])

/-- Escapes do not make a token. -/
theorem occurs_escaped (escaping : token.Escaping) (clean : token.occurs last' text = false)
    (bounded : last.any token.word = false → last'.any token.word = false) :
    token.occurs last (text.flatMap escaping.escape) = false := by
  induction text generalizing last last' with
  | nil => rfl
  | cons c text ih =>
    rw [occurs, Bool.or_eq_false_iff] at clean
    rw [List.flatMap_cons]
    rcases escaping.cases c with plain | ⟨apart, tail, written, without⟩
    · rw [plain, List.singleton_append, occurs, ih clean.2 id, Bool.or_false, Bool.eq_false_iff]
      intro found
      have here : token.here last' (c :: text) := by
        refine here_of_begun found (fun wanted within kept => ?_) bounded
        refine prefix_of_escaped escaping (fun member => ?_) (by rwa [List.flatMap_cons, plain])
        rcases within _ member with fixed | inside
        · exact escaping.slash_fixed fixed
        · rw [escaping.slash_inside] at inside
          cases inside
      rw [clean.1] at here
      cases here
    · rw [written]
      exact occurs_append_of_not_mem without fun last => ih clean.2 fun _ => by simp [apart]

end Token

end ParentalCoord
