import Mathlib.Algebra.Order.Group.Nat
import Mathlib.Data.List.Perm.Basic
import Mathlib.Data.List.Sort

/-!
A backlog that is served oldest first, a batch at a time.

A pass takes the oldest items, up to a limit, in any order where they are equally old.
What it serves is done with; what fails stays where it was.  So the failing items that
are no newer than another one take their share of every batch, and the rest of the batch
is what brings the other one forward.
-/

namespace Store

variable {α κ : Type} [LinearOrder κ] {age : α → κ} {limit : ℕ} {fails : α → Bool}
  {backlog later : List α} {item : α}

/-- One pass leads from one backlog to the other. -/
def Serves (age : α → κ) (limit : ℕ) (fails : α → Bool) (backlog later : List α) : Prop :=
  ∃ order : List α, order.Perm backlog ∧ order.Pairwise (age · ≤ age ·) ∧
    later.Perm ((order.take limit).filter fails ++ order.drop limit)

/-- A number of passes, one after the other. -/
inductive Passes (age : α → κ) (limit : ℕ) (fails : α → Bool) (backlog : List α) :
    ℕ → List α → Prop where
  | none : Passes age limit fails backlog 0 backlog
  | more {count : ℕ} {between later : List α} : Passes age limit fails backlog count between →
      Serves age limit fails between later → Passes age limit fails backlog (count + 1) later

/-- The items that fail and are no newer than the item. -/
def ahead (age : α → κ) (fails : α → Bool) (item : α) (backlog : List α) : ℕ :=
  backlog.countP fun other => fails other && age other ≤ age item

/-- The items that do not fail and are no newer than the item, itself among them. -/
def turn (age : α → κ) (fails : α → Bool) (item : α) (backlog : List α) : ℕ :=
  backlog.countP fun other => !fails other && age other ≤ age item

/-- The items that fail and are older than the item. -/
def blocking (age : α → κ) (fails : α → Bool) (item : α) (backlog : List α) : ℕ :=
  backlog.countP fun other => fails other && age other < age item

/-- What fails is in the backlog as often as before. -/
theorem Serves.countP_failing (serves : Serves age limit fails backlog later) {among : α → Bool}
    (failing : ∀ other, among other → fails other) : later.countP among = backlog.countP among := by
  obtain ⟨order, perm, -, left⟩ := serves
  have kept : ((order.take limit).filter fails).countP among = (order.take limit).countP among := by
    rw [List.countP_filter]
    refine List.countP_congr fun other _ => ?_
    simpa using failing other
  rw [left.countP_eq, List.countP_append, kept, ← List.countP_append, List.take_append_drop,
    perm.countP_eq]

/-- An item that is left over though it does not fail was not in the batch, which is full
of items that are no newer. -/
theorem Serves.full (serves : Serves age limit fails backlog later) (healthy : fails item = false)
    (pending : item ∈ later) : ∃ order : List α, order.Perm backlog ∧
      later.Perm ((order.take limit).filter fails ++ order.drop limit) ∧
      (order.take limit).length = limit ∧ ∀ other ∈ order.take limit, age other ≤ age item := by
  obtain ⟨order, perm, sorted, left⟩ := serves
  have dropped : item ∈ order.drop limit := by
    rcases List.mem_append.mp (left.mem_iff.mp pending) with taken | dropped
    · have failing := (List.mem_filter.mp taken).2
      rw [healthy] at failing
      cases failing
    · exact dropped
  have size := List.length_pos_of_mem dropped
  rw [List.length_drop] at size
  refine ⟨order, perm, left, ?_, fun other taken => ?_⟩
  · rw [List.length_take]
    omega
  · rw [← List.take_append_drop limit order] at sorted
    exact (List.pairwise_append.mp sorted).2.2 other taken item dropped

/-- A pass that leaves the item over has served as many others as its batch has room for
beside the failing ones. -/
theorem Serves.turn_le (serves : Serves age limit fails backlog later) (healthy : fails item = false)
    (pending : item ∈ later) : turn age fails item later + (limit - ahead age fails item backlog) ≤
      turn age fails item backlog := by
  obtain ⟨order, perm, left, size, older⟩ := serves.full healthy pending
  have served : (order.take limit).countP (!fails ·) = turn age fails item (order.take limit) :=
    List.countP_congr fun other taken => by simp [older other taken]
  have failed : (order.take limit).countP fails = ahead age fails item (order.take limit) :=
    List.countP_congr fun other taken => by simp [older other taken]
  have room : (order.take limit).countP fails + (order.take limit).countP (!fails ·) = limit := by
    have split : (order.take limit).length = _ := List.length_eq_countP_add_countP fails
    rw [size] at split
    simpa using split.symm
  have none_ : turn age fails item ((order.take limit).filter fails) = 0 := by
    refine List.countP_eq_zero.mpr fun other kept => ?_
    simp [(List.mem_filter.mp kept).2]
  have before : turn age fails item (order.take limit) + turn age fails item (order.drop limit) =
      turn age fails item backlog := by
    rw [turn, turn, ← List.countP_append, List.take_append_drop]
    exact perm.countP_eq _
  have after : turn age fails item later = turn age fails item (order.drop limit) := by
    have split : turn age fails item later = turn age fails item ((order.take limit).filter fails) +
        turn age fails item (order.drop limit) :=
      (left.countP_eq _).trans (List.countP_append ..)
    rw [split, none_, Nat.zero_add]
  have share : ahead age fails item (order.take limit) ≤ ahead age fails item backlog := by
    have sub : ahead age fails item (order.take limit) ≤ ahead age fails item order :=
      (List.take_sublist limit order).countP_le
    exact sub.trans_eq (perm.countP_eq _)
  omega

/-- A pass adds nothing to the backlog. -/
theorem Serves.subset (serves : Serves age limit fails backlog later) : later ⊆ backlog := by
  obtain ⟨order, perm, -, left⟩ := serves
  intro other member
  rcases List.mem_append.mp (left.mem_iff.mp member) with taken | dropped
  · exact perm.mem_iff.mp (List.mem_of_mem_take (List.mem_of_mem_filter taken))
  · exact perm.mem_iff.mp (List.mem_of_mem_drop dropped)

theorem Passes.subset {count : ℕ} (passes : Passes age limit fails backlog count later) :
    later ⊆ backlog := by
  induction passes with
  | none => exact List.Subset.refl _
  | more _ serves ih => exact List.Subset.trans serves.subset ih

/-- As long as the item is left over, every pass brings it forward. -/
theorem Passes.turn_le {count : ℕ} (passes : Passes age limit fails backlog count later)
    (healthy : fails item = false) (pending : item ∈ later) :
    turn age fails item later + count * (limit - ahead age fails item backlog) ≤
        turn age fails item backlog ∧
      ahead age fails item later = ahead age fails item backlog := by
  induction passes with
  | none => exact ⟨by omega, rfl⟩
  | more passes serves ih =>
    obtain ⟨turned, same⟩ := ih (serves.subset pending)
    have onward := serves.turn_le healthy pending
    rw [same] at onward
    refine ⟨?_, (serves.countP_failing fun other both => ?_).trans same⟩
    · rw [Nat.succ_mul]
      omega
    · exact (Bool.and_eq_true_iff.mp both).1

/-- An item that does not fail is served once there was room for all that do not fail and
are no newer, beside the failing ones. -/
theorem Passes.served {count : ℕ} (passes : Passes age limit fails backlog count later)
    (healthy : fails item = false)
    (enough : turn age fails item backlog ≤ count * (limit - ahead age fails item backlog)) :
    item ∉ later := by
  intro pending
  have turned := (passes.turn_le healthy pending).1
  have own : 0 < turn age fails item later :=
    List.countP_pos_iff.mpr ⟨item, pending, by simp [healthy]⟩
  omega

/-- Older items that fail fill a batch before the item is reached. -/
theorem Serves.starved (serves : Serves age limit fails backlog later) (pending : item ∈ backlog)
    (full : limit ≤ blocking age fails item backlog) : item ∈ later := by
  obtain ⟨order, perm, sorted, left⟩ := serves
  rw [left.mem_iff]
  apply List.mem_append_right
  have here : item ∈ order := perm.mem_iff.mpr pending
  rcases List.mem_append.mp (List.take_append_drop limit order ▸ here) with taken | dropped
  · -- Whatever stands after an item in the order is no older.
    exfalso
    have behind : blocking age fails item (order.drop limit) = 0 := by
      refine List.countP_eq_zero.mpr fun other dropped => ?_
      rw [← List.take_append_drop limit order] at sorted
      have newer := (List.pairwise_append.mp sorted).2.2 item taken other dropped
      simp [newer]
    have before : blocking age fails item (order.take limit) < limit := by
      have own : blocking age fails item (order.take limit) < (order.take limit).length := by
        refine lt_of_le_of_ne List.countP_le_length fun all => ?_
        have older := List.countP_eq_length.mp all item taken
        simp at older
      exact own.trans_le (List.length_take_le limit order)
    have whole : blocking age fails item (order.take limit) +
        blocking age fails item (order.drop limit) = blocking age fails item backlog := by
      rw [blocking, blocking, ← List.countP_append, List.take_append_drop]
      exact perm.countP_eq _
    omega
  · exact dropped

/-- An item with a batch of older ones that fail is never served. -/
theorem Passes.starved {count : ℕ} (passes : Passes age limit fails backlog count later)
    (pending : item ∈ backlog) (full : limit ≤ blocking age fails item backlog) :
    item ∈ later ∧ blocking age fails item later = blocking age fails item backlog := by
  induction passes with
  | none => exact ⟨pending, rfl⟩
  | more passes serves ih =>
    obtain ⟨between, same⟩ := ih
    refine ⟨serves.starved between (same ▸ full), ?_⟩
    refine (serves.countP_failing fun other both => ?_).trans same
    exact (Bool.and_eq_true_iff.mp both).1

end Store
