import Mathlib.Data.List.Nodup
import Mathlib.Data.List.Sort
import Mathlib.Order.Defs.LinearOrder

/-!
The pages of a query that is sorted by a key.

Each page is a query of its own, and rows of equal keys may come in another order each time.
So the pages make up the rows exactly when no rows of one key stand on both sides of the end
of a page.
-/

namespace Store

variable {ρ κ : Type} [LinearOrder κ] {key : ρ → κ} {rows first second answer : List ρ}
  {limit count number : ℕ} {value : κ}

/-- What `ORDER BY key DESC` may give: the rows by falling keys, and those of equal keys in some
order. -/
structure Sorts (key : ρ → κ) (rows answer : List ρ) : Prop where
  perm : answer.Perm rows
  ordered : answer.Pairwise fun before after => key after ≤ key before

/-- How one query is answered, whatever the rows. -/
structure Arrangement (key : ρ → κ) where
  arrange : List ρ → List ρ
  sorts : ∀ rows, Sorts key rows (arrange rows)

/-- `LIMIT` and `OFFSET`; pages are numbered from zero. -/
def page (limit number : ℕ) (rows : List ρ) : List ρ := (rows.drop (number * limit)).take limit

/-- So many pages, each of them of an answer of its own. -/
def pages (limit count : ℕ) (answers : ℕ → List ρ) : List ρ :=
  (List.range count).flatMap fun number => page limit number (answers number)

/-- No rows of one key stand on both sides of the end of a page. -/
def Unsplit (key : ρ → κ) (rows : List ρ) (limit : ℕ) : Prop :=
  ∀ number value, ¬(rows.countP (value < key ·) < number * limit ∧
    number * limit < rows.countP (value ≤ key ·))

/-! ## Arrangements -/

theorem Sorts.filter (sorts : Sorts key rows answer) (keep : ρ → Bool) :
    Sorts key (rows.filter keep) (answer.filter keep) :=
  ⟨sorts.perm.filter keep, sorts.ordered.filter keep⟩

/-- Rows of equal keys as they come. -/
def Arrangement.stable : Arrangement key where
  arrange := List.insertionSort fun before after : ρ => key after ≤ key before
  sorts rows := by
    have total : Std.Total fun before after : ρ => key after ≤ key before :=
      ⟨fun before after => le_total (key after) (key before)⟩
    have trans : IsTrans ρ fun before after => key after ≤ key before :=
      ⟨fun _ _ _ first second => second.trans first⟩
    exact ⟨List.perm_insertionSort _ rows, List.pairwise_insertionSort _ rows⟩

/-- Rows of equal keys the other way around. -/
def Arrangement.reversed : Arrangement key where
  arrange rows := (stable : Arrangement key).arrange rows.reverse
  sorts rows :=
    have answered := (stable : Arrangement key).sorts rows.reverse
    ⟨answered.perm.trans rows.reverse_perm, answered.ordered⟩

/-- Every answer is one of some arrangement. -/
theorem Sorts.exists_arrangement (sorts : Sorts key rows answer) :
    ∃ order : Arrangement key, order.arrange rows = answer := by
  classical
  let usual : Arrangement key := .stable
  refine ⟨⟨fun others => if others = rows then answer else usual.arrange others, ?_⟩, if_pos rfl⟩
  intro others
  split
  · subst others
    exact sorts
  · exact usual.sorts others

/-! ## Where a page ends -/

/-- The rows of the greatest keys come first. -/
theorem filter_eq_take (ordered : rows.Pairwise fun before after => key after ≤ key before) :
    rows.filter (value ≤ key ·) = rows.take (rows.countP (value ≤ key ·)) := by
  induction rows with
  | nil => rfl
  | cons row rest ih =>
    obtain ⟨before, ordered⟩ := List.pairwise_cons.mp ordered
    by_cases great : value ≤ key row
    · have great' : decide (value ≤ key row) = true := decide_eq_true great
      rw [List.filter_cons, if_pos great', List.countP_cons, if_pos great', List.take_succ_cons, ih ordered]
    · have small : ∀ other ∈ row :: rest, ¬decide (value ≤ key other) = true := by
        intro other member
        rw [decide_eq_true_eq]
        rcases List.mem_cons.mp member with rfl | later
        · exact great
        · exact fun within => great (within.trans (before other later))
      rw [List.filter_eq_nil_iff.mpr small, List.countP_eq_zero.mpr small, List.take_zero]

/-- The number of rows up to the end of a page is that of the rows down to some key. -/
theorem exists_count_eq (sorts : Sorts key rows answer) (unsplit : Unsplit key rows limit)
    (positive : 0 < number * limit) (within : number * limit ≤ rows.length) :
    ∃ value, rows.countP (value ≤ key ·) = number * limit := by
  obtain ⟨size, same⟩ : ∃ size, number * limit = size + 1 := ⟨_, (Nat.succ_pred_eq_of_pos positive).symm⟩
  have inside : size < answer.length := by
    rw [sorts.perm.length_eq]
    omega
  obtain ⟨front, last, rest, rfl, taken⟩ : ∃ front last rest,
      answer = front ++ last :: rest ∧ front.length = size :=
    ⟨answer.take size, answer[size], answer.drop (size + 1),
      by rw [List.getElem_cons_drop, List.take_append_drop], by rw [List.length_take, Nat.min_eq_left inside.le]⟩
  obtain ⟨-, ordered, earlier⟩ := List.pairwise_append.mp sorts.ordered
  obtain ⟨later, -⟩ := List.pairwise_cons.mp ordered
  have split := unsplit number (key last)
  rw [← sorts.perm.countP_eq, ← sorts.perm.countP_eq, same] at split
  have above : (front ++ last :: rest).countP (key last < key ·) ≤ size := by
    have none : rest.countP (key last < key ·) = 0 :=
      List.countP_eq_zero.mpr fun other member => by simpa using later other member
    rw [List.countP_append, List.countP_cons_of_neg (by simp), none, Nat.add_zero, ← taken]
    exact List.countP_le_length
  have down : size + 1 ≤ (front ++ last :: rest).countP (key last ≤ key ·) := by
    have all : front.countP (key last ≤ key ·) = front.length :=
      List.countP_eq_length.mpr fun other member => by simpa using earlier other member last List.mem_cons_self
    rw [List.countP_append, List.countP_cons_of_pos (by simp), all, taken]
    omega
  refine ⟨key last, ?_⟩
  rw [← sorts.perm.countP_eq, same]
  omega

/-- Two answers have the same rows up to the end of a page. -/
theorem take_perm (sorts : Sorts key rows first) (sorts' : Sorts key rows second)
    (unsplit : Unsplit key rows limit) (number : ℕ) :
    (first.take (number * limit)).Perm (second.take (number * limit)) := by
  rcases Nat.eq_zero_or_pos (number * limit) with zero | positive
  · rw [zero]
    exact .refl _
  · by_cases within : number * limit ≤ rows.length
    · obtain ⟨value, count⟩ := exists_count_eq sorts unsplit positive within
      have left := @filter_eq_take _ _ _ key _ value sorts.ordered
      have right := @filter_eq_take _ _ _ key _ value sorts'.ordered
      rw [sorts.perm.countP_eq, count] at left
      rw [sorts'.perm.countP_eq, count] at right
      rw [← left, ← right]
      exact (sorts.perm.trans sorts'.perm.symm).filter _
    · have beyond := Nat.le_of_not_le within
      rw [List.take_of_length_le (sorts.perm.length_eq ▸ beyond),
        List.take_of_length_le (sorts'.perm.length_eq ▸ beyond)]
      exact sorts.perm.trans sorts'.perm.symm

theorem take_succ_eq (answer : List ρ) (limit number : ℕ) :
    answer.take ((number + 1) * limit) = answer.take (number * limit) ++ page limit number answer := by
  rw [Nat.succ_mul, List.take_add]
  rfl

/-- The pages of one answer are the front of it. -/
theorem pages_const (answer : List ρ) (limit count : ℕ) :
    pages limit count (fun _ => answer) = answer.take (count * limit) := by
  induction count with
  | zero => simp [pages]
  | succ count ih =>
    rw [take_succ_eq, ← ih]
    simp [pages, List.range_succ]

theorem page_perm (sorts : Sorts key rows first) (sorts' : Sorts key rows second)
    (unsplit : Unsplit key rows limit) (number : ℕ) :
    (page limit number first).Perm (page limit number second) := by
  have more := take_perm sorts sorts' unsplit (number + 1)
  rw [take_succ_eq, take_succ_eq] at more
  have same := (take_perm sorts sorts' unsplit number).symm.append_right (page limit number first)
  exact (List.perm_append_left_iff _).mp (same.trans more)

/-! ## All pages -/

/-- The pages before one are the rows up to it, in their order. -/
theorem pages_before {answers : ℕ → List ρ} (sorts : ∀ number, Sorts key rows (answers number))
    (whole : Sorts key rows answer) (unsplit : Unsplit key rows limit) (count : ℕ) :
    (pages limit count answers).Perm (answer.take (count * limit)) ∧
      (pages limit count answers).Pairwise fun before after => key after ≤ key before := by
  induction count with
  | zero => simp [pages]
  | succ count ih =>
    obtain ⟨perm, ordered⟩ := ih
    have split : pages limit (count + 1) answers =
        pages limit count answers ++ page limit count (answers count) := by
      simp [pages, List.range_succ]
    have last := page_perm (sorts count) whole unsplit count
    rw [split]
    refine ⟨?_, List.pairwise_append.mpr ⟨ordered, ?_, ?_⟩⟩
    · rw [take_succ_eq]
      exact perm.append last
    · exact (sorts count).ordered.sublist ((List.take_sublist _ _).trans (List.drop_sublist _ _))
    · intro before there after here
      have parts := whole.ordered
      rw [← List.take_append_drop (count * limit) answer] at parts
      exact (List.pairwise_append.mp parts).2.2 before (perm.mem_iff.mp there) after
        (List.mem_of_mem_take (last.mem_iff.mp here))

theorem pages_sorts {answers : ℕ → List ρ} (sorts : ∀ number, Sorts key rows (answers number))
    (unsplit : Unsplit key rows limit) (enough : rows.length ≤ count * limit) :
    Sorts key rows (pages limit count answers) := by
  obtain ⟨perm, ordered⟩ := pages_before sorts (sorts 0) unsplit count
  rw [List.take_of_length_le ((sorts 0).perm.length_eq ▸ enough)] at perm
  exact ⟨perm.trans (sorts 0).perm, ordered⟩

/-! ## Rows that come twice -/

theorem mem_page {row : ρ} (index : ℕ) (there : rows[index]? = some row) (after : number * limit ≤ index)
    (before : index < (number + 1) * limit) : row ∈ page limit number rows := by
  rw [Nat.succ_mul] at before
  refine List.mem_of_getElem? (i := index - number * limit) ?_
  unfold page
  rw [List.getElem?_take_of_lt (by omega), List.getElem?_drop, Nat.add_sub_cancel' after, there]

/-- The rows on both sides of a page's end that splits the rows of a key have that key. -/
theorem keys_of_split {front rest : List ρ} {last next : ρ}
    (sorts : Sorts key rows (front ++ last :: next :: rest))
    (above : rows.countP (value < key ·) < front.length + 1)
    (below : front.length + 1 < rows.countP (value ≤ key ·)) : key last ≤ value ∧ value ≤ key next := by
  obtain ⟨-, ordered, earlier⟩ := List.pairwise_append.mp sorts.ordered
  obtain ⟨afterLast, ordered⟩ := List.pairwise_cons.mp ordered
  obtain ⟨afterNext, -⟩ := List.pairwise_cons.mp ordered
  rw [← sorts.perm.countP_eq, List.countP_append] at above below
  constructor
  · by_contra greater
    have fall : ∀ row ∈ front, value < key row := fun row member =>
      (not_le.mp greater).trans_le (earlier row member last List.mem_cons_self)
    have all : front.countP (value < key ·) = front.length :=
      List.countP_eq_length.mpr fun row member => decide_eq_true (fall row member)
    rw [all, List.countP_cons, if_pos (decide_eq_true (not_le.mp greater))] at above
    omega
  · by_contra smaller
    have none : (next :: rest).countP (value ≤ key ·) = 0 := by
      refine List.countP_eq_zero.mpr fun row member => ?_
      rw [decide_eq_true_eq]
      rcases List.mem_cons.mp member with rfl | later
      · exact smaller
      · exact fun within => smaller (within.trans (afterNext row later))
    have few := List.countP_le_length (p := (value ≤ key ·)) (l := front)
    rw [List.countP_cons, none] at below
    split at below <;> omega

/-- Neighbours of one key may come the other way around. -/
theorem Sorts.swap {front rest : List ρ} {last next : ρ}
    (sorts : Sorts key rows (front ++ last :: next :: rest)) (level : key last ≤ key next) :
    Sorts key rows (front ++ next :: last :: rest) := by
  refine ⟨((List.Perm.swap last next rest).append_left front).trans sorts.perm, ?_⟩
  obtain ⟨before, ordered, earlier⟩ := List.pairwise_append.mp sorts.ordered
  obtain ⟨afterLast, ordered⟩ := List.pairwise_cons.mp ordered
  obtain ⟨afterNext, ordered⟩ := List.pairwise_cons.mp ordered
  refine List.pairwise_append.mpr ⟨before, ?_, ?_⟩
  · refine List.pairwise_cons.mpr ⟨?_, List.pairwise_cons.mpr ⟨?_, ordered⟩⟩
    · intro row member
      rcases List.mem_cons.mp member with rfl | later
      · exact level
      · exact afterNext row later
    · exact fun row later => afterLast row (List.mem_cons_of_mem _ later)
  · intro row there other member
    refine earlier row there other ?_
    rw [List.mem_cons, List.mem_cons] at member ⊢
    exact or_left_comm.mp member

/-- A page whose end splits the rows of a key may end with the row that the next one begins with. -/
theorem exists_repeated (enough : rows.length ≤ count * limit) (split : ¬Unsplit key rows limit) :
    ∃ orders : ℕ → Arrangement key,
      ¬(pages limit count fun number => (orders number).arrange rows).Nodup := by
  simp only [Unsplit, not_forall, not_not] at split
  obtain ⟨number, value, above, below⟩ := split
  have whole : Sorts key rows (Arrangement.stable.arrange rows) := Arrangement.stable.sorts rows
  obtain ⟨size, same⟩ : ∃ size, number * limit = size + 1 :=
    ⟨_, (Nat.succ_pred_eq_of_pos (Nat.zero_lt_of_lt above)).symm⟩
  have within : size + 1 < rows.length := same ▸ below.trans_le List.countP_le_length
  have inside : size + 1 < (Arrangement.stable.arrange rows).length := whole.perm.length_eq ▸ within
  obtain ⟨front, last, next, rest, answer, taken⟩ : ∃ front last next rest,
      Arrangement.stable.arrange rows = front ++ last :: next :: rest ∧ front.length = size :=
    ⟨_, _, _, _, by rw [List.getElem_cons_drop (h := inside),
        List.getElem_cons_drop (h := Nat.lt_of_succ_lt inside), List.take_append_drop],
      List.length_take_of_le (by omega)⟩
  subst taken
  rw [same] at above below
  rw [answer] at whole
  obtain ⟨lower, upper⟩ := keys_of_split whole above below
  obtain ⟨order, swapped⟩ := (whole.swap (lower.trans upper)).exists_arrangement
  obtain ⟨before, rfl⟩ : ∃ before, number = before + 1 := by
    cases number with
    | zero => omega
    | succ before => exact ⟨before, rfl⟩
  have there : before + 1 < count := by
    by_contra far
    have := Nat.mul_le_mul_right limit (not_lt.mp far)
    omega
  have room : 0 < limit := Nat.pos_of_ne_zero fun none => by rw [none] at same; omega
  have next_end : (before + 1 + 1) * limit = front.length + 1 + limit := by rw [Nat.succ_mul, same]
  have page_end : before * limit + limit = front.length + 1 := by rw [← same, Nat.succ_mul]
  -- only the page after is answered with the two rows the other way around
  refine ⟨fun other => if other = before + 1 then order else .stable, fun nodup => ?_⟩
  have apart := List.pairwise_iff_getElem.mp (List.nodup_flatMap.mp nodup).2 before (before + 1)
    (by simp; omega) (by simpa using there) (Nat.lt_succ_self _)
  rw [List.getElem_range, List.getElem_range] at apart
  refine apart (a := last) ?_ ?_
  · dsimp only
    rw [if_neg (by omega), answer]
    exact mem_page front.length (by simp) (by omega) (by omega)
  · dsimp only
    rw [if_pos rfl, swapped]
    exact mem_page (front.length + 1) (by simp) (by omega) (by omega)

end Store
