import ParentalCoord.Notifications.Bodies

/-!
How an amount of hundredths is written, and that it can be read back.

The points are put in by one regular expression, whose test looks ahead to the end of the
digits.
-/

namespace ParentalCoord.Notifications

/-! ## The regular expression -/

/-- `\w`. -/
def isWord (c : Char) : Bool := c.isAlphanum || c = '_'

/-- `\B`, between two characters or at an end of the text. -/
def insideWord (before after : Option Char) : Bool := before.any isWord == after.any isWord

/-- Whether `(\d{3})+(?!\d)` matches here. -/
def threesAhead : List Char → Bool
  | first :: second :: third :: rest =>
      first.isDigit && second.isDigit && third.isDigit &&
        (threesAhead rest || !rest.head?.any Char.isDigit)
  | _ => false

/-- `text.replace(/\B(?=(\d{3})+(?!\d))/g, '.')`, behind a character. -/
def pointed : Option Char → List Char → List Char
  | before, [] => if insideWord before none && threesAhead [] then ['.'] else []
  | before, c :: rest =>
      (if insideWord before (some c) && threesAhead (c :: rest) then ['.'] else []) ++
        c :: pointed (some c) rest

/-- In front of digits only, the test counts them. -/
theorem threesAhead_iff {digits : List Char} (all : ∀ c ∈ digits, c.isDigit) :
    threesAhead digits ↔ digits ≠ [] ∧ digits.length % 3 = 0 := by
  induction digits using threesAhead.induct with
  | case1 first second third rest ih =>
    simp only [List.forall_mem_cons] at all
    obtain ⟨digit, digit', digit'', all⟩ := all
    have more := ih all
    simp only [threesAhead, digit, digit', digit'', Bool.true_and, Bool.or_eq_true, more]
    cases rest with
    | nil => simp
    | cons next rest =>
      have next_digit : next.isDigit := all next List.mem_cons_self
      simp only [List.head?_cons, Option.any_some, next_digit, Bool.not_true, Bool.false_eq_true, or_false,
        ne_eq, reduceCtorEq, not_false_eq_true, true_and, List.length_cons]
      omega
  | case2 digits short =>
    match digits with
    | [] => simp [threesAhead]
    | [first] => simp [threesAhead]
    | [first, second] => simp [threesAhead]
    | first :: second :: third :: rest => exact absurd rfl (short first second third rest)

theorem insideWord_digits {before after : Char} (digit : before.isDigit) (digit' : after.isDigit) :
    insideWord (some before) (some after) = true := by
  simp [insideWord, isWord, Char.isAlphanum, digit, digit']

/-- A point comes in front of digits, behind another, when their number is a multiple of three. -/
theorem pointed_eq {digits : List Char} {before : Char} (digit : before.isDigit) (all : ∀ c ∈ digits, c.isDigit) :
    pointed (some before) digits =
      (if digits ≠ [] ∧ digits.length % 3 = 0 then ['.'] else []) ++ withThousands digits := by
  induction digits generalizing before with
  | nil => simp [pointed, threesAhead, withThousands]
  | cons c rest ih =>
    have ahead := threesAhead_iff all
    obtain ⟨digit', all⟩ := List.forall_mem_cons.mp all
    rw [pointed, insideWord_digits digit digit', Bool.true_and, ih digit' all, withThousands]
    simp only [ahead]
    split <;> split <;> rfl

/-- What the regular expression does to digits. -/
theorem pointed_eq_withThousands {digits : List Char} (all : ∀ c ∈ digits, c.isDigit) :
    pointed none digits = withThousands digits := by
  cases digits with
  | nil => rfl
  | cons c rest =>
    obtain ⟨digit, all⟩ := List.forall_mem_cons.mp all
    have start : insideWord none (some c) = false := by
      simp [insideWord, isWord, Char.isAlphanum, digit]
    rw [pointed, start, Bool.false_and, if_neg Bool.false_ne_true, List.nil_append, pointed_eq digit all,
      withThousands]
    split <;> rfl

/-- The text of an amount, in the words of the source. -/
theorem formatExpenseAmount_eq (amount : ℤ) : formatExpenseAmount amount =
    (if amount < 0 then "-" else "") ++ "$" ++
      String.ofList (pointed none (Nat.repr (amount.natAbs / 100)).toList) ++ "," ++
      padded 2 (amount.natAbs % 100) := by
  rw [pointed_eq_withThousands fun _ => Numbers.Literal.isDigit_digitsOf]
  rfl

/-! ## The blocks -/

/-- Digits in blocks of three, counted from the right and with points between them. -/
def Grouped (digits text : List Char) : Prop :=
  ∃ (first : List Char) (blocks : List (List Char)),
    text = first ++ blocks.flatMap ('.' :: ·) ∧ digits = first ++ blocks.flatten ∧
    1 ≤ first.length ∧ first.length ≤ 3 ∧ ∀ block ∈ blocks, block.length = 3

theorem withThousands_grouped {digits : List Char} (some_ : digits ≠ []) :
    Grouped digits (withThousands digits) := by
  induction digits with
  | nil => exact absurd rfl some_
  | cons digit rest ih =>
    by_cases more : rest = []
    · subst more
      exact ⟨[digit], [], rfl, rfl, le_rfl, by simp, nofun⟩
    · obtain ⟨first, blocks, text, digits, least, most, threes⟩ := ih more
      have length : rest.length = first.length + blocks.length * 3 := by
        have flat : blocks.flatten.length = blocks.length * 3 := by
          rw [List.length_flatten, List.map_congr_left threes, List.map_const', List.sum_replicate_nat]
        rw [digits, List.length_append, flat]
      rw [withThousands]
      by_cases whole : rest.length % 3 = 0
      · rw [if_pos ⟨more, whole⟩]
        have three : first.length = 3 := by omega
        refine ⟨[digit], first :: blocks, ?_, ?_, le_rfl, by simp, List.forall_mem_cons.mpr ⟨three, threes⟩⟩
        · rw [text]
          rfl
        · rw [digits]
          rfl
      · rw [if_neg fun both => whole both.2]
        refine ⟨digit :: first, blocks, ?_, ?_, Nat.succ_pos _, ?_, threes⟩
        · rw [text]
          rfl
        · rw [digits]
          rfl
        · rw [List.length_cons]
          omega

/-! ## The digits -/

def sign (amount : ℤ) : List Char := if amount < 0 then ['-'] else []

/-- Without the dollar, the points and the comma. -/
def withoutMarks (text : List Char) : List Char := text.filter fun c => c ≠ '$' ∧ c ≠ '.' ∧ c ≠ ','

theorem withoutMarks_append (first second : List Char) :
    withoutMarks (first ++ second) = withoutMarks first ++ withoutMarks second := List.filter_append ..

theorem withoutMarks_cons {c : Char} {text : List Char} (mark : c = '$' ∨ c = '.' ∨ c = ',') :
    withoutMarks (c :: text) = withoutMarks text := by
  refine List.filter_cons_of_neg ?_
  rw [decide_eq_true_eq]
  tauto

theorem withoutMarks_digits {digits : List Char} (all : ∀ c ∈ digits, c.isDigit) :
    withoutMarks digits = digits := by
  refine List.filter_eq_self.mpr fun c member => ?_
  have digit := all c member
  rw [decide_eq_true_eq]
  refine ⟨?_, ?_, ?_⟩ <;> rintro rfl <;> exact absurd digit (by decide)

theorem withoutMarks_grouped {digits text : List Char} (grouped : Grouped digits text)
    (all : ∀ c ∈ digits, c.isDigit) : withoutMarks text = digits := by
  obtain ⟨first, blocks, rfl, rfl, -⟩ := grouped
  have rest (blocks : List (List Char)) (all : ∀ c ∈ blocks.flatten, c.isDigit) :
      withoutMarks (blocks.flatMap ('.' :: ·)) = blocks.flatten := by
    induction blocks with
    | nil => rfl
    | cons block blocks ih =>
      rw [List.flatten_cons, List.forall_mem_append] at all
      rw [List.flatMap_cons, withoutMarks_append, ih all.2, List.flatten_cons]
      exact congrArg (· ++ _) (withoutMarks_digits all.1)
  rw [List.forall_mem_append] at all
  rw [withoutMarks_append, withoutMarks_digits all.1, rest blocks all.2]

theorem toList_padded (width value : ℕ) : (padded width value).toList =
    List.replicate (width - (Nat.toDigits 10 value).length) '0' ++ Nat.toDigits 10 value := by
  have digits : (Nat.repr value).toList = Nat.toDigits 10 value := Nat.toList_repr
  rw [padded, String.toList_append, String.toList_ofList, ← String.length_toList, digits]

theorem toDigits_of_small {value : ℕ} (least : 10 ≤ value) (most : value < 100) :
    Nat.toDigits 10 value = [(value / 10).digitChar, (value % 10).digitChar] := by
  rw [Nat.toDigits_of_base_le (by decide) least, Nat.toDigits_of_lt_base (by omega : value / 10 < 10)]
  rfl

theorem toList_padded_two {value : ℕ} (small : value < 100) :
    (padded 2 value).toList = [(value / 10).digitChar, (value % 10).digitChar] := by
  rw [toList_padded]
  by_cases one : value < 10
  · rw [Nat.toDigits_of_lt_base one, Nat.div_eq_of_lt one, Nat.mod_eq_of_lt one]
    rfl
  · rw [toDigits_of_small (by omega) small]
    rfl

/-- The whole units and the hundredths one after the other are the digits of the amount. -/
theorem repr_append_padded (value : ℕ) :
    (Nat.repr (value / 100)).toList ++ (padded 2 (value % 100)).toList = (padded 3 value).toList := by
  have digits : (Nat.repr (value / 100)).toList = Nat.toDigits 10 (value / 100) := Nat.toList_repr
  rw [digits, toList_padded_two (by omega), toList_padded]
  by_cases small : value < 100
  · rw [Nat.div_eq_of_lt small, Nat.mod_eq_of_lt small]
    by_cases one : value < 10
    · rw [Nat.toDigits_of_lt_base one, Nat.div_eq_of_lt one, Nat.mod_eq_of_lt one]
      rfl
    · rw [toDigits_of_small (by omega) small]
      rfl
  · have tens : value / 10 / 10 = value / 100 := Nat.div_div_eq_div_mul ..
    have tenth : value / 10 % 10 = value % 100 / 10 := by omega
    have unit : value % 10 = value % 100 % 10 := by omega
    have whole : Nat.toDigits 10 value =
        Nat.toDigits 10 (value / 100) ++ [(value % 100 / 10).digitChar, (value % 100 % 10).digitChar] := by
      rw [Nat.toDigits_of_base_le (by decide) (by omega : 10 ≤ value),
        Nat.toDigits_of_base_le (by decide) (by omega : 10 ≤ value / 10), tens, tenth, unit,
        List.append_assoc]
      rfl
    have long : 3 - (Nat.toDigits 10 value).length = 0 := by
      have some_ := List.length_pos_iff.mpr (@Nat.toDigits_ne_nil (value / 100) 10)
      rw [whole, List.length_append, List.length_cons, List.length_singleton]
      omega
    rw [long, whole]
    rfl

/-! ## The whole text -/

/-- A sign for less than nothing, the dollar, whole units in blocks of three, the comma and two decimals.
The digits are those of the amount in hundredths, three of them at least. -/
structure Renders (amount : ℤ) (text : List Char) : Prop where
  parts : ∃ whole grouped decimals, text = sign amount ++ '$' :: (grouped ++ ',' :: decimals) ∧
    Grouped whole grouped ∧ decimals.length = 2 ∧ ∀ c ∈ whole ++ decimals, c.isDigit
  digits : withoutMarks text = sign amount ++ (padded 3 amount.natAbs).toList

theorem toList_formatExpenseAmount (amount : ℤ) : (formatExpenseAmount amount).toList =
    sign amount ++ '$' :: (withThousands (Nat.repr (amount.natAbs / 100)).toList ++
      ',' :: (padded 2 (amount.natAbs % 100)).toList) := by
  have front : (if amount < 0 then "-" else "").toList = sign amount := by
    unfold sign
    split <;> rfl
  simp only [formatExpenseAmount, String.toList_append, String.toList_ofList, front, List.append_assoc]
  rfl

theorem formatExpenseAmount_renders (amount : ℤ) : Renders amount (formatExpenseAmount amount).toList := by
  have some_ : (Nat.repr (amount.natAbs / 100)).toList ≠ [] := by
    rw [Nat.toList_repr]
    exact Nat.toDigits_ne_nil
  have grouped := withThousands_grouped some_
  have whole (c : Char) (member : c ∈ (Nat.repr (amount.natAbs / 100)).toList) : c.isDigit :=
    Numbers.Literal.isDigit_digitsOf member
  have decimals (c : Char) (member : c ∈ (padded 2 (amount.natAbs % 100)).toList) : c.isDigit :=
    isDigit_of_mem_padded member
  have two : (padded 2 (amount.natAbs % 100)).toList.length = 2 := by
    rw [toList_padded_two (by omega)]
    rfl
  rw [toList_formatExpenseAmount]
  refine ⟨⟨_, _, _, rfl, grouped, two, List.forall_mem_append.mpr ⟨whole, decimals⟩⟩, ?_⟩
  have front : withoutMarks (sign amount) = sign amount := by
    unfold sign
    split <;> rfl
  calc withoutMarks (sign amount ++ '$' :: (withThousands (Nat.repr (amount.natAbs / 100)).toList ++
        ',' :: (padded 2 (amount.natAbs % 100)).toList))
      = sign amount ++ (withoutMarks (withThousands (Nat.repr (amount.natAbs / 100)).toList) ++
          withoutMarks (padded 2 (amount.natAbs % 100)).toList) := by
        rw [withoutMarks_append, front, withoutMarks_cons (.inl rfl), withoutMarks_append,
          withoutMarks_cons (.inr (.inr rfl))]
    _ = sign amount ++ (padded 3 amount.natAbs).toList := by
        rw [withoutMarks_grouped grouped whole, withoutMarks_digits decimals, repr_append_padded]

theorem sign_digits_injective {first second : ℤ}
    (same : sign first ++ (padded 3 first.natAbs).toList = sign second ++ (padded 3 second.natAbs).toList) :
    first = second := by
  have read {value other : ℕ} (same : (padded 3 value).toList = (padded 3 other).toList) : value = other :=
    padded_injective (String.toList_inj.mp same)
  -- the sign is no digit
  have apart (value other : ℕ) : '-' :: (padded 3 value).toList ≠ (padded 3 other).toList := by
    intro same
    have member : '-' ∈ (padded 3 other).toList := by
      rw [← same]
      exact List.mem_cons_self
    exact absurd (isDigit_of_mem_padded member) (by decide)
  unfold sign at same
  split at same <;> split at same
  · have := read (List.append_cancel_left same)
    omega
  · rw [List.singleton_append, List.nil_append] at same
    exact absurd same (apart first.natAbs second.natAbs)
  · rw [List.singleton_append, List.nil_append] at same
    exact absurd same.symm (apart second.natAbs first.natAbs)
  · rw [List.nil_append, List.nil_append] at same
    have := read same
    omega

/-- An amount is written exactly, and no other amount is written so. -/
theorem formatExpenseAmount_exact :
    (∀ amount : ℤ, Renders amount (formatExpenseAmount amount).toList) ∧
      ∀ first second : ℤ, formatExpenseAmount first = formatExpenseAmount second → first = second := by
  refine ⟨formatExpenseAmount_renders, fun first second same => sign_digits_injective ?_⟩
  rw [← (formatExpenseAmount_renders first).digits, ← (formatExpenseAmount_renders second).digits, same]

/-- Five hundredths are written with zeros in front. -/
theorem five_cents : withoutMarks (formatExpenseAmount 5).toList ≠ (Int.repr 5).toList := by
  decide

end ParentalCoord.Notifications
