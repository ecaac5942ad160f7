import ParentalCoord.Calendar
import ParentalCoord.Reports.BondReport

/-!
What the totals of a report have to do with each other.

The figures come from separate passes over the rows, each with a filter of its own.  With
amounts of whole hundredths nothing is rounded, so that the passes add up; and none of them
depends on the order of the rows.
-/

namespace ParentalCoord.Reports

open Activities Expenses Store

/-! ## Amounts -/

/-- An amount that is a whole number of hundredths and is not negative. -/
def Cents (amount : Amount) : Prop := ∃ cents : ℕ, toAmount amount = hundredths cents

/-- What the database writes for an amount of hundredths. -/
def numericText (cents : ℕ) : String := Nat.repr (cents / 100) ++ "." ++ padded 2 (cents % 100)

theorem inBase_ten {digits : List Char} (some_ : digits ≠ []) (all : ∀ c ∈ digits, c.isDigit) :
    inBase 10 digits = some (Nat.ofDigitChars 10 digits 0 : ℚ) := by
  have read (value : ℕ) : digits.foldlM (fun value c =>
      let digit := if c.isDigit then c.toNat - 48 else c.toLower.toNat - 87
      if (c.isDigit ∨ c.isAlpha) ∧ digit < 10 then some (value * 10 + digit) else none) value =
        some (Nat.ofDigitChars 10 digits value) := by
    clear some_
    induction digits generalizing value with
    | nil => rfl
    | cons c rest ih =>
      have digit := all c List.mem_cons_self
      have small : c.toNat - 48 < 10 := by
        have most : c.toNat ≤ 57 := (Char.isDigit_iff_toNat.mp digit).2
        omega
      rw [List.foldlM_cons]
      simp only [digit, if_true, true_or, small, and_self, Option.bind_eq_bind, Option.bind_some]
      rw [ih fun c member => all c (List.mem_cons_of_mem _ member), Nat.ofDigitChars_cons, Nat.mul_comm]
      rfl
  rw [inBase, if_neg some_, read]
  rfl

theorem isJsSpace_digit {c : Char} (digit : c.isDigit) : isJsSpace c = false := by
  obtain ⟨least, most⟩ := Char.isDigit_iff_toNat.mp digit
  have solid : ∀ code < 58, 48 ≤ code → isJsSpace (Char.ofNat code) = false := by decide
  rw [← Char.ofNat_toNat c]
  exact solid c.toNat (Nat.lt_succ_of_le most) least

theorem jsTrim_of_solid {text : String} (solid : ∀ c ∈ text.toList, isJsSpace c = false) : jsTrim text = text := by
  have kept (chars : List Char) (solid : ∀ c ∈ chars, isJsSpace c = false) : chars.dropWhile isJsSpace = chars := by
    cases chars with
    | nil => rfl
    | cons c rest => rw [List.dropWhile_cons_of_neg (by simp [solid c])]
  rw [jsTrim, kept _ solid, kept _ fun c member => solid c (List.mem_reverse.mp member), List.reverse_reverse,
    String.ofList_toList]

/-- A text of digits and points is read as a decimal. -/
theorem numberOf_of_plain {text : String} (some_ : text.toList ≠ [])
    (plain : ∀ c ∈ text.toList, c.isDigit ∨ c = '.') : numberOf text = decimalLiteral text.toList := by
  have solid : ∀ c ∈ text.toList, isJsSpace c = false := by
    intro c member
    rcases plain c member with digit | rfl
    · exact isJsSpace_digit digit
    · decide
  have absent (c : Char) (marks : c.isDigit = false ∧ c ≠ '.') : c ∉ text.toList := by
    intro member
    rcases plain c member with digit | point
    · rw [marks.1] at digit
      cases digit
    · exact marks.2 point
  rw [numberOf, jsTrim_of_solid solid]
  split <;> rename_i text_
  · exact absurd text_ some_
  · exact absurd (text_ ▸ by simp) (absent 'x' (by decide))
  · exact absurd (text_ ▸ by simp) (absent 'X' (by decide))
  · exact absurd (text_ ▸ by simp) (absent 'o' (by decide))
  · exact absurd (text_ ▸ by simp) (absent 'O' (by decide))
  · exact absurd (text_ ▸ by simp) (absent 'b' (by decide))
  · exact absurd (text_ ▸ by simp) (absent 'B' (by decide))
  · exact absurd (text_ ▸ by simp) (absent '-' (by decide))
  · exact absurd (text_ ▸ by simp) (absent '+' (by decide))
  · rfl

/-- A decimal without an exponent. -/
theorem numberOf_pointed {text : String} {whole fraction : List Char}
    (written : text.toList = whole ++ '.' :: fraction) (some_ : whole ≠ [])
    (digits : ∀ c ∈ whole ++ fraction, c.isDigit) :
    numberOf text = some ((Nat.ofDigitChars 10 (whole ++ fraction) 0 : ℚ) / 10 ^ fraction.length) := by
  have plain (c : Char) (member : c ∈ whole ++ '.' :: fraction) : c.isDigit ∨ c = '.' := by
    rcases List.mem_append.mp member with before | after
    · exact .inl (digits c (List.mem_append_left _ before))
    · rcases List.mem_cons.mp after with point | after
      · exact .inr point
      · exact .inl (digits c (List.mem_append_right _ after))
  have unmarked : ∀ c ∈ whole ++ '.' :: fraction, decide (c ≠ 'e' ∧ c ≠ 'E') = true := by
    intro c member
    rcases plain c member with digit | rfl
    · refine decide_eq_true ⟨?_, ?_⟩ <;> rintro rfl <;> cases digit
    · decide
  have unpointed : ∀ c ∈ whole, decide (c ≠ '.') = true := by
    intro c member
    refine decide_eq_true ?_
    rintro rfl
    cases digits '.' (List.mem_append_left _ member)
  have mantissa : (whole ++ '.' :: fraction).span (fun c => decide (c ≠ 'e' ∧ c ≠ 'E')) =
      (whole ++ '.' :: fraction, []) := by
    rw [List.span_eq_takeWhile_dropWhile, ← List.append_nil (whole ++ '.' :: fraction),
      List.takeWhile_append_of_pos unmarked, List.dropWhile_append_of_pos unmarked]
    rfl
  have parts : (whole ++ '.' :: fraction).span (fun c => decide (c ≠ '.')) = (whole, '.' :: fraction) := by
    rw [List.span_eq_takeWhile_dropWhile, List.takeWhile_append_of_pos unpointed,
      List.dropWhile_append_of_pos unpointed]
    simp
  rw [numberOf_of_plain (by simp [written]) (by rwa [written]), written]
  simp only [decimalLiteral, mantissa, parts]
  simp [inBase_ten (List.append_ne_nil_of_left_ne_nil some_ fraction) digits, div_eq_mul_inv]

theorem toAmount_number (cents : ℤ) : toAmount (.number (some (hundredths cents))) = hundredths cents := rfl

theorem toAmount_text (cents : ℕ) : toAmount (.text (numericText cents)) = hundredths cents := by
  have written : (numericText cents).toList =
      (Nat.repr (cents / 100)).toList ++ '.' :: (padded 2 (cents % 100)).toList := by
    simp [numericText]
  have digits : ∀ c ∈ (Nat.repr (cents / 100)).toList ++ (padded 2 (cents % 100)).toList, c.isDigit := by
    intro c member
    rcases List.mem_append.mp member with whole | fraction
    · exact Numbers.Literal.isDigit_digitsOf whole
    · exact isDigit_of_mem_padded fraction
  have some_ : (Nat.repr (cents / 100)).toList ≠ [] := by
    rw [Nat.toList_repr]
    exact Nat.toDigits_ne_nil
  have width : (padded 2 (cents % 100)).toList.length = 2 := by
    rw [String.length_toList, length_padded (by omega) (by decide)]
  have value : Nat.ofDigitChars 10 ((Nat.repr (cents / 100)).toList ++ (padded 2 (cents % 100)).toList) 0 =
      cents := by
    rw [Nat.ofDigitChars_append, Nat.ofDigitChars_eq_ofDigitChars_zero, width, ofDigitChars_padded,
      Nat.toList_repr, Nat.ofDigitChars_ten_toDigits]
    omega
  rw [toAmount, numberOf_pointed written some_ digits, width, value, hundredths]
  norm_num

theorem cents_number (cents : ℕ) : Cents (.number (some (hundredths cents))) := ⟨cents, toAmount_number cents⟩

theorem cents_text (cents : ℕ) : Cents (.text (numericText cents)) := ⟨cents, toAmount_text cents⟩

/-! ## Sums -/

theorem sum_of_cents {rows : List ReportExpenseRow} (cents : ∀ row ∈ rows, Cents row.amount) :
    ∃ cents : ℕ, sumAmounts rows = hundredths cents := by
  rw [sumAmounts_eq]
  induction rows with
  | nil => exact ⟨0, by simp [hundredths]⟩
  | cons row rest ih =>
    obtain ⟨first, worth⟩ := cents row List.mem_cons_self
    obtain ⟨others, summed⟩ := ih fun row member => cents row (List.mem_cons_of_mem _ member)
    refine ⟨first + others, ?_⟩
    rw [List.map_cons, List.sum_cons, worth, summed, Nat.cast_add, hundredths_add]

theorem round2_sumAmounts {rows : List ReportExpenseRow}
    (cents : ∀ row ∈ rows, Cents row.amount) : round2 (sumAmounts rows) = sumAmounts rows := by
  obtain ⟨whole, summed⟩ := sum_of_cents cents
  rw [summed, round2_hundredths]

theorem sumAmounts_nonneg {rows : List ReportExpenseRow}
    (cents : ∀ row ∈ rows, Cents row.amount) : 0 ≤ sumAmounts rows := by
  obtain ⟨whole, summed⟩ := sum_of_cents cents
  rw [summed, hundredths]
  positivity

theorem sumAmounts_perm {rows other : List ReportExpenseRow} (perm : rows.Perm other) :
    sumAmounts rows = sumAmounts other := by
  rw [sumAmounts_eq, sumAmounts_eq]
  exact (perm.map _).sum_eq

theorem sumAmounts_append (rows other : List ReportExpenseRow) :
    sumAmounts (rows ++ other) = sumAmounts rows + sumAmounts other := by
  rw [sumAmounts_eq, sumAmounts_eq, sumAmounts_eq, List.map_append, List.sum_append]

/-- The rows that a test keeps and those that it drops. -/
theorem sumAmounts_split (keep : ReportExpenseRow → Bool) (rows : List ReportExpenseRow) :
    sumAmounts rows =
      sumAmounts (rows.filter keep) + sumAmounts (rows.filter fun row => !keep row) := by
  rw [← sumAmounts_append]
  exact sumAmounts_perm (List.filter_append_perm keep rows).symm

theorem sum_filter {ρ : Type} (keep : ρ → Bool) (worth : ρ → ℚ) (rows : List ρ) :
    ((rows.filter keep).map worth).sum =
      (rows.map fun row => if keep row then worth row else 0).sum := by
  induction rows with
  | nil => rfl
  | cons row rest ih =>
    rw [List.map_cons, List.sum_cons, ← ih]
    by_cases kept : keep row
    · rw [List.filter_cons_of_pos kept, if_pos kept, List.map_cons, List.sum_cons]
    · rw [List.filter_cons_of_neg kept, if_neg kept, zero_add]

theorem sum_ones {ρ : Type} (rows : List ρ) : (rows.map fun _ => 1).sum = rows.length := by
  simp

/-! ## Percentages -/

theorem round2_mono {first second : ℚ} (le : first ≤ second) : round2 first ≤ round2 second := by
  have rounded : mathRound ((first + EPSILON) * 100) ≤ mathRound ((second + EPSILON) * 100) := by
    unfold mathRound
    gcongr
  unfold round2
  have cast : (mathRound ((first + EPSILON) * 100) : ℚ) ≤ mathRound ((second + EPSILON) * 100) := by
    exact_mod_cast rounded
  linarith

theorem percentage_range {numerator denominator : ℚ} (nonneg : 0 ≤ numerator)
    (le : numerator ≤ denominator) :
    0 ≤ percentage numerator denominator ∧ percentage numerator denominator ≤ 100 := by
  unfold percentage
  split
  · norm_num
  · rename_i nonzero
    have positive : 0 < denominator := lt_of_le_of_ne (nonneg.trans le) (Ne.symm nonzero)
    have least : 0 ≤ numerator / denominator * 100 := by positivity
    have most : numerator / denominator * 100 ≤ 100 := by
      have share : numerator / denominator ≤ 1 := (div_le_one positive).mpr le
      linarith
    constructor
    · calc (0 : ℚ) = round2 (hundredths 0) := by rw [round2_hundredths]; simp [hundredths]
        _ ≤ round2 (numerator / denominator * 100) := round2_mono (by simpa [hundredths] using least)
    · calc round2 (numerator / denominator * 100) ≤ round2 (hundredths 10000) :=
            round2_mono (by norm_num [hundredths]; linarith)
        _ = 100 := by rw [round2_hundredths]; norm_num [hundredths]

/-- The part of the rows that a test keeps, as a percentage. -/
theorem percentage_of_filter {ρ : Type} (keep : ρ → Bool) (rows : List ρ) :
    0 ≤ percentage (rows.filter keep).length rows.length ∧
      percentage (rows.filter keep).length rows.length ≤ 100 := by
  apply percentage_range (Nat.cast_nonneg _)
  exact_mod_cast List.length_filter_le keep rows

/-! ## The rows that count -/

/-- The rows that are not deleted. -/
def live (expenses : List ReportExpenseRow) : List ReportExpenseRow :=
  expenses.filter (·.deletedAt = none)

theorem eligible_eq (expenses : List ReportExpenseRow) :
    expenses.filter isEligibleExpense = (live expenses).filter (·.status ≠ .rejected) := by
  rw [live, List.filter_filter]
  apply List.filter_congr
  intro row _
  rw [isEligibleExpense, Bool.and_comm]

theorem status_value_inj {first second : ExpenseStatus} :
    first.value = second.value ↔ first = second := by
  cases first <;> cases second <;> decide

/-- What is eligible is paid, or pending or approved. -/
theorem unpaid_eq (expenses : List ReportExpenseRow) :
    (expenses.filter isEligibleExpense).filter (fun row => !decide (row.status = .paid)) =
      (expenses.filter isEligibleExpense).filter fun row =>
        row.status = .pending || row.status = .approved := by
  apply List.filter_congr
  intro row member
  have eligible := (List.mem_filter.mp member).2
  rw [isEligibleExpense] at eligible
  cases status : row.status <;> simp_all

/-! ## Buckets -/

/-- The entry of a status with one row more. -/
def addToStatus (row : ReportExpenseRow) (bucket : BondExpenseStatusBucket) :
    BondExpenseStatusBucket :=
  ⟨bucket.count + 1, bucket.amount + toAmount row.amount⟩

theorem expenseStatus_eq (expenses : List ReportExpenseRow) :
    expenseStatus expenses =
      tally (·.status.value) (fun _ => ⟨0, 0⟩) addToStatus (live expenses) [] := by
  rw [tally, live, List.foldl_filter, expenseStatus]
  congr 1
  funext buckets row
  cases row.deletedAt <;> rfl

theorem foldl_addToStatus (rows : List ReportExpenseRow) (bucket : BondExpenseStatusBucket) :
    rows.foldl (fun bucket row => addToStatus row bucket) bucket =
      ⟨bucket.count + rows.length, bucket.amount + sumAmounts rows⟩ := by
  induction rows generalizing bucket with
  | nil => simp [sumAmounts]
  | cons row rest ih =>
    rw [List.foldl_cons, ih, addToStatus]
    simp only [sumAmounts_eq, List.length_cons, List.map_cons, List.sum_cons,
      BondExpenseStatusBucket.mk.injEq]
    constructor
    · omega
    · ring

/-- The bucket of a status is made of its rows. -/
theorem mem_expenseStatus {expenses : List ReportExpenseRow} {status : String}
    {bucket : BondExpenseStatusBucket} :
    (status, bucket) ∈ expenseStatus expenses ↔
      (live expenses).filter (·.status.value = status) ≠ [] ∧
        bucket = ⟨((live expenses).filter (·.status.value = status)).length,
          sumAmounts ((live expenses).filter (·.status.value = status))⟩ := by
  rw [expenseStatus_eq, mem_tally, foldl_addToStatus, Nat.zero_add, zero_add]

/-- The entry of a category with one row more. -/
def addToCategory (row : ReportExpenseRow) (bucket : BondExpenseCategoryBucket) :
    BondExpenseCategoryBucket :=
  { bucket with count := bucket.count + 1, amount := bucket.amount + toAmount row.amount }

theorem categoryBuckets_eq (categories : List ReportCategoryRow) (eligible : List ReportExpenseRow) :
    categoryBuckets categories eligible =
      tally (·.categoryId) (emptyBucket categories) addToCategory eligible [] := rfl

theorem foldl_addToCategory (rows : List ReportExpenseRow) (bucket : BondExpenseCategoryBucket) :
    rows.foldl (fun bucket row => addToCategory row bucket) bucket =
      { bucket with
        count := bucket.count + rows.length
        amount := bucket.amount + sumAmounts rows } := by
  induction rows generalizing bucket with
  | nil => simp [sumAmounts]
  | cons row rest ih =>
    rw [List.foldl_cons, ih, addToCategory]
    simp only [sumAmounts_eq, List.length_cons, List.map_cons, List.sum_cons,
      BondExpenseCategoryBucket.mk.injEq, true_and]
    constructor
    · omega
    · ring

/-- The bucket of a category is made of its rows. -/
theorem mem_categoryBuckets {categories : List ReportCategoryRow}
    {eligible : List ReportExpenseRow} {categoryId : Option Uuid}
    {bucket : BondExpenseCategoryBucket} :
    (categoryId, bucket) ∈ categoryBuckets categories eligible ↔
      eligible.filter (·.categoryId = categoryId) ≠ [] ∧
        bucket =
          { emptyBucket categories categoryId with
            count := (eligible.filter (·.categoryId = categoryId)).length
            amount := sumAmounts (eligible.filter (·.categoryId = categoryId)) } := by
  rw [categoryBuckets_eq, mem_tally, foldl_addToCategory]
  simp only [emptyBucket, zero_add]

/-! ## The sections of a report -/

section Sections

variable {input : BondReportInput} (cents : ∀ row ∈ input.expenses, Cents row.amount)

include cents

theorem cents_live {row : ReportExpenseRow} (member : row ∈ live input.expenses) :
    Cents row.amount :=
  cents row (List.mem_filter.mp member).1

theorem cents_eligible {row : ReportExpenseRow}
    (member : row ∈ input.expenses.filter isEligibleExpense) : Cents row.amount :=
  cents row (List.mem_filter.mp member).1

/-- The rounding of the buckets changes none. -/
theorem byStatus_eq : (buildBondReport input).expenses.byStatus = expenseStatus input.expenses := by
  have rounded : ∀ entry ∈ expenseStatus input.expenses,
      (entry.1, { entry.2 with amount := round2 entry.2.amount }) = entry := by
    rintro ⟨status, bucket⟩ member
    obtain ⟨_, made⟩ := mem_expenseStatus.mp member
    have exact_ : round2 bucket.amount = bucket.amount := by
      rw [made]
      exact round2_sumAmounts fun row listed => cents_live cents (List.mem_filter.mp listed).1
    simp only [exact_]
  exact (List.map_congr_left rounded).trans (List.map_id _)

theorem byCategory_perm : (buildBondReport input).expenses.byCategory.Perm
    ((categoryBuckets input.categories (input.expenses.filter isEligibleExpense)).map (·.2)) := by
  have rounded : ∀ entry ∈
      categoryBuckets input.categories (input.expenses.filter isEligibleExpense),
      { entry.2 with amount := round2 entry.2.amount } = entry.2 := by
    rintro ⟨categoryId, bucket⟩ member
    obtain ⟨_, made⟩ := mem_categoryBuckets.mp member
    have exact_ : round2 bucket.amount = bucket.amount := by
      rw [made]
      exact round2_sumAmounts fun row listed => cents_eligible cents (List.mem_filter.mp listed).1
    simp only [exact_]
  have same := List.map_congr_left rounded
  exact (List.mergeSort_perm _ _).trans (List.Perm.of_eq same)

theorem totalAmount_eq : (buildBondReport input).expenses.totalAmount =
    sumAmounts (input.expenses.filter isEligibleExpense) :=
  round2_sumAmounts fun _ member => cents_eligible cents member

theorem paidAmount_eq : (buildBondReport input).expenses.paidAmount =
    sumAmounts ((input.expenses.filter isEligibleExpense).filter (·.status = .paid)) :=
  round2_sumAmounts fun _ member => cents_eligible cents (List.mem_filter.mp member).1

theorem pendingAmount_eq : (buildBondReport input).expenses.pendingAmount =
    sumAmounts ((input.expenses.filter isEligibleExpense).filter fun row =>
      !decide (row.status = .paid)) := by
  rw [unpaid_eq]
  exact round2_sumAmounts fun _ member => cents_eligible cents (List.mem_filter.mp member).1

theorem paid_and_pending : (buildBondReport input).expenses.totalAmount =
    (buildBondReport input).expenses.paidAmount +
      (buildBondReport input).expenses.pendingAmount := by
  rw [totalAmount_eq cents, paidAmount_eq cents, pendingAmount_eq cents]
  exact sumAmounts_split _ _

theorem paidAmountPercentage_range :
    0 ≤ (buildBondReport input).expenses.paidAmountPercentage ∧
      (buildBondReport input).expenses.paidAmountPercentage ≤ 100 := by
  have paid : 0 ≤ (buildBondReport input).expenses.paidAmount := by
    rw [paidAmount_eq cents]
    exact sumAmounts_nonneg fun _ member => cents_eligible cents (List.mem_filter.mp member).1
  have pending : 0 ≤ (buildBondReport input).expenses.pendingAmount := by
    rw [pendingAmount_eq cents]
    exact sumAmounts_nonneg fun _ member => cents_eligible cents (List.mem_filter.mp member).1
  have most : (buildBondReport input).expenses.paidAmount ≤
      (buildBondReport input).expenses.totalAmount := by
    rw [paid_and_pending cents]
    linarith
  exact percentage_range paid most

theorem sum_byCategory : ((buildBondReport input).expenses.byCategory.map (·.amount)).sum =
    (buildBondReport input).expenses.totalAmount := by
  rw [totalAmount_eq cents, ((byCategory_perm cents).map _).sum_eq, List.map_map, sumAmounts_eq,
    categoryBuckets_eq]
  apply sum_tally_nil
  · intro categoryId
    rfl
  · intro row bucket
    rfl

theorem sum_byCategory_count : ((buildBondReport input).expenses.byCategory.map (·.count)).sum =
    (input.expenses.filter isEligibleExpense).length := by
  rw [((byCategory_perm cents).map _).sum_eq, List.map_map, categoryBuckets_eq,
    ← sum_ones]
  apply sum_tally_nil
  · intro categoryId
    rfl
  · intro row bucket
    rfl

theorem sum_byStatus :
    (((buildBondReport input).expenses.byStatus.filter fun entry =>
      entry.1 ≠ ExpenseStatus.rejected.value).map (·.2.amount)).sum =
    (buildBondReport input).expenses.totalAmount := by
  rw [totalAmount_eq cents, byStatus_eq cents, eligible_eq, sumAmounts_eq, sum_filter, sum_filter,
    expenseStatus_eq]
  apply sum_tally_nil
  · intro status
    simp
  · intro row bucket
    by_cases rejected : row.status = .rejected
    · simp [rejected]
    · simp [rejected, addToStatus, status_value_inj]

theorem sum_byStatus_count : ((buildBondReport input).expenses.byStatus.map (·.2.count)).sum =
    (live input.expenses).length := by
  rw [byStatus_eq cents, expenseStatus_eq, ← sum_ones]
  apply sum_tally_nil
  · intro status
    rfl
  · intro row bucket
    rfl

end Sections

/-- The number of rows of each key. -/
def countBy {ρ : Type} (key : ρ → String) (rows : List ρ) : List (String × ℕ) :=
  rows.foldl (fun bucket row => increment bucket (key row)) []

theorem countBy_eq {ρ : Type} (key : ρ → String) (rows : List ρ) :
    countBy key rows = tally key (fun _ => 0) (fun _ count => count + 1) rows [] := rfl

theorem sum_countBy {ρ : Type} (key : ρ → String) (rows : List ρ) :
    ((countBy key rows).map (·.2)).sum = rows.length := by
  rw [countBy_eq, ← sum_ones rows]
  apply sum_tally_nil
  · intro name
    rfl
  · intro row count
    rfl

theorem countBy_perm {ρ : Type} (key : ρ → String) {rows other : List ρ}
    (perm : rows.Perm other) : (countBy key rows).Perm (countBy key other) := by
  rw [countBy_eq, countBy_eq]
  apply tally_perm _ perm
  intro first second count
  rfl

theorem expenseStatus_perm {expenses other : List ReportExpenseRow}
    (perm : expenses.Perm other) : (expenseStatus expenses).Perm (expenseStatus other) := by
  rw [expenseStatus_eq, expenseStatus_eq]
  apply tally_perm _ (perm.filter _)
  intro first second bucket
  simp only [addToStatus, add_right_comm]

theorem categoryBuckets_perm (categories : List ReportCategoryRow)
    {eligible other : List ReportExpenseRow} (perm : eligible.Perm other) :
    (categoryBuckets categories eligible).Perm (categoryBuckets categories other) := by
  rw [categoryBuckets_eq, categoryBuckets_eq]
  apply tally_perm _ perm
  intro first second bucket
  simp only [addToCategory, add_right_comm]

/-! ## The whole report -/

/-- The percentages of a report. -/
def BondReport.percentages (report : BondReport) : List ℚ :=
  report.activities.completionRate :: report.expenses.paidAmountPercentage ::
    report.expenses.paidCountPercentage :: report.members.map (·.completionPercentage)

/-- The totals of a report add up, and its buckets are a partition of the rows that count. -/
structure Conserved (input : BondReportInput) (report : BondReport) : Prop where
  paidAndPending : report.expenses.totalAmount =
    report.expenses.paidAmount + report.expenses.pendingAmount
  total : report.expenses.totalAmount = sumAmounts (input.expenses.filter isEligibleExpense)
  byCategory : (report.expenses.byCategory.map (·.amount)).sum = report.expenses.totalAmount
  byStatus : ((report.expenses.byStatus.filter fun entry =>
      entry.1 ≠ ExpenseStatus.rejected.value).map (·.2.amount)).sum =
    report.expenses.totalAmount
  categories : (report.expenses.byCategory.map (·.categoryId)).Nodup ∧
    ∀ bucket ∈ report.expenses.byCategory, bucket.count =
      ((input.expenses.filter isEligibleExpense).filter
        (·.categoryId = bucket.categoryId)).length
  categoryCounts : (report.expenses.byCategory.map (·.count)).sum =
    (input.expenses.filter isEligibleExpense).length
  statuses : (report.expenses.byStatus.map (·.1)).Nodup ∧
    ∀ entry ∈ report.expenses.byStatus, entry.2.count =
      ((live input.expenses).filter (·.status.value = entry.1)).length
  statusCounts : (report.expenses.byStatus.map (·.2.count)).sum =
    (input.expenses.filter isEligibleExpense).length +
      ((live input.expenses).filter (·.status = .rejected)).length
  activities : report.activities.total = input.activities.length ∧
    report.activities.completed = (input.activities.filter (·.status = .done)).length ∧
    report.activities.overdue = (input.activities.filter (isOverdue input.generatedAt)).length
  activitiesByStatus : (report.activities.byStatus.map (·.2)).sum = report.activities.total
  activitiesByCriticality :
    (report.activities.byCriticality.map (·.2)).sum = report.activities.total
  percentages : ∀ percentage ∈ report.percentages, 0 ≤ percentage ∧ percentage ≤ 100

/-- The same rows in another order. -/
structure Reordered (input other : BondReportInput) : Prop where
  activities : input.activities.Perm other.activities
  expenses : input.expenses.Perm other.expenses
  members : input.members.Perm other.members
  rest : other = { input with
    activities := other.activities, expenses := other.expenses, members := other.members }

/-- The same figures; buckets and members may stand in another order. -/
structure SameReport (report other : BondReport) : Prop where
  statuses : report.activities.byStatus.Perm other.activities.byStatus
  criticalities : report.activities.byCriticality.Perm other.activities.byCriticality
  expenseStatuses : report.expenses.byStatus.Perm other.expenses.byStatus
  categories : report.expenses.byCategory.Perm other.expenses.byCategory
  members : report.members.Perm other.members
  rest : other = { report with
    activities := { report.activities with
      byStatus := other.activities.byStatus
      byCriticality := other.activities.byCriticality }
    expenses := { report.expenses with
      byStatus := other.expenses.byStatus
      byCategory := other.expenses.byCategory }
    members := other.members }

theorem eligible_and_rejected (expenses : List ReportExpenseRow) :
    (live expenses).length = (expenses.filter isEligibleExpense).length +
      ((live expenses).filter (·.status = .rejected)).length := by
  rw [eligible_eq, List.length_eq_length_filter_add fun row => decide (row.status ≠ .rejected)]
  congr 2
  apply List.filter_congr
  intro row _
  simp

theorem memberSection_range (activities : List ReportActivityRow) (member : ReportMemberRow) :
    0 ≤ (memberSection activities member).completionPercentage ∧
      (memberSection activities member).completionPercentage ≤ 100 :=
  percentage_of_filter _ _

theorem percentages_range {input : BondReportInput}
    (cents : ∀ row ∈ input.expenses, Cents row.amount) :
    ∀ percentage ∈ (buildBondReport input).percentages, 0 ≤ percentage ∧ percentage ≤ 100 := by
  intro percentage listed
  rcases List.mem_cons.mp listed with rfl | listed
  · exact percentage_of_filter _ _
  rcases List.mem_cons.mp listed with rfl | listed
  · exact paidAmountPercentage_range cents
  rcases List.mem_cons.mp listed with rfl | listed
  · exact percentage_of_filter _ _
  · obtain ⟨section_, member, rfl⟩ := List.mem_map.mp listed
    obtain ⟨row, _, rfl⟩ := List.mem_map.mp member
    exact memberSection_range input.activities row

theorem categories_counted {input : BondReportInput}
    (cents : ∀ row ∈ input.expenses, Cents row.amount) :
    ((buildBondReport input).expenses.byCategory.map (·.categoryId)).Nodup ∧
      ∀ bucket ∈ (buildBondReport input).expenses.byCategory, bucket.count =
        ((input.expenses.filter isEligibleExpense).filter
          (·.categoryId = bucket.categoryId)).length := by
  have own : ∀ entry ∈ categoryBuckets input.categories
      (input.expenses.filter isEligibleExpense), entry.2.categoryId = entry.1 ∧
        entry.2.count = ((input.expenses.filter isEligibleExpense).filter
          (·.categoryId = entry.1)).length := by
    rintro ⟨categoryId, bucket⟩ member
    obtain ⟨_, rfl⟩ := mem_categoryBuckets.mp member
    exact ⟨rfl, rfl⟩
  have perm := byCategory_perm cents
  constructor
  · have named := List.map_congr_left fun entry member => (own entry member).1
    rw [(perm.map _).nodup_iff, List.map_map, Function.comp_def, named, categoryBuckets_eq]
    exact nodup_tally_nil _
  · intro bucket member
    obtain ⟨entry, listed, rfl⟩ := List.mem_map.mp (perm.mem_iff.mp member)
    obtain ⟨named, counted⟩ := own entry listed
    rw [named, counted]

theorem statuses_counted {input : BondReportInput}
    (cents : ∀ row ∈ input.expenses, Cents row.amount) :
    ((buildBondReport input).expenses.byStatus.map (·.1)).Nodup ∧
      ∀ entry ∈ (buildBondReport input).expenses.byStatus, entry.2.count =
        ((live input.expenses).filter (·.status.value = entry.1)).length := by
  rw [byStatus_eq cents]
  constructor
  · rw [expenseStatus_eq]
    exact nodup_tally_nil _
  · rintro ⟨status, bucket⟩ member
    obtain ⟨_, rfl⟩ := mem_expenseStatus.mp member
    rfl

theorem conserved {input : BondReportInput}
    (cents : ∀ row ∈ input.expenses, Cents row.amount) :
    Conserved input (buildBondReport input) where
  paidAndPending := paid_and_pending cents
  total := totalAmount_eq cents
  byCategory := sum_byCategory cents
  byStatus := sum_byStatus cents
  categories := categories_counted cents
  categoryCounts := sum_byCategory_count cents
  statuses := statuses_counted cents
  statusCounts := (sum_byStatus_count cents).trans (eligible_and_rejected input.expenses)
  activities := ⟨rfl, rfl, rfl⟩
  activitiesByStatus := sum_countBy _ input.activities
  activitiesByCriticality := sum_countBy _ input.activities
  percentages := percentages_range cents

/-- What is deleted contributes to nothing. -/
theorem report_live (input : BondReportInput) :
    buildBondReport { input with expenses := live input.expenses } = buildBondReport input := by
  have eligible : (live input.expenses).filter isEligibleExpense =
      input.expenses.filter isEligibleExpense := by
    rw [eligible_eq, eligible_eq, live, live, List.filter_filter]
    simp
  have statuses : expenseStatus (live input.expenses) = expenseStatus input.expenses := by
    rw [expenseStatus_eq, expenseStatus_eq, live, live, List.filter_filter]
    simp
  simp only [buildBondReport, eligible, statuses]

theorem memberSection_perm {activities other : List ReportActivityRow}
    (perm : activities.Perm other) (member : ReportMemberRow) :
    memberSection activities member = memberSection other member := by
  have assigned := perm.filter fun row => decide (row.assignedTo = some member.userId)
  simp only [memberSection, assigned.length_eq, (assigned.filter _).length_eq]

theorem report_reordered {input other : BondReportInput} (reordered : Reordered input other) :
    SameReport (buildBondReport input) (buildBondReport other) := by
  obtain ⟨activities, expenses, members, rest⟩ := reordered
  have eligible := expenses.filter isEligibleExpense
  rw [rest]
  constructor
  · exact countBy_perm _ activities
  · exact countBy_perm _ activities
  · exact (expenseStatus_perm expenses).map _
  · exact ((List.mergeSort_perm _ _).trans
      ((categoryBuckets_perm input.categories eligible).map _)).trans
        (List.mergeSort_perm _ _).symm
  · exact (members.map _).trans (List.Perm.of_eq
      (List.map_congr_left fun member _ => memberSection_perm activities member))
  · simp only [buildBondReport, activities.length_eq, (activities.filter _).length_eq,
      eligible.length_eq, (eligible.filter _).length_eq, sumAmounts_perm eligible,
      sumAmounts_perm (eligible.filter _)]

/-- **Conservation.**  Whatever the rows, the totals of the report add up, what is deleted
contributes to nothing, and the order of the rows does not matter. -/
theorem report_conserves (input : BondReportInput)
    (cents : ∀ row ∈ input.expenses, Cents row.amount) :
    Conserved input (buildBondReport input) ∧
      buildBondReport { input with expenses := live input.expenses } = buildBondReport input ∧
      ∀ other, Reordered input other → SameReport (buildBondReport input) (buildBondReport other) :=
  ⟨conserved cents, report_live input, fun _ reordered => report_reordered reordered⟩

/-- Four expenses, one of them rejected and one deleted. -/
def mixed : BondReportInput where
  bondId := "b1"
  bondTitle := "Home"
  dateFrom := "2026-06-01"
  dateTo := "2026-06-30"
  generatedAt := 1782820800000
  activities := [⟨.done, .high, none, some "u1"⟩, ⟨.assigned, .low, some 0, none⟩]
  expenses := [⟨.paid, .text "12.50", some "c1", none⟩, ⟨.pending, .number (some 4), none, none⟩,
    ⟨.rejected, .text "7.05", none, none⟩, ⟨.paid, .text "3", some "c1", some 0⟩]
  categories := [⟨"c1", "School"⟩]
  children := []
  childActivityCounts := []
  members := [⟨"u1", "Ana", "Paz", "parent"⟩]

theorem report_conserves_mixed : Conserved mixed (buildBondReport mixed) := by
  apply (report_conserves mixed _).1
  have first : Cents (.text "12.50") := cents_text 1250
  have second : Cents (.number (some 4)) := by
    have four : hundredths (400 : ℕ) = 4 := by norm_num [hundredths]
    exact four ▸ cents_number 400
  have third : Cents (.text "7.05") := cents_text 705
  have fourth : Cents (.text "3") := ⟨300, by decide +kernel⟩
  intro row member
  simp only [mixed, List.mem_cons, List.not_mem_nil, or_false] at member
  rcases member with rfl | rfl | rfl | rfl
  · exact first
  · exact second
  · exact third
  · exact fourth

end ParentalCoord.Reports
