import Mathlib.Algebra.Order.Ring.Int
import Mathlib.Data.Int.Notation
import Mathlib.Tactic.SplitIfs

/-!
Decimals, and how they are written and read.

A decimal has one significand that does not end in a zero.  It is written without an
exponent where its point is not far from its digits, and with one otherwise; what is
written is read back, whatever else a reader would accept for the same number.
-/

namespace Numbers

/-- `significand * 10 ^ exponent`, with its sign. -/
structure Decimal where
  negative : Bool
  significand : ℕ
  exponent : ℤ
  reduced : significand % 10 ≠ 0 ∨ (significand = 0 ∧ exponent = 0 ∧ negative = false)
  deriving DecidableEq

namespace Decimal

/-- Zeros at the end of a significand are moved to the exponent. -/
def strip : (fuel : ℕ) → (significand : ℕ) → (exponent : ℤ) → ℕ × ℤ
  | 0, significand, exponent => (significand, exponent)
  | fuel + 1, significand, exponent =>
      if significand % 10 = 0 then strip fuel (significand / 10) (exponent + 1)
      else (significand, exponent)

variable {significand fuel zeros : ℕ} {exponent : ℤ} {negative : Bool}

theorem strip_reduced (positive : 0 < significand) (enough : significand < 2 ^ fuel) :
    (strip fuel significand exponent).1 % 10 ≠ 0 := by
  induction fuel generalizing significand exponent with
  | zero => omega
  | succ fuel ih =>
    unfold strip
    split
    · rw [Nat.pow_succ] at enough
      exact ih (by omega) (by omega)
    · assumption

theorem strip_scaled (odd : significand % 10 ≠ 0) (enough : significand * 10 ^ zeros < 2 ^ fuel) :
    strip fuel (significand * 10 ^ zeros) exponent = (significand, exponent + zeros) := by
  induction zeros generalizing fuel exponent with
  | zero =>
    rw [Nat.pow_zero, Nat.mul_one] at enough ⊢
    cases fuel with
    | zero =>
      rw [Nat.pow_zero] at enough
      omega
    | succ fuel =>
      unfold strip
      rw [if_neg odd, Nat.cast_zero, add_zero]
  | succ zeros ih =>
    have more : significand * 10 ^ (zeros + 1) = significand * 10 ^ zeros * 10 := by
      rw [Nat.pow_succ, Nat.mul_assoc]
    rw [more] at enough ⊢
    have positive : 0 < significand * 10 ^ zeros :=
      Nat.mul_pos (by omega) (Nat.pow_pos (by decide))
    cases fuel with
    | zero =>
      rw [Nat.pow_zero] at enough
      omega
    | succ fuel =>
      unfold strip
      rw [if_pos (Nat.mul_mod_left _ 10), Nat.mul_div_cancel _ (by decide : 0 < 10)]
      rw [Nat.pow_succ] at enough
      rw [ih (by omega), Nat.cast_add, Nat.cast_one]
      exact Prod.ext rfl (by omega)

/-- The decimal of a significand that may end in zeros. -/
def of (negative : Bool) (significand : ℕ) (exponent : ℤ) : Decimal :=
  if zero : significand = 0 then ⟨false, 0, 0, .inr ⟨rfl, rfl, rfl⟩⟩
  else
    let stripped := strip (significand.log2 + 1) significand exponent
    ⟨negative, stripped.1, stripped.2,
      .inl (strip_reduced (Nat.pos_of_ne_zero zero) Nat.lt_log2_self)⟩

/-- A whole number. -/
def ofInt (value : ℤ) : Decimal := of (value < 0) value.natAbs 0

/-- A decimal is that of its significand with any zeros at the end. -/
theorem of_scaled (x : Decimal) (zeros : ℕ) :
    of x.negative (x.significand * 10 ^ zeros) (x.exponent - zeros) = x := by
  obtain ⟨negative, significand, exponent, reduced⟩ := x
  unfold of
  rcases reduced with odd | ⟨rfl, rfl, rfl⟩
  · have some_ : significand * 10 ^ zeros ≠ 0 :=
      Nat.mul_ne_zero (fun zero => odd (by rw [zero])) (Nat.pow_pos (by decide : 0 < 10)).ne'
    rw [dif_neg some_]
    simp only [strip_scaled odd Nat.lt_log2_self, sub_add_cancel]
  · simp

end Decimal

/-! ## Literals -/

/-- A number as it is written: the digits before the point and behind it, and the power of
ten of the exponent. -/
structure Literal where
  negative : Bool
  whole : List Char
  fraction : List Char
  power : ℤ

abbrev digitsOf (value : ℕ) : List Char := (Nat.repr value).toList

namespace Literal

def chars (literal : Literal) : List Char :=
  (if literal.negative then ['-'] else []) ++ literal.whole ++
    (if literal.fraction = [] then [] else '.' :: literal.fraction) ++
    if literal.power = 0 then []
    else 'e' :: (if 0 < literal.power then '+' else '-') :: digitsOf literal.power.natAbs

def number (literal : Literal) : Decimal :=
  .of literal.negative (Nat.ofDigitChars 10 (literal.whole ++ literal.fraction) 0)
    (literal.power - literal.fraction.length)

structure Grammatical (literal : Literal) : Prop where
  whole : ∀ c ∈ literal.whole, c.isDigit
  some_ : literal.whole ≠ []
  leading : literal.whole.head? = some '0' → literal.whole.length = 1
  fraction : ∀ c ∈ literal.fraction, c.isDigit

/-- A sign is read, if there is one. -/
def readSign : List Char → Bool × List Char
  | '-' :: rest => (true, rest)
  | text => (false, text)

def readFraction : List Char → Option (List Char × List Char)
  | '.' :: rest =>
      let digits := rest.takeWhile Char.isDigit
      if digits = [] then none else some (digits, rest.dropWhile Char.isDigit)
  | text => some ([], text)

/-- The digits of an exponent. -/
def readPower (negative : Bool) (text : List Char) : Option (ℤ × List Char) :=
  let digits := text.takeWhile Char.isDigit
  let power : ℤ := Nat.ofDigitChars 10 digits 0
  if digits = [] then none
  else some (if negative then -power else power, text.dropWhile Char.isDigit)

def readExponent : List Char → Option (ℤ × List Char)
  | c :: rest =>
      if c = 'e' ∨ c = 'E' then
        match rest with
        | '+' :: rest => readPower false rest
        | '-' :: rest => readPower true rest
        | rest => readPower false rest
      else some (0, c :: rest)
  | [] => some (0, [])

/-- A literal at the start of a text, and the text behind it.  No zero may lead the digits. -/
def read (text : List Char) : Option (Literal × List Char) := do
  let (negative, text) := readSign text
  let whole := text.takeWhile Char.isDigit
  if whole = [] ∨ (whole.head? = some '0' ∧ whole.length ≠ 1) then none
  else
    let (fraction, text) ← readFraction (text.dropWhile Char.isDigit)
    let (power, text) ← readExponent text
    some (⟨negative, whole, fraction, power⟩, text)

/-- A text that does not go on with the number before it. -/
def Ends (text : List Char) : Prop :=
  ∀ c, text.head? = some c → c.isDigit = false ∧ c ≠ '.' ∧ c ≠ 'e' ∧ c ≠ 'E'

variable {digits text : List Char} {literal : Literal}

theorem takeWhile_digits (all : ∀ c ∈ digits, c.isDigit)
    (ends : ∀ c, text.head? = some c → c.isDigit = false) :
    (digits ++ text).takeWhile Char.isDigit = digits ∧
      (digits ++ text).dropWhile Char.isDigit = text := by
  induction digits with
  | nil =>
    cases text with
    | nil => exact ⟨rfl, rfl⟩
    | cons c rest =>
      have stop := ends c rfl
      simp [stop]
  | cons c digits ih =>
    have first := all c List.mem_cons_self
    obtain ⟨taken, left⟩ := ih fun other member => all other (List.mem_cons_of_mem c member)
    simp [first, taken, left]

theorem isDigit_digitsOf {value : ℕ} {c : Char} (member : c ∈ digitsOf value) : c.isDigit := by
  rw [digitsOf, Nat.toList_repr] at member
  exact Nat.isDigit_of_mem_toDigits (by decide) (by decide) member

theorem digitsOf_ne_nil {value : ℕ} : digitsOf value ≠ [] := by
  rw [digitsOf, Nat.toList_repr]
  exact Nat.toDigits_ne_nil

theorem value_digitsOf {value : ℕ} : Nat.ofDigitChars 10 (digitsOf value) 0 = value := by
  rw [digitsOf, Nat.toList_repr]
  exact Nat.ofDigitChars_ten_toDigits

theorem readPower_digitsOf (ends : Ends text) (negative : Bool) (value : ℕ) :
    readPower negative (digitsOf value ++ text) = some (if negative then -(value : ℤ) else value, text) := by
  obtain ⟨taken, left⟩ := @takeWhile_digits (digitsOf value) text
    (fun _ => isDigit_digitsOf) fun c first => (ends c first).1
  unfold readPower
  simp only [taken, left, value_digitsOf, if_neg digitsOf_ne_nil]

/-- The exponent that was written is read. -/
theorem readExponent_chars (ends : Ends text) (power : ℤ) :
    readExponent ((if power = 0 then []
      else 'e' :: (if 0 < power then '+' else '-') :: digitsOf power.natAbs) ++ text) =
      some (power, text) := by
  by_cases zero : power = 0
  · rw [if_pos zero, zero]
    cases text with
    | nil => rfl
    | cons c rest =>
      obtain ⟨-, -, small, capital⟩ := ends c rfl
      change (if c = 'e' ∨ c = 'E' then _ else some ((0 : ℤ), c :: rest)) = _
      rw [if_neg (not_or.mpr ⟨small, capital⟩)]
  · rw [if_neg zero]
    by_cases positive : 0 < power
    · rw [if_pos positive]
      change readPower false (digitsOf power.natAbs ++ text) = _
      rw [readPower_digitsOf ends, if_neg Bool.false_ne_true]
      have same : (power.natAbs : ℤ) = power := by omega
      rw [same]
    · rw [if_neg positive]
      change readPower true (digitsOf power.natAbs ++ text) = _
      rw [readPower_digitsOf ends, if_pos rfl]
      have same : -(power.natAbs : ℤ) = power := by omega
      rw [same]

/-- What stands behind the fraction is no digit. -/
theorem exponent_ends (ends : Ends text) (power : ℤ) (c : Char)
    (first : ((if power = 0 then []
      else 'e' :: (if 0 < power then '+' else '-') :: digitsOf power.natAbs) ++ text).head? = some c) :
    c.isDigit = false ∧ c ≠ '.' := by
  by_cases zero : power = 0
  · rw [if_pos zero] at first
    obtain ⟨other, point, -, -⟩ := ends c first
    exact ⟨other, point⟩
  · rw [if_neg zero] at first
    cases first
    exact ⟨rfl, by decide⟩

theorem readFraction_chars {fraction behind : List Char} (all : ∀ c ∈ fraction, c.isDigit)
    (ends : ∀ c, behind.head? = some c → c.isDigit = false ∧ c ≠ '.') :
    readFraction ((if fraction = [] then [] else '.' :: fraction) ++ behind) =
      some (fraction, behind) := by
  by_cases none_ : fraction = []
  · rw [if_pos none_, none_]
    cases behind with
    | nil => rfl
    | cons c rest =>
      have point := (ends c rfl).2
      unfold readFraction
      split
      · rename_i same
        cases same
        exact absurd rfl point
      · rfl
  · rw [if_neg none_]
    obtain ⟨taken, left⟩ := takeWhile_digits all fun c first => (ends c first).1
    rw [List.cons_append]
    simp only [readFraction, taken, left, if_neg none_]

theorem readSign_chars {whole behind : List Char} (all : ∀ c ∈ whole, c.isDigit) (some_ : whole ≠ [])
    (negative : Bool) :
    readSign ((if negative then ['-'] else []) ++ (whole ++ behind)) = (negative, whole ++ behind) := by
  cases negative with
  | true => rfl
  | false =>
    cases whole with
    | nil => exact absurd rfl some_
    | cons c rest =>
      have digit := all c List.mem_cons_self
      unfold readSign
      split
      · rename_i same
        cases same
        cases digit
      · rfl

/-- **What was written is read**, and nothing of the text behind it. -/
theorem read_chars (grammatical : literal.Grammatical) (ends : Ends text) :
    read (literal.chars ++ text) = some (literal, text) := by
  obtain ⟨negative, whole, fraction, power⟩ := literal
  have behind := exponent_ends ends power
  have pointed : ∀ c, ((if fraction = [] then [] else '.' :: fraction) ++
      ((if power = 0 then [] else 'e' :: (if 0 < power then '+' else '-') :: digitsOf power.natAbs) ++
        text)).head? = some c → c.isDigit = false := by
    intro c first
    by_cases none_ : fraction = []
    · rw [if_pos none_] at first
      exact (behind c first).1
    · rw [if_neg none_] at first
      cases first
      rfl
  obtain ⟨taken, left⟩ := takeWhile_digits grammatical.whole pointed
  have allowed : ¬(whole = [] ∨ (whole.head? = some '0' ∧ whole.length ≠ 1)) := by
    rintro (none_ | ⟨zero, long⟩)
    · exact grammatical.some_ none_
    · exact long (grammatical.leading zero)
  unfold read
  simp only [chars, List.append_assoc]
  rw [readSign_chars grammatical.whole grammatical.some_]
  dsimp only at taken left ⊢
  rw [taken, left, if_neg allowed, readFraction_chars grammatical.fraction behind]
  simp only [Option.bind_eq_bind, Option.bind_some, readExponent_chars ends]

end Literal

/-! ## The literal of a decimal -/

namespace Decimal

open Literal

/-- How a decimal is written: in full from a millionth on and up to 21 digits before the
point, and with an exponent otherwise. -/
def literal (x : Decimal) : Literal :=
  let digits := digitsOf x.significand
  let count : ℤ := digits.length
  let point := x.exponent + count
  if 0 ≤ x.exponent ∧ point ≤ 21 then
    ⟨x.negative, digits ++ List.replicate x.exponent.toNat '0', [], 0⟩
  else if 0 < point ∧ point ≤ 21 then
    ⟨x.negative, digits.take point.toNat, digits.drop point.toNat, 0⟩
  else if -6 < point ∧ point ≤ 0 then
    ⟨x.negative, ['0'], List.replicate (-point).toNat '0' ++ digits, 0⟩
  else ⟨x.negative, digits.take 1, digits.drop 1, point - 1⟩

def chars (x : Decimal) : List Char := x.literal.chars

/-- The number at the start of a text. -/
def read (text : List Char) : Option (Decimal × List Char) :=
  (Literal.read text).map fun (literal, rest) => (literal.number, rest)

theorem head_append {first behind : List Char} (some_ : first ≠ []) :
    (first ++ behind).head? = first.head? := by
  cases first with
  | nil => exact absurd rfl some_
  | cons _ _ => rfl

/-- No zero leads the digits of a number, except of zero itself. -/
theorem head_digitsOf {value : ℕ} (zero : (digitsOf value).head? = some '0') : value = 0 := by
  rw [digitsOf, Nat.toList_repr] at zero
  induction value using Nat.strongRecOn with
  | ind value ih =>
    by_cases small : value < 10
    · rw [Nat.toDigits_of_lt_base small] at zero
      have all : ∀ digit < 10, [Nat.digitChar digit].head? = some '0' → digit = 0 := by decide
      exact all value small zero
    · rw [Nat.toDigits_of_base_le (by decide) (by omega)] at zero
      rw [head_append Nat.toDigits_ne_nil] at zero
      have front := ih (value / 10) (by omega) zero
      omega

theorem isDigit_zeros {n : ℕ} {c : Char} (member : c ∈ List.replicate n '0') : c.isDigit := by
  rw [(List.mem_replicate.mp member).2]
  rfl

theorem literal_grammatical (x : Decimal) : x.literal.Grammatical := by
  have zero_of_head (leading : (digitsOf x.significand).head? = some '0') :
      x.significand = 0 ∧ x.exponent = 0 := by
    have zero := head_digitsOf leading
    rcases x.reduced with odd | ⟨-, same, -⟩
    · rw [zero] at odd
      exact absurd rfl odd
    · exact ⟨zero, same⟩
  have some_ : (digitsOf x.significand).length ≠ 0 := by
    rw [ne_eq, List.length_eq_zero_iff]
    exact digitsOf_ne_nil
  unfold literal
  dsimp only
  split
  · refine ⟨fun c member => ?_, ?_, fun leading => ?_, nofun⟩
    · exact (List.mem_append.mp member).elim isDigit_digitsOf isDigit_zeros
    · exact List.append_ne_nil_of_left_ne_nil digitsOf_ne_nil _
    · rw [head_append digitsOf_ne_nil] at leading
      obtain ⟨zero, same⟩ := zero_of_head leading
      rw [zero, same]
      rfl
  · rename_i large
    split
    · rename_i inside
      refine ⟨fun c member => isDigit_digitsOf (List.mem_of_mem_take member), ?_, fun leading => ?_,
        fun c member => isDigit_digitsOf (List.mem_of_mem_drop member)⟩
      · rw [ne_eq, List.take_eq_nil_iff, not_or]
        exact ⟨by omega, digitsOf_ne_nil⟩
      · rw [List.head?_take, if_neg (by omega)] at leading
        obtain ⟨zero, same⟩ := zero_of_head leading
        omega
    · split
      · refine ⟨fun c member => ?_, by simp, fun _ => rfl, fun c member => ?_⟩
        · rw [List.mem_singleton.mp member]
          rfl
        · exact (List.mem_append.mp member).elim isDigit_zeros isDigit_digitsOf
      · refine ⟨fun c member => isDigit_digitsOf (List.mem_of_mem_take member), ?_, fun _ => ?_,
          fun c member => isDigit_digitsOf (List.mem_of_mem_drop member)⟩
        · rw [ne_eq, List.take_eq_nil_iff, not_or]
          exact ⟨by decide, digitsOf_ne_nil⟩
        · rw [List.length_take]
          omega

/-- A decimal begins with its sign or with a digit. -/
theorem head_chars (x : Decimal) : ∃ c rest, x.chars = c :: rest ∧ (c = '-' ∨ c.isDigit) := by
  have grammatical := x.literal_grammatical
  unfold chars Literal.chars
  cases signed : x.literal.negative with
  | true => exact ⟨'-', _, rfl, .inl rfl⟩
  | false =>
    cases shape : x.literal.whole with
    | nil => exact absurd shape grammatical.some_
    | cons c whole => exact ⟨c, _, rfl, .inr (grammatical.whole c (shape ▸ List.mem_cons_self))⟩

/-- The literal of a decimal is of that decimal. -/
theorem number_literal (x : Decimal) : x.literal.number = x := by
  have exact_ (exponent : ℤ) (same : exponent = x.exponent) :
      of x.negative x.significand exponent = x := by
    have scaled := x.of_scaled 0
    rw [Nat.pow_zero, Nat.mul_one, Nat.cast_zero, sub_zero] at scaled
    rw [same, scaled]
  have some_ : (digitsOf x.significand).length ≠ 0 := by
    rw [ne_eq, List.length_eq_zero_iff]
    exact digitsOf_ne_nil
  unfold literal Literal.number
  dsimp only
  split
  · rename_i whole
    have scaled := x.of_scaled x.exponent.toNat
    rw [Int.toNat_of_nonneg whole.1, sub_self] at scaled
    rw [List.append_nil, Nat.ofDigitChars_append, value_digitsOf, Nat.ofDigitChars_replicate_zero,
      Nat.mul_comm]
    exact scaled
  · rename_i large
    split
    · rw [List.take_append_drop, value_digitsOf]
      apply exact_
      dsimp only
      rw [List.length_drop]
      omega
    · split
      · rw [List.singleton_append, ← List.cons_append, ← List.replicate_succ, Nat.ofDigitChars_append,
          Nat.ofDigitChars_replicate_zero, Nat.mul_zero, value_digitsOf]
        apply exact_
        dsimp only
        rw [List.length_append, List.length_replicate]
        omega
      · rw [List.take_append_drop, value_digitsOf]
        apply exact_
        dsimp only
        rw [List.length_drop]
        omega

/-- What was written of a decimal is read as that decimal. -/
theorem read_chars {text : List Char} (x : Decimal) (ends : Literal.Ends text) :
    read (x.chars ++ text) = some (x, text) := by
  unfold read chars
  rw [Literal.read_chars x.literal_grammatical ends, Option.map_some]
  dsimp only
  rw [number_literal]

example : String.ofList (of true 12500 (-6)).chars = "-0.0125" := by decide +kernel

example : String.ofList (of false 15 (-8)).chars = "1.5e-7" := by decide +kernel

example : (read "12.50E+1,".toList).map (·.1) = some (ofInt 125) := by decide +kernel

end Decimal

end Numbers
