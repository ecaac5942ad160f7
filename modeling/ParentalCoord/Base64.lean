import Mathlib.Data.List.Basic

/-!
Base64, as a lenient reader takes it.

What is no symbol is skipped, the two symbols of the alphabet for URLs count as well, and the
padding ends the text.  Whatever bytes are written are read again.
-/

namespace Base64

/-- The symbol of a number below 64. -/
def symbol (value : ℕ) : Char :=
  if value < 26 then Char.ofNat (value + 65)
  else if value < 52 then Char.ofNat (value + 71)
  else if value < 62 then Char.ofNat (value - 4)
  else if value = 62 then '+'
  else '/'

def valueOf (c : Char) : Option ℕ :=
  if 65 ≤ c.toNat ∧ c.toNat ≤ 90 then some (c.toNat - 65)
  else if 97 ≤ c.toNat ∧ c.toNat ≤ 122 then some (c.toNat - 71)
  else if 48 ≤ c.toNat ∧ c.toNat ≤ 57 then some (c.toNat + 4)
  else if c = '+' ∨ c = '-' then some 62
  else if c = '/' ∨ c = '_' then some 63
  else none

/-- Three bytes in four symbols, with padding at the end. -/
def encode : List UInt8 → List Char
  | [] => []
  | [first] => [symbol (first.toNat / 4), symbol (first.toNat % 4 * 16), '=', '=']
  | [first, second] =>
      [symbol (first.toNat / 4), symbol (first.toNat % 4 * 16 + second.toNat / 16),
        symbol (second.toNat % 16 * 4), '=']
  | first :: second :: third :: rest =>
      symbol (first.toNat / 4) :: symbol (first.toNat % 4 * 16 + second.toNat / 16) ::
        symbol (second.toNat % 16 * 4 + third.toNat / 64) :: symbol (third.toNat % 64) :: encode rest

/-- The bytes of some values.  A single value at the end makes none. -/
def bytes : List ℕ → List UInt8
  | first :: second :: third :: fourth :: rest =>
      UInt8.ofNat (first * 4 + second / 16) :: UInt8.ofNat (second % 16 * 16 + third / 4) ::
        UInt8.ofNat (third % 4 * 64 + fourth) :: bytes rest
  | [first, second, third] =>
      [UInt8.ofNat (first * 4 + second / 16), UInt8.ofNat (second % 16 * 16 + third / 4)]
  | [first, second] => [UInt8.ofNat (first * 4 + second / 16)]
  | _ => []

def decode (text : List Char) : List UInt8 := bytes ((text.takeWhile (· ≠ '=')).filterMap valueOf)

theorem symbol_spec : ∀ value < 64,
    valueOf (symbol value) = some value ∧ symbol value ≠ '=' ∧ symbol value ≠ ':' := by
  decide

/-- A symbol is read as its value. -/
theorem decode_values {value : ℕ} (small : value < 64) (rest : List Char) :
    ((symbol value :: rest).takeWhile (· ≠ '=')).filterMap valueOf =
      value :: (rest.takeWhile (· ≠ '=')).filterMap valueOf := by
  obtain ⟨read, inside, -⟩ := symbol_spec value small
  rw [List.takeWhile_cons, if_pos (decide_eq_true inside), List.filterMap_cons_some read]

theorem decode_padding (rest : List Char) :
    (('=' :: rest).takeWhile (· ≠ '=')).filterMap valueOf = [] := rfl

theorem ofNat_eq {value : ℕ} (byte : UInt8) (same : value = byte.toNat) : UInt8.ofNat value = byte := by
  rw [same, UInt8.ofNat_toNat]

theorem decode_encode (data : List UInt8) : decode (encode data) = data := by
  unfold decode
  induction data using encode.induct with
  | case1 => rfl
  | case2 first =>
    have small := first.toNat_lt
    rw [encode, decode_values (by omega), decode_values (by omega), decode_padding, bytes,
      ofNat_eq first (by omega)]
  | case3 first second =>
    have small := first.toNat_lt
    have small' := second.toNat_lt
    rw [encode, decode_values (by omega), decode_values (by omega), decode_values (by omega),
      decode_padding, bytes, ofNat_eq first (by omega), ofNat_eq second (by omega)]
  | case4 first second third rest ih =>
    have small := first.toNat_lt
    have small' := second.toNat_lt
    have small'' := third.toNat_lt
    rw [encode, decode_values (by omega), decode_values (by omega), decode_values (by omega),
      decode_values (by omega), bytes, ih, ofNat_eq first (by omega),
      ofNat_eq second (by omega), ofNat_eq third (by omega)]

/-- No symbol is a colon. -/
theorem colon_not_mem_encode (data : List UInt8) : ':' ∉ encode data := by
  have apart {value : ℕ} (small : value < 64) : ':' ≠ symbol value := (symbol_spec value small).2.2.symm
  induction data using encode.induct with
  | case1 => exact List.not_mem_nil
  | case2 first =>
    have small := first.toNat_lt
    have values : first.toNat / 4 < 64 ∧ first.toNat % 4 * 16 < 64 := by omega
    simp [encode, apart values.1, apart values.2]
  | case3 first second =>
    have small := first.toNat_lt
    have small' := second.toNat_lt
    have values : first.toNat / 4 < 64 ∧ first.toNat % 4 * 16 + second.toNat / 16 < 64 ∧
        second.toNat % 16 * 4 < 64 := by omega
    simp [encode, apart values.1, apart values.2.1, apart values.2.2]
  | case4 first second third rest ih =>
    have small := first.toNat_lt
    have small' := second.toNat_lt
    have small'' := third.toNat_lt
    have values : first.toNat / 4 < 64 ∧ first.toNat % 4 * 16 + second.toNat / 16 < 64 ∧
        second.toNat % 16 * 4 + third.toNat / 64 < 64 ∧ third.toNat % 64 < 64 := by omega
    simp [encode, apart values.1, apart values.2.1, apart values.2.2.1, apart values.2.2.2, ih]

end Base64
