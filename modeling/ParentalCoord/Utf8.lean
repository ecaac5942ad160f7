import ParentalCoord.Js
import ParentalCoord.Streaming

/-!
Reading bytes as UTF-8.

The decoder never fails: for a sequence that is not complete, or that has a byte in it that cannot
be there, it puts out the replacement character once, and looks at that byte again.
-/

namespace ParentalCoord.Utf8

/-- A sequence that has begun: the bits so far, where its next byte has to be, how many bytes have come
and how many will after the next. -/
structure Sequence where
  code : ℕ
  lower : ℕ := 0x80
  upper : ℕ := 0xBF
  seen : ℕ
  more : ℕ
  fits : seen + more ≤ 3

abbrev State := Option Sequence

/-- The code units of a code point. -/
def unitsOf (code : ℕ) : CodeUnits :=
  if code < 0x10000 then [code]
  else [0xD800 + (code - 0x10000) / 0x400, 0xDC00 + (code - 0x10000) % 0x400]

/-- The first byte of a sequence. -/
def lead (byte : ℕ) : State × CodeUnits :=
  if byte < 0x80 then (none, [byte])
  else if 0xC2 ≤ byte ∧ byte ≤ 0xDF then
    (some { code := byte - 0xC0, seen := 1, more := 0, fits := by decide }, [])
  else if 0xE0 ≤ byte ∧ byte ≤ 0xEF then
    (some
      { code := byte - 0xE0
        lower := if byte = 0xE0 then 0xA0 else 0x80
        upper := if byte = 0xED then 0x9F else 0xBF
        seen := 1
        more := 1
        fits := by decide }, [])
  else if 0xF0 ≤ byte ∧ byte ≤ 0xF4 then
    (some
      { code := byte - 0xF0
        lower := if byte = 0xF0 then 0x90 else 0x80
        upper := if byte = 0xF4 then 0x8F else 0xBF
        seen := 1
        more := 2
        fits := by decide }, [])
  else (none, [0xFFFD])

/-- A byte that goes on with a sequence. -/
def Sequence.next (sequence : Sequence) (byte : ℕ) : State × CodeUnits :=
  let code := sequence.code * 64 + byte % 64
  match after : sequence.more with
  | 0 => (none, unitsOf code)
  | more + 1 =>
      (some
        { code := code
          seen := sequence.seen + 1
          more := more
          fits := by
            have fits := sequence.fits
            omega }, [])

def step (state : State) (byte : UInt8) : State × CodeUnits :=
  match state with
  | none => lead byte.toNat
  | some sequence =>
      if sequence.lower ≤ byte.toNat ∧ byte.toNat ≤ sequence.upper then sequence.next byte.toNat
      else ((lead byte.toNat).1, 0xFFFD :: (lead byte.toNat).2)

def decoder : Translator UInt8 ℕ State where
  start := none
  step := step
  finish
    | none => []
    | some _ => [0xFFFD]

/-- `buffer.toString('utf8')`. -/
def decode (bytes : List UInt8) : CodeUnits := decoder.translate bytes

/-! ## How much is held on to -/

/-- The bytes of a sequence that has begun. -/
def held : State → ℕ
  | none => 0
  | some sequence => sequence.seen

theorem held_le (state : State) : held state ≤ 3 := by
  cases state with
  | none => exact Nat.zero_le 3
  | some sequence => exact (Nat.le_add_right _ _).trans sequence.fits

theorem unitsOf_ne_nil (code : ℕ) : 1 ≤ (unitsOf code).length := by
  unfold unitsOf
  split <;> simp

theorem held_lead (byte : ℕ) : 1 ≤ held (lead byte).1 + (lead byte).2.length := by
  unfold lead
  split
  · exact Nat.le_add_left 1 0
  · split
    · exact Nat.le_add_right 1 0
    · split
      · exact Nat.le_add_right 1 0
      · split
        · exact Nat.le_add_right 1 0
        · exact Nat.le_add_left 1 0

/-- No more than four bytes go by without a code unit. -/
def pace : decoder.Pace 4 where
  held := held
  kept state byte := by
    change held state + 1 ≤ held (step state byte).1 + 4 * (step state byte).2.length
    have first := held_lead byte.toNat
    cases state with
    | none =>
      change 0 + 1 ≤ held (lead byte.toNat).1 + 4 * (lead byte.toNat).2.length
      omega
    | some sequence =>
      have short := held_le (some sequence)
      unfold step
      dsimp only
      split
      · unfold Sequence.next
        dsimp only
        split
        · have some_ := unitsOf_ne_nil (sequence.code * 64 + byte.toNat % 64)
          dsimp only [held] at short ⊢
          omega
        · exact Nat.le_add_right _ _
      · dsimp only [List.length_cons]
        omega

/-! ## What is encoded is read -/

/-- A byte that only goes on with a sequence. -/
theorem run_held {state next : State} {byte : UInt8} (held : step state byte = (next, [])) (rest : List UInt8) :
    decoder.run state (byte :: rest) = decoder.run next rest := by
  change ((decoder.run (step state byte).1 rest).1, (step state byte).2 ++ (decoder.run (step state byte).1 rest).2) = _
  rw [held]
  rfl

theorem run_last {state next : State} {byte : UInt8} {units : CodeUnits} (ended : step state byte = (next, units)) :
    decoder.run state [byte] = (next, units) := by
  change ((step state byte).1, (step state byte).2 ++ []) = _
  rw [ended, List.append_nil]

theorem toNat_ofNat {value : ℕ} (fits : value < 256) : (UInt8.ofNat value).toNat = value :=
  UInt8.toNat_ofNat_of_lt' fits

/-- The last byte of a sequence. -/
theorem step_last {sequence : Sequence} {value : ℕ} (last : sequence.more = 0)
    (low : sequence.lower ≤ value) (high : value ≤ sequence.upper) (fits : value < 256) :
    step (some sequence) (UInt8.ofNat value) = (none, unitsOf (sequence.code * 64 + value % 64)) := by
  have within : sequence.lower ≤ (UInt8.ofNat value).toNat ∧ (UInt8.ofNat value).toNat ≤ sequence.upper := by
    rw [toNat_ofNat fits]
    exact ⟨low, high⟩
  refine (if_pos within).trans ?_
  rw [toNat_ofNat fits]
  obtain ⟨code, lower, upper, seen, more, held⟩ := sequence
  cases last
  rfl

/-- A byte in the middle of one. -/
theorem step_middle {sequence : Sequence} {value more : ℕ} (further : sequence.more = more + 1)
    (low : sequence.lower ≤ value) (high : value ≤ sequence.upper) (fits : value < 256) :
    ∃ held, step (some sequence) (UInt8.ofNat value) =
      (some ⟨sequence.code * 64 + value % 64, 0x80, 0xBF, sequence.seen + 1, more, held⟩, []) := by
  have within : sequence.lower ≤ (UInt8.ofNat value).toNat ∧ (UInt8.ofNat value).toNat ≤ sequence.upper := by
    rw [toNat_ofNat fits]
    exact ⟨low, high⟩
  obtain ⟨code, lower, upper, seen, later, held⟩ := sequence
  dsimp only at further
  subst further
  refine ⟨by dsimp only; omega, (if_pos within).trans ?_⟩
  rw [toNat_ofNat fits]
  rfl

theorem step_lead {value : ℕ} (fits : value < 256) : step none (UInt8.ofNat value) = lead value :=
  congrArg lead (toNat_ofNat fits)

section Encoded

variable {v : ℕ}

theorem run_two (from_ : 0x80 ≤ v) (upto : v ≤ 0x7ff) :
    decoder.run none [UInt8.ofNat (v / 64 % 0x20 + 0xc0), UInt8.ofNat (v % 0x40 + 0x80)] = (none, unitsOf v) := by
  have first : step none (UInt8.ofNat (v / 64 % 0x20 + 0xc0)) =
      (some ⟨v / 64 % 0x20 + 0xc0 - 0xC0, 0x80, 0xBF, 1, 0, by decide⟩, []) := by
    rw [step_lead (by omega), lead, if_neg (by omega), if_pos (by omega)]
  have second := @step_last ⟨v / 64 % 0x20 + 0xc0 - 0xC0, 0x80, 0xBF, 1, 0, by decide⟩ (v % 0x40 + 0x80) rfl
    (by dsimp only; omega) (by dsimp only; omega) (by omega)
  have whole : (v / 64 % 0x20 + 0xc0 - 0xC0) * 64 + (v % 0x40 + 0x80) % 64 = v := by omega
  rw [whole] at second
  rw [run_held first, run_last second]

/-- The surrogates are what the bounds of the second byte leave out. -/
theorem run_three (from_ : 0x800 ≤ v) (upto : v ≤ 0xffff) (scalar : v < 0xD800 ∨ 0xDFFF < v) :
    decoder.run none [UInt8.ofNat (v / 4096 % 0x10 + 0xe0), UInt8.ofNat (v / 64 % 0x40 + 0x80),
      UInt8.ofNat (v % 0x40 + 0x80)] = (none, unitsOf v) := by
  let begun : Sequence :=
    ⟨v / 4096 % 0x10 + 0xe0 - 0xE0, if v / 4096 % 0x10 + 0xe0 = 0xE0 then 0xA0 else 0x80,
      if v / 4096 % 0x10 + 0xe0 = 0xED then 0x9F else 0xBF, 1, 1, by decide⟩
  have first : step none (UInt8.ofNat (v / 4096 % 0x10 + 0xe0)) = (some begun, []) := by
    rw [step_lead (by omega), lead, if_neg (by omega), if_neg (by omega), if_pos (by omega)]
  have low : begun.lower ≤ v / 64 % 0x40 + 0x80 := by
    change (if _ then _ else _) ≤ _
    split <;> omega
  have high : v / 64 % 0x40 + 0x80 ≤ begun.upper := by
    change _ ≤ (if _ then _ else _)
    split <;> omega
  obtain ⟨held, second⟩ := @step_middle begun _ 0 rfl low high (by omega)
  have third := @step_last ⟨begun.code * 64 + (v / 64 % 0x40 + 0x80) % 64, 0x80, 0xBF, begun.seen + 1, 0, held⟩
    (v % 0x40 + 0x80) rfl (by dsimp only; omega) (by dsimp only; omega) (by omega)
  have whole : ((v / 4096 % 0x10 + 0xe0 - 0xE0) * 64 + (v / 64 % 0x40 + 0x80) % 64) * 64 +
      (v % 0x40 + 0x80) % 64 = v := by omega
  dsimp only [begun] at third
  rw [whole] at third
  rw [run_held first, run_held second, run_last third]

theorem run_four (from_ : 0x10000 ≤ v) (upto : v < 0x110000) :
    decoder.run none [UInt8.ofNat (v / 262144 % 0x08 + 0xf0), UInt8.ofNat (v / 4096 % 0x40 + 0x80),
      UInt8.ofNat (v / 64 % 0x40 + 0x80), UInt8.ofNat (v % 0x40 + 0x80)] = (none, unitsOf v) := by
  let begun : Sequence :=
    ⟨v / 262144 % 0x08 + 0xf0 - 0xF0, if v / 262144 % 0x08 + 0xf0 = 0xF0 then 0x90 else 0x80,
      if v / 262144 % 0x08 + 0xf0 = 0xF4 then 0x8F else 0xBF, 1, 2, by decide⟩
  have first : step none (UInt8.ofNat (v / 262144 % 0x08 + 0xf0)) = (some begun, []) := by
    rw [step_lead (by omega), lead, if_neg (by omega), if_neg (by omega), if_neg (by omega), if_pos (by omega)]
  have low : begun.lower ≤ v / 4096 % 0x40 + 0x80 := by
    change (if _ then _ else _) ≤ _
    split <;> omega
  have high : v / 4096 % 0x40 + 0x80 ≤ begun.upper := by
    change _ ≤ (if _ then _ else _)
    split <;> omega
  obtain ⟨held, second⟩ := @step_middle begun _ 1 rfl low high (by omega)
  obtain ⟨held', third⟩ := @step_middle ⟨begun.code * 64 + (v / 4096 % 0x40 + 0x80) % 64, 0x80, 0xBF,
    begun.seen + 1, 1, held⟩ (v / 64 % 0x40 + 0x80) 0 rfl (by dsimp only; omega) (by dsimp only; omega) (by omega)
  have fourth := @step_last ⟨(begun.code * 64 + (v / 4096 % 0x40 + 0x80) % 64) * 64 + (v / 64 % 0x40 + 0x80) % 64,
    0x80, 0xBF, begun.seen + 1 + 1, 0, held'⟩ (v % 0x40 + 0x80) rfl (by dsimp only; omega) (by dsimp only; omega)
    (by omega)
  have whole : (((v / 262144 % 0x08 + 0xf0 - 0xF0) * 64 + (v / 4096 % 0x40 + 0x80) % 64) * 64 +
      (v / 64 % 0x40 + 0x80) % 64) * 64 + (v % 0x40 + 0x80) % 64 = v := by omega
  dsimp only [begun] at fourth
  rw [whole] at fourth
  rw [run_held first, run_held second, run_held third, run_last fourth]

end Encoded

/-- A character is read from its bytes. -/
theorem run_utf8EncodeChar (c : Char) : decoder.run none (String.utf8EncodeChar c) = (none, unitsOf c.toNat) := by
  have valid : c.toNat < 0xD800 ∨ 0xDFFF < c.toNat ∧ c.toNat < 0x110000 := c.valid
  have same : c.toNat = c.val.toNat := rfl
  unfold String.utf8EncodeChar
  rw [same] at valid ⊢
  dsimp only
  generalize c.val.toNat = v at valid ⊢
  split
  · have first : step none (UInt8.ofNat v) = (none, [v]) := by
      rw [step_lead (by omega), lead, if_pos (by omega)]
    have units : unitsOf v = [v] := if_pos (by omega)
    rw [run_last first, units]
  · split
    · exact run_two (by omega) (by omega)
    · split
      · exact run_three (by omega) (by omega) (by omega)
      · exact run_four (by omega) (by omega)

/-- **A text is read from its bytes.** -/
theorem decode_utf8 (text : String) : decode (text.toList.flatMap String.utf8EncodeChar) = utf16 text :=
  decoder.translate_flatMap rfl run_utf8EncodeChar text.toList

end ParentalCoord.Utf8
