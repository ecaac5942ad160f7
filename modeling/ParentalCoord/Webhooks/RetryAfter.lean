import ParentalCoord.Numbers.Doubles
import ParentalCoord.Webhooks.Service

/-!
What an endpoint may say in `Retry-After`, and the instant of the next attempt.

The header gives a number of seconds or a date.  The client turns it into a delay, the
backoff takes any finite delay that is not negative, and the delay is added to the time of
the outcome.  The sum is a `Date` only within the range of dates, and nothing on the way
bounds it.

`Date.parse` is the runtime's, and answers `none` for `NaN`.
-/

namespace ParentalCoord.Webhooks

open Numbers

variable {dateParse : String → Option Instant} {readAt now dateMs : ℤ}

/-- The last instant of the range of dates; the first one is as far before the epoch. -/
def MAX_DATE : ℤ := 8640000000000000

theorem validDate_iff {instant : ℤ} :
    validDate instant = true ↔ -MAX_DATE ≤ instant ∧ instant ≤ MAX_DATE := by
  unfold validDate MAX_DATE
  rw [decide_eq_true_eq]
  omega

/-! ## The delay -/

/-- `ssrf-http.client.ts::parseRetryAfter`: the delay in milliseconds that a header asks for. -/
def parseRetryAfter (dateParse : String → Option Instant) (value : Option String)
    (nowMs : Instant) : Option Double :=
  match value with
  | none => none
  | some value =>
    let trimmed := jsTrim value
    if trimmed = "" then none
    else match decimal trimmed.toList with
    | some digits =>
      match Double.ofExact digits with
      | .finite seconds => some (Double.ofExact (seconds * 1000))
      | .infinite _ => none
    | none =>
      match dateParse trimmed with
      | none => none
      | some dateMs =>
        match Double.ofExact (dateMs - nowMs) with
        | .finite delta => some (if 0 < delta then .finite delta else .finite 0)
        | .infinite negative => some (if negative then .finite 0 else .infinite false)

/-- `new Date(now.getTime() + delayMs)`; `none` is an invalid date. -/
def laterDate (now : Instant) (delayMs : ℤ) : Option Instant :=
  match Double.ofExact (now + delayMs) with
  | .finite instant => if validDate instant then some instant else none
  | .infinite _ => none

/-- The delay that the result of a request carries.  One that is not finite is passed over
by the backoff, and is `null` in the data of a job. -/
def carriedDelay (dateParse : String → Option Instant) (header : Option String)
    (readAt : Instant) : Option ℤ :=
  (parseRetryAfter dateParse header readAt).bind Double.finite?

/-- The instant that `RETRYING` writes, for a header that was read at one time and an
outcome that is recorded at another. -/
def nextAttemptAt (dateParse : String → Option Instant) (header : Option String)
    (readAt now : Instant) (attemptNo : ℕ) : Option Instant :=
  laterDate now (resolveBackoffMs attemptNo (carriedDelay dateParse header readAt))

theorem laterDate_eq {delayMs : ℤ} : laterDate now delayMs =
    if validDate (now + delayMs) then some (now + delayMs) else none := by
  unfold laterDate
  by_cases valid : validDate (now + delayMs) = true
  · have held : (now + delayMs).natAbs < 2 ^ 53 := by
      have range := validDate_iff.mp valid
      simp only [MAX_DATE] at range
      omega
    rw [Double.ofExact_of_lt held]
  · -- Rounding does not bring a sum back into the range: the first whole number past it is held.
    have far : 8640000000000001 ≤ nearest 53 (now + delayMs).natAbs := by
      have past : 8640000000000001 ≤ (now + delayMs).natAbs := by
        simp only [validDate, decide_eq_true_eq] at valid
        omega
      calc 8640000000000001 = nearest 53 8640000000000001 := by decide +kernel
        _ ≤ nearest 53 (now + delayMs).natAbs := nearest_mono (by decide) past
    have nonzero : now + delayMs ≠ 0 := by
      intro zero
      rw [zero] at valid
      exact valid (by decide)
    rw [if_neg valid, Double.ofExact]
    split
    · rename_i instant finite
      split at finite
      · have same := Double.finite.inj finite
        have size : instant.natAbs = nearest 53 (now + delayMs).natAbs := by
          rw [← same, Int.natAbs_mul, Int.natAbs_sign_of_ne_zero nonzero, Nat.one_mul,
            Int.natAbs_natCast]
        apply if_neg
        simp only [validDate, decide_eq_true_eq]
        omega
      · cases finite
    · rfl

/-- What the write of `RETRYING` takes is the exact sum, and it fails on one that is no
date. -/
theorem updateStatus_retried {world : World} {id : Uuid} {attemptNo : ℕ} {instant : Instant}
    {result : SsrfHttpResult} :
    (world.updateStatus id (retried attemptNo instant result)).1 =
      if validDate instant then .ok () else .error .fault := by
  cases valid : validDate instant
  · simp [World.updateStatus, retried, valid]
  · simp only [World.updateStatus, retried]
    cases world.deliveries.get id <;> simp [valid]

/-! ## What a header says -/

inductive RetryAfter where
  /-- No header, an empty one, or one that is neither a number of seconds nor a date. -/
  | nothing
  | seconds (digits : ℕ)
  | date (dateMs : ℤ)

def RetryAfter.of (dateParse : String → Option Instant) (header : Option String) : RetryAfter :=
  match header.map jsTrim with
  | none => .nothing
  | some text =>
    if text = "" then .nothing
    else match decimal text.toList, dateParse text with
    | some digits, _ => .seconds digits
    | none, some dateMs => .date dateMs
    | none, none => .nothing

/-- The delay of a header, by what it says. -/
def RetryAfter.delay (readAt : ℤ) : RetryAfter → Option Double
  | .nothing => none
  | .seconds digits =>
    match Double.ofExact digits with
    | .finite value => some (Double.ofExact (value * 1000))
    | .infinite _ => none
  | .date dateMs =>
    match Double.ofExact (dateMs - readAt) with
    | .finite delta => some (if 0 < delta then .finite delta else .finite 0)
    | .infinite negative => some (if negative then .finite 0 else .infinite false)

theorem parseRetryAfter_eq (header : Option String) :
    parseRetryAfter dateParse header readAt = (RetryAfter.of dateParse header).delay readAt := by
  cases header with
  | none => rfl
  | some value =>
    simp only [parseRetryAfter, RetryAfter.of, Option.map_some]
    by_cases empty : jsTrim value = ""
    · rw [if_pos empty, if_pos empty, RetryAfter.delay]
    · rw [if_neg empty, if_neg empty]
      cases decimal (jsTrim value).toList with
      | some digits => rfl
      | none => cases dateParse (jsTrim value) <;> rfl

/-- What a header says of a date is what `Date.parse` answered. -/
theorem RetryAfter.parsed_of_date {header : Option String}
    (said : RetryAfter.of dateParse header = .date dateMs) :
    ∃ text, dateParse text = some dateMs := by
  unfold RetryAfter.of at said
  split at said
  · cases said
  · rename_i text _
    split at said
    · cases said
    · split at said
      · cases said
      · rename_i parsed
        injection said with same
        exact ⟨text, by rw [parsed, same]⟩
      · cases said

/-! ## Seconds -/

/-- From this number of seconds on the milliseconds are infinite. -/
@[irreducible] def ENDLESS : ℕ := 9223372036854775 * 2 ^ 961

/-- The milliseconds of a number of seconds: both are rounded. -/
def roundedMs (digits : ℕ) : ℕ := nearest 53 (1000 * nearest 53 digits)

theorem roundedMs_mono {fewer more : ℕ} (le : fewer ≤ more) : roundedMs fewer ≤ roundedMs more :=
  nearest_mono (by decide) (Nat.mul_le_mul_left 1000 (nearest_mono (by decide) le))

theorem roundedMs_lt_limit {digits : ℕ} : roundedMs digits < Double.limit ↔ digits < ENDLESS := by
  constructor
  · intro finite
    by_contra past
    have least : Double.limit ≤ roundedMs ENDLESS := by decide +kernel
    have more := roundedMs_mono (Nat.le_of_not_lt past)
    omega
  · intro below
    calc roundedMs digits ≤ roundedMs (ENDLESS - 1) := roundedMs_mono (Nat.le_pred_of_lt below)
      _ < Double.limit := by decide +kernel

theorem roundedMs_eq {digits : ℕ} (few : digits ≤ 2 ^ 46) : roundedMs digits = 1000 * digits := by
  have held : nearest 53 digits = digits := nearest_of_lt (by omega)
  have factor : 2 ^ 3 ∣ 1000 * digits := Nat.dvd_trans (by decide) (Nat.dvd_mul_right 1000 digits)
  rw [roundedMs, held, nearest_of_factor factor (by omega)]

/-- Past what is exact the milliseconds lie beyond twice the range of dates. -/
theorem far_of_roundedMs {digits : ℕ} (many : 2 ^ 46 < digits) :
    1000 * 2 ^ 46 ≤ roundedMs digits := by
  rw [← roundedMs_eq (Nat.le_refl _)]
  exact roundedMs_mono (Nat.le_of_lt many)

theorem delay_seconds {digits : ℕ} :
    ((RetryAfter.seconds digits).delay readAt).bind Double.finite? =
      if digits < ENDLESS then some (roundedMs digits : ℤ) else none := by
  simp only [RetryAfter.delay, Double.ofExact_natCast]
  by_cases held : nearest 53 digits < Double.limit
  · have product : (nearest 53 digits : ℤ) * 1000 = ((1000 * nearest 53 digits : ℕ) : ℤ) := by
      omega
    rw [if_pos held]
    simp only [product, Double.ofExact_natCast, ← roundedMs_lt_limit]
    rw [← roundedMs]
    split <;> rfl
  · have past : ¬digits < ENDLESS := by
      intro below
      apply held
      calc nearest 53 digits ≤ nearest 53 ENDLESS := nearest_mono (by decide) (Nat.le_of_lt below)
        _ < Double.limit := by decide +kernel
    rw [if_neg held, if_neg past]
    rfl

/-! ## Dates -/

/-- What rounding adds to a difference of two dates.  Beyond `2 ^ 53` an odd one is not held. -/
def carry (gap : ℤ) : ℤ :=
  if gap ≤ 2 ^ 53 then 0 else if gap % 4 = 3 then 1 else if gap % 4 = 1 then -1 else 0

theorem ofExact_gap {gap : ℕ} (bound : gap < 2 ^ 54) :
    Double.ofExact gap = .finite (gap + carry gap) := by
  have rounded : (nearest 53 gap : ℤ) = gap + carry gap := by
    unfold carry
    by_cases small : gap < 2 ^ 53
    · rw [nearest_of_lt small, if_pos (by omega), Int.add_zero]
    · rw [nearest_of_one_bit_more (by omega) bound]
      split_ifs <;> omega
  have finite : nearest 53 gap < Double.limit := by
    calc nearest 53 gap ≤ nearest 53 (2 ^ 54) := nearest_mono (by decide) (Nat.le_of_lt bound)
      _ < Double.limit := by decide +kernel
  rw [Double.ofExact_natCast, if_pos finite, rounded]

/-- A double of a difference that is not positive is not positive either. -/
theorem delay_date_past (past : dateMs ≤ readAt) :
    ((RetryAfter.date dateMs).delay readAt).bind Double.finite? = some 0 := by
  have sign : (dateMs - readAt).sign * nearest 53 (dateMs - readAt).natAbs ≤ 0 :=
    Int.mul_nonpos_of_nonpos_of_nonneg (Int.sign_nonpos_iff.mpr (by omega)) (by omega)
  simp only [RetryAfter.delay, Double.ofExact]
  by_cases finite : nearest 53 (dateMs - readAt).natAbs < Double.limit
  · rw [if_pos finite]
    simp only [Int.not_lt.mpr sign, if_false]
    rfl
  · have negative : dateMs - readAt < 0 := by
      by_contra zero
      have same : (dateMs - readAt).natAbs = 0 := by omega
      rw [same] at finite
      exact finite (by decide +kernel)
    rw [if_neg finite]
    simp only [negative, decide_true, if_true]
    rfl

theorem delay_date (future : readAt < dateMs) (near : dateMs - readAt < 2 ^ 54) :
    ((RetryAfter.date dateMs).delay readAt).bind Double.finite? =
      some (dateMs - readAt + carry (dateMs - readAt)) := by
  obtain ⟨gap, same⟩ := Int.eq_ofNat_of_zero_le (show 0 ≤ dateMs - readAt by omega)
  have positive : 0 < (gap : ℤ) + carry gap := by
    unfold carry
    split_ifs <;> omega
  simp only [RetryAfter.delay, same, ofExact_gap (show gap < 2 ^ 54 by omega), positive, if_true]
  rfl

/-! ## The date of the next attempt -/

/-- The range of dates less thirty days. -/
structure Current (instant : ℤ) : Prop where
  lower : -MAX_DATE ≤ instant
  upper : instant + 30 * 86400000 ≤ MAX_DATE

/-- What a header says leaves the next attempt within the range of dates.  Of a date only
the time between the two readings of the clock is added to it, and what rounding adds. -/
def RetryAfter.Fits (readAt now : ℤ) : RetryAfter → Prop
  | .nothing => True
  | .seconds digits => ENDLESS ≤ digits ∨ now + 1000 * digits ≤ MAX_DATE
  | .date dateMs =>
    dateMs ≤ readAt ∨ dateMs + (now - readAt) + carry (dateMs - readAt) ≤ MAX_DATE

/-- A valid date that is not before `now`. -/
def Dated (now : ℤ) (next : Option Instant) : Prop :=
  ∃ date, next = some date ∧ validDate date = true ∧ now ≤ date

/-- A delay that is not negative leads to a date unless it leads past the last one. -/
theorem laterDate_iff {delayMs : ℤ} (current : Current now) (positive : 0 ≤ delayMs) :
    Dated now (laterDate now delayMs) ↔ now + delayMs ≤ MAX_DATE := by
  have lower := current.lower
  rw [laterDate_eq]
  constructor
  · rintro ⟨date, dated, valid, _⟩
    split at dated
    · cases dated
      exact (validDate_iff.mp valid).2
    · cases dated
  · intro within
    have valid : validDate (now + delayMs) = true := validDate_iff.mpr ⟨by omega, within⟩
    exact ⟨now + delayMs, if_pos valid, valid, by omega⟩

theorem webhookBackoffForAttempt_range (attemptNo : ℕ) :
    0 ≤ webhookBackoffForAttempt attemptNo ∧ webhookBackoffForAttempt attemptNo ≤ 36000000 := by
  have scheduled : ∀ index < 8, 0 ≤ WEBHOOK_BACKOFF_MS.getD index 0 ∧
      WEBHOOK_BACKOFF_MS.getD index 0 ≤ 36000000 := by
    decide
  apply scheduled
  have length : WEBHOOK_BACKOFF_MS.length = 8 := rfl
  omega

theorem resolveBackoffMs_nonneg (attemptNo : ℕ) (delayMs : Option ℤ) : 0 ≤ resolveBackoffMs attemptNo delayMs := by
  cases delayMs with
  | none => exact (webhookBackoffForAttempt_range attemptNo).1
  | some delayMs =>
    rw [resolveBackoffMs]
    split
    · assumption
    · exact (webhookBackoffForAttempt_range attemptNo).1

/-- The schedule never leads out of the range. -/
theorem scheduled_dated (current : Current now) (attemptNo : ℕ) :
    Dated now (laterDate now (webhookBackoffForAttempt attemptNo)) := by
  have range := webhookBackoffForAttempt_range attemptNo
  have upper := current.upper
  apply (laterDate_iff current range.1).mpr
  omega

theorem resolved_iff {delayMs : ℤ} (current : Current now) (positive : 0 ≤ delayMs)
    (attemptNo : ℕ) :
    Dated now (laterDate now (resolveBackoffMs attemptNo (some delayMs))) ↔
      now + delayMs ≤ MAX_DATE := by
  rw [resolveBackoffMs, if_pos positive]
  exact laterDate_iff current positive

theorem seconds_dated_iff (current : Current now) (digits attemptNo : ℕ) :
    Dated now (laterDate now (resolveBackoffMs attemptNo
        (((RetryAfter.seconds digits).delay readAt).bind Double.finite?))) ↔
      (RetryAfter.seconds digits).Fits readAt now := by
  have lower := current.lower
  rw [delay_seconds]
  by_cases below : digits < ENDLESS
  · rw [if_pos below, resolved_iff current (by omega)]
    simp only [RetryAfter.Fits, Nat.not_le.mpr below, false_or]
    by_cases few : digits ≤ 2 ^ 46
    · rw [roundedMs_eq few, Nat.cast_mul]
      rfl
    · -- Neither the rounded milliseconds nor the exact ones fit.
      have far := far_of_roundedMs (Nat.lt_of_not_le few)
      simp only [MAX_DATE] at lower ⊢
      omega
  · rw [if_neg below]
    exact iff_of_true (scheduled_dated current attemptNo) (Or.inl (Nat.le_of_not_lt below))

theorem date_dated_iff (before : Current readAt) (current : Current now)
    (valid : validDate dateMs = true) (attemptNo : ℕ) :
    Dated now (laterDate now (resolveBackoffMs attemptNo
        (((RetryAfter.date dateMs).delay readAt).bind Double.finite?))) ↔
      (RetryAfter.date dateMs).Fits readAt now := by
  by_cases past : dateMs ≤ readAt
  · have upper := current.upper
    rw [delay_date_past past, resolved_iff current (Int.le_refl 0)]
    exact iff_of_true (by omega) (Or.inl past)
  · have gap : dateMs - readAt < 2 ^ 54 := by
      have range := validDate_iff.mp valid
      have lower := before.lower
      simp only [MAX_DATE] at range lower
      omega
    have positive : 0 ≤ dateMs - readAt + carry (dateMs - readAt) := by
      unfold carry
      split_ifs <;> omega
    rw [delay_date (by omega) gap, resolved_iff current positive]
    simp only [RetryAfter.Fits, past, false_or]
    constructor <;> intro within <;> omega

theorem nextAttemptAt_dated_iff
    (clipped : ∀ text date, dateParse text = some date → validDate date = true)
    (before : Current readAt) (current : Current now) (header : Option String) (attemptNo : ℕ) :
    Dated now (nextAttemptAt dateParse header readAt now attemptNo) ↔
      (RetryAfter.of dateParse header).Fits readAt now := by
  rw [nextAttemptAt, carriedDelay, parseRetryAfter_eq]
  cases said : RetryAfter.of dateParse header with
  | nothing => exact iff_of_true (scheduled_dated current attemptNo) trivial
  | seconds digits => exact seconds_dated_iff current digits attemptNo
  | date dateMs =>
    obtain ⟨text, parsed⟩ := RetryAfter.parsed_of_date said
    exact date_dated_iff before current (clipped text dateMs parsed) attemptNo

/-- A date there is is what the write of `RETRYING` takes. -/
theorem dated_iff_written {world : World} {id : Uuid} {attemptNo : ℕ} {result : SsrfHttpResult}
    {header : Option String} :
    Dated now (nextAttemptAt dateParse header readAt now attemptNo) ↔
      (world.updateStatus id (retried attemptNo
        (now + resolveBackoffMs attemptNo (carriedDelay dateParse header readAt)) result)).1 = .ok () := by
  have positive := resolveBackoffMs_nonneg attemptNo (carriedDelay dateParse header readAt)
  rw [updateStatus_retried, nextAttemptAt, laterDate_eq]
  cases valid : validDate (now + resolveBackoffMs attemptNo (carriedDelay dateParse header readAt)) with
  | true => exact iff_of_true ⟨_, rfl, valid, by omega⟩ rfl
  | false => exact iff_of_false (fun ⟨_, dated, _⟩ => by cases dated) nofun

/-- **The date of the next attempt.**  Whatever the header, the attempt that follows has a
valid date that is not past, and the write of `RETRYING` succeeds, if and only if what the header
says fits in the range of dates. -/
theorem nextAttemptAt_valid_iff
    (clipped : ∀ text date, dateParse text = some date → validDate date = true)
    (before : Current readAt) (current : Current now) (header : Option String) (attemptNo : ℕ) :
    (Dated now (nextAttemptAt dateParse header readAt now attemptNo) ↔
      (RetryAfter.of dateParse header).Fits readAt now) ∧
    ∀ (world : World) (id : Uuid) (result : SsrfHttpResult),
      (world.updateStatus id (retried attemptNo
        (now + resolveBackoffMs attemptNo (carriedDelay dateParse header readAt)) result)).1 = .ok () ↔
      (RetryAfter.of dateParse header).Fits readAt now :=
  have dated := nextAttemptAt_dated_iff clipped before current header attemptNo
  ⟨dated, fun _ _ _ => dated_iff_written.symm.trans dated⟩

/-- A date an hour away, read a quarter of a second before the outcome is recorded. -/
theorem nextAttemptAt_valid_noon :
    Dated 1790852400250 (nextAttemptAt
      (fun text => if text = "Thu, 01 Oct 2026 12:00:00 GMT" then some 1790856000000 else none)
      (some "Thu, 01 Oct 2026 12:00:00 GMT") 1790852400000 1790852400250 1) := by
  apply (nextAttemptAt_valid_iff _ ⟨by decide, by decide⟩ ⟨by decide, by decide⟩ _ 1).1.mpr
  · exact Or.inr (by decide +kernel)
  · intro text date parsed
    split at parsed
    · cases parsed
      decide
    · cases parsed

/-- Fourteen digits of seconds lead past the last date. -/
theorem nextAttemptAt_invalid :
    ¬∀ dateParse : String → Option Instant,
      (∀ text date, dateParse text = some date → validDate date = true) →
      ∀ now, Current now → ∀ (header : String) (attemptNo : ℕ),
        Dated now (nextAttemptAt dateParse (some header) now now attemptNo) := by
  intro always
  obtain ⟨date, dated, _⟩ := always (fun _ => none) nofun 1790856000000
    ⟨by decide, by decide⟩ "99999999999999" 1
  have undated : nextAttemptAt (fun _ => none) (some "99999999999999") 1790856000000
      1790856000000 1 = none := by
    decide +kernel
  rw [undated] at dated
  cases dated

end ParentalCoord.Webhooks
