import ParentalCoord.CodeUnits
import ParentalCoord.Utf8
import ParentalCoord.Webhooks.Attempt

/-!
What is kept of an answer.

The client reads the body of an answer until it has enough of it, in pieces that the network cuts as it
likes, even in the middle of a character.  What is kept in the log is the beginning of the text.
-/

namespace ParentalCoord.Webhooks.Snippet

open Utf8

def MAX_SSRF_RESPONSE_BYTES := 64 * 1024

/-- The pieces that are read: to the end, or up to the one with which there is enough. -/
def readChunks (maxBytes : ℕ) : ℕ → List (List UInt8) → List (List UInt8)
  | _, [] => []
  | total, value :: rest =>
      if maxBytes ≤ total + value.length then [value]
      else value :: readChunks maxBytes (total + value.length) rest

def readCappedBody (maxBytes : ℕ) (chunks : List (List UInt8)) : CodeUnits :=
  (decode (readChunks maxBytes 0 chunks).flatten).take maxBytes

/-- What `truncateResponseSnippet` does, to a text in its code units. -/
def truncate (body : CodeUnits) : Option CodeUnits :=
  if body = [] then none
  else some (if WEBHOOK_RESPONSE_SNIPPET_MAX_CHARS < body.length then
    body.take WEBHOOK_RESPONSE_SNIPPET_MAX_CHARS else body)

/-- What is stored of an answer that comes in these pieces. -/
def stored (chunks : List (List UInt8)) : Option String :=
  (truncate (readCappedBody MAX_SSRF_RESPONSE_BYTES chunks)).map fun units => String.ofList (storedChars units)

/-! ## What is read -/

/-- All of the answer, or enough of it and no more than one piece beyond that. -/
theorem readChunks_cases (maxBytes total : ℕ) (chunks : List (List UInt8)) :
    readChunks maxBytes total chunks = chunks ∨ ∃ front last behind, chunks = front ++ last :: behind ∧
      readChunks maxBytes total chunks = front ++ [last] ∧ maxBytes ≤ total + (front ++ [last]).flatten.length := by
  induction chunks generalizing total with
  | nil => exact .inl rfl
  | cons value rest ih =>
    unfold readChunks
    by_cases enough : maxBytes ≤ total + value.length
    · rw [if_pos enough]
      exact .inr ⟨[], value, rest, rfl, rfl, by simpa using enough⟩
    · rw [if_neg enough]
      rcases ih (total + value.length) with all | ⟨front, last, behind, parts, read, enough⟩
      · exact .inl (by rw [all])
      · refine .inr ⟨value :: front, last, behind, by rw [parts, List.cons_append], by rw [read, List.cons_append], ?_⟩
        rw [List.cons_append, List.flatten_cons, List.length_append]
        omega

/-- No more is held in memory than was asked for and the piece that goes beyond it. -/
theorem length_readChunks {maxBytes total : ℕ} (wanted : total < maxBytes) (chunks : List (List UInt8)) :
    total + (readChunks maxBytes total chunks).dropLast.flatten.length < maxBytes := by
  induction chunks generalizing total with
  | nil => exact wanted
  | cons value rest ih =>
    unfold readChunks
    by_cases enough : maxBytes ≤ total + value.length
    · rw [if_pos enough]
      exact wanted
    · rw [if_neg enough]
      have later := ih (not_le.mp enough)
      cases read : readChunks maxBytes (total + value.length) rest with
      | nil => exact wanted
      | cons next others =>
        rw [read] at later
        rw [List.dropLast_cons_cons, List.flatten_cons, List.length_append]
        omega

theorem truncate_eq (body : CodeUnits) :
    truncate body = if body = [] then none else some (body.take WEBHOOK_RESPONSE_SNIPPET_MAX_CHARS) := by
  unfold truncate
  split
  · rfl
  · split
    · rfl
    · rw [List.take_of_length_le (by omega)]

/-- Only the beginning of a text matters. -/
theorem truncate_congr {first second : CodeUnits}
    (same : first.take WEBHOOK_RESPONSE_SNIPPET_MAX_CHARS = second.take WEBHOOK_RESPONSE_SNIPPET_MAX_CHARS) :
    truncate first = truncate second := by
  have empty (body : CodeUnits) : body = [] ↔ body.take WEBHOOK_RESPONSE_SNIPPET_MAX_CHARS = [] := by
    rw [List.take_eq_nil_iff]
    exact ⟨.inr, fun none_ => none_.resolve_left (by decide)⟩
  rw [truncate_eq, truncate_eq, same]
  refine if_congr ?_ rfl rfl
  rw [empty first, empty second, same]

/-- Where reading stopped early, there was more than enough for what is kept. -/
theorem take_readCappedBody (chunks : List (List UInt8)) :
    (readCappedBody MAX_SSRF_RESPONSE_BYTES chunks).take WEBHOOK_RESPONSE_SNIPPET_MAX_CHARS =
      (decode chunks.flatten).take WEBHOOK_RESPONSE_SNIPPET_MAX_CHARS := by
  have within : min WEBHOOK_RESPONSE_SNIPPET_MAX_CHARS MAX_SSRF_RESPONSE_BYTES = WEBHOOK_RESPONSE_SNIPPET_MAX_CHARS := by
    decide
  rw [readCappedBody, List.take_take, within]
  rcases readChunks_cases MAX_SSRF_RESPONSE_BYTES 0 chunks with all | ⟨front, last, behind, parts, read, enough⟩
  · rw [all]
  · have whole : chunks.flatten = (front ++ [last]).flatten ++ behind.flatten := by
      rw [parts, ← List.flatten_append, List.append_assoc, List.singleton_append]
    rw [read, whole]
    refine decoder.take_translate _ ?_
    have paced := pace.run decoder.start (front ++ [last]).flatten
    have short := held_le (decoder.run decoder.start (front ++ [last]).flatten).1
    have begun : pace.held decoder.start = 0 := rfl
    have same : pace.held (decoder.run decoder.start (front ++ [last]).flatten).1 =
      held (decoder.run decoder.start (front ++ [last]).flatten).1 := rfl
    rw [begun, same] at paced
    simp only [MAX_SSRF_RESPONSE_BYTES, WEBHOOK_RESPONSE_SNIPPET_MAX_CHARS] at enough ⊢
    omega

/-! ## The beginning of a text -/

/-- A text that is cut between two halves of a pair ends in the replacement character. -/
theorem storedChars_take (count : ℕ) (text : List Char) :
    storedChars ((text.flatMap fun c => unitsOf c.toNat).take count) = sliceStart count text := by
  induction text generalizing count with
  | nil => rw [List.flatMap_nil, List.take_nil]; rfl
  | cons c text ih =>
    have valid : c.toNat < 0xD800 ∨ 0xDFFF < c.toNat ∧ c.toNat < 0x110000 := c.valid
    have small : c.val < 0x10000 ↔ c.toNat < 0x10000 := Iff.rfl
    rw [List.flatMap_cons, unitsOf, sliceStart]
    simp only [small]
    by_cases single : c.toNat < 0x10000
    · rw [if_pos single, if_pos single]
      cases count with
      | zero => rfl
      | succ count =>
        rw [if_pos (Nat.le_add_left 1 count), List.singleton_append, List.take_succ_cons,
          storedChars_cons_of_lone (by omega), ih, Char.ofNat_toNat, Nat.add_sub_cancel]
    · rw [if_neg single, if_neg single]
      match count with
      | 0 => rfl
      | 1 =>
        have half : loneUnit (0xD800 + (c.toNat - 0x10000) / 0x400) = Char.ofNat 0xFFFD := if_pos (by omega)
        rw [if_neg (by decide), if_neg (by decide)]
        exact congrArg (fun last => [last]) half
      | count + 2 =>
        rw [if_pos (Nat.le_add_left 2 count), List.cons_append, List.cons_append, List.nil_append,
          List.take_succ_cons, List.take_succ_cons, storedChars_pair (by omega) (by omega), ih, Char.ofNat_toNat,
          Nat.add_sub_cancel]

theorem utf16_eq (text : String) : utf16 text = text.toList.flatMap fun c => unitsOf c.toNat := rfl

theorem length_utf16 (text : String) : (utf16 text).length = jsLength text := by
  rw [utf16_eq, jsLength, List.length_flatMap]
  congr 1
  refine List.map_congr_left fun c _ => ?_
  have small : c.val < 0x10000 ↔ c.toNat < 0x10000 := Iff.rfl
  simp only [unitsOf, small]
  split <;> rfl

/-- Truncating a text, and truncating its code units. -/
theorem truncate_utf16 (text : String) :
    (truncate (utf16 text)).map (fun units => String.ofList (storedChars units)) = truncateResponseSnippet text := by
  by_cases empty : text = ""
  · rw [empty]
    rfl
  · have some_ : utf16 text ≠ [] := fun none_ => empty (utf16_injective none_)
    have spoken : (!truthy text) = false := by simp [truthy, empty]
    unfold truncate truncateResponseSnippet
    rw [length_utf16, if_neg some_, spoken, if_neg Bool.false_ne_true]
    split
    · rw [utf16_eq, Option.map_some, storedChars_take]
    · rw [Option.map_some, storedChars_utf16, String.ofList_toList]

/-- **What is kept of an answer does not depend on how it comes in.**  It is the beginning of the whole text,
though reading stops early, perhaps in the middle of a character, before much more than is wanted has come;
and of an answer that says something it is what the model of an attempt keeps. -/
theorem stored_of_flatten (chunks : List (List UInt8)) :
    stored chunks = (truncate (decode chunks.flatten)).map (fun units => String.ofList (storedChars units)) ∧
      (readChunks MAX_SSRF_RESPONSE_BYTES 0 chunks).dropLast.flatten.length < MAX_SSRF_RESPONSE_BYTES ∧
      ∀ text : String, chunks.flatten = text.toList.flatMap String.utf8EncodeChar →
        stored chunks = truncateResponseSnippet text := by
  have whole : stored chunks = (truncate (decode chunks.flatten)).map (fun units => String.ofList (storedChars units)) :=
    congrArg (Option.map _) (truncate_congr (take_readCappedBody chunks))
  have bounded := length_readChunks (show 0 < MAX_SSRF_RESPONSE_BYTES by decide) chunks
  rw [Nat.zero_add] at bounded
  refine ⟨whole, bounded, fun text said => ?_⟩
  rw [whole, said, decode_utf8, truncate_utf16]

/-- A letter of two bytes that comes in two pieces. -/
theorem stored_of_flatten_split : stored [[0xC3], [0xB1]] = truncateResponseSnippet "ñ" :=
  (stored_of_flatten [[0xC3], [0xB1]]).2.2 "ñ" (by decide)

end ParentalCoord.Webhooks.Snippet
