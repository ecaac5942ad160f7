import ParentalCoord.JsonText
import ParentalCoord.Redacting

/-!
What is logged of an attempt at a delivery.

A line is a JSON text of a few fields, whose texts have been cleared of secrets before they are
written into it.  That the line has none in it, wherever one may seem to begin, is about the
line: the quotes, the escapes and the other fields stand around what has been cleared.
-/

namespace ParentalCoord.Webhooks.Observability

/-! ## Secrets in a text -/

/-- `\w`. -/
def isWordChar (c : Char) : Bool := c.isAlphanum || c = '_'

def isSecretChar (c : Char) : Bool := c.isAlphanum || c = '+' || c = '/' || c = '='

/-- `/\bwhsec_[A-Za-z0-9+/=]{4,}/g`. -/
def SECRET_PATTERN : Token Char where
  opening := 'w'
  more := ['h', 's', 'e', 'c', '_']
  inside := isSecretChar
  least := 4
  word := isWordChar
  inside_opening := by decide

def REDACTED : SECRET_PATTERN.Mark where
  first := '['
  rest := "REDACTED]".toList
  first_fixed := by decide
  first_inside := by decide
  opening_first := by decide
  opening_rest := by decide

/-- `webhooks-observability.ts::redactSecrets`: an absent text is an empty one. -/
def redactSecrets (text : Option String) : String :=
  String.ofList (SECRET_PATTERN.replace REDACTED 0 none (text.getD "").toList)

/-! ## A line of the log -/

def FORBIDDEN_LOG_KEYS : List String :=
  ["secret", "secrets", "secretencrypted", "secretprevencrypted", "whsec", "authorization",
   "webhooksignature", "signature", "headers", "body", "rawbody", "payload", "responsesnippet",
   "response", "errorbody"]

def DELIVERY_LOG_ALLOWED_KEYS : List String :=
  ["eventId", "subscriptionId", "attempt", "outcome", "status", "statusCode", "latencyMs", "deliveryId",
   "bondId"]

/-- What a caller hands over: an object that may have other keys besides, of any value. -/
structure DeliveryLogInput where
  eventId : String
  subscriptionId : String
  attempt : Numbers.Decimal
  outcome : Option String := none
  status : Option String := none
  /-- The inner `none` is `null`. -/
  statusCode : Option (Option Numbers.Decimal) := none
  latencyMs : Option Numbers.Decimal := none
  deliveryId : Option String := none
  bondId : Option String := none
  others : { record : Record // ∀ member ∈ record, member.1 ∉ DELIVERY_LOG_ALLOWED_KEYS } := ⟨[], nofun⟩

def DeliveryLogInput.fields (input : DeliveryLogInput) : Record :=
  [("eventId", .str input.eventId), ("subscriptionId", .str input.subscriptionId),
   ("attempt", .num input.attempt)] ++
  (input.outcome.map fun outcome => ("outcome", Json.str outcome)).toList ++
  (input.status.map fun status => ("status", Json.str status)).toList ++
  (input.statusCode.map fun statusCode => ("statusCode", (statusCode.map Json.num).getD .null)).toList ++
  (input.latencyMs.map fun latencyMs => ("latencyMs", Json.num latencyMs)).toList ++
  (input.deliveryId.map fun deliveryId => ("deliveryId", Json.str deliveryId)).toList ++
  (input.bondId.map fun bondId => ("bondId", Json.str bondId)).toList

def DeliveryLogInput.record (input : DeliveryLogInput) : Record := input.fields ++ input.others.val

def redactValue : Json → Json
  | .str value => .str (redactSecrets (some value))
  | value => value

/-- `webhooks-observability.ts::buildDeliveryLogEntry`: the keys that are allowed, in their order,
without those that are forbidden. -/
def buildDeliveryLogEntry (input : Record) : Record :=
  (DELIVERY_LOG_ALLOWED_KEYS.filter fun key => key.toLower ∉ FORBIDDEN_LOG_KEYS).filterMap fun key =>
    (input.lookup key).map fun value => (key, redactValue value)

/-- `JSON.stringify({ ...fields, severity: message })`. -/
def line (message : String) (fields : Record) : String :=
  jsonStringify (.obj (fields.set "severity" (.str message)))

def recordAttempt (input : DeliveryLogInput) : String :=
  line "webhook.delivery.attempt" (buildDeliveryLogEntry input.record)

/-! ## Texts that are written into a line -/

theorem mem_hexDigits : ∀ digit < 16, 'w' ≠ hexDigit digit := by decide

/-- What is written with a backslash is no part of a word, and no letter that a secret begins with
is written then. -/
theorem escapeChar_cases (c : Char) : (escapeChar c).toList = [c] ∨
    isWordChar c = false ∧ ∃ tail, (escapeChar c).toList = '\\' :: tail ∧ 'w' ∉ '\\' :: tail := by
  have apart {code : ℕ} (same : c.toNat = code) (other : isWordChar (Char.ofNat code) = false) :
      isWordChar c = false := by
    rwa [← same, Char.ofNat_toNat] at other
  unfold escapeChar
  split
  · rename_i same
    exact .inr ⟨apart same (by decide), ['"'], rfl, by decide⟩
  · rename_i same
    exact .inr ⟨apart same (by decide), ['\\'], rfl, by decide⟩
  · rename_i same
    exact .inr ⟨apart same (by decide), ['b'], rfl, by decide⟩
  · rename_i same
    exact .inr ⟨apart same (by decide), ['f'], rfl, by decide⟩
  · rename_i same
    exact .inr ⟨apart same (by decide), ['n'], rfl, by decide⟩
  · rename_i same
    exact .inr ⟨apart same (by decide), ['r'], rfl, by decide⟩
  · rename_i same
    exact .inr ⟨apart same (by decide), ['t'], rfl, by decide⟩
  · split
    · rename_i control
      have controls : ∀ code < 0x20, isWordChar (Char.ofNat code) = false := by decide
      have first := mem_hexDigits (c.toNat / 16) (by omega)
      have second := mem_hexDigits (c.toNat % 16) (by omega)
      refine .inr ⟨apart rfl (controls _ control),
        ['u', '0', '0', hexDigit (c.toNat / 16), hexDigit (c.toNat % 16)], ?_, by simp [first, second]⟩
      rw [String.toList_append, String.toList_ofList, String.toList_ofList]
      rfl
    · exact .inl String.toList_ofList

def jsonEscaping : SECRET_PATTERN.Escaping where
  slash := '\\'
  escape c := (escapeChar c).toList
  slash_fixed := by decide
  slash_inside := by decide
  cases := escapeChar_cases

/-- No secret is seen in a text. -/
def Clean (text : List Char) : Prop := SECRET_PATTERN.occurs none text = false

instance (text : List Char) : Decidable (Clean text) :=
  inferInstanceAs (Decidable (SECRET_PATTERN.occurs none text = false))

theorem breaks_quote : SECRET_PATTERN.Breaks '"' := ⟨by decide, by decide, by decide⟩
theorem breaks_colon : SECRET_PATTERN.Breaks ':' := ⟨by decide, by decide, by decide⟩
theorem breaks_comma : SECRET_PATTERN.Breaks ',' := ⟨by decide, by decide, by decide⟩
theorem breaks_open : SECRET_PATTERN.Breaks '\x7b' := ⟨by decide, by decide, by decide⟩
theorem breaks_close : SECRET_PATTERN.Breaks '\x7d' := ⟨by decide, by decide, by decide⟩

theorem Clean.join {stop : Char} {front text : List Char} (breaks : SECRET_PATTERN.Breaks stop)
    (before : Clean front) (after : Clean text) : Clean (front ++ stop :: text) := by
  rw [Clean, Token.occurs_break breaks, before, after]
  rfl

theorem clean_nil : Clean [] := rfl

theorem clean_quoted {value : String} (clean : Clean value.toList) : Clean (quoted value).toList := by
  have escaped : Clean (value.toList.flatMap fun c => (escapeChar c).toList) :=
    Token.occurs_escaped jsonEscaping clean id
  rw [toList_quoted, ← List.nil_append ('"' :: _ ++ ['"']), List.cons_append]
  exact clean_nil.join breaks_quote (escaped.join breaks_quote clean_nil)

theorem clean_chars (value : Numbers.Decimal) : Clean value.chars := by
  refine Token.occurs_of_not_mem fun member => ?_
  have letter : ¬ SECRET_PATTERN.opening.isDigit := by decide
  have grammatical := value.literal_grammatical
  simp only [Numbers.Decimal.chars, Numbers.Literal.chars, List.mem_append] at member
  rcases member with ((sign | whole) | fraction) | power
  · split at sign
    · revert sign
      decide
    · cases sign
  · exact letter (grammatical.whole _ whole)
  · split at fraction
    · cases fraction
    · rcases List.mem_cons.mp fraction with point | digit
      · revert point
        decide
      · exact letter (grammatical.fraction _ digit)
  · split at power
    · cases power
    · rcases List.mem_cons.mp power with e | power
      · revert e
        decide
      · rcases List.mem_cons.mp power with sign | digit
        · revert sign
          split <;> decide
        · exact letter (Numbers.Literal.isDigit_digitsOf digit)

theorem clean_members {members : Record}
    (all : ∀ member ∈ members, Clean member.1.toList ∧ Clean (jsonStringify member.2).toList) :
    Clean (stringifyMembers members).toList := by
  match members with
  | [] => exact clean_nil
  | [member] =>
    obtain ⟨key, value⟩ := all member List.mem_cons_self
    rw [toList_member]
    exact (clean_quoted key).join breaks_colon value
  | member :: next :: rest =>
    obtain ⟨key, value⟩ := all member List.mem_cons_self
    rw [toList_members]
    refine (clean_quoted key).join breaks_colon (value.join breaks_comma ?_)
    exact clean_members fun member later => all member (List.mem_cons_of_mem _ later)

theorem clean_obj {members : Record}
    (all : ∀ member ∈ members, Clean member.1.toList ∧ Clean (jsonStringify member.2).toList) :
    Clean (jsonStringify (.obj members)).toList := by
  rw [toList_obj, ← List.nil_append ('\x7b' :: _)]
  exact clean_nil.join breaks_open ((clean_members all).join breaks_close clean_nil)

/-! ## What is logged -/

variable (input : DeliveryLogInput)

theorem keys_fields : (input.fields.map (·.1)).Sublist DELIVERY_LOG_ALLOWED_KEYS := by
  have one {α : Type} (key : String) (value : α → Json) (given : Option α) :
      ((given.map fun value' => (key, value value')).toList.map (·.1)).Sublist [key] := by
    cases given with
    | none => exact List.nil_sublist _
    | some _ => exact List.Sublist.refl _
  have listed : DELIVERY_LOG_ALLOWED_KEYS = ["eventId", "subscriptionId", "attempt"] ++ ["outcome"] ++
    ["status"] ++ ["statusCode"] ++ ["latencyMs"] ++ ["deliveryId"] ++ ["bondId"] := rfl
  rw [listed]
  simp only [DeliveryLogInput.fields, List.map_append]
  refine (((((List.Sublist.append ?_ (one "outcome" _ _)).append (one "status" _ _)).append
    (one "statusCode" _ _)).append (one "latencyMs" _ _)).append (one "deliveryId" _ _)).append
      (one "bondId" _ _)
  exact List.Sublist.refl ["eventId", "subscriptionId", "attempt"]

theorem nodup_keys : (input.fields.map (·.1)).Nodup :=
  (keys_fields input).nodup (by decide)

/-- What else an object has is not looked at. -/
theorem buildDeliveryLogEntry_eq : buildDeliveryLogEntry input.record =
    input.fields.map fun member => (member.1, redactValue member.2) := by
  have listed : DELIVERY_LOG_ALLOWED_KEYS.filter (fun key => key.toLower ∉ FORBIDDEN_LOG_KEYS) =
      DELIVERY_LOG_ALLOWED_KEYS := by decide +kernel
  have looked : ∀ key ∈ DELIVERY_LOG_ALLOWED_KEYS, input.record.lookup key = input.fields.lookup key := by
    intro key allowed
    have absent : input.others.val.lookup key = none := by
      rw [List.lookup_eq_none_iff]
      intro member other
      have apart : key ≠ member.1 := by
        rintro rfl
        exact input.others.property member other allowed
      simpa using apart
    rw [DeliveryLogInput.record, List.lookup_append, absent, Option.or_none]
  have picked := Store.pick_of_sublist (by decide) (keys_fields input)
  rw [buildDeliveryLogEntry, listed]
  conv_rhs => rw [← picked, List.map_filterMap]
  refine List.filterMap_congr fun key allowed => ?_
  rw [looked key allowed, Option.map_map]
  rfl

theorem severity_new : "severity" ∉ (input.fields.map fun member => (member.1, redactValue member.2)).map (·.1) := by
  rw [List.map_map]
  intro listed
  have allowed := (keys_fields input).subset listed
  revert allowed
  decide

/-- The members of a line. -/
theorem recordAttempt_eq : recordAttempt input = jsonStringify (.obj
    ((input.fields.map fun member => (member.1, redactValue member.2)) ++
      [("severity", .str "webhook.delivery.attempt")])) := by
  rw [recordAttempt, line, buildDeliveryLogEntry_eq, Record.set_new (severity_new input)]

theorem clean_redactSecrets (text : Option String) : Clean (redactSecrets text).toList := by
  rw [redactSecrets, String.toList_ofList]
  exact Token.occurs_replace 0 (.inl ⟨rfl, rfl⟩)

/-- A value that is written by itself. -/
def isPlain : Json → Bool
  | .str _ | .num _ | .null => true
  | _ => false

theorem plain_fields : ∀ member ∈ input.fields, isPlain member.2 := by
  intro member listed
  simp only [DeliveryLogInput.fields, List.mem_append, List.mem_cons, List.not_mem_nil, or_false,
    Option.mem_toList, Option.map_eq_some_iff] at listed
  rcases listed with ((((((rfl | rfl | rfl) | ⟨value, -, rfl⟩) | ⟨value, -, rfl⟩) | ⟨value, -, rfl⟩) |
    ⟨value, -, rfl⟩) | ⟨value, -, rfl⟩) | ⟨value, -, rfl⟩
  all_goals first | rfl | cases value <;> rfl

theorem clean_plain {value : Json} (plain : isPlain value) :
    Clean (jsonStringify (redactValue value)).toList := by
  cases value with
  | str text =>
    rw [redactValue, jsonStringify]
    exact clean_quoted (clean_redactSecrets _)
  | num value =>
    change Clean (String.ofList value.chars).toList
    rw [String.toList_ofList]
    exact clean_chars value
  | null => decide
  | bool _ => cases plain
  | arr _ => cases plain
  | obj _ => cases plain

theorem keysOnce_plain {value : Json} (plain : isPlain value) : (redactValue value).keysOnce = true := by
  cases value with
  | arr _ => cases plain
  | obj _ => cases plain
  | _ => rfl

theorem membersOnce_of_all {members : Record} (all : ∀ member ∈ members, member.2.keysOnce = true) :
    membersOnce members = true := by
  induction members with
  | nil => rfl
  | cons member members ih =>
    rw [membersOnce, all member List.mem_cons_self, ih fun later listed => all later (List.mem_cons_of_mem _ listed)]
    rfl

/-- **A line of the log has no secret in it**, wherever one is looked for, and is read back as the
fields that may be logged, with the secrets taken out of their texts.  Whatever else was handed over
is not in it. -/
theorem logged_line : SECRET_PATTERN.occurs none (recordAttempt input).toList = false ∧
    jsonParse (recordAttempt input) = some (.obj
      ((input.fields.map fun member => (member.1, redactValue member.2)) ++
        [("severity", .str "webhook.delivery.attempt")])) := by
  have each {P : String × Json → Prop} (severity : P ("severity", .str "webhook.delivery.attempt"))
      (field : ∀ member ∈ input.fields, P (member.1, redactValue member.2)) :
      ∀ member ∈ (input.fields.map fun member => (member.1, redactValue member.2)) ++
        [("severity", .str "webhook.delivery.attempt")], P member := by
    intro member listed
    rcases List.mem_append.mp listed with listed | last
    · obtain ⟨member, of, rfl⟩ := List.mem_map.mp listed
      exact field member of
    · rw [List.mem_singleton] at last
      rwa [last]
  rw [recordAttempt_eq]
  constructor
  · refine clean_obj (each (by decide) fun member of => ?_)
    have keys : ∀ key ∈ DELIVERY_LOG_ALLOWED_KEYS, Clean key.toList := by decide
    have allowed : member.1 ∈ DELIVERY_LOG_ALLOWED_KEYS := (keys_fields input).subset (List.mem_map_of_mem of)
    exact ⟨keys _ allowed, clean_plain (plain_fields input member of)⟩
  · refine jsonParse_stringify _ ?_
    have once : ∀ member ∈ (input.fields.map fun member => (member.1, redactValue member.2)) ++
        [("severity", .str "webhook.delivery.attempt")], member.2.keysOnce = true :=
      each rfl fun member of => keysOnce_plain (plain_fields input member of)
    rw [Json.keysOnce, membersOnce_of_all once, Bool.and_true, decide_eq_true_eq, List.map_append,
      List.nodup_append]
    refine ⟨?_, List.nodup_singleton _, ?_⟩
    · rw [List.map_map]
      exact nodup_keys input
    · rintro key listed _ last rfl
      rw [List.mem_singleton.mp last] at listed
      exact severity_new input listed

end ParentalCoord.Webhooks.Observability
