import ParentalCoord.Notifications.ActivityDates
import ParentalCoord.Notifications.Rules

/-!
The bodies of notifications, and the user text in them.

A template has one place for the text of a user.  The title of an activity is put there and
left alone.  The concept of an expense is put there before the amount is, and the amount goes
to the first place that asks for one; when what is shown of the concept asks for an amount
itself, it gets the one that the template was to have.
-/

namespace ParentalCoord.Notifications

open Expenses

/-! ## Code units -/

theorem utf16_append (first second : String) : utf16 (first ++ second) = utf16 first ++ utf16 second := by
  simp only [utf16, String.toList_append, List.flatMap_append]

theorem length_utf16_le (text : String) : (utf16 text).length ≤ 2 * text.length := by
  rw [utf16, ← String.length_toList]
  induction text.toList with
  | nil => rfl
  | cons c rest ih =>
    rw [List.flatMap_cons, List.length_append, List.length_cons]
    dsimp only at ih ⊢
    split
    · rw [List.length_singleton]
      omega
    · rw [List.length_cons, List.length_singleton]
      omega

/-- The unit that a placeholder begins with. -/
def OPENING : ℕ := 0x7B

theorem brace_mem_of_utf16 {text : String} (member : OPENING ∈ utf16 text) : '\x7b' ∈ text.toList := by
  obtain ⟨c, there, unit⟩ := List.mem_flatMap.mp member
  dsimp only at unit
  split at unit
  · have code : c.toNat = '\x7b'.toNat := (List.mem_singleton.mp unit).symm
    exact Char.toNat_inj.mp code ▸ there
  · simp only [OPENING, List.mem_cons, List.not_mem_nil, or_false] at unit
    omega

/-! ## A text between words -/

/-- The user text stands between the words: whole where there is room for it, and otherwise a
prefix of it with an ellipsis. -/
structure Inserts (lead tail raw body : CodeUnits) : Prop where
  short : body.length ≤ 100
  whole : lead.length + raw.length + tail.length ≤ 100 → body = lead ++ raw ++ tail
  cut : 100 < lead.length + raw.length + tail.length →
    ∃ kept, kept <+: raw ∧ body = lead ++ (kept ++ utf16 "…") ++ tail

/-- So many units of the concept are shown that no demand for an amount is among them. -/
def Spares (room : ℕ) (raw : CodeUnits) : Prop :=
  ∀ before after, raw = before ++ utf16 "\x7bamount\x7d" ++ after →
    room < raw.length ∧ room ≤ before.length + (utf16 "\x7bamount\x7d").length

variable {lead tail raw amount : CodeUnits} {room : ℕ}

theorem fitted_of_le (fits : raw.length ≤ room) : fitted room raw = raw :=
  if_pos (Int.ofNat_le.mpr fits)

theorem fitted_of_lt (long : room < raw.length) : fitted room raw = raw.take (room - 1) ++ utf16 "…" := by
  have cut : ¬(raw.length : ℤ) ≤ room := by omega
  have units : ((room : ℤ) - 1).toNat = room - 1 := by omega
  rw [fitted, if_neg cut, units]

theorem inserts_fitted (positive : 0 < room) (all : lead.length + tail.length + room = 100) :
    Inserts lead tail raw (lead ++ fitted room raw ++ tail) := by
  by_cases fits : raw.length ≤ room
  · rw [fitted_of_le fits]
    refine ⟨?_, fun _ => rfl, fun long => by omega⟩
    rw [List.length_append, List.length_append]
    omega
  · rw [fitted_of_lt (Nat.lt_of_not_le fits)]
    refine ⟨?_, fun whole => by omega, fun _ => ⟨_, List.take_prefix _ _, rfl⟩⟩
    have ellipsis : (utf16 "…").length = 1 := rfl
    simp only [List.length_append, List.length_take, ellipsis]
    omega

/-! ## The title of an activity -/

theorem renderWithTitle_inserts {template : String} {ctx : RenderContext}
    (parts : utf16 template = lead ++ utf16 "\x7btitle\x7d" ++ tail) (plain : OPENING ∉ lead)
    (spare : lead.length + tail.length < 100) :
    Inserts lead tail (utf16 ctx.activityTitle) (renderWithTitle template ctx) := by
  have filled : ∀ text, replaceFirst (utf16 "\x7btitle\x7d") text (utf16 template) = lead ++ text ++ tail := by
    intro text
    have pattern : utf16 "\x7btitle\x7d" = OPENING :: utf16 "title\x7d" := rfl
    rw [parts, pattern, List.append_assoc, replaceFirst_of_opening plain, replaceFirst_prefix,
      List.append_assoc]
  obtain ⟨room, all⟩ := Nat.exists_eq_add_of_lt spare
  have left : (100 : ℤ) - (lead ++ [] ++ tail).length = (room + 1 : ℕ) := by
    simp only [List.append_nil, List.length_append]
    omega
  rw [renderWithTitle, filled, filled, left]
  exact inserts_fitted (Nat.succ_pos room) (by omega)

/-! ## The concept of an expense -/

/-- What is shown of a concept asks for an amount exactly when the concept is not spared. -/
theorem asks_iff (positive : 0 < room) : ¬Spares room raw ↔
    utf16 "\x7bamount\x7d" <:+: if raw.length ≤ room then raw else raw.take (room - 1) := by
  unfold Spares
  push Not
  constructor
  · rintro ⟨before, after, same, within⟩
    split
    · exact ⟨before, after, same.symm⟩
    · rename_i long
      have inside := within (Nat.lt_of_not_le long)
      have early : before ++ utf16 "\x7bamount\x7d" <+: raw.take (room - 1) := by
        refine List.prefix_take_iff.mpr ⟨⟨after, same.symm⟩, ?_⟩
        rw [List.length_append]
        omega
      exact (List.suffix_append before _).isInfix.trans early.isInfix
  · rintro ⟨before, after, same⟩
    split at same
    · exact ⟨before, after, same.symm, fun long => by omega⟩
    · refine ⟨before, after ++ raw.drop (room - 1), ?_, fun _ => ?_⟩
      · rw [← List.append_assoc, same, List.take_append_drop]
      · have lengths := congrArg List.length same
        simp only [List.length_append, List.length_take] at lengths
        omega

variable {more : CodeUnits}

/-- The amount is put in the place that the template has for it. -/
theorem filled_of_absent {text : CodeUnits} (plain : OPENING ∉ lead)
    (absent : ¬utf16 "\x7bamount\x7d" <:+: text) :
    replaceFirst (utf16 "\x7bamount\x7d") amount (lead ++ (text ++ utf16 "\"" ++ more)) =
      lead ++ (text ++ replaceFirst (utf16 "\x7bamount\x7d") amount (utf16 "\"" ++ more)) := by
  have quote : utf16 "\"" ++ more = 0x22 :: more := rfl
  have apart : 0x22 ∉ utf16 "\x7bamount\x7d" := by decide
  rw [List.append_assoc, quote, ← replaceFirst_of_apart absent apart]
  exact replaceFirst_of_opening plain

/-- An amount in the middle of the text leaves nothing that the text was inserted in. -/
theorem not_inserted {shown rest filled : CodeUnits} {kept : CodeUnits} (plain : OPENING ∉ lead)
    (some_ : amount ≠ []) (number : OPENING ∉ amount)
    (asks : utf16 "\x7bamount\x7d" <:+: shown) (shown_starts : shown <+: raw) (kept_starts : kept <+: raw)
    (lengths : filled.length < tail.length + amount.length) :
    replaceFirst (utf16 "\x7bamount\x7d") amount (lead ++ (shown ++ (rest ++ tail))) ≠
      lead ++ (kept ++ (rest ++ filled)) := by
  obtain ⟨before, after, split, replaced⟩ : ∃ before after, shown = before ++ utf16 "\x7bamount\x7d" ++ after ∧
      ∀ rest, replaceFirst (utf16 "\x7bamount\x7d") amount (shown ++ rest) =
        before ++ amount ++ (after ++ rest) := exists_of_infix asks
  have pattern : utf16 "\x7bamount\x7d" = OPENING :: utf16 "amount\x7d" := rfl
  intro same
  have moved : replaceFirst (utf16 "\x7bamount\x7d") amount (lead ++ (shown ++ (rest ++ tail))) =
      lead ++ replaceFirst (utf16 "\x7bamount\x7d") amount (shown ++ (rest ++ tail)) :=
    replaceFirst_of_opening plain
  rw [moved, replaced, List.append_cancel_left_eq] at same
  have long : before.length + 1 ≤ kept.length := by
    have total := congrArg List.length same
    simp only [List.length_append] at total
    omega
  -- The text kept would have the placeholder where the amount begins.
  have opening : before ++ [OPENING] <+: kept := by
    refine List.prefix_of_prefix_length_le (List.IsPrefix.trans ?_ shown_starts) kept_starts (by simpa using long)
    rw [split, pattern]
    exact ⟨utf16 "amount\x7d" ++ after, by simp⟩
  obtain ⟨others, rfl⟩ := opening
  obtain ⟨first, digits, rfl⟩ := List.exists_cons_of_ne_nil some_
  simp only [List.append_assoc, List.append_cancel_left_eq, List.cons_append, List.cons.injEq] at same
  exact number (same.1 ▸ List.mem_cons_self)

section Concept

variable {template : String} {ctx : ExpenseRenderContext} {filled : CodeUnits}
  (parts : utf16 template = lead ++ utf16 "\x7bconcept\x7d" ++ (utf16 "\"" ++ more))
  (plain : OPENING ∉ lead)
  (fill : replaceFirst (utf16 "\x7bamount\x7d") (utf16 (formatExpenseAmount ctx.amount))
    (utf16 "\"" ++ more) = filled)
  (all : lead.length + filled.length + room = 100)

include parts plain fill all

theorem renderWithConcept_eq : renderWithConcept template ctx =
    replaceFirst (utf16 "\x7bamount\x7d") (utf16 (formatExpenseAmount ctx.amount))
      (lead ++ (fitted room (utf16 ctx.concept) ++ utf16 "\"" ++ more)) := by
  have placed : ∀ text, replaceFirst (utf16 "\x7bconcept\x7d") text (utf16 template) =
      lead ++ (text ++ utf16 "\"" ++ more) := by
    intro text
    have pattern : utf16 "\x7bconcept\x7d" = OPENING :: utf16 "concept\x7d" := rfl
    rw [parts, pattern, List.append_assoc, replaceFirst_of_opening plain, replaceFirst_prefix,
      List.append_assoc]
  have empty : ¬utf16 "\x7bamount\x7d" <:+: [] := by decide
  have left : (100 : ℤ) - (lead ++ ([] ++ filled)).length = room := by
    rw [List.nil_append, List.length_append]
    omega
  simp only [renderWithConcept, placed]
  rw [filled_of_absent plain empty, fill, left]

theorem renderWithConcept_inserts_iff (positive : 0 < room)
    (some_ : utf16 (formatExpenseAmount ctx.amount) ≠ [])
    (number : OPENING ∉ utf16 (formatExpenseAmount ctx.amount)) :
    Inserts lead filled (utf16 ctx.concept) (renderWithConcept template ctx) ↔
      Spares room (utf16 ctx.concept) := by
  rw [renderWithConcept_eq parts plain fill all]
  generalize utf16 (formatExpenseAmount ctx.amount) = amount at *
  generalize utf16 ctx.concept = raw at *
  by_cases spared : Spares room raw
  · refine iff_of_true ?_ spared
    have absent : ¬utf16 "\x7bamount\x7d" <:+: fitted room raw := by
      have unasked := mt (asks_iff positive).mpr (not_not_intro spared)
      split at unasked
      · rename_i fits
        rwa [fitted_of_le fits]
      · rename_i long
        rw [fitted_of_lt (Nat.lt_of_not_le long)]
        exact fun found => unasked (infix_of_apart (by decide) found)
    rw [filled_of_absent plain absent, fill, ← List.append_assoc]
    exact inserts_fitted positive all
  · refine iff_of_false (fun inserts => ?_) spared
    have asks := (asks_iff positive).mp spared
    have shorter : filled.length < (utf16 "\"" ++ more).length + amount.length := by
      rw [← fill]
      exact length_replaceFirst_lt some_ (by decide)
    by_cases fits : raw.length ≤ room
    · rw [if_pos fits] at asks
      rw [fitted_of_le fits] at inserts
      have body := inserts.whole (by omega)
      apply @not_inserted lead (utf16 "\"" ++ more) raw amount raw [] filled raw plain some_ number asks
        (List.prefix_refl _) (List.prefix_refl _) shorter
      simpa using body
    · rw [if_neg fits] at asks
      rw [fitted_of_lt (Nat.lt_of_not_le fits)] at inserts
      obtain ⟨kept, kept_starts, body⟩ := inserts.cut (by omega)
      apply @not_inserted lead (utf16 "\"" ++ more) raw amount _ (utf16 "…") filled kept plain some_ number asks
        (List.take_prefix _ _) kept_starts shorter
      simpa only [List.append_assoc] using body

end Concept

/-! ## Amounts and dates -/

theorem mem_withThousands {digits : List Char} {c : Char} (member : c ∈ withThousands digits) :
    c ∈ digits ∨ c = '.' := by
  induction digits with
  | nil => exact .inl member
  | cons digit rest ih =>
    unfold withThousands at member
    split at member
    · rcases List.mem_cons.mp member with rfl | member
      · exact .inl List.mem_cons_self
      · rcases List.mem_cons.mp member with rfl | member
        · exact .inr rfl
        · exact (ih member).imp_left (List.mem_cons_of_mem _)
    · rcases List.mem_cons.mp member with rfl | member
      · exact .inl List.mem_cons_self
      · exact (ih member).imp_left (List.mem_cons_of_mem _)

theorem length_withThousands_le (digits : List Char) :
    (withThousands digits).length ≤ 2 * digits.length := by
  induction digits with
  | nil => rfl
  | cons digit rest ih =>
    unfold withThousands
    split
    · simp only [List.length_cons]
      omega
    · simp only [List.length_cons]
      omega

theorem length_formatExpenseAmount_le {amount : ℤ} (small : amount.natAbs < 10 ^ 12) :
    (formatExpenseAmount amount).length ≤ 25 := by
  have whole : (Nat.repr (amount.natAbs / 100)).toList.length ≤ 10 := by
    rw [String.length_toList]
    exact (Nat.length_repr_le_iff (by decide)).mpr (by omega)
  have points := length_withThousands_le (Nat.repr (amount.natAbs / 100)).toList
  have cents : (padded 2 (amount.natAbs % 100)).length = 2 := length_padded (by omega) (by decide)
  have sign : (if amount < 0 then "-" else "").length ≤ 1 := by split <;> decide
  have dollar : "$".length = 1 := rfl
  have comma : ",".length = 1 := rfl
  simp only [formatExpenseAmount, String.length_append, String.length_ofList, cents, dollar, comma]
  omega

theorem brace_not_mem_of_isDigit {text : List Char} (digits : ∀ c ∈ text, c.isDigit) : '\x7b' ∉ text :=
  fun member => absurd (digits _ member) (by decide)

theorem brace_not_mem_formatExpenseAmount (amount : ℤ) : OPENING ∉ utf16 (formatExpenseAmount amount) := by
  refine mt brace_mem_of_utf16 ?_
  have cents : '\x7b' ∉ (padded 2 (amount.natAbs % 100)).toList :=
    brace_not_mem_of_isDigit fun _ => isDigit_of_mem_padded
  have whole : '\x7b' ∉ withThousands (Nat.repr (amount.natAbs / 100)).toList := fun member =>
    brace_not_mem_of_isDigit (fun _ => Numbers.Literal.isDigit_digitsOf)
      ((mem_withThousands member).resolve_right (by decide))
  have sign : '\x7b' ∉ (if amount < 0 then "-" else "").toList := by split <;> decide
  simp only [formatExpenseAmount, String.toList_append, String.toList_ofList, List.mem_append, not_or]
  exact ⟨⟨⟨⟨sign, by decide⟩, whole⟩, by decide⟩, cents⟩

theorem formatExpenseAmount_ne_nil (amount : ℤ) : utf16 (formatExpenseAmount amount) ≠ [] := by
  simp [formatExpenseAmount, utf16_append, show utf16 "$" = [0x24] from rfl]

theorem length_formatActivityDateTime_le (server buenosAires : TimeZone) (date : Instant) :
    (formatActivityDateTime server buenosAires date).length ≤ 21 := by
  rw [formatActivityDateTime_eq]
  split
  · rename_i localDate _
    generalize server.localTime localDate = wall
    have day := length_padded (day_short wall) (Nat.succ_pos 1)
    have month := length_padded (month_short wall) (Nat.succ_pos 1)
    have hour : (padded 2 (wall % 86400000 / 3600000).toNat).length = 2 :=
      length_padded (by omega) (by decide)
    have minute : (padded 2 (wall / 60000 % 60).toNat).length = 2 := length_padded (by omega) (by decide)
    simp only [clockText, String.length_append, day, month, hour, minute]
    decide
  · decide

/-! ## The rules -/

/-- The words before the title of an activity, and those after it. -/
def titleWords (type : String) (date : Option String) : String × String :=
  let dated (lead joint : String) :=
    (lead, match date with
      | some date => "\"" ++ joint ++ date ++ "."
      | none => "\".")
  match type with
  | "activity_created" => dated "Se creó \"" " para el "
  | "activity_assigned" => dated "Te asignaron \"" " para el "
  | "activity_assisting" => dated "Se confirmó \"" " para el "
  | "activity_in_progress" => dated "Comenzó \"" " el "
  | "activity_verify" => ("\"", "\" terminó y espera tu confirmación.")
  | "activity_verify_expired" => ("\"", "\" quedó sin confirmar y venció.")
  | "activity_created_overdue" => ("\"", "\" quedó sin asignar y venció.")
  | "activity_overdue" => ("\"", "\" venció. Reprográmala o márcala como finalizada.")
  | "activity_not_assisting" => ("El responsable declinó \"", "\".")
  | "activity_done" => ("Se finalizó \"", "\".")
  | "activity_cancelled" => ("Se canceló \"", "\".")
  | _ => ("", "")

/-- The words before the concept of an expense, and those after it. -/
def conceptWords (amount : String) : ExpenseEventType → String × String
  | .created => ("\"", "\" por " ++ amount ++ " espera tu aprobación.")
  | .approved => ("Se aprobó \"", "\" por " ++ amount ++ ".")
  | .rejected => ("Se rechazó \"", "\" por " ++ amount ++ ".")
  | .paid => ("Se marcó como pagado \"", "\" por " ++ amount ++ ".")
  | .stale => ("\"", "\" lleva más de 7 días pendiente.")

/-- The user text stands in its place among these words. -/
abbrev InsertsWords (words : String × String) (text : String) (body : CodeUnits) : Prop :=
  Inserts (utf16 words.1) (utf16 words.2) (utf16 text) body

/-- What the words leave of the hundred code units. -/
def roomFor (words : String × String) : ℕ := 100 - ((utf16 words.1).length + (utf16 words.2).length)

section Activity

variable {format : Instant → String} {ctx : RenderContext} {lead tail joint : String}
  {words : String × String}

theorem words_inserted (template : String) (same : words = (lead, tail))
    (parts : template = lead ++ "\x7btitle\x7d" ++ tail)
    (plain : OPENING ∉ utf16 lead) (spare : (utf16 lead).length + (utf16 tail).length < 100) :
    InsertsWords words ctx.activityTitle (renderWithTitle template ctx) := by
  subst same
  exact renderWithTitle_inserts (by rw [parts, utf16_append, utf16_append]) plain spare

theorem datedBody_inserted {withDate : String → String} {without : String}
    (formats : ∀ date, (format date).length ≤ 21)
    (same : words = (lead, match ctx.scheduledStart.map format with
      | some date => "\"" ++ joint ++ date ++ "."
      | none => "\"."))
    (dated : ∀ date, withDate date = lead ++ "\x7btitle\x7d" ++ ("\"" ++ joint ++ date ++ "."))
    (undated : without = lead ++ "\x7btitle\x7d" ++ "\".") (plain : OPENING ∉ utf16 lead)
    (spare : (utf16 lead).length + (utf16 joint).length < 50) :
    InsertsWords words ctx.activityTitle (datedBody withDate without format ctx) := by
  unfold datedBody
  cases start : ctx.scheduledStart with
  | none =>
    simp only [start, Option.map_none] at same
    refine words_inserted without same undated plain ?_
    have both : (utf16 "\".").length = 2 := rfl
    omega
  | some date =>
    simp only [start, Option.map_some] at same
    refine words_inserted _ same (dated _) plain ?_
    have short := formats date
    have units := length_utf16_le (format date)
    have quote : (utf16 "\"").length = 1 := rfl
    have stop : (utf16 ".").length = 1 := rfl
    simp only [utf16_append, List.length_append, quote, stop]
    omega

end Activity

section Expense

variable {ctx : ExpenseRenderContext} {lead middle ending : String} {words : String × String}

/-- A template that has a place for the amount. -/
theorem concept_inserted_iff (template : String)
    (same : words = (lead, "\"" ++ middle ++ formatExpenseAmount ctx.amount ++ ending))
    (parts : template = lead ++ "\x7bconcept\x7d" ++ ("\"" ++ (middle ++ "\x7bamount\x7d" ++ ending)))
    (plain : OPENING ∉ utf16 lead) (plain_middle : OPENING ∉ utf16 ("\"" ++ middle))
    (spare : (utf16 lead).length + (utf16 middle).length + (utf16 ending).length < 49)
    (small : ctx.amount.natAbs < 10 ^ 12) :
    InsertsWords words ctx.concept (renderWithConcept template ctx) ↔
      Spares (roomFor words) (utf16 ctx.concept) := by
  subst same
  have short := length_formatExpenseAmount_le small
  have units := length_utf16_le (formatExpenseAmount ctx.amount)
  have quote : (utf16 "\"").length = 1 := rfl
  have length : (utf16 ("\"" ++ middle ++ formatExpenseAmount ctx.amount ++ ending)).length =
      1 + (utf16 middle).length + (utf16 (formatExpenseAmount ctx.amount)).length + (utf16 ending).length := by
    simp only [utf16_append, List.length_append, quote]
  refine @renderWithConcept_inserts_iff (utf16 lead) _ (utf16 (middle ++ "\x7bamount\x7d" ++ ending))
    template ctx _ ?_ plain ?_ ?_ ?_ (formatExpenseAmount_ne_nil _) (brace_not_mem_formatExpenseAmount _)
  · rw [parts, utf16_append, utf16_append, utf16_append "\""]
  · have pattern : utf16 "\x7bamount\x7d" = OPENING :: utf16 "amount\x7d" := rfl
    simp only [utf16_append] at plain_middle ⊢
    rw [List.append_assoc (utf16 middle), ← List.append_assoc (utf16 "\""), pattern,
      replaceFirst_of_opening plain_middle, replaceFirst_prefix]
    simp only [List.append_assoc]
  · dsimp only [roomFor]
    omega
  · dsimp only [roomFor]
    omega

/-- A template that has none. -/
theorem plain_concept_inserted_iff (template : String) (same : words = (lead, "\"" ++ ending))
    (parts : template = lead ++ "\x7bconcept\x7d" ++ ("\"" ++ ending)) (plain : OPENING ∉ utf16 lead)
    (plain_ending : OPENING ∉ utf16 ("\"" ++ ending))
    (spare : (utf16 lead).length + (utf16 ending).length < 99) :
    InsertsWords words ctx.concept (renderWithConcept template ctx) ↔
      Spares (roomFor words) (utf16 ctx.concept) := by
  subst same
  have quote : (utf16 "\"").length = 1 := rfl
  have length : (utf16 ("\"" ++ ending)).length = 1 + (utf16 ending).length := by
    rw [utf16_append, List.length_append, quote]
  refine @renderWithConcept_inserts_iff (utf16 lead) _ (utf16 ending)
    template ctx _ ?_ plain ?_ ?_ ?_ (formatExpenseAmount_ne_nil _) (brace_not_mem_formatExpenseAmount _)
  · rw [parts, utf16_append, utf16_append, utf16_append "\""]
  · rw [utf16_append] at plain_ending ⊢
    have kept := @replaceFirst_of_opening _ (utf16 "amount\x7d") (utf16 (formatExpenseAmount ctx.amount))
      _ [] OPENING _ plain_ending
    have pattern : utf16 "\x7bamount\x7d" = OPENING :: utf16 "amount\x7d" := rfl
    rw [pattern]
    simpa [replaceFirst] using kept
  · dsimp only [roomFor]
    omega
  · dsimp only [roomFor]
    omega

end Expense

theorem activity_inserted (format : Instant → String) (formats : ∀ date, (format date).length ≤ 21) :
    ∀ rule ∈ NOTIFICATION_FAN_OUT_RULES, ∀ ctx : RenderContext,
      InsertsWords (titleWords rule.type (ctx.scheduledStart.map format)) ctx.activityTitle
        (rule.body format ctx) := by
  intro rule member ctx
  simp only [NOTIFICATION_FAN_OUT_RULES, List.mem_cons, List.not_mem_nil, or_false] at member
  rcases member with rfl | rfl | rfl | rfl | rfl | rfl | rfl | rfl | rfl | rfl | rfl
  all_goals dsimp only
  · exact @datedBody_inserted format ctx "Se creó \"" " para el " _ _ _ formats rfl
      (fun _ => by simp [← String.append_assoc]) rfl (by decide) (by decide)
  · exact @datedBody_inserted format ctx "Te asignaron \"" " para el " _ _ _ formats rfl
      (fun _ => by simp [← String.append_assoc]) rfl (by decide) (by decide)
  · exact @datedBody_inserted format ctx "Se confirmó \"" " para el " _ _ _ formats rfl
      (fun _ => by simp [← String.append_assoc]) rfl (by decide) (by decide)
  · exact @datedBody_inserted format ctx "Comenzó \"" " el " _ _ _ formats rfl
      (fun _ => by simp [← String.append_assoc]) rfl (by decide) (by decide)
  · exact @words_inserted ctx "\"" "\" terminó y espera tu confirmación." _ _ rfl rfl (by decide) (by decide)
  · exact @words_inserted ctx "\"" "\" quedó sin confirmar y venció." _ _ rfl rfl (by decide) (by decide)
  · exact @words_inserted ctx "\"" "\" quedó sin asignar y venció." _ _ rfl rfl (by decide) (by decide)
  · exact @words_inserted ctx "\"" "\" venció. Reprográmala o márcala como finalizada." _ _ rfl rfl
      (by decide) (by decide)
  · exact @words_inserted ctx "El responsable declinó \"" "\"." _ _ rfl rfl (by decide) (by decide)
  · exact @words_inserted ctx "Se finalizó \"" "\"." _ _ rfl rfl (by decide) (by decide)
  · exact @words_inserted ctx "Se canceló \"" "\"." _ _ rfl rfl (by decide) (by decide)

theorem expense_inserted_iff : ∀ rule ∈ EXPENSE_NOTIFICATION_RULES, ∀ ctx : ExpenseRenderContext,
    ctx.amount.natAbs < 10 ^ 12 →
      (InsertsWords (conceptWords (formatExpenseAmount ctx.amount) rule.eventType) ctx.concept (rule.body ctx) ↔
        Spares (roomFor (conceptWords (formatExpenseAmount ctx.amount) rule.eventType)) (utf16 ctx.concept)) := by
  intro rule member ctx small
  simp only [EXPENSE_NOTIFICATION_RULES, List.mem_cons, List.not_mem_nil, or_false] at member
  rcases member with rfl | rfl | rfl | rfl | rfl
  all_goals dsimp only
  · exact @concept_inserted_iff ctx "\"" " por " " espera tu aprobación." _ _ (by simp [conceptWords]) rfl
      (by decide) (by decide) (by decide) small
  · exact @concept_inserted_iff ctx "Se aprobó \"" " por " "." _ _ (by simp [conceptWords]) rfl
      (by decide) (by decide) (by decide) small
  · exact @concept_inserted_iff ctx "Se rechazó \"" " por " "." _ _ (by simp [conceptWords]) rfl
      (by decide) (by decide) (by decide) small
  · exact @concept_inserted_iff ctx "Se marcó como pagado \"" " por " "." _ _ (by simp [conceptWords]) rfl
      (by decide) (by decide) (by decide) small
  · exact @plain_concept_inserted_iff ctx "\"" " lleva más de 7 días pendiente." _ _ rfl rfl
      (by decide) (by decide) (by decide)

/-- **User text is inserted as it is, into the words of the template.** The title of an activity
always, and the concept of an expense exactly when no demand for an amount is shown of it. -/
theorem bodies_insert (server buenosAires : TimeZone) :
    (∀ rule ∈ NOTIFICATION_FAN_OUT_RULES, ∀ ctx : RenderContext,
      InsertsWords
        (titleWords rule.type (ctx.scheduledStart.map (formatActivityDateTime server buenosAires)))
        ctx.activityTitle (rule.body (formatActivityDateTime server buenosAires) ctx)) ∧
    ∀ rule ∈ EXPENSE_NOTIFICATION_RULES, ∀ ctx : ExpenseRenderContext, ctx.amount.natAbs < 10 ^ 12 →
      (InsertsWords (conceptWords (formatExpenseAmount ctx.amount) rule.eventType) ctx.concept (rule.body ctx) ↔
        Spares (roomFor (conceptWords (formatExpenseAmount ctx.amount) rule.eventType)) (utf16 ctx.concept)) :=
  ⟨activity_inserted _ (length_formatActivityDateTime_le server buenosAires), expense_inserted_iff⟩

/-- The approval of an expense for school. -/
theorem bodies_insert_school : ∃ rule ∈ EXPENSE_NOTIFICATION_RULES, rule.eventType = .approved ∧
    InsertsWords (conceptWords (formatExpenseAmount 1500050) rule.eventType) "Colegio"
      (rule.body ⟨"Colegio", 1500050⟩) := by
  refine ⟨_, List.mem_of_getElem? (show EXPENSE_NOTIFICATION_RULES[1]? = some _ from rfl), rfl, ?_⟩
  refine ((bodies_insert argentina argentina).2 _ ?_ ⟨"Colegio", 1500050⟩ (by decide)).mpr ?_
  · exact List.mem_of_getElem? (show EXPENSE_NOTIFICATION_RULES[1]? = some _ from rfl)
  · intro before after same
    have there : OPENING ∈ utf16 "Colegio" := by
      rw [same]
      exact List.mem_append_left _ (List.mem_append_right _ List.mem_cons_self)
    exact absurd there (by decide)

/-- An expense that is called `{amount}`: its amount stands in place of its name, and where the amount
should be the placeholder is left. -/
theorem amount_misplaced : ¬∀ rule ∈ EXPENSE_NOTIFICATION_RULES, ∀ ctx : ExpenseRenderContext,
    ctx.amount.natAbs < 10 ^ 12 →
      InsertsWords (conceptWords (formatExpenseAmount ctx.amount) rule.eventType) ctx.concept (rule.body ctx) := by
  intro always
  have inserted := always _ (List.mem_of_getElem? (show EXPENSE_NOTIFICATION_RULES[1]? = some _ from rfl))
    ⟨"\x7bamount\x7d", 100⟩ (by decide)
  have body := inserted.whole (by decide +kernel)
  exact absurd body (by decide +kernel)

end ParentalCoord.Notifications
