import ParentalCoord.Js

/-!
Reading JSON texts.

The reader is given fuel for the length of the text.  What `jsonStringify` has written it
reads back, as long as no object has a key twice.
-/

namespace ParentalCoord

open Numbers

/-! ## Strings -/

/-- The value of a hexadecimal digit. -/
def hexValue (c : Char) : Option ℕ :=
  if c.isDigit then some (c.toNat - 48)
  else if 'a' ≤ c ∧ c ≤ 'f' then some (c.toNat - 87)
  else if 'A' ≤ c ∧ c ≤ 'F' then some (c.toNat - 55)
  else none

/-- The code units of one character. -/
def charUnits (c : Char) : List ℕ :=
  let code := c.toNat
  if code < 0x10000 then [code]
  else [0xD800 + (code - 0x10000) / 0x400, 0xDC00 + (code - 0x10000) % 0x400]

def isHighSurrogate (unit : ℕ) : Bool := 0xD800 ≤ unit && unit < 0xDC00

def isLowSurrogate (unit : ℕ) : Bool := 0xDC00 ≤ unit && unit < 0xE000

/-- The characters of code units.  Half of a pair is stored as the replacement character. -/
def ofUnits : List ℕ → List Char
  | high :: low :: rest =>
      if isHighSurrogate high && isLowSurrogate low then
        Char.ofNat (0x10000 + (high - 0xD800) * 0x400 + (low - 0xDC00)) :: ofUnits rest
      else
        (if isHighSurrogate high || isLowSurrogate high then Char.ofNat 0xFFFD else Char.ofNat high) ::
          ofUnits (low :: rest)
  | [unit] =>
      [if isHighSurrogate unit || isLowSurrogate unit then Char.ofNat 0xFFFD else Char.ofNat unit]
  | [] => []

/-- The character behind a backslash, when it stands for one. -/
def escapedUnit (c : Char) : Option ℕ :=
  match c with
  | '"' => some 0x22
  | '\\' => some 0x5C
  | '/' => some 0x2F
  | 'b' => some 0x08
  | 'f' => some 0x0C
  | 'n' => some 0x0A
  | 'r' => some 0x0D
  | 't' => some 0x09
  | _ => none

def readEscape : List Char → Option (List ℕ × List Char)
  | 'u' :: a :: b :: c :: d :: rest => do
      let a ← hexValue a
      let b ← hexValue b
      let c ← hexValue c
      let d ← hexValue d
      some ([((a * 16 + b) * 16 + c) * 16 + d], rest)
  | c :: rest => (escapedUnit c).map fun unit => ([unit], rest)
  | [] => none

/-- The code units up to the closing quote. -/
def readUnits : ℕ → List Char → Option (List ℕ × List Char)
  | 0, _ => none
  | _, [] => none
  | fuel + 1, c :: rest => do
      if c = '"' then some ([], rest)
      else if c = '\\' then
        let (units, rest) ← readEscape rest
        let (more, rest) ← readUnits fuel rest
        some (units ++ more, rest)
      else if c.toNat < 0x20 then none
      else
        let (more, rest) ← readUnits fuel rest
        some (charUnits c ++ more, rest)

def readText (fuel : ℕ) (text : List Char) : Option (String × List Char) :=
  (readUnits fuel text).map fun (units, rest) => (String.ofList (ofUnits units), rest)

/-! ## Values -/

def isJsonSpace (c : Char) : Bool := c = ' ' || c = '\t' || c = '\n' || c = '\r'

def skipSpace (text : List Char) : List Char := text.dropWhile isJsonSpace

def readWord (word : List Char) (value : Json) (text : List Char) : Option (Json × List Char) :=
  if word.isPrefixOf text then some (value, text.drop word.length) else none

mutual

def readValue : ℕ → List Char → Option (Json × List Char)
  | 0, _ => none
  | fuel + 1, text =>
      match skipSpace text with
      | [] => none
      | c :: rest =>
          if c = 'n' then readWord ['u', 'l', 'l'] .null rest
          else if c = 't' then readWord ['r', 'u', 'e'] (.bool true) rest
          else if c = 'f' then readWord ['a', 'l', 's', 'e'] (.bool false) rest
          else if c = '"' then (readText fuel rest).map fun (value, rest) => (.str value, rest)
          else if c = '[' then
            match skipSpace rest with
            | ']' :: rest => some (.arr [], rest)
            | _ => (readItems fuel rest).map fun (items, rest) => (.arr items, rest)
          else if c = '\x7b' then
            match skipSpace rest with
            | '\x7d' :: rest => some (.obj [], rest)
            | _ => (readMembers fuel rest).map fun (members, rest) => (.obj (Record.spread [] members), rest)
          else (Decimal.read (c :: rest)).map fun (value, rest) => (.num value, rest)

def readItems : ℕ → List Char → Option (List Json × List Char)
  | 0, _ => none
  | fuel + 1, text => do
      let (item, rest) ← readValue fuel text
      match skipSpace rest with
      | ',' :: rest =>
          let (items, rest) ← readItems fuel rest
          some (item :: items, rest)
      | ']' :: rest => some ([item], rest)
      | _ => none

/-- The members of an object, in the order of the text: of two with one key, the later
counts. -/
def readMembers : ℕ → List Char → Option (Record × List Char)
  | 0, _ => none
  | fuel + 1, text =>
      match skipSpace text with
      | '"' :: rest => do
          let (key, rest) ← readText fuel rest
          match skipSpace rest with
          | ':' :: rest =>
              let (value, rest) ← readValue fuel rest
              match skipSpace rest with
              | ',' :: rest =>
                  let (members, rest) ← readMembers fuel rest
                  some ((key, value) :: members, rest)
              | '\x7d' :: rest => some ([(key, value)], rest)
              | _ => none
          | _ => none
      | _ => none

end

/-- `JSON.parse(raw)`; `none` where it throws. -/
def jsonParse (raw : String) : Option Json :=
  match readValue (2 * raw.toList.length + 2) raw.toList with
  | some (value, rest) => if skipSpace rest = [] then some value else none
  | none => none

/-! ## Strings are read back -/

theorem units_cases (c : Char) :
    (charUnits c = [c.toNat] ∧ isHighSurrogate c.toNat = false ∧ isLowSurrogate c.toNat = false) ∨
    ∃ high low, charUnits c = [high, low] ∧ isHighSurrogate high = true ∧ isLowSurrogate low = true ∧
      0x10000 + (high - 0xD800) * 0x400 + (low - 0xDC00) = c.toNat := by
  have valid : c.toNat < 0xD800 ∨ 0xDFFF < c.toNat ∧ c.toNat < 0x110000 := c.valid
  unfold charUnits isHighSurrogate isLowSurrogate
  dsimp only
  split
  · refine .inl ⟨rfl, ?_, ?_⟩
    · simp only [Bool.and_eq_false_iff, decide_eq_false_iff_not]
      omega
    · simp only [Bool.and_eq_false_iff, decide_eq_false_iff_not]
      omega
  · refine .inr ⟨_, _, rfl, ?_, ?_, ?_⟩
    · simp only [Bool.and_eq_true, decide_eq_true_eq]
      omega
    · simp only [Bool.and_eq_true, decide_eq_true_eq]
      omega
    · omega

theorem ofUnits_charUnits (c : Char) (rest : List ℕ) :
    ofUnits (charUnits c ++ rest) = c :: ofUnits rest := by
  obtain ⟨plain, high, low⟩ | ⟨high, low, pair, isHigh, isLow, same⟩ := units_cases c
  · rw [plain]
    cases rest with
    | nil => simp [ofUnits, high, low, Char.ofNat_toNat]
    | cons next rest => simp [ofUnits, high, low, Char.ofNat_toNat]
  · rw [pair]
    simp [ofUnits, isHigh, isLow, same, Char.ofNat_toNat]

theorem ofUnits_flatMap (chars : List Char) : ofUnits (chars.flatMap charUnits) = chars := by
  induction chars with
  | nil => rfl
  | cons c chars ih => rw [List.flatMap_cons, ofUnits_charUnits, ih]

theorem hexValue_hexDigit : ∀ digit < 16, hexValue (hexDigit digit) = some digit := by decide

/-- A character that is written behind a backslash is read from there. -/
theorem readUnits_escaped {fuel : ℕ} {c : Char} {written rest : List Char}
    (read : readEscape (written ++ rest) = some ([c.toNat], rest)) (small : c.toNat < 0x10000) :
    readUnits (fuel + 1) ('\\' :: written ++ rest) =
      (readUnits fuel rest).map fun (more, rest) => (charUnits c ++ more, rest) := by
  have units : charUnits c = [c.toNat] := if_pos small
  rw [List.cons_append, readUnits, if_neg (by decide), if_pos rfl, read, units]
  simp only [Option.bind_eq_bind, Option.bind_some]
  cases readUnits fuel rest <;> rfl

/-- One character is read as it was written. -/
theorem readUnits_escapeChar (fuel : ℕ) (c : Char) (rest : List Char) :
    readUnits (fuel + 1) ((escapeChar c).toList ++ rest) =
      (readUnits fuel rest).map fun (more, rest) => (charUnits c ++ more, rest) := by
  have short (e : Char) (code : ℕ) (same : c.toNat = code) (small : code < 0x10000)
      (read : readEscape (e :: rest) = some ([code], rest)) :
      readUnits (fuel + 1) (['\\', e] ++ rest) =
        (readUnits fuel rest).map fun (more, rest) => (charUnits c ++ more, rest) := by
    apply @readUnits_escaped fuel c [e] rest
    · rw [same]
      exact read
    · omega
  unfold escapeChar
  split
  · rename_i same
    exact short '"' _ same (by decide) rfl
  · rename_i same
    exact short '\\' _ same (by decide) rfl
  · rename_i same
    exact short 'b' _ same (by decide) rfl
  · rename_i same
    exact short 'f' _ same (by decide) rfl
  · rename_i same
    exact short 'n' _ same (by decide) rfl
  · rename_i same
    exact short 'r' _ same (by decide) rfl
  · rename_i same
    exact short 't' _ same (by decide) rfl
  · rename_i code not_quote not_backslash _ _ _ _ _
    split
    · rename_i control
      have first := hexValue_hexDigit (c.toNat / 16) (by omega)
      have second := hexValue_hexDigit (c.toNat % 16) (by omega)
      have zero : hexValue '0' = some 0 := by decide
      have sum : ((0 * 16 + 0) * 16 + c.toNat / 16) * 16 + c.toNat % 16 = c.toNat := by omega
      have written : ("\\u00" ++ String.ofList [hexDigit (c.toNat / 16), hexDigit (c.toNat % 16)]).toList =
          '\\' :: ['u', '0', '0', hexDigit (c.toNat / 16), hexDigit (c.toNat % 16)] := by
        rw [String.toList_append, String.toList_ofList, String.toList_ofList]
        rfl
      rw [written]
      apply readUnits_escaped _ (by omega)
      simp only [readEscape, List.cons_append, List.nil_append, zero, first, second, Option.bind_eq_bind,
        Option.bind_some, sum]
    · rename_i printable
      have quote : c ≠ '"' := fun same => not_quote (same ▸ rfl)
      have backslash : c ≠ '\\' := fun same => not_backslash (same ▸ rfl)
      rw [String.toList_ofList, List.singleton_append, readUnits, if_neg quote, if_neg backslash,
        if_neg printable]
      cases readUnits fuel rest <;> rfl

theorem toList_foldr (chars : List Char) :
    (chars.foldr (fun c rest => escapeChar c ++ rest) "").toList =
      chars.flatMap fun c => (escapeChar c).toList := by
  induction chars with
  | nil => rfl
  | cons c chars ih => rw [List.foldr_cons, String.toList_append, ih, List.flatMap_cons]

theorem toList_quoted (value : String) :
    (quoted value).toList = '"' :: (value.toList.flatMap fun c => (escapeChar c).toList) ++ ['"'] := by
  rw [quoted, String.toList_append, String.toList_append, toList_foldr]
  rfl

theorem readUnits_flatMap {chars : List Char} {fuel : ℕ} (enough : chars.length < fuel)
    (rest : List Char) :
    readUnits fuel ((chars.flatMap fun c => (escapeChar c).toList) ++ '"' :: rest) =
      some (chars.flatMap charUnits, rest) := by
  induction chars generalizing fuel with
  | nil =>
    cases fuel with
    | zero => cases enough
    | succ fuel => simp [readUnits]
  | cons c chars ih =>
    cases fuel with
    | zero => cases enough
    | succ fuel =>
      rw [List.flatMap_cons, List.append_assoc, readUnits_escapeChar,
        ih (Nat.lt_of_succ_lt_succ enough), List.flatMap_cons]
      rfl

/-- What is in quotes is read as the text that was quoted. -/
theorem readText_quoted {fuel : ℕ} {value : String} (enough : value.toList.length < fuel)
    (rest : List Char) :
    readText fuel ((value.toList.flatMap fun c => (escapeChar c).toList) ++ '"' :: rest) =
      some (value, rest) := by
  rw [readText, readUnits_flatMap enough, Option.map_some]
  dsimp only
  rw [ofUnits_flatMap, String.ofList_toList]

/-! ## Values are read back -/

mutual

/-- No object in the value has a key twice. -/
def Json.keysOnce : Json → Bool
  | .arr items => itemsOnce items
  | .obj members => decide (members.map Prod.fst).Nodup && membersOnce members
  | _ => true

def itemsOnce : List Json → Bool
  | [] => true
  | item :: rest => item.keysOnce && itemsOnce rest

def membersOnce : List (String × Json) → Bool
  | [] => true
  | member :: rest => member.2.keysOnce && membersOnce rest

end

theorem Record.set_new {record : Record} {key : String} {value : Json}
    (new : key ∉ record.map Prod.fst) : Record.set record key value = record ++ [(key, value)] := by
  induction record with
  | nil => rfl
  | cons member record ih =>
    rw [List.map_cons, List.mem_cons, not_or] at new
    rw [Record.set, if_neg (Ne.symm new.1), ih new.2, List.cons_append]

/-- Members with keys of their own are added as they are. -/
theorem Record.spread_new {base extra : Record} (once : ((base ++ extra).map Prod.fst).Nodup) :
    Record.spread base extra = base ++ extra := by
  induction extra generalizing base with
  | nil => rw [List.append_nil]; rfl
  | cons member extra ih =>
    have new : member.1 ∉ base.map Prod.fst := by
      rw [List.map_append, List.map_cons, List.nodup_append] at once
      exact fun there => once.2.2 _ there _ List.mem_cons_self rfl
    change Record.spread (Record.set base member.1 member.2) extra = _
    rw [Record.set_new new, ih (by rwa [List.append_assoc]), List.append_assoc]
    rfl

theorem skipSpace_cons {c : Char} {rest : List Char} (plain : isJsonSpace c = false) :
    skipSpace (c :: rest) = c :: rest := by
  simp [skipSpace, plain]

/-- A digit or a sign is no character that begins another token. -/
theorem plain_of_number {c : Char} (number : c = '-' ∨ c.isDigit) :
    isJsonSpace c = false ∧ c ≠ 'n' ∧ c ≠ 't' ∧ c ≠ 'f' ∧ c ≠ '"' ∧ c ≠ '[' ∧ c ≠ '\x7b' ∧ c ≠ ']' := by
  rcases number with rfl | digit
  · decide
  · have other (d : Char) (no_digit : d.isDigit = false) : c ≠ d := by
      rintro rfl
      rw [digit] at no_digit
      cases no_digit
    refine ⟨?_, other _ (by decide), other _ (by decide), other _ (by decide), other _ (by decide),
      other _ (by decide), other _ (by decide), other _ (by decide)⟩
    simp [isJsonSpace, other ' ' (by decide), other '\t' (by decide), other '\n' (by decide),
      other '\r' (by decide)]

theorem toList_arr (items : List Json) :
    (jsonStringify (.arr items)).toList = '[' :: ((stringifyItems items).toList ++ [']']) := by
  rw [jsonStringify, String.toList_append, String.toList_append]
  rfl

theorem toList_obj (members : Record) :
    (jsonStringify (.obj members)).toList = '\x7b' :: ((stringifyMembers members).toList ++ ['\x7d']) := by
  rw [jsonStringify, String.toList_append, String.toList_append]
  rfl

theorem toList_items (item next : Json) (items : List Json) :
    (stringifyItems (item :: next :: items)).toList =
      (jsonStringify item).toList ++ ',' :: (stringifyItems (next :: items)).toList := by
  rw [stringifyItems, String.toList_append, String.toList_append, List.append_assoc]
  · rfl
  · exact List.cons_ne_nil _ _

theorem toList_member (member : String × Json) :
    (stringifyMembers [member]).toList =
      (quoted member.1).toList ++ ':' :: (jsonStringify member.2).toList := by
  rw [stringifyMembers, String.toList_append, String.toList_append, List.append_assoc]
  rfl

theorem toList_members (member next : String × Json) (members : Record) :
    (stringifyMembers (member :: next :: members)).toList = (quoted member.1).toList ++
      ':' :: ((jsonStringify member.2).toList ++ ',' :: (stringifyMembers (next :: members)).toList) := by
  rw [stringifyMembers]
  · simp only [String.toList_append, List.append_assoc]
    rfl
  · exact List.cons_ne_nil _ _

/-- A value begins with a character of its own. -/
theorem head_jsonStringify (value : Json) : ∃ c rest, (jsonStringify value).toList = c :: rest ∧
    isJsonSpace c = false ∧ c ≠ ']' := by
  cases value with
  | null => exact ⟨'n', _, rfl, by decide, by decide⟩
  | bool value =>
    cases value with
    | true => exact ⟨'t', _, rfl, by decide, by decide⟩
    | false => exact ⟨'f', _, rfl, by decide, by decide⟩
  | num value =>
    obtain ⟨c, rest, written, number⟩ := value.head_chars
    have plain := plain_of_number number
    exact ⟨c, rest, by rw [jsonStringify, String.toList_ofList, written], plain.1, plain.2.2.2.2.2.2.2⟩
  | str value => exact ⟨'"', _, by rw [jsonStringify, toList_quoted]; rfl, by decide, by decide⟩
  | arr items => exact ⟨'[', _, toList_arr items, by decide, by decide⟩
  | obj members => exact ⟨'\x7b', _, toList_obj members, by decide, by decide⟩

theorem length_jsonStringify_pos (value : Json) : 0 < (jsonStringify value).toList.length := by
  obtain ⟨c, rest, written, -⟩ := head_jsonStringify value
  rw [written]
  exact Nat.succ_pos _

/-- What follows a value in a list or an object ends it. -/
theorem ends_cons {c : Char} {rest : List Char}
    (mark : c.isDigit = false ∧ c ≠ '.' ∧ c ≠ 'e' ∧ c ≠ 'E') : Literal.Ends (c :: rest) := by
  intro d first
  cases first
  exact mark

/-- No character is written in less than one. -/
theorem length_le_quoted (value : String) : value.toList.length + 2 ≤ (quoted value).toList.length := by
  have each (c : Char) : 1 ≤ (escapeChar c).toList.length := by
    unfold escapeChar
    split <;> first | decide | skip
    split
    · simp
    · rw [String.toList_ofList]
      exact Nat.le_refl 1
  have all (chars : List Char) : chars.length ≤ (chars.flatMap fun c => (escapeChar c).toList).length := by
    induction chars with
    | nil => exact Nat.zero_le _
    | cons c chars ih =>
      have one := each c
      rw [List.flatMap_cons, List.length_append, List.length_cons]
      omega
  have inside := all value.toList
  rw [toList_quoted, List.length_append, List.length_cons]
  simp only [List.length_singleton]
  omega

section Reading

variable {fuel : ℕ} {text rest : List Char} {key : String} {value : Json} {items : List Json}
  {members : Record}

theorem readValue_num (value : Decimal) (ends : Literal.Ends rest) :
    readValue (fuel + 1) ((jsonStringify (.num value)).toList ++ rest) = some (.num value, rest) := by
  obtain ⟨c, more, written, number⟩ := value.head_chars
  obtain ⟨space, n, t, f, quote, bracket, brace, -⟩ := plain_of_number number
  have read := value.read_chars ends
  rw [written, List.cons_append] at read
  rw [jsonStringify, String.toList_ofList, written, List.cons_append, readValue, skipSpace_cons space]
  dsimp only
  rw [if_neg n, if_neg t, if_neg f, if_neg quote, if_neg bracket, if_neg brace, read]
  rfl

theorem readValue_str (value : String) (enough : (quoted value).toList.length ≤ fuel) :
    readValue (fuel + 1) ((jsonStringify (.str value)).toList ++ rest) = some (.str value, rest) := by
  have short := length_le_quoted value
  have read := @readText_quoted fuel value (by omega) rest
  rw [jsonStringify, toList_quoted, List.append_assoc, List.cons_append, readValue,
    skipSpace_cons (by decide)]
  dsimp only
  rw [if_neg (by decide), if_neg (by decide), if_neg (by decide), if_pos rfl]
  simp only [List.singleton_append, read, Option.map_some]

theorem head_items (some_ : items ≠ []) : ∃ c rest, (stringifyItems items).toList = c :: rest ∧
    isJsonSpace c = false ∧ c ≠ ']' := by
  match items with
  | [] => exact absurd rfl some_
  | [last] => exact head_jsonStringify last
  | item :: next :: items =>
    obtain ⟨c, rest, written, plain⟩ := head_jsonStringify item
    rw [toList_items, written]
    exact ⟨c, _, rfl, plain⟩

theorem head_members (some_ : members ≠ []) : ∃ rest, (stringifyMembers members).toList = '"' :: rest := by
  match members with
  | [] => exact absurd rfl some_
  | [member] => exact ⟨_, by rw [toList_member, toList_quoted]; rfl⟩
  | member :: next :: members => exact ⟨_, by rw [toList_members, toList_quoted]; rfl⟩

theorem readValue_arr (some_ : items ≠ [])
    (read : readItems fuel ((stringifyItems items).toList ++ ']' :: rest) = some (items, rest)) :
    readValue (fuel + 1) ((jsonStringify (.arr items)).toList ++ rest) = some (.arr items, rest) := by
  obtain ⟨c, more, written, space, other⟩ := head_items some_
  rw [toList_arr, List.cons_append, List.append_assoc, List.singleton_append, readValue,
    skipSpace_cons (by decide)]
  dsimp only
  rw [if_neg (by decide), if_neg (by decide), if_neg (by decide), if_neg (by decide), if_pos rfl]
  rw [written, List.cons_append] at read ⊢
  rw [skipSpace_cons space]
  split
  · rename_i same
    exact absurd (List.cons.inj same).1 other
  · rw [read]
    rfl

theorem readValue_obj (some_ : members ≠ []) (once : (members.map Prod.fst).Nodup)
    (read : readMembers fuel ((stringifyMembers members).toList ++ '\x7d' :: rest) =
      some (members, rest)) :
    readValue (fuel + 1) ((jsonStringify (.obj members)).toList ++ rest) = some (.obj members, rest) := by
  obtain ⟨more, written⟩ := head_members some_
  have whole : Record.spread [] members = members := @Record.spread_new [] members once
  rw [toList_obj, List.cons_append, List.append_assoc, List.singleton_append, readValue,
    skipSpace_cons (by decide)]
  dsimp only
  rw [if_neg (by decide), if_neg (by decide), if_neg (by decide), if_neg (by decide),
    if_neg (by decide), if_pos rfl]
  rw [written, List.cons_append] at read ⊢
  rw [skipSpace_cons (by decide)]
  simp only [read, Option.map_some, whole]
  rfl

theorem readItems_last {item : Json}
    (read : readValue fuel ((jsonStringify item).toList ++ ']' :: rest) = some (item, ']' :: rest)) :
    readItems (fuel + 1) ((stringifyItems [item]).toList ++ ']' :: rest) = some ([item], rest) := by
  rw [stringifyItems, readItems, read]
  simp [skipSpace_cons (by decide : isJsonSpace ']' = false)]

theorem readItems_more {item next : Json} {text : List Char}
    (read : readValue fuel ((jsonStringify item).toList ++ ',' :: text) = some (item, ',' :: text))
    (more : readItems fuel text = some (next :: items, rest)) :
    readItems (fuel + 1) ((jsonStringify item).toList ++ ',' :: text) =
      some (item :: next :: items, rest) := by
  rw [readItems, read]
  simp [skipSpace_cons (by decide : isJsonSpace ',' = false), more]

/-- The key of a member, and what is read behind it. -/
theorem readMembers_key {behind : List Char} (enough : (quoted key).toList.length ≤ fuel)
    (read : readValue fuel text = some (value, behind)) :
    readMembers (fuel + 1) ((quoted key).toList ++ ':' :: text) =
      match skipSpace behind with
      | ',' :: rest => do
          let (members, rest) ← readMembers fuel rest
          some ((key, value) :: members, rest)
      | '\x7d' :: rest => some ([(key, value)], rest)
      | _ => none := by
  have short := length_le_quoted key
  have keyed := @readText_quoted fuel key (by omega) (':' :: text)
  rw [toList_quoted, List.append_assoc, List.cons_append, readMembers, skipSpace_cons (by decide)]
  simp only [List.singleton_append, keyed, Option.bind_eq_bind, Option.bind_some,
    skipSpace_cons (by decide : isJsonSpace ':' = false), read]

end Reading

/-- With fuel for its text, the value is read back. -/
def ReadBack (value : Json) : Prop :=
  ∀ (fuel : ℕ) (rest : List Char), 2 * (jsonStringify value).toList.length ≤ fuel + 1 →
    Literal.Ends rest → readValue (fuel + 1) ((jsonStringify value).toList ++ rest) = some (value, rest)

def ItemsReadBack (items : List Json) : Prop :=
  ∀ (fuel : ℕ) (rest : List Char), items ≠ [] → 2 * (stringifyItems items).toList.length < fuel →
    readItems fuel ((stringifyItems items).toList ++ ']' :: rest) = some (items, rest)

def MembersReadBack (members : Record) : Prop :=
  ∀ (fuel : ℕ) (rest : List Char), members ≠ [] → 2 * (stringifyMembers members).toList.length < fuel →
    readMembers fuel ((stringifyMembers members).toList ++ '\x7d' :: rest) = some (members, rest)

mutual

theorem readValue_stringify : ∀ value : Json, value.keysOnce = true → ReadBack value
  | .null, _ => fun _ _ _ _ => rfl
  | .bool true, _ => fun _ _ _ _ => rfl
  | .bool false, _ => fun _ _ _ _ => rfl
  | .num value, _ => fun _ _ _ ends => readValue_num value ends
  | .str value, _ => by
    intro fuel rest enough _
    rw [jsonStringify] at enough
    have short := length_le_quoted value
    exact readValue_str value (by omega)
  | .arr [], _ => fun _ _ _ _ => rfl
  | .arr (item :: items), once => by
    intro fuel rest enough _
    rw [toList_arr, List.length_cons, List.length_append, List.length_singleton] at enough
    rw [Json.keysOnce] at once
    apply readValue_arr (List.cons_ne_nil item items)
    exact readItems_stringify (item :: items) once fuel rest (List.cons_ne_nil item items) (by omega)
  | .obj [], _ => fun _ _ _ _ => rfl
  | .obj (member :: members), once => by
    intro fuel rest enough _
    rw [toList_obj, List.length_cons, List.length_append, List.length_singleton] at enough
    rw [Json.keysOnce, Bool.and_eq_true, decide_eq_true_eq] at once
    apply readValue_obj (List.cons_ne_nil member members) once.1
    exact readMembers_stringify (member :: members) once.2 fuel rest (List.cons_ne_nil member members)
      (by omega)

theorem readItems_stringify : ∀ items : List Json, itemsOnce items = true → ItemsReadBack items
  | [], _ => fun _ _ some_ _ => absurd rfl some_
  | [last], once => by
    intro fuel rest _ enough
    rw [itemsOnce, Bool.and_eq_true] at once
    rw [stringifyItems] at enough
    have positive := length_jsonStringify_pos last
    obtain ⟨fuel, rfl⟩ : ∃ more, fuel = more + 2 := ⟨fuel - 2, by omega⟩
    apply readItems_last
    exact readValue_stringify last once.1 fuel _ (by omega) (ends_cons (by decide))
  | item :: next :: items, once => by
    intro fuel rest _ enough
    rw [itemsOnce, Bool.and_eq_true] at once
    rw [toList_items, List.length_append, List.length_cons] at enough
    have positive := length_jsonStringify_pos item
    obtain ⟨fuel, rfl⟩ : ∃ more, fuel = more + 2 := ⟨fuel - 2, by omega⟩
    rw [toList_items, List.append_assoc, List.cons_append]
    apply readItems_more
    · exact readValue_stringify item once.1 fuel _ (by omega) (ends_cons (by decide))
    · exact readItems_stringify (next :: items) once.2 (fuel + 1) rest (List.cons_ne_nil next items)
        (by omega)

theorem readMembers_stringify : ∀ members : Record, membersOnce members = true → MembersReadBack members
  | [], _ => fun _ _ some_ _ => absurd rfl some_
  | [member], once => by
    intro fuel rest _ enough
    rw [membersOnce, Bool.and_eq_true] at once
    rw [toList_member, List.length_append, List.length_cons] at enough
    have short := length_le_quoted member.1
    obtain ⟨fuel, rfl⟩ : ∃ more, fuel = more + 2 := ⟨fuel - 2, by omega⟩
    rw [toList_member, List.append_assoc, List.cons_append]
    rw [readMembers_key (by omega)
      (readValue_stringify member.2 once.1 fuel _ (by omega) (ends_cons (by decide)))]
    rfl
  | member :: next :: members, once => by
    intro fuel rest _ enough
    rw [membersOnce, Bool.and_eq_true] at once
    rw [toList_members, List.length_append, List.length_cons, List.length_append, List.length_cons]
      at enough
    have short := length_le_quoted member.1
    obtain ⟨fuel, rfl⟩ : ∃ more, fuel = more + 2 := ⟨fuel - 2, by omega⟩
    have more := readMembers_stringify (next :: members) once.2 (fuel + 1) rest
      (List.cons_ne_nil next members) (by omega)
    rw [toList_members, List.append_assoc, List.cons_append, List.append_assoc, List.cons_append]
    rw [readMembers_key (by omega)
      (readValue_stringify member.2 once.1 fuel _ (by omega) (ends_cons (by decide)))]
    rw [skipSpace_cons (by decide)]
    simp only [more, Option.bind_eq_bind, Option.bind_some]

end

/-- **What `jsonStringify` has written, `jsonParse` reads back.** -/
theorem jsonParse_stringify (value : Json) (once : value.keysOnce = true) :
    jsonParse (jsonStringify value) = some value := by
  have read := readValue_stringify value once (2 * (jsonStringify value).toList.length + 1) [] (by omega)
    (by intro c first; cases first)
  rw [List.append_nil] at read
  unfold jsonParse
  rw [read]
  rfl

end ParentalCoord
