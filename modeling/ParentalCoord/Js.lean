import Mathlib.Data.Int.Notation
import Mathlib.Data.List.Basic
import Mathlib.Data.List.Lex
import Mathlib.Data.List.Sort
import Mathlib.Order.Lex
import ParentalCoord.Numbers.Decimals
import ParentalCoord.Store.Entries

/-!
The parts of the language and its runtime that the code relies on: values of
untyped JSON columns, strings as the language measures them, and dates.

An instant is a number of milliseconds since the epoch, as `Date` holds it.
-/

namespace ParentalCoord

abbrev Uuid := String

abbrev Instant := ℤ

/-- A JSON value.  The members of an object stand in insertion order, and a number is the
decimal that it is written as. -/
inductive Json where
  | null
  | bool (value : Bool)
  | num (value : Numbers.Decimal)
  | str (value : String)
  | arr (items : List Json)
  | obj (members : List (String × Json))
  deriving Inhabited

/-- `Record<string, unknown>`. -/
abbrev Record := List (String × Json)

/-- `record[key] = value`: in place when the key is there, last otherwise. -/
def Record.set (record : Record) (key : String) (value : Json) : Record :=
  match record with
  | [] => [(key, value)]
  | member :: rest =>
      if member.1 = key then (key, value) :: rest else member :: Record.set rest key value

/-- `{ ...base, ...extra }`. -/
def Record.spread (base extra : Record) : Record :=
  extra.foldl (fun record member => Record.set record member.1 member.2) base

theorem Record.set_eq (record : Record) (key : String) (value : Json) :
    Record.set record key value = Store.alter key .null (fun _ => value) record := by
  induction record with
  | nil => rfl
  | cons member rest ih =>
    by_cases same : member.1 = key
    · simp [Record.set, Store.alter, same]
    · simp [Record.set, Store.alter, same, ih]

theorem Record.lookup_set (record : Record) (key other : String) (value : Json) :
    (Record.set record key value).lookup other =
      if other = key then some value else record.lookup other := by
  rw [Record.set_eq, Store.lookup_alter]

/-- `typeof value === 'string' ? value : undefined`. -/
def asString : Option Json → Option String
  | some (.str value) => some value
  | _ => none

/-- `value ?? null`, for an optional string. -/
def Json.ofOption : Option String → Json
  | some value => .str value
  | none => .null

/-- Whether a string counts as true in a condition. -/
def truthy (value : String) : Bool := value ≠ ""

/-- `value.length`: a string is measured in UTF-16 code units. -/
def jsLength (value : String) : ℕ :=
  (value.toList.map fun c => if c.val < 0x10000 then 1 else 2).sum

/-- `value.slice(0, max)`, in code units.  Half of a pair is stored as the
replacement character. -/
def sliceStart (max : ℕ) : List Char → List Char
  | [] => []
  | c :: rest =>
      let width := if c.val < 0x10000 then 1 else 2
      if width ≤ max then c :: sliceStart (max - width) rest
      else if max = 0 then []
      else [Char.ofNat 0xFFFD]

/-- A string as the language holds it. -/
abbrev CodeUnits := List ℕ

/-- The code units of a string. -/
def utf16 (value : String) : CodeUnits :=
  value.toList.flatMap fun c =>
    let code := c.toNat
    if code < 0x10000 then [code]
    else [0xD800 + (code - 0x10000) / 0x400, 0xDC00 + (code - 0x10000) % 0x400]

/-- A code unit on its own.  Half of a pair is stored as the replacement character. -/
def loneUnit (unit : ℕ) : Char :=
  if 0xD800 ≤ unit ∧ unit < 0xE000 then Char.ofNat 0xFFFD else Char.ofNat unit

/-- The characters that are stored for some code units. -/
def storedChars : CodeUnits → List Char
  | [] => []
  | [unit] => [loneUnit unit]
  | high :: low :: rest =>
      if (0xD800 ≤ high ∧ high < 0xDC00) ∧ 0xDC00 ≤ low ∧ low < 0xE000 then
        Char.ofNat (0x10000 + (high - 0xD800) * 0x400 + (low - 0xDC00)) :: storedChars rest
      else loneUnit high :: storedChars (low :: rest)

/-- `values.sort()`: by code units. -/
def jsSort (values : List String) : List String :=
  values.insertionSort (utf16 · ≤ utf16 ·)

/-- White space and line terminators, which `trim` removes. -/
def isJsSpace (c : Char) : Bool :=
  c.val ∈ ([0x9, 0xA, 0xB, 0xC, 0xD, 0x20, 0xA0, 0x1680, 0x2028, 0x2029, 0x202F, 0x205F, 0x3000,
    0xFEFF] : List UInt32) || (0x2000 ≤ c.val && c.val ≤ 0x200A)

/-- `value.trim()`. -/
def jsTrim (value : String) : String :=
  String.ofList ((((value.toList.dropWhile isJsSpace).reverse).dropWhile isJsSpace).reverse)

/-- `String(value).padStart(width, '0')`. -/
def padded (width value : ℕ) : String :=
  let digits := Nat.repr value
  String.ofList (List.replicate (width - digits.length) '0') ++ digits

/-- Year, month and day of a day counted from the epoch, in the proleptic
Gregorian calendar.  A year of the count begins in March, so that the leap day
is the last one. -/
def civilOfDay (day : ℤ) : ℤ × ℕ × ℕ :=
  let shifted := day + 719468
  let era := shifted / 146097
  let dayOfEra := (shifted % 146097).toNat
  let yearOfEra := (dayOfEra - dayOfEra / 1460 + dayOfEra / 36524 - dayOfEra / 146096) / 365
  let dayOfYear := dayOfEra - (365 * yearOfEra + yearOfEra / 4 - yearOfEra / 100)
  let month := (5 * dayOfYear + 2) / 153
  let year := (yearOfEra : ℤ) + era * 400
  (if month < 10 then year else year + 1,
    if month < 10 then month + 3 else month - 9,
    dayOfYear - (153 * month + 2) / 5 + 1)

/-- The day of a date of that calendar, counted from the epoch. -/
def dayOfCivil (year : ℤ) (month day : ℕ) : ℤ :=
  let shifted := if month ≤ 2 then year - 1 else year
  let era := shifted / 400
  let yearOfEra := shifted % 400
  let dayOfYear := (153 * (if 2 < month then month - 3 else month + 9) + 2) / 5 + day - 1
  era * 146097 + (yearOfEra * 365 + yearOfEra / 4 - yearOfEra / 100 + dayOfYear) - 719468

/-- A run of decimal digits. -/
def decimal (digits : List Char) : Option ℕ :=
  if digits.all Char.isDigit then
    some (digits.foldl (fun value c => value * 10 + (c.toNat - 48)) 0)
  else none

/-- The day of a date written `YYYY-MM-DD`, as `Date` reads it: any month has
days up to 31, which run on into the next one.  `none` is an invalid date. -/
def parseDay (value : String) : Option ℤ :=
  match value.toList with
  | [y₁, y₂, y₃, y₄, '-', m₁, m₂, '-', d₁, d₂] => do
    let year ← decimal [y₁, y₂, y₃, y₄]
    let month ← decimal [m₁, m₂]
    let day ← decimal [d₁, d₂]
    if 1 ≤ month ∧ month ≤ 12 ∧ 1 ≤ day ∧ day ≤ 31 then some (dayOfCivil year month day) else none
  | _ => none

/-- `new Date(instant).toISOString()`. -/
def toISOString (instant : Instant) : String :=
  let ms := (instant % 86400000).toNat
  let (year, month, day) := civilOfDay (instant / 86400000)
  let years :=
    if 0 ≤ year ∧ year ≤ 9999 then padded 4 year.toNat
    else (if year < 0 then "-" else "+") ++ padded 6 year.natAbs
  years ++ "-" ++ padded 2 month ++ "-" ++ padded 2 day ++ "T" ++ padded 2 (ms / 3600000) ++ ":" ++
    padded 2 (ms / 60000 % 60) ++ ":" ++ padded 2 (ms / 1000 % 60) ++ "." ++
    padded 3 (ms % 1000) ++ "Z"

example : toISOString 1790856000000 = "2026-10-01T12:00:00.000Z" := by decide +kernel

example : (parseDay "2026-10-01").map (· * 86400000 + 43200000) = some 1790856000000 := by
  decide +kernel

/-- One hexadecimal digit, as `JSON.stringify` writes it. -/
def hexDigit (value : ℕ) : Char :=
  if value < 10 then Char.ofNat (48 + value) else Char.ofNat (87 + value)

/-- One character of a string literal. -/
def escapeChar (c : Char) : String :=
  match c.toNat with
  | 0x22 => "\\\""
  | 0x5C => "\\\\"
  | 0x08 => "\\b"
  | 0x0C => "\\f"
  | 0x0A => "\\n"
  | 0x0D => "\\r"
  | 0x09 => "\\t"
  | code =>
      if code < 0x20 then "\\u00" ++ String.ofList [hexDigit (code / 16), hexDigit (code % 16)]
      else String.ofList [c]

def quoted (value : String) : String :=
  "\"" ++ value.toList.foldr (fun c rest => escapeChar c ++ rest) "" ++ "\""

mutual

/-- `JSON.stringify(value)`. -/
def jsonStringify : Json → String
  | .null => "null"
  | .bool value => if value then "true" else "false"
  | .num value => String.ofList value.chars
  | .str value => quoted value
  | .arr items => "[" ++ stringifyItems items ++ "]"
  | .obj members => "\x7b" ++ stringifyMembers members ++ "\x7d"

def stringifyItems : List Json → String
  | [] => ""
  | [last] => jsonStringify last
  | item :: rest => jsonStringify item ++ "," ++ stringifyItems rest

def stringifyMembers : List (String × Json) → String
  | [] => ""
  | [last] => quoted last.1 ++ ":" ++ jsonStringify last.2
  | member :: rest =>
      quoted member.1 ++ ":" ++ jsonStringify member.2 ++ "," ++ stringifyMembers rest

end

example : jsonStringify (.obj [("a", .str "x\"y"), ("b", .arr [.null, .num (.ofInt (-3))])]) =
    "\x7b\"a\":\"x\\\"y\",\"b\":[null,-3]\x7d" := by decide +kernel

end ParentalCoord
