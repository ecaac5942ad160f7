import ParentalCoord.Webhooks.Ssrf

/-!
The addresses that the HTTP client keeps away from.

However an address is written, `expandIpv6` finds the groups it denotes, and
`isBlockedIp` says whether the address lies in a block that is not public.
-/

namespace ParentalCoord.Webhooks

open Interleaving Interleaving.Handler Net

variable {text : List Char} {texts : List (List Char)} {a b c d value : ℕ} {values : List ℕ}
  {octets : Bool}

/-- What is documented of `net.isIP`. -/
structure IsIPCorrect (isIP : String → ℕ) : Prop where
  four (text : String) : isIP text = 4 ↔ ∃ value, Denotes text.toList (.v4 value)
  six (text : String) : isIP text = 6 ↔ ∃ value, Denotes text.toList (.v6 value)

/-- Blocks of IPv4 that are not public. -/
def reservedIpv4 : List (Cidr 32) :=
  [⟨ofOctets 0 0 0 0, 8⟩, ⟨ofOctets 10 0 0 0, 8⟩, ⟨ofOctets 100 64 0 0, 10⟩,
    ⟨ofOctets 127 0 0 0, 8⟩, ⟨ofOctets 169 254 0 0, 16⟩, ⟨ofOctets 172 16 0 0, 12⟩,
    ⟨ofOctets 192 0 0 0, 24⟩, ⟨ofOctets 192 168 0 0, 16⟩, ⟨ofOctets 198 18 0 0, 15⟩,
    ⟨ofOctets 224 0 0 0, 3⟩]

/-- Blocks of IPv6 that are not public: `::`, `::1`, `fc00::/7` and `fe80::/10`. -/
def reservedIpv6 : List (Cidr 128) :=
  [⟨0, 128⟩, ⟨1, 128⟩, ⟨0xfc00 * 2 ^ 112, 7⟩, ⟨0xfe80 * 2 ^ 112, 10⟩]

/-- `::ffff:0:0/96`, the addresses of IPv4 among those of IPv6. -/
def mappedIpv4 : Cidr 128 := ⟨0xffff * 2 ^ 32, 96⟩

def ReservedIpv4 (value : ℕ) : Prop := ∃ block ∈ reservedIpv4, block.contains value

def Reserved : Address → Prop
  | .v4 value => ReservedIpv4 value
  | .v6 value =>
      (mappedIpv4.contains value ∧ ReservedIpv4 (value % 2 ^ 32)) ∨
        ∃ block ∈ reservedIpv6, block.contains value

/-! ## The ranges -/

theorem isBlockedIpv4_iff (bounds : a < 256 ∧ b < 256 ∧ c < 256 ∧ d < 256) :
    isBlockedIpv4 [some a, some b, some c, some d] = true ↔ ReservedIpv4 (ofOctets a b c d) := by
  obtain ⟨_, _, _, _⟩ := bounds
  simp only [ReservedIpv4, reservedIpv4, List.exists_mem_cons_iff, List.not_mem_nil, false_and,
    exists_false, or_false, Cidr.contains, ofOctets]
  simp only [isBlockedIpv4, List.getElem?_cons_zero, List.getElem?_cons_succ, Option.join_some,
    Option.any_some, Bool.or_eq_true, Bool.and_eq_true, decide_eq_true_eq, Option.some.injEq,
    or_assoc, and_assoc]
  -- range by range
  refine or_congr ?_ <| or_congr ?_ <| or_congr ?_ <| or_congr ?_ <| or_congr ?_ <| or_congr ?_ <|
    or_congr ?_ <| or_congr ?_ <| or_congr ?_ ?_ <;> omega

/-- The last two groups, as octets. -/
theorem octets_of_groups {g₆ g₇ : ℕ} (bounds : g₆ < 65536 ∧ g₇ < 65536) :
    isBlockedIpv4 [some (g₆ >>> 8), some (g₆ &&& 0xff), some (g₇ >>> 8), some (g₇ &&& 0xff)] = true ↔
      ReservedIpv4 (g₆ * 65536 + g₇) := by
  have low (group : ℕ) : group &&& 0xff = group % 256 := Nat.and_two_pow_sub_one_eq_mod group 8
  simp only [Nat.shiftRight_eq_div_pow, low]
  rw [isBlockedIpv4_iff (by omega)]
  have same : ofOctets (g₆ / 2 ^ 8) (g₆ % 256) (g₇ / 2 ^ 8) (g₇ % 256) = g₆ * 65536 + g₇ := by
    simp only [ofOctets]
    omega
  rw [same]

/-- Where the value of eight groups lies, by the groups. -/
theorem ofGroups_ranges {g₀ g₁ g₂ g₃ g₄ g₅ g₆ g₇ : ℕ}
    (bounded : ∀ group ∈ [g₀, g₁, g₂, g₃, g₄, g₅, g₆, g₇], group < 65536) :
    ofGroups [g₀, g₁, g₂, g₃, g₄, g₅, g₆, g₇] / 2 ^ 112 = g₀ ∧
      ofGroups [g₀, g₁, g₂, g₃, g₄, g₅, g₆, g₇] / 2 ^ 32 = ofGroups [g₀, g₁, g₂, g₃, g₄, g₅] ∧
        ofGroups [g₀, g₁, g₂, g₃, g₄, g₅, g₆, g₇] % 2 ^ 32 = g₆ * 65536 + g₇ := by
  have first := ofGroups_append_div [g₀] fun group (member : group ∈ [g₁, g₂, g₃, g₄, g₅, g₆, g₇]) =>
    bounded group (List.mem_cons_of_mem g₀ member)
  have last (group : ℕ) (member : group ∈ [g₆, g₇]) : group < 65536 :=
    bounded group (by simp only [List.mem_cons] at member ⊢; tauto)
  have high := ofGroups_append_div [g₀, g₁, g₂, g₃, g₄, g₅] last
  have low := ofGroups_append_mod [g₀, g₁, g₂, g₃, g₄, g₅] last
  refine ⟨?_, ?_, ?_⟩
  · simpa [ofGroups] using first
  · simpa [ofGroups] using high
  · simpa [ofGroups] using low

/-- The blocks of IPv6, by the groups. -/
theorem reservedIpv6_iff {g₀ g₁ g₂ g₃ g₄ g₅ g₆ g₇ : ℕ}
    (bounded : ∀ group ∈ [g₀, g₁, g₂, g₃, g₄, g₅, g₆, g₇], group < 65536) :
    (∃ block ∈ reservedIpv6, block.contains (ofGroups [g₀, g₁, g₂, g₃, g₄, g₅, g₆, g₇])) ↔
      (g₀ = 0 ∧ g₁ = 0 ∧ g₂ = 0 ∧ g₃ = 0 ∧ g₄ = 0 ∧ g₅ = 0 ∧ g₆ = 0 ∧ g₇ = 0) ∨
        (g₀ = 0 ∧ g₁ = 0 ∧ g₂ = 0 ∧ g₃ = 0 ∧ g₄ = 0 ∧ g₅ = 0 ∧ g₆ = 0 ∧ g₇ = 1) ∨
          g₀ &&& 0xfe00 = 0xfc00 ∨ g₀ &&& 0xffc0 = 0xfe80 := by
  obtain ⟨first, -, -⟩ := ofGroups_ranges bounded
  simp only [List.forall_mem_cons, List.not_mem_nil, false_implies, implies_true, and_true] at bounded
  have ula : g₀ &&& 0xfe00 = 0xfc00 ↔ g₀ / 2 ^ 9 % 2 ^ 7 = 126 :=
    (and_mask_eq_iff : g₀ &&& (2 ^ 7 - 1) * 2 ^ 9 = 126 * 2 ^ 9 ↔ _)
  have linkLocal : g₀ &&& 0xffc0 = 0xfe80 ↔ g₀ / 2 ^ 6 % 2 ^ 10 = 1018 :=
    (and_mask_eq_iff : g₀ &&& (2 ^ 10 - 1) * 2 ^ 6 = 1018 * 2 ^ 6 ↔ _)
  rw [ula, linkLocal]
  simp only [reservedIpv6, List.exists_mem_cons_iff, List.not_mem_nil, false_and, exists_false,
    or_false, Cidr.contains]
  refine or_congr ?_ <| or_congr ?_ <| or_congr ?_ ?_
  · simp only [ofGroups, List.foldl_cons, List.foldl_nil]
    omega
  · simp only [ofGroups, List.foldl_cons, List.foldl_nil]
    omega
  · omega
  · omega

/-- `::ffff:0:0/96`, by the groups. -/
theorem mappedIpv4_iff {g₀ g₁ g₂ g₃ g₄ g₅ g₆ g₇ : ℕ}
    (bounded : ∀ group ∈ [g₀, g₁, g₂, g₃, g₄, g₅, g₆, g₇], group < 65536) :
    mappedIpv4.contains (ofGroups [g₀, g₁, g₂, g₃, g₄, g₅, g₆, g₇]) ↔
      g₀ = 0 ∧ g₁ = 0 ∧ g₂ = 0 ∧ g₃ = 0 ∧ g₄ = 0 ∧ g₅ = 0xffff := by
  obtain ⟨-, high, -⟩ := ofGroups_ranges bounded
  simp only [List.forall_mem_cons, List.not_mem_nil, false_implies, implies_true, and_true] at bounded
  simp only [Cidr.contains, mappedIpv4, high]
  simp only [ofGroups, List.foldl_cons, List.foldl_nil]
  omega

theorem isBlockedGroups_iff {g₀ g₁ g₂ g₃ g₄ g₅ g₆ g₇ : ℕ}
    (bounded : ∀ group ∈ [g₀, g₁, g₂, g₃, g₄, g₅, g₆, g₇], group < 65536) :
    isBlockedGroups [g₀, g₁, g₂, g₃, g₄, g₅, g₆, g₇] = true ↔
      Reserved (.v6 (ofGroups [g₀, g₁, g₂, g₃, g₄, g₅, g₆, g₇])) := by
  obtain ⟨-, -, low⟩ := ofGroups_ranges bounded
  have small : g₆ < 65536 ∧ g₇ < 65536 := by
    constructor <;> apply bounded <;> simp
  simp only [Reserved, reservedIpv6_iff bounded, mappedIpv4_iff bounded, low]
  by_cases mapped : g₀ = 0 ∧ g₁ = 0 ∧ g₂ = 0 ∧ g₃ = 0 ∧ g₄ = 0 ∧ g₅ = 0xffff
  · obtain ⟨rfl, rfl, rfl, rfl, rfl, rfl⟩ := mapped
    have judged : isBlockedGroups [0, 0, 0, 0, 0, 0xffff, g₆, g₇] =
        isBlockedIpv4 [some (g₆ >>> 8), some (g₆ &&& 0xff), some (g₇ >>> 8), some (g₇ &&& 0xff)] := by
      simp [isBlockedGroups]
    rw [judged, octets_of_groups small]
    simp
  · have judged : isBlockedGroups [g₀, g₁, g₂, g₃, g₄, g₅, g₆, g₇] = true ↔
        (g₀ = 0 ∧ g₁ = 0 ∧ g₂ = 0 ∧ g₃ = 0 ∧ g₄ = 0 ∧ g₅ = 0 ∧ g₆ = 0 ∧ g₇ = 0) ∨
          (g₀ = 0 ∧ g₁ = 0 ∧ g₂ = 0 ∧ g₃ = 0 ∧ g₄ = 0 ∧ g₅ = 0 ∧ g₆ = 0 ∧ g₇ = 1) ∨
            g₀ &&& 0xfe00 = 0xfc00 ∨ g₀ &&& 0xffc0 = 0xfe80 := by
      simp [isBlockedGroups, and_assoc, or_assoc, mapped]
    rw [judged]
    simp only [mapped, false_and, false_or]

/-! ## The texts -/

theorem number_repr (octet : ℕ) : number (Nat.repr octet).toList = some octet := by
  have digits : (Nat.repr octet).toList.all Char.isDigit = true :=
    List.all_eq_true.mpr fun _ => Numbers.Literal.isDigit_digitsOf
  have value : Nat.ofDigitChars 10 (Nat.toDigits 10 octet) 0 = octet := Nat.ofDigitChars_ten_toDigits
  simp only [number, decimal, digits, if_true]
  rw [Nat.ofDigitChars_eq_foldl] at value
  simpa [Nat.mul_comm] using value

theorem number_quad (quad : Quad text a b c d) :
    (text.splitOn '.').map number = [some a, some b, some c, some d] := by
  have apart : ∀ octet ∈ [a, b, c, d].map fun octet => (Nat.repr octet).toList, '.' ∉ octet := by
    simp only [List.map_cons, List.map_nil, List.forall_mem_cons]
    have plain (octet : ℕ) : '.' ∉ (Nat.repr octet).toList := fun there =>
      absurd (Numbers.Literal.isDigit_digitsOf there) (by decide)
    exact ⟨plain a, plain b, plain c, plain d, by simp⟩
  rw [quad.text, List.splitOn_intercalate _ apart (by simp)]
  simp only [List.map_cons, List.map_nil, number_repr]

theorem parseGroup_hex (group : HexGroup text value) : parseGroup text = some [value] := by
  have plain : '.' ∉ text := group.not_mem rfl
  simp [parseGroup, plain, group.nonempty, group.short, group.value]

theorem parseGroup_quad (quad : Quad text a b c d) :
    parseGroup text = some [a * 256 + b, c * 256 + d] := by
  obtain ⟨first, second, third, fourth⟩ := quad.bounds
  have joined {high low : ℕ} (bound : low < 256) : high <<< 8 ||| low = high * 256 + low := by
    have added : high <<< 8 + low = high <<< 8 ||| low := Nat.shiftLeft_add_eq_or_of_lt bound high
    rw [← added, Nat.shiftLeft_eq]
  simp only [parseGroup, quad.dotted, number_quad quad, if_true, joined second, joined fourth]
  rw [if_pos (by omega)]

theorem parseGroups_colons (groups : Groups octets texts values) :
    parseGroups (colons texts) = some values := by
  have parsed : (texts.mapM parseGroup).map List.flatten = some values := by
    induction groups with
    | nil => rfl
    | hex group _ ih =>
      obtain ⟨parts, found, rfl⟩ := Option.map_eq_some_iff.mp ih
      simp [parseGroup_hex group, found]
    | quad quad => simp [parseGroup_quad quad]
  match texts, groups, parsed with
  | [], .nil, _ => rfl
  | text :: texts, groups, parsed =>
    have parts := groups.parts
    have some : colons (text :: texts) ≠ [] := by
      rw [colons_cons]
      simp [(parts text (by simp)).1]
    have apart : (colons (text :: texts)).splitOn ':' = text :: texts :=
      List.splitOn_intercalate ':' (fun part member => (parts part member).2.1) (by simp)
    rw [parseGroups, if_neg some, apart, parsed]

theorem modifyHead_nil_append (pieces : List (List Char)) : pieces.modifyHead ([] ++ ·) = pieces := by
  cases pieces <;> rfl

theorem splitDoubleColon_append {piece : List Char} (plain : ':' ∉ piece) (rest : List Char) :
    splitDoubleColon (piece ++ rest) = (splitDoubleColon rest).modifyHead (piece ++ ·) := by
  induction piece with
  | nil => rw [modifyHead_nil_append, List.nil_append]
  | cons c piece ih =>
    simp only [List.mem_cons, not_or] at plain
    have step : splitDoubleColon (c :: (piece ++ rest)) =
        (splitDoubleColon (piece ++ rest)).modifyHead (c :: ·) := by
      rw [splitDoubleColon]
      simp [Ne.symm plain.1]
    rw [List.cons_append, step, ih plain.2, List.modifyHead_modifyHead]
    rfl

/-- Single colons do not split. -/
theorem splitDoubleColon_colons (parts : ∀ text ∈ texts, text ≠ [] ∧ ':' ∉ text) (rest : List Char) :
    splitDoubleColon (colons texts ++ rest) = (splitDoubleColon rest).modifyHead (colons texts ++ ·) := by
  have single (text : List Char) (part : text ≠ [] ∧ ':' ∉ text) (after : List Char) :
      splitDoubleColon (':' :: (text ++ after)) =
        (splitDoubleColon after).modifyHead fun piece => ':' :: (text ++ piece) := by
    obtain ⟨c, text, rfl⟩ := List.exists_cons_of_ne_nil part.1
    have other : ':' ≠ c := fun same => part.2 (same ▸ List.mem_cons_self)
    have step : splitDoubleColon (':' :: c :: (text ++ after)) =
        (splitDoubleColon (c :: text ++ after)).modifyHead (':' :: ·) := by
      rw [splitDoubleColon]
      · rfl
      · rintro later - same
        cases same
        exact other rfl
    rw [List.cons_append, step, splitDoubleColon_append part.2, List.modifyHead_modifyHead]
    rfl
  have run (texts : List (List Char)) (parts : ∀ text ∈ texts, text ≠ [] ∧ ':' ∉ text) :
      splitDoubleColon (texts.flatMap (':' :: ·) ++ rest) =
        (splitDoubleColon rest).modifyHead (texts.flatMap (':' :: ·) ++ ·) := by
    induction texts with
    | nil => exact (modifyHead_nil_append _).symm
    | cons text texts ih =>
      have now := single text (parts text List.mem_cons_self) (texts.flatMap (':' :: ·) ++ rest)
      rw [ih fun other member => parts other (List.mem_cons_of_mem text member)] at now
      rw [List.flatMap_cons, List.cons_append, List.cons_append, List.append_assoc, now,
        List.modifyHead_modifyHead]
      simp [Function.comp_def]
  cases texts with
  | nil => exact (modifyHead_nil_append _).symm
  | cons text texts =>
    have first := (parts text List.mem_cons_self).2
    rw [colons_cons, List.append_assoc, splitDoubleColon_append first,
      run texts fun other member => parts other (List.mem_cons_of_mem text member),
      List.modifyHead_modifyHead]
    simp [Function.comp_def]

theorem splitDoubleColon_groups (groups : Groups octets texts values) :
    splitDoubleColon (colons texts) = [colons texts] := by
  have split := splitDoubleColon_colons (fun text member => (groups.parts text member).imp_right And.left) []
  simpa [splitDoubleColon] using split

theorem splitDoubleColon_compressed {heads tails : List (List Char)} {head tail : List ℕ}
    (first : Groups false heads head) (last : Groups true tails tail) :
    splitDoubleColon (colons heads ++ ':' :: ':' :: colons tails) = [colons heads, colons tails] := by
  rw [splitDoubleColon_colons fun text member => (first.parts text member).imp_right And.left,
    splitDoubleColon, splitDoubleColon_groups last]
  simp

/-- Whatever the spelling, the groups are those it denotes. -/
theorem expandIpv6_spells (spells : Spells text values) {behind : List Char}
    (zone : behind = [] ∨ ∃ zone, behind = '%' :: zone) : expandIpv6 (text ++ behind) = some values := by
  have addr : (text ++ behind).takeWhile (· ≠ '%') = text := by
    have inside : ∀ c ∈ text, decide (c ≠ '%') = true := fun c member =>
      decide_eq_true fun same => spells.no_zone (same ▸ member)
    rw [List.takeWhile_append_of_pos inside]
    rcases zone with rfl | ⟨zone, rfl⟩ <;> simp
  have length := spells.length
  simp only [expandIpv6, addr]
  cases spells with
  | full groups eight =>
    rw [splitDoubleColon_groups groups]
    simp [parseGroups_colons groups, eight]
  | compressed first last room =>
    rw [splitDoubleColon_compressed first last]
    simp only [parseGroups_colons first, parseGroups_colons last, Option.bind_eq_bind, Option.bind_some]
    rw [if_pos (by omega)]

theorem expandIpv6_denotes (denotes : Denotes text (.v6 value)) :
    ∃ g₀ g₁ g₂ g₃ g₄ g₅ g₆ g₇, expandIpv6 text = some [g₀, g₁, g₂, g₃, g₄, g₅, g₆, g₇] ∧
      (∀ group ∈ [g₀, g₁, g₂, g₃, g₄, g₅, g₆, g₇], group < 65536) ∧
        value = ofGroups [g₀, g₁, g₂, g₃, g₄, g₅, g₆, g₇] := by
  have read {text behind : List Char} {values : List ℕ} (spells : Spells text values)
      (zone : behind = [] ∨ ∃ zone, behind = '%' :: zone) :
      ∃ g₀ g₁ g₂ g₃ g₄ g₅ g₆ g₇, expandIpv6 (text ++ behind) = some [g₀, g₁, g₂, g₃, g₄, g₅, g₆, g₇] ∧
        (∀ group ∈ [g₀, g₁, g₂, g₃, g₄, g₅, g₆, g₇], group < 65536) ∧
          ofGroups values = ofGroups [g₀, g₁, g₂, g₃, g₄, g₅, g₆, g₇] := by
    have expanded := expandIpv6_spells spells zone
    match values, spells.length, spells.bounded, expanded with
    | [g₀, g₁, g₂, g₃, g₄, g₅, g₆, g₇], _, bounded, expanded =>
      exact ⟨g₀, g₁, g₂, g₃, g₄, g₅, g₆, g₇, expanded, bounded, rfl⟩
  cases denotes with
  | v6 spells =>
    have found := read spells (.inl rfl)
    rwa [List.append_nil] at found
  | zoned spells _ _ => exact read spells (.inr ⟨_, rfl⟩)

/-! ## The judgement -/

theorem isBlockedIp_iff {isIP : String → ℕ} (correct : IsIPCorrect isIP) {ip : String}
    {address : Address} (denotes : Denotes ip.toList address) :
    isBlockedIp isIP ip = true ↔ Reserved address := by
  cases address with
  | v4 value =>
    have family := (correct.four ip).mpr ⟨value, denotes⟩
    simp only [isBlockedIp, family, if_true]
    generalize ip.toList = text at denotes
    cases denotes with
    | v4 quad =>
      rw [number_quad quad]
      exact isBlockedIpv4_iff quad.bounds
  | v6 value =>
    have family := (correct.six ip).mpr ⟨value, denotes⟩
    obtain ⟨g₀, g₁, g₂, g₃, g₄, g₅, g₆, g₇, expanded, bounded, rfl⟩ := expandIpv6_denotes denotes
    have blocked : isBlockedIp isIP ip = isBlockedGroups [g₀, g₁, g₂, g₃, g₄, g₅, g₆, g₇] := by
      simp [isBlockedIp, family, expanded]
    rw [blocked, isBlockedGroups_iff bounded]

/-- What is no address is blocked. -/
theorem isBlockedIp_of_not_denotes {isIP : String → ℕ} (correct : IsIPCorrect isIP) {ip : String}
    (none : ∀ address, ¬ Denotes ip.toList address) : isBlockedIp isIP ip = true := by
  have four : isIP ip ≠ 4 := fun family =>
    let ⟨value, denotes⟩ := (correct.four ip).mp family
    none (.v4 value) denotes
  have six : isIP ip ≠ 6 := fun family =>
    let ⟨value, denotes⟩ := (correct.six ip).mp family
    none (.v6 value) denotes
  simp [isBlockedIp, four, six]

/-! ## The request -/

theorem parseTarget_https {parseUrl : String → Option Url} {url hostname : String}
    (target : parseTarget parseUrl url = .ok hostname) :
    ∃ parsed, parseUrl url = some parsed ∧ parsed.protocol = "https:" := by
  unfold parseTarget at target
  split at target
  · cases target
  · rename_i parsed found
    split at target
    · cases target
    · rename_i https
      exact ⟨parsed, found, not_not.mp https⟩

theorem validated_ok {isIP : String → ℕ} {hostname : String} {addresses valid : List LookupAddress}
    (accepted : validated isIP hostname addresses = .ok valid) :
    ∀ entry ∈ valid, isBlockedIp isIP entry.address = false := by
  unfold validated at accepted
  split at accepted
  · cases accepted
  · split at accepted
    · cases accepted
    · rename_i clean
      cases accepted
      intro entry member
      simpa using List.find?_eq_none.mp clean entry member

/-- A request that is sent goes to the URL given, and to addresses that are not blocked. -/
def Guarded (isIP : String → ℕ) (parseUrl : String → Option Url) (url : String) : ClientCall → Prop
  | .resolve _ => True
  | .fetch request =>
      request.url = url ∧ (∃ parsed, parseUrl url = some parsed ∧ parsed.protocol = "https:") ∧
        ∀ all, ∀ entry ∈ request.lookup all, isBlockedIp isIP entry.address = false

theorem SsrfHttpClient.send_guarded {isIP : String → ℕ} {parseUrl : String → Option Url}
    {url : String} (rawBody : String) (headers : List (String × String))
    {addresses : List LookupAddress}
    (https : ∃ parsed, parseUrl url = some parsed ∧ parsed.protocol = "https:")
    (clean : ∀ entry ∈ addresses, isBlockedIp isIP entry.address = false) :
    (SsrfHttpClient.send url rawBody headers addresses).Calls (Guarded isIP parseUrl url) := by
  refine Handler.Calls.tryCatch (calls_perform.mpr ⟨rfl, https, ?_⟩) fun _ => calls_ret _
  intro all entry member
  apply clean
  cases all
  · exact List.mem_of_mem_head? (Option.mem_toList.mp member)
  · exact member

theorem resolveAndValidate_guarded {isIP : String → ℕ} {parseUrl : String → Option Url}
    {url hostname : String}
    {rest : Except SsrfHttpResult (List LookupAddress) → Handler client String SsrfHttpResult}
    (more : ∀ result, (∀ valid, result = .ok valid → ∀ entry ∈ valid,
      isBlockedIp isIP entry.address = false) → (rest result).Calls (Guarded isIP parseUrl url)) :
    ((resolveAndValidate isIP hostname).bind rest).Calls (Guarded isIP parseUrl url) := by
  have checked (addresses : List LookupAddress) :
      (rest (validated isIP hostname addresses)).Calls (Guarded isIP parseUrl url) :=
    more _ fun valid accepted => validated_ok accepted
  unfold resolveAndValidate
  split
  · exact checked _
  · constructor
    · trivial
    · rintro (_ | addresses)
      · apply more
        rintro valid ⟨⟩
      · exact checked addresses

theorem SsrfHttpClient.post_guarded (isIP : String → ℕ) (parseUrl : String → Option Url)
    (url rawBody : String) (headers : List (String × String)) :
    (SsrfHttpClient.post isIP parseUrl url rawBody headers).Calls (Guarded isIP parseUrl url) := by
  unfold SsrfHttpClient.post
  split
  · exact calls_ret _
  · rename_i hostname target
    have https := parseTarget_https target
    refine resolveAndValidate_guarded fun result valid => ?_
    cases result with
    | error result => exact calls_ret _
    | ok addresses => exact send_guarded rawBody headers https (valid addresses rfl)

/-- A request is sent over https only and to addresses that are not blocked.  Blocked are,
in every spelling, the addresses of the reserved blocks, and what is no address. -/
theorem SsrfHttpClient.post_avoids_reserved {isIP : String → ℕ} (correct : IsIPCorrect isIP)
    (parseUrl : String → Option Url) (url rawBody : String) (headers : List (String × String)) :
    (SsrfHttpClient.post isIP parseUrl url rawBody headers).Calls (Guarded isIP parseUrl url) ∧
      (∀ ip address, Denotes ip.toList address →
        (isBlockedIp isIP ip = true ↔ Reserved address)) ∧
      ∀ ip : String, (∀ address, ¬ Denotes ip.toList address) → isBlockedIp isIP ip = true :=
  ⟨SsrfHttpClient.post_guarded isIP parseUrl url rawBody headers,
    fun _ _ denotes => isBlockedIp_iff correct denotes,
    fun _ none => isBlockedIp_of_not_denotes correct none⟩

open Classical in
/-- `net.isIP`, of which only the outcome is known. -/
noncomputable def netIsIP (text : String) : ℕ :=
  if ∃ value, Denotes text.toList (.v4 value) then 4
  else if ∃ value, Denotes text.toList (.v6 value) then 6
  else 0

theorem netIsIP_correct : IsIPCorrect netIsIP where
  four text := by
    unfold netIsIP
    by_cases four : ∃ value, Denotes text.toList (.v4 value)
    · simp [four]
    · rw [if_neg four]
      split <;> simp [four]
  six text := by
    unfold netIsIP
    by_cases four : ∃ value, Denotes text.toList (.v4 value)
    · obtain ⟨value, denotes⟩ := four
      rw [if_pos ⟨value, denotes⟩]
      simp [denotes.apart]
    · rw [if_neg four]
      split <;> rename_i six <;> simp [six]

theorem mapped_spelling : Denotes "::FFFF:10.0.0.1%eth0".toList (.v6 0xffff0a000001) := by
  have group : HexGroup "FFFF".toList 0xffff := ⟨by decide, by decide, rfl⟩
  have quad : Quad "10.0.0.1".toList 10 0 0 1 := ⟨by decide, by decide⟩
  have spells := Spells.compressed Groups.nil (.hex group (.quad quad)) (by decide)
  exact Denotes.zoned spells (by decide : "eth0".toList ≠ []) (by decide)

theorem post_avoids_reserved_mapped : isBlockedIp netIsIP "::FFFF:10.0.0.1%eth0" = true := by
  have ⟨_, judged, _⟩ := SsrfHttpClient.post_avoids_reserved netIsIP_correct (fun _ => none)
    "https://[::ffff:10.0.0.1]/" "" []
  refine (judged _ _ mapped_spelling).mpr (.inl ⟨?_, ?_⟩)
  · decide +kernel
  · exact ⟨⟨ofOctets 10 0 0 0, 8⟩, by simp [reservedIpv4], by decide +kernel⟩

end ParentalCoord.Webhooks
