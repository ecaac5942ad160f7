import Mathlib.Algebra.Order.Group.Nat
import Mathlib.Data.List.Induction
import Mathlib.Tactic.Linarith
import Mathlib.Tactic.Ring
import ParentalCoord.Numbers.Decimals

/-!
IP addresses: the texts that denote one, and blocks of them.

An address is a number.  `Denotes` is the grammar of the texts, and says which number
each of them stands for: four decimal octets, or eight groups of hexadecimal digits, of
which a run may be left out and the last two be written as octets, with a zone behind.
-/

namespace Net

open Numbers.Literal (isDigit_digitsOf)

inductive Address where
  | v4 (value : ℕ)
  | v6 (value : ℕ)
  deriving DecidableEq

/-- The addresses of so many bits that begin as the network does. -/
structure Cidr (bits : ℕ) where
  network : ℕ
  length : ℕ

def Cidr.contains {bits : ℕ} (block : Cidr bits) (address : ℕ) : Prop :=
  address / 2 ^ (bits - block.length) = block.network / 2 ^ (bits - block.length)

instance {bits : ℕ} (block : Cidr bits) (address : ℕ) : Decidable (block.contains address) :=
  inferInstanceAs (Decidable (_ = _))

/-- The number of four octets. -/
def ofOctets (a b c d : ℕ) : ℕ := ((a * 256 + b) * 256 + c) * 256 + d

/-- The number of groups of sixteen bits. -/
def ofGroups (groups : List ℕ) : ℕ := groups.foldl (fun value group => value * 65536 + group) 0

theorem ofGroups_append (head tail : List ℕ) :
    ofGroups (head ++ tail) = ofGroups head * 65536 ^ tail.length + ofGroups tail := by
  induction tail using List.reverseRecOn with
  | nil => simp [ofGroups]
  | append_singleton tail group ih =>
    have last (groups : List ℕ) : ofGroups (groups ++ [group]) = ofGroups groups * 65536 + group := by
      simp [ofGroups]
    rw [← List.append_assoc, last, last, ih, List.length_append, List.length_singleton, pow_succ]
    ring

theorem ofGroups_lt {groups : List ℕ} (bounded : ∀ group ∈ groups, group < 65536) :
    ofGroups groups < 65536 ^ groups.length := by
  induction groups with
  | nil => simp [ofGroups]
  | cons group groups ih =>
    have later := ih fun other member => bounded other (List.mem_cons_of_mem group member)
    have now := bounded group List.mem_cons_self
    have split := ofGroups_append [group] groups
    rw [List.singleton_append] at split
    rw [split, List.length_cons, pow_succ]
    have single : ofGroups [group] = group := by simp [ofGroups]
    rw [single]
    nlinarith

/-- The higher groups of an address. -/
theorem ofGroups_append_div (head : List ℕ) {tail : List ℕ} (bounded : ∀ group ∈ tail, group < 65536) :
    ofGroups (head ++ tail) / 65536 ^ tail.length = ofGroups head := by
  rw [ofGroups_append, Nat.add_comm, Nat.add_mul_div_right _ _ (by positivity),
    Nat.div_eq_of_lt (ofGroups_lt bounded), Nat.zero_add]

/-- The lower groups of an address. -/
theorem ofGroups_append_mod (head : List ℕ) {tail : List ℕ} (bounded : ∀ group ∈ tail, group < 65536) :
    ofGroups (head ++ tail) % 65536 ^ tail.length = ofGroups tail := by
  rw [ofGroups_append, Nat.mul_add_mod_self_right, Nat.mod_eq_of_lt (ofGroups_lt bounded)]

/-- A mask that keeps some bits above the others compares just these. -/
theorem and_mask_eq_iff {value low width bits : ℕ} :
    value &&& (2 ^ width - 1) * 2 ^ low = bits * 2 ^ low ↔ value / 2 ^ low % 2 ^ width = bits := by
  have split : value &&& (2 ^ width - 1) * 2 ^ low = value / 2 ^ low % 2 ^ width * 2 ^ low := by
    apply Nat.eq_of_testBit_eq
    intro i
    simp only [Nat.testBit_and, Nat.testBit_mul_two_pow, Nat.testBit_two_pow_sub_one,
      Nat.testBit_mod_two_pow, Nat.testBit_div_two_pow]
    by_cases above : low ≤ i
    · simp [above, Bool.and_comm]
    · simp [above]
  rw [split, Nat.mul_left_inj (Nat.two_pow_pos low).ne']

/-! ## Texts -/

def hexValue (c : Char) : Option ℕ :=
  if '0' ≤ c ∧ c ≤ '9' then some (c.toNat - 48)
  else if 'a' ≤ c ∧ c ≤ 'f' then some (c.toNat - 87)
  else if 'A' ≤ c ∧ c ≤ 'F' then some (c.toNat - 55)
  else none

/-- The value of hexadecimal digits, the first of them the highest. -/
def ofHex (text : List Char) : Option ℕ :=
  text.foldlM (fun value c => (hexValue c).map (value * 16 + ·)) 0

/-- One to four hexadecimal digits. -/
structure HexGroup (text : List Char) (value : ℕ) : Prop where
  nonempty : 1 ≤ text.length
  short : text.length ≤ 4
  value : ofHex text = some value

/-- Four decimal octets without leading zeros. -/
structure Quad (text : List Char) (a b c d : ℕ) : Prop where
  bounds : a < 256 ∧ b < 256 ∧ c < 256 ∧ d < 256
  text : text = ['.'].intercalate ([a, b, c, d].map fun octet => (Nat.repr octet).toList)

/-- The groups of some texts; the last text may be the octets of two groups. -/
inductive Groups : Bool → List (List Char) → List ℕ → Prop where
  | nil {octets : Bool} : Groups octets [] []
  | hex {octets : Bool} {text : List Char} {value : ℕ} {texts : List (List Char)} {values : List ℕ} :
      HexGroup text value → Groups octets texts values → Groups octets (text :: texts) (value :: values)
  | quad {text : List Char} {a b c d : ℕ} :
      Quad text a b c d → Groups true [text] [a * 256 + b, c * 256 + d]

/-- Texts with colons between them. -/
def colons (texts : List (List Char)) : List Char := [':'].intercalate texts

theorem colons_cons (text : List Char) (texts : List (List Char)) :
    colons (text :: texts) = text ++ texts.flatMap (':' :: ·) := by
  induction texts generalizing text with
  | nil => simp [colons]
  | cons next texts ih =>
    have joined : colons (text :: next :: texts) = text ++ ':' :: colons (next :: texts) := by
      simp [colons, List.intercalate]
    rw [joined, ih]
    simp

/-- Eight groups, or fewer around two colons that stand for the zeros left out. -/
inductive Spells : List Char → List ℕ → Prop where
  | full {texts : List (List Char)} {values : List ℕ} :
      Groups true texts values → values.length = 8 → Spells (colons texts) values
  | compressed {heads tails : List (List Char)} {head tail : List ℕ} :
      Groups false heads head → Groups true tails tail → head.length + tail.length ≤ 7 →
      Spells (colons heads ++ ':' :: ':' :: colons tails)
        (head ++ List.replicate (8 - head.length - tail.length) 0 ++ tail)

def isZoneChar (c : Char) : Bool :=
  ('0' ≤ c && c ≤ '9') || ('a' ≤ c && c ≤ 'z') || ('A' ≤ c && c ≤ 'Z') || c ∈ ['-', '.', ':']

inductive Denotes : List Char → Address → Prop where
  | v4 {text : List Char} {a b c d : ℕ} : Quad text a b c d → Denotes text (.v4 (ofOctets a b c d))
  | v6 {text : List Char} {values : List ℕ} :
      Spells text values → Denotes text (.v6 (ofGroups values))
  | zoned {text zone : List Char} {values : List ℕ} :
      Spells text values → zone ≠ [] → zone.all isZoneChar →
      Denotes (text ++ '%' :: zone) (.v6 (ofGroups values))

/-! ## What the parts are made of -/

variable {text : List Char} {texts : List (List Char)} {value a b c d : ℕ} {values : List ℕ}
  {octets : Bool}

theorem ofHex_append (text : List Char) (c : Char) :
    ofHex (text ++ [c]) = (ofHex text).bind fun value => (hexValue c).map (value * 16 + ·) := by
  simp [ofHex, List.foldlM_append]

theorem hexValue_lt {c : Char} (digit : hexValue c = some value) : value < 16 := by
  unfold hexValue at digit
  split at digit
  · rename_i range
    cases digit
    have upper : c.toNat ≤ '9'.toNat := range.2
    change c.toNat - 48 < 16
    have top : '9'.toNat = 57 := rfl
    omega
  · split at digit
    · rename_i range
      cases digit
      have upper : c.toNat ≤ 'f'.toNat := range.2
      have top : 'f'.toNat = 102 := rfl
      omega
    · split at digit
      · rename_i range
        cases digit
        have upper : c.toNat ≤ 'F'.toNat := range.2
        have top : 'F'.toNat = 70 := rfl
        omega
      · cases digit

/-- Digits, and not more than they have room for. -/
theorem ofHex_spec (read : ofHex text = some value) :
    (∀ c ∈ text, (hexValue c).isSome) ∧ value < 16 ^ text.length := by
  induction text using List.reverseRecOn generalizing value with
  | nil =>
    cases read
    exact ⟨by simp, by simp⟩
  | append_singleton text c ih =>
    rw [ofHex_append] at read
    obtain ⟨before, first, last⟩ := Option.bind_eq_some_iff.mp read
    obtain ⟨digit, known, rfl⟩ := Option.map_eq_some_iff.mp last
    obtain ⟨digits, bound⟩ := ih first
    have small := hexValue_lt known
    refine ⟨fun other member => ?_, ?_⟩
    · rcases List.mem_append.mp member with old | new
      · exact digits other old
      · rw [List.mem_singleton] at new
        rw [new, known]
        rfl
    · rw [List.length_append, List.length_singleton, pow_succ]
      omega

theorem HexGroup.lt (group : HexGroup text value) : value < 65536 :=
  lt_of_lt_of_le (ofHex_spec group.value).2
    (Nat.pow_le_pow_right (by decide) group.short : 16 ^ text.length ≤ 16 ^ 4)

/-- A character that is no digit is not in a group of digits. -/
theorem HexGroup.not_mem (group : HexGroup text value) {other : Char} (outside : hexValue other = none) :
    other ∉ text := by
  intro member
  have digit := (ofHex_spec group.value).1 other member
  rw [outside] at digit
  cases digit

theorem Quad.eq (quad : Quad text a b c d) : text = (Nat.repr a).toList ++ '.' ::
    ((Nat.repr b).toList ++ '.' :: ((Nat.repr c).toList ++ '.' :: (Nat.repr d).toList)) := by
  rw [quad.text]
  simp [List.intercalate]

theorem Quad.chars (quad : Quad text a b c d) :
    ∀ other ∈ text, other.isDigit = true ∨ other = '.' := by
  intro other member
  rw [quad.eq] at member
  simp only [List.mem_append, List.mem_cons] at member
  rcases member with digit | rfl | digit | rfl | digit | rfl | digit
  · exact .inl (isDigit_digitsOf digit)
  · exact .inr rfl
  · exact .inl (isDigit_digitsOf digit)
  · exact .inr rfl
  · exact .inl (isDigit_digitsOf digit)
  · exact .inr rfl
  · exact .inl (isDigit_digitsOf digit)

theorem Quad.dotted (quad : Quad text a b c d) : '.' ∈ text := by
  rw [quad.eq]
  simp

/-- Where the texts of groups are not empty and have no colon, two colons stand out. -/
theorem Groups.parts (groups : Groups octets texts values) :
    ∀ text ∈ texts, text ≠ [] ∧ ':' ∉ text ∧ '%' ∉ text := by
  induction groups with
  | nil => simp
  | @hex _ text value texts values group _ ih =>
    intro other member
    rcases List.mem_cons.mp member with rfl | later
    · refine ⟨?_, group.not_mem rfl, group.not_mem rfl⟩
      rintro rfl
      exact absurd group.nonempty (by simp)
    · exact ih other later
  | @quad text a b c d quad =>
    intro other member
    rw [List.mem_singleton] at member
    subst member
    refine ⟨List.ne_nil_of_mem quad.dotted, fun there => ?_, fun there => ?_⟩ <;>
      rcases quad.chars _ there with digit | same <;> simp_all

theorem Groups.no_zone (groups : Groups octets texts values) : '%' ∉ colons texts := by
  match texts, groups.parts with
  | [], _ => simp [colons]
  | text :: texts, parts =>
    rw [colons_cons]
    simp only [List.mem_append, List.mem_flatMap, List.mem_cons, not_or, not_exists, not_and]
    exact ⟨(parts text (by simp)).2.2, fun other member =>
      ⟨by decide, (parts other (by simp [member])).2.2⟩⟩

theorem Spells.no_zone (spells : Spells text values) : '%' ∉ text := by
  cases spells with
  | full groups _ => exact groups.no_zone
  | compressed heads tails _ => simp [heads.no_zone, tails.no_zone]

theorem Groups.bounded (groups : Groups octets texts values) : ∀ value ∈ values, value < 65536 := by
  induction groups with
  | nil => simp
  | hex group _ ih =>
    intro other member
    rcases List.mem_cons.mp member with rfl | later
    · exact group.lt
    · exact ih other later
  | quad quad =>
    obtain ⟨⟨_, _, _, _⟩, -⟩ := quad
    intro other member
    simp only [List.mem_cons, List.not_mem_nil, or_false] at member
    rcases member with rfl | rfl <;> omega

theorem Spells.bounded (spells : Spells text values) : ∀ value ∈ values, value < 65536 := by
  cases spells with
  | full groups _ => exact groups.bounded
  | compressed heads tails _ =>
    intro value member
    simp only [List.mem_append, List.mem_replicate] at member
    rcases member with (first | ⟨-, rfl⟩) | last
    · exact heads.bounded value first
    · decide
    · exact tails.bounded value last

theorem Spells.length (spells : Spells text values) : values.length = 8 := by
  cases spells with
  | full _ eight => exact eight
  | compressed _ _ room =>
    simp only [List.length_append, List.length_replicate]
    omega

theorem Quad.no_colon (quad : Quad text a b c d) : ':' ∉ text := by
  intro there
  rcases quad.chars ':' there with digit | same
  · exact absurd digit (by decide)
  · exact absurd same (by decide)

/-- The texts of IPv6 have a colon. -/
theorem Spells.colon (spells : Spells text values) : ':' ∈ text := by
  cases spells with
  | compressed _ _ _ => simp
  | @full texts _ groups eight =>
    cases groups with
    | nil => cases eight
    | quad _ => cases eight
    | @hex _ text _ rest _ _ later =>
      cases later with
      | nil => cases eight
      | quad _ => simp [colons_cons]
      | hex _ _ => simp [colons_cons]

/-- No text is of both families. -/
theorem Denotes.apart (four : Denotes text (.v4 a)) : ¬ Denotes text (.v6 b) := by
  cases four with
  | v4 quad =>
    intro six
    cases six with
    | v6 spells => exact quad.no_colon spells.colon
    | zoned spells _ _ => exact quad.no_colon (List.mem_append_left _ spells.colon)

end Net
