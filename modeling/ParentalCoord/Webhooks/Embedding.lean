import ParentalCoord.Webhooks.PublicAddress

/-!
IPv4 addresses inside IPv6, as the HTTP client of the deliveries judges them.

An address of IPv4 can stand in the last two groups of three kinds of IPv6 address.  The
client takes one of the kinds for the address of IPv4 inside; the others it judges by the
blocks of IPv6 alone.
-/

namespace ParentalCoord.Webhooks

open Net

variable {isIP : String → ℕ} {ip : String} {a b c d : ℕ}

/-- How an address of IPv6 holds one of IPv4. -/
inductive Embedding where
  /-- `::ffff:v`. -/
  | mapped
  /-- `::v`. -/
  | compatible
  /-- `64:ff9b::v`. -/
  | nat64
  deriving DecidableEq

/-- The six groups before the address of IPv4. -/
def Embedding.lead : Embedding → List ℕ
  | .mapped => [0, 0, 0, 0, 0, 0xffff]
  | .compatible => [0, 0, 0, 0, 0, 0]
  | .nat64 => [0x64, 0xff9b, 0, 0, 0, 0]

/-- The address of IPv6 that holds the four octets. -/
def Embedding.embed (embedding : Embedding) (a b c d : ℕ) : Address :=
  .v6 (ofGroups (embedding.lead ++ [a * 256 + b, c * 256 + d]))

/-- The octets are those of an address of IPv4 that is blocked. -/
structure BlockedOctets (a b c d : ℕ) : Prop where
  bounds : a < 256 ∧ b < 256 ∧ c < 256 ∧ d < 256
  blocked : isBlockedIpv4 [some a, some b, some c, some d] = true

/-- The groups of an embedded address fit, and their last two hold the octets. -/
theorem Embedding.bounded (embedding : Embedding) (bounds : a < 256 ∧ b < 256 ∧ c < 256 ∧ d < 256) :
    ∀ group ∈ embedding.lead ++ [a * 256 + b, c * 256 + d], group < 65536 := by
  intro group member
  rcases List.mem_append.mp member with first | last
  · cases embedding <;> simp only [Embedding.lead, List.mem_cons, List.not_mem_nil, or_false] at first <;>
      omega
  · simp only [List.mem_cons, List.not_mem_nil, or_false] at last
    omega

/-- The judgement of an embedded address, whatever its spelling, is that of its groups. -/
theorem isBlockedIp_embed (correct : IsIPCorrect isIP) {embedding : Embedding}
    (bounds : a < 256 ∧ b < 256 ∧ c < 256 ∧ d < 256)
    (denotes : Denotes ip.toList (embedding.embed a b c d)) :
    isBlockedIp isIP ip = isBlockedGroups (embedding.lead ++ [a * 256 + b, c * 256 + d]) := by
  have fits := embedding.bounded bounds
  rw [Bool.eq_iff_iff, isBlockedIp_iff correct denotes, Embedding.embed]
  cases embedding with
  | mapped => exact (isBlockedGroups_iff fits).symm
  | compatible => exact (isBlockedGroups_iff fits).symm
  | nat64 => exact (isBlockedGroups_iff fits).symm

theorem blocked_mapped (octets : BlockedOctets a b c d) :
    isBlockedGroups (Embedding.mapped.lead ++ [a * 256 + b, c * 256 + d]) = true := by
  obtain ⟨⟨_, _, _, _⟩, blocked⟩ := octets
  have judged : isBlockedGroups (Embedding.mapped.lead ++ [a * 256 + b, c * 256 + d]) =
      isBlockedIpv4 [some ((a * 256 + b) >>> 8), some ((a * 256 + b) &&& 0xff),
        some ((c * 256 + d) >>> 8), some ((c * 256 + d) &&& 0xff)] := by
    simp [isBlockedGroups, Embedding.lead]
  have high {first second : ℕ} (bound : second < 256) : (first * 256 + second) >>> 8 = first := by
    rw [Nat.shiftRight_eq_div_pow]
    omega
  have low {first second : ℕ} (bound : second < 256) : (first * 256 + second) &&& 0xff = second := by
    have masked : (first * 256 + second) &&& 0xff = (first * 256 + second) % 256 :=
      Nat.and_two_pow_sub_one_eq_mod _ 8
    rw [masked]
    omega
  rw [judged, high, low, high, low] <;> assumption

theorem blocked_compatible (bounds : a < 256 ∧ b < 256 ∧ c < 256 ∧ d < 256) :
    isBlockedGroups (Embedding.compatible.lead ++ [a * 256 + b, c * 256 + d]) = true ↔
      a = 0 ∧ b = 0 ∧ c = 0 ∧ d ≤ 1 := by
  obtain ⟨_, _, _, _⟩ := bounds
  simp only [isBlockedGroups, Embedding.lead, List.cons_append, List.nil_append, List.take_succ_cons,
    List.take_zero, List.all_cons, List.all_nil, List.getD_cons_zero, List.getD_cons_succ]
  simp
  omega

theorem blocked_nat64 : isBlockedGroups (Embedding.nat64.lead ++ [a * 256 + b, c * 256 + d]) = false := by
  simp [isBlockedGroups, Embedding.lead]

/-- A blocked address of IPv4 stays blocked as a mapped one, however it is spelled.  As a compatible
one only the unspecified and the loopback address of IPv6 are, and as one of NAT64 none is. -/
theorem blocked_embedded (correct : IsIPCorrect isIP) (octets : BlockedOctets a b c d) :
    (Denotes ip.toList (Embedding.mapped.embed a b c d) → isBlockedIp isIP ip = true) ∧
    (Denotes ip.toList (Embedding.compatible.embed a b c d) →
      (isBlockedIp isIP ip = true ↔ a = 0 ∧ b = 0 ∧ c = 0 ∧ d ≤ 1)) ∧
    (Denotes ip.toList (Embedding.nat64.embed a b c d) → isBlockedIp isIP ip = false) := by
  refine ⟨fun denotes => ?_, fun denotes => ?_, fun denotes => ?_⟩
  · rw [isBlockedIp_embed correct octets.bounds denotes]
    exact blocked_mapped octets
  · rw [isBlockedIp_embed correct octets.bounds denotes]
    exact blocked_compatible octets.bounds
  · rw [isBlockedIp_embed correct octets.bounds denotes]
    exact blocked_nat64

theorem private_octets : BlockedOctets 10 0 0 1 := ⟨by decide, by decide⟩

theorem private_mapped : Denotes "::ffff:10.0.0.1".toList (Embedding.mapped.embed 10 0 0 1) := by
  have group : HexGroup "ffff".toList 0xffff := ⟨by decide, by decide, rfl⟩
  have quad : Quad "10.0.0.1".toList 10 0 0 1 := ⟨by decide, by decide⟩
  exact .v6 (.compressed .nil (.hex group (.quad quad)) (by decide))

theorem private_nat64 : Denotes "64:ff9b::a00:1".toList (Embedding.nat64.embed 10 0 0 1) := by
  have first : HexGroup "64".toList 0x64 := ⟨by decide, by decide, rfl⟩
  have second : HexGroup "ff9b".toList 0xff9b := ⟨by decide, by decide, rfl⟩
  have third : HexGroup "a00".toList 0xa00 := ⟨by decide, by decide, rfl⟩
  have fourth : HexGroup "1".toList 1 := ⟨by decide, by decide, rfl⟩
  exact .v6 (.compressed (.hex first (.hex second .nil)) (.hex third (.hex fourth .nil)) (by decide))

theorem blocked_embedded_private : isBlockedIp netIsIP "::ffff:10.0.0.1" = true :=
  (blocked_embedded netIsIP_correct private_octets).1 private_mapped

/-- `10.0.0.1` is blocked, and its NAT64 address is not. -/
theorem private_reached : ¬ ∀ (embedding : Embedding) (a b c d : ℕ) (ip : String),
    BlockedOctets a b c d → Denotes ip.toList (embedding.embed a b c d) →
      isBlockedIp netIsIP ip = true := by
  intro all
  have blocked := all .nat64 10 0 0 1 "64:ff9b::a00:1" private_octets private_nat64
  rw [isBlockedIp_embed netIsIP_correct private_octets.bounds private_nat64, blocked_nat64] at blocked
  cases blocked

end ParentalCoord.Webhooks
