import ParentalCoord.Base64
import ParentalCoord.Webhooks.Service

/-!
The cipher of the secrets that are stored.

What is encrypted can be decrypted.  The other way around, a text is decrypted when the tag in it
begins the tag of its ciphertext, and `setAuthTag` takes tags that are shorter than the whole.
-/

namespace ParentalCoord.Webhooks.SecretCipherService

abbrev Bytes := List UInt8

/-- The version of the format `v1:iv:tag:ct`. -/
def FORMAT_VERSION : String := "v1"
def IV_BYTES : ℕ := 12
def KEY_BYTES : ℕ := 32

/-- What `Buffer` and `node:crypto` do. -/
structure Platform where
  /-- `buffer.toString('base64')`. -/
  toBase64 : Bytes → String
  /-- `Buffer.from(text, 'base64')`. -/
  fromBase64 : String → Bytes
  /-- `buffer.toString('utf8')`. -/
  toText : Bytes → String
  /-- The initialization vectors that `createCipheriv` and `createDecipheriv` take. -/
  acceptsIv : Bytes → Bool
  /-- AES-256-GCM, by the key and the vector. -/
  cipher : Bytes → Bytes → Bytes → Bytes
  decipher : Bytes → Bytes → Bytes → Bytes
  /-- The whole tag of a ciphertext, by the key and the vector. -/
  authTag : Bytes → Bytes → Bytes → Bytes

def utf8 (text : String) : Bytes := text.toByteArray.data.toList

/-- What is relied on. -/
structure Platform.Lawful (platform : Platform) : Prop where
  colon_free : ∀ data, ':' ∉ (platform.toBase64 data).toList
  fromBase64_toBase64 : ∀ data, platform.fromBase64 (platform.toBase64 data) = data
  toText_utf8 : ∀ text, platform.toText (utf8 text) = text
  acceptsIv_standard : ∀ iv, iv.length = IV_BYTES → platform.acceptsIv iv
  decipher_cipher : ∀ key iv plaintext, platform.decipher key iv (platform.cipher key iv plaintext) = plaintext
  length_authTag : ∀ key iv ciphertext, (platform.authTag key iv ciphertext).length = 16

/-- `text.split(':')`. -/
def split (text : String) : List String := (text.toList.splitOn ':').map String.ofList

/-- `parts.join(':')`. -/
def join (parts : List String) : String := String.ofList ([':'].intercalate (parts.map String.toList))

/-! ## The service -/

/-- `secret-cipher.service.ts::getKey`: the key that is configured, of the right length. -/
def getKey (platform : Platform) (masterKey : Option String) : Except Exception Bytes := do
  match masterKey.filter truthy with
  | none =>
    throw (.error
      "WEBHOOK_SECRET_MASTER_KEY is not configured — cannot encrypt/decrypt webhook secrets")
  | some masterKey =>
    let key := platform.fromBase64 masterKey
    if key.length ≠ KEY_BYTES then
      throw (.error ("WEBHOOK_SECRET_MASTER_KEY must be base64-encoded 32 bytes (got " ++
        Nat.repr key.length ++ " bytes)"))
    else return key

/-- `secret-cipher.service.ts::encrypt`: the serialized secret, with the vector that was drawn. -/
def encrypt (platform : Platform) (masterKey : Option String) (iv : Bytes) (plaintext : String) :
    Except Exception String := do
  let key ← getKey platform masterKey
  if !platform.acceptsIv iv then throw .fault
  else
    let ciphertext := platform.cipher key iv (utf8 plaintext)
    let tag := platform.authTag key iv ciphertext
    return join [FORMAT_VERSION, platform.toBase64 iv, platform.toBase64 tag, platform.toBase64 ciphertext]

/-- The lengths of a tag that `setAuthTag` takes. -/
def tagLengths : List ℕ := [4, 8, 12, 13, 14, 15, 16]

/-- `createDecipheriv`, `setAuthTag`, `update` and `final`: the tag is compared as far as it goes. -/
def decipherVerified (platform : Platform) (key iv tag ciphertext : Bytes) : Except Exception Bytes :=
  if !platform.acceptsIv iv then throw .fault
  else if tag.length ∉ tagLengths then throw .fault
  else if tag ≠ (platform.authTag key iv ciphertext).take tag.length then throw .fault
  else return platform.decipher key iv ciphertext

/-- `secret-cipher.service.ts::decrypt`: the plaintext of a serialized secret, whose tag is
verified. -/
def decrypt (platform : Platform) (masterKey : Option String) (stored : String) :
    Except Exception String := do
  let key ← getKey platform masterKey
  match split stored with
  | [version, ivB64, tagB64, ciphertextB64] =>
    if version ≠ FORMAT_VERSION then
      throw (.error ("Unsupported encrypted secret format version: \"" ++ version ++ "\""))
    else
      let plaintext ← decipherVerified platform key (platform.fromBase64 ivB64)
        (platform.fromBase64 tagB64) (platform.fromBase64 ciphertextB64)
      return platform.toText plaintext
  | _ => throw (.error "Malformed encrypted secret: expected 4 colon-separated parts")

variable {platform : Platform} {masterKey : Option String} {key : Bytes} {stored plaintext : String}

/-! ## The fields of a text -/

theorem not_mem_of_mem_splitOn {sep : Char} {chars part : List Char} (member : part ∈ chars.splitOn sep) :
    sep ∉ part := by
  induction chars generalizing part with
  | nil =>
    rw [List.splitOn_nil, List.mem_singleton] at member
    exact member ▸ List.not_mem_nil
  | cons c rest ih =>
    rw [List.splitOn_cons_eq_if_modifyHead] at member
    by_cases same : c = sep
    · rw [if_pos (beq_iff_eq.mpr same)] at member
      rcases List.mem_cons.mp member with rfl | later
      · exact List.not_mem_nil
      · exact ih later
    · rw [if_neg (mt beq_iff_eq.mp same)] at member
      obtain ⟨first, others, parts⟩ := List.exists_cons_of_ne_nil (List.splitOn_ne_nil sep rest)
      rw [parts] at ih member
      rcases List.mem_cons.mp member with rfl | later
      · exact fun there => (List.mem_cons.mp there).elim (Ne.symm same) (ih List.mem_cons_self)
      · exact ih (List.mem_cons_of_mem _ later)

/-- `v1:<iv>:<tag>:<ct>`, with fields that hold no colon. -/
structure Fields (stored iv tag ciphertext : String) : Prop where
  text : stored = join [FORMAT_VERSION, iv, tag, ciphertext]
  plain : ∀ field ∈ [iv, tag, ciphertext], ':' ∉ field.toList

theorem join_split (text : String) : join (split text) = text := by
  have lists : (split text).map String.toList = text.toList.splitOn ':' := by
    simp [split, Function.comp_def]
  rw [join, lists, List.intercalate_splitOn, String.ofList_toList]

theorem split_join {parts : List String} (some_ : parts ≠ []) (plain : ∀ part ∈ parts, ':' ∉ part.toList) :
    split (join parts) = parts := by
  have lists : ∀ chars ∈ parts.map String.toList, ':' ∉ chars := by
    intro chars member
    obtain ⟨part, there, rfl⟩ := List.mem_map.mp member
    exact plain part there
  rw [split, join, String.toList_ofList, List.splitOn_intercalate ':' lists (by simpa using some_)]
  simp [Function.comp_def]

theorem split_eq_iff {iv tag ciphertext : String} :
    split stored = [FORMAT_VERSION, iv, tag, ciphertext] ↔ Fields stored iv tag ciphertext := by
  constructor
  · intro parts
    refine ⟨by rw [← parts, join_split], fun field member => ?_⟩
    have there : field ∈ split stored := parts ▸ List.mem_cons_of_mem _ member
    obtain ⟨chars, part, rfl⟩ := List.mem_map.mp there
    rw [String.toList_ofList]
    exact not_mem_of_mem_splitOn part
  · rintro ⟨rfl, plain⟩
    refine split_join (List.cons_ne_nil _ _) fun part member => ?_
    rcases List.mem_cons.mp member with rfl | field
    · decide
    · exact plain part field

/-! ## What is decrypted -/

/-- The vector is accepted, and the tag begins the whole one in one of the lengths. -/
structure Admitted (platform : Platform) (key iv tag ciphertext : Bytes) : Prop where
  accepted : platform.acceptsIv iv
  length : tag.length ∈ tagLengths
  begins : tag = (platform.authTag key iv ciphertext).take tag.length

theorem decipherVerified_ok_iff {iv tag ciphertext data : Bytes} :
    decipherVerified platform key iv tag ciphertext = .ok data ↔
      Admitted platform key iv tag ciphertext ∧ data = platform.decipher key iv ciphertext := by
  unfold decipherVerified
  constructor
  · intro done
    split at done
    · cases done
    · split at done
      · cases done
      · split at done
        · cases done
        · rename_i accepted length begins
          cases done
          exact ⟨⟨by simpa using accepted, not_not.mp length, not_not.mp begins⟩, rfl⟩
  · rintro ⟨⟨accepted, length, begins⟩, rfl⟩
    rw [if_neg (by simp [accepted]), if_neg (not_not.mpr length), if_neg (not_not.mpr begins)]
    rfl

theorem decrypt_ok_iff (valid : getKey platform masterKey = .ok key) :
    decrypt platform masterKey stored = .ok plaintext ↔ ∃ iv tag ciphertext, Fields stored iv tag ciphertext ∧
      Admitted platform key (platform.fromBase64 iv) (platform.fromBase64 tag)
        (platform.fromBase64 ciphertext) ∧
      plaintext = platform.toText (platform.decipher key (platform.fromBase64 iv)
        (platform.fromBase64 ciphertext)) := by
  unfold decrypt
  rw [valid]
  dsimp only [bind, Except.bind]
  constructor
  · intro done
    split at done
    · rename_i version iv tag ciphertext parts
      split at done
      · cases done
      · rename_i same
        rw [not_not.mp same] at parts
        split at done
        · cases done
        · rename_i data opened
          obtain ⟨admitted, rfl⟩ := decipherVerified_ok_iff.mp opened
          exact ⟨iv, tag, ciphertext, split_eq_iff.mp parts, admitted, (Except.ok.inj done).symm⟩
    · cases done
  · rintro ⟨iv, tag, ciphertext, fields, admitted, rfl⟩
    rw [split_eq_iff.mpr fields]
    dsimp only
    rw [if_neg (not_not.mpr rfl), decipherVerified_ok_iff.mpr ⟨admitted, rfl⟩]
    rfl

/-! ## Round trip and authenticity -/

/-- The text has the whole tag of its vector and ciphertext, and this is its plaintext. -/
def Authentic (platform : Platform) (key : Bytes) (stored plaintext : String) : Prop :=
  ∃ iv tag ciphertext, Fields stored iv tag ciphertext ∧ (platform.fromBase64 tag).length = 16 ∧
    platform.fromBase64 tag =
      platform.authTag key (platform.fromBase64 iv) (platform.fromBase64 ciphertext) ∧
    plaintext = platform.toText (platform.decipher key (platform.fromBase64 iv)
      (platform.fromBase64 ciphertext))

/-- What is decrypted is authentic. -/
def DecryptsAuthentic (platform : Platform) (masterKey : Option String) (key : Bytes) (stored : String) : Prop :=
  ∀ plaintext, decrypt platform masterKey stored = .ok plaintext → Authentic platform key stored plaintext

/-- The tag of the text is cut off, in a length that is accepted. -/
def Truncated (platform : Platform) (key : Bytes) (stored : String) : Prop :=
  ∃ iv tag ciphertext, Fields stored iv tag ciphertext ∧ (platform.fromBase64 tag).length < 16 ∧
    Admitted platform key (platform.fromBase64 iv) (platform.fromBase64 tag)
      (platform.fromBase64 ciphertext)

theorem le_of_mem_tagLengths {length : ℕ} (member : length ∈ tagLengths) : length ≤ 16 := by
  unfold tagLengths at member
  simp only [List.mem_cons, List.not_mem_nil, or_false] at member
  omega

/-- A whole tag is compared as a whole. -/
theorem Admitted.authTag_eq (lawful : platform.Lawful) {iv tag ciphertext : Bytes}
    (admitted : Admitted platform key iv tag ciphertext) (whole : tag.length = 16) :
    tag = platform.authTag key iv ciphertext := by
  have same := admitted.begins
  rwa [whole, ← lawful.length_authTag key iv ciphertext, List.take_length] at same

theorem admitted_authTag (lawful : platform.Lawful) {iv : Bytes} (accepted : platform.acceptsIv iv)
    (ciphertext : Bytes) : Admitted platform key iv (platform.authTag key iv ciphertext) ciphertext where
  accepted := accepted
  length := by
    rw [lawful.length_authTag]
    decide
  begins := (List.take_length ..).symm

theorem encrypt_eq (valid : getKey platform masterKey = .ok key) {iv : Bytes}
    (accepted : platform.acceptsIv iv) : encrypt platform masterKey iv plaintext =
      .ok (join [FORMAT_VERSION, platform.toBase64 iv,
        platform.toBase64 (platform.authTag key iv (platform.cipher key iv (utf8 plaintext))),
        platform.toBase64 (platform.cipher key iv (utf8 plaintext))]) := by
  unfold encrypt
  rw [valid]
  dsimp only [bind, Except.bind]
  rw [if_neg (by simp [accepted])]
  rfl

/-- What was encrypted under a vector of the standard length is decrypted again. -/
theorem decrypt_encrypt (lawful : platform.Lawful) (valid : getKey platform masterKey = .ok key) {iv : Bytes}
    (standard : iv.length = IV_BYTES) (plaintext : String) :
    ∃ stored, encrypt platform masterKey iv plaintext = .ok stored ∧
      decrypt platform masterKey stored = .ok plaintext := by
  have accepted := lawful.acceptsIv_standard iv standard
  refine ⟨_, encrypt_eq valid accepted, (decrypt_ok_iff valid).mpr ⟨_, _, _, ⟨rfl, ?_⟩, ?_, ?_⟩⟩
  · simp only [List.forall_mem_cons]
    exact ⟨lawful.colon_free _, lawful.colon_free _, lawful.colon_free _, nofun⟩
  · rw [lawful.fromBase64_toBase64, lawful.fromBase64_toBase64, lawful.fromBase64_toBase64]
    exact admitted_authTag lawful accepted _
  · rw [lawful.fromBase64_toBase64, lawful.fromBase64_toBase64, lawful.decipher_cipher, lawful.toText_utf8]

theorem sound_iff (lawful : platform.Lawful) (valid : getKey platform masterKey = .ok key) (stored : String) :
    DecryptsAuthentic platform masterKey key stored ↔ ¬Truncated platform key stored := by
  constructor
  · rintro sound ⟨iv, tag, ciphertext, fields, short, admitted⟩
    obtain ⟨iv', tag', ciphertext', fields', whole, -⟩ := sound _ ((decrypt_ok_iff valid).mpr
      ⟨iv, tag, ciphertext, fields, admitted, rfl⟩)
    have same := (split_eq_iff.mpr fields).symm.trans (split_eq_iff.mpr fields')
    simp only [List.cons.injEq, true_and, and_true] at same
    rw [same.2.1] at short
    omega
  · intro whole plaintext done
    obtain ⟨iv, tag, ciphertext, fields, admitted, rfl⟩ := (decrypt_ok_iff valid).mp done
    have full : (platform.fromBase64 tag).length = 16 := by
      have most := le_of_mem_tagLengths admitted.length
      by_contra short
      exact whole ⟨iv, tag, ciphertext, fields, by omega, admitted⟩
    exact ⟨iv, tag, ciphertext, fields, full, admitted.authTag_eq lawful full, rfl⟩

/-- A configuration with this cipher; a vector is drawn as base64. -/
def configured (platform : Platform) (masterKey : Option String) (config : Config) : Config :=
  { config with
    decrypt := decrypt platform masterKey
    encrypt := fun iv secret => encrypt platform masterKey (platform.fromBase64 iv) secret }

/-- A worker signs with the secret that was created. -/
theorem configured_reads (lawful : platform.Lawful) (valid : getKey platform masterKey = .ok key)
    (config : Config) {iv secret : String} (standard : (platform.fromBase64 iv).length = IV_BYTES)
    (created : (configured platform masterKey config).encrypt iv secret = .ok stored) :
    (configured platform masterKey config).decrypt stored = .ok secret := by
  obtain ⟨stored', same, read⟩ := decrypt_encrypt lawful valid standard secret
  cases created.symm.trans same
  exact read

/-- Secrets survive storage, and a text is read as something else than what its whole tag vouches for
exactly when its tag was cut off. -/
theorem secret_cipher_iff (lawful : platform.Lawful) (valid : getKey platform masterKey = .ok key) :
    (∀ (plaintext : String) (iv : Bytes), iv.length = IV_BYTES →
      ∃ stored, encrypt platform masterKey iv plaintext = .ok stored ∧
        decrypt platform masterKey stored = .ok plaintext) ∧
    ∀ stored, DecryptsAuthentic platform masterKey key stored ↔ ¬Truncated platform key stored :=
  ⟨fun plaintext _ standard => decrypt_encrypt lawful valid standard plaintext, sound_iff lawful valid⟩

/-! ## One secret -/

def KEY : Bytes := List.replicate KEY_BYTES 7
def IV : Bytes := List.replicate IV_BYTES 9
def CIPHERTEXT : Bytes := [80, 237, 247, 241, 221, 175, 178, 4, 195, 16, 174, 76]
def TAG : Bytes := [22, 198, 219, 147, 5, 5, 177, 150, 170, 20, 214, 159, 252, 5, 190, 35]
def MASTER_KEY : String := "BwcHBwcHBwcHBwcHBwcHBwcHBwcHBwcHBwcHBwcHBwc="

/-- The bytes that the plaintext is combined with. -/
def keystream (key iv : Bytes) (index : ℕ) : UInt8 :=
  if key = KEY ∧ iv = IV then
    ([39, 133, 132, 148, 190, 240, 193, 97, 160, 98, 203, 56] : Bytes).getD index 0
  else 0

def combined (key iv data : Bytes) : Bytes := data.mapIdx fun index byte => byte ^^^ keystream key iv index

/-- A platform that enciphers this secret as AES-256-GCM does, and nothing else. -/
def onePlatform : Platform where
  toBase64 data := String.ofList (Base64.encode data)
  fromBase64 text := Base64.decode text.toList
  toText data := (String.fromUTF8? ⟨data.toArray⟩).getD "\uFFFD"
  acceptsIv iv := 1 ≤ iv.length && iv.length ≤ 128
  cipher := combined
  decipher := combined
  authTag key iv ciphertext :=
    if key = KEY ∧ iv = IV ∧ ciphertext = CIPHERTEXT then TAG else List.replicate 16 0

theorem combined_combined (key iv data : Bytes) : combined key iv (combined key iv data) = data := by
  refine List.ext_getElem (by simp [combined]) fun index _ _ => ?_
  simp only [combined, List.getElem_mapIdx]
  rw [UInt8.xor_assoc, UInt8.xor_self, UInt8.xor_zero]

theorem onePlatform_lawful : onePlatform.Lawful where
  colon_free data := by
    change ':' ∉ (String.ofList (Base64.encode data)).toList
    rw [String.toList_ofList]
    exact Base64.colon_not_mem_encode data
  fromBase64_toBase64 data := by
    change Base64.decode (String.ofList (Base64.encode data)).toList = data
    rw [String.toList_ofList, Base64.decode_encode]
  toText_utf8 text := by
    change (String.fromUTF8? text.toByteArray).getD _ = text
    rw [String.fromUTF8?, dif_pos text.isValidUTF8]
    rfl
  acceptsIv_standard iv standard := by
    change (1 ≤ iv.length && iv.length ≤ 128) = true
    rw [standard]
    rfl
  decipher_cipher := combined_combined
  length_authTag key iv ciphertext := by
    change (if key = KEY ∧ iv = IV ∧ ciphertext = CIPHERTEXT then TAG else List.replicate 16 0).length = 16
    split <;> rfl

example : encrypt onePlatform (some MASTER_KEY) IV "whsec_secret" =
    .ok "v1:CQkJCQkJCQkJCQkJ:FsbbkwUFsZaqFNaf/AW+Iw==:UO338d2vsgTDEK5M" := rfl

theorem onePlatform_key : getKey onePlatform (some MASTER_KEY) = .ok KEY := rfl

theorem secret_cipher_one :
    (∃ stored, encrypt onePlatform (some MASTER_KEY) IV "whsec_secret" = .ok stored ∧
      decrypt onePlatform (some MASTER_KEY) stored = .ok "whsec_secret") ∧
    (DecryptsAuthentic onePlatform (some MASTER_KEY) KEY "not-a-valid-format" ↔
      ¬Truncated onePlatform KEY "not-a-valid-format") :=
  have both := secret_cipher_iff onePlatform_lawful onePlatform_key
  ⟨both.1 "whsec_secret" IV rfl, both.2 "not-a-valid-format"⟩

/-- The encrypted secret with the first four bytes of its tag. -/
def CUT : String := "v1:CQkJCQkJCQkJCQkJ:Fsbbkw==:UO338d2vsgTDEK5M"

/-- It is decrypted as if nothing had been cut off. -/
theorem cut_decrypted : decrypt onePlatform (some MASTER_KEY) CUT = .ok "whsec_secret" ∧
    ¬Authentic onePlatform KEY CUT "whsec_secret" := by
  have fields : Fields CUT "CQkJCQkJCQkJCQkJ" "Fsbbkw==" "UO338d2vsgTDEK5M" := split_eq_iff.mp rfl
  have plaintext : onePlatform.decipher KEY (onePlatform.fromBase64 "CQkJCQkJCQkJCQkJ")
      (onePlatform.fromBase64 "UO338d2vsgTDEK5M") = utf8 "whsec_secret" := rfl
  constructor
  · refine (decrypt_ok_iff onePlatform_key).mpr ⟨_, _, _, fields, ⟨rfl, ?_, rfl⟩, ?_⟩
    · exact List.mem_cons_self
    · rw [plaintext, onePlatform_lawful.toText_utf8]
  · rintro ⟨iv, tag, ciphertext, others, whole, -⟩
    have same := (split_eq_iff.mpr fields).symm.trans (split_eq_iff.mpr others)
    simp only [List.cons.injEq, true_and, and_true] at same
    rw [← same.2.1] at whole
    exact absurd whole (by decide)

end ParentalCoord.Webhooks.SecretCipherService
