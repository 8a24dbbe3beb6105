import SqliteMc.Model.RijndaelInverse
import SqliteMc.Model.ChaCha20
import SqliteMc.Model.Digests

/-!
# Codec algorithms

What the page ciphers share: the initial vector of a page, RC4, the two AES functions with a key
of each page's own, and raw keys.

* `rc4_rc4`, `aesDecrypt_aesEncrypt`: both are undone by the same key.
-/

namespace SqliteMc

namespace Native

open Buffer

/-- The result codes of SQLite that the codec returns or passes on. -/
inductive Rc where
  | ok
  | error
  | corrupt
  | notadb
  | ioerrShortRead
  deriving DecidableEq, Repr

-- ---------------------------------------------------------------------------
-- RC4
-- ---------------------------------------------------------------------------

/-- The two entries exchanged. -/
def swap (rc4 : Bytes) (i j : Nat) : Bytes := (rc4.set i (byte rc4 j)).set j (byte rc4 i)

/-- The second loop of `sqlite3mcRC4`, from the state it has reached. -/
def rc4Loop : Bytes → Bytes → Nat → Nat → Bytes
  | [], _, _, _ => []
  | x :: text, rc4, a, b =>
    let a := (a + 1) % 256
    let b := (b + (byte rc4 a).toNat) % 256
    let rc4 := swap rc4 a b
    let k := byte rc4 (((byte rc4 a).toNat + (byte rc4 b).toNat) % 256)
    (x ^^^ k) :: rc4Loop text rc4 a b

/-- The table after the first `n` turns of the loop over the key, and its index `j`. -/
def rc4Schedule (key : Bytes) : Nat → Bytes × Nat
  | 0 => ((List.range 256).map fun i => BitVec.ofNat 8 i, 0)
  | i + 1 =>
    let state := rc4Schedule key i
    let j := (state.2 + (byte state.1 i).toNat + (byte key (i % key.length)).toNat) % 256
    (swap state.1 i j, j)

/-- `sqlite3mcRC4`. -/
def rc4 (key text : Bytes) : Bytes := rc4Loop text (rc4Schedule key 256).1 0 0

@[simp] theorem length_rc4Loop (text rc4 : Bytes) (a b : Nat) :
    (rc4Loop text rc4 a b).length = text.length := by
  induction text generalizing rc4 a b with
  | nil => rfl
  | cons x text ih =>
    rw [rc4Loop, List.length_cons, ih, List.length_cons]

@[simp] theorem length_rc4 (key text : Bytes) : (rc4 key text).length = text.length :=
  length_rc4Loop text _ 0 0

/-- The stream depends on the state only, so a second run takes it off again. -/
theorem rc4Loop_rc4Loop (text rc4 : Bytes) (a b : Nat) :
    rc4Loop (rc4Loop text rc4 a b) rc4 a b = text := by
  induction text generalizing rc4 a b with
  | nil => rfl
  | cons x text ih =>
    rw [rc4Loop, rc4Loop, ih, BitVec.xor_assoc, BitVec.xor_self, BitVec.xor_zero]

/-- RC4 is its own inverse. -/
theorem rc4_rc4 (key text : Bytes) : rc4 key (rc4 key text) = text :=
  rc4Loop_rc4Loop text _ 0 0

-- ---------------------------------------------------------------------------
-- Initial vectors
-- ---------------------------------------------------------------------------

/-- `MODMULT(52774, 40692, 3791, 2147483399, z)`. -/
def modMult (z : Int) : Int :=
  let q := z.tdiv 52774
  let s := 40692 * (z - 52774 * q) - 3791 * q
  if s < 0 then s + 2147483399 else s

/-- The bytes of the next `n` numbers after `z`. -/
def initKey : Nat → Int → Bytes
  | 0, _ => []
  | n + 1, z => store32LE (BitVec.ofInt 32 (modMult z)) ++ initKey n (modMult z)

/-- `sqlite3mcGenerateInitialVector`. The seed and its successor are a C `int`, which is negative
for the pages in the upper half of their range. -/
def generateInitialVector (d : Digests) (seed : Nat) : Bytes :=
  d.md5 (initKey 4 (BitVec.ofNat 32 seed + 1).toInt)

theorem length_generateInitialVector (d : Digests) (seed : Nat) :
    (generateInitialVector d seed).length = 16 := d.length_md5 _

-- ---------------------------------------------------------------------------
-- AES with a key for each page
-- ---------------------------------------------------------------------------

/-- `nkey`: the key, the page number and a salt. -/
def nkey (key : Bytes) (page : Nat) : Bytes :=
  key ++ store32LE (BitVec.ofNat 32 page) ++ [0x73, 0x41, 0x6c, 0x54]

/-- `sqlite3mcAES128` and `sqlite3mcAES256` with `encrypt` set: a key of `columns` columns
whose digest is the key of the page. -/
def aesEncrypt (columns : Nat) (digest : Bytes → Bytes) (d : Digests) (page : Nat)
    (key data : Bytes) : Bytes :=
  Rijndael.blockEncrypt columns (digest (nkey key page)) (generateInitialVector d page) data

/-- The same with `encrypt` not set. -/
def aesDecrypt (columns : Nat) (digest : Bytes → Bytes) (d : Digests) (page : Nat)
    (key data : Bytes) : Bytes :=
  Rijndael.blockDecrypt columns (digest (nkey key page)) (generateInitialVector d page) data

variable {columns : Nat} {digest : Bytes → Bytes} {d : Digests} {page : Nat} {key data : Bytes}

theorem length_aesEncrypt (h : 16 ≤ data.length) :
    (aesEncrypt columns digest d page key data).length = data.length :=
  Cbc.length_encrypt (by decide) (length_generateInitialVector d page) h

theorem length_aesDecrypt (h : 16 ≤ data.length) :
    (aesDecrypt columns digest d page key data).length = data.length :=
  Cbc.length_decrypt (by decide) (length_generateInitialVector d page) h

/-- Decryption with the page's own key and vector undoes encryption. -/
theorem aesDecrypt_aesEncrypt (h : 16 ≤ data.length) :
    aesDecrypt columns digest d page key (aesEncrypt columns digest d page key data) = data :=
  Cbc.decrypt_encrypt (by decide) (length_generateInitialVector d page) h

-- ---------------------------------------------------------------------------
-- Raw keys
-- ---------------------------------------------------------------------------

/-- A digit of `sqlite3mcIsHexKey`. -/
def isHexDigit (c : Octet) : Bool :=
  (0x30 ≤ c.toNat && c.toNat ≤ 0x39) || (0x41 ≤ c.toNat && c.toNat ≤ 0x46)
    || (0x61 ≤ c.toNat && c.toNat ≤ 0x66)

/-- `sqlite3mcIsHexKey`. -/
def isHexKey (hex : Bytes) : Bool := hex.all isHexDigit

/-- `sqlite3mcConvertHex2Int`. -/
def convertHex2Int (c : Octet) : Nat :=
  if 0x30 ≤ c.toNat ∧ c.toNat ≤ 0x39 then c.toNat - 0x30
  else if 0x41 ≤ c.toNat ∧ c.toNat ≤ 0x46 then c.toNat - 0x41 + 10
  else if 0x61 ≤ c.toNat ∧ c.toNat ≤ 0x66 then c.toNat - 0x61 + 10
  else 0

/-- `sqlite3mcConvertHex2Bin` of a text with an even number of digits. -/
def convertHex2Bin : Bytes → Bytes
  | c :: c' :: hex =>
    BitVec.ofNat 8 (convertHex2Int c <<< 4 ||| convertHex2Int c') :: convertHex2Bin hex
  | _ => []

/-- What `sqlite3mcExtractRawKey` returns and writes. -/
structure RawKey where
  bypass : Bool
  key : Bytes
  salt : Bytes
  deriving DecidableEq

/-- `raw:`. -/
def rawPrefix : Bytes := [0x72, 0x61, 0x77, 0x3a]

/-- `sqlite3_strnicmp(password, "x'", 2) == 0`. -/
def startsBlob (password : Bytes) : Bool :=
  (byte password 0 == 0x78 || byte password 0 == 0x58) && byte password 1 == 0x27

/-- `sqlite3mcExtractRawKey`: the key and the salt are overwritten in both notations, but only
the first one has the derivation left out. -/
def extractRawKey (password : Bytes) (keyOnly : Bool) (keyLength saltLength : Nat)
    (key salt : Bytes) : RawKey :=
  if 4 < password.length ∧ password.take 4 = rawPrefix then
    let zRaw := password.drop 4
    if zRaw.length = keyLength + saltLength then
      ⟨true, zRaw.take keyLength, if keyOnly then salt else slice zRaw keyLength saltLength⟩
    else if zRaw.length = keyLength then ⟨true, zRaw, salt⟩
    else if zRaw.length = 2 * keyLength then
      if isHexKey zRaw then ⟨true, convertHex2Bin zRaw, salt⟩ else ⟨false, key, salt⟩
    else if zRaw.length = 2 * (keyLength + saltLength) then
      if isHexKey zRaw then
        ⟨true, convertHex2Bin (zRaw.take (2 * keyLength)),
          if keyOnly then salt else convertHex2Bin (slice zRaw (2 * keyLength) (2 * saltLength))⟩
      else ⟨false, key, salt⟩
    else ⟨false, key, salt⟩
  else if password.length = keyLength * 2 + 3 ∧ startsBlob password ∧
      isHexKey (slice password 2 (keyLength * 2)) then
    ⟨false, convertHex2Bin (slice password 2 (keyLength * 2)), salt⟩
  else if password.length = (keyLength + saltLength) * 2 + 3 ∧ startsBlob password ∧
      isHexKey (slice password 2 ((keyLength + saltLength) * 2)) then
    ⟨false, convertHex2Bin (slice password 2 (keyLength * 2)),
      if keyOnly then salt
      else convertHex2Bin (slice password (2 + keyLength * 2) (saltLength * 2))⟩
  else ⟨false, key, salt⟩

theorem length_convertHex2Bin {m : Nat} {hex : Bytes} (h : hex.length = 2 * m) :
    (convertHex2Bin hex).length = m := by
  induction m generalizing hex with
  | zero =>
    rw [List.length_eq_zero_iff.mp h]
    rfl
  | succ m ih =>
    match hex, h with
    | _ :: _ :: hex, h =>
      have hrest : hex.length = 2 * m := by
        simp only [List.length_cons] at h
        omega
      rw [convertHex2Bin, List.length_cons, ih hrest]

/-- The derivation is left out for `raw:` and a key, or a key and a salt, as bytes or as digits. -/
theorem bypass_extractRawKey {n : Nat} (hn : 0 < n) (password : Bytes) (keyOnly : Bool) (s : Nat)
    (key salt : Bytes) :
    (extractRawKey password keyOnly n s key salt).bypass = true ↔
      ∃ zRaw, password = rawPrefix ++ zRaw ∧ (zRaw.length = n + s ∨ zRaw.length = n ∨
        isHexKey zRaw = true ∧ (zRaw.length = 2 * n ∨ zRaw.length = 2 * (n + s))) := by
  unfold extractRawKey
  by_cases hraw : 4 < password.length ∧ password.take 4 = rawPrefix
  · rw [if_pos hraw]
    have hsplit : password = rawPrefix ++ password.drop 4 := by
      rw [← hraw.2, List.take_append_drop]
    -- what follows the prefix decides
    have hrest : ∀ P : Bytes → Prop, (∃ zRaw, password = rawPrefix ++ zRaw ∧ P zRaw) ↔
        P (password.drop 4) := by
      intro P
      constructor
      · rintro ⟨zRaw, h, hP⟩
        have hdrop : password.drop 4 = zRaw := by
          rw [h]
          rfl
        rwa [hdrop]
      · exact fun hP => ⟨_, hsplit, hP⟩
    rw [hrest]
    clear hrest hsplit hraw
    generalize password.drop 4 = zRaw
    dsimp only
    split_ifs <;> simp_all
  · rw [if_neg hraw]
    have hnot : ¬ ∃ zRaw, password = rawPrefix ++ zRaw ∧ (zRaw.length = n + s ∨ zRaw.length = n ∨
        isHexKey zRaw = true ∧ (zRaw.length = 2 * n ∨ zRaw.length = 2 * (n + s))) := by
      rintro ⟨zRaw, rfl, hlen⟩
      refine hraw ⟨?_, rfl⟩
      rw [List.length_append, show rawPrefix.length = 4 from rfl]
      omega
    split_ifs <;> simp [hnot]

/-- The salt keeps its length. -/
theorem length_salt_extractRawKey (password : Bytes) (keyOnly : Bool) (n : Nat)
    (key salt : Bytes) : (extractRawKey password keyOnly n salt.length key salt).salt.length =
      salt.length := by
  have hhex {b : Bytes} {o : Nat} (h : o + 2 * salt.length ≤ b.length) :
      (convertHex2Bin (slice b o (2 * salt.length))).length = salt.length :=
    length_convertHex2Bin (length_slice h)
  unfold extractRawKey
  -- in each format the salt has the length that the format's test asked for
  dsimp only
  split_ifs with _ h
  all_goals first
    | rfl
    | exact length_slice (by omega)
    | exact hhex (by omega)
    | (rw [Nat.mul_comm salt.length 2]; exact hhex (by omega))

/-- A raw key is extracted again from the password alone, with the salt it came with. -/
theorem extractRawKey_extractRawKey (password : Bytes) (keyOnly : Bool) (n s : Nat)
    (key key' salt : Bytes) :
    let r := extractRawKey password keyOnly n s key salt
    let r' := extractRawKey password true n s key' r.salt
    r'.bypass = r.bypass ∧ r'.salt = r.salt ∧ (r.bypass = true → r'.key = r.key) := by
  intro r r'
  dsimp only [r, r']
  unfold extractRawKey
  dsimp only
  -- the branch is that of the password in both
  by_cases hraw : 4 < password.length ∧ password.take 4 = rawPrefix
  · simp only [if_pos hraw]
    by_cases h : (password.drop 4).length = n + s
    · simp only [if_pos h, if_true, and_self, implies_true]
    · simp only [if_neg h]
      by_cases h : (password.drop 4).length = n
      · simp only [if_pos h, and_self, implies_true]
      · simp only [if_neg h]
        by_cases h : (password.drop 4).length = 2 * n
        · simp only [if_pos h]
          cases isHexKey (password.drop 4) <;> simp
        · simp only [if_neg h]
          by_cases h : (password.drop 4).length = 2 * (n + s)
          · simp only [if_pos h]
            cases isHexKey (password.drop 4) <;> simp
          · simp only [if_neg h]
            simp
  · simp only [if_neg hraw]
    by_cases h : password.length = n * 2 + 3 ∧ startsBlob password ∧
        isHexKey (slice password 2 (n * 2))
    · simp only [if_pos h]
      simp
    · simp only [if_neg h]
      by_cases h : password.length = (n + s) * 2 + 3 ∧ startsBlob password ∧
          isHexKey (slice password 2 ((n + s) * 2))
      · simp only [if_pos h]
        simp
      · simp only [if_neg h]
        simp

/-- The key of a raw password does not depend on the salt, nor on what stood in its place before. -/
theorem key_extractRawKey {password : Bytes} {keyOnly : Bool} {n s : Nat} {key salt : Bytes}
    (h : (extractRawKey password keyOnly n s key salt).bypass = true) (keyOnly' : Bool)
    (key' salt' : Bytes) :
    (extractRawKey password keyOnly' n s key' salt').bypass = true ∧
      (extractRawKey password keyOnly' n s key' salt').key =
        (extractRawKey password keyOnly n s key salt).key := by
  unfold extractRawKey at h ⊢
  dsimp only at h ⊢
  split_ifs at h ⊢ <;> exact ⟨rfl, rfl⟩

/-- A password brings a salt along, or leaves the one it is extracted with as it is. -/
theorem salt_extractRawKey (password : Bytes) (n s : Nat) :
    (∀ key salt, (extractRawKey password false n s key salt).salt = salt) ∨
      ∃ own, ∀ key salt, (extractRawKey password false n s key salt).salt = own := by
  unfold extractRawKey
  dsimp only
  split_ifs <;> first | exact Or.inl fun _ _ => rfl | exact Or.inr ⟨_, fun _ _ => rfl⟩

/-- It is left alone when only the key is asked for. -/
theorem salt_extractRawKey_keyOnly (password : Bytes) (n s : Nat) (key salt : Bytes) :
    (extractRawKey password true n s key salt).salt = salt := by
  unfold extractRawKey
  dsimp only
  simp only [if_true]
  split_ifs <;> rfl

-- ---------------------------------------------------------------------------
-- Passwords
-- ---------------------------------------------------------------------------

/-- `padding`. -/
def padding : Bytes :=
  [0x28, 0xBF, 0x4E, 0x5E, 0x4E, 0x75, 0x8A, 0x41, 0x64, 0x00, 0x4E, 0x56, 0xFF, 0xFA, 0x01, 0x08,
   0x2E, 0x2E, 0x00, 0xB6, 0xD0, 0x68, 0x3E, 0x80, 0x2F, 0x0C, 0xA9, 0xFE, 0x64, 0x53, 0x69, 0x7A]

/-- `sqlite3mcPadPassword`. -/
def padPassword (password : Bytes) : Bytes := (password.take 32 ++ padding).take 32

end Native

end SqliteMc
