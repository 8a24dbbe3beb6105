import SqliteMc.Lib.Buffer

/-!
# Ascon

The permutation, the authenticated encryption and the hash of the `ascon` sources. A word is
read from the buffer with its first byte the highest; fewer than eight bytes fill it from the
top.

* `round32_eq_round64`: the two forms of a round, of which the platform chooses one, agree.
* `decryptBlocks_encryptBlocks`, `encryptBlocks_decryptBlocks`: the two directions undo each
  other and leave the same state.
* `aeadDecrypt_eq_zero_iff`: a text is accepted exactly when it is what is encrypted again from
  the text that comes out.
-/

namespace SqliteMc

namespace Ascon

open Buffer

/-- `ascon_state_t`. -/
@[ext]
structure State where
  x0 : BitVec 64
  x1 : BitVec 64
  x2 : BitVec 64
  x3 : BitVec 64
  x4 : BitVec 64
  deriving DecidableEq

-- ---------------------------------------------------------------------------
-- Words
-- ---------------------------------------------------------------------------

/-- `ASCON_LOADBYTES` of all bytes of the list, which are eight at most. -/
def loadBytes (b : Bytes) : BitVec 64 :=
  byte b 0 ++ byte b 1 ++ byte b 2 ++ byte b 3 ++ byte b 4 ++ byte b 5 ++ byte b 6 ++ byte b 7

/-- `ASCON_STOREBYTES`. -/
def storeBytes (w : BitVec 64) (n : Nat) : Bytes :=
  [w.extractLsb' 56 8, w.extractLsb' 48 8, w.extractLsb' 40 8, w.extractLsb' 32 8,
    w.extractLsb' 24 8, w.extractLsb' 16 8, w.extractLsb' 8 8, w.extractLsb' 0 8].take n

/-- `ASCON_PAD`. -/
def pad (i : Nat) : BitVec 64 := 0x80 <<< (56 - 8 * i)

/-- `ASCON_CLEAR`. -/
def clear (w : BitVec 64) (n : Nat) : BitVec 64 := w &&& BitVec.allOnes 64 >>> (8 * n)

/-- `ASCON_NOTZERO`. -/
def notZero (a b : BitVec 64) : Int :=
  let result := a ||| b
  let result := result ||| result >>> 32
  let result := result ||| result >>> 16
  let result := result ||| result >>> 8
  (((result.toNat % 256 : Nat) : Int) - 1) / 256 % 2 - 1

-- ---------------------------------------------------------------------------
-- Permutation
-- ---------------------------------------------------------------------------

/-- `ASCON_ROUND` of `round64.h`. -/
def round64 (C : BitVec 64) (s : State) : State :=
  let x2 := s.x2 ^^^ C
  let x0 := s.x0 ^^^ s.x4
  let x4 := s.x4 ^^^ s.x3
  let x2 := x2 ^^^ s.x1
  let t0 := x0 ^^^ (~~~s.x1 &&& x2)
  let t2 := x2 ^^^ (~~~s.x3 &&& x4)
  let t4 := x4 ^^^ (~~~x0 &&& s.x1)
  let t1 := s.x1 ^^^ (~~~x2 &&& s.x3)
  let t3 := s.x3 ^^^ (~~~x4 &&& x0)
  let t1 := t1 ^^^ t0
  let t3 := t3 ^^^ t2
  let t0 := t0 ^^^ t4
  let y2 := t2 ^^^ t2.rotateRight (6 - 1)
  let y3 := t3 ^^^ t3.rotateRight (17 - 10)
  let y4 := t4 ^^^ t4.rotateRight (41 - 7)
  let y0 := t0 ^^^ t0.rotateRight (28 - 19)
  let y1 := t1 ^^^ t1.rotateRight (61 - 39)
  { x0 := t0 ^^^ y0.rotateRight 19
    x1 := t1 ^^^ y1.rotateRight 39
    x2 := ~~~(t2 ^^^ y2.rotateRight 1)
    x3 := t3 ^^^ y3.rotateRight 10
    x4 := t4 ^^^ y4.rotateRight 7 }

/-- `ASCON_ROUND` of `round32.h`, which computes in place. -/
def round32 (C : BitVec 64) (s : State) : State :=
  let x2 := s.x2 ^^^ C
  let x0 := s.x0 ^^^ s.x4
  let x4 := s.x4 ^^^ s.x3
  let x2 := x2 ^^^ s.x1
  let xtemp := x0 &&& ~~~x4
  let x0 := x0 ^^^ (x2 &&& ~~~s.x1)
  let x2 := x2 ^^^ (x4 &&& ~~~s.x3)
  let x4 := x4 ^^^ (s.x1 &&& ~~~x0)
  let x1 := s.x1 ^^^ (s.x3 &&& ~~~x2)
  let x3 := s.x3 ^^^ xtemp
  let x1 := x1 ^^^ x0
  let x3 := x3 ^^^ x2
  let x0 := x0 ^^^ x4
  let x2 := ~~~x2
  { x0 := x0 ^^^ (x0 >>> 19 ^^^ x0 <<< 45 ^^^ x0 >>> 28 ^^^ x0 <<< 36)
    x1 := x1 ^^^ (x1 >>> 61 ^^^ x1 <<< 3 ^^^ x1 >>> 39 ^^^ x1 <<< 25)
    x2 := x2 ^^^ (x2 >>> 1 ^^^ x2 <<< 63 ^^^ x2 >>> 6 ^^^ x2 <<< 58)
    x3 := x3 ^^^ (x3 >>> 10 ^^^ x3 <<< 54 ^^^ x3 >>> 17 ^^^ x3 <<< 47)
    x4 := x4 ^^^ (x4 >>> 7 ^^^ x4 <<< 57 ^^^ x4 >>> 41 ^^^ x4 <<< 23) }

/-- `ASCON_P` with six rounds. -/
def p6 (s : State) : State :=
  [0x96, 0x87, 0x78, 0x69, 0x5a, 0x4b].foldl (fun s C => round64 C s) s

/-- `ASCON_P` with twelve rounds. -/
def p12 (s : State) : State :=
  p6 ([0xf0, 0xe1, 0xd2, 0xc3, 0xb4, 0xa5].foldl (fun s C => round64 C s) s)

-- ---------------------------------------------------------------------------
-- Authenticated encryption
-- ---------------------------------------------------------------------------

/-- `ascon_key_t`. -/
structure KeyWords where
  x0 : BitVec 64
  x1 : BitVec 64

/-- `ascon_loadkey`. -/
def loadkey (k : Bytes) : KeyWords := ⟨loadBytes (slice k 0 8), loadBytes (slice k 8 8)⟩

/-- `ascon_initaead`. -/
def initaead (key : KeyWords) (npub : Bytes) : State :=
  let s := p12 ⟨0x80400c0600000000, key.x0, key.x1, loadBytes (slice npub 0 8),
    loadBytes (slice npub 8 8)⟩
  { s with x3 := s.x3 ^^^ key.x0, x4 := s.x4 ^^^ key.x1 }

/-- `n` whole blocks of the associated data and the last one. -/
def adataBlocks : Nat → State → Bytes → State
  | 0, s, ad =>
    let x0 := s.x0 ^^^ pad ad.length
    p6 { s with x0 := if ad.length = 0 then x0 else x0 ^^^ loadBytes ad }
  | n + 1, s, ad =>
    adataBlocks n (p6 { s with x0 := s.x0 ^^^ loadBytes (ad.take 8) }) (ad.drop 8)

/-- `ascon_adata`. -/
def adata (s : State) (ad : Bytes) : State :=
  let s := if ad.length = 0 then s else adataBlocks (ad.length / 8) s ad
  { s with x4 := s.x4 ^^^ 0x01 }

/-- `n` whole blocks of the plain text and the last one. -/
def encryptBlocks : Nat → State → Bytes → Bytes × State
  | 0, s, m =>
    let x0 := s.x0 ^^^ pad m.length
    if m.length = 0 then ([], { s with x0 := x0 })
    else
      let x0 := x0 ^^^ loadBytes m
      (storeBytes x0 m.length, { s with x0 := x0 })
  | n + 1, s, m =>
    let x0 := s.x0 ^^^ loadBytes (m.take 8)
    let rest := encryptBlocks n (p6 { s with x0 := x0 }) (m.drop 8)
    (storeBytes x0 8 ++ rest.1, rest.2)

/-- `ascon_encrypt`. -/
def encrypt (s : State) (m : Bytes) : Bytes × State := encryptBlocks (m.length / 8) s m

/-- `n` whole blocks of the cipher text and the last one. -/
def decryptBlocks : Nat → State → Bytes → Bytes × State
  | 0, s, c =>
    let x0 := s.x0 ^^^ pad c.length
    if c.length = 0 then ([], { s with x0 := x0 })
    else
      let cx := loadBytes c
      let x0 := x0 ^^^ cx
      (storeBytes x0 c.length, { s with x0 := clear x0 c.length ^^^ cx })
  | n + 1, s, c =>
    let cx := loadBytes (c.take 8)
    let x0 := s.x0 ^^^ cx
    let rest := decryptBlocks n (p6 { s with x0 := cx }) (c.drop 8)
    (storeBytes x0 8 ++ rest.1, rest.2)

/-- `ascon_decrypt`. -/
def decrypt (s : State) (c : Bytes) : Bytes × State := decryptBlocks (c.length / 8) s c

/-- `ascon_final`. -/
def final (s : State) (key : KeyWords) : State :=
  let s := p12 { s with x1 := s.x1 ^^^ key.x0, x2 := s.x2 ^^^ key.x1 }
  { s with x3 := s.x3 ^^^ key.x0, x4 := s.x4 ^^^ key.x1 }

/-- The state before the text. -/
def start (ad nonce k : Bytes) : State := adata (initaead (loadkey k) nonce) ad

/-- `ascon_aead_encrypt`: the cipher text and the tag. -/
def aeadEncrypt (mtext ad nonce k : Bytes) : Bytes × Bytes :=
  let text := encrypt (start ad nonce k) mtext
  let s := final text.2 (loadkey k)
  (text.1, storeBytes s.x3 8 ++ storeBytes s.x4 8)

/-- `ascon_aead_decrypt`: the plain text and the result. A text shorter than a tag is refused
and left as it is. -/
def aeadDecrypt (ctext ad tag nonce k : Bytes) : Bytes × Int :=
  if ctext.length < 16 then (ctext, -1)
  else
    let text := decrypt (start ad nonce k) ctext
    let s := final text.2 (loadkey k)
    (text.1, notZero (s.x3 ^^^ loadBytes (slice tag 0 8)) (s.x4 ^^^ loadBytes (slice tag 8 8)))

-- ---------------------------------------------------------------------------
-- Hash
-- ---------------------------------------------------------------------------

/-- `ascon_inithash`. -/
def inithash : State :=
  ⟨0xee9398aadb67f03d, 0x8bb21831c60f1002, 0xb48a92db98d5da62, 0x43189921b8f8e3e8,
    0x348fa5c9d525e140⟩

/-- `n` whole blocks of the input and the last one. -/
def absorbBlocks : Nat → State → Bytes → State
  | 0, s, input => { s with x0 := s.x0 ^^^ loadBytes input ^^^ pad input.length }
  | n + 1, s, input =>
    absorbBlocks n (p12 { s with x0 := s.x0 ^^^ loadBytes (input.take 8) }) (input.drop 8)

/-- `ascon_absorb`. -/
def absorb (s : State) (input : Bytes) : State := absorbBlocks (input.length / 8) s input

/-- The output, of which the last block has eight bytes as well. -/
def squeezeBlocks : Nat → State → Bytes
  | 0, s => storeBytes s.x0 8
  | n + 1, s => storeBytes s.x0 8 ++ squeezeBlocks n (p12 s)

/-- `ascon_squeeze` of `ASCON_HASH_BYTES`. -/
def squeeze (s : State) : Bytes := squeezeBlocks 3 (p12 s)

/-- `ascon_hash`. -/
def hash (input : Bytes) : Bytes := squeeze (absorb inithash input)

-- ---------------------------------------------------------------------------
-- Key derivation
-- ---------------------------------------------------------------------------

/-- `ascon_pbkdf2_init` with the function name `PBKDF2`. -/
def pbkdf2Init (custom : Bytes) : State :=
  let name : Bytes := [0x50, 0x42, 0x4b, 0x44, 0x46, 0x32]
  let initial := name ++ zeros (32 - name.length)
  let s := p12 ⟨0x00400c0000000100, loadBytes (slice initial 0 8), loadBytes (slice initial 8 8),
    loadBytes (slice initial 16 8), loadBytes (slice initial 24 8)⟩
  if 0 < custom.length then
    let s := p12 (absorb s custom)
    { s with x4 := s.x4 ^^^ 1 }
  else s

/-- The loop of `ascon_pbkdf2_f`: `U` is absorbed again and the outcome added to `T`. -/
def pbkdf2Loop (state : State) : Nat → Bytes → Bytes → Bytes
  | 0, T, _ => T
  | count + 1, T, U =>
    let U := squeeze (absorb state U)
    pbkdf2Loop state count (Buffer.xor T U) U

/-- `ascon_pbkdf2_f` for the first block. -/
def pbkdf2F (state : State) (salt : Bytes) (count : Nat) : Bytes :=
  let temp := salt.take 16 ++ zeros (16 - salt.length) ++ store32BE 1
  let T := squeeze (absorb state temp)
  pbkdf2Loop state (count - 1) T T

/-- `ascon_pbkdf2` for an output of one block. -/
def pbkdf2 (password salt : Bytes) (count : Nat) : Bytes :=
  pbkdf2F (pbkdf2Init password) salt count

-- ---------------------------------------------------------------------------
-- The two forms of a round
-- ---------------------------------------------------------------------------

/-- A bit of a rotated word is the bit `a` positions further, around the end of the word. -/
theorem getLsbD_rotateRight (t : BitVec 64) {a i : Nat} (ha : a < 64) (hi : i < 64) :
    (t.rotateRight a).getLsbD i = t.getLsbD ((i + a) % 64) := by
  rw [BitVec.getLsbD_rotateRight, Nat.mod_eq_of_lt ha]
  rcases Nat.lt_or_ge (i + a) 64 with h | h
  · rw [decide_eq_true (by omega), cond_true, Nat.mod_eq_of_lt h, Nat.add_comm]
  · have hmod : (i + a) % 64 = i - (64 - a) := by omega
    rw [decide_eq_false (by omega), cond_false, decide_eq_true hi, Bool.true_and, hmod]

/-- A rotation from two shifts. -/
theorem rotateRight_eq_shifts (t : BitVec 64) {a : Nat} (ha : 0 < a) (ha' : a < 64) :
    t.rotateRight a = t >>> a ^^^ t <<< (64 - a) := by
  apply BitVec.eq_of_getLsbD_eq
  intro i hi
  rw [getLsbD_rotateRight t ha' hi, BitVec.getLsbD_xor, BitVec.getLsbD_ushiftRight,
    BitVec.getLsbD_shiftLeft, decide_eq_true hi, Bool.true_and]
  -- the bit comes from the right shift, or from around the end and so from the left shift
  rcases Nat.lt_or_ge (i + a) 64 with h | h
  · rw [decide_eq_true (by omega), Bool.not_true, Bool.false_and, Bool.xor_false,
      Nat.mod_eq_of_lt h, Nat.add_comm]
  · have hmod : (i + a) % 64 = i - (64 - a) := by omega
    rw [decide_eq_false (by omega), Bool.not_false, Bool.true_and,
      BitVec.getLsbD_of_ge t (a + i) (by omega), Bool.false_xor, hmod]

theorem rotateRight_xor (t u : BitVec 64) {a : Nat} (ha : a < 64) :
    (t ^^^ u).rotateRight a = t.rotateRight a ^^^ u.rotateRight a := by
  apply BitVec.eq_of_getLsbD_eq
  intro i hi
  rw [BitVec.getLsbD_xor, getLsbD_rotateRight _ ha hi, getLsbD_rotateRight _ ha hi,
    getLsbD_rotateRight _ ha hi, BitVec.getLsbD_xor]

/-- Rotations add up. -/
theorem rotateRight_rotateRight (t : BitVec 64) {a b : Nat} (h : a + b < 64) :
    (t.rotateRight a).rotateRight b = t.rotateRight (a + b) := by
  apply BitVec.eq_of_getLsbD_eq
  intro i hi
  rw [getLsbD_rotateRight _ (by omega) hi, getLsbD_rotateRight _ (by omega)
    (Nat.mod_lt _ (by decide)), getLsbD_rotateRight _ h hi, Nat.mod_add_mod, Nat.add_assoc,
    Nat.add_comm b]

/-- Rotation goes through the complement. -/
theorem rotateRight_not (t : BitVec 64) {a : Nat} (ha : a < 64) :
    (~~~t).rotateRight a = ~~~t.rotateRight a := by
  apply BitVec.eq_of_getLsbD_eq
  intro i hi
  have hmod : (i + a) % 64 < 64 := Nat.mod_lt _ (by decide)
  rw [getLsbD_rotateRight _ ha hi, BitVec.getLsbD_not, BitVec.getLsbD_not,
    getLsbD_rotateRight _ ha hi, decide_eq_true hi, decide_eq_true hmod]

/-- The linear layer of `round64.h` is the one of `round32.h`. -/
theorem nested_eq_shifts (t : BitVec 64) {a b : Nat} (hb : 0 < b) (h : a + b < 64) :
    t ^^^ (t ^^^ t.rotateRight a).rotateRight b =
      t ^^^ (t >>> b ^^^ t <<< (64 - b) ^^^ t >>> (a + b) ^^^ t <<< (64 - (a + b))) := by
  rw [rotateRight_xor _ _ (by omega), rotateRight_rotateRight t h,
    rotateRight_eq_shifts t hb (by omega), rotateRight_eq_shifts t (by omega) h,
    BitVec.xor_assoc (t >>> b ^^^ _)]

/-- The same with the shifts the other way round. -/
theorem nested_eq_shifts' (t : BitVec 64) {a b : Nat} (hb : 0 < b) (h : a + b < 64) :
    t ^^^ (t ^^^ t.rotateRight a).rotateRight b =
      t ^^^ (t >>> (a + b) ^^^ t <<< (64 - (a + b)) ^^^ t >>> b ^^^ t <<< (64 - b)) := by
  rw [nested_eq_shifts t hb h, BitVec.xor_assoc (t >>> b ^^^ _), BitVec.xor_comm (t >>> b ^^^ _),
    ← BitVec.xor_assoc (t >>> (a + b) ^^^ _)]

/-- Every state is led to the same state by the two forms of a round. -/
theorem round32_eq_round64 (C : BitVec 64) (s : State) : round32 C s = round64 C s := by
  -- a word that was combined before it is read again
  have hand (x y u v : BitVec 64) :
      x ^^^ (y &&& ~~~(u ^^^ (v &&& ~~~y))) = x ^^^ (~~~u &&& y) := by
    apply BitVec.eq_of_getLsbD_eq
    intro i hi
    simp only [BitVec.getLsbD_xor, BitVec.getLsbD_and, BitVec.getLsbD_not, hi, decide_true,
      Bool.true_and]
    cases x.getLsbD i <;> cases y.getLsbD i <;> cases u.getLsbD i <;> cases v.getLsbD i <;> rfl
  have hnot (t : BitVec 64) : ~~~(t ^^^ (t ^^^ t.rotateRight 5).rotateRight 1) =
      ~~~t ^^^ (~~~t ^^^ (~~~t).rotateRight 5).rotateRight 1 := by
    have hinner : ~~~t ^^^ ~~~t.rotateRight 5 = t ^^^ t.rotateRight 5 := by
      rw [← BitVec.not_xor_left, ← BitVec.not_xor_right, BitVec.not_not]
    rw [rotateRight_not _ (by decide), hinner, BitVec.not_xor_left]
  unfold round64
  dsimp only
  rw [hnot, nested_eq_shifts _ (by decide) (by decide), nested_eq_shifts' _ (by decide) (by decide),
    nested_eq_shifts _ (by decide) (by decide), nested_eq_shifts _ (by decide) (by decide),
    nested_eq_shifts _ (by decide) (by decide)]
  unfold round32
  dsimp only
  rw [hand, hand]
  simp only [BitVec.and_comm]

-- ---------------------------------------------------------------------------
-- Fragments of a word
-- ---------------------------------------------------------------------------

/-- The first `n` bytes of a word, the others zero. -/
def top (w : BitVec 64) (n : Nat) : BitVec 64 := w &&& ~~~(BitVec.allOnes 64 >>> (8 * n))

/-- A word is its first bytes and its other bytes. -/
theorem top_xor_clear (w : BitVec 64) (n : Nat) : top w n ^^^ clear w n = w := by
  apply BitVec.eq_of_getLsbD_eq
  intro i hi
  simp only [top, clear, BitVec.getLsbD_xor, BitVec.getLsbD_and, BitVec.getLsbD_not, hi,
    decide_true, Bool.true_and]
  cases w.getLsbD i <;> cases (BitVec.allOnes 64 >>> (8 * n)).getLsbD i <;> rfl

/-- A mask goes through the combination of words. -/
private theorem xor_and (v w mask : BitVec 64) :
    (v ^^^ w) &&& mask = (v &&& mask) ^^^ (w &&& mask) := by
  apply BitVec.eq_of_getLsbD_eq
  intro i _
  simp only [BitVec.getLsbD_xor, BitVec.getLsbD_and, Bool.and_xor_distrib_right]

theorem top_xor (v w : BitVec 64) (n : Nat) : top (v ^^^ w) n = top v n ^^^ top w n :=
  xor_and v w _

theorem clear_xor (v w : BitVec 64) (n : Nat) : clear (v ^^^ w) n = clear v n ^^^ clear w n :=
  xor_and v w _

/-- The first bytes are kept by keeping them again. -/
theorem top_top (w : BitVec 64) (n : Nat) : top (top w n) n = top w n := by
  rw [top, top, BitVec.and_assoc, BitVec.and_self]

/-- The first bytes have no other bytes. -/
theorem clear_top (w : BitVec 64) (n : Nat) : clear (top w n) n = 0#64 := by
  rw [clear, top, BitVec.and_assoc, BitVec.and_comm (~~~_), BitVec.and_not_self]
  exact BitVec.and_zero

theorem length_storeBytes (w : BitVec 64) {n : Nat} (h : n ≤ 8) : (storeBytes w n).length = n := by
  rw [storeBytes, List.length_take]
  exact Nat.min_eq_left h

/-- The stored bytes stand from the word's highest one down. -/
theorem byte_storeBytes (w : BitVec 64) {n i : Nat} (h : i < 8) :
    byte (storeBytes w n) i = if i < n then w.extractLsb' (56 - 8 * i) 8 else 0 := by
  rw [byte, List.getD_eq_getElem?_getD, storeBytes, List.getElem?_take]
  split
  · rcases i with _ | _ | _ | _ | _ | _ | _ | _ | i
    all_goals first | rfl | omega
  · rfl

/-- Of the first `n` bytes the word has the upper `8 * n` bits. -/
theorem getLsbD_top (w : BitVec 64) (n : Nat) {i : Nat} (hi : i < 64) :
    (top w n).getLsbD i = (w.getLsbD i && decide (64 ≤ i + 8 * n)) := by
  rw [top, BitVec.getLsbD_and, BitVec.getLsbD_not, BitVec.getLsbD_ushiftRight,
    BitVec.getLsbD_allOnes, decide_eq_true hi, Bool.true_and, ← decide_not]
  congr 2
  exact propext (by omega)

/-- A bit of a word is a bit of one of the bytes. -/
theorem getLsbD_loadBytes (b : Bytes) {i : Nat} (hi : i < 64) :
    (loadBytes b).getLsbD i = (byte b (7 - i / 8)).getLsbD (i % 8) := by
  have hdiv : i = 8 * (i / 8) + i % 8 := (Nat.div_add_mod i 8).symm
  have hmod : i % 8 < 8 := Nat.mod_lt _ (by decide)
  have hlt : i / 8 < 8 := by omega
  -- one case for each of the word's eight bytes
  generalize i / 8 = k at hdiv hlt
  generalize i % 8 = j at hdiv hmod
  subst hdiv
  rcases k with _ | _ | _ | _ | _ | _ | _ | _ | k
  all_goals first
    | omega
    | simp only [loadBytes, BitVec.getLsbD_append]
      grind

/-- The bytes of a word. -/
theorem extractLsb'_loadBytes (b : Bytes) {i : Nat} (hi : i < 8) :
    (loadBytes b).extractLsb' (56 - 8 * i) 8 = byte b i := by
  apply BitVec.eq_of_getLsbD_eq
  intro j hj
  rw [BitVec.getLsbD_extractLsb', decide_eq_true hj, Bool.true_and, getLsbD_loadBytes b (by omega)]
  congr 2 <;> omega

/-- Loading stored bytes gives the word's first bytes. -/
theorem loadBytes_storeBytes (w : BitVec 64) {n : Nat} (h : n ≤ 8) :
    loadBytes (storeBytes w n) = top w n := by
  apply BitVec.eq_of_getLsbD_eq
  intro i hi
  rw [getLsbD_loadBytes _ hi, getLsbD_top w n hi, byte_storeBytes w (by omega)]
  -- a bit of a byte that was stored, or of one that was not and reads as zero
  split
  · rw [decide_eq_true (by omega), Bool.and_true, BitVec.getLsbD_extractLsb',
      decide_eq_true (by omega), Bool.true_and]
    congr 1
    omega
  · rw [decide_eq_false (by omega), Bool.and_false]
    exact BitVec.getLsbD_zero

/-- Storing a loaded fragment gives it back. -/
theorem storeBytes_loadBytes {b : Bytes} (h : b.length ≤ 8) :
    storeBytes (loadBytes b) b.length = b := by
  apply List.ext_getElem (length_storeBytes _ h)
  intro i hi hi'
  have hbyte := byte_storeBytes (loadBytes b) (n := b.length) (i := i) (by omega)
  rw [if_pos hi', extractLsb'_loadBytes b (by omega), byte, byte, List.getD_eq_getElem _ _ hi,
    List.getD_eq_getElem _ _ hi'] at hbyte
  exact hbyte

/-- A loaded fragment fills the first bytes of the word. -/
theorem top_loadBytes (b : Bytes) : top (loadBytes b) b.length = loadBytes b := by
  apply BitVec.eq_of_getLsbD_eq
  intro i hi
  rw [getLsbD_top _ _ hi, getLsbD_loadBytes _ hi]
  rcases Nat.lt_or_ge (7 - i / 8) b.length with h | h
  · rw [decide_eq_true (by omega), Bool.and_true]
  · rw [byte, List.getD_eq_default _ _ h]
    simp

/-- A loaded fragment leaves the other bytes of the word zero. -/
theorem clear_loadBytes (b : Bytes) : clear (loadBytes b) b.length = 0#64 := by
  rw [← top_loadBytes, clear_top]

/-- Only the first bytes of the word are stored. -/
theorem storeBytes_top (w : BitVec 64) {n : Nat} (h : n ≤ 8) :
    storeBytes (top w n) n = storeBytes w n := by
  have hstore := storeBytes_loadBytes (b := storeBytes w n) (by rw [length_storeBytes w h]; exact h)
  rwa [loadBytes_storeBytes w h, length_storeBytes w h] at hstore

-- ---------------------------------------------------------------------------
-- The two directions
-- ---------------------------------------------------------------------------

/-- A fragment is found again in the word that it was combined with. -/
theorem top_fragment (y : BitVec 64) {w : BitVec 64} {n : Nat} (h : top w n = w) :
    top (y ^^^ top (y ^^^ w) n) n = w := by
  rw [top_xor, top_top, top_xor, h, ← BitVec.xor_assoc, BitVec.xor_self, BitVec.zero_xor]

/-- What is left when the fragment is overwritten is what was left before. -/
theorem clear_fragment (y : BitVec 64) {w : BitVec 64} {n : Nat} (h : clear w n = 0#64) :
    clear (y ^^^ w) n = clear y n := by
  rw [clear_xor, h, BitVec.xor_zero]

/-- Eight stored bytes are the word. -/
theorem loadBytes_storeBytes_eight (w : BitVec 64) : loadBytes (storeBytes w 8) = w := by
  have hclear : clear w 8 = 0#64 := by
    rw [clear, show BitVec.allOnes 64 >>> (8 * 8) = 0#64 by decide]
    exact BitVec.and_zero
  have hsplit := top_xor_clear w 8
  rwa [hclear, BitVec.xor_zero, ← loadBytes_storeBytes w (Nat.le_refl 8)] at hsplit

theorem length_encryptBlocks {n : Nat} {s : State} {m : Bytes} (h : m.length / 8 = n) :
    (encryptBlocks n s m).1.length = m.length := by
  induction n generalizing s m with
  | zero =>
    -- the fragment behind the last whole block, which may be empty
    unfold encryptBlocks
    dsimp only
    split
    · rename_i hzero
      exact hzero.symm
    · exact length_storeBytes _ (by omega)
  | succ n ih =>
    rw [encryptBlocks, List.length_append, length_storeBytes _ (Nat.le_refl 8),
      ih (by rw [List.length_drop]; omega), List.length_drop]
    omega

theorem length_decryptBlocks {n : Nat} {s : State} {c : Bytes} (h : c.length / 8 = n) :
    (decryptBlocks n s c).1.length = c.length := by
  induction n generalizing s c with
  | zero =>
    -- the fragment behind the last whole block, which may be empty
    unfold decryptBlocks
    dsimp only
    split
    · rename_i hzero
      exact hzero.symm
    · exact length_storeBytes _ (by omega)
  | succ n ih =>
    rw [decryptBlocks, List.length_append, length_storeBytes _ (Nat.le_refl 8),
      ih (by rw [List.length_drop]; omega), List.length_drop]
    omega

/-- The cipher text is decrypted again, and the state after it is the same. -/
theorem decryptBlocks_encryptBlocks {n : Nat} {s : State} {m : Bytes} (h : m.length / 8 = n) :
    decryptBlocks n s (encryptBlocks n s m).1 = (m, (encryptBlocks n s m).2) := by
  induction n generalizing s m with
  | zero =>
    have hlt : m.length < 8 := by omega
    by_cases hzero : m.length = 0
    · have hnil : m = [] := List.length_eq_zero_iff.mp hzero
      subst hnil
      rfl
    · have hlen := length_encryptBlocks (s := s) h
      rw [encryptBlocks, if_neg hzero] at hlen ⊢
      dsimp only at hlen ⊢
      rw [decryptBlocks, hlen, if_neg hzero]
      generalize s.x0 ^^^ pad m.length = y at hlen ⊢
      dsimp only
      rw [loadBytes_storeBytes _ (by omega)]
      -- the fragment, and the word with the rest of it
      have hword := top_fragment y (top_loadBytes m)
      have hstate : clear (y ^^^ top (y ^^^ loadBytes m) m.length) m.length
          ^^^ top (y ^^^ loadBytes m) m.length = y ^^^ loadBytes m := by
        rw [clear_fragment y (clear_top _ _), ← clear_fragment y (clear_loadBytes m),
          BitVec.xor_comm, top_xor_clear]
      rw [hstate, ← storeBytes_top _ (by omega), hword, storeBytes_loadBytes (by omega)]
  | succ n ih =>
    have htake : (m.take 8).length = 8 := by
      rw [List.length_take]
      omega
    have hstore : (storeBytes (s.x0 ^^^ loadBytes (m.take 8)) 8).length = 8 :=
      length_storeBytes _ (Nat.le_refl 8)
    have hload := storeBytes_loadBytes (b := m.take 8) (by omega)
    rw [htake] at hload
    rw [encryptBlocks, decryptBlocks, List.take_left' hstore, List.drop_left' hstore,
      loadBytes_storeBytes_eight, ih (by rw [List.length_drop]; omega), ← BitVec.xor_assoc,
      BitVec.xor_self, BitVec.zero_xor, hload, List.take_append_drop]

/-- Every text is a cipher text: what it is decrypted to is encrypted to it. -/
theorem encryptBlocks_decryptBlocks {n : Nat} {s : State} {c : Bytes} (h : c.length / 8 = n) :
    encryptBlocks n s (decryptBlocks n s c).1 = (c, (decryptBlocks n s c).2) := by
  induction n generalizing s c with
  | zero =>
    -- the fragment: encryption keeps its word whole, decryption only its first bytes
    have hlt : c.length < 8 := by omega
    by_cases hzero : c.length = 0
    · have hnil : c = [] := List.length_eq_zero_iff.mp hzero
      subst hnil
      rfl
    · have hlen := length_decryptBlocks (s := s) h
      rw [decryptBlocks, if_neg hzero] at hlen ⊢
      dsimp only at hlen ⊢
      rw [encryptBlocks, hlen, if_neg hzero]
      generalize s.x0 ^^^ pad c.length = y at hlen ⊢
      dsimp only
      rw [loadBytes_storeBytes _ (by omega)]
      -- the first bytes of the word are the cipher text, the others are the pad's
      have hword := top_fragment y (top_loadBytes c)
      have hstate : y ^^^ top (y ^^^ loadBytes c) c.length =
          clear (y ^^^ loadBytes c) c.length ^^^ loadBytes c := by
        rw [← top_xor_clear (y ^^^ top (y ^^^ loadBytes c) c.length) c.length, hword,
          clear_fragment y (clear_top _ _), clear_fragment y (clear_loadBytes c), BitVec.xor_comm]
      rw [← hstate, ← storeBytes_top _ (by omega), hword, storeBytes_loadBytes (by omega)]
  | succ n ih =>
    -- a whole block: its word comes back, and so does the state's
    have htake : (c.take 8).length = 8 := by
      rw [List.length_take]
      omega
    have hstore : (storeBytes (s.x0 ^^^ loadBytes (c.take 8)) 8).length = 8 :=
      length_storeBytes _ (Nat.le_refl 8)
    have hload := storeBytes_loadBytes (b := c.take 8) (by omega)
    rw [htake] at hload
    rw [decryptBlocks, encryptBlocks, List.take_left' hstore, List.drop_left' hstore,
      loadBytes_storeBytes_eight, ← BitVec.xor_assoc, BitVec.xor_self, BitVec.zero_xor,
      ih (by rw [List.length_drop]; omega), hload, List.take_append_drop]

/-- The low byte of a word that is folded has a bit of each byte. -/
theorem folded_eq_zero {r : BitVec 64}
    (h : (r ||| r >>> 32 ||| (r ||| r >>> 32) >>> 16 |||
      (r ||| r >>> 32 ||| (r ||| r >>> 32) >>> 16) >>> 8).setWidth 8 = 0#8) : r = 0#64 := by
  apply BitVec.eq_of_getLsbD_eq
  intro i hi
  have hmod : i % 8 < 8 := Nat.mod_lt _ (by decide)
  -- bit `i` was folded onto bit `i % 8`, and nothing can cancel in a disjunction
  have hbit := congrArg (fun w : BitVec 8 => w.getLsbD (i % 8)) h
  simp only [BitVec.getLsbD_setWidth, hmod, decide_true, Bool.true_and, BitVec.getLsbD_or,
    BitVec.getLsbD_ushiftRight, BitVec.getLsbD_zero, Bool.or_eq_false_iff] at hbit
  have hdiv : 8 * (i / 8) + i % 8 = i := Nat.div_add_mod i 8
  have hlt : i / 8 < 8 := by omega
  rw [BitVec.getLsbD_zero, ← hdiv]
  -- one case for each of the word's eight bytes
  generalize i / 8 = k at hlt
  generalize i % 8 = j at hbit
  rcases k with _ | _ | _ | _ | _ | _ | _ | _ | k
  all_goals grind

/-- `ASCON_NOTZERO` is zero for two words of zero only. -/
theorem notZero_eq_zero_iff (a b : BitVec 64) : notZero a b = 0 ↔ a = 0#64 ∧ b = 0#64 := by
  constructor
  -- the folded word is zero as a number below 256, so as a word
  · intro h
    rw [← BitVec.or_eq_zero_iff]
    apply folded_eq_zero
    unfold notZero at h
    dsimp only at h
    apply BitVec.eq_of_toNat_eq
    rw [BitVec.toNat_setWidth, BitVec.toNat_ofNat]
    have hlt := Nat.mod_lt (a ||| b ||| (a ||| b) >>> 32 ||| (a ||| b ||| (a ||| b) >>> 32) >>> 16
      ||| (a ||| b ||| (a ||| b) >>> 32 ||| (a ||| b ||| (a ||| b) >>> 32) >>> 16)
        >>> 8).toNat (y := 256) (by decide)
    omega
  · rintro ⟨rfl, rfl⟩
    rfl

-- ---------------------------------------------------------------------------
-- Authenticated texts
-- ---------------------------------------------------------------------------

/-- Words are equal when nothing is left of their combination. -/
theorem eq_iff_xor_eq_zero (v w : BitVec 64) : v ^^^ w = 0#64 ↔ v = w := by
  constructor
  · intro h
    have hcancel : v ^^^ w ^^^ w = v := by rw [BitVec.xor_assoc, BitVec.xor_self, BitVec.xor_zero]
    rw [← hcancel, h, BitVec.zero_xor]
  · rintro rfl
    exact BitVec.xor_self

theorem length_aeadEncrypt (mtext ad nonce k : Bytes) :
    (aeadEncrypt mtext ad nonce k).1.length = mtext.length := length_encryptBlocks rfl

theorem length_tag (mtext ad nonce k : Bytes) : (aeadEncrypt mtext ad nonce k).2.length = 16 := rfl

/-- A tag is the bytes of two words. -/
theorem tag_eq_iff {tag : Bytes} (h : tag.length = 16) (v w : BitVec 64) :
    storeBytes v 8 ++ storeBytes w 8 = tag ↔
      v = loadBytes (slice tag 0 8) ∧ w = loadBytes (slice tag 8 8) := by
  have hsplit : tag = slice tag 0 8 ++ slice tag 8 8 := by
    have hall := eq_slice_append (b := tag) (n := 8) (by omega)
    rwa [h] at hall
  have hlow : (slice tag 0 8).length = 8 := length_slice (by omega)
  have hhigh : (slice tag 8 8).length = 8 := length_slice (by omega)
  -- both words store eight bytes, so the tag splits in the middle
  constructor
  · intro htag
    rw [hsplit] at htag
    obtain ⟨hv, hw⟩ := List.append_inj htag (by rw [hlow, length_storeBytes _ (Nat.le_refl 8)])
    rw [← hv, ← hw, loadBytes_storeBytes_eight, loadBytes_storeBytes_eight]
    exact ⟨rfl, rfl⟩
  · rintro ⟨rfl, rfl⟩
    have hl := storeBytes_loadBytes (b := slice tag 0 8) (by omega)
    have hr := storeBytes_loadBytes (b := slice tag 8 8) (by omega)
    rw [hlow] at hl
    rw [hhigh] at hr
    rw [hl, hr, ← hsplit]

/-- The difference of the computed and the given tag is zero when they are equal. -/
theorem notZero_tag_iff {tag : Bytes} (h : tag.length = 16) (v w : BitVec 64) :
    notZero (v ^^^ loadBytes (slice tag 0 8)) (w ^^^ loadBytes (slice tag 8 8)) = 0 ↔
      storeBytes v 8 ++ storeBytes w 8 = tag := by
  rw [notZero_eq_zero_iff, eq_iff_xor_eq_zero, eq_iff_xor_eq_zero, tag_eq_iff h]

/-- What is accepted is what is encrypted: a text comes out with the result zero if and only if
it is encrypted to the cipher text and the tag. -/
theorem aeadDecrypt_eq_zero_iff {ctext tag mtext : Bytes} (ad nonce k : Bytes)
    (h : tag.length = 16) : aeadDecrypt ctext ad tag nonce k = (mtext, 0) ↔
      16 ≤ mtext.length ∧ aeadEncrypt mtext ad nonce k = (ctext, tag) := by
  unfold aeadDecrypt aeadEncrypt decrypt encrypt
  dsimp only
  generalize start ad nonce k = s
  -- an accepted text is decrypted, and encrypting it again gives the text and the tag back
  constructor
  · intro hdec
    split at hdec
    · have hrc : (-1 : Int) = 0 := congrArg Prod.snd hdec
      omega
    · rename_i hlong
      obtain ⟨htext, hrc⟩ := Prod.mk.inj hdec
      rw [notZero_tag_iff h] at hrc
      have hlen : mtext.length = ctext.length := by
        rw [← htext]
        exact length_decryptBlocks rfl
      have hback := encryptBlocks_decryptBlocks (s := s) (c := ctext) rfl
      rw [htext] at hback
      rw [hlen, hback]
      exact ⟨by omega, Prod.ext rfl hrc⟩
  -- the tag of an encrypted text is compared with itself
  · rintro ⟨hlen, henc⟩
    obtain ⟨htext, htag⟩ := Prod.mk.inj henc
    have hclen : ctext.length = mtext.length := by
      rw [← htext]
      exact length_encryptBlocks rfl
    have hback := decryptBlocks_encryptBlocks (s := s) (m := mtext) rfl
    rw [htext] at hback
    rw [if_neg (by omega), hclen, hback, (notZero_tag_iff h _ _).mpr htag]

/-- The text comes back whatever tag is compared. -/
theorem aeadDecrypt_aeadEncrypt {mtext : Bytes} (h : 16 ≤ mtext.length) (ad tag nonce k : Bytes) :
    (aeadDecrypt (aeadEncrypt mtext ad nonce k).1 ad tag nonce k).1 = mtext := by
  have hlen := length_aeadEncrypt mtext ad nonce k
  have hback := decryptBlocks_encryptBlocks (s := start ad nonce k) (m := mtext) rfl
  rw [aeadDecrypt, if_neg (by omega)]
  dsimp only
  rw [decrypt, hlen, aeadEncrypt, encrypt, hback]

theorem length_aeadDecrypt (ctext ad tag nonce k : Bytes) :
    (aeadDecrypt ctext ad tag nonce k).1.length = ctext.length := by
  unfold aeadDecrypt
  split
  · rfl
  · exact length_decryptBlocks rfl

end Ascon

end SqliteMc
