import SqliteMc.Lib.Buffer

/-!
# Digests

The digests of the codec: MD5 of `md5.c`, SHA-1 of `sha1.c`, SHA-256 and SHA-512 of `sha2.c`, and
HMAC and PBKDF2 of `fastpbkdf2.c` on top of the last three. A message is hashed as a whole, where
the source takes it in pieces.

What the page ciphers are proved to do holds of any functions with results of these lengths:
`Digests` are such functions, and `Digests.vendored` are the ones of the source.
-/

namespace SqliteMc

namespace Native

open Buffer

/-- `MD5_Final`, `sha1_final`, `sha256`, `sqlcipher_hmac` and the functions of `fastpbkdf2`, of
which each has an algorithm 0 (SHA-1), 1 (SHA-256) or 2 (SHA-512). -/
structure Digests where
  md5 : Bytes → Bytes
  sha1 : Bytes → Bytes
  sha256 : Bytes → Bytes
  hmac : Nat → Bytes → Bytes → Bytes
  pbkdf2 : Nat → Bytes → Bytes → Nat → Bytes
  length_md5 : ∀ b, (md5 b).length = 16
  length_sha1 : ∀ b, (sha1 b).length = 20
  length_sha256 : ∀ b, (sha256 b).length = 32
  length_hmac : ∀ algorithm key b, (hmac algorithm key b).length =
    if algorithm = 0 then 20 else if algorithm = 1 then 32 else 64
  length_pbkdf2 : ∀ algorithm password salt count,
    (pbkdf2 algorithm password salt count).length = 32

namespace Digest

variable {w : Nat}

-- ---------------------------------------------------------------------------
-- Words and blocks
-- ---------------------------------------------------------------------------

/-- `PACK32` and `PACK64`. -/
def loadBE (w : Nat) (b : Bytes) : BitVec w := b.foldl (fun x c => x <<< 8 ||| c.setWidth w) 0

/-- `UNPACK32` and `UNPACK64`. -/
def storeBE (x : BitVec w) : Bytes :=
  (List.range (w / 8)).map fun i => (x >>> (w - 8 * (i + 1))).setWidth 8

/-- The first `n` words of a state as bytes. -/
def output (store : BitVec w → Bytes) (n : Nat) (h : List (BitVec w)) : Bytes :=
  (List.range n).flatMap fun i => store (h.getD i 0)

/-- The message with the byte `0x80`, the zeros that fill the last block, and its length. -/
def padded (block : Nat) (message lengthField : Bytes) : Bytes :=
  let used := message.length + 1 + lengthField.length
  message ++ [0x80] ++ zeros ((block - used % block) % block) ++ lengthField

/-- The state after all blocks of a message. -/
def run (transform : List (BitVec w) → Bytes → List (BitVec w)) (block : Nat) (h : List (BitVec w))
    (message : Bytes) : List (BitVec w) :=
  (List.range (message.length / block)).foldl
    (fun h i => transform h (slice message (block * i) block)) h

/-- The words of a message schedule from a window of the last 16 on. -/
def schedule (next : List (BitVec w) → BitVec w) : Nat → List (BitVec w) → List (BitVec w)
  | 0, _ => []
  | n + 1, window => window.getD 0 0 :: schedule next n (window.tail ++ [next window])

/-- The 16 words of a block. -/
def words (w : Nat) (block : Bytes) : List (BitVec w) :=
  (List.range 16).map fun j => loadBE w (slice block (w / 8 * j) (w / 8))

-- ---------------------------------------------------------------------------
-- MD5
-- ---------------------------------------------------------------------------

def F (x y z : BitVec 32) : BitVec 32 := z ^^^ (x &&& (y ^^^ z))

def G (x y z : BitVec 32) : BitVec 32 := y ^^^ (z &&& (x ^^^ y))

/-- `H`, and `H2` that brackets the other way. -/
def H (x y z : BitVec 32) : BitVec 32 := x ^^^ y ^^^ z

def I (x y z : BitVec 32) : BitVec 32 := y ^^^ (x ||| ~~~z)

/-- A round of 16 steps: the word of the block, the constant and the shift of each. -/
def md5Rounds : List ((BitVec 32 → BitVec 32 → BitVec 32 → BitVec 32) × List (Nat × BitVec 32 × Nat)) :=
  [(F,
  [(0, 0xd76aa478, 7), (1, 0xe8c7b756, 12), (2, 0x242070db, 17), (3, 0xc1bdceee, 22),
   (4, 0xf57c0faf, 7), (5, 0x4787c62a, 12), (6, 0xa8304613, 17), (7, 0xfd469501, 22),
   (8, 0x698098d8, 7), (9, 0x8b44f7af, 12), (10, 0xffff5bb1, 17), (11, 0x895cd7be, 22),
   (12, 0x6b901122, 7), (13, 0xfd987193, 12), (14, 0xa679438e, 17), (15, 0x49b40821, 22)]),
  (G,
  [(1, 0xf61e2562, 5), (6, 0xc040b340, 9), (11, 0x265e5a51, 14), (0, 0xe9b6c7aa, 20),
   (5, 0xd62f105d, 5), (10, 0x02441453, 9), (15, 0xd8a1e681, 14), (4, 0xe7d3fbc8, 20),
   (9, 0x21e1cde6, 5), (14, 0xc33707d6, 9), (3, 0xf4d50d87, 14), (8, 0x455a14ed, 20),
   (13, 0xa9e3e905, 5), (2, 0xfcefa3f8, 9), (7, 0x676f02d9, 14), (12, 0x8d2a4c8a, 20)]),
  (H,
  [(5, 0xfffa3942, 4), (8, 0x8771f681, 11), (11, 0x6d9d6122, 16), (14, 0xfde5380c, 23),
   (1, 0xa4beea44, 4), (4, 0x4bdecfa9, 11), (7, 0xf6bb4b60, 16), (10, 0xbebfbc70, 23),
   (13, 0x289b7ec6, 4), (0, 0xeaa127fa, 11), (3, 0xd4ef3085, 16), (6, 0x04881d05, 23),
   (9, 0xd9d4d039, 4), (12, 0xe6db99e5, 11), (15, 0x1fa27cf8, 16), (2, 0xc4ac5665, 23)]),
  (I,
  [(0, 0xf4292244, 6), (7, 0x432aff97, 10), (14, 0xab9423a7, 15), (5, 0xfc93a039, 21),
   (12, 0x655b59c3, 6), (3, 0x8f0ccc92, 10), (10, 0xffeff47d, 15), (1, 0x85845dd1, 21),
   (8, 0x6fa87e4f, 6), (15, 0xfe2ce6e0, 10), (6, 0xa3014314, 15), (13, 0x4e0811a1, 21),
   (4, 0xf7537e82, 6), (11, 0xbd3af235, 10), (2, 0x2ad7d2bb, 15), (9, 0xeb86d391, 21)])]

/-- `STEP`, after which the four words have each other's roles. -/
def md5Step (f : BitVec 32 → BitVec 32 → BitVec 32 → BitVec 32) (block : Bytes)
    (h : List (BitVec 32)) (step : Nat × BitVec 32 × Nat) : List (BitVec 32) :=
  let (a, b, c, d) := (h.getD 0 0, h.getD 1 0, h.getD 2 0, h.getD 3 0)
  let x := load32LE block (4 * step.1)
  [d, (a + f b c d + x + step.2.1).rotateLeft step.2.2 + b, b, c]

/-- `body` for one block. -/
def md5Transform (h : List (BitVec 32)) (block : Bytes) : List (BitVec 32) :=
  List.zipWith (· + ·) h
    (md5Rounds.foldl (fun h round => round.2.foldl (md5Step round.1 block) h) h)

/-- `MD5_Init`, `MD5_Update` and `MD5_Final`. The length is in bits. -/
def md5 (message : Bytes) : Bytes :=
  let bits := BitVec.ofNat 64 (8 * message.length)
  output store32LE 4 (run md5Transform 64 [0x67452301, 0xefcdab89, 0x98badcfe, 0x10325476]
    (padded 64 message (storeBE bits).reverse))

-- ---------------------------------------------------------------------------
-- SHA-1
-- ---------------------------------------------------------------------------

/-- The macros `R0` to `R4` with the word of the schedule and the number of the step. -/
def sha1Step (h : List (BitVec 32)) (step : BitVec 32 × Nat) : List (BitVec 32) :=
  let (v, w, x, y, z) := (h.getD 0 0, h.getD 1 0, h.getD 2 0, h.getD 3 0, h.getD 4 0)
  let f :=
    if step.2 < 20 then ((w &&& (x ^^^ y)) ^^^ y) + 0x5A827999
    else if step.2 < 40 then (w ^^^ x ^^^ y) + 0x6ED9EBA1
    else if step.2 < 60 then (((w ||| x) &&& y) ||| (w &&& x)) + 0x8F1BBCDC
    else (w ^^^ x ^^^ y) + 0xCA62C1D6
  [z + f + step.1 + v.rotateLeft 5, v, w.rotateRight 2, x, y]

/-- `blk`. -/
def sha1Next (window : List (BitVec 32)) : BitVec 32 :=
  (window.getD 13 0 ^^^ window.getD 8 0 ^^^ window.getD 2 0 ^^^ window.getD 0 0).rotateLeft 1

/-- `sha1_transform`. -/
def sha1Transform (h : List (BitVec 32)) (block : Bytes) : List (BitVec 32) :=
  List.zipWith (· + ·) h ((schedule sha1Next 80 (words 32 block)).zipIdx.foldl sha1Step h)

/-- `sha1_init`, `sha1_update` and `sha1_final`. -/
def sha1 (message : Bytes) : Bytes :=
  output storeBE 5 (run sha1Transform 64
    [0x67452301, 0xefcdab89, 0x98badcfe, 0x10325476, 0xc3d2e1f0]
    (padded 64 message (storeBE (BitVec.ofNat 64 (8 * message.length)))))

-- ---------------------------------------------------------------------------
-- SHA-2
-- ---------------------------------------------------------------------------

/-- `CH`. -/
def ch (x y z : BitVec w) : BitVec w := (x &&& y) ^^^ (~~~x &&& z)

/-- `MAJ`. -/
def maj (x y z : BitVec w) : BitVec w := (x &&& y) ^^^ (x &&& z) ^^^ (y &&& z)

/-- The functions `F1` to `F4` and the constants of one width. -/
structure Sha2 (w : Nat) where
  F1 : BitVec w → BitVec w
  F2 : BitVec w → BitVec w
  F3 : BitVec w → BitVec w
  F4 : BitVec w → BitVec w
  k : List (BitVec w)

/-- `SHA256_SCR` and `SHA512_SCR`. -/
def Sha2.scr (s : Sha2 w) (window : List (BitVec w)) : BitVec w :=
  s.F4 (window.getD 14 0) + window.getD 9 0 + s.F3 (window.getD 1 0) + window.getD 0 0

/-- A turn of the loop over the constants and the schedule. -/
def Sha2.step (s : Sha2 w) (wv : List (BitVec w)) (kw : BitVec w × BitVec w) : List (BitVec w) :=
  let (a, b, c, d) := (wv.getD 0 0, wv.getD 1 0, wv.getD 2 0, wv.getD 3 0)
  let (e, f, g, h) := (wv.getD 4 0, wv.getD 5 0, wv.getD 6 0, wv.getD 7 0)
  let t1 := h + s.F2 e + ch e f g + kw.1 + kw.2
  let t2 := s.F1 a + maj a b c
  [t1 + t2, a, b, c, d + t1, e, f, g]

/-- `sha256_transf` and `sha512_transf` for one block. -/
def Sha2.transform (s : Sha2 w) (h : List (BitVec w)) (block : Bytes) : List (BitVec w) :=
  List.zipWith (· + ·) h
    ((s.k.zip (schedule s.scr s.k.length (words w block))).foldl s.step h)

def sha256Functions : Sha2 32 where
  F1 x := x.rotateRight 2 ^^^ x.rotateRight 13 ^^^ x.rotateRight 22
  F2 x := x.rotateRight 6 ^^^ x.rotateRight 11 ^^^ x.rotateRight 25
  F3 x := x.rotateRight 7 ^^^ x.rotateRight 18 ^^^ x >>> 3
  F4 x := x.rotateRight 17 ^^^ x.rotateRight 19 ^^^ x >>> 10
  k :=
    [0x428a2f98, 0x71374491, 0xb5c0fbcf, 0xe9b5dba5, 0x3956c25b, 0x59f111f1, 0x923f82a4,
     0xab1c5ed5, 0xd807aa98, 0x12835b01, 0x243185be, 0x550c7dc3, 0x72be5d74, 0x80deb1fe,
     0x9bdc06a7, 0xc19bf174, 0xe49b69c1, 0xefbe4786, 0x0fc19dc6, 0x240ca1cc, 0x2de92c6f,
     0x4a7484aa, 0x5cb0a9dc, 0x76f988da, 0x983e5152, 0xa831c66d, 0xb00327c8, 0xbf597fc7,
     0xc6e00bf3, 0xd5a79147, 0x06ca6351, 0x14292967, 0x27b70a85, 0x2e1b2138, 0x4d2c6dfc,
     0x53380d13, 0x650a7354, 0x766a0abb, 0x81c2c92e, 0x92722c85, 0xa2bfe8a1, 0xa81a664b,
     0xc24b8b70, 0xc76c51a3, 0xd192e819, 0xd6990624, 0xf40e3585, 0x106aa070, 0x19a4c116,
     0x1e376c08, 0x2748774c, 0x34b0bcb5, 0x391c0cb3, 0x4ed8aa4a, 0x5b9cca4f, 0x682e6ff3,
     0x748f82ee, 0x78a5636f, 0x84c87814, 0x8cc70208, 0x90befffa, 0xa4506ceb, 0xbef9a3f7,
     0xc67178f2]

def sha512Functions : Sha2 64 where
  F1 x := x.rotateRight 28 ^^^ x.rotateRight 34 ^^^ x.rotateRight 39
  F2 x := x.rotateRight 14 ^^^ x.rotateRight 18 ^^^ x.rotateRight 41
  F3 x := x.rotateRight 1 ^^^ x.rotateRight 8 ^^^ x >>> 7
  F4 x := x.rotateRight 19 ^^^ x.rotateRight 61 ^^^ x >>> 6
  k :=
    [0x428a2f98d728ae22, 0x7137449123ef65cd, 0xb5c0fbcfec4d3b2f, 0xe9b5dba58189dbbc,
     0x3956c25bf348b538, 0x59f111f1b605d019, 0x923f82a4af194f9b, 0xab1c5ed5da6d8118,
     0xd807aa98a3030242, 0x12835b0145706fbe, 0x243185be4ee4b28c, 0x550c7dc3d5ffb4e2,
     0x72be5d74f27b896f, 0x80deb1fe3b1696b1, 0x9bdc06a725c71235, 0xc19bf174cf692694,
     0xe49b69c19ef14ad2, 0xefbe4786384f25e3, 0x0fc19dc68b8cd5b5, 0x240ca1cc77ac9c65,
     0x2de92c6f592b0275, 0x4a7484aa6ea6e483, 0x5cb0a9dcbd41fbd4, 0x76f988da831153b5,
     0x983e5152ee66dfab, 0xa831c66d2db43210, 0xb00327c898fb213f, 0xbf597fc7beef0ee4,
     0xc6e00bf33da88fc2, 0xd5a79147930aa725, 0x06ca6351e003826f, 0x142929670a0e6e70,
     0x27b70a8546d22ffc, 0x2e1b21385c26c926, 0x4d2c6dfc5ac42aed, 0x53380d139d95b3df,
     0x650a73548baf63de, 0x766a0abb3c77b2a8, 0x81c2c92e47edaee6, 0x92722c851482353b,
     0xa2bfe8a14cf10364, 0xa81a664bbc423001, 0xc24b8b70d0f89791, 0xc76c51a30654be30,
     0xd192e819d6ef5218, 0xd69906245565a910, 0xf40e35855771202a, 0x106aa07032bbd1b8,
     0x19a4c116b8d2d0c8, 0x1e376c085141ab53, 0x2748774cdf8eeb99, 0x34b0bcb5e19b48a8,
     0x391c0cb3c5c95a63, 0x4ed8aa4ae3418acb, 0x5b9cca4f7763e373, 0x682e6ff3d6b2b8a3,
     0x748f82ee5defb2fc, 0x78a5636f43172f60, 0x84c87814a1f0ab72, 0x8cc702081a6439ec,
     0x90befffa23631e28, 0xa4506cebde82bde9, 0xbef9a3f7b2c67915, 0xc67178f2e372532b,
     0xca273eceea26619c, 0xd186b8c721c0c207, 0xeada7dd6cde0eb1e, 0xf57d4f7fee6ed178,
     0x06f067aa72176fba, 0x0a637dc5a2c898a6, 0x113f9804bef90dae, 0x1b710b35131c471b,
     0x28db77f523047d84, 0x32caab7b40c72493, 0x3c9ebe0a15c9bebc, 0x431d67c49c100d4c,
     0x4cc5d4becb3e42b6, 0x597f299cfc657e2a, 0x5fcb6fab3ad6faec, 0x6c44198c4a475817]

/-- `sha256`. The length is one word, the four bytes before it are zero. -/
def sha256 (message : Bytes) : Bytes :=
  output storeBE 8 (run sha256Functions.transform 64
    [0x6a09e667, 0xbb67ae85, 0x3c6ef372, 0xa54ff53a, 0x510e527f, 0x9b05688c, 0x1f83d9ab, 0x5be0cd19]
    (padded 64 message (zeros 4 ++ store32BE (BitVec.ofNat 32 (8 * message.length)))))

/-- `sha512`, likewise. -/
def sha512 (message : Bytes) : Bytes :=
  output storeBE 8 (run sha512Functions.transform 128
    [0x6a09e667f3bcc908, 0xbb67ae8584caa73b, 0x3c6ef372fe94f82b, 0xa54ff53a5f1d36f1,
     0x510e527fade682d1, 0x9b05688c2b3e6c1f, 0x1f83d9abfb41bd6b, 0x5be0cd19137e2179]
    (padded 128 message (zeros 12 ++ store32BE (BitVec.ofNat 32 (8 * message.length)))))

-- ---------------------------------------------------------------------------
-- HMAC and PBKDF2
-- ---------------------------------------------------------------------------

/-- The digest of an algorithm, and the size of its blocks. -/
def hash (algorithm : Nat) : Bytes → Bytes :=
  if algorithm = 0 then sha1 else if algorithm = 1 then sha256 else sha512

def blockSize (algorithm : Nat) : Nat := if algorithm = 0 ∨ algorithm = 1 then 64 else 128

def hashSize (algorithm : Nat) : Nat := if algorithm = 0 then 20 else if algorithm = 1 then 32 else 64

/-- `HMAC_INIT`, `HMAC_UPDATE` and `HMAC_FINAL`. -/
def hmac (algorithm : Nat) (key message : Bytes) : Bytes :=
  let size := blockSize algorithm
  let key := if size < key.length then hash algorithm key else key
  let k := key ++ zeros (size - key.length)
  hash algorithm (k.map (0x5c ^^^ ·) ++ hash algorithm (k.map (0x36 ^^^ ·) ++ message))

/-- The loop of `PBKDF2_F` over the iterations after the first. -/
def pbkdf2Loop (prf : Bytes → Bytes) : Nat → Bytes → Bytes → Bytes
  | 0, result, _ => result
  | count + 1, result, u => pbkdf2Loop prf count (Buffer.xor result (prf u)) (prf u)

/-- `PBKDF2_F`. -/
def pbkdf2F (algorithm : Nat) (password salt : Bytes) (iterations counter : Nat) : Bytes :=
  let prf := hmac algorithm password
  let u := prf (salt ++ store32BE (BitVec.ofNat 32 counter))
  pbkdf2Loop prf (iterations - 1) u u

/-- `PBKDF2` for a key of 32 bytes. -/
def pbkdf2 (algorithm : Nat) (password salt : Bytes) (iterations : Nat) : Bytes :=
  let blocksNeeded := (32 + hashSize algorithm - 1) / hashSize algorithm
  ((List.range blocksNeeded).flatMap fun i =>
    pbkdf2F algorithm password salt iterations (i + 1)).take 32

-- ---------------------------------------------------------------------------
-- Lengths
-- ---------------------------------------------------------------------------

theorem length_storeBE (x : BitVec w) : (storeBE x).length = w / 8 := by
  rw [storeBE, List.length_map, List.length_range]

theorem length_output {store : BitVec w → Bytes} {size : Nat} (h : ∀ x, (store x).length = size)
    (n : Nat) (state : List (BitVec w)) : (output store n state).length = n * size := by
  simp [output, List.length_flatMap, h]

theorem length_hash (algorithm : Nat) (message : Bytes) :
    (hash algorithm message).length = hashSize algorithm := by
  unfold hash hashSize
  split_ifs
  · exact length_output length_storeBE 5 _
  · exact length_output length_storeBE 8 _
  · exact length_output length_storeBE 8 _

theorem length_pbkdf2Loop {prf : Bytes → Bytes} {n : Nat} (h : ∀ b, (prf b).length = n)
    (count : Nat) {result : Bytes} (hresult : result.length = n) (u : Bytes) :
    (pbkdf2Loop prf count result u).length = n := by
  induction count generalizing result u with
  | zero => exact hresult
  | succ count ih =>
    refine ih ?_ _
    rw [length_xor, hresult, h, Nat.min_self]

/-- The blocks of a key are enough of them. -/
theorem length_pbkdf2 (algorithm : Nat) (password salt : Bytes) (iterations : Nat) :
    (pbkdf2 algorithm password salt iterations).length = 32 := by
  have hblock (counter : Nat) :
      (pbkdf2F algorithm password salt iterations counter).length = hashSize algorithm :=
    length_pbkdf2Loop (fun b => length_hash algorithm _) _ (length_hash algorithm _) _
  have hsize : hashSize algorithm = 20 ∨ hashSize algorithm = 32 ∨ hashSize algorithm = 64 := by
    unfold hashSize
    split_ifs <;> simp
  rw [pbkdf2, List.length_take, List.length_flatMap]
  simp only [hblock, List.map_const', List.sum_replicate_nat, List.length_range]
  rcases hsize with h | h | h <;> rw [h] <;> decide

end Digest

/-- The digests of the source. -/
def Digests.vendored : Digests where
  md5 := Digest.md5
  sha1 := Digest.sha1
  sha256 := Digest.sha256
  hmac := Digest.hmac
  pbkdf2 := Digest.pbkdf2
  length_md5 _ := Digest.length_output length_store32LE 4 _
  length_sha1 _ := Digest.length_output Digest.length_storeBE 5 _
  length_sha256 _ := Digest.length_output Digest.length_storeBE 8 _
  length_hmac algorithm _ _ := Digest.length_hash algorithm _
  length_pbkdf2 := Digest.length_pbkdf2

instance : Inhabited Digests := ⟨Digests.vendored⟩

/-- MD5 of `abc`. -/
example : Digests.vendored.md5 [0x61, 0x62, 0x63] =
    [0x90, 0x01, 0x50, 0x98, 0x3c, 0xd2, 0x4f, 0xb0, 0xd6, 0x96, 0x3f, 0x7d, 0x28, 0xe1, 0x7f, 0x72] := by
  decide +kernel

/-- SHA-1 of `abc`. -/
example : Digests.vendored.sha1 [0x61, 0x62, 0x63] =
    [0xa9, 0x99, 0x3e, 0x36, 0x47, 0x06, 0x81, 0x6a, 0xba, 0x3e, 0x25, 0x71, 0x78, 0x50, 0xc2, 0x6c,
     0x9c, 0xd0, 0xd8, 0x9d] := by
  decide +kernel

/-- SHA-256 of `abc`. -/
example : Digests.vendored.sha256 [0x61, 0x62, 0x63] =
    [0xba, 0x78, 0x16, 0xbf, 0x8f, 0x01, 0xcf, 0xea, 0x41, 0x41, 0x40, 0xde, 0x5d, 0xae, 0x22, 0x23,
     0xb0, 0x03, 0x61, 0xa3, 0x96, 0x17, 0x7a, 0x9c, 0xb4, 0x10, 0xff, 0x61, 0xf2, 0x00, 0x15, 0xad] := by
  decide +kernel

end Native

end SqliteMc
