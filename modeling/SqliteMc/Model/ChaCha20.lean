import SqliteMc.Lib.Buffer

/-!
# ChaCha20

The stream cipher and the random number generator built on it, as in `chacha20poly1305.c`.
Whole blocks of 64 bytes are combined word by word and the last one byte by byte;
`chacha20Xor_eq` says that both are the same combination with the key stream.
-/

namespace SqliteMc

namespace ChaCha20

open Buffer

/-- `x[i]`. -/
def at' (x : List (BitVec 32)) (i : Nat) : BitVec 32 := x.getD i 0

/-- `CC20QR`. -/
def quarterRound (a b c d : Nat) (x : List (BitVec 32)) : List (BitVec 32) :=
  let x := x.set a (at' x a + at' x b)
  let x := x.set d ((at' x d ^^^ at' x a).rotateLeft 16)
  let x := x.set c (at' x c + at' x d)
  let x := x.set b ((at' x b ^^^ at' x c).rotateLeft 12)
  let x := x.set a (at' x a + at' x b)
  let x := x.set d ((at' x d ^^^ at' x a).rotateLeft 8)
  let x := x.set c (at' x c + at' x d)
  x.set b ((at' x b ^^^ at' x c).rotateLeft 7)

/-- A column round and a diagonal round. -/
def doubleRound (x : List (BitVec 32)) : List (BitVec 32) :=
  let x := quarterRound 0 4 8 12 x
  let x := quarterRound 1 5 9 13 x
  let x := quarterRound 2 6 10 14 x
  let x := quarterRound 3 7 11 15 x
  let x := quarterRound 0 5 10 15 x
  let x := quarterRound 1 6 11 12 x
  let x := quarterRound 2 7 8 13 x
  quarterRound 3 4 9 14 x

/-- `chacha20_block`. -/
def chacha20Block (x : List (BitVec 32)) : List (BitVec 32) := Nat.repeat doubleRound 10 x

/-- The state for a key, a nonce and a block counter. -/
def initState (key nonce : Bytes) (counter : BitVec 32) : List (BitVec 32) :=
  [0x61707865, 0x3320646e, 0x79622d32, 0x6b206574,
   load32LE key 0, load32LE key 4, load32LE key 8, load32LE key 12,
   load32LE key 16, load32LE key 20, load32LE key 24, load32LE key 28,
   counter, load32LE nonce 0, load32LE nonce 4, load32LE nonce 8]

/-- The words that a block is combined with. -/
def keyWords (key nonce : Bytes) (counter : BitVec 32) : List (BitVec 32) :=
  let state := initState key nonce counter
  List.zipWith (· + ·) (chacha20Block state) state

/-- A whole block, word by word. -/
def xorWords : List (BitVec 32) → Bytes → Bytes
  | [], _ => []
  | w :: words, buf => store32LE (w ^^^ load32LE buf 0) ++ xorWords words (buf.drop 4)

/-- The bytes of a block of the key stream. -/
def keyBlock (key nonce : Bytes) (counter : BitVec 32) : Bytes :=
  (keyWords key nonce counter).flatMap store32LE

/-- `n` whole blocks and the rest. -/
def xorLoop (key nonce : Bytes) : Nat → BitVec 32 → Bytes → Bytes
  | 0, counter, buf => xor buf (keyBlock key nonce counter)
  | n + 1, counter, buf =>
    xorWords (keyWords key nonce counter) (buf.take 64)
      ++ xorLoop key nonce n (counter + 1) (buf.drop 64)

/-- `chacha20_xor`: whole blocks are taken while more than 64 bytes are left. -/
def chacha20Xor (buf key nonce : Bytes) (counter : BitVec 32) : Bytes :=
  xorLoop key nonce ((buf.length - 1) / 64) counter buf

-- ---------------------------------------------------------------------------
-- The key stream
-- ---------------------------------------------------------------------------

@[simp] theorem length_quarterRound (a b c d : Nat) (x : List (BitVec 32)) :
    (quarterRound a b c d x).length = x.length := by
  simp [quarterRound]

@[simp] theorem length_doubleRound (x : List (BitVec 32)) :
    (doubleRound x).length = x.length := by
  simp [doubleRound]

theorem length_chacha20Block (x : List (BitVec 32)) : (chacha20Block x).length = x.length := by
  simp [chacha20Block, Nat.repeat]

theorem length_keyWords (key nonce : Bytes) (counter : BitVec 32) :
    (keyWords key nonce counter).length = 16 := by
  simp [keyWords, length_chacha20Block, initState]

theorem length_flatMap_store32LE (words : List (BitVec 32)) :
    (words.flatMap store32LE).length = 4 * words.length := by
  induction words with
  | nil => rfl
  | cons w words ih =>
    rw [List.flatMap_cons, List.length_append, ih, length_store32LE, List.length_cons]
    omega

theorem length_keyBlock (key nonce : Bytes) (counter : BitVec 32) :
    (keyBlock key nonce counter).length = 64 := by
  rw [keyBlock, length_flatMap_store32LE, length_keyWords]

/-- A word of the buffer is combined as its four bytes are. -/
theorem store32LE_xor_load32LE {b : Bytes} (h : 4 ≤ b.length) (w : BitVec 32) :
    store32LE (w ^^^ load32LE b 0) = xor (b.take 4) (store32LE w) := by
  obtain ⟨h3, h2, h1, h0⟩ := bytes_of_word (byte b 3) (byte b 2) (byte b 1) (byte b 0)
  have hload : load32LE b 0 = byte b 3 ++ byte b 2 ++ byte b 1 ++ byte b 0 := rfl
  rw [← slice_zero_eq_take, slice_four (by omega), hload]
  simp only [store32LE, BitVec.extractLsb'_xor, h0, h1, h2, h3, Nat.zero_add, Buffer.xor,
    List.zipWith_cons_cons, List.zipWith_nil_left, BitVec.xor_comm]

/-- Word by word is byte by byte. -/
theorem xorWords_eq {words : List (BitVec 32)} {buf : Bytes} (h : buf.length = 4 * words.length) :
    xorWords words buf = xor buf (words.flatMap store32LE) := by
  induction words generalizing buf with
  | nil =>
    rw [List.length_eq_zero_iff.mp h]
    rfl
  -- the first word takes four bytes of the buffer
  | cons w words ih =>
    rw [List.length_cons] at h
    rw [xorWords, List.flatMap_cons, store32LE_xor_load32LE (by omega),
      ih (by rw [List.length_drop]; omega), ← xor_append, List.take_append_drop]
    rw [List.length_take, length_store32LE]
    omega

/-- `n` blocks of the key stream. -/
def keyStream (key nonce : Bytes) : Nat → BitVec 32 → Bytes
  | 0, _ => []
  | n + 1, counter => keyBlock key nonce counter ++ keyStream key nonce n (counter + 1)

theorem length_keyStream (key nonce : Bytes) (n : Nat) (counter : BitVec 32) :
    (keyStream key nonce n counter).length = 64 * n := by
  induction n generalizing counter with
  | zero => rfl
  | succ n ih =>
    rw [keyStream, List.length_append, length_keyBlock, ih]
    omega

/-- The loop over 64-byte blocks is one combination with the whole key stream. -/
theorem xorLoop_eq {key nonce : Bytes} {n : Nat} {counter : BitVec 32} {buf : Bytes}
    (h : 64 * n ≤ buf.length) (h' : buf.length ≤ 64 * n + 64) :
    xorLoop key nonce n counter buf = xor buf (keyStream key nonce (n + 1) counter) := by
  induction n generalizing counter buf with
  -- the last block may be short: the combination ends with the buffer
  | zero => rw [xorLoop, keyStream, keyStream, List.append_nil]
  | succ n ih =>
    have hwords : (buf.take 64).length = 4 * (keyWords key nonce counter).length := by
      rw [List.length_take, length_keyWords]
      omega
    rw [xorLoop, xorWords_eq hwords, keyStream,
      ih (by rw [List.length_drop]; omega) (by rw [List.length_drop]; omega), ← keyBlock,
      ← xor_append, List.take_append_drop]
    rw [List.length_take, length_keyBlock]
    omega

/-- The buffer is combined with as many blocks of the key stream as it needs. -/
theorem chacha20Xor_eq (buf key nonce : Bytes) (counter : BitVec 32) :
    chacha20Xor buf key nonce counter =
      xor buf (keyStream key nonce ((buf.length - 1) / 64 + 1) counter) :=
  xorLoop_eq (by omega) (by omega)

@[simp] theorem length_chacha20Xor (buf key nonce : Bytes) (counter : BitVec 32) :
    (chacha20Xor buf key nonce counter).length = buf.length := by
  rw [chacha20Xor_eq, length_xor, length_keyStream]
  omega

/-- Combining twice with the same key stream changes nothing. -/
theorem chacha20Xor_chacha20Xor (buf key nonce : Bytes) (counter : BitVec 32) :
    chacha20Xor (chacha20Xor buf key nonce counter) key nonce counter = buf := by
  rw [chacha20Xor_eq, length_chacha20Xor, chacha20Xor_eq, xor_xor_cancel]
  rw [length_keyStream]
  omega

/-- The bytes are combined one by one. -/
theorem getElem?_chacha20Xor_congr {a b : Bytes} (hlen : a.length = b.length) {j : Nat}
    (h : a[j]? = b[j]?) (key nonce : Bytes) (counter : BitVec 32) :
    (chacha20Xor a key nonce counter)[j]? = (chacha20Xor b key nonce counter)[j]? := by
  rw [chacha20Xor_eq, chacha20Xor_eq, hlen, Buffer.xor, Buffer.xor, List.getElem?_zipWith,
    List.getElem?_zipWith, h]

-- ---------------------------------------------------------------------------
-- Random numbers
-- ---------------------------------------------------------------------------

/-- The static variables of `chacha20_rng`. `seeds` is what `entropy` returns for the calls
that are still to come. -/
structure Rng where
  key : Bytes
  nonce : Bytes
  buffer : Bytes
  counter : BitVec 32
  available : Nat
  seeds : Nat → Bytes
  length_buffer : buffer.length = 64
  available_le : available ≤ 64

/-- The generator before it was used. -/
instance : Inhabited Rng :=
  ⟨{ key := zeros 32
     nonce := zeros 12
     buffer := zeros 64
     counter := 0
     available := 0
     seeds := fun i => zeros (if i % 2 = 0 then 32 else 12)
     length_buffer := rfl
     available_le := Nat.zero_le 64 }⟩

namespace Rng

/-- A new block in the buffer. The generator is seeded when the counter is zero. The key stream
is combined with what the buffer held before. -/
def refill (g : Rng) : Rng :=
  let key := if g.counter = 0 then g.seeds 0 else g.key
  let nonce := if g.counter = 0 then g.seeds 1 else g.nonce
  { key := key
    nonce := nonce
    buffer := chacha20Xor g.buffer key nonce g.counter
    counter := g.counter + 1
    available := 64
    seeds := if g.counter = 0 then fun n => g.seeds (n + 2) else g.seeds
    length_buffer := by rw [length_chacha20Xor, g.length_buffer]
    available_le := Nat.le_refl 64 }

/-- `m` bytes of the buffer are used up. -/
def take (g : Rng) (m : Nat) : Rng :=
  { g with
    available := g.available - m
    available_le := Nat.le_trans (Nat.sub_le _ _) g.available_le }

/-- The loop of `chacha20_rng`, each turn of which writes one byte at least. -/
def loop : Nat → Rng → Nat → Bytes × Rng
  | 0, g, _ => ([], g)
  | fuel + 1, g, n =>
    if n = 0 then ([], g)
    else
      let g := if g.available = 0 then g.refill else g
      let m := if g.available < n then g.available else n
      let rest := loop fuel (g.take m) (n - m)
      (slice g.buffer (64 - g.available) m ++ rest.1, rest.2)

/-- `chacha20_rng`. -/
def next (g : Rng) (n : Nat) : Bytes × Rng := loop n g n

-- ---------------------------------------------------------------------------
-- One stream of bytes
-- ---------------------------------------------------------------------------

/-- The generator before it is read from: never used up. -/
def ready (g : Rng) : Rng := if g.available = 0 then g.refill else g

/-- Once it is refilled the generator has bytes to hand out, and never more than one block. -/
theorem available_ready (g : Rng) : 0 < g.ready.available ∧ g.ready.available ≤ 64 := by
  refine ⟨?_, g.ready.available_le⟩
  unfold ready
  split
  · exact Nat.zero_lt_succ 63
  · omega

/-- The next byte alone. -/
def nextByte (g : Rng) : Octet × Rng :=
  (byte g.ready.buffer (64 - g.ready.available), g.ready.take 1)

/-- The next `n` bytes, one after another. -/
def stream : Nat → Rng → Bytes × Rng
  | 0, g => ([], g)
  | n + 1, g =>
    let rest := stream n g.nextByte.2
    (g.nextByte.1 :: rest.1, rest.2)

@[simp] theorem length_stream (n : Nat) (g : Rng) : (stream n g).1.length = n := by
  induction n generalizing g with
  | zero => rfl
  | succ n ih => rw [stream, List.length_cons, ih]

/-- Drawing bytes in two goes draws the same bytes. -/
theorem stream_add (m n : Nat) (g : Rng) :
    stream (m + n) g =
      ((stream m g).1 ++ (stream n (stream m g).2).1, (stream n (stream m g).2).2) := by
  induction m generalizing g with
  | zero => rw [Nat.zero_add, stream, List.nil_append]
  | succ m ih =>
    rw [Nat.succ_add, stream, ih, stream]
    rfl

/-- As long as the buffer lasts, its bytes are the stream. -/
theorem stream_of_le {m : Nat} (g : Rng) (h : m ≤ g.available) :
    stream m g = (slice g.buffer (64 - g.available) m, g.take m) := by
  induction m generalizing g with
  | zero => rfl
  | succ m ih =>
    have hready : g.ready = g := if_neg (by omega)
    have hlt : 64 - g.available < g.buffer.length := by
      rw [g.length_buffer]
      omega
    have hstep : 64 - (g.take 1).available = 64 - g.available + 1 := by
      have hle := g.available_le
      show 64 - (g.available - 1) = _
      omega
    have htake : (g.take 1).take m = g.take (m + 1) := by
      show Rng.mk _ _ _ _ (g.available - 1 - m) _ _ _ = Rng.mk _ _ _ _ (g.available - (m + 1)) _ _ _
      congr 1
      omega
    have hrest : stream m (g.take 1) = _ := ih (g.take 1) (by show m ≤ g.available - 1; omega)
    rw [stream, nextByte, hready, hrest, hstep, htake, Nat.add_comm m 1]
    -- the first byte and those after it
    have hsplit := slice_append_slice g.buffer (64 - g.available) 1 m
    have hfirst : slice g.buffer (64 - g.available) 1 = [byte g.buffer (64 - g.available)] := by
      rw [slice, byte, List.getD_eq_getElem _ _ hlt, List.drop_eq_getElem_cons hlt]
      rfl
    rw [hfirst] at hsplit
    rw [← hsplit]
    rfl

/-- The source's copying loop draws the generator's bytes in order. -/
theorem loop_eq_stream {fuel n : Nat} (g : Rng) (h : n ≤ fuel) : loop fuel g n = stream n g := by
  induction fuel generalizing g n with
  | zero =>
    rw [Nat.le_zero.mp h]
    rfl
  | succ fuel ih =>
    rw [loop]
    split
    · rename_i hzero
      rw [hzero]
      rfl
    · rename_i hpos
      dsimp only
      rw [show (if g.available = 0 then g.refill else g) = g.ready from rfl]
      obtain ⟨hready, hle⟩ := g.available_ready
      -- reading is the same from the generator that is ready
      have hstream : stream n g = stream n g.ready := by
        obtain ⟨m, rfl⟩ : ∃ m, n = m + 1 := ⟨n - 1, by omega⟩
        have hidem : g.ready.ready = g.ready := if_neg (by omega)
        rw [stream, stream, nextByte, nextByte, hidem]
      generalize hm : (if g.ready.available < n then g.ready.available else n) = m
      have hmle : m ≤ g.ready.available ∧ m ≤ n ∧ 0 < m := by
        split at hm <;> omega
      have hsplit : n = m + (n - m) := by omega
      rw [ih _ (by omega), hstream, hsplit, stream_add, stream_of_le _ hmle.1,
        Nat.add_sub_cancel_left]

@[simp] theorem length_next (g : Rng) (n : Nat) : (g.next n).1.length = n := by
  rw [next, loop_eq_stream g (Nat.le_refl n), length_stream]

end Rng

end ChaCha20

end SqliteMc
