import SqliteMc.Lib.LittleEndian
import SqliteMc.Model.Poly1305
import Mathlib.Tactic.LinearCombination
import Mathlib.Tactic.NormNum
import Mathlib.Tactic.Ring

/-!
# Poly1305 over the numbers

The tag that the limbs compute is the one of the definition: a polynomial over the blocks of the
message, evaluated at the clamped key modulo `2^130 - 5`, plus the second half of the key modulo
`2^128`. The words of 32 and 64 bits that the code works with never wrap around on the way.

* `poly1305_eq_polyMac` — the tag of every message under every key.
-/

namespace SqliteMc

namespace Poly1305

open Buffer

/-! ## The definition -/

/-- The prime. -/
def p : Nat := 2 ^ 130 - 5

/-- The first half of the key with the bits cleared that have to be. -/
def clampedKey (key : Bytes) : Nat :=
  leNat (key.take 16) &&& 0x0ffffffc0ffffffc0ffffffc0fffffff

/-- A block as a number, with a one above its highest byte. -/
def block (b : Bytes) : Nat := leNat b + 256 ^ b.length

/-- The blocks of 16 bytes of a message, of which the last one may be shorter. -/
def blocks (msg : Bytes) : List Nat :=
  (List.range ((msg.length + 15) / 16)).map fun i => block (slice msg (16 * i) 16)

/-- The polynomial of the blocks at `r`. -/
def evaluate (r : Nat) (l : List Nat) : Nat := l.foldl (fun a b => (a + b) * r % p) 0

/-- The tag as a number. -/
def polyMac (msg key : Bytes) : Nat :=
  (evaluate (clampedKey key) (blocks msg) + leNat (slice key 16 16)) % 2 ^ 128

/-! ## Limbs -/

/-- The number that the limbs stand for. -/
def Limbs.val (l : Limbs) : Nat :=
  l.l0 + 2 ^ 26 * l.l1 + 2 ^ 52 * l.l2 + 2 ^ 78 * l.l3 + 2 ^ 104 * l.l4

/-- The limbs between two blocks. Only the lowest one is not carried through. -/
structure Reduced (h : Limbs) : Prop where
  l0 : h.l0 ≤ 3000000000
  l1 : h.l1 < 2 ^ 26
  l2 : h.l2 < 2 ^ 26
  l3 : h.l3 < 2 ^ 26
  l4 : h.l4 < 2 ^ 26

/-- The limbs of the key. -/
structure Clamped (r : Limbs) : Prop where
  l0 : r.l0 < 2 ^ 26
  l1 : r.l1 < 2 ^ 26
  l2 : r.l2 < 2 ^ 26
  l3 : r.l3 < 2 ^ 26
  l4 : r.l4 < 2 ^ 20

theorem u32_of_lt {x : Nat} (h : x < 2 ^ 32) : u32 x = x := Nat.mod_eq_of_lt h

theorem u64_of_lt {x : Nat} (h : x < 2 ^ 64) : u64 x = x := Nat.mod_eq_of_lt h

theorem and_mask (x : Nat) : x &&& 0x03FFFFFF = x % 2 ^ 26 := Nat.and_two_pow_sub_one_eq_mod x 26

/-! ## One block -/

/-- The limbs before a multiplication. -/
structure Added (h : Limbs) : Prop where
  l0 : h.l0 ≤ 3000000000 + 2 ^ 26
  l1 : h.l1 < 2 ^ 27
  l2 : h.l2 < 2 ^ 27
  l3 : h.l3 < 2 ^ 27
  l4 : h.l4 < 2 ^ 26 + 2 ^ 25

/-- A word of the message is its part of the message's number. -/
theorem load32_eq (b : Bytes) (offset : Nat) :
    load32 b offset = leNat b / 256 ^ offset % 2 ^ 32 := toNat_load32LE b offset

/-- The number of the block is added, with what is added above it. -/
theorem val_addBlock {h : Limbs} {high : Nat} {msg : Bytes} (hh : Reduced h)
    (hhigh : high ≤ 2 ^ 24) (hmsg : msg.length = 16) :
    Added (addBlock high h msg) ∧ (addBlock high h msg).val = h.val + leNat msg + 2 ^ 104 * high := by
  obtain ⟨h0, h1, h2, h3, h4⟩ := hh
  have hlt : leNat msg < 2 ^ 128 := by
    have hbound := leNat_lt msg
    rw [hmsg] at hbound
    omega
  generalize hN : leNat msg = N at hlt
  have hload (offset : Nat) : load32 msg offset = N / 256 ^ offset % 2 ^ 32 := by
    rw [load32_eq, hN]
  -- the five loads overlap, and cut the number into digits to base 2^26
  have e0 : load32 msg 0 >>> 0 &&& 0x03FFFFFF = N % 2 ^ 26 := by
    rw [and_mask, hload]
    omega
  have e1 : load32 msg 3 >>> 2 &&& 0x03FFFFFF = N / 2 ^ 26 % 2 ^ 26 := by
    rw [and_mask, hload, Nat.shiftRight_eq_div_pow]
    omega
  have e2 : load32 msg 6 >>> 4 &&& 0x03FFFFFF = N / 2 ^ 52 % 2 ^ 26 := by
    rw [and_mask, hload, Nat.shiftRight_eq_div_pow]
    omega
  have e3 : load32 msg 9 >>> 6 &&& 0x03FFFFFF = N / 2 ^ 78 % 2 ^ 26 := by
    rw [and_mask, hload, Nat.shiftRight_eq_div_pow]
    omega
  have e4 : load32 msg 12 >>> 8 = N / 2 ^ 104 := by
    rw [hload, Nat.shiftRight_eq_div_pow]
    omega
  -- no sum leaves its 32 bits
  have f0 : (addBlock high h msg).l0 = h.l0 + N % 2 ^ 26 := by
    show u32 (h.l0 + (load32 msg 0 >>> 0 &&& 0x03FFFFFF)) = _
    rw [e0, u32_of_lt (by omega)]
  have f1 : (addBlock high h msg).l1 = h.l1 + N / 2 ^ 26 % 2 ^ 26 := by
    show u32 (h.l1 + (load32 msg 3 >>> 2 &&& 0x03FFFFFF)) = _
    rw [e1, u32_of_lt (by omega)]
  have f2 : (addBlock high h msg).l2 = h.l2 + N / 2 ^ 52 % 2 ^ 26 := by
    show u32 (h.l2 + (load32 msg 6 >>> 4 &&& 0x03FFFFFF)) = _
    rw [e2, u32_of_lt (by omega)]
  have f3 : (addBlock high h msg).l3 = h.l3 + N / 2 ^ 78 % 2 ^ 26 := by
    show u32 (h.l3 + (load32 msg 9 >>> 6 &&& 0x03FFFFFF)) = _
    rw [e3, u32_of_lt (by omega)]
  have f4 : (addBlock high h msg).l4 = h.l4 + high + N / 2 ^ 104 := by
    have hin : u32 (h.l4 + high) = h.l4 + high := u32_of_lt (by omega)
    show u32 (u32 (h.l4 + high) + load32 msg 12 >>> 8) = _
    rw [e4, hin, u32_of_lt (by omega)]
  refine ⟨⟨?_, ?_, ?_, ?_, ?_⟩, ?_⟩
  · rw [f0]
    omega
  · rw [f1]
    omega
  · rw [f2]
    omega
  · rw [f3]
    omega
  · rw [f4]
    omega
  · rw [Limbs.val, f0, f1, f2, f3, f4, Limbs.val]
    omega

/-- The limbs of a product before its carries, and what is left out of it modulo the prime. -/
structure Multiplied (d : Limbs) : Prop where
  l0 : d.l0 < 2 ^ 60
  l1 : d.l1 < 2 ^ 60
  l2 : d.l2 < 2 ^ 60
  l3 : d.l3 < 2 ^ 60
  l4 : d.l4 ≤ 37000000000000000

/-- The sum of the products in one limb. -/
theorem dot_le {x0 x1 x2 x3 x4 y0 y1 y2 y3 y4 m0 m1 m2 m3 m4 n0 n1 n2 n3 n4 : Nat} (hx0 : x0 ≤ m0)
    (hx1 : x1 ≤ m1) (hx2 : x2 ≤ m2) (hx3 : x3 ≤ m3) (hx4 : x4 ≤ m4) (hy0 : y0 ≤ n0) (hy1 : y1 ≤ n1)
    (hy2 : y2 ≤ n2) (hy3 : y3 ≤ n3) (hy4 : y4 ≤ n4) :
    x0 * y0 + x1 * y1 + x2 * y2 + x3 * y3 + x4 * y4 ≤
      m0 * n0 + m1 * n1 + m2 * n2 + m3 * n3 + m4 * n4 := by
  gcongr

/-- The product of the limbs is the product of the numbers. -/
theorem val_multiply {r h : Limbs} (hr : Clamped r) (hh : Added h) :
    Multiplied (multiply r h) ∧ (multiply r h).val % p = h.val * r.val % p := by
  obtain ⟨r0, r1, r2, r3, r4⟩ := r
  obtain ⟨h0, h1, h2, h3, h4⟩ := h
  obtain ⟨a0, a1, a2, a3, a4⟩ := hr
  obtain ⟨b0, b1, b2, b3, b4⟩ := hh
  dsimp only at a0 a1 a2 a3 a4 b0 b1 b2 b3 b4
  have s1 : u32 (r1 * 5) = r1 * 5 := u32_of_lt (by omega)
  have s2 : u32 (r2 * 5) = r2 * 5 := u32_of_lt (by omega)
  have s3 : u32 (r3 * 5) = r3 * 5 := u32_of_lt (by omega)
  have s4 : u32 (r4 * 5) = r4 * 5 := u32_of_lt (by omega)
  have c0 : h0 ≤ 3067108864 := by omega
  have c1 : h1 ≤ 2 ^ 27 := by omega
  have c2 : h2 ≤ 2 ^ 27 := by omega
  have c3 : h3 ≤ 2 ^ 27 := by omega
  have c4 : h4 ≤ 2 ^ 26 + 2 ^ 25 := by omega
  have d0 := dot_le c0 c1 c2 c3 c4 (by omega : r0 ≤ 2 ^ 26) (by omega : r4 * 5 ≤ 5 * 2 ^ 20)
    (by omega : r3 * 5 ≤ 5 * 2 ^ 26) (by omega : r2 * 5 ≤ 5 * 2 ^ 26) (by omega : r1 * 5 ≤ 5 * 2 ^ 26)
  have d1 := dot_le c0 c1 c2 c3 c4 (by omega : r1 ≤ 2 ^ 26) (by omega : r0 ≤ 2 ^ 26)
    (by omega : r4 * 5 ≤ 5 * 2 ^ 20) (by omega : r3 * 5 ≤ 5 * 2 ^ 26) (by omega : r2 * 5 ≤ 5 * 2 ^ 26)
  have d2 := dot_le c0 c1 c2 c3 c4 (by omega : r2 ≤ 2 ^ 26) (by omega : r1 ≤ 2 ^ 26)
    (by omega : r0 ≤ 2 ^ 26) (by omega : r4 * 5 ≤ 5 * 2 ^ 20) (by omega : r3 * 5 ≤ 5 * 2 ^ 26)
  have d3 := dot_le c0 c1 c2 c3 c4 (by omega : r3 ≤ 2 ^ 26) (by omega : r2 ≤ 2 ^ 26)
    (by omega : r1 ≤ 2 ^ 26) (by omega : r0 ≤ 2 ^ 26) (by omega : r4 * 5 ≤ 5 * 2 ^ 20)
  have d4 := dot_le c0 c1 c2 c3 c4 (by omega : r4 ≤ 2 ^ 20) (by omega : r3 ≤ 2 ^ 26)
    (by omega : r2 ≤ 2 ^ 26) (by omega : r1 ≤ 2 ^ 26) (by omega : r0 ≤ 2 ^ 26)
  norm_num at d0 d1 d2 d3 d4
  have hmul : multiply ⟨r0, r1, r2, r3, r4⟩ ⟨h0, h1, h2, h3, h4⟩ =
      ⟨h0 * r0 + h1 * (r4 * 5) + h2 * (r3 * 5) + h3 * (r2 * 5) + h4 * (r1 * 5),
        h0 * r1 + h1 * r0 + h2 * (r4 * 5) + h3 * (r3 * 5) + h4 * (r2 * 5),
        h0 * r2 + h1 * r1 + h2 * r0 + h3 * (r4 * 5) + h4 * (r3 * 5),
        h0 * r3 + h1 * r2 + h2 * r1 + h3 * r0 + h4 * (r4 * 5),
        h0 * r4 + h1 * r3 + h2 * r2 + h3 * r1 + h4 * r0⟩ := by
    simp only [multiply, s1, s2, s3, s4]
    rw [u64_of_lt (by omega), u64_of_lt (by omega), u64_of_lt (by omega), u64_of_lt (by omega),
      u64_of_lt (by omega)]
  rw [hmul]
  refine ⟨⟨by dsimp only; omega, by dsimp only; omega, by dsimp only; omega, by dsimp only; omega,
    by dsimp only; omega⟩, ?_⟩
  -- what is above the prime comes back five times
  have hval : (Limbs.mk h0 h1 h2 h3 h4).val * (Limbs.mk r0 r1 r2 r3 r4).val =
      (Limbs.mk (h0 * r0 + h1 * (r4 * 5) + h2 * (r3 * 5) + h3 * (r2 * 5) + h4 * (r1 * 5))
        (h0 * r1 + h1 * r0 + h2 * (r4 * 5) + h3 * (r3 * 5) + h4 * (r2 * 5))
        (h0 * r2 + h1 * r1 + h2 * r0 + h3 * (r4 * 5) + h4 * (r3 * 5))
        (h0 * r3 + h1 * r2 + h2 * r1 + h3 * r0 + h4 * (r4 * 5))
        (h0 * r4 + h1 * r3 + h2 * r2 + h3 * r1 + h4 * r0)).val +
      p * (h1 * r4 + h2 * r3 + h3 * r2 + h4 * r1 + 2 ^ 26 * (h2 * r4 + h3 * r3 + h4 * r2) +
        2 ^ 52 * (h3 * r4 + h4 * r3) + 2 ^ 78 * (h4 * r4)) := by
    simp only [Limbs.val, p]
    ring
  rw [hval, Nat.add_mul_mod_self_left]

/-- The carries take the prime off as often as they go around. -/
theorem val_carry {d : Limbs} (hd : Multiplied d) :
    Reduced (carry d) ∧ (carry d).val % p = d.val % p := by
  obtain ⟨d0, d1, d2, d3, d4⟩ := d
  obtain ⟨b0, b1, b2, b3, b4⟩ := hd
  dsimp only at b0 b1 b2 b3 b4
  -- each carry goes into the next limb, and stays within 64 bits
  have e1 : u64 (d1 + d0 >>> 26) = d1 + d0 / 2 ^ 26 := by
    rw [Nat.shiftRight_eq_div_pow, u64_of_lt (by omega)]
  generalize hc1 : d1 + d0 / 2 ^ 26 = c1 at e1
  have e2 : u64 (d2 + c1 >>> 26) = d2 + c1 / 2 ^ 26 := by
    rw [Nat.shiftRight_eq_div_pow, u64_of_lt (by omega)]
  generalize hc2 : d2 + c1 / 2 ^ 26 = c2 at e2
  have e3 : u64 (d3 + c2 >>> 26) = d3 + c2 / 2 ^ 26 := by
    rw [Nat.shiftRight_eq_div_pow, u64_of_lt (by omega)]
  generalize hc3 : d3 + c2 / 2 ^ 26 = c3 at e3
  have e4 : u64 (d4 + c3 >>> 26) = d4 + c3 / 2 ^ 26 := by
    rw [Nat.shiftRight_eq_div_pow, u64_of_lt (by omega)]
  generalize hc4 : d4 + c3 / 2 ^ 26 = c4 at e4
  -- the carry out of the last limb stands for a multiple of 2^130, which is 5 modulo `p`
  have e5 : u32 (u32 (c4 >>> 26) * 5) = c4 / 2 ^ 26 * 5 := by
    have hin : u32 (c4 / 2 ^ 26) = c4 / 2 ^ 26 := u32_of_lt (by omega)
    rw [Nat.shiftRight_eq_div_pow, hin, u32_of_lt (by omega)]
  have e0 : u32 (d0 % 2 ^ 26 + c4 / 2 ^ 26 * 5) = d0 % 2 ^ 26 + c4 / 2 ^ 26 * 5 :=
    u32_of_lt (by omega)
  have hcarry : carry ⟨d0, d1, d2, d3, d4⟩ =
      ⟨d0 % 2 ^ 26 + c4 / 2 ^ 26 * 5, c1 % 2 ^ 26, c2 % 2 ^ 26, c3 % 2 ^ 26, c4 % 2 ^ 26⟩ := by
    simp only [carry, e1, e2, e3, e4, e5, and_mask, e0]
  rw [hcarry]
  refine ⟨⟨by dsimp only; omega, by dsimp only; omega, by dsimp only; omega, by dsimp only; omega,
    by dsimp only; omega⟩, ?_⟩
  have hval : (Limbs.mk d0 d1 d2 d3 d4).val =
      (Limbs.mk (d0 % 2 ^ 26 + c4 / 2 ^ 26 * 5) (c1 % 2 ^ 26) (c2 % 2 ^ 26) (c3 % 2 ^ 26)
        (c4 % 2 ^ 26)).val + p * (c4 / 2 ^ 26) := by
    simp only [Limbs.val, p]
    omega
  rw [hval, Nat.add_mul_mod_self_left]

/-- One block of the message. -/
theorem val_processBlock {r h : Limbs} {high : Nat} {msg : Bytes} (hr : Clamped r)
    (hh : Reduced h) (hhigh : high ≤ 2 ^ 24) (hmsg : msg.length = 16) :
    Reduced (processBlock r high h msg) ∧ (processBlock r high h msg).val % p =
      (h.val % p + (leNat msg + 2 ^ 104 * high)) * r.val % p := by
  obtain ⟨hadded, hadd⟩ := val_addBlock hh hhigh hmsg
  obtain ⟨hmultiplied, hmul⟩ := val_multiply hr hadded
  obtain ⟨hreduced, hcarry⟩ := val_carry hmultiplied
  refine ⟨hreduced, ?_⟩
  have hsum : (h.val + leNat msg + 2 ^ 104 * high) % p =
      (h.val % p + (leNat msg + 2 ^ 104 * high)) % p := by
    rw [Nat.add_assoc, Nat.mod_add_mod]
  rw [processBlock, hcarry, hmul, hadd, Nat.mul_mod, hsum, ← Nat.mul_mod]

/-! ## The message -/

theorem blocks_nil : blocks [] = [] := rfl

/-- The first block of a message, and the others. -/
theorem blocks_of_ne_nil {msg : Bytes} (h : msg.length ≠ 0) :
    blocks msg = block (msg.take 16) :: blocks (msg.drop 16) := by
  have hcount : (msg.length + 15) / 16 = (msg.length - 16 + 15) / 16 + 1 := by omega
  rw [blocks, blocks, hcount, List.range_succ_eq_map, List.map_cons, List.map_map,
    List.length_drop, Nat.mul_zero, slice_zero_eq_take]
  congr 1
  apply List.map_congr_left
  intro i _
  show block (slice msg (16 * (i + 1)) 16) = block (slice (msg.drop 16) (16 * i) 16)
  rw [slice, slice, List.drop_drop, Nat.mul_succ, Nat.add_comm]

/-- Whole blocks come before the blocks of what follows. -/
theorem blocks_append {n : Nat} {a : Bytes} (ha : a.length = 16 * n) (b : Bytes) :
    blocks (a ++ b) = blocks a ++ blocks b := by
  induction n generalizing a with
  | zero =>
    rw [List.length_eq_zero_iff.mp ha]
    rfl
  | succ n ih =>
    -- the first block of the longer message is that of its first part
    have hne : a.length ≠ 0 := by omega
    have hne' : (a ++ b).length ≠ 0 := by
      rw [List.length_append]
      omega
    have hdrop : (a.drop 16).length = 16 * n := by
      rw [List.length_drop]
      omega
    rw [blocks_of_ne_nil hne, blocks_of_ne_nil hne', List.take_append_of_le_length (by omega),
      List.drop_append_of_le_length (by omega), ih hdrop, List.cons_append]

/-- The whole blocks of a message, from limbs that stand for what was read before. -/
theorem val_wholeBlocks {r : Limbs} (hr : Clamped r) (n : Nat) {h : Limbs} {msg : Bytes}
    (hh : Reduced h) (hlen : 16 * n ≤ msg.length) :
    Reduced (wholeBlocks r n h msg) ∧ (wholeBlocks r n h msg).val % p =
      (blocks (msg.take (16 * n))).foldl (fun a b => (a + b) * r.val % p) (h.val % p) := by
  induction n generalizing h msg with
  | zero =>
    rw [Nat.mul_zero, List.take_zero, blocks_nil]
    exact ⟨hh, rfl⟩
  | succ n ih =>
    have htake : (msg.take 16).length = 16 := by
      rw [List.length_take]
      omega
    have hdrop : 16 * n ≤ (msg.drop 16).length := by
      rw [List.length_drop]
      omega
    have hhigh : 0x01000000 ≤ 2 ^ 24 := by decide
    obtain ⟨hreduced, hval⟩ := val_processBlock hr hh hhigh htake
    obtain ⟨hreduced', hval'⟩ := ih hreduced hdrop
    refine ⟨hreduced', ?_⟩
    -- the high limb adds the bit that stands behind a whole block
    have hblock : leNat (msg.take 16) + 2 ^ 104 * 0x01000000 = block (msg.take 16) := by
      rw [block, htake]
      norm_num
    have hne : (msg.take (16 * (n + 1))).length ≠ 0 := by
      rw [List.length_take]
      omega
    rw [wholeBlocks, hval', hval, hblock, blocks_of_ne_nil hne, List.foldl_cons, List.take_take,
      Nat.min_eq_left (by omega), List.drop_take]
    congr 3

/-- The padding puts the one above the last block. -/
theorem leNat_pad (msg : Bytes) : leNat (pad msg) = block msg := by
  rw [pad, leNat_append, leNat_cons, leNat_zeros, block]
  simp

/-- The limbs when the message has been read. -/
theorem val_absorb {r : Limbs} (hr : Clamped r) (msg : Bytes) :
    Reduced (absorb r msg) ∧ (absorb r msg).val % p = evaluate r.val (blocks msg) := by
  have hzero : Reduced ⟨0, 0, 0, 0, 0⟩ := by constructor <;> decide
  have hle : 16 * (msg.length / 16) ≤ msg.length := by omega
  obtain ⟨hreduced, hval⟩ := val_wholeBlocks hr (msg.length / 16) hzero hle
  have hlen : (msg.take (16 * (msg.length / 16))).length = 16 * (msg.length / 16) :=
    List.length_take_of_le hle
  have hsplit := blocks_append hlen (msg.drop (16 * (msg.length / 16)))
  rw [List.take_append_drop] at hsplit
  unfold absorb
  dsimp only
  -- whole blocks only, or a last block that is padded
  split
  · rename_i hrest
    rw [List.length_eq_zero_iff.mp hrest, blocks_nil, List.append_nil] at hsplit
    rw [hsplit]
    exact ⟨hreduced, hval⟩
  · rename_i hrest
    generalize hb : msg.drop (16 * (msg.length / 16)) = rest at hsplit hrest ⊢
    have hshort : rest.length < 16 := by
      rw [← hb, List.length_drop]
      omega
    have hpad : (pad rest).length = 16 := by
      rw [pad, List.length_append, List.length_cons, zeros, List.length_replicate]
      omega
    obtain ⟨hreduced', hval'⟩ := val_processBlock hr hreduced (Nat.zero_le _) hpad
    refine ⟨hreduced', ?_⟩
    have hlast : blocks rest = [block rest] := by
      rw [blocks_of_ne_nil hrest, List.take_of_length_le (by omega),
        List.drop_eq_nil_of_le (by omega), blocks_nil]
    rw [hval', hval, leNat_pad, hsplit, hlast, evaluate, List.foldl_append]
    rfl

/-! ## The key -/

/-- The limbs of a conjunction are the conjunctions of the limbs. -/
theorem and_split (a b n : Nat) :
    a &&& b = (a % 2 ^ n &&& b % 2 ^ n) + 2 ^ n * (a / 2 ^ n &&& b / 2 ^ n) := by
  rw [← Nat.and_mod_two_pow, ← Nat.and_div_two_pow, Nat.mod_add_div]

/-- Only the bits under the mask count. -/
theorem and_of_lt (x : Nat) {m n : Nat} (hm : m < 2 ^ n) : x &&& m = x % 2 ^ n &&& m := by
  rw [and_split x m n, Nat.mod_eq_of_lt hm, Nat.div_eq_of_lt hm, Nat.and_zero, Nat.mul_zero,
    Nat.add_zero]

/-- The masks of the limbs are those of the number. -/
theorem val_clamp (key : Bytes) : Clamped (clamp key) ∧ (clamp key).val = clampedKey key := by
  have hlt : leNat (key.take 16) < 2 ^ 128 := by
    rw [leNat_take]
    exact Nat.mod_lt _ (by decide)
  have htake : leNat (key.take 16) = leNat key % 2 ^ 128 := leNat_take key 16
  -- the five masks are the clamp of the key, cut into limbs
  have e0 : (clamp key).l0 = leNat (key.take 16) % 2 ^ 26 &&& 0x03FFFFFF := by
    show load32 key 0 >>> 0 &&& 0x03FFFFFF = _
    rw [and_of_lt (n := 26) _ (by decide), load32_eq, Nat.shiftRight_eq_div_pow, htake]
    congr 1
    omega
  have e1 : (clamp key).l1 = leNat (key.take 16) / 2 ^ 26 % 2 ^ 26 &&& 0x03FFFF03 := by
    show load32 key 3 >>> 2 &&& 0x03FFFF03 = _
    rw [and_of_lt (n := 26) _ (by decide), load32_eq, Nat.shiftRight_eq_div_pow, htake]
    congr 1
    omega
  have e2 : (clamp key).l2 = leNat (key.take 16) / 2 ^ 52 % 2 ^ 26 &&& 0x03FFC0FF := by
    show load32 key 6 >>> 4 &&& 0x03FFC0FF = _
    rw [and_of_lt (n := 26) _ (by decide), load32_eq, Nat.shiftRight_eq_div_pow, htake]
    congr 1
    omega
  have e3 : (clamp key).l3 = leNat (key.take 16) / 2 ^ 78 % 2 ^ 26 &&& 0x03F03FFF := by
    show load32 key 9 >>> 6 &&& 0x03F03FFF = _
    rw [and_of_lt (n := 26) _ (by decide), load32_eq, Nat.shiftRight_eq_div_pow, htake]
    congr 1
    omega
  have e4 : (clamp key).l4 = leNat (key.take 16) / 2 ^ 104 &&& 0x000FFFFF := by
    show load32 key 12 >>> 8 &&& 0x000FFFFF = _
    rw [load32_eq, Nat.shiftRight_eq_div_pow, htake]
    congr 1
    omega
  unfold clampedKey
  generalize leNat (key.take 16) = N at *
  -- the clamp is a mask of the whole number, so it may be cut limb by limb
  have hsplit : N &&& 0x0ffffffc0ffffffc0ffffffc0fffffff =
      (N % 2 ^ 26 &&& 0x03FFFFFF) + 2 ^ 26 * ((N / 2 ^ 26 % 2 ^ 26 &&& 0x03FFFF03) +
        2 ^ 26 * ((N / 2 ^ 52 % 2 ^ 26 &&& 0x03FFC0FF) +
          2 ^ 26 * ((N / 2 ^ 78 % 2 ^ 26 &&& 0x03F03FFF) + 2 ^ 26 * (N / 2 ^ 104 &&& 0x000FFFFF)))) := by
    rw [and_split N _ 26, and_split (N / 2 ^ 26) _ 26, and_split (N / 2 ^ 26 / 2 ^ 26) _ 26,
      and_split (N / 2 ^ 26 / 2 ^ 26 / 2 ^ 26) _ 26]
    norm_num [Nat.div_div_eq_div_mul]
  -- no limb is larger than its mask
  have b0 : N % 2 ^ 26 &&& 0x03FFFFFF < 2 ^ 26 := Nat.and_lt_two_pow _ (by decide)
  have b1 : N / 2 ^ 26 % 2 ^ 26 &&& 0x03FFFF03 < 2 ^ 26 := Nat.and_lt_two_pow _ (by decide)
  have b2 : N / 2 ^ 52 % 2 ^ 26 &&& 0x03FFC0FF < 2 ^ 26 := Nat.and_lt_two_pow _ (by decide)
  have b3 : N / 2 ^ 78 % 2 ^ 26 &&& 0x03F03FFF < 2 ^ 26 := Nat.and_lt_two_pow _ (by decide)
  have b4 : N / 2 ^ 104 &&& 0x000FFFFF < 2 ^ 20 := Nat.and_lt_two_pow _ (by decide)
  rw [← e0] at b0
  rw [← e1] at b1
  rw [← e2] at b2
  rw [← e3] at b3
  rw [← e4] at b4
  refine ⟨⟨b0, b1, b2, b3, b4⟩, ?_⟩
  rw [hsplit, ← e0, ← e1, ← e2, ← e3, ← e4, Limbs.val]
  ring

/-! ## The tag -/

/-- The words of a sum, each with the carry of the one before. -/
def sumWords (x1 x2 x3 x4 : Nat) : Bytes :=
  let d1 := u64 x1
  let d2 := u64 (x2 + d1 >>> 32)
  let d3 := u64 (x3 + d2 >>> 32)
  let d4 := u64 (x4 + d3 >>> 32)
  store32LE (BitVec.ofNat 32 d1) ++ store32LE (BitVec.ofNat 32 d2)
    ++ store32LE (BitVec.ofNat 32 d3) ++ store32LE (BitVec.ofNat 32 d4)

/-- The sum of four words, with the carries that the source adds to the next word. -/
theorem leNat_sumWords {x1 x2 x3 x4 : Nat} (h1 : x1 < 2 ^ 34) (h2 : x2 < 2 ^ 34) (h3 : x3 < 2 ^ 34)
    (h4 : x4 < 2 ^ 34) :
    leNat (sumWords x1 x2 x3 x4) =
      (x1 + 2 ^ 32 * x2 + 2 ^ 64 * x3 + 2 ^ 96 * x4) % 2 ^ 128 := by
  -- no carry leaves 64 bits
  have e1 : u64 x1 = x1 := u64_of_lt (by omega)
  have e2 : u64 (x2 + x1 / 2 ^ 32) = x2 + x1 / 2 ^ 32 := u64_of_lt (by omega)
  generalize hd2 : x2 + x1 / 2 ^ 32 = d2 at e2
  have b2 : d2 < 2 ^ 35 := by omega
  have e3 : u64 (x3 + d2 / 2 ^ 32) = x3 + d2 / 2 ^ 32 := u64_of_lt (by omega)
  generalize hd3 : x3 + d2 / 2 ^ 32 = d3 at e3
  have b3 : d3 < 2 ^ 35 := by omega
  have e4 : u64 (x4 + d3 / 2 ^ 32) = x4 + d3 / 2 ^ 32 := u64_of_lt (by omega)
  generalize hd4 : x4 + d3 / 2 ^ 32 = d4 at e4
  have hwords : sumWords x1 x2 x3 x4 =
      store32LE (BitVec.ofNat 32 x1) ++ store32LE (BitVec.ofNat 32 d2)
        ++ store32LE (BitVec.ofNat 32 d3) ++ store32LE (BitVec.ofNat 32 d4) := by
    simp only [sumWords, Nat.shiftRight_eq_div_pow, e1, hd2, e2, hd3, e3, hd4, e4]
  rw [hwords, leNat_append, leNat_append, leNat_append, leNat_store32LE, leNat_store32LE,
    leNat_store32LE, leNat_store32LE]
  simp only [List.length_append, length_store32LE, BitVec.toNat_ofNat]
  norm_num
  clear e1 e2 e3 e4 hwords
  omega

/-- The carry out of the limbs when five is added says whether the prime is taken off. -/
def carryOut (h : Limbs) : Nat :=
  let r0 := u32 (h.l0 + 5) >>> 26
  let r1 := u32 (h.l1 + r0) >>> 26
  let r2 := u32 (h.l2 + r1) >>> 26
  let r3 := u32 (h.l3 + r2) >>> 26
  u32 (h.l4 + r3) >>> 26

/-- The carry out of adding 5 tells whether the number is at least `p`. -/
theorem carryOut_eq {h : Limbs} (hh : Reduced h) : carryOut h = (h.val + 5) / 2 ^ 130 := by
  obtain ⟨h0, h1, h2, h3, h4⟩ := h
  obtain ⟨b0, b1, b2, b3, b4⟩ := hh
  dsimp only at b0 b1 b2 b3 b4
  -- no sum leaves 32 bits, so each limb carries into the next
  have c0 : u32 (h0 + 5) = h0 + 5 := u32_of_lt (by omega)
  generalize hr0 : (h0 + 5) / 2 ^ 26 = r0
  have c1 : u32 (h1 + r0) = h1 + r0 := u32_of_lt (by omega)
  generalize hr1 : (h1 + r0) / 2 ^ 26 = r1
  have c2 : u32 (h2 + r1) = h2 + r1 := u32_of_lt (by omega)
  generalize hr2 : (h2 + r1) / 2 ^ 26 = r2
  have c3 : u32 (h3 + r2) = h3 + r2 := u32_of_lt (by omega)
  generalize hr3 : (h3 + r2) / 2 ^ 26 = r3
  have c4 : u32 (h4 + r3) = h4 + r3 := u32_of_lt (by omega)
  have hcarry : carryOut ⟨h0, h1, h2, h3, h4⟩ = (h4 + r3) / 2 ^ 26 := by
    simp only [carryOut, Nat.shiftRight_eq_div_pow, c0, hr0, c1, hr1, c2, hr2, c3, hr3, c4]
  rw [hcarry]
  simp only [Limbs.val]
  clear hcarry c0 c1 c2 c3 c4
  omega

/-- The limbs are below twice the prime, so it is taken off at most once. -/
theorem mod_p_of_reduced {h : Limbs} (hh : Reduced h) :
    (h.val % p + p * carryOut h = h.val) ∧ carryOut h ≤ 1 := by
  have hlt : h.val < 2 ^ 130 + 2 ^ 32 := by
    obtain ⟨b0, b1, b2, b3, b4⟩ := hh
    rw [Limbs.val]
    omega
  rw [carryOut_eq hh]
  generalize h.val = n at hlt
  have hp : p + 5 = 2 ^ 130 := by decide
  -- a reduced number is less than twice `p`, so at most one `p` is taken off
  rcases Nat.lt_or_ge n p with hsmall | hlarge
  · have hq : (n + 5) / 2 ^ 130 = 0 := by omega
    rw [Nat.mod_eq_of_lt hsmall, hq]
    omega
  · have hq : (n + 5) / 2 ^ 130 = 1 := by omega
    rw [Nat.mod_eq_sub_mod hlarge, Nat.mod_eq_of_lt (by omega), hq]
    omega

/-- The tag is a sum of the limbs as words. -/
theorem finish_eq {h : Limbs} (hh : Reduced h) (key : Bytes) :
    finish key h = sumWords
      (load32 key 16 + (h.l0 + 5 * carryOut h) + 2 ^ 26 * (h.l1 % 2 ^ 6))
      (load32 key 20 + h.l1 / 2 ^ 6 + 2 ^ 20 * (h.l2 % 2 ^ 12))
      (load32 key 24 + h.l2 / 2 ^ 12 + 2 ^ 14 * (h.l3 % 2 ^ 18))
      (load32 key 28 + h.l3 / 2 ^ 18 + 2 ^ 8 * (h.l4 % 2 ^ 24)) := by
  have hone := (mod_p_of_reduced hh).2
  obtain ⟨b0, b1, b2, b3, b4⟩ := hh
  -- the five words of the result, each of the limbs that reach into it
  have hlow : u32 (h.l0 + u32 (carryOut h * 5)) = h.l0 + 5 * carryOut h := by
    have hin : u32 (carryOut h * 5) = carryOut h * 5 := u32_of_lt (by omega)
    rw [hin, u32_of_lt (by omega), Nat.mul_comm]
  have s1 : u32 (h.l1 <<< 26) = 2 ^ 26 * (h.l1 % 2 ^ 6) := by
    rw [u32, Nat.shiftLeft_eq]
    omega
  have s2 : u32 (h.l2 <<< 20) = 2 ^ 20 * (h.l2 % 2 ^ 12) := by
    rw [u32, Nat.shiftLeft_eq]
    omega
  have s3 : u32 (h.l3 <<< 14) = 2 ^ 14 * (h.l3 % 2 ^ 18) := by
    rw [u32, Nat.shiftLeft_eq]
    omega
  have s4 : u32 (h.l4 <<< 8) = 2 ^ 8 * (h.l4 % 2 ^ 24) := by
    rw [u32, Nat.shiftLeft_eq]
    omega
  have hfinish : finish key h = sumWords
      (load32 key 16 + u32 (h.l0 + u32 (carryOut h * 5)) >>> 0 + u32 (h.l1 <<< 26))
      (load32 key 20 + h.l1 >>> 6 + u32 (h.l2 <<< 20))
      (load32 key 24 + h.l2 >>> 12 + u32 (h.l3 <<< 14))
      (load32 key 28 + h.l3 >>> 18 + u32 (h.l4 <<< 8)) := rfl
  rw [hfinish, hlow, s1, s2, s3, s4, Nat.shiftRight_eq_div_pow h.l1, Nat.shiftRight_eq_div_pow h.l2,
    Nat.shiftRight_eq_div_pow h.l3]
  rfl

/-- What is above the prime is taken off, and the second half of the key is added. -/
theorem leNat_finish {h : Limbs} (hh : Reduced h) (key : Bytes) :
    leNat (finish key h) = (h.val % p + leNat (slice key 16 16)) % 2 ^ 128 := by
  have hsecond : leNat (slice key 16 16) = leNat key / 2 ^ 128 % 2 ^ 128 := by
    rw [slice, leNat_take, leNat_drop]
    norm_num
  obtain ⟨k0, k1, k2, k3, hkey⟩ : load32 key 16 < 2 ^ 32 ∧ load32 key 20 < 2 ^ 32 ∧
      load32 key 24 < 2 ^ 32 ∧ load32 key 28 < 2 ^ 32 ∧ leNat (slice key 16 16) =
        load32 key 16 + 2 ^ 32 * load32 key 20 + 2 ^ 64 * load32 key 24 + 2 ^ 96 * load32 key 28 := by
    rw [load32_eq, load32_eq, load32_eq, load32_eq, hsecond]
    omega
  obtain ⟨hval, hone⟩ := mod_p_of_reduced hh
  rw [finish_eq hh]
  obtain ⟨b0, b1, b2, b3, b4⟩ := hh
  rw [leNat_sumWords (by omega) (by omega) (by omega) (by omega)]
  -- each limb is split where a word of the tag ends
  have hsum : load32 key 16 + (h.l0 + 5 * carryOut h) + 2 ^ 26 * (h.l1 % 2 ^ 6) +
      2 ^ 32 * (load32 key 20 + h.l1 / 2 ^ 6 + 2 ^ 20 * (h.l2 % 2 ^ 12)) +
      2 ^ 64 * (load32 key 24 + h.l2 / 2 ^ 12 + 2 ^ 14 * (h.l3 % 2 ^ 18)) +
      2 ^ 96 * (load32 key 28 + h.l3 / 2 ^ 18 + 2 ^ 8 * (h.l4 % 2 ^ 24)) +
      2 ^ 128 * (h.l4 / 2 ^ 24) =
      h.val % p + leNat (slice key 16 16) + 2 ^ 130 * carryOut h := by
    rw [hkey]
    generalize h.val % p = x at hval
    rw [Limbs.val, p] at hval
    generalize carryOut h = q at hval hone
    omega
  rw [← Nat.add_mul_mod_self_left _ (2 ^ 128) (h.l4 / 2 ^ 24), hsum]
  have hmul : 2 ^ 130 * carryOut h = 2 ^ 128 * (4 * carryOut h) := by ring
  rw [hmul, Nat.add_mul_mod_self_left]

/-! ## The result -/

/--
**The limbs compute the tag of the definition.** The 16 bytes that the code makes of a message and a
key are the value at the clamped key of the polynomial of the message's blocks modulo `2^130 - 5`,
plus the second half of the key, modulo `2^128`.
-/
theorem poly1305_eq_polyMac (msg key : Bytes) : leNat (poly1305 msg key) = polyMac msg key := by
  obtain ⟨hclamped, hkey⟩ := val_clamp key
  obtain ⟨hreduced, hval⟩ := val_absorb hclamped msg
  rw [poly1305, leNat_finish hreduced, hval, hkey, polyMac]

end Poly1305

end SqliteMc
