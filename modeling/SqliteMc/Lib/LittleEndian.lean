import SqliteMc.Lib.Buffer

/-!
# Little-endian numbers

The number that a buffer stands for when its first byte is the lowest one.

* `leNat_append`, `leNat_take`, `leNat_drop`: parts of a buffer and of its number.
* `toNat_load32LE`: a word in a buffer.
-/

namespace Buffer

/-- The number with the bytes as its digits, the lowest one first. -/
def leNat : Bytes → Nat
  | [] => 0
  | x :: b => x.toNat + 256 * leNat b

@[simp] theorem leNat_nil : leNat [] = 0 := rfl

/-- The first byte is the lowest digit to base 256. -/
theorem leNat_cons (x : Octet) (b : Bytes) : leNat (x :: b) = x.toNat + 256 * leNat b := rfl

/-- The second of two buffers counts behind the digits of the first. -/
theorem leNat_append (a b : Bytes) : leNat (a ++ b) = leNat a + 256 ^ a.length * leNat b := by
  induction a with
  | nil => simp
  | cons x a ih =>
    rw [List.cons_append, leNat_cons, leNat_cons, ih, List.length_cons, Nat.pow_succ]
    ring

/-- Bytes stand for a number below the power of 256 that their length gives. -/
theorem leNat_lt (b : Bytes) : leNat b < 256 ^ b.length := by
  induction b with
  | nil => exact Nat.one_pos
  | cons x b ih =>
    have hx : x.toNat < 256 := x.isLt
    rw [leNat_cons, List.length_cons, Nat.pow_succ]
    omega

/-- Dropping the first bytes divides by their power of 256. -/
theorem leNat_drop (b : Bytes) (n : Nat) : leNat (b.drop n) = leNat b / 256 ^ n := by
  induction b generalizing n with
  | nil => simp
  | cons x b ih =>
    have hx : x.toNat < 256 := x.isLt
    -- one byte less divides by 256 once more
    cases n with
    | zero => simp
    | succ n =>
      rw [List.drop_succ_cons, ih, leNat_cons, Nat.pow_succ', ← Nat.div_div_eq_div_mul]
      congr 1
      omega

/-- The first bytes are the remainder by their power of 256. -/
theorem leNat_take (b : Bytes) (n : Nat) : leNat (b.take n) = leNat b % 256 ^ n := by
  -- with bytes left behind them, or with all of them taken
  rcases Nat.lt_or_ge n b.length with hlt | hge
  · have hsplit := leNat_append (b.take n) (b.drop n)
    have hlen : (b.take n).length = n := by
      rw [List.length_take]
      omega
    have hbound := leNat_lt (b.take n)
    rw [List.take_append_drop, hlen] at hsplit
    rw [hlen] at hbound
    rw [hsplit, Nat.add_mul_mod_self_left, Nat.mod_eq_of_lt hbound]
  · have hbound : leNat b < 256 ^ n :=
      Nat.lt_of_lt_of_le (leNat_lt b) (Nat.pow_le_pow_right (by decide) hge)
    rw [List.take_of_length_le hge, Nat.mod_eq_of_lt hbound]

/-- Zeros stand for zero. -/
theorem leNat_zeros (n : Nat) : leNat (zeros n) = 0 := by
  induction n with
  | zero => rfl
  | succ n ih =>
    show (0 : Octet).toNat + 256 * leNat (zeros n) = 0
    rw [ih]
    rfl

/-! ## Words -/

/-- A byte of a buffer as a digit of its number. -/
theorem toNat_byte (b : Bytes) (i : Nat) : (byte b i).toNat = leNat b / 256 ^ i % 256 := by
  rw [← leNat_drop]
  rcases Nat.lt_or_ge i b.length with hlt | hge
  · rw [List.drop_eq_getElem_cons hlt, leNat_cons, byte, List.getD_eq_getElem _ _ hlt,
      Nat.add_mul_mod_self_left]
    exact (Nat.mod_eq_of_lt (b[i]).isLt).symm
  · rw [List.drop_of_length_le hge, byte_of_length_le hge]
    rfl

/-- A word with a byte put behind it. -/
theorem toNat_append_byte {w : Nat} (x : BitVec w) (y : Octet) :
    (x ++ y).toNat = 256 * x.toNat + y.toNat := by
  rw [BitVec.toNat_append, ← Nat.shiftLeft_add_eq_or_of_lt y.isLt, Nat.shiftLeft_eq]
  omega

/-- A word is a part of the number. -/
theorem toNat_load32LE (b : Bytes) (offset : Nat) :
    (load32LE b offset).toNat = leNat b / 256 ^ offset % 2 ^ 32 := by
  have hbyte (i : Nat) : (byte b (offset + i)).toNat = leNat b / 256 ^ offset / 256 ^ i % 256 := by
    rw [toNat_byte, Nat.pow_add, Nat.div_div_eq_div_mul]
  have h0 := hbyte 0
  have h1 := hbyte 1
  have h2 := hbyte 2
  have h3 := hbyte 3
  rw [Nat.add_zero, Nat.pow_zero, Nat.div_one] at h0
  rw [load32LE, toNat_append_byte, toNat_append_byte, toNat_append_byte, h0, h1, h2, h3]
  omega

/-- A stored word stands for its own value. -/
theorem leNat_store32LE (v : BitVec 32) : leNat (store32LE v) = v.toNat := by
  have hload := toNat_load32LE (store32LE v) 0
  have hlt : leNat (store32LE v) < 2 ^ 32 := by
    have hbound := leNat_lt (store32LE v)
    rw [length_store32LE] at hbound
    omega
  rw [load32LE_store32LE, Nat.pow_zero, Nat.div_one, Nat.mod_eq_of_lt hlt] at hload
  exact hload.symm

end Buffer
