import SqliteMc.Lib.Encoding
import Mathlib.Data.List.GetD
import Mathlib.Data.Set.Finite.List
import Mathlib.Data.Finite.Prod

/-!
# Byte buffers

Buffers as lists of bytes with the operations of C on them: `slice` reads, `patch` is a
`memcpy` into the buffer, `xor` combines two buffers byte by byte. `load32LE`, `store32LE`
and their big-endian variants are the accesses to a word of four bytes.

* `getElem?_patch`, `slice_patch_*`: what is read after a copy.
* `xor_xor_cancel`: combining twice with the same bytes changes nothing.
* `load32LE_store32LE`, `store32LE_load32LE`: words and their bytes.
-/

abbrev Bytes := List Octet

namespace Buffer

/-- The `count` bytes from `offset` on. -/
def slice (b : Bytes) (offset count : Nat) : Bytes := (b.drop offset).take count

/-- The buffer with `bytes` copied over it from `offset` on. -/
def patch (b : Bytes) (offset : Nat) (bytes : Bytes) : Bytes :=
  b.take offset ++ bytes ++ b.drop (offset + bytes.length)

/-- The buffer with the bytes between two positions replaced by what a function makes of them. -/
def inPlace (f : Bytes → Bytes) (o n : Nat) (b : Bytes) : Bytes := patch b o (f (slice b o (n - o)))

/-- The two buffers combined byte by byte, as long as the shorter one. -/
def xor (a b : Bytes) : Bytes := List.zipWith (· ^^^ ·) a b

/-- `count` bytes of zero. -/
def zeros (count : Nat) : Bytes := List.replicate count 0

/-! ## Reading -/

/-- A part at its own position is the buffer at the position shifted by the part's offset. -/
theorem getElem?_slice (b : Bytes) (offset count i : Nat) :
    (slice b offset count)[i]? = if i < count then b[offset + i]? else none := by
  rw [slice, List.getElem?_take]
  split
  · rw [List.getElem?_drop]
  · rfl

theorem length_slice {b : Bytes} {offset count : Nat} (h : offset + count ≤ b.length) :
    (slice b offset count).length = count := by
  rw [slice, List.length_take, List.length_drop]
  omega

@[simp] theorem slice_zero_length (b : Bytes) : slice b 0 b.length = b := by
  simp [slice]

/-- A part that begins where the buffer does is a prefix of it. -/
theorem slice_zero_eq_take (b : Bytes) (count : Nat) : slice b 0 count = b.take count := by
  simp [slice]

/-- A part of a part. -/
theorem slice_slice {b : Bytes} {offset count o c : Nat} (h : o + c ≤ count) :
    slice (slice b offset count) o c = slice b (offset + o) c := by
  apply List.ext_getElem?
  intro i
  rw [getElem?_slice, getElem?_slice, getElem?_slice]
  by_cases hi : i < c
  · rw [if_pos hi, if_pos hi, if_pos (by omega), Nat.add_assoc]
  · rw [if_neg hi, if_neg hi]

/-- A part that ends inside the first of two buffers does not see the second. -/
theorem slice_append_left {a b : Bytes} {offset count : Nat} (h : offset + count ≤ a.length) :
    slice (a ++ b) offset count = slice a offset count := by
  apply List.ext_getElem?
  intro i
  rw [getElem?_slice, getElem?_slice]
  by_cases hi : i < count
  · rw [if_pos hi, if_pos hi, List.getElem?_append_left (by omega)]
  · rw [if_neg hi, if_neg hi]

/-- A part that begins behind the first of two buffers is a part of the second. -/
theorem slice_append_right (a b : Bytes) (offset count : Nat) :
    slice (a ++ b) (a.length + offset) count = slice b offset count := by
  apply List.ext_getElem?
  intro i
  rw [getElem?_slice, getElem?_slice, Nat.add_assoc,
    List.getElem?_append_right (Nat.le_add_right _ _), Nat.add_sub_cancel_left]

/-- Two neighbouring parts are one part. -/
theorem slice_append_slice (b : Bytes) (offset m n : Nat) :
    slice b offset m ++ slice b (offset + m) n = slice b offset (m + n) := by
  rw [slice, slice, slice, ← List.drop_drop, List.take_add]

/-- A buffer is what it reads as on both sides of a position. -/
theorem eq_slice_append {b : Bytes} {n : Nat} (h : n ≤ b.length) :
    b = slice b 0 n ++ slice b n (b.length - n) := by
  have hall := slice_append_slice b 0 n (b.length - n)
  rw [Nat.zero_add, Nat.add_sub_cancel' h, slice_zero_length] at hall
  exact hall.symm

/-- Equal prefixes grow by equal parts. -/
theorem take_eq_take_of_slice {a b : Bytes} {n m : Nat} (hnm : n ≤ m)
    (hlow : a.take n = b.take n) (hhigh : slice a n (m - n) = slice b n (m - n)) :
    a.take m = b.take m := by
  have ha := slice_append_slice a 0 n (m - n)
  have hb := slice_append_slice b 0 n (m - n)
  rw [Nat.zero_add, Nat.add_sub_cancel' hnm, slice_zero_eq_take, slice_zero_eq_take] at ha hb
  rw [← ha, ← hb, hlow, hhigh]

/-! ## Copying into a buffer -/

theorem length_patch {b bytes : Bytes} {offset : Nat} (h : offset + bytes.length ≤ b.length) :
    (patch b offset bytes).length = b.length := by
  rw [patch, List.length_append, List.length_append, List.length_take, List.length_drop]
  omega

/-- After a copy the bytes stand in their own range, and every other position is as before. -/
theorem getElem?_patch {b bytes : Bytes} {offset : Nat} (h : offset ≤ b.length) (i : Nat) :
    (patch b offset bytes)[i]? =
      if offset ≤ i ∧ i < offset + bytes.length then bytes[i - offset]? else b[i]? := by
  have htake : (b.take offset).length = offset := by
    rw [List.length_take]
    omega
  rw [patch, List.append_assoc]
  -- before, in and after what was copied
  rcases Nat.lt_or_ge i offset with hi | hi
  · rw [List.getElem?_append_left (by omega), if_neg (by omega), List.getElem?_take, if_pos hi]
  · rw [List.getElem?_append_right (by omega), htake]
    rcases Nat.lt_or_ge (i - offset) bytes.length with hi' | hi'
    · rw [List.getElem?_append_left hi', if_pos (by omega)]
    · rw [List.getElem?_append_right hi', if_neg (by omega), List.getElem?_drop]
      congr 1
      omega

/-- What was copied into a buffer is read back from there. -/
theorem slice_patch_self {b bytes : Bytes} {offset : Nat} (h : offset ≤ b.length) :
    slice (patch b offset bytes) offset bytes.length = bytes := by
  apply List.ext_getElem?
  intro i
  rw [getElem?_slice, getElem?_patch h]
  by_cases hi : i < bytes.length
  · rw [if_pos hi, if_pos (by omega), Nat.add_sub_cancel_left]
  · rw [if_neg hi, List.getElem?_eq_none (by omega)]

/-- `slice_patch_self` for a count that is only known to be the length of the bytes. -/
theorem slice_patch_of_length {b bytes : Bytes} {offset count : Nat} (h : offset ≤ b.length)
    (hcount : bytes.length = count) : slice (patch b offset bytes) offset count = bytes := by
  rw [← hcount, slice_patch_self h]

/-- What lies outside of what was copied reads as before. -/
theorem slice_patch_of_disjoint {b bytes : Bytes} {offset o count : Nat} (h : offset ≤ b.length)
    (hdisj : o + count ≤ offset ∨ offset + bytes.length ≤ o) :
    slice (patch b offset bytes) o count = slice b o count := by
  apply List.ext_getElem?
  intro i
  rw [getElem?_slice, getElem?_slice, getElem?_patch h]
  by_cases hi : i < count
  · rw [if_pos hi, if_pos hi, if_neg (by omega)]
  · rw [if_neg hi, if_neg hi]

/-- A part of what was copied. -/
theorem slice_patch_inside {b bytes : Bytes} {offset o count : Nat} (h : offset ≤ b.length)
    (hle : o + count ≤ bytes.length) :
    slice (patch b offset bytes) (offset + o) count = slice bytes o count := by
  rw [← slice_slice hle, slice_patch_self h]

/-- A copy changes nothing in front of its offset. -/
theorem take_patch_of_le {b bytes : Bytes} {offset n : Nat} (h : offset ≤ b.length)
    (hn : n ≤ offset) : (patch b offset bytes).take n = b.take n := by
  rw [← slice_zero_eq_take, ← slice_zero_eq_take]
  exact slice_patch_of_disjoint h (Or.inl (by omega))

@[simp] theorem patch_nil (b : Bytes) (offset : Nat) : patch b offset [] = b := by
  simp [patch]

/-- Copying a part back to where it was read changes nothing. -/
theorem patch_slice_self {b : Bytes} {offset count : Nat} (h : offset + count ≤ b.length) :
    patch b offset (slice b offset count) = b := by
  apply List.ext_getElem?
  intro i
  rw [getElem?_patch (by omega), length_slice h]
  split
  · rename_i hi
    rw [getElem?_slice, if_pos (by omega), Nat.add_sub_cancel' hi.1]
  · rfl

/-- The second of two copies to the same place is the one that stays. -/
theorem patch_patch_self {b x y : Bytes} {offset : Nat} (h : offset + x.length ≤ b.length)
    (hlen : x.length = y.length) : patch (patch b offset x) offset y = patch b offset y := by
  apply List.ext_getElem?
  intro i
  have hx : offset ≤ (patch b offset x).length := by
    rw [length_patch h]
    omega
  rw [getElem?_patch hx, getElem?_patch (by omega), getElem?_patch (by omega), hlen]
  split <;> rfl

/-- Copies to different places can be made in either order. -/
theorem patch_comm {b x y : Bytes} {m n : Nat} (hm : m + x.length ≤ b.length)
    (hn : n + y.length ≤ b.length) (hdisj : m + x.length ≤ n ∨ n + y.length ≤ m) :
    patch (patch b m x) n y = patch (patch b n y) m x := by
  apply List.ext_getElem?
  intro i
  -- position by position; at most one of the two copies reaches a position
  have hx : n ≤ (patch b m x).length := by
    rw [length_patch hm]
    omega
  have hy : m ≤ (patch b n y).length := by
    rw [length_patch hn]
    omega
  rw [getElem?_patch hx, getElem?_patch (by omega), getElem?_patch hy, getElem?_patch (by omega)]
  -- the second copy has the say inside its range, where the first does not write
  by_cases hi : n ≤ i ∧ i < n + y.length
  · rw [if_pos hi, if_neg (by omega), if_pos hi]
  · rw [if_neg hi, if_neg hi]

/-! ## Buffers that agree up to a position -/

/-- Buffers that agree up to a position agree at each position in front of it. -/
theorem getElem?_of_take_eq {a b : Bytes} {n i : Nat} (h : a.take n = b.take n) (hi : i < n) :
    a[i]? = b[i]? := by
  have hat := congrArg (fun l : Bytes => l[i]?) h
  simpa only [List.getElem?_take, if_pos hi] using hat

/-- Buffers that agree at each position in front of a bound agree up to it. -/
theorem take_eq_of_getElem? {a b : Bytes} {n : Nat} (h : ∀ i < n, a[i]? = b[i]?) :
    a.take n = b.take n := by
  apply List.ext_getElem?
  intro i
  rw [List.getElem?_take, List.getElem?_take]
  split
  · rename_i hi
    exact h i hi
  · rfl

/-- Buffers that agree up to a position have equal parts in front of it. -/
theorem slice_eq_of_take_eq {a b : Bytes} {n o count : Nat} (h : a.take n = b.take n)
    (hle : o + count ≤ n) : slice a o count = slice b o count := by
  have ha : slice (slice a 0 n) o count = slice a (0 + o) count := slice_slice hle
  have hb : slice (slice b 0 n) o count = slice b (0 + o) count := slice_slice hle
  rw [Nat.zero_add, slice_zero_eq_take] at ha hb
  rw [← ha, ← hb, h]

/-- Buffers with the same first bytes and the same others are the same. -/
theorem eq_of_take_of_slice {a b : Bytes} {k : Nat} (hlen : a.length = b.length)
    (hk : k ≤ a.length) (hlow : a.take k = b.take k)
    (hhigh : slice a k (a.length - k) = slice b k (a.length - k)) : a = b := by
  have hall := take_eq_take_of_slice hk hlow hhigh
  rw [List.take_length, hlen, List.take_length] at hall
  exact hall

/-- Copying to the same place keeps the agreement. -/
theorem take_patch_congr {a b : Bytes} {n : Nat} (h : a.take n = b.take n)
    (hlen : a.length = b.length) {o : Nat} (ho : o ≤ a.length) (x : Bytes) :
    (patch a o x).take n = (patch b o x).take n := by
  apply take_eq_of_getElem?
  intro i hi
  rw [getElem?_patch ho, getElem?_patch (by omega), getElem?_of_take_eq h hi]

/-! ## Parts that are replaced in place -/

section InPlace

variable {f : Bytes → Bytes} {o n : Nat} {b : Bytes}

theorem length_part (hon : o ≤ n) (hn : n ≤ b.length) : (slice b o (n - o)).length = n - o :=
  length_slice (by omega)

/-- An operation that keeps the length of a part keeps the length of the buffer. -/
theorem length_inPlace (hf : ∀ x, x.length = n - o → (f x).length = n - o) (hon : o ≤ n)
    (hn : n ≤ b.length) : (inPlace f o n b).length = b.length := by
  apply length_patch
  rw [hf _ (length_part hon hn)]
  omega

/-- The part that was replaced is the operation's result on it. -/
theorem slice_inPlace (hf : ∀ x, x.length = n - o → (f x).length = n - o) (hon : o ≤ n)
    (hn : n ≤ b.length) : slice (inPlace f o n b) o (n - o) = f (slice b o (n - o)) := by
  exact slice_patch_of_length (by omega) (hf _ (length_part hon hn))

/-- What lies outside of the part stays. -/
theorem slice_inPlace_of_disjoint (hf : ∀ x, x.length = n - o → (f x).length = n - o) (hon : o ≤ n)
    (hn : n ≤ b.length) {offset count : Nat} (hdisj : offset + count ≤ o ∨ n ≤ offset) :
    slice (inPlace f o n b) offset count = slice b offset count := by
  apply slice_patch_of_disjoint (by omega)
  rw [hf _ (length_part hon hn)]
  omega

/-- A replaced part position by position: the operation's result inside, the old bytes outside. -/
theorem getElem?_inPlace (hf : ∀ x, x.length = n - o → (f x).length = n - o) (hon : o ≤ n)
    (hn : n ≤ b.length) (i : Nat) : (inPlace f o n b)[i]? =
      if o ≤ i ∧ i < n then (f (slice b o (n - o)))[i - o]? else b[i]? := by
  rw [inPlace, getElem?_patch (by omega), hf _ (length_part hon hn)]
  congr 1
  simp only [Nat.add_sub_cancel' hon]

/-- Buffers that agree up to the end of the replaced part still do after the operation. -/
theorem take_inPlace_congr {a : Bytes} (h : a.take n = b.take n) (hlen : a.length = b.length)
    (hon : o ≤ n) (hn : n ≤ b.length) : (inPlace f o n a).take n = (inPlace f o n b).take n := by
  rw [inPlace, inPlace, slice_eq_of_take_eq h (by omega)]
  exact take_patch_congr h hlen (by omega) _

end InPlace

/-- There are finitely many buffers of a length, so a function on them that is undone by another
one also undoes it. -/
theorem comp_eq_of_length {f g : Bytes → Bytes} {n : Nat}
    (hf : ∀ x, x.length = n → (f x).length = n)
    (hgf : ∀ x, x.length = n → g (f x) = x) {x : Bytes} (hx : x.length = n) : f (g x) = x := by
  have hoctet : Finite Octet := Finite.of_injective BitVec.toFin fun _ _ => BitVec.eq_of_toFin_eq
  have hfin : Finite {b : Bytes // b.length = n} := (List.finite_length_eq Octet n).to_subtype
  let fn : {b : Bytes // b.length = n} → {b : Bytes // b.length = n} := fun b => ⟨f b.1, hf b.1 b.2⟩
  have hinj : Function.Injective fn := by
    intro a b hab
    have hval : f a.1 = f b.1 := congrArg Subtype.val hab
    apply Subtype.ext
    rw [← hgf a.1 a.2, hval, hgf b.1 b.2]
  -- what is mapped to `x` is what `g` makes of it
  obtain ⟨y, hy⟩ := Finite.injective_iff_surjective.mp hinj ⟨x, hx⟩
  have hval : f y.1 = x := congrArg Subtype.val hy
  rw [← hval, hgf y.1 y.2]

/-! ## Combining byte by byte -/

@[simp] theorem length_xor (a b : Bytes) : (xor a b).length = min a.length b.length := by
  simp [xor]

/-- Combining twice with the same bytes gives the buffer back. -/
theorem xor_xor_cancel {a b : Bytes} (h : a.length ≤ b.length) : xor (xor a b) b = a := by
  induction a generalizing b with
  | nil => rfl
  | cons x a ih =>
    match b with
    | [] => simp at h
    | y :: b =>
      have hrest : xor (xor a b) b = a := ih (Nat.le_of_succ_le_succ h)
      show (x ^^^ y ^^^ y) :: xor (xor a b) b = x :: a
      rw [hrest, BitVec.xor_assoc, BitVec.xor_self, BitVec.xor_zero]

/-- The order of the two buffers does not matter. -/
theorem xor_comm (a b : Bytes) : xor a b = xor b a := by
  rw [xor, xor, List.zipWith_comm]
  congr 1
  funext x y
  exact BitVec.xor_comm y x

/-- Buffers that are split alike are combined part by part. -/
theorem xor_append {a a' b b' : Bytes} (h : a.length = b.length) :
    xor (a ++ a') (b ++ b') = xor a b ++ xor a' b' :=
  List.zipWith_append h

/-! ## Words -/

/-- The byte at the index, zero past the end. -/
def byte (b : Bytes) (i : Nat) : Octet := b.getD i 0

/-- Reading with a bound and reading with a default are one reading inside the buffer. -/
theorem getElem?_eq_byte (b : Bytes) (i : Nat) :
    b[i]? = if i < b.length then some (byte b i) else none := by
  split
  · rename_i hi
    rw [byte, List.getD_eq_getElem?_getD, List.getElem?_eq_getElem hi, Option.getD_some]
  · rename_i hi
    exact List.getElem?_eq_none (Nat.le_of_not_lt hi)

/-- Behind its end a buffer reads as zero. -/
theorem byte_of_length_le {b : Bytes} {i : Nat} (h : b.length ≤ i) : byte b i = 0 :=
  List.getD_eq_default b 0 h

/-- `LOAD32_LE` of the bytes from `offset` on. -/
def load32LE (b : Bytes) (offset : Nat) : BitVec 32 :=
  byte b (offset + 3) ++ byte b (offset + 2) ++ byte b (offset + 1) ++ byte b offset

/-- `STORE32_LE`. -/
def store32LE (v : BitVec 32) : Bytes :=
  [v.extractLsb' 0 8, v.extractLsb' 8 8, v.extractLsb' 16 8, v.extractLsb' 24 8]

/-- `LOAD32_BE`. -/
def load32BE (b : Bytes) (offset : Nat) : BitVec 32 :=
  byte b offset ++ byte b (offset + 1) ++ byte b (offset + 2) ++ byte b (offset + 3)

/-- `STORE32_BE`. -/
def store32BE (v : BitVec 32) : Bytes := (store32LE v).reverse

@[simp] theorem length_store32LE (v : BitVec 32) : (store32LE v).length = 4 := rfl

@[simp] theorem length_store32BE (v : BitVec 32) : (store32BE v).length = 4 := rfl

/-- A word is made of its four bytes. -/
theorem word_eq_bytes (v : BitVec 32) :
    v.extractLsb' 24 8 ++ v.extractLsb' 16 8 ++ v.extractLsb' 8 8 ++ v.extractLsb' 0 8 = v := by
  apply BitVec.eq_of_getLsbD_eq
  intro i hi
  simp only [BitVec.getLsbD_append, BitVec.getLsbD_extractLsb']
  grind

/-- A word stored with its low byte first is loaded back. -/
theorem load32LE_store32LE (v : BitVec 32) : load32LE (store32LE v) 0 = v := word_eq_bytes v

/-- A word stored with its high byte first is loaded back. -/
theorem load32BE_store32BE (v : BitVec 32) : load32BE (store32BE v) 0 = v := word_eq_bytes v

theorem byte_append_left {a b : Bytes} {i : Nat} (h : i < a.length) :
    byte (a ++ b) i = byte a i := by
  rw [byte, byte, List.getD_append _ _ _ _ h]

theorem byte_append_right (a b : Bytes) (i : Nat) : byte (a ++ b) (a.length + i) = byte b i := by
  rw [byte, byte, List.getD_append_right _ _ _ _ (Nat.le_add_right _ _), Nat.add_sub_cancel_left]

/-- A word that ends inside the first of two buffers. -/
theorem load32BE_append_left {a b : Bytes} {offset : Nat} (h : offset + 4 ≤ a.length) :
    load32BE (a ++ b) offset = load32BE a offset := by
  rw [load32BE, load32BE, byte_append_left (by omega), byte_append_left (by omega),
    byte_append_left (by omega), byte_append_left (by omega)]

/-- A word that begins behind the first of two buffers. -/
theorem load32BE_append_right (a b : Bytes) (offset : Nat) :
    load32BE (a ++ b) (a.length + offset) = load32BE b offset := by
  simp only [load32BE, Nat.add_assoc, byte_append_right]

/-- The four bytes of a word that was made of them. -/
theorem bytes_of_word (a b c d : Octet) :
    (a ++ b ++ c ++ d).extractLsb' 24 8 = a ∧ (a ++ b ++ c ++ d).extractLsb' 16 8 = b ∧
      (a ++ b ++ c ++ d).extractLsb' 8 8 = c ∧ (a ++ b ++ c ++ d).extractLsb' 0 8 = d := by
  refine ⟨?_, ?_, ?_, ?_⟩ <;>
  · apply BitVec.eq_of_getLsbD_eq
    intro i hi
    simp only [BitVec.getLsbD_append, BitVec.getLsbD_extractLsb']
    grind

/-- Four bytes of a buffer one by one. -/
theorem slice_four {b : Bytes} {offset : Nat} (h : offset + 4 ≤ b.length) :
    slice b offset 4 = [byte b offset, byte b (offset + 1), byte b (offset + 2),
      byte b (offset + 3)] := by
  apply List.ext_getElem?
  intro i
  rw [getElem?_slice]
  have h0 : offset < b.length := by omega
  have h1 : offset + 1 < b.length := by omega
  have h2 : offset + 2 < b.length := by omega
  have h3 : offset + 3 < b.length := by omega
  rcases i with _ | _ | _ | _ | i <;> simp [byte, List.getD_eq_getElem?_getD, h0, h1, h2, h3]

/-- Storing a loaded word gives its four bytes back. -/
theorem store32BE_load32BE {b : Bytes} {offset : Nat} (h : offset + 4 ≤ b.length) :
    store32BE (load32BE b offset) = slice b offset 4 := by
  obtain ⟨h0, h1, h2, h3⟩ := bytes_of_word (byte b offset) (byte b (offset + 1))
    (byte b (offset + 2)) (byte b (offset + 3))
  rw [slice_four h, store32BE, store32LE, load32BE, h0, h1, h2, h3]
  rfl

end Buffer
