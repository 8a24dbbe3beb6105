import SqliteMc.Lib.Buffer

/-!
# Cipher block chaining

A block cipher under a key and the chaining of its blocks: each plain block is combined with
the cipher block before it, the first one with an initial vector. An input whose length is
not a multiple of the block size has its last block shortened: the bytes that are missing
from it are taken from the cipher block before it, which is then encrypted once more.

* `decryptBlocks_encryptBlocks`: whole blocks come back, whatever follows them.
* `decrypt_encrypt`: so does every input of one block at least.
* `take_encrypt`, `take_decrypt`: the first block of whole blocks.
-/

/-- A block cipher under one key: two functions on blocks of `k` bytes, of which the second
undoes the first. -/
structure BlockCipher (k : Nat) where
  encrypt : Bytes → Bytes
  decrypt : Bytes → Bytes
  length_encrypt : ∀ {b : Bytes}, b.length = k → (encrypt b).length = k
  length_decrypt : ∀ {b : Bytes}, b.length = k → (decrypt b).length = k
  decrypt_encrypt : ∀ {b : Bytes}, b.length = k → decrypt (encrypt b) = b

namespace Cbc

open Buffer

variable {k : Nat} (c : BlockCipher k)

/-- The cipher blocks of the first `n` blocks of the input. -/
def encryptBlocks : Nat → Bytes → Bytes → Bytes
  | 0, _, _ => []
  | n + 1, iv, input =>
    let block := c.encrypt (xor (input.take k) iv)
    block ++ encryptBlocks n block (input.drop k)

/-- The plain blocks of the first `n` blocks of the input. -/
def decryptBlocks : Nat → Bytes → Bytes → Bytes
  | 0, _, _ => []
  | n + 1, iv, input =>
    xor (c.decrypt (input.take k)) iv ++ decryptBlocks n (input.take k) (input.drop k)

/-- The block that the next one is chained to, after `n` cipher blocks. -/
def chain (n : Nat) (iv blocks : Bytes) : Bytes :=
  if n = 0 then iv else slice blocks ((n - 1) * k) k

def encrypt (iv input : Bytes) : Bytes :=
  let n := input.length / k
  let r := input.length % k
  let blocks := encryptBlocks c n iv input
  if r = 0 then blocks
  else
    -- the last whole block is encrypted a second time, with the fragment in it
    let offset := (n - 1) * k
    let last := slice blocks offset k
    let block := xor (last.take r) (input.drop (offset + k)) ++ last.drop r
    blocks.take offset ++ c.encrypt block ++ last.take r

def decrypt (iv input : Bytes) : Bytes :=
  let n := input.length / k
  let r := input.length % k
  if r = 0 then decryptBlocks c n iv input
  else
    let offset := (n - 1) * k
    let fragment := input.drop (offset + k)
    let block := c.decrypt (slice input offset k)
    decryptBlocks c (n - 1) iv input
      ++ xor (c.decrypt (fragment ++ block.drop r)) (chain (k := k) (n - 1) iv input)
      ++ xor (block.take r) fragment

/-! ## Whole blocks -/

variable {c}

theorem length_encryptBlocks {n : Nat} {iv input : Bytes} (hiv : iv.length = k)
    (h : n * k ≤ input.length) : (encryptBlocks c n iv input).length = n * k := by
  induction n generalizing iv input with
  | zero => simp [encryptBlocks]
  | succ n ih =>
    rw [Nat.succ_mul] at h
    have hblock : (c.encrypt (xor (input.take k) iv)).length = k := by
      -- a block keeps its length, and becomes the next block's vector
      apply c.length_encrypt
      rw [length_xor, List.length_take]
      omega
    rw [encryptBlocks, List.length_append, hblock,
      ih hblock (by rw [List.length_drop]; omega), Nat.succ_mul, Nat.add_comm]

/-- Whole blocks are decrypted again, whatever follows them. -/
theorem decryptBlocks_encryptBlocks {n : Nat} {iv input : Bytes} (hiv : iv.length = k)
    (h : n * k ≤ input.length) (rest : Bytes) :
    decryptBlocks c n iv (encryptBlocks c n iv input ++ rest) = input.take (n * k) := by
  induction n generalizing iv input with
  | zero => simp [decryptBlocks]
  | succ n ih =>
    rw [Nat.succ_mul] at h
    have hplain : (xor (input.take k) iv).length = k := by
      rw [length_xor, List.length_take]
      omega
    have hblock : (c.encrypt (xor (input.take k) iv)).length = k := c.length_encrypt hplain
    -- the first block is combined with the vector twice
    have hfirst : xor (c.decrypt (c.encrypt (xor (input.take k) iv))) iv = input.take k := by
      rw [c.decrypt_encrypt hplain, xor_xor_cancel]
      rw [List.length_take]
      omega
    rw [encryptBlocks, List.append_assoc, decryptBlocks, List.take_left' hblock,
      List.drop_left' hblock, hfirst, ih hblock (by rw [List.length_drop]; omega),
      Nat.succ_mul, Nat.add_comm (n * k), List.take_add]

/-- One more block is chained to the last one. -/
theorem encryptBlocks_succ {n : Nat} {iv input : Bytes} (hiv : iv.length = k)
    (h : n * k ≤ input.length) :
    encryptBlocks c (n + 1) iv input = encryptBlocks c n iv input
      ++ c.encrypt (xor (slice input (n * k) k)
          (chain (k := k) n iv (encryptBlocks c n iv input))) := by
  induction n generalizing iv input with
  | zero => simp [encryptBlocks, chain, slice]
  | succ n ih =>
    rw [Nat.succ_mul] at h
    have hblock : (c.encrypt (xor (input.take k) iv)).length = k := by
      apply c.length_encrypt
      rw [length_xor, List.length_take]
      omega
    have hdrop : slice (input.drop k) (n * k) k = slice input ((n + 1) * k) k := by
      rw [slice, slice, List.drop_drop, Nat.succ_mul, Nat.add_comm k]
    -- the block chained to is the first one, or one of the blocks after it
    have hchain : chain (k := k) n (c.encrypt (xor (input.take k) iv))
          (encryptBlocks c n (c.encrypt (xor (input.take k) iv)) (input.drop k)) =
        chain (k := k) (n + 1) iv (encryptBlocks c (n + 1) iv input) := by
      rw [chain, chain, if_neg (Nat.succ_ne_zero n), Nat.add_sub_cancel, encryptBlocks]
      cases n with
      | zero =>
        rw [if_pos rfl, slice, Nat.zero_mul, List.drop_zero, List.take_left' hblock]
      | succ m =>
        rw [if_neg (Nat.succ_ne_zero m), Nat.add_sub_cancel, Nat.succ_mul, Nat.add_comm (m * k)]
        have hright := slice_append_right (c.encrypt (xor (input.take k) iv))
          (encryptBlocks c (m + 1) (c.encrypt (xor (input.take k) iv)) (input.drop k)) (m * k) k
        rw [hblock] at hright
        exact hright.symm
    rw [encryptBlocks, ih hblock (by rw [List.length_drop]; omega), hchain, hdrop, ← List.append_assoc]
    rfl

/-- Encryption keeps the length of every input of at least one block, stealing included. -/
theorem length_encrypt {iv input : Bytes} (hk : 0 < k) (hiv : iv.length = k)
    (h : k ≤ input.length) : (encrypt c iv input).length = input.length := by
  have hdiv : input.length / k * k + input.length % k = input.length := Nat.div_add_mod' _ _
  have hr : input.length % k < k := Nat.mod_lt _ hk
  have hn : 0 < input.length / k := Nat.div_pos h hk
  have hlen : (encryptBlocks c (input.length / k) iv input).length = input.length / k * k :=
    length_encryptBlocks hiv (by omega)
  unfold encrypt
  dsimp only
  -- only whole blocks, or a fragment that borrows from the last whole block
  split
  · omega
  · -- all blocks but the last, the last block, and the fragment
    obtain ⟨m, hm⟩ : ∃ m, input.length / k = m + 1 := ⟨_, (Nat.succ_pred_eq_of_pos hn).symm⟩
    rw [hm, Nat.succ_mul] at hlen hdiv
    rw [hm, Nat.add_sub_cancel]
    have hlast : (slice (encryptBlocks c (m + 1) iv input) (m * k) k).length = k :=
      length_slice (by omega)
    have hblock : (c.encrypt (xor ((slice (encryptBlocks c (m + 1) iv input) (m * k) k).take
          (input.length % k)) (input.drop (m * k + k))
        ++ (slice (encryptBlocks c (m + 1) iv input) (m * k) k).drop (input.length % k))).length
          = k := by
      apply c.length_encrypt
      rw [List.length_append, length_xor, List.length_take, List.length_drop, List.length_drop,
        hlast]
      omega
    rw [List.length_append, List.length_append, hblock, List.length_take, List.length_take, hlast,
      hlen]
    omega

theorem length_decryptBlocks {n : Nat} {iv input : Bytes} (hiv : iv.length = k)
    (h : n * k ≤ input.length) : (decryptBlocks c n iv input).length = n * k := by
  induction n generalizing iv input with
  | zero => simp [decryptBlocks]
  | succ n ih =>
    rw [Nat.succ_mul] at h
    -- the next block's vector is this block as it came
    have htake : (input.take k).length = k := by
      rw [List.length_take]
      omega
    rw [decryptBlocks, List.length_append, length_xor, c.length_decrypt htake,
      ih htake (by rw [List.length_drop]; omega), Nat.succ_mul]
    omega

theorem length_chain {n : Nat} {iv blocks : Bytes} (hiv : iv.length = k)
    (h : n * k ≤ blocks.length) : (chain (k := k) n iv blocks).length = k := by
  unfold chain
  split
  · exact hiv
  · rename_i hn
    obtain ⟨m, rfl⟩ : ∃ m, n = m + 1 := ⟨n - 1, by omega⟩
    rw [Nat.succ_mul] at h
    exact length_slice (by rw [Nat.add_sub_cancel]; omega)

theorem length_decrypt {iv input : Bytes} (hk : 0 < k) (hiv : iv.length = k)
    (h : k ≤ input.length) : (decrypt c iv input).length = input.length := by
  have hdiv : input.length / k * k + input.length % k = input.length := Nat.div_add_mod' _ _
  have hr : input.length % k < k := Nat.mod_lt _ hk
  have hn : 0 < input.length / k := Nat.div_pos h hk
  unfold decrypt
  dsimp only
  split
  · rw [length_decryptBlocks hiv (by omega)]
    omega
  -- the last whole block is decrypted first: it holds the end of the fragment's block
  · obtain ⟨m, hm⟩ : ∃ m, input.length / k = m + 1 := ⟨_, (Nat.succ_pred_eq_of_pos hn).symm⟩
    rw [hm, Nat.succ_mul] at hdiv
    rw [hm, Nat.add_sub_cancel]
    have hblock : (c.decrypt (slice input (m * k) k)).length = k :=
      c.length_decrypt (length_slice (by omega))
    have hsecond : (c.decrypt (input.drop (m * k + k)
        ++ (c.decrypt (slice input (m * k) k)).drop (input.length % k))).length = k := by
      apply c.length_decrypt
      rw [List.length_append, List.length_drop, List.length_drop, hblock]
      omega
    rw [List.length_append, List.length_append, length_decryptBlocks hiv (by omega), length_xor,
      hsecond, length_chain hiv (by omega), length_xor, List.length_take, hblock, List.length_drop]
    omega

/-- Every input of one block at least is decrypted again. -/
theorem decrypt_encrypt {iv input : Bytes} (hk : 0 < k) (hiv : iv.length = k)
    (h : k ≤ input.length) : decrypt c iv (encrypt c iv input) = input := by
  have hdiv : input.length / k * k + input.length % k = input.length := Nat.div_add_mod' _ _
  have hr : input.length % k < k := Nat.mod_lt _ hk
  have hn : 0 < input.length / k := Nat.div_pos h hk
  unfold decrypt
  rw [length_encrypt hk hiv h]
  unfold encrypt
  dsimp only
  split
  · -- no fragment
    rename_i hfrag
    have hwhole : input.length / k * k = input.length := by omega
    have hback : decryptBlocks c (input.length / k) iv
        (encryptBlocks c (input.length / k) iv input ++ []) = input.take (input.length / k * k) :=
      decryptBlocks_encryptBlocks hiv (by omega) []
    rw [List.append_nil, hwhole, List.take_length] at hback
    exact hback
  -- with a fragment: the last whole block is encrypted twice
  · obtain ⟨m, hm⟩ : ∃ m, input.length / k = m + 1 := ⟨_, (Nat.succ_pred_eq_of_pos hn).symm⟩
    rw [hm, Nat.succ_mul] at hdiv
    rw [hm, Nat.add_sub_cancel]
    generalize hA : encryptBlocks c m iv input = A
    have hAlen : A.length = m * k := by
      rw [← hA]
      exact length_encryptBlocks hiv (by omega)
    generalize hprev : chain (k := k) m iv A = prev
    have hprevlen : prev.length = k := by
      rw [← hprev]
      exact length_chain hiv (by omega)
    have hplain : (xor (slice input (m * k) k) prev).length = k := by
      rw [length_xor, length_slice (by omega)]
      omega
    -- `L` is the last whole block before it is encrypted again
    generalize hL : c.encrypt (xor (slice input (m * k) k) prev) = L
    have hLlen : L.length = k := by
      rw [← hL]
      exact c.length_encrypt hplain
    have hblocks : encryptBlocks c (m + 1) iv input = A ++ L := by
      rw [encryptBlocks_succ hiv (by omega), hA, hprev, hL]
    have hlast : slice (A ++ L) (m * k) k = L := by
      have hright := slice_append_right A L 0 L.length
      rw [slice_zero_length, Nat.add_zero, hAlen, hLlen] at hright
      exact hright
    rw [hblocks, hlast, List.take_left' hAlen]
    generalize hfrag : input.drop (m * k + k) = fragment
    have hfraglen : fragment.length = input.length % k := by
      rw [← hfrag, List.length_drop]
      omega
    have hblocklen : (xor (L.take (input.length % k)) fragment
        ++ L.drop (input.length % k)).length = k := by
      rw [List.length_append, length_xor, List.length_take, List.length_drop]
      omega
    generalize hC : c.encrypt (xor (L.take (input.length % k)) fragment
        ++ L.drop (input.length % k)) = C
    have hClen : C.length = k := by
      rw [← hC]
      exact c.length_encrypt hblocklen
    -- what is read back from the cipher text
    have hsecond : slice (A ++ C ++ L.take (input.length % k)) (m * k) k = C := by
      have hright := slice_append_right A (C ++ L.take (input.length % k)) 0 k
      rw [Nat.add_zero, hAlen] at hright
      rw [List.append_assoc, hright, slice_zero_eq_take, List.take_left' hClen]
    have htail : (A ++ C ++ L.take (input.length % k)).drop (m * k + k)
        = L.take (input.length % k) := by
      apply List.drop_left'
      rw [List.length_append, hAlen, hClen]
    have hchain : chain (k := k) m iv (A ++ C ++ L.take (input.length % k)) = prev := by
      rw [← hprev, chain, chain]
      split
      · rfl
      · rename_i hm0
        obtain ⟨m', rfl⟩ : ∃ m', m = m' + 1 := ⟨m - 1, by omega⟩
        rw [List.append_assoc, slice_append_left]
        rw [hAlen, Nat.add_sub_cancel, Nat.succ_mul]
    have hwhole : decryptBlocks c m iv (A ++ C ++ L.take (input.length % k))
        = input.take (m * k) := by
      rw [List.append_assoc, ← hA]
      exact decryptBlocks_encryptBlocks hiv (by omega) _
    have hxorlen : (xor (L.take (input.length % k)) fragment).length = input.length % k := by
      rw [length_xor, List.length_take]
      omega
    -- the second encryption is undone, then the first
    rw [hsecond, htail, hchain, hwhole, ← hC, c.decrypt_encrypt hblocklen,
      List.drop_left' hxorlen, List.take_left' hxorlen, List.take_append_drop, ← hL,
      c.decrypt_encrypt hplain, xor_xor_cancel (by rw [length_slice (by omega)]; omega), hL,
      xor_comm (L.take _) fragment, xor_xor_cancel (by rw [List.length_take]; omega), ← hfrag,
      slice, ← List.take_add, ← List.drop_drop]
    rw [List.drop_drop, List.take_append_drop]

/-! ## The first block -/

/-- It is encrypted by itself. -/
theorem take_encrypt {iv input : Bytes} (hk : 0 < k) (hiv : iv.length = k) (h : k ≤ input.length)
    (hwhole : input.length % k = 0) :
    (encrypt c iv input).take k = c.encrypt (xor (input.take k) iv) := by
  obtain ⟨n, hn⟩ : ∃ n, input.length / k = n + 1 :=
    ⟨_, (Nat.succ_pred_eq_of_pos (Nat.div_pos h hk)).symm⟩
  have hblock : (c.encrypt (xor (input.take k) iv)).length = k := by
    apply c.length_encrypt
    rw [length_xor, List.length_take]
    omega
  rw [encrypt, hn, if_pos hwhole, encryptBlocks, List.take_left' hblock]

/-- The first block of a whole number of blocks is decrypted against the vector alone. -/
theorem take_decrypt {iv input : Bytes} (hk : 0 < k) (hiv : iv.length = k) (h : k ≤ input.length)
    (hwhole : input.length % k = 0) :
    (decrypt c iv input).take k = xor (c.decrypt (input.take k)) iv := by
  obtain ⟨n, hn⟩ : ∃ n, input.length / k = n + 1 :=
    ⟨_, (Nat.succ_pred_eq_of_pos (Nat.div_pos h hk)).symm⟩
  have hblock : (c.decrypt (input.take k)).length = k := by
    apply c.length_decrypt
    rw [List.length_take]
    omega
  have hplain : (xor (c.decrypt (input.take k)) iv).length = k := by
    rw [length_xor]
    omega
  rw [decrypt, hn, if_pos hwhole, decryptBlocks, List.take_left' hplain]

end Cbc
