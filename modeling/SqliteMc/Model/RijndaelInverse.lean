import SqliteMc.Model.Rijndael

/-!
# Decryption undoes encryption

`decryptBlock` undoes `encryptBlock` under every key. The tables are read once: a row of `U1`
to `U4` is a sum over the bits of its index, a row of `T1` to `T4` the same kind of sum over
the bits of an entry of `S`, and a row of `T5` to `T8` one over the bits of an entry of `S5`.
From there on

* `unmix_encryptRound`: the inverse mixing takes a round of the encryption to its last round;
* `decryptRound_eq`: a round of the decryption is its last round and the inverse mixing;
* `decryptLast_encryptLast`: the two last rounds cancel;

and since the inverse mixing is additive, the keys that were mixed inversely cancel as well.
-/

namespace SqliteMc

namespace Rijndael

open Buffer

-- ---------------------------------------------------------------------------
-- Sums over the bits of an index
-- ---------------------------------------------------------------------------

/-- The sum of the words whose bit of the index is set, from bit `k` on. -/
def bitSum : Nat → List Word → Octet → Word
  | _, [], _ => 0
  | k, w :: words, x => (if x.getLsbD k then w else 0) ^^^ bitSum (k + 1) words x

/-- Words may be combined in any order. -/
private theorem xor_left_comm (a b c : Word) : a ^^^ (b ^^^ c) = b ^^^ (a ^^^ c) := by
  rw [← BitVec.xor_assoc, BitVec.xor_comm a, BitVec.xor_assoc]

theorem bitSum_xor (k : Nat) (words : List Word) (x y : Octet) :
    bitSum k words (x ^^^ y) = bitSum k words x ^^^ bitSum k words y := by
  induction words generalizing k with
  | nil => simp [bitSum]
  | cons w words ih =>
    rw [bitSum, bitSum, bitSum, ih, BitVec.getLsbD_xor]
    generalize bitSum (k + 1) words x = a
    generalize bitSum (k + 1) words y = b
    -- the word is added for one of the two indices, for both or for none
    cases x.getLsbD k <;> cases y.getLsbD k
    · simp
    · simp [xor_left_comm]
    · simp [BitVec.xor_assoc]
    · show 0#32 ^^^ (a ^^^ b) = (w ^^^ a) ^^^ (w ^^^ b)
      rw [BitVec.zero_xor, BitVec.xor_assoc, xor_left_comm a w b, ← BitVec.xor_assoc,
        BitVec.xor_self, BitVec.zero_xor]

/-- An additive function is the sum of its values at the single bits. -/
theorem eq_bitSum {f : Octet → Word} (h : ∀ x y, f (x ^^^ y) = f x ^^^ f y) (x : Octet) :
    f x = bitSum 0 [f 1, f 2, f 4, f 8, f 16, f 32, f 64, f 128] x := by
  -- a function that goes through combinations takes zero to zero
  have hzero : f 0 = 0 := by
    have h0 := h 0 0
    rwa [BitVec.xor_self, BitVec.xor_self] at h0
  -- a byte is the combination of its bits
  have hx : ∀ x : Octet, x = (x &&& 1) ^^^ ((x &&& 2) ^^^ ((x &&& 4) ^^^ ((x &&& 8) ^^^
      ((x &&& 16) ^^^ ((x &&& 32) ^^^ ((x &&& 64) ^^^ (x &&& 128))))))) := by decide +kernel
  -- each bit is one of the eight, or absent
  have hbit (k : Nat) (v : Octet) (hv : v = BitVec.twoPow 8 k) :
      f (x &&& v) = if x.getLsbD k then f v else 0 := by
    rw [hv, BitVec.and_twoPow]
    split
    · rfl
    · exact hzero
  calc f x = _ := congrArg f (hx x)
    _ = _ := by rw [h, h, h, h, h, h, h]
    _ = _ := by
      rw [hbit 0 1 rfl, hbit 1 2 rfl, hbit 2 4 rfl, hbit 3 8 rfl, hbit 4 16 rfl, hbit 5 32 rfl,
        hbit 6 64 rfl, hbit 7 128 rfl]
      simp [bitSum]

/-- A table that lists the values of a function has them as rows. -/
theorem row_map {table source : List Nat} {f : Octet → Word} (hlen : source.length = 256)
    (h : table = source.map fun n => (f (BitVec.ofNat 8 n)).toNat) (x : Octet) :
    row table x = f (box source x) := by
  have hx : x.toNat < source.length := by
    rw [hlen]
    exact x.isLt
  rw [row, box, h, List.getD_eq_getElem _ _ (by rw [List.length_map]; exact hx), List.getElem_map,
    List.getD_eq_getElem _ _ hx, BitVec.ofNat_toNat, BitVec.setWidth_eq]

/-- The list of all bytes is the identity as a box. -/
theorem box_range (x : Octet) : box (List.range 256) x = x := by
  have hx : x.toNat < (List.range 256).length := by
    rw [List.length_range]
    exact x.isLt
  rw [box, List.getD_eq_getElem _ _ hx, List.getElem_range, BitVec.ofNat_toNat, BitVec.setWidth_eq]

-- ---------------------------------------------------------------------------
-- The tables
-- ---------------------------------------------------------------------------

/-- The sums of the rows of `U1` to `U4`. -/
def unmixed : Fin 4 → Octet → Word
  | 0 => bitSum 0 [0x0e090d0b, 0x1c121a16, 0x3824342c, 0x70486858, 0xe090d0b0, 0xdb3bbb7b,
      0xad766df6, 0x41ecdaf7]
  | 1 => bitSum 0 [0x0b0e090d, 0x161c121a, 0x2c382434, 0x58704868, 0xb0e090d0, 0x7bdb3bbb,
      0xf6ad766d, 0xf741ecda]
  | 2 => bitSum 0 [0x0d0b0e09, 0x1a161c12, 0x342c3824, 0x68587048, 0xd0b0e090, 0xbb7bdb3b,
      0x6df6ad76, 0xdaf741ec]
  | 3 => bitSum 0 [0x090d0b0e, 0x121a161c, 0x24342c38, 0x48685870, 0x90d0b0e0, 0x3bbb7bdb,
      0x766df6ad, 0xecdaf741]

/-- The sums of the rows of `T1` to `T4`. -/
def mixed : Fin 4 → Octet → Word
  | 0 => bitSum 0 [0x02010103, 0x04020206, 0x0804040c, 0x10080818, 0x20101030, 0x40202060,
      0x804040c0, 0x1b80809b]
  | 1 => bitSum 0 [0x03020101, 0x06040202, 0x0c080404, 0x18100808, 0x30201010, 0x60402020,
      0xc0804040, 0x9b1b8080]
  | 2 => bitSum 0 [0x01030201, 0x02060402, 0x040c0804, 0x08181008, 0x10302010, 0x20604020,
      0x40c08040, 0x809b1b80]
  | 3 => bitSum 0 [0x01010302, 0x02020604, 0x04040c08, 0x08081810, 0x10103020, 0x20206040,
      0x4040c080, 0x80809b1b]

-- ---------------------------------------------------------------------------
-- What the tables say
-- ---------------------------------------------------------------------------

theorem length_S : S.length = 256 := by decide +kernel

theorem length_S5 : S5.length = 256 := by decide +kernel

/-- The four tables of a kind, by the byte that indexes them. -/
def tablesU : Fin 4 → List Nat
  | 0 => U1
  | 1 => U2
  | 2 => U3
  | 3 => U4

def tablesEncrypt : Fin 4 → List Nat
  | 0 => T1
  | 1 => T2
  | 2 => T3
  | 3 => T4

def tablesDecrypt : Fin 4 → List Nat
  | 0 => T5
  | 1 => T6
  | 2 => T7
  | 3 => T8

/-- The tables of the key schedule are the inverse of column mixing. -/
theorem row_tablesU (i : Fin 4) (x : Octet) : row (tablesU i) x = unmixed i x := by
  have htable : tablesU i = (List.range 256).map fun n => (unmixed i (BitVec.ofNat 8 n)).toNat := by
    revert i
    decide +kernel
  rw [row_map List.length_range htable, box_range]

/-- The tables of encryption are substitution followed by column mixing. -/
theorem row_tablesEncrypt (i : Fin 4) (x : Octet) :
    row (tablesEncrypt i) x = mixed i (box S x) := by
  have htable : tablesEncrypt i = S.map fun n => (mixed i (BitVec.ofNat 8 n)).toNat := by
    revert i
    decide +kernel
  exact row_map length_S htable x

/-- The tables of decryption are inverse substitution followed by unmixing. -/
theorem row_tablesDecrypt (i : Fin 4) (x : Octet) :
    row (tablesDecrypt i) x = unmixed i (box S5 x) := by
  have htable : tablesDecrypt i = S5.map fun n => (unmixed i (BitVec.ofNat 8 n)).toNat := by
    revert i
    decide +kernel
  exact row_map length_S5 htable x

/-- `S5` as one number, so that an entry is found without walking the list. -/
def packedS5 : Nat := S5.foldr (fun entry rest => rest * 256 + entry) 0

/-- The two boxes are inverse to each other. -/
theorem box_S5_box_S (x : Octet) : box S5 (box S x) = x := by
  have hlist : S5 = (List.range 256).map fun n => packedS5 >>> (8 * n) % 256 := by decide +kernel
  have hinverse : S.map (fun n => packedS5 >>> (8 * n) % 256) = List.range 256 := by
    decide +kernel
  have hbound : ∀ n ∈ S, n < 256 := by decide +kernel
  have hx : x.toNat < S.length := by
    rw [length_S]
    exact x.isLt
  have hentry : S[x.toNat] < 256 := hbound _ (List.getElem_mem hx)
  -- the entry of `S` at the index, and the entry of `S5` at that
  have hS : (box S x).toNat = S[x.toNat] := by
    rw [box, List.getD_eq_getElem _ _ hx, BitVec.toNat_ofNat]
    exact Nat.mod_eq_of_lt hentry
  have hS5 : S5.getD S[x.toNat] 0 = x.toNat := by
    rw [hlist, List.getD_eq_getElem _ _ (by simpa using hentry), List.getElem_map,
      List.getElem_range]
    have hat := List.getElem_of_eq hinverse (by simpa using hx)
    rwa [List.getElem_map, List.getElem_range] at hat
  rw [box, hS, hS5, BitVec.ofNat_toNat, BitVec.setWidth_eq]

-- ---------------------------------------------------------------------------
-- Columns
-- ---------------------------------------------------------------------------

theorem byte_xor (v w : Word) (i : Fin 4) : (v ^^^ w).byte i = v.byte i ^^^ w.byte i :=
  BitVec.extractLsb'_xor

/-- A word is made of its bytes. -/
theorem ofBytes_byte (w : Word) : Word.ofBytes w.byte = w := word_eq_bytes w

/-- A word has the bytes it was made of. -/
theorem byte_ofBytes (f : Fin 4 → Octet) (i : Fin 4) : (Word.ofBytes f).byte i = f i := by
  obtain ⟨h0, h1, h2, h3⟩ := bytes_of_word (f 0) (f 1) (f 2) (f 3)
  match i with
  | 0 => exact h0
  | 1 => exact h1
  | 2 => exact h2
  | 3 => exact h3

theorem unmixed_xor (i : Fin 4) (x y : Octet) :
    unmixed i (x ^^^ y) = unmixed i x ^^^ unmixed i y := by
  match i with
  | 0 => exact bitSum_xor 0 _ x y
  | 1 => exact bitSum_xor 0 _ x y
  | 2 => exact bitSum_xor 0 _ x y
  | 3 => exact bitSum_xor 0 _ x y

theorem mixed_xor (i : Fin 4) (x y : Octet) :
    mixed i (x ^^^ y) = mixed i x ^^^ mixed i y := by
  match i with
  | 0 => exact bitSum_xor 0 _ x y
  | 1 => exact bitSum_xor 0 _ x y
  | 2 => exact bitSum_xor 0 _ x y
  | 3 => exact bitSum_xor 0 _ x y

/-- Unmixing a column byte by byte. -/
theorem unmix_eq (w : Word) :
    unmix w = unmixed 0 (w.byte 0) ^^^ unmixed 1 (w.byte 1) ^^^ unmixed 2 (w.byte 2)
      ^^^ unmixed 3 (w.byte 3) := by
  have hrow := row_tablesU
  rw [unmix, ← hrow 0, ← hrow 1, ← hrow 2, ← hrow 3]
  rfl

theorem unmix_xor (v w : Word) : unmix (v ^^^ w) = unmix v ^^^ unmix w := by
  simp only [unmix_eq, byte_xor, unmixed_xor]
  ac_rfl

/-- A column of the inverse mixing gives back what the mixing made of one byte. -/
theorem unmix_mixed (i : Fin 4) (x : Octet) :
    unmix (mixed i x) = Word.ofBytes fun j => if j = i then x else 0 := by
  have hleft (x y : Octet) : unmix (mixed i (x ^^^ y)) = unmix (mixed i x) ^^^ unmix (mixed i y) := by
    rw [mixed_xor, unmix_xor]
  have hright (x y : Octet) : (Word.ofBytes fun j => if j = i then x ^^^ y else 0) =
      (Word.ofBytes fun j => if j = i then x else 0) ^^^
        Word.ofBytes fun j => if j = i then y else 0 := by
    rw [← ofBytes_byte (Word.ofBytes _ ^^^ Word.ofBytes _)]
    congr 1
    funext j
    rw [byte_xor, byte_ofBytes, byte_ofBytes]
    split
    · rfl
    · exact (BitVec.xor_self).symm
  -- both sides are additive, so they are compared at the single bits only
  rw [eq_bitSum (f := fun x => unmix (mixed i x)) hleft,
    eq_bitSum (f := fun x => Word.ofBytes fun j => if j = i then x else 0) hright]
  congr 1
  simp only [unmix_eq]
  clear hleft hright
  revert i
  decide +kernel

/-- The second byte of a row of `T1` is the entry of the box. -/
theorem byte_mixed : ∀ x : Octet, (mixed 0 x).byte 1 = x := by decide +kernel

-- ---------------------------------------------------------------------------
-- Rounds
-- ---------------------------------------------------------------------------

/-- The inverse mixing of every column. -/
def unmixColumns (s : State) : State := .of fun j => unmix (s.col j)

/-- Adding a key before unmixing is adding the unmixed key behind it. -/
theorem unmixColumns_addKey (s key : State) :
    unmixColumns (addKey s key) = addKey (unmixColumns s) (unmixColumns key) := by
  apply State.ext_col
  intro j
  simp only [unmixColumns, addKey, State.col_of, unmix_xor]

/-- Adding a key twice gives the state back. -/
theorem addKey_addKey_cancel (s key : State) : addKey (addKey s key) key = s := by
  apply State.ext_col
  intro j
  simp only [addKey, State.col_of, BitVec.xor_assoc, BitVec.xor_self, BitVec.xor_zero]

/-- The last round shifts the rows and substitutes. -/
theorem byte_encryptLast (s : State) (i j : Fin 4) :
    ((encryptLast s).col j).byte i = box S ((s.col (j + i)).byte i) := by
  rw [encryptLast, State.col_of, byte_ofBytes]
  have hrow := row_tablesEncrypt 0 ((s.col (j + i)).byte i)
  rw [show row T1 _ = _ from hrow, byte_mixed]

/-- The inverse mixing takes a round to a last round. -/
theorem unmix_encryptRound (s : State) : unmixColumns (encryptRound s) = encryptLast s := by
  apply State.ext_col
  intro j
  rw [unmixColumns, State.col_of, encryptRound, State.col_of]
  have hrow := row_tablesEncrypt
  rw [show row T1 _ = _ from hrow 0 _, show row T2 _ = _ from hrow 1 _,
    show row T3 _ = _ from hrow 2 _, show row T4 _ = _ from hrow 3 _, unmix_xor, unmix_xor,
    unmix_xor, unmix_mixed, unmix_mixed, unmix_mixed, unmix_mixed,
    ← ofBytes_byte ((encryptLast s).col j), ← ofBytes_byte (_ ^^^ _)]
  congr 1
  funext i
  rw [byte_encryptLast]
  simp only [byte_xor, byte_ofBytes]
  -- the byte of each row ends up in its own place
  match i with
  | 0 => simp
  | 1 => simp
  | 2 => simp
  | 3 => simp

/-- The last round of decryption shifts the rows back and substitutes inversely. -/
theorem byte_decryptLast (s : State) (i j : Fin 4) :
    ((decryptLast s).col j).byte i = box S5 ((s.col (j - i)).byte i) := by
  rw [decryptLast, State.col_of, byte_ofBytes]

/-- The two last rounds cancel. -/
theorem decryptLast_encryptLast (s : State) : decryptLast (encryptLast s) = s := by
  apply State.ext_col
  intro j
  rw [← ofBytes_byte ((decryptLast (encryptLast s)).col j), ← ofBytes_byte (s.col j)]
  congr 1
  funext i
  have hcol : j - i + i = j := by
    revert i j
    decide
  rw [byte_decryptLast, byte_encryptLast, box_S5_box_S, hcol]

/-- A round of the decryption is its last round and the inverse mixing. -/
theorem decryptRound_eq (s : State) : decryptRound s = unmixColumns (decryptLast s) := by
  apply State.ext_col
  intro j
  have hrow := row_tablesDecrypt
  -- the shift backwards is a shift forwards around the four columns
  have hcols : j - 0 = j ∧ j - 1 = j + 3 ∧ j - 2 = j + 2 ∧ j - 3 = j + 1 := by
    revert j
    decide
  rw [decryptRound, State.col_of, unmixColumns, State.col_of, unmix_eq, byte_decryptLast,
    byte_decryptLast, byte_decryptLast, byte_decryptLast, hcols.1, hcols.2.1, hcols.2.2.1,
    hcols.2.2.2, show row T5 _ = _ from hrow 0 _, show row T6 _ = _ from hrow 1 _,
    show row T7 _ = _ from hrow 2 _, show row T8 _ = _ from hrow 3 _]

-- ---------------------------------------------------------------------------
-- Whole blocks
-- ---------------------------------------------------------------------------

/-- The rounds in the middle lead back to the state before the second round, mixed inversely.
The induction is on the rounds that are left. -/
theorem decryptLoop_eq {key key' : Nat → State} {rounds : Nat}
    (hkey : ∀ r, 1 ≤ r → r ≤ rounds + 1 → key' r = unmixColumns (key r)) (a : State) {r : Nat}
    (hr : r ≤ rounds) :
    decryptLoop key' r (unmixColumns (addKey (encryptLoop key a r) (key (r + 1)))) =
      unmixColumns (addKey (encryptLoop key a 0) (key 1)) := by
  induction r with
  | zero => rfl
  | succ r ih =>
    have hround : encryptLoop key a (r + 1) =
        encryptRound (addKey (encryptLoop key a r) (key (r + 1))) := rfl
    rw [decryptLoop, hkey (r + 2) (by omega) (by omega), unmixColumns_addKey,
      addKey_addKey_cancel, hround, unmix_encryptRound, decryptRound_eq, decryptLast_encryptLast,
      ih (by omega)]

/-- `RijndaelDecrypt` with the converted keys undoes `RijndaelEncrypt`. -/
theorem decrypt_encrypt (key : Nat → State) (rounds : Nat) (a : State) :
    decrypt (keyEncToDec (rounds + 2) key) rounds (encrypt key rounds a) = a := by
  have hkey (r : Nat) (h1 : 1 ≤ r) (h2 : r ≤ rounds + 1) :
      keyEncToDec (rounds + 2) key r = unmixColumns (key r) := if_pos ⟨h1, by omega⟩
  have hfirst : keyEncToDec (rounds + 2) key 0 = key 0 := if_neg (by omega)
  have hlast : keyEncToDec (rounds + 2) key (rounds + 2) = key (rounds + 2) :=
    if_neg (by omega)
  rw [decrypt, encrypt, hlast, addKey_addKey_cancel, decryptRound_eq, decryptLast_encryptLast,
    decryptLoop_eq hkey a (Nat.le_refl rounds), hkey 1 (Nat.le_refl 1) (by omega),
    unmixColumns_addKey, addKey_addKey_cancel, encryptLoop, unmix_encryptRound,
    decryptLast_encryptLast, hfirst, addKey_addKey_cancel]

theorem length_store (s : State) : (store s).length = 16 := rfl

/-- A stored state is loaded back. -/
theorem load_store (s : State) : load (store s) = s := by
  apply State.ext_col
  intro j
  rw [load, State.col_of, store]
  -- each column stands behind the columns before it
  have h0 := load32BE_append_right (store32BE s.temp0)
    (store32BE s.temp1 ++ (store32BE s.temp2 ++ store32BE s.temp3))
  have h1 := load32BE_append_right (store32BE s.temp1) (store32BE s.temp2 ++ store32BE s.temp3)
  have h2 := load32BE_append_right (store32BE s.temp2) (store32BE s.temp3)
  match j with
  | 0 => exact (load32BE_append_left (by simp)).trans (load32BE_store32BE _)
  | 1 => exact (h0 0).trans ((load32BE_append_left (by simp)).trans (load32BE_store32BE _))
  | 2 =>
    exact (h0 4).trans ((h1 0).trans ((load32BE_append_left (by simp)).trans
      (load32BE_store32BE _)))
  | 3 => exact (h0 8).trans ((h1 4).trans ((h2 0).trans (load32BE_store32BE _)))

/-- Sixteen bytes are the store of the state they load to. -/
theorem store_load {b : Bytes} (h : b.length = 16) : store (load b) = b := by
  show store32BE (load32BE b 0) ++ (store32BE (load32BE b 4) ++
    (store32BE (load32BE b 8) ++ store32BE (load32BE b 12))) = b
  rw [store32BE_load32BE (by omega), store32BE_load32BE (by omega), store32BE_load32BE (by omega),
    store32BE_load32BE (by omega), slice_append_slice b 8 4 4, slice_append_slice b 4 4 8,
    slice_append_slice b 0 4 12, slice_zero_eq_take]
  exact List.take_of_length_le (by omega)

/-- The block cipher under a key of `n` columns. -/
def blockCipher (n : Nat) (key : Bytes) : BlockCipher 16 where
  encrypt := encryptBlock n key
  decrypt := decryptBlock n key
  length_encrypt := fun _ => length_store _
  length_decrypt := fun _ => length_store _
  decrypt_encrypt := fun {b} h => by
    rw [decryptBlock, encryptBlock, load_store, decrypt_encrypt, store_load h]

/-- `RijndaelBlockEncrypt` after `RijndaelInit` in the mode of cipher block chaining. -/
def blockEncrypt (n : Nat) (key iv input : Bytes) : Bytes :=
  Cbc.encrypt (blockCipher n key) iv input

/-- `RijndaelBlockDecrypt` after `RijndaelInit` in the same mode. -/
def blockDecrypt (n : Nat) (key iv input : Bytes) : Bytes :=
  Cbc.decrypt (blockCipher n key) iv input

end Rijndael

end SqliteMc
