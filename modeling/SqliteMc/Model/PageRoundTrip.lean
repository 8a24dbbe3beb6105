import SqliteMc.Model.PageCipher

/-!
# A page comes back

What is encrypted under a cipher is decrypted to the same page by it, as far as the page is not
reserved for the cipher itself. The first page of a database is recognised by its header, so
that is what it has to start with.
-/

namespace SqliteMc

namespace Native

open Buffer ChaCha20

-- ---------------------------------------------------------------------------
-- The first bytes of a page
-- ---------------------------------------------------------------------------

section First

variable {page n o : Nat} {plain : Bool} {first salt data e : Bytes} {f g : Bytes → Bytes}

/-- Putting bytes in front keeps the length of a page that has room for them. -/
@[simp] theorem length_putFirst (h : first.length ≤ data.length) :
    (putFirst page plain first data).length = data.length := by
  unfold putFirst
  split
  · exact length_patch (by omega)
  · rfl

/-- Behind the bytes in front a page is as it was. -/
theorem slice_putFirst {offset count : Nat} (h : first.length ≤ offset) :
    slice (putFirst page plain first data) offset count = slice data offset count := by
  unfold putFirst
  split
  · exact slice_patch_of_disjoint (Nat.zero_le _) (Or.inr (by omega))
  · rfl

/-- A salt that does not reach as far is not read. -/
theorem slice_putFirst_of_salted {offset count : Nat}
    (h : page = 1 → plain = false → first.length ≤ offset) :
    slice (putFirst page plain first data) offset count = slice data offset count := by
  by_cases hcase : page = 1 ∧ plain = false
  · exact slice_putFirst (h hcase.1 hcase.2)
  · rw [putFirst, if_neg hcase]

/-- Pages that agree up to a position still do with the same bytes in front. -/
theorem take_putFirst_congr {a b : Bytes} (h : a.take n = b.take n) (hlen : a.length = b.length) :
    (putFirst page plain first a).take n = (putFirst page plain first b).take n := by
  unfold putFirst
  split
  · exact take_patch_congr h hlen (Nat.zero_le _) first
  · exact h

/-- The bytes in front are there on the first page only, and only when its header is not plain. -/
theorem getElem?_putFirst (i : Nat) : (putFirst page plain first data)[i]? =
    if (page = 1 ∧ plain = false) ∧ i < first.length then first[i]? else data[i]? := by
  unfold putFirst
  split
  · rename_i hcase
    rw [getElem?_patch (Nat.zero_le _)]
    simp [hcase]
  · rename_i hcase
    rw [if_neg fun h => hcase h.1]

/-- A page whose part was replaced and whose first bytes may hold a salt is put together
again, if the part comes back where the salt did not overwrite it. -/
theorem take_putFirst (hf : ∀ x, x.length = n - o → (f x).length = n - o)
    (hg : ∀ x, x.length = n - o → (g x).length = n - o) (hon : o ≤ n) (h16 : 16 ≤ n)
    (hn : n ≤ data.length) (hlen : e.length = data.length) (hsalt : salt.length = 16)
    (hfirst : page = 1 → plain = false → data.take 16 = first)
    (he : e.take n = (putFirst page plain salt (inPlace f o n data)).take n)
    (hback : ∀ x y j, x.length = n - o → y.length = n - o →
      (∀ i, (page = 1 → plain = false → 16 ≤ o + i) → y[i]? = (f x)[i]?) →
      (page = 1 → plain = false → 16 ≤ o + j) → (g y)[j]? = x[j]?) :
    (putFirst page plain first (inPlace g o n e)).take n = data.take n := by
  have hpart := length_part hon hn
  have hpart' := length_part (b := e) hon (by omega)
  -- a byte of the encrypted part that the salt did not overwrite
  have hagree (i : Nat) (hi : page = 1 → plain = false → 16 ≤ o + i) :
      (slice e o (n - o))[i]? = (f (slice data o (n - o)))[i]? := by
    rcases Nat.lt_or_ge i (n - o) with hlt | hge
    · have hnot : ¬((page = 1 ∧ plain = false) ∧ o + i < salt.length) := by
        rintro ⟨hcase, hsmall⟩
        have := hi hcase.1 hcase.2
        omega
      rw [getElem?_slice, if_pos hlt, getElem?_of_take_eq he (by omega), getElem?_putFirst,
        if_neg hnot, getElem?_inPlace hf hon hn, if_pos (by omega), Nat.add_sub_cancel_left]
    · rw [List.getElem?_eq_none (by omega), List.getElem?_eq_none (by rw [hf _ hpart]; omega)]
  apply take_eq_of_getElem?
  intro i hi
  have hfirstlen (hcase : page = 1 ∧ plain = false) : first.length = 16 := by
    rw [← hfirst hcase.1 hcase.2, List.length_take]
    omega
  rw [getElem?_putFirst]
  split
  · rename_i hcase
    rw [← hfirst hcase.1.1 hcase.1.2, List.getElem?_take, if_pos (by
      have := hfirstlen hcase.1
      omega)]
  · rename_i hcase
    have hsalted (hp : page = 1) (hq : plain = false) : 16 ≤ i := by
      have hlen16 := hfirstlen ⟨hp, hq⟩
      have hnot : ¬ i < first.length := fun h => hcase ⟨⟨hp, hq⟩, h⟩
      omega
    rw [getElem?_inPlace hg hon (by omega)]
    split
    · rename_i hin
      rw [hback _ _ (i - o) hpart hpart' hagree
        (fun hp hq => by have := hsalted hp hq; omega), getElem?_slice, if_pos (by omega),
        Nat.add_sub_cancel' hin.1]
    · have hnot : ¬((page = 1 ∧ plain = false) ∧ i < salt.length) := by
        rintro ⟨hpq, hsmall⟩
        have := hsalted hpq.1 hpq.2
        omega
      rw [getElem?_of_take_eq he hi, getElem?_putFirst, if_neg hnot, getElem?_inPlace hf hon hn,
        if_neg (by omega)]

end First

theorem length_fileHeader : fileHeader.length = 16 := rfl

/-- A tag is equal to itself. -/
theorem poly1305Tagcmp_self (tag : Bytes) : poly1305Tagcmp tag tag = 0 := by
  have hfold (l : List Nat) : l.foldl (fun d i => d ||| (byte tag i ^^^ byte tag i)) 0 = (0 : Octet) := by
    induction l with
    | nil => rfl
    | cons i l ih =>
      rw [List.foldl_cons, BitVec.xor_self]
      exact ih
  exact hfold _

/-- The result is the page up to the position, without an error. -/
structure Restores (n : Nat) (data : Bytes) (r : Rc × Bytes) : Prop where
  rc : r.1 = .ok
  length : r.2.length = data.length
  take : r.2.take n = data.take n

/-- The page is encrypted without an error to one of the same length, from which it comes back
up to the position. -/
structure RoundTrip (n : Nat) (data : Bytes) (enc : Rc × Bytes × Rng) (dec : Bytes → Rc × Bytes) :
    Prop where
  rc : enc.1 = .ok
  length : enc.2.1.length = data.length
  restores : Restores n data (dec enc.2.1)

-- ---------------------------------------------------------------------------
-- ChaCha20
-- ---------------------------------------------------------------------------

namespace ChaCha20Cipher

variable {d : Digests} (c : ChaCha20Cipher) {page reserved hmacCheck : Nat} {data : Bytes} {g : Rng}

/-- Encryption begins within the header of the database at the latest. -/
theorem offset_le (page : Nat) : c.offset page ≤ 100 := by
  have hle := c.plaintextHeaderSize_le
  unfold offset
  split_ifs <;> omega

/-- A page holds 32 bytes for the nonce and the tag, or none when it is a legacy one. -/
theorem nReserved_eq (reserved : Nat) : c.nReserved reserved = 0 ∨ c.nReserved reserved = 32 := by
  unfold nReserved
  split
  · exact Or.inl rfl
  · exact Or.inr rfl

@[simp] theorem length_crypt (nonce : Bytes) (page : Nat) (part : Bytes) :
    (c.crypt nonce page part).length = part.length := length_chacha20Xor _ _ _ _

/-- The stream cipher is its own inverse. -/
theorem crypt_crypt (nonce : Bytes) (page : Nat) (part : Bytes) :
    c.crypt nonce page (c.crypt nonce page part) = part :=
  chacha20Xor_chacha20Xor part _ nonce _

/-- A part that is encrypted twice comes back, whatever the first bytes of the first page were
in between. -/
theorem take_crypt_crypt {n : Nat} {nonce first salt e : Bytes} (hn : n ≤ data.length)
    (h100 : 100 ≤ n) (hlen : e.length = data.length) (hsalt : salt.length = 16)
    (hfirst : page = 1 → c.usePlaintextHeader = false → data.take 16 = first)
    (he : e.take n = (putFirst page c.usePlaintextHeader salt
      (inPlace (c.crypt nonce page) (c.offset page) n data)).take n) :
    (putFirst page c.usePlaintextHeader first
      (inPlace (c.crypt nonce page) (c.offset page) n e)).take n = data.take n := by
  have ho := c.offset_le page
  have hcrypt (x : Bytes) (hx : x.length = n - c.offset page) :
      (c.crypt nonce page x).length = n - c.offset page := by rw [length_crypt, hx]
  apply take_putFirst hcrypt hcrypt (by omega) (by omega) hn hlen hsalt hfirst he
  -- the bytes are decrypted one by one
  intro x y j hx hy hagree hsalted
  have hback := c.crypt_crypt nonce page x
  have hcongr := getElem?_chacha20Xor_congr (by rw [length_crypt, hx, hy]) (hagree j hsalted)
    ((c.otk nonce page).drop 32) nonce (counter nonce page + 1)
  rw [← hback]
  exact hcongr

/-- Every page that suits the cipher is decrypted again, its tag included. -/
theorem decryptPage_encryptPage (h512 : 512 ≤ data.length) (hmis : ¬ c.mismatch reserved)
    (hfirst : page = 1 → c.usePlaintextHeader = false → data.take 16 = fileHeader) :
    RoundTrip (data.length - c.nReserved reserved) data (c.encryptPage d page data reserved g)
      fun e => c.decryptPage d page e reserved hmacCheck := by
  have ho := c.offset_le page
  have hr := c.nReserved_eq reserved
  have hsalt := c.length_salt
  generalize hn : data.length - c.nReserved reserved = n
  have hcrypt (nonce x : Bytes) (hx : x.length = n - c.offset page) :
      (c.crypt nonce page x).length = n - c.offset page := by rw [length_crypt, hx]
  unfold encryptPage
  rw [if_neg hmis, hn]
  split
  · rename_i hpos
    dsimp only
    generalize hnonce : (g.next 16).1 = nonce
    have hnoncelen : nonce.length = 16 := by rw [← hnonce, Rng.length_next]
    have hwith : (patch data n nonce).length = data.length := length_patch (by omega)
    have hbody := length_inPlace (hcrypt nonce) (b := patch data n nonce) (by omega) (by omega)
    generalize hs : putFirst page c.usePlaintextHeader c.salt
      (inPlace (c.crypt nonce page) (c.offset page) n (patch data n nonce)) = s
    have hslen : s.length = data.length := by
      rw [← hs, length_putFirst (by omega), hbody, hwith]
    generalize htag : poly1305 (slice s 0 (n + 16)) (c.otk nonce page) = tag
    have htaglen : tag.length = 16 := by rw [← htag, length_poly1305]
    generalize he : patch s (n + 16) tag = e
    have hlen : e.length = data.length := by
      rw [← he, length_patch (by omega), hslen]
    refine ⟨rfl, hlen, ?_⟩
    -- the nonce, the tag and the rest as they are read back
    have hnonce' : slice e n 16 = nonce := by
      rw [← he, slice_patch_of_disjoint (by omega) (Or.inl (by omega)), ← hs,
        slice_putFirst (by omega), slice_inPlace_of_disjoint (hcrypt nonce) (by omega) (by omega)
        (Or.inr (Nat.le_refl n)), ← hnoncelen, slice_patch_self (by omega)]
    have htag' : slice e (n + 16) 16 = tag := by
      rw [← he, ← htaglen, slice_patch_self (by omega)]
    have hmac : slice e 0 (n + 16) = slice s 0 (n + 16) := by
      rw [← he, slice_patch_of_disjoint (by omega) (Or.inl (by omega))]
    have htake : e.take n = (putFirst page c.usePlaintextHeader c.salt
        (inPlace (c.crypt nonce page) (c.offset page) n data)).take n := by
      rw [← he, take_patch_of_le (by omega) (by omega), ← hs]
      apply take_putFirst_congr
      · exact take_inPlace_congr (take_patch_of_le (by omega) (Nat.le_refl n)) hwith (by omega)
          (by omega)
      · rw [hbody, hwith, length_inPlace (hcrypt nonce) (by omega) (by omega)]
    have hopen := length_inPlace (hcrypt nonce) (b := e) (by omega) (by omega)
    unfold decryptPage
    rw [if_neg hmis, if_pos hpos, hlen, hn, hnonce', htag', hmac]
    dsimp only
    rw [htag, poly1305Tagcmp_self, if_neg (by simp)]
    refine ⟨rfl, ?_, c.take_crypt_crypt (by omega) (by omega) hlen hsalt hfirst htake⟩
    rw [length_putFirst (by rw [length_fileHeader]; omega), hopen, hlen]
  · rename_i hzero
    dsimp only
    generalize hnonce : generateInitialVector d page = nonce
    have hbody := length_inPlace (hcrypt nonce) (b := data) (by omega) (by omega)
    generalize he : putFirst page c.usePlaintextHeader c.salt
      (inPlace (c.crypt nonce page) (c.offset page) n data) = e
    have hlen : e.length = data.length := by
      rw [← he, length_putFirst (by omega), hbody]
    have hopen := length_inPlace (hcrypt nonce) (b := e) (by omega) (by omega)
    refine ⟨rfl, hlen, ?_⟩
    unfold decryptPage
    rw [if_neg hmis, if_neg hzero, hlen, hn, hnonce]
    dsimp only
    refine ⟨rfl, ?_, c.take_crypt_crypt (by omega) (by omega) hlen hsalt hfirst (by rw [he])⟩
    rw [length_putFirst (by rw [length_fileHeader]; omega), hopen, hlen]

end ChaCha20Cipher

-- ---------------------------------------------------------------------------
-- SQLCipher
-- ---------------------------------------------------------------------------

namespace SQLCipherCipher

variable {d : Digests} (c : SQLCipherCipher) {page reserved hmacCheck : Nat} {data : Bytes}
  {g : Rng}

/-- Encryption begins within the header of the database at the latest. -/
theorem offset_le (page : Nat) : c.offset page ≤ 100 := by
  have hle := c.plaintextHeaderSize_le
  unfold offset
  split_ifs <;> omega

/-- A salt never reaches into the encrypted part. -/
theorem le_offset (h : c.usePlaintextHeader = false) : 16 ≤ c.offset 1 := by
  have hsize : ¬ 0 < c.plaintextHeaderSize := by
    unfold usePlaintextHeader at h
    exact of_decide_eq_false h
  unfold offset
  rw [if_pos rfl, if_neg fun hcase => hsize hcase.1]
  split <;> omega

/-- The bytes that are asked for: the vector alone, or with one of the two lengths of HMAC. -/
theorem getReserved_eq : c.getReserved = 16 ∨ c.getReserved = 48 ∨ c.getReserved = 80 := by
  unfold getReserved
  split_ifs <;> simp

/-- The bytes that are used: none of them, or those that were asked for. -/
theorem nReserved_eq (reserved : Nat) : c.nReserved reserved = 0 ∨ c.nReserved reserved = 16 ∨
    c.nReserved reserved = 48 ∨ c.nReserved reserved = 80 := by
  unfold nReserved
  split
  · exact Or.inl rfl
  · exact Or.inr c.getReserved_eq

/-- The tag has its place behind the initial vector. -/
theorem length_hmac_le (h : c.hmacUse = 1) (hpos : 0 < c.nReserved reserved) (part : Bytes) :
    16 + (c.hmac d page part).length ≤ c.nReserved reserved := by
  unfold nReserved at hpos ⊢
  rw [hmac, d.length_hmac, getReserved]
  split_ifs at hpos ⊢ <;> omega

/-- The part of a page between the offset and the reserved bytes. -/
theorem length_encryptPart {iv x : Bytes} {n : Nat} (hiv : iv.length = 16)
    (h : c.offset page + 16 ≤ n) (hx : x.length = n - c.offset page) :
    (Rijndael.blockEncrypt 8 c.key iv x).length = n - c.offset page := by
  rw [← hx]
  exact Cbc.length_encrypt (by decide) hiv (by omega)

theorem length_decryptPart {iv x : Bytes} {n : Nat} (hiv : iv.length = 16)
    (h : c.offset page + 16 ≤ n) (hx : x.length = n - c.offset page) :
    (Rijndael.blockDecrypt 8 c.key iv x).length = n - c.offset page := by
  rw [← hx]
  exact Cbc.length_decrypt (by decide) hiv (by omega)

/-- A page with an encrypted part, its initial vector and a correct tag is decrypted. -/
theorem restores_of_encrypted {n : Nat} {e iv : Bytes} (h512 : 512 ≤ data.length)
    (hn : data.length - c.nReserved reserved = n) (hmis : ¬ c.mismatch reserved)
    (hfirst : page = 1 → c.usePlaintextHeader = false → data.take 16 = fileHeader)
    (hlen : e.length = data.length) (hiv : iv.length = 16)
    (htake : e.take n = (putFirst page c.usePlaintextHeader c.salt
      (inPlace (Rijndael.blockEncrypt 8 c.key iv) (c.offset page) n data)).take n)
    (hread : (if 0 < c.nReserved reserved then slice e n (c.nReserved reserved)
      else generateInitialVector d page).take 16 = iv)
    (htag : c.hmacUse = 1 → 0 < c.nReserved reserved →
      slice e (n + 16) (c.hmac d page (slice e (c.offset page) (n + 16 - c.offset page))).length =
        c.hmac d page (slice e (c.offset page) (n + 16 - c.offset page))) :
    Restores n data (c.decryptPage d page e reserved hmacCheck) := by
  have ho := c.offset_le page
  have hr := c.nReserved_eq reserved
  have henc (x : Bytes) (hx : x.length = n - c.offset page) :
      (Rijndael.blockEncrypt 8 c.key iv x).length = n - c.offset page :=
    c.length_encryptPart hiv (by omega) hx
  have hdec (x : Bytes) (hx : x.length = n - c.offset page) :
      (Rijndael.blockDecrypt 8 c.key iv x).length = n - c.offset page :=
    c.length_decryptPart hiv (by omega) hx
  have hopen := length_inPlace hdec (b := e) (by omega) (by omega)
  have hback := take_putFirst henc hdec (by omega) (by omega) (by omega) hlen c.length_salt hfirst
    htake fun x y j hx hy hagree hsalted => by
      -- the salt does not overwrite a byte of the part, so all of it is as it was
      have hsame : y = Rijndael.blockEncrypt 8 c.key iv x := by
        apply List.ext_getElem?
        intro i
        apply hagree i
        intro hpage hplain
        subst hpage
        have := c.le_offset hplain
        omega
      rw [hsame, Rijndael.blockDecrypt, Rijndael.blockEncrypt,
        Cbc.decrypt_encrypt (by decide) hiv (by omega)]
  unfold decryptPage
  rw [if_neg hmis, hlen, hn]
  dsimp only
  rw [if_neg fun hbad => hbad.2.2.2 (htag hbad.1 hbad.2.1), hread]
  have hwith : (if 0 < c.nReserved reserved then
      patch (inPlace (Rijndael.blockDecrypt 8 c.key iv) (c.offset page) n e) n
        (if 0 < c.nReserved reserved then slice e n (c.nReserved reserved)
          else generateInitialVector d page)
      else inPlace (Rijndael.blockDecrypt 8 c.key iv) (c.offset page) n e).length =
        data.length := by
    split
    · rw [length_patch, hopen, hlen]
      rw [length_slice (by omega)]
      omega
    · rw [hopen, hlen]
  refine ⟨rfl, ?_, ?_⟩
  · rw [length_putFirst (by rw [length_fileHeader, hwith]; omega), hwith]
  · rw [← hback]
    apply take_putFirst_congr
    · split
      · exact take_patch_of_le (by omega) (Nat.le_refl n)
      · rfl
    · rw [hwith, hopen, hlen]

/-- Every page that suits the cipher is decrypted again, its tag included. -/
theorem decryptPage_encryptPage (h512 : 512 ≤ data.length) (hmis : ¬ c.mismatch reserved)
    (hfirst : page = 1 → c.usePlaintextHeader = false → data.take 16 = fileHeader) :
    RoundTrip (data.length - c.nReserved reserved) data (c.encryptPage d page data reserved g)
      fun e => c.decryptPage d page e reserved hmacCheck := by
  have ho := c.offset_le page
  have hr := c.nReserved_eq reserved
  have hsalt := c.length_salt
  generalize hn : data.length - c.nReserved reserved = n
  unfold encryptPage
  rw [if_neg hmis, hn]
  dsimp only
  generalize hiv : (if 0 < c.nReserved reserved then (g.next 128).1
    else generateInitialVector d page) = iv
  have hivlen : c.nReserved reserved ≤ iv.length ∧ 16 ≤ iv.length := by
    rw [← hiv]
    split
    · rw [Rng.length_next]
      omega
    · rw [length_generateInitialVector]
      omega
  have htake16 : (iv.take 16).length = 16 := by
    rw [List.length_take]
    omega
  have henc (x : Bytes) (hx : x.length = n - c.offset page) :
      (Rijndael.blockEncrypt 8 c.key (iv.take 16) x).length = n - c.offset page :=
    c.length_encryptPart htake16 (by omega) hx
  have hbody := length_inPlace henc (b := data) (by omega) (by omega)
  generalize hbodydef : inPlace (Rijndael.blockEncrypt 8 c.key (iv.take 16)) (c.offset page) n data
    = body at hbody
  generalize hwithdef : (if 0 < c.nReserved reserved then
    patch body n (iv.take (c.nReserved reserved)) else body) = withIv
  have hwith : withIv.length = data.length := by
    rw [← hwithdef]
    split
    · rw [length_patch (by rw [List.length_take]; omega), hbody]
    · exact hbody
  generalize hs : putFirst page c.usePlaintextHeader c.salt withIv = s
  have hslen : s.length = data.length := by rw [← hs, length_putFirst (by omega), hwith]
  have htakes : s.take n = (putFirst page c.usePlaintextHeader c.salt
      (inPlace (Rijndael.blockEncrypt 8 c.key (iv.take 16)) (c.offset page) n data)).take n := by
    rw [← hs, hbodydef]
    apply take_putFirst_congr
    · rw [← hwithdef]
      split
      · exact take_patch_of_le (by omega) (Nat.le_refl n)
      · rfl
    · rw [hwith, hbody]
  -- the initial vector as it is read back, whatever is written behind it
  have hread {e : Bytes} (he : e.take (n + 16) = s.take (n + 16)) :
      (if 0 < c.nReserved reserved then slice e n (c.nReserved reserved)
        else generateInitialVector d page).take 16 = iv.take 16 := by
    split
    · rename_i hpos
      rw [if_pos hpos] at hwithdef
      have hself : slice (patch body n (iv.take (c.nReserved reserved))) (n + 0) 16 =
          slice (iv.take (c.nReserved reserved)) 0 16 :=
        slice_patch_inside (by omega) (by rw [List.length_take]; omega)
      rw [Nat.add_zero, slice_zero_eq_take, List.take_take, Nat.min_eq_left (by omega)] at hself
      rw [slice, List.take_take, Nat.min_eq_left (by omega), ← slice,
        slice_eq_of_take_eq he (by omega), ← hs, slice_putFirst (by omega), ← hwithdef, hself]
    · rename_i hzero
      rw [if_neg hzero] at hiv
      rw [hiv]
  split
  · rename_i htagged
    generalize htag : c.hmac d page (slice s (c.offset page) (n + 16 - c.offset page)) = tag
    have htaglen : 16 + (c.hmac d page (slice s (c.offset page) (n + 16 - c.offset page))).length ≤
        c.nReserved reserved := c.length_hmac_le htagged.1 htagged.2 _
    rw [htag] at htaglen
    have hlen : (patch s (n + 16) tag).length = data.length := by
      rw [length_patch (by omega), hslen]
    have htake : (patch s (n + 16) tag).take (n + 16) = s.take (n + 16) :=
      take_patch_of_le (by omega) (Nat.le_refl _)
    refine ⟨rfl, hlen, c.restores_of_encrypted h512 hn hmis hfirst hlen htake16 ?_ (hread htake) ?_⟩
    · rw [take_patch_of_le (by omega) (by omega), htakes]
    · intro _ _
      have hmac : slice (patch s (n + 16) tag) (c.offset page) (n + 16 - c.offset page) =
          slice s (c.offset page) (n + 16 - c.offset page) :=
        slice_eq_of_take_eq htake (by omega)
      rw [hmac, htag, slice_patch_self (by omega)]
  · rename_i hplain
    refine ⟨rfl, hslen, c.restores_of_encrypted h512 hn hmis hfirst hslen htake16 htakes
      (hread rfl) ?_⟩
    intro huse hpos
    exact absurd ⟨huse, hpos⟩ hplain

end SQLCipherCipher

-- ---------------------------------------------------------------------------
-- Ascon
-- ---------------------------------------------------------------------------

namespace Ascon128Cipher

variable {d : Digests} (c : Ascon128Cipher) {page reserved hmacCheck : Nat} {data : Bytes} {g : Rng}

/-- Encryption begins within the header of the database at the latest. -/
theorem offset_le (page : Nat) : c.offset page ≤ 100 := by
  have hle := c.plaintextHeaderSize_le
  unfold offset
  split_ifs <;> omega

/-- A salt never reaches into the encrypted part. -/
theorem le_offset : 24 ≤ c.offset 1 := by
  unfold offset
  rw [if_pos rfl]
  split_ifs <;> omega

/-- A page holds 32 bytes for the tag and the nonce, or none. -/
theorem nReserved_eq (reserved : Nat) : nReserved reserved = 0 ∨ nReserved reserved = 32 := by
  unfold nReserved
  split
  · exact Or.inl rfl
  · exact Or.inr rfl

/-- What is decrypted from a page whose part was encrypted. -/
theorem take_decrypted {n : Nat} {nonce tag e : Bytes} (hn : n ≤ data.length) (h116 : 116 ≤ n)
    (hlen : e.length = data.length)
    (hfirst : page = 1 → c.usePlaintextHeader = false → data.take 16 = fileHeader)
    (he : e.take n = (putFirst page c.usePlaintextHeader c.salt (inPlace
      (fun x => (Ascon.aeadEncrypt x [] nonce (c.otk nonce page)).1) (c.offset page) n data)).take n) :
    (putFirst page c.usePlaintextHeader fileHeader (inPlace
      (fun x => (Ascon.aeadDecrypt x [] tag nonce (c.otk nonce page)).1) (c.offset page) n e)).take n =
        data.take n := by
  have ho := c.offset_le page
  apply take_putFirst _ _ (by omega) (by omega) hn hlen c.length_salt hfirst he
  · intro x y j hx hy hagree hsalted
    -- the salt does not overwrite a byte of the part, so all of it is as it was
    have hsame : y = (Ascon.aeadEncrypt x [] nonce (c.otk nonce page)).1 := by
      apply List.ext_getElem?
      intro i
      apply hagree i
      intro hpage _
      subst hpage
      have := c.le_offset
      omega
    rw [hsame, Ascon.aeadDecrypt_aeadEncrypt (by omega)]
  · intro x hx
    rw [Ascon.length_aeadEncrypt, hx]
  · intro x hx
    rw [Ascon.length_aeadDecrypt, hx]

/-- Every page that suits the cipher is decrypted again, its tag included. -/
theorem decryptPage_encryptPage (h512 : 512 ≤ data.length) (hmis : nReserved reserved ≤ reserved)
    (hfirst : page = 1 → c.usePlaintextHeader = false → data.take 16 = fileHeader) :
    RoundTrip (data.length - nReserved reserved) data (c.encryptPage d page data reserved g)
      fun e => c.decryptPage d page e reserved hmacCheck := by
  have ho := c.offset_le page
  have hr := nReserved_eq reserved
  have hsalt := c.length_salt
  generalize hn : data.length - nReserved reserved = n
  have henc (nonce x : Bytes) (hx : x.length = n - c.offset page) :
      (Ascon.aeadEncrypt x [] nonce (c.otk nonce page)).1.length = n - c.offset page := by
    rw [Ascon.length_aeadEncrypt, hx]
  have hdec (tag nonce x : Bytes) (hx : x.length = n - c.offset page) :
      (Ascon.aeadDecrypt x [] tag nonce (c.otk nonce page)).1.length = n - c.offset page := by
    rw [Ascon.length_aeadDecrypt, hx]
  unfold encryptPage
  rw [if_neg (by omega), hn]
  split
  · rename_i hpos
    dsimp only
    generalize hnonce : (g.next 16).1 = nonce
    have hnoncelen : nonce.length = 16 := by rw [← hnonce, Rng.length_next]
    have hwith : (patch data (n + 16) nonce).length = data.length := length_patch (by omega)
    -- the nonce lies behind the part
    have hpart : slice (patch data (n + 16) nonce) (c.offset page) (n - c.offset page) =
        slice data (c.offset page) (n - c.offset page) :=
      slice_patch_of_disjoint (by omega) (Or.inl (by omega))
    rw [hpart]
    generalize htext : Ascon.aeadEncrypt (slice data (c.offset page) (n - c.offset page)) [] nonce
      (c.otk nonce page) = text
    have htag : text.2.length = 16 := by rw [← htext, Ascon.length_tag]
    have hfst : text.1.length = n - c.offset page := by
      rw [← htext]
      exact henc nonce _ (length_part (by omega) (by omega))
    have hbody : (patch (patch data (n + 16) nonce) (c.offset page) text.1).length = data.length := by
      rw [length_patch (by omega), hwith]
    have hsealed : (patch (patch (patch data (n + 16) nonce) (c.offset page) text.1) n
        text.2).length = data.length := by
      rw [length_patch (by omega), hbody]
    generalize he : putFirst page c.usePlaintextHeader c.salt
      (patch (patch (patch data (n + 16) nonce) (c.offset page) text.1) n text.2) = e
    have hlen : e.length = data.length := by rw [← he, length_putFirst (by omega), hsealed]
    refine ⟨rfl, hlen, ?_⟩
    -- the nonce, the tag and the part as they are read back
    have hnonce' : slice e (n + 16) 16 = nonce := by
      rw [← he, slice_putFirst (by omega), slice_patch_of_disjoint (by omega) (Or.inr (by omega)),
        slice_patch_of_disjoint (by omega) (Or.inr (by omega)), ← hnoncelen,
        slice_patch_self (by omega)]
    have htag' : slice e n 16 = text.2 := by
      rw [← he, slice_putFirst (by omega), slice_patch_of_length (by omega) htag]
    have htake : e.take n = (putFirst page c.usePlaintextHeader c.salt (inPlace
        (fun x => (Ascon.aeadEncrypt x [] nonce (c.otk nonce page)).1) (c.offset page) n
          data)).take n := by
      rw [← he]
      apply take_putFirst_congr
      · rw [take_patch_of_le (by omega) (Nat.le_refl n), inPlace, htext]
        exact take_patch_congr (take_patch_of_le (by omega) (by omega)) hwith (by omega) _
      · rw [hsealed, length_inPlace (henc nonce) (by omega) (by omega)]
    have hctext : slice e (c.offset page) (n - c.offset page) = text.1 := by
      rw [← he, slice_putFirst_of_salted, slice_patch_of_disjoint (by omega) (Or.inl (by omega)),
        slice_patch_of_length (by omega) hfst]
      intro hpage _
      subst hpage
      have := c.le_offset
      omega
    have hauth : Ascon.aeadDecrypt (slice e (c.offset page) (n - c.offset page)) [] (slice e n 16)
        nonce (c.otk nonce page) = (slice data (c.offset page) (n - c.offset page), 0) := by
      rw [Ascon.aeadDecrypt_eq_zero_iff _ _ _ (by rw [htag', htag]), hctext, htag',
        length_part (by omega) (by omega), htext]
      exact ⟨by omega, rfl⟩
    have hopen := length_inPlace (hdec (slice e n 16) nonce) (b := e) (by omega) (by omega)
    have hput : (putFirst page c.usePlaintextHeader fileHeader
        (inPlace (fun x => (Ascon.aeadDecrypt x [] (slice e n 16) nonce (c.otk nonce page)).1)
          (c.offset page) n e)).length = _ := length_putFirst (by rw [length_fileHeader]; omega)
    unfold decryptPage
    rw [if_neg (by omega), if_pos hpos, hlen, hn, hnonce']
    dsimp only
    rw [if_neg (by rw [hauth]; simp)]
    exact ⟨rfl, hput.trans (hopen.trans hlen),
      c.take_decrypted (by omega) (by omega) hlen hfirst htake⟩
  · rename_i hzero
    dsimp only
    generalize hnonce : generateInitialVector d page = nonce
    have hbody := length_inPlace (henc nonce) (b := data) (by omega) (by omega)
    generalize he : putFirst page c.usePlaintextHeader c.salt (patch data (c.offset page)
      (Ascon.aeadEncrypt (slice data (c.offset page) (n - c.offset page)) [] nonce
        (c.otk nonce page)).1) = e
    have hsalted : (putFirst page c.usePlaintextHeader c.salt
        (inPlace (fun x => (Ascon.aeadEncrypt x [] nonce (c.otk nonce page)).1)
          (c.offset page) n data)).length = _ := length_putFirst (by omega)
    have hlen : e.length = data.length := by
      rw [← he]
      exact hsalted.trans hbody
    have hopen := length_inPlace (hdec (zeros 16) nonce) (b := e) (by omega) (by omega)
    have hput : (putFirst page c.usePlaintextHeader fileHeader
        (inPlace (fun x => (Ascon.aeadDecrypt x [] (zeros 16) nonce (c.otk nonce page)).1)
          (c.offset page) n e)).length = _ := length_putFirst (by rw [length_fileHeader]; omega)
    refine ⟨rfl, hlen, ?_⟩
    unfold decryptPage
    rw [if_neg (by omega), if_neg hzero, hlen, hn, hnonce]
    exact ⟨rfl, hput.trans (hopen.trans hlen), c.take_decrypted (by omega) (by omega) hlen hfirst
      (congrArg _ he.symm)⟩

end Ascon128Cipher

-- ---------------------------------------------------------------------------
-- AES of wxSQLite3
-- ---------------------------------------------------------------------------

section AES

variable {enc dec : Bytes → Bytes} {legacy page : Nat} {data : Bytes}

/-- A page under the two AES functions, of which the second undoes the first. -/
theorem length_encryptPageAES (henc : ∀ x, 16 ≤ x.length → (enc x).length = x.length)
    (h512 : 512 ≤ data.length) : (encryptPageAES enc legacy page data).length = data.length := by
  unfold encryptPageAES
  -- a later page as a whole; the first one in two parts, unless it is a legacy page
  split
  · exact henc data (by omega)
  · split
    · dsimp only
      have hfirst : (inPlace enc 0 16 data).length = data.length :=
        length_inPlace (fun x hx => (henc x (by omega)).trans hx) (by omega) (by omega)
      rw [hfirst]
      have hbody : (inPlace enc 16 data.length (inPlace enc 0 16 data)).length = _ :=
        length_inPlace (fun x hx => (henc x (by omega)).trans hx) (by omega) (by omega)
      have hheader : (slice data 16 8).length = 8 := length_slice (by omega)
      have hmoved : (slice (inPlace enc 16 data.length (inPlace enc 0 16 data)) 16 8).length = 8 :=
        length_slice (by omega)
      have hpatch : (patch (inPlace enc 16 data.length (inPlace enc 0 16 data)) 8
          (slice (inPlace enc 16 data.length (inPlace enc 0 16 data)) 16 8)).length = _ :=
        length_patch (by omega)
      rw [length_patch (by omega), hpatch, hbody, hfirst]
    · exact henc data (by omega)

/-- The first page comes back through the new scheme, with its header put back. -/
theorem decryptPageAES_encryptPageAES (henc : ∀ x, 16 ≤ x.length → (enc x).length = x.length)
    (hdec : ∀ x, 16 ≤ x.length → (dec x).length = x.length)
    (hback : ∀ x, 16 ≤ x.length → dec (enc x) = x) (h512 : 512 ≤ data.length)
    (hfirst : page = 1 → data.take 16 = fileHeader ∧ validHeader (slice data 16 8) = true) :
    decryptPageAES dec legacy page (encryptPageAES enc legacy page data) = data := by
  unfold encryptPageAES
  split
  · rename_i hlegacy
    rw [decryptPageAES, if_pos hlegacy, hback data (by omega)]
  · rename_i hlegacy
    split
    · rename_i hpage
      obtain ⟨hmagic, hvalid⟩ := hfirst hpage
      -- the header is kept readable, the bytes under it are moved to the front
      have hheader : (slice data 16 8).length = 8 := length_slice (by omega)
      have hencp (x : Bytes) (hx : x.length = data.length - 16) :
          (enc x).length = data.length - 16 := by rw [henc x (by omega), hx]
      have hdecp (x : Bytes) (hx : x.length = data.length - 16) :
          (dec x).length = data.length - 16 := by rw [hdec x (by omega), hx]
      -- the first 16 bytes, and the others under a cipher text of their own
      have hlen1 : (inPlace enc 0 16 data).length = data.length :=
        length_inPlace (fun x hx => (henc x (by omega)).trans hx) (by omega) (by omega)
      have hrest1 : slice (inPlace enc 0 16 data) 16 (data.length - 16) =
          slice data 16 (data.length - 16) :=
        slice_inPlace_of_disjoint (fun x hx => (henc x (by omega)).trans hx) (by omega) (by omega)
          (Or.inr (Nat.le_refl _))
      dsimp only
      rw [hlen1]
      generalize inPlace enc 0 16 data = first at hlen1 hrest1
      have hlen2 : (inPlace enc 16 data.length first).length = data.length := by
        rw [length_inPlace hencp (by omega) (by omega), hlen1]
      have hrest2 : slice (inPlace enc 16 data.length first) 16 (data.length - 16) =
          enc (slice data 16 (data.length - 16)) := by
        rw [slice_inPlace hencp (by omega) (by omega), hrest1]
      generalize inPlace enc 16 data.length first = body at hlen2 hrest2
      have hmovedlen : (slice body 16 8).length = 8 := length_slice (by omega)
      have hlen3 : (patch body 8 (slice body 16 8)).length = data.length := by
        rw [length_patch (by omega), hlen2]
      generalize he : patch (patch body 8 (slice body 16 8)) 16 (slice data 16 8) = e
      have hlen : e.length = data.length := by rw [← he, length_patch (by omega), hlen3]
      -- what the decryption reads: the header, and the bytes that were moved
      have hread : slice e 16 8 = slice data 16 8 := by
        rw [← he, slice_patch_of_length (by omega) hheader]
      have hmoved : slice e 8 8 = slice body 16 8 := by
        rw [← he, slice_patch_of_disjoint (by omega) (Or.inl (by omega)),
          slice_patch_of_length (by omega) hmovedlen]
      have hbehind : slice (patch body 8 (slice body 16 8)) 16 8 = slice body 16 8 :=
        slice_patch_of_disjoint (by omega) (Or.inr (by omega))
      have hrest : patch e 16 (slice e 8 8) = patch body 8 (slice body 16 8) := by
        rw [hmoved, ← he, patch_patch_self (by omega) (by omega)]
        exact (congrArg _ hbehind.symm).trans (patch_slice_self (by omega))
      have hplain : slice (inPlace dec 16 data.length (patch body 8 (slice body 16 8))) 16
          (data.length - 16) = slice data 16 (data.length - 16) := by
        rw [slice_inPlace hdecp (by omega) (by omega),
          slice_patch_of_disjoint (by omega) (Or.inr (by omega)), hrest2,
          hback _ (by rw [length_part (by omega) (by omega)]; omega)]
      have hlen4 : (inPlace dec 16 data.length (patch body 8 (slice body 16 8))).length =
          data.length := by rw [length_inPlace hdecp (by omega) (by omega), hlen3]
      -- the decryption moves them back first
      unfold decryptPageAES
      rw [if_neg hlegacy, if_pos hpage, hread, if_pos hvalid, hrest]
      dsimp only
      rw [hlen3]
      generalize inPlace dec 16 data.length (patch body 8 (slice body 16 8)) = opened
        at hplain hlen4
      have hheader' : slice opened 16 8 = slice data 16 8 := by
        have hopened : slice (slice opened 16 (data.length - 16)) 0 8 = _ := slice_slice (by omega)
        have hdata : slice (slice data 16 (data.length - 16)) 0 8 = _ := slice_slice (by omega)
        rw [hplain] at hopened
        exact hopened.symm.trans hdata
      have hput : (patch opened 0 fileHeader).length = opened.length :=
        length_patch (by rw [length_fileHeader]; omega)
      rw [if_pos hheader']
      -- the first 16 bytes are those every database begins with
      refine eq_of_take_of_slice (hput.trans hlen4) (k := 16) (by omega) ?_ ?_
      · rw [hmagic, ← slice_zero_eq_take]
        exact slice_patch_of_length (Nat.zero_le _) length_fileHeader
      · rw [hput, hlen4, slice_patch_of_disjoint (Nat.zero_le _) (Or.inr (Nat.le_refl 16)), hplain]
    · rename_i hpage
      rw [decryptPageAES, if_neg hlegacy, if_neg hpage, hback data (by omega)]

/-- The page encryption of both AES ciphers, over any cipher that keeps lengths and is undone. -/
theorem roundTripAES (henc : ∀ x, 16 ≤ x.length → (enc x).length = x.length)
    (hdec : ∀ x, 16 ≤ x.length → (dec x).length = x.length)
    (hback : ∀ x, 16 ≤ x.length → dec (enc x) = x) (h512 : 512 ≤ data.length)
    (hfirst : page = 1 → data.take 16 = fileHeader ∧ validHeader (slice data 16 8) = true)
    (g : Rng) : RoundTrip (data.length - 0) data (.ok, encryptPageAES enc legacy page data, g)
      fun e => (.ok, decryptPageAES dec legacy page e) := by
  have hsame : decryptPageAES dec legacy page (encryptPageAES enc legacy page data) = data :=
    decryptPageAES_encryptPageAES henc hdec hback h512 hfirst
  refine ⟨rfl, length_encryptPageAES henc h512, rfl, ?_, ?_⟩
  · exact congrArg List.length hsame
  · exact congrArg (List.take _) hsame

end AES

-- ---------------------------------------------------------------------------
-- All ciphers
-- ---------------------------------------------------------------------------

namespace PageCipher

/-- The bytes at the end of a page that the cipher takes for itself. -/
def nReserved (c : PageCipher) (reserved : Nat) : Nat :=
  match c with
  | chacha20 c => c.nReserved reserved
  | sqlcipher c => c.nReserved reserved
  | ascon128 _ => Ascon128Cipher.nReserved reserved
  | _ => 0

/-- The reserved bytes of a page suit the cipher. -/
def Suits (c : PageCipher) (reserved : Nat) : Prop :=
  match c with
  | chacha20 c => ¬ c.mismatch reserved
  | sqlcipher c => ¬ c.mismatch reserved
  | ascon128 _ => Ascon128Cipher.nReserved reserved ≤ reserved
  | _ => True

instance (c : PageCipher) (reserved : Nat) : Decidable (c.Suits reserved) :=
  match c with
  | aes128 _ => inferInstanceAs (Decidable True)
  | aes256 _ => inferInstanceAs (Decidable True)
  | chacha20 c => inferInstanceAs (Decidable (¬ c.mismatch reserved))
  | sqlcipher c => inferInstanceAs (Decidable (¬ c.mismatch reserved))
  | rc4 _ => inferInstanceAs (Decidable True)
  | ascon128 _ => inferInstanceAs (Decidable (_ ≤ _))

/-- A first page is the start of a database. -/
def StartsDatabase (page : Nat) (data : Bytes) : Prop :=
  page = 1 → data.take 16 = fileHeader ∧ validHeader (slice data 16 8) = true

/-- Under every cipher every page comes back. -/
theorem roundTrip (d : Digests) (c : PageCipher) {page reserved : Nat} (hmacCheck : Nat)
    {data : Bytes} (g : Rng) (h512 : 512 ≤ data.length) (hsuits : c.Suits reserved)
    (hfirst : StartsDatabase page data) :
    RoundTrip (data.length - c.nReserved reserved) data (c.encryptPage d page data reserved g)
      fun e => c.decryptPage d page e reserved hmacCheck := by
  -- AES has one round trip for both key lengths; the others differ in what they reserve
  cases c with
  | aes128 c =>
    exact roundTripAES (fun _ => length_aesEncrypt) (fun _ => length_aesDecrypt)
      (fun _ => aesDecrypt_aesEncrypt) h512 hfirst g
  | aes256 c =>
    exact roundTripAES (fun _ => length_aesEncrypt) (fun _ => length_aesDecrypt)
      (fun _ => aesDecrypt_aesEncrypt) h512 hfirst g
  | chacha20 c => exact c.decryptPage_encryptPage h512 hsuits fun hpage _ => (hfirst hpage).1
  | sqlcipher c => exact c.decryptPage_encryptPage h512 hsuits fun hpage _ => (hfirst hpage).1
  | rc4 c =>
    refine ⟨rfl, length_rc4 c.key data, rfl, ?_, ?_⟩
    · exact (length_rc4 c.key _).trans (length_rc4 c.key data)
    · exact congrArg _ (rc4_rc4 c.key data)
  | ascon128 c => exact c.decryptPage_encryptPage h512 hsuits fun hpage _ => (hfirst hpage).1

end PageCipher

end Native

end SqliteMc
