import SqliteMc.Model.CodecInvariant

/-!
# The first page

What can be read from the first page of an encrypted database without its key: the salt, which a
connection needs to derive the key, and the bytes 16 to 23, which tell the size of the pages.

* `PageCipher.take_encryptPage`: the salt of the cipher stands at the beginning.
* `PageCipher.slice_encryptPage`: outside of legacy mode the header bytes are not encrypted.
* `PageCipher.slice_of_showsPageSize`: nor where they belong to a header in plain text.
-/

namespace SqliteMc

namespace Native

open Buffer ChaCha20

variable {d : Digests} {reserved : Nat} {data : Bytes} {g : Rng}

/-- A page that is salted begins with its salt. -/
theorem take_putFirst_self {plain : Bool} {first : Bytes} (h : first.length = 16)
    (hplain : plain = false) : (putFirst 1 plain first data).take 16 = first := by
  rw [putFirst, if_pos ⟨rfl, hplain⟩, ← slice_zero_eq_take]
  exact slice_patch_of_length (Nat.zero_le _) h

/-- The first bytes of a page whose later bytes are overwritten. -/
theorem take_patch_first {b bytes : Bytes} {offset : Nat} (hb : 16 ≤ b.length)
    (hoff : 16 ≤ offset) : (patch b offset bytes).take 16 = b.take 16 := by
  rw [patch, List.append_assoc, List.take_append_of_le_length (by rw [List.length_take]; omega),
    List.take_take, Nat.min_eq_left hoff]

namespace ChaCha20Cipher

variable (c : ChaCha20Cipher)

/-- The two things at the beginning of a page. -/
theorem first_encryptPage (h512 : 512 ≤ data.length) (hmis : ¬ c.mismatch reserved) :
    (c.usePlaintextHeader = false → (c.encryptPage d 1 data reserved g).2.1.take 16 = c.salt) ∧
      (24 ≤ c.offset 1 → slice (c.encryptPage d 1 data reserved g).2.1 16 8 = slice data 16 8) := by
  have hr := c.nReserved_eq reserved
  have ho := c.offset_le 1
  have hsalt := c.length_salt
  generalize hn : data.length - c.nReserved reserved = n
  have hcrypt (nonce x : Bytes) (hx : x.length = n - c.offset 1) :
      (c.crypt nonce 1 x).length = n - c.offset 1 := by rw [length_crypt, hx]
  -- a page that is encrypted in part and salted
  have hpart (nonce b : Bytes) (hb : b.length = data.length) :
      (putFirst 1 c.usePlaintextHeader c.salt
        (inPlace (c.crypt nonce 1) (c.offset 1) n b)).length = data.length ∧
      (24 ≤ c.offset 1 → slice (putFirst 1 c.usePlaintextHeader c.salt
        (inPlace (c.crypt nonce 1) (c.offset 1) n b)) 16 8 = slice b 16 8) := by
    have hbody := length_inPlace (hcrypt nonce) (b := b) (by omega) (by omega)
    refine ⟨by rw [length_putFirst (by omega), hbody, hb], fun h24 => ?_⟩
    rw [slice_putFirst (by omega),
      slice_inPlace_of_disjoint (hcrypt nonce) (by omega) (by omega) (Or.inl h24)]
  unfold encryptPage
  rw [if_neg hmis, hn]
  split
  · dsimp only
    have hwith : (patch data n (g.next 16).1).length = data.length :=
      length_patch (by rw [Rng.length_next]; omega)
    obtain ⟨hlen, hheader⟩ := hpart (g.next 16).1 _ hwith
    refine ⟨fun hplain => ?_, fun h24 => ?_⟩
    · rw [take_patch_first (by omega) (by omega), take_putFirst_self hsalt hplain]
    · rw [slice_patch_of_disjoint (by omega) (Or.inl (by omega)), hheader h24,
        slice_patch_of_disjoint (by omega) (Or.inl (by omega))]
  · dsimp only
    exact ⟨take_putFirst_self hsalt, (hpart _ data rfl).2⟩

end ChaCha20Cipher

namespace SQLCipherCipher

variable (c : SQLCipherCipher)

/-- The two things at the beginning of a page. -/
theorem first_encryptPage (h512 : 512 ≤ data.length) (hmis : ¬ c.mismatch reserved) :
    (c.usePlaintextHeader = false → (c.encryptPage d 1 data reserved g).2.1.take 16 = c.salt) ∧
      (24 ≤ c.offset 1 → slice (c.encryptPage d 1 data reserved g).2.1 16 8 = slice data 16 8) := by
  have hr := c.nReserved_eq reserved
  have ho := c.offset_le 1
  have hsalt := c.length_salt
  generalize hn : data.length - c.nReserved reserved = n
  unfold encryptPage
  rw [if_neg hmis, hn]
  dsimp only
  -- the vector is drawn for a page with reserved bytes, else it comes from the page number
  generalize hiv : (if 0 < c.nReserved reserved then (g.next 128).1
    else generateInitialVector d 1) = iv
  have hivlen : c.nReserved reserved ≤ iv.length ∧ 16 ≤ iv.length := by
    rw [← hiv]
    split
    · rw [Rng.length_next]
      omega
    · rw [length_generateInitialVector]
      omega
  have htake16 : (iv.take 16).length = 16 := by
    rw [List.length_take]
    omega
  have henc (x : Bytes) (hx : x.length = n - c.offset 1) :
      (Rijndael.blockEncrypt 8 c.key (iv.take 16) x).length = n - c.offset 1 :=
    c.length_encryptPart htake16 (by omega) hx
  have hbody := length_inPlace henc (b := data) (by omega) (by omega)
  have hplainpart (h24 : 24 ≤ c.offset 1) :
      slice (inPlace (Rijndael.blockEncrypt 8 c.key (iv.take 16)) (c.offset 1) n data) 16 8 =
        slice data 16 8 :=
    slice_inPlace_of_disjoint henc (by omega) (by omega) (Or.inl h24)
  generalize inPlace (Rijndael.blockEncrypt 8 c.key (iv.take 16)) (c.offset 1) n data = body at *
  generalize hwithdef : (if 0 < c.nReserved reserved then
    patch body n (iv.take (c.nReserved reserved)) else body) = withIv
  -- what is put into the reserved bytes lies behind both
  obtain ⟨hwith, hsame⟩ : withIv.length = data.length ∧ slice withIv 16 8 = slice body 16 8 := by
    rw [← hwithdef]
    split
    · exact ⟨by rw [length_patch (by rw [List.length_take]; omega), hbody],
        slice_patch_of_disjoint (by omega) (Or.inl (by omega))⟩
    · exact ⟨hbody, rfl⟩
  have hput : (putFirst 1 c.usePlaintextHeader c.salt withIv).length = data.length := by
    rw [length_putFirst (by omega), hwith]
  have hheader (h24 : 24 ≤ c.offset 1) :
      slice (putFirst 1 c.usePlaintextHeader c.salt withIv) 16 8 = slice data 16 8 := by
    rw [slice_putFirst (by omega), hsame, hplainpart h24]
  -- with an HMAC, which is put behind both as well, or without one
  split
  · refine ⟨fun hplain => ?_, fun h24 => ?_⟩
    · rw [take_patch_first (by omega) (by omega), take_putFirst_self hsalt hplain]
    · rw [slice_patch_of_disjoint (by omega) (Or.inl (by omega)), hheader h24]
  · exact ⟨take_putFirst_self hsalt, hheader⟩

end SQLCipherCipher

namespace Ascon128Cipher

variable (c : Ascon128Cipher)

/-- The two things at the beginning of a page. -/
theorem first_encryptPage (h512 : 512 ≤ data.length) (hle : nReserved reserved ≤ reserved) :
    (c.usePlaintextHeader = false → (c.encryptPage d 1 data reserved g).2.1.take 16 = c.salt) ∧
      slice (c.encryptPage d 1 data reserved g).2.1 16 8 = slice data 16 8 := by
  have hr := nReserved_eq reserved
  have ho := c.offset_le 1
  have h24 := c.le_offset
  have hsalt := c.length_salt
  generalize hn : data.length - nReserved reserved = n
  have henc (nonce x : Bytes) : (Ascon.aeadEncrypt x [] nonce (c.otk nonce 1)).1.length = x.length :=
    Ascon.length_aeadEncrypt ..
  unfold encryptPage
  rw [if_neg (by omega), hn]
  -- with a tag in the reserved bytes, or in a legacy page without them
  split
  · dsimp only
    have hwith : (patch data (n + 16) (g.next 16).1).length = data.length :=
      length_patch (by rw [Rng.length_next]; omega)
    generalize hw : patch data (n + 16) (g.next 16).1 = w at hwith
    have htext := henc (g.next 16).1 (slice w (c.offset 1) (n - c.offset 1))
    rw [length_slice (by omega)] at htext
    have hbody : (patch w (c.offset 1) (Ascon.aeadEncrypt (slice w (c.offset 1) (n - c.offset 1)) []
        (g.next 16).1 (c.otk (g.next 16).1 1)).1).length = data.length := by
      rw [length_patch (by omega), hwith]
    refine ⟨take_putFirst_self hsalt, ?_⟩
    rw [slice_putFirst (by omega), slice_patch_of_disjoint (by omega) (Or.inl (by omega)),
      slice_patch_of_disjoint (by omega) (Or.inl (by omega)), ← hw,
      slice_patch_of_disjoint (by omega) (Or.inl (by omega))]
  · dsimp only
    refine ⟨take_putFirst_self hsalt, ?_⟩
    rw [slice_putFirst (by omega), slice_patch_of_disjoint (by omega) (Or.inl (by omega))]

end Ascon128Cipher

/-- The bytes 16 to 23 of a page that is not encrypted as a whole. -/
theorem slice_encryptPageAES {enc : Bytes → Bytes}
    (henc : ∀ x, 16 ≤ x.length → (enc x).length = x.length) (h512 : 512 ≤ data.length) :
    slice (encryptPageAES enc 0 1 data) 16 8 = slice data 16 8 := by
  have hfirst : (inPlace enc 0 16 data).length = data.length :=
    length_inPlace (fun x hx => (henc x (by omega)).trans hx) (by omega) (by omega)
  have hbody : (inPlace enc 16 data.length (inPlace enc 0 16 data)).length = _ :=
    length_inPlace (fun x hx => (henc x (by omega)).trans hx) (by omega) (by omega)
  have hheader : (slice data 16 8).length = 8 := length_slice (by omega)
  have hmoved : (slice (inPlace enc 16 data.length (inPlace enc 0 16 data)) 16 8).length = 8 :=
    length_slice (by omega)
  have hpatch : (patch (inPlace enc 16 data.length (inPlace enc 0 16 data)) 8
      (slice (inPlace enc 16 data.length (inPlace enc 0 16 data)) 16 8)).length = _ :=
    length_patch (by omega)
  unfold encryptPageAES
  rw [if_neg (by decide), if_pos rfl]
  dsimp only
  -- the bytes 16 to 23 were moved down to 8 to 15, and the header's own are put back
  rw [hfirst, slice_patch_of_length (by omega) hheader]

namespace PageCipher

/-- What the first page starts with, unless the cipher keeps its header in plain text. -/
def StartsWith (c : PageCipher) (page : Nat) (first data : Bytes) : Prop :=
  match c with
  | chacha20 c => page = 1 → c.usePlaintextHeader = false → data.take 16 = first
  | sqlcipher c => page = 1 → c.usePlaintextHeader = false → data.take 16 = first
  | ascon128 c => page = 1 → c.usePlaintextHeader = false → data.take 16 = first
  | _ => True

/-- A first page starts with the salt of the cipher. -/
def Salted (c : PageCipher) (page : Nat) (e : Bytes) : Prop :=
  ∀ salt, c.getSalt = some salt → c.StartsWith page salt e

/-- The ciphers and modes that leave the bytes 16 to 23 of the first page alone. -/
def PlainHeader (c : PageCipher) : Prop :=
  match c with
  | rc4 _ => False
  | c => c.getLegacy = 0

/-- A first page that was encrypted begins with the salt of its cipher. -/
theorem salted_encryptPage (d : Digests) (c : PageCipher) {page : Nat} (g : Rng)
    (h512 : 512 ≤ data.length) (hsuits : c.Suits reserved) :
    c.Salted page (c.encryptPage d page data reserved g).2.1 := by
  intro salt hsalt
  -- the ciphers with a salt write it; the others have none to ask for
  cases c with
  | chacha20 c =>
    rw [← Option.some_inj.mp hsalt]
    rintro rfl hplain
    exact (c.first_encryptPage h512 hsuits).1 hplain
  | sqlcipher c =>
    rw [← Option.some_inj.mp hsalt]
    rintro rfl hplain
    exact (c.first_encryptPage h512 hsuits).1 hplain
  | ascon128 c =>
    rw [← Option.some_inj.mp hsalt]
    rintro rfl hplain
    exact (c.first_encryptPage h512 hsuits).1 hplain
  | aes128 c => cases hsalt
  | aes256 c => cases hsalt
  | rc4 c => cases hsalt

/-- A first page that was encrypted shows the page size and the reserved bytes of the database. -/
theorem slice_encryptPage (d : Digests) (c : PageCipher) (g : Rng) (h512 : 512 ≤ data.length)
    (hsuits : c.Suits reserved) (hplain : c.PlainHeader) :
    slice (c.encryptPage d 1 data reserved g).2.1 16 8 = slice data 16 8 := by
  -- what is left plain of the header reaches beyond these bytes in all of these modes
  cases c with
  | aes128 c =>
    have hlegacy : c.legacy = 0 := hplain
    show slice (encryptPageAES _ c.legacy 1 data) 16 8 = _
    rw [hlegacy]
    exact slice_encryptPageAES (fun _ => length_aesEncrypt) h512
  | aes256 c =>
    have hlegacy : c.legacy = 0 := hplain
    show slice (encryptPageAES _ c.legacy 1 data) 16 8 = _
    rw [hlegacy]
    exact slice_encryptPageAES (fun _ => length_aesEncrypt) h512
  | chacha20 c =>
    have hlegacy : c.legacy = 0 := hplain
    refine (c.first_encryptPage h512 hsuits).2 ?_
    unfold ChaCha20Cipher.offset
    split_ifs <;> omega
  | sqlcipher c =>
    have hlegacy : c.legacy = 0 := hplain
    have hsize := c.legacy_of_plaintextHeader
    refine (c.first_encryptPage h512 hsuits).2 ?_
    unfold SQLCipherCipher.offset
    split_ifs <;> omega
  | rc4 c => exact absurd hplain (by simp [PlainHeader])
  | ascon128 c => exact (c.first_encryptPage h512 hsuits).2

/-- The ciphers and modes in which a connection without the key sees the size of the pages. -/
def showsPageSize : PageCipher → Bool
  | rc4 _ => false
  | chacha20 c => decide (c.legacy = 0 ∨ 24 ≤ c.plaintextHeaderSize)
  | sqlcipher c => decide (c.legacy = 0 ∨ 24 ≤ c.plaintextHeaderSize)
  | c => decide (c.getLegacy = 0)

/-- It stands in the bytes 16 and 17. -/
theorem slice_of_showsPageSize (d : Digests) (c : PageCipher) (g : Rng) (h512 : 512 ≤ data.length)
    (hsuits : c.Suits reserved) (hshows : c.showsPageSize = true) :
    slice (c.encryptPage d 1 data reserved g).2.1 16 8 = slice data 16 8 := by
  by_cases hplain : c.PlainHeader
  · exact c.slice_encryptPage d g h512 hsuits hplain
  · -- a legacy mode with a header that reaches beyond these bytes
    cases c with
    | chacha20 c =>
      have hlegacy : ¬ c.legacy = 0 := hplain
      have hsize := (of_decide_eq_true hshows).resolve_left hlegacy
      refine (c.first_encryptPage h512 hsuits).2 ?_
      unfold ChaCha20Cipher.offset
      rw [if_pos rfl, if_pos (by omega), if_pos hlegacy]
      exact hsize
    | sqlcipher c =>
      have hlegacy : ¬ c.legacy = 0 := hplain
      have hsize := (of_decide_eq_true hshows).resolve_left hlegacy
      refine (c.first_encryptPage h512 hsuits).2 ?_
      unfold SQLCipherCipher.offset
      rw [if_pos rfl, if_pos ⟨by omega, c.legacy_of_plaintextHeader (by omega)⟩]
      exact hsize
    | rc4 c => cases hshows
    | ascon128 c => exact absurd rfl hplain
    | aes128 c => exact absurd (of_decide_eq_true hshows) hplain
    | aes256 c => exact absurd (of_decide_eq_true hshows) hplain

/-- With a header of SQLCipher in plain text the file begins as every database does. -/
theorem take_of_plaintextHeader (d : Digests) (c : SQLCipherCipher) (g : Rng)
    (h512 : 512 ≤ data.length) (hsuits : ¬ c.mismatch reserved) (h16 : 16 ≤ c.plaintextHeaderSize) :
    (c.encryptPage d 1 data reserved g).2.1.take 16 = data.take 16 := by
  have hplain : c.usePlaintextHeader = true := decide_eq_true (by omega)
  have hoffset : c.offset 1 = c.plaintextHeaderSize := by
    unfold SQLCipherCipher.offset
    rw [if_pos rfl, if_pos ⟨by omega, c.legacy_of_plaintextHeader (by omega)⟩]
  have hr := c.nReserved_eq reserved
  have hsize := c.plaintextHeaderSize_le
  generalize hn : data.length - c.nReserved reserved = n
  have hput (first b : Bytes) : putFirst 1 c.usePlaintextHeader first b = b :=
    if_neg fun h => by simp [hplain] at h
  -- nothing is written to the first bytes
  have hkeep {b bytes : Bytes} {o : Nat} (hb : b.take 16 = data.take 16) (ho : 16 ≤ o) :
      (patch b o bytes).take 16 = data.take 16 := by
    have hlen := congrArg List.length hb
    rw [List.length_take, List.length_take] at hlen
    rw [take_patch_first (by omega) ho, hb]
  unfold SQLCipherCipher.encryptPage
  rw [if_neg hsuits, hn]
  dsimp only
  rw [hput, hoffset]
  generalize (if 0 < c.nReserved reserved then (g.next 128).1 else generateInitialVector d 1) = iv
  generalize hbody : inPlace (Rijndael.blockEncrypt 8 c.key (iv.take 16)) c.plaintextHeaderSize n
    data = body
  have htake : body.take 16 = data.take 16 := hbody ▸ hkeep rfl h16
  have hwith : (if 0 < c.nReserved reserved then patch body n (iv.take (c.nReserved reserved))
      else body).take 16 = data.take 16 := by
    split
    · exact hkeep htake (by omega)
    · exact htake
  split
  · exact hkeep hwith (by omega)
  · exact hwith

end PageCipher

end Native

end SqliteMc
