import SqliteMc.Model.Rekeying

/-!
# When a rekeyed file opens again

A connection that was configured as the one that rekeyed a file has the password, but neither the
page size nor the salt: both have to be in the file, or to be known otherwise.

* `reopens_of_found`: with the page size and the salt the file opens.
* `reopens_iff`: and without them it does not.
-/

namespace SqliteMc

namespace Native

open Buffer ChaCha20

namespace PageCipher

/-- What `m_allocateCipher` makes of the parameters of a configuration: only SQLCipher has a header
in plain text, of whole blocks, and the use of tags is a switch. -/
def Configured : PageCipher → Prop
  | chacha20 c => c.plaintextHeaderSize = 0
  | sqlcipher c => c.plaintextHeaderSize % 16 = 0 ∧ c.hmacUse ≤ 1
  | ascon128 c => c.plaintextHeaderSize = 0
  | _ => True

/-- The first page keeps its header in plain text, so the salt is not in the file. -/
def KeepsHeader : PageCipher → Prop
  | sqlcipher c => 0 < c.plaintextHeaderSize
  | _ => False

/-- Whether a cipher is configured does not depend on its key. -/
theorem configured_generateKey {d : Digests} {c : PageCipher} {password : Bytes} {rekey : Bool}
    {cipherSalt : Option Salt} {g : Rng} :
    (c.generateKey d password rekey cipherSalt g).1.Configured ↔ c.Configured := by
  cases c <;> simp only [generateKey, Configured, ChaCha20Cipher.generateKey,
    SQLCipherCipher.generateKey, Ascon128Cipher.generateKey]

/-- Whether the file keeps the header of the database does not depend on the key. -/
theorem keepsHeader_generateKey {d : Digests} {c : PageCipher} {password : Bytes} {rekey : Bool}
    {cipherSalt : Option Salt} {g : Rng} :
    (c.generateKey d password rekey cipherSalt g).1.KeepsHeader ↔ c.KeepsHeader := by
  cases c <;> simp only [generateKey, KeepsHeader, SQLCipherCipher.generateKey]

/-- Pages have tags, and a connection with this switch checks them. -/
def ChecksTags (c : PageCipher) (hmacCheck : Nat) : Prop :=
  match c with
  | sqlcipher c => c.hmacUse = 1 ∧ hmacCheck ≠ 0
  | _ => hmacCheck ≠ 0

end PageCipher

/-- The password brings this salt along. -/
def BringsSalt (password salt : Bytes) : Prop :=
  ∀ key drawn, (extractRawKey password false 32 16 key drawn).salt = salt

/-- Who has the password can do without the salt of the file: it is what a file with a plain text
header begins with, or it is not asked for, as the key is not derived and no tag is checked. -/
def KnowsSalt (c : PageCipher) (hmacCheck : Nat) (password : Bytes) : Prop :=
  BringsSalt password fileHeader ∨
    (bypassesDerivation c.cipher password = true ∧ ¬ c.ChecksTags hmacCheck)

/-- Who has the password finds the page size and the salt of a file that was rekeyed. -/
structure Found (c : PageCipher) (hmacCheck nPagesize guess : Nat) (password : Bytes) : Prop where
  keepsPageSize : c.getPageSize = 0 ∨ nPagesize = c.getPageSize
  pageSize : c.getPageSize = 0 → c.showsPageSize = false →
    guess = btreePageSize nPagesize c.getReserved
  salt : c.KeepsHeader → KnowsSalt c hmacCheck password

/-- Without tags only the key and the layout of the pages count. -/
theorem SQLCipherCipher.decryptPage_congr {d : Digests} {c c' : SQLCipherCipher} {hmacCheck : Nat}
    (hkey : c'.key = c.key) (hlegacy : c'.legacy = c.legacy) (huse : c'.hmacUse = c.hmacUse)
    (hplain : c'.plaintextHeaderSize = c.plaintextHeaderSize)
    (hreserved : c'.getReserved = c.getReserved)
    (htags : ¬ (c.hmacUse = 1 ∧ hmacCheck ≠ 0)) (page : Nat) (bytes : Bytes) (reserved : Nat) :
    c'.decryptPage d page bytes reserved hmacCheck =
      c.decryptPage d page bytes reserved hmacCheck := by
  -- the salt and the key of the tags are not looked at
  have hn : c'.nReserved reserved = c.nReserved reserved := by
    rw [nReserved, nReserved, hlegacy, hreserved]
  have hoffset : c'.offset page = c.offset page := by
    rw [offset, offset, hlegacy, hplain]
  have hput : c'.usePlaintextHeader = c.usePlaintextHeader := by
    rw [usePlaintextHeader, usePlaintextHeader, hplain]
  have hmis : c'.mismatch reserved ↔ c.mismatch reserved := by
    rw [mismatch, mismatch, hlegacy, hn]
  have hnot (x y : Bytes) : ¬ (c.hmacUse = 1 ∧ 0 < c.nReserved reserved ∧ hmacCheck ≠ 0 ∧ x ≠ y) :=
    fun hbad => htags ⟨hbad.1, hbad.2.2.1⟩
  unfold decryptPage
  dsimp only
  rw [huse, hn, hoffset, hput, hkey, if_neg (hnot _ _), if_neg (hnot _ _)]
  simp only [hmis]

-- ---------------------------------------------------------------------------
-- A page after the first under SQLCipher
-- ---------------------------------------------------------------------------

namespace SQLCipherCipher

variable {d : Digests} {c : SQLCipherCipher} {page n : Nat} {data : Bytes}

/-- The reserved bytes that the cipher asks for are all in use outside of mode 0. -/
theorem nReserved_getReserved (hlegacy : c.legacy ≠ 0) : c.nReserved c.getReserved = c.getReserved :=
  if_neg fun h => hlegacy h.2

/-- Only the first page has a part that is left plain. -/
theorem offset_of_ne (hpage : page ≠ 1) : c.offset page = 0 := if_neg hpage

/-- What stands in the file: the first block, the initial vector, and the tag of both. -/
theorem encrypted_page (d : Digests) (c : SQLCipherCipher) (hpage : page ≠ 1)
    (hlegacy : c.legacy ≠ 0) (hlen : data.length = n + c.getReserved) (h16 : 16 ≤ n)
    (hwhole : n % 16 = 0) (g : Rng) :
    let e := (c.encryptPage d page data c.getReserved g).2.1
    let iv := (g.next 128).1.take 16
    e.length = data.length ∧ slice e n 16 = iv ∧
      e.take 16 = (Rijndael.blockCipher 8 c.key).encrypt (xor (data.take 16) iv) ∧
      (c.hmacUse = 1 → slice e (n + 16) (c.hmac d page (slice e 0 (n + 16))).length =
        c.hmac d page (slice e 0 (n + 16))) := by
  have hr := c.getReserved_eq
  have hmis : ¬ c.mismatch c.getReserved := (PageCipher.sqlcipher c).suits_getReserved
  have hput (first b : Bytes) : putFirst page c.usePlaintextHeader first b = b :=
    if_neg fun h => hpage h.1
  have hiv : ((g.next 128).1.take 16).length = 16 := by
    rw [List.length_take, Rng.length_next]
    rfl
  have hivs : ((g.next 128).1.take c.getReserved).length = c.getReserved := by
    rw [List.length_take, Rng.length_next]
    omega
  have hn : data.length - c.getReserved = n := by omega
  have hpos : 0 < c.getReserved := by omega
  -- what is written, with the header out of the way
  have he : (c.encryptPage d page data c.getReserved g).2.1 =
      let withIv := patch (inPlace (Rijndael.blockEncrypt 8 c.key ((g.next 128).1.take 16)) 0 n data)
        n ((g.next 128).1.take c.getReserved)
      if c.hmacUse = 1 then patch withIv (n + 16) (c.hmac d page (slice withIv 0 (n + 16)))
      else withIv := by
    unfold encryptPage
    rw [if_neg hmis]
    dsimp only
    rw [nReserved_getReserved hlegacy, if_pos hpos, if_pos hpos, if_pos hpos, hput, hn,
      offset_of_ne hpage, Nat.sub_zero]
    by_cases huse : c.hmacUse = 1
    · rw [if_pos ⟨huse, hpos⟩, if_pos huse]
    · rw [if_neg fun h => huse h.1, if_neg huse]
  -- the encrypted part, and the initial vector behind it
  have hpart (x : Bytes) (hx : x.length = n - 0) :
      (Rijndael.blockEncrypt 8 c.key ((g.next 128).1.take 16) x).length = n - 0 := by
    rw [← hx]
    exact Cbc.length_encrypt (by decide) hiv (by omega)
  have hbody := length_inPlace hpart (b := data) (Nat.zero_le n) (by omega)
  have hfirst : (inPlace (Rijndael.blockEncrypt 8 c.key ((g.next 128).1.take 16)) 0 n data).take 16 =
      (Rijndael.blockCipher 8 c.key).encrypt (xor (data.take 16) ((g.next 128).1.take 16)) := by
    have htake : (slice data 0 (n - 0)).take 16 = data.take 16 := by
      rw [slice_zero_eq_take, List.take_take, Nat.min_eq_left (by omega)]
    have hslice : (slice data 0 (n - 0)).length = n := length_slice (by omega)
    rw [inPlace, patch, List.take_zero, List.nil_append,
      List.take_append_of_le_length (by rw [hpart _ hslice]; omega), Rijndael.blockEncrypt,
      Cbc.take_encrypt (by decide) hiv (by omega) (by omega), htake]
  generalize inPlace (Rijndael.blockEncrypt 8 c.key ((g.next 128).1.take 16)) 0 n data = body at *
  have hwith : (patch body n ((g.next 128).1.take c.getReserved)).length = data.length := by
    rw [length_patch (by omega), hbody]
  have hwithFirst : (patch body n ((g.next 128).1.take c.getReserved)).take 16 = body.take 16 :=
    take_patch_first (by omega) h16
  have hwithIv : slice (patch body n ((g.next 128).1.take c.getReserved)) n 16 =
      (g.next 128).1.take 16 := by
    have hself : slice (patch body n ((g.next 128).1.take c.getReserved)) n c.getReserved =
        (g.next 128).1.take c.getReserved := slice_patch_of_length (by omega) hivs
    have hinside : slice (slice (patch body n ((g.next 128).1.take c.getReserved)) n c.getReserved) 0 16 =
        slice (patch body n ((g.next 128).1.take c.getReserved)) (n + 0) 16 := slice_slice (by omega)
    rw [hself, Nat.add_zero, slice_zero_eq_take, List.take_take, Nat.min_eq_left (by omega)] at hinside
    exact hinside.symm
  generalize patch body n ((g.next 128).1.take c.getReserved) = withIv at *
  -- with a tag or without
  rw [he]
  dsimp only
  by_cases huse : c.hmacUse = 1
  · -- the tag is written behind the initial vector
    rw [if_pos huse]
    have htag : 16 + (c.hmac d page (slice withIv 0 (n + 16))).length ≤ c.nReserved c.getReserved :=
      c.length_hmac_le huse (by rw [nReserved_getReserved hlegacy]; exact hpos) _
    rw [nReserved_getReserved hlegacy] at htag
    have hbefore : slice (patch withIv (n + 16) (c.hmac d page (slice withIv 0 (n + 16)))) 0 (n + 16) =
        slice withIv 0 (n + 16) := slice_patch_of_disjoint (by omega) (Or.inl (by omega))
    refine ⟨by rw [length_patch (by omega), hwith], ?_, ?_, fun _ => ?_⟩
    · rw [slice_patch_of_disjoint (by omega) (Or.inl (by omega)), hwithIv]
    · rw [take_patch_first (by omega) (by omega), hwithFirst, hfirst]
    · rw [hbefore, slice_patch_of_length (by omega) rfl]
  · rw [if_neg huse]
    exact ⟨hwith, hwithIv, hwithFirst.trans hfirst, fun h => absurd h huse⟩

/-- What is read: the first block is decrypted, and the tag compared if it is to be checked. -/
theorem decrypted_page (d : Digests) (c : SQLCipherCipher) (hpage : page ≠ 1)
    (hlegacy : c.legacy ≠ 0) {e : Bytes} {hmacCheck : Nat}
    (hlen : e.length = n + c.getReserved) (h16 : 16 ≤ n) (hwhole : n % 16 = 0)
    (hok : (c.decryptPage d page e c.getReserved hmacCheck).1 = .ok) :
    (c.decryptPage d page e c.getReserved hmacCheck).2.take 16 =
        xor ((Rijndael.blockCipher 8 c.key).decrypt (e.take 16)) (slice e n 16) ∧
      (c.hmacUse = 1 → hmacCheck ≠ 0 →
        slice e (n + 16) (c.hmac d page (slice e 0 (n + 16))).length =
          c.hmac d page (slice e 0 (n + 16))) := by
  have hr := c.getReserved_eq
  have hmis : ¬ c.mismatch c.getReserved := (PageCipher.sqlcipher c).suits_getReserved
  have hput (first b : Bytes) : putFirst page c.usePlaintextHeader first b = b :=
    if_neg fun h => hpage h.1
  have hn : e.length - c.getReserved = n := by omega
  have hpos : 0 < c.getReserved := by omega
  have hbad : badPage page = .corrupt := if_neg hpage
  -- the vector of the page stands in front of what else is reserved
  have hiv : (slice e n c.getReserved).take 16 = slice e n 16 := by
    rw [slice, slice, List.take_take, Nat.min_eq_left (by omega)]
  have hivlen : (slice e n 16).length = 16 := length_slice (by omega)
  have hpart (x : Bytes) (hx : x.length = n - 0) :
      (Rijndael.blockDecrypt 8 c.key (slice e n 16) x).length = n - 0 := by
    rw [← hx]
    exact Cbc.length_decrypt (by decide) hivlen (by omega)
  have hbody := length_inPlace hpart (b := e) (Nat.zero_le n) (by omega)
  -- decryption is chained, so the first block needs no other one
  have hfirst : (inPlace (Rijndael.blockDecrypt 8 c.key (slice e n 16)) 0 n e).take 16 =
      xor ((Rijndael.blockCipher 8 c.key).decrypt (e.take 16)) (slice e n 16) := by
    have htake : (slice e 0 (n - 0)).take 16 = e.take 16 := by
      rw [slice_zero_eq_take, List.take_take, Nat.min_eq_left (by omega)]
    have hslice : (slice e 0 (n - 0)).length = n := length_slice (by omega)
    rw [inPlace, patch, List.take_zero, List.nil_append,
      List.take_append_of_le_length (by rw [hpart _ hslice]; omega), Rijndael.blockDecrypt,
      Cbc.take_decrypt (by decide) hivlen (by omega) (by omega), htake]
  unfold decryptPage at hok ⊢
  rw [if_neg hmis] at hok ⊢
  dsimp only at hok ⊢
  rw [nReserved_getReserved hlegacy, if_pos hpos, if_pos hpos, hput, hn, offset_of_ne hpage,
    Nat.sub_zero, hiv] at hok ⊢
  -- a page with a wrong tag is refused, so here the tag was not looked at or is right
  by_cases htag : c.hmacUse = 1 ∧ 0 < c.getReserved ∧ hmacCheck ≠ 0 ∧
      slice e (n + 16) (c.hmac d page (slice e 0 (n + 16))).length ≠
        c.hmac d page (slice e 0 (n + 16))
  · rw [if_pos htag, hbad] at hok
    cases hok
  · rw [if_neg htag]
    refine ⟨?_, fun huse hcheck => ?_⟩
    · rw [take_patch_first (by omega) h16, hfirst]
    · by_contra hne
      exact htag ⟨huse, hpos, hcheck, hne⟩

end SQLCipherCipher

namespace Codec

variable {d : Digests} {c : PageCipher} {k k₀ : Engine.Codec} {codec : Option Codec}
  {nPagesize nReserved guess : Nat} {password : Bytes}

/-- A rekeying with a password on a connection that is not in the middle of another one, and a
connection with the same parameters that is to open the file. -/
structure Rekeying (c : PageCipher) (k k₀ : Engine.Codec) (codec : Option Codec)
    (nPagesize nReserved : Nat) (password : Bytes) : Prop where
  allocate : PageCipher.allocate k.cipher = some c
  same : k₀.cipher = k.cipher
  configured : c.Configured
  pageSize : PageSize nPagesize
  atRest : AllAtRest codec
  reserved : ∀ c, codec = some c → c.reserved = nReserved
  password : password ≠ []

-- ---------------------------------------------------------------------------
-- The page size
-- ---------------------------------------------------------------------------

/-- A new connection has the page size of the file. -/
theorem openedPageSize_eq_iff (hsize : c.getPageSize = 0 ∨ nPagesize = c.getPageSize) :
    openedPageSize c (btreePageSize nPagesize c.getReserved) guess =
        btreePageSize nPagesize c.getReserved ↔
      (c.getPageSize = 0 → c.showsPageSize = false →
        guess = btreePageSize nPagesize c.getReserved) := by
  unfold openedPageSize
  by_cases hzero : c.getPageSize = 0
  · rw [if_neg (by omega)]
    cases c.showsPageSize <;> simp [hzero]
  · rw [if_pos (by omega), hsize.resolve_left hzero]
    exact iff_of_true rfl fun h => absurd h hzero

@[simp] theorem openedPageSize_generateKey (rekey : Bool) (cipherSalt : Option Salt) (g : Rng)
    (pageSize : Nat) : openedPageSize (c.generateKey d password rekey cipherSalt g).1 pageSize guess =
      openedPageSize c pageSize guess := by
  unfold openedPageSize
  rw [PageCipher.getPageSize_generateKey, PageCipher.showsPageSize_generateKey,
    PageCipher.getReserved_generateKey]

/-- The codec of a new connection. -/
theorem attachKey_eq (hp : Rekeying c k k₀ codec nPagesize nReserved password) (pageSize : Nat)
    (file : List Bytes) (g : Rng) : attachKey d k₀ pageSize guess password file g =
      some (attach (openedPageSize c pageSize guess) k₀.hmacCheck.toNat k₀.walLegacy.toNat
        (c.generateKey d password false (readDatabaseHeader file.flatten) g).1) := by
  rw [attachKey, NewKey.make, hp.same, hp.allocate]
  exact congrArg (fun n => some (attach n _ _ _)) (openedPageSize_generateKey _ _ _ _)

-- ---------------------------------------------------------------------------
-- The salt
-- ---------------------------------------------------------------------------

/-- A first page without a header in plain text begins with the salt. -/
theorem salt_of_not_keepsHeader {w : PageCipher} (hw : w.Configured) (hheader : ¬ w.KeepsHeader)
    {e : Bytes} (he : w.Salted 1 e) {salt : Bytes} (hsalt : w.getSalt = some salt) :
    e.take 16 = salt := by
  have hstarts := he salt hsalt
  -- ChaCha20 and Ascon are not given a plain header, and the others have no salt
  cases w with
  | chacha20 w =>
    have hsize : w.plaintextHeaderSize = 0 := hw
    exact hstarts rfl (decide_eq_false (by omega))
  | sqlcipher w =>
    have hsize : ¬ 0 < w.plaintextHeaderSize := hheader
    exact hstarts rfl (decide_eq_false hsize)
  | ascon128 w =>
    have hsize : w.plaintextHeaderSize = 0 := hw
    exact hstarts rfl (decide_eq_false (by omega))
  | aes128 w => cases hsalt
  | aes256 w => cases hsalt
  | rc4 w => cases hsalt

/-- With the salt that the key was generated with it is generated again. -/
theorem samePages_of_salt {header : Option Salt} {g g' : Rng} (hmacCheck : Nat)
    (hheader : ∀ salt, (c.generateKey d password true none g).1.getSalt = some salt →
      header.map Subtype.val = some salt) :
    SamePages d hmacCheck (c.generateKey d password true none g).1
      (c.generateKey d password false header g').1 := by
  rw [PageCipher.generateKey_generateKey true none header g g' hheader]
  exact ⟨rfl, fun _ _ => rfl⟩

/-- A raw key does not depend on the salt, which only the tags are made with. -/
theorem samePages_of_bypass {c : SQLCipherCipher} {header : Option Salt} {g g' : Rng}
    {hmacCheck : Nat}
    (hbypass : bypassesDerivation .sqlcipher password = true)
    (htags : ¬ (PageCipher.sqlcipher c).ChecksTags hmacCheck) :
    SamePages d hmacCheck ((PageCipher.sqlcipher c).generateKey d password true none g).1
      ((PageCipher.sqlcipher c).generateKey d password false header g').1 := by
  -- the raw key of the password is the key of both ciphers, whatever the salt
  have hbypassed (rekey : Bool) (cipherSalt : Option Salt) (g : Rng) :
      (rawKey password rekey cipherSalt c.key g).1.bypass = true :=
    (bypass_rawKey password rekey cipherSalt c.key g).trans hbypass
  have hkey : (rawKey password false header c.key g').1.key =
      (rawKey password true none c.key g).1.key :=
    (key_extractRawKey (hbypassed true none g) _ _ _).2
  refine ⟨by rw [PageCipher.getReserved_generateKey, PageCipher.getReserved_generateKey],
    fun page bytes => ?_⟩
  show (c.generateKey d password false header g').1.decryptPage d page bytes _ hmacCheck =
    (c.generateKey d password true none g).1.decryptPage d page bytes _ hmacCheck
  apply SQLCipherCipher.decryptPage_congr
  · simp only [SQLCipherCipher.generateKey, hbypassed, if_true, hkey]
  · rfl
  · rfl
  · rfl
  · rfl
  · exact htags

-- ---------------------------------------------------------------------------
-- A file that opens
-- ---------------------------------------------------------------------------

/-- Whoever finds the page size and the salt reads all pages back. -/
theorem reopens_of_found (hp : Rekeying c k k₀ codec nPagesize nReserved password)
    (h : Found c k₀.hmacCheck.toNat nPagesize guess password) :
    Reopens k k₀ codec nPagesize nReserved guess password := by
  intro d g
  have hsize : (c.generateKey d password true none g).1.getPageSize = 0 ∨
      nPagesize = (c.generateKey d password true none g).1.getPageSize := by
    rw [PageCipher.getPageSize_generateKey]
    exact h.keepsPageSize
  -- the new key is accepted, as it asks for no other page size
  obtain ⟨written, hrekey, hwrites⟩ :=
    (rekeyV2_spec hp.allocate hp.password hp.atRest hp.reserved g).1 hsize
  refine ⟨written, hrekey, fun pages file => ?_⟩
  rw [hwrites.reservedWriteCipher, PageCipher.getReserved_generateKey]
  intro pageSize hdb hfile g'
  have hpages : PageSize pageSize := hp.pageSize.btreePageSize c.getReserved
  obtain ⟨h512, -⟩ := hpages.bounds
  obtain ⟨page, gp, -, hlen, hfirst, hheader⟩ := header_rewritten hpages hwrites hdb hfile
  -- opening the file comes to the size of the pages in it
  rw [attachKey_eq hp, (openedPageSize_eq_iff h.keepsPageSize).mpr h.pageSize]
  generalize readDatabaseHeader file.flatten = header at hheader
  refine ⟨_, rfl, ?_⟩
  apply reads_rewritten h512 hwrites hdb hfile
  by_cases hheaderKept : c.KeepsHeader
  · cases c with
    | sqlcipher c =>
      rcases h.salt hheaderKept with hbrings | ⟨hbypass, htags⟩
      · -- the file begins as a database does, and this is the salt of the password
        apply samePages_of_salt
        rintro salt hsalt
        obtain rfl : fileHeader = salt := (hbrings _ _).symm.trans (Option.some_inj.mp hsalt)
        rw [hheader]
        have h16 : 16 ≤ c.plaintextHeaderSize := by
          have hpos : 0 < c.plaintextHeaderSize := hheaderKept
          have hblocks : c.plaintextHeaderSize % 16 = 0 := hp.configured.1
          omega
        refine congrArg some (Eq.trans ?_ (hfirst rfl).1)
        have hsuits := ((PageCipher.sqlcipher c).generateKey d password true none g).1.suits_getReserved
        exact PageCipher.take_of_plaintextHeader d (c.generateKey d password true none g).1 gp
          (by omega) hsuits h16
      · exact samePages_of_bypass hbypass htags
    | _ => exact absurd hheaderKept id
  · -- the file begins with the salt
    apply samePages_of_salt
    intro salt hsalt
    rw [hheader]
    have hsalted : (c.generateKey d password true none g).1.Salted 1
        ((c.generateKey d password true none g).1.encryptPage d 1 page _ gp).2.1 :=
      PageCipher.salted_encryptPage d _ gp (by omega) (PageCipher.suits_getReserved _)
    exact congrArg some (salt_of_not_keepsHeader (PageCipher.configured_generateKey.mpr hp.configured)
      (fun hkept => hheaderKept (PageCipher.keepsHeader_generateKey.mp hkept)) hsalted hsalt)

-- ---------------------------------------------------------------------------
-- Nothing else opens it
-- ---------------------------------------------------------------------------

/-- A first page. -/
def firstPage (pageSize : Nat) : Bytes :=
  fileHeader ++ ([0x10, 0, 1, 1, 0, 0x40, 0x20, 0x20] ++ zeros (pageSize - 24))

theorem length_firstPage {pageSize : Nat} (h : 512 ≤ pageSize) :
    (firstPage pageSize).length = pageSize := by
  simp only [firstPage, zeros, List.length_append, length_fileHeader, List.length_replicate,
    List.length_cons, List.length_nil]
  omega

/-- It begins as the first page of a database does. -/
theorem startsDatabase_firstPage (page pageSize : Nat) :
    PageCipher.StartsDatabase page (firstPage pageSize) := by
  intro _
  refine ⟨List.take_left' length_fileHeader, ?_⟩
  have hslice : slice (firstPage pageSize) 16 8 = [0x10, 0, 1, 1, 0, 0x40, 0x20, 0x20] := by
    rw [firstPage, ← length_fileHeader, ← Nat.add_zero fileHeader.length, slice_append_right,
      slice_append_left (by decide)]
    rfl
  rw [hslice]
  decide

/-- A database of two pages, and its file. -/
theorem exists_rewritten (written : Codec) {pageSize : Nat} (hps : PageSize pageSize) {data : Bytes}
    (hlen : data.length = pageSize) (g : Rng) :
    Database pageSize [firstPage pageSize, data] ∧
      Rewritten d written pageSize [firstPage pageSize, data]
        [(written.store d (firstPage pageSize) 1 true g).1, (written.store d data 2 true g).1] := by
  obtain ⟨h512, -⟩ := hps.bounds
  refine ⟨⟨List.cons_ne_nil _ _, ?_, ?_⟩, ⟨rfl, ?_⟩⟩
  -- both pages have their size, the first one begins as a database does, and both are stored
  · rintro (_ | _ | i) page hpage
    · obtain rfl := Option.some_inj.mp hpage
      exact length_firstPage h512
    · obtain rfl := Option.some_inj.mp hpage
      exact hlen
    · cases hpage
  · rintro (_ | i) page hpage
    · obtain rfl := Option.some_inj.mp hpage
      exact startsDatabase_firstPage _ _
    · exact fun h => absurd h (Nat.succ_succ_ne_one i)
  · rintro (_ | _ | i) page hpage -
    · obtain rfl := Option.some_inj.mp hpage
      exact ⟨g, rfl⟩
    · obtain rfl := Option.some_inj.mp hpage
      exact ⟨g, rfl⟩
    · cases hpage

/-- A cipher that asks for another page size is refused. -/
theorem keepsPageSize_of_reopens (hp : Rekeying c k k₀ codec nPagesize nReserved password)
    (h : Reopens k k₀ codec nPagesize nReserved guess password) :
    c.getPageSize = 0 ∨ nPagesize = c.getPageSize := by
  obtain ⟨written, hrekey, -⟩ := h Digests.vendored default
  by_contra hsize
  have hkeeps : (c.generateKey Digests.vendored password true none default).1.getPageSize =
      c.getPageSize := PageCipher.getPageSize_generateKey _ _ _
  rw [← hkeeps] at hsize
  rw [(rekeyV2_spec hp.allocate hp.password hp.atRest hp.reserved default).2 hsize] at hrekey
  cases hrekey

/-- The second page of such a file is read with the key that the header of the file leads to. -/
theorem read_of_reopens (hp : Rekeying c k k₀ codec nPagesize nReserved password)
    (h : Reopens k k₀ codec nPagesize nReserved guess password) (d : Digests) {data : Bytes}
    (hlen : data.length = btreePageSize nPagesize c.getReserved) :
    let pageSize := btreePageSize nPagesize c.getReserved
    let w := (c.generateKey d password true none default).1
    openedPageSize c pageSize guess = pageSize ∧ ∃ header g g',
      header.map Subtype.val =
        some ((w.encryptPage d 1 (firstPage pageSize) w.getReserved g).2.1.take 16) ∧
      Restores (pageSize - c.getReserved) data
        ((c.generateKey d password false header g').1.decryptPage d 2
          (w.encryptPage d 2 data w.getReserved default).2.1 c.getReserved k₀.hmacCheck.toNat) := by
  intro pageSize w
  obtain ⟨h512, -⟩ := (hp.pageSize.btreePageSize c.getReserved).bounds
  have hsize : w.getPageSize = 0 ∨ nPagesize = w.getPageSize := by
    rw [PageCipher.getPageSize_generateKey]
    exact keepsPageSize_of_reopens hp h
  obtain ⟨written, hrekey, hwrites⟩ :=
    (rekeyV2_spec hp.allocate hp.password hp.atRest hp.reserved default).1 hsize
  obtain ⟨_, hrekey', hfiles⟩ := h d default
  obtain rfl := Option.some_inj.mp (hrekey.symm.trans hrekey')
  rw [hwrites.reservedWriteCipher, PageCipher.getReserved_generateKey] at hfiles
  obtain ⟨hdb, hfile⟩ := exists_rewritten (d := d) written
    (hp.pageSize.btreePageSize c.getReserved) hlen default
  obtain ⟨_, hattach, hreads⟩ := hfiles _ _ hdb hfile default
  rw [attachKey_eq hp] at hattach
  obtain rfl := Option.some_inj.mp hattach
  obtain ⟨page, g, hpage, -, -, hheader⟩ :=
    header_rewritten (hp.pageSize.btreePageSize c.getReserved) hwrites hdb hfile
  obtain rfl := Option.some_inj.mp hpage
  refine ⟨hreads.pageSize_eq, _, g, default, hheader, ?_⟩
  -- the second page, which the codec reads as its cipher does
  obtain ⟨bytes, hbytes, hrestores⟩ := hreads.restores (show [_, data][1]? = some data from rfl)
    (lt_mjPgno (hp.pageSize.btreePageSize c.getReserved)).ne
  obtain rfl := Option.some_inj.mp hbytes
  rw [← hwrites.store]
  generalize readDatabaseHeader _ = header at hrestores ⊢
  have hattached : (attach (openedPageSize c pageSize guess) k₀.hmacCheck.toNat k₀.walLegacy.toNat
      (c.generateKey d password false header default).1).reserved = c.getReserved :=
    PageCipher.getReserved_generateKey _ _ _
  have hdecrypts := restores_load_attach.mp hrestores
  rw [PageCipher.getReserved_generateKey, hattached] at hdecrypts
  exact hdecrypts

/-- Digests whose keys say whether they were made with this salt, and no more. -/
def saltDigests (salt : Bytes) : Digests :=
  { Digests.vendored with
    hmac := fun algorithm key _ => List.replicate
      (if algorithm = 0 then 20 else if algorithm = 1 then 32 else 64) (key.headD 0)
    pbkdf2 := fun _ _ s _ => List.replicate 32 (if s = salt then 0 else 1)
    length_hmac := fun _ _ _ => List.length_replicate
    length_pbkdf2 := fun _ _ _ _ => List.length_replicate }

/-- The new key has another salt than a database begins with, unless the password brings that. -/
theorem salt_ne_fileHeader (h : ¬ BringsSalt password fileHeader) (key : Bytes) :
    (rawKey password true none key default).1.salt ≠ fileHeader := by
  have hdrawn : ((default : Rng).next 16).1 ≠ fileHeader := by decide +kernel
  rcases salt_extractRawKey password 32 16 with hkeeps | ⟨own, hown⟩
  · show (extractRawKey password false 32 16 key ((default : Rng).next 16).1).salt ≠ _
    rw [hkeeps]
    exact hdrawn
  · show (extractRawKey password false 32 16 key ((default : Rng).next 16).1).salt ≠ _
    rw [hown]
    rintro rfl
    exact h hown

/-- A connection that opens the file takes what the file begins with for the salt. -/
theorem salt_rawKey {header : Option Salt} {salt : Bytes} (h : header.map Subtype.val = some salt)
    (key : Bytes) (g : Rng) : (rawKey password false header key g).1.salt = salt := by
  obtain ⟨given, rfl, rfl⟩ := Option.map_eq_some_iff.mp h
  exact salt_extractRawKey_keyOnly password 32 16 key given

/-- What a file with a header in plain text has to fulfil on its second page: the first block
comes back, and the tag is the one that the new connection computes. -/
theorem second_page {c : SQLCipherCipher}
    (hp : Rekeying (.sqlcipher c) k k₀ codec nPagesize nReserved password)
    (hkept : 0 < c.plaintextHeaderSize) (h : Reopens k k₀ codec nPagesize nReserved guess password)
    (d : Digests)
    {data : Bytes} (hlen : data.length = btreePageSize nPagesize c.getReserved) :
    let iv := ((default : Rng).next 128).1.take 16
    let w := (c.generateKey d password true none default).1
    ∃ header g', header.map Subtype.val = some fileHeader ∧
      let w' := (c.generateKey d password false header g').1
      data.take 16 = xor ((Rijndael.blockCipher 8 w'.key).decrypt
        ((Rijndael.blockCipher 8 w.key).encrypt (xor (data.take 16) iv))) iv ∧
      (c.hmacUse = 1 → k₀.hmacCheck.toNat ≠ 0 → ∃ part, w'.hmac d 2 part = w.hmac d 2 part) := by
  intro iv w
  obtain ⟨-, header, g, g', hheader, hrestores⟩ := read_of_reopens hp h d hlen
  obtain ⟨h512, -⟩ := (hp.pageSize.btreePageSize c.getReserved).bounds
  have h16 : 16 ≤ c.plaintextHeaderSize := by
    have hblocks : c.plaintextHeaderSize % 16 = 0 := hp.configured.1
    omega
  have hlegacy : c.legacy ≠ 0 := by
    have hversion := c.legacy_of_plaintextHeader hkept
    omega
  have hr := c.getReserved_eq
  have hwhole := (hp.pageSize.btreePageSize c.getReserved).mod_sixteen
  -- the file begins as the database does
  have hfirst : ((PageCipher.sqlcipher w).encryptPage d 1
      (firstPage (btreePageSize nPagesize c.getReserved)) w.getReserved g).2.1.take 16 = fileHeader := by
    refine (PageCipher.take_of_plaintextHeader d w g ?_ ?_ h16).trans (List.take_left' length_fileHeader)
    · rw [length_firstPage h512]
      exact h512
    · exact (PageCipher.sqlcipher w).suits_getReserved
  refine ⟨header, g', hheader.trans (congrArg some hfirst), ?_⟩
  intro w'
  -- the second page as it is written and as it is read
  obtain ⟨n, hn⟩ : ∃ n, data.length = n + c.getReserved := ⟨data.length - c.getReserved, by omega⟩
  obtain ⟨helen, heiv, hefirst, hetag⟩ := w.encrypted_page d (show 2 ≠ 1 by decide) hlegacy hn
    (by omega) (by omega) default
  obtain ⟨hdfirst, hdtag⟩ := w'.decrypted_page d (show 2 ≠ 1 by decide) hlegacy (helen.trans hn)
    (by omega) (by omega) hrestores.rc
  have hread : Restores (btreePageSize nPagesize c.getReserved - c.getReserved) data
      (w'.decryptPage d 2 (w.encryptPage d 2 data w.getReserved default).2.1 w'.getReserved
        k₀.hmacCheck.toNat) := hrestores
  generalize (w.encryptPage d 2 data w.getReserved default).2.1 = e at *
  refine ⟨?_, fun huse hcheck => ⟨slice e 0 (n + 16), ?_⟩⟩
  · have hback : data.take 16 =
        (w'.decryptPage d 2 e w'.getReserved k₀.hmacCheck.toNat).2.take 16 := by
      rw [← slice_zero_eq_take, ← slice_zero_eq_take]
      exact (slice_eq_of_take_eq hread.take (by omega)).symm
    rw [← hefirst, show iv = slice e n 16 from heiv.symm, hback]
    exact hdfirst
  · have hlength : (w'.hmac d 2 (slice e 0 (n + 16))).length =
        (w.hmac d 2 (slice e 0 (n + 16))).length := by
      rw [SQLCipherCipher.hmac, SQLCipherCipher.hmac, d.length_hmac, d.length_hmac]
      rfl
    rw [← hdtag huse hcheck, hlength, hetag huse]

/-- A block of zeros that is encrypted under one key and decrypted under another. -/
theorem decrypt_encrypt_ne : let iv := ((default : Rng).next 128).1.take 16
    zeros 16 ≠ xor ((Rijndael.blockCipher 8 (List.replicate 32 0)).decrypt
      ((Rijndael.blockCipher 8 (List.replicate 32 1)).encrypt (xor (zeros 16) iv))) iv := by
  decide +kernel

/-- Without the salt either the key or the tags come out wrong. -/
theorem knowsSalt_of_reopens {c : SQLCipherCipher}
    (hp : Rekeying (.sqlcipher c) k k₀ codec nPagesize nReserved password)
    (hkept : 0 < c.plaintextHeaderSize) (h : Reopens k k₀ codec nPagesize nReserved guess password) :
    KnowsSalt (.sqlcipher c) k₀.hmacCheck.toNat password := by
  by_contra hnot
  obtain ⟨hbrings, hknown⟩ := not_or.mp hnot
  have hsalt := salt_ne_fileHeader hbrings c.key
  obtain ⟨h512, -⟩ := (hp.pageSize.btreePageSize c.getReserved).bounds
  have hlen : (zeros (btreePageSize nPagesize c.getReserved)).length =
      btreePageSize nPagesize c.getReserved := List.length_replicate
  -- the page is all zeros, and so is its first block
  have hblock : (zeros (btreePageSize nPagesize c.getReserved)).take 16 = zeros 16 := by
    rw [zeros, List.take_replicate, Nat.min_eq_left (by omega), zeros]
  by_cases hbypass : bypassesDerivation .sqlcipher password = true
  · -- the key is the same, but not the key of the tags
    obtain ⟨huse, hcheck⟩ : c.hmacUse = 1 ∧ k₀.hmacCheck.toNat ≠ 0 :=
      not_not.mp fun htags => hknown ⟨hbypass, htags⟩
    let mask (salt : Bytes) : Bytes := salt.map (· ^^^ BitVec.ofNat 8 c.hmacSaltMask)
    have hmask : Function.Injective mask :=
      List.map_injective_iff.mpr fun a b hab => (BitVec.xor_left_inj _).mp hab
    obtain ⟨header, g', hheader, -, htag⟩ :=
      second_page hp hkept h (saltDigests (mask fileHeader)) hlen
    obtain ⟨part, hpart⟩ := htag huse hcheck
    have hderived (cipherSalt : Option Salt) (rekey : Bool) (g : Rng) :
        (c.generateKey (saltDigests (mask fileHeader)) password rekey cipherSalt g).1.hmacKey =
          List.replicate 32 (if mask (rawKey password rekey cipherSalt c.key g).1.salt =
            mask fileHeader then 0 else 1) := if_pos (by omega)
    have hfirst (cipherSalt : Option Salt) (rekey : Bool) (g : Rng) :
        ((c.generateKey (saltDigests (mask fileHeader)) password rekey cipherSalt g).1.hmac
            (saltDigests (mask fileHeader)) 2 part).head? =
          some (if mask (rawKey password rekey cipherSalt c.key g).1.salt = mask fileHeader
            then 0 else 1) := by
      show (List.replicate _ ((SQLCipherCipher.generateKey _ c password rekey cipherSalt
        g).1.hmacKey.headD 0)).head? = _
      rw [hderived]
      split_ifs <;> rfl
    have hsame := congrArg List.head? hpart
    rw [hfirst, hfirst, salt_rawKey hheader, if_pos rfl, if_neg fun heq => hsalt (hmask heq)] at hsame
    cases hsame
  · -- the key is derived with the salt
    obtain ⟨header, g', hheader, hfirst, -⟩ :=
      second_page hp hkept h (saltDigests fileHeader) hlen
    have hderived (cipherSalt : Option Salt) (rekey : Bool) (g : Rng) :
        (c.generateKey (saltDigests fileHeader) password rekey cipherSalt g).1.key =
          List.replicate 32 (if (rawKey password rekey cipherSalt c.key g).1.salt = fileHeader
            then 0 else 1) :=
      PageCipher.key_generateKey (c := .sqlcipher c) (eq_false_of_ne_true hbypass) rekey cipherSalt g
    rw [hderived, hderived, salt_rawKey hheader, if_pos rfl, if_neg hsalt, hblock] at hfirst
    exact decrypt_encrypt_ne hfirst

/-- What a rekeying writes is read by a new connection exactly if whoever has the password finds
the page size and the salt. -/
theorem reopens_iff (hp : Rekeying c k k₀ codec nPagesize nReserved password) :
    Reopens k k₀ codec nPagesize nReserved guess password ↔
      Found c k₀.hmacCheck.toNat nPagesize guess password := by
  refine ⟨fun h => ?_, reopens_of_found hp⟩
  have hsize := keepsPageSize_of_reopens hp h
  refine ⟨hsize, ?_, fun hkept => ?_⟩
  · have hread := read_of_reopens hp h Digests.vendored
      (show (zeros (btreePageSize nPagesize c.getReserved)).length = _ from List.length_replicate)
    exact (openedPageSize_eq_iff hsize).mp hread.1
  · cases c with
    | sqlcipher c => exact knowsSalt_of_reopens hp hkept h
    | _ => exact absurd hkept id

end Codec

end Native

end SqliteMc
