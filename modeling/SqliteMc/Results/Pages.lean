import SqliteMc.Model.PageHeader

/-!
# Authentic pages

Which pages the ciphers with a tag accept.

* `PageCipher.accepts_iff_encrypted` — a page is accepted exactly when it is the encryption of a
  page, with the random bytes it carries.
-/

namespace SqliteMc

namespace Native

open Buffer ChaCha20

/-! ## Tags -/

/-- Two tags are equal when no byte of theirs differs. -/
theorem poly1305Tagcmp_eq_zero_iff {tag1 tag2 : Bytes} (h1 : tag1.length = 16)
    (h2 : tag2.length = 16) : poly1305Tagcmp tag1 tag2 = 0 ↔ tag1 = tag2 := by
  -- the differences are collected in one byte, where none of them can cancel another
  have hfold (l : List Nat) (a : Octet) :
      l.foldl (fun d i => d ||| (byte tag1 i ^^^ byte tag2 i)) a = 0#8 ↔
        a = 0#8 ∧ ∀ i ∈ l, byte tag1 i = byte tag2 i := by
    induction l generalizing a with
    | nil => simp
    | cons i l ih =>
      rw [List.foldl_cons, ih, BitVec.or_eq_zero_iff, List.forall_mem_cons, BitVec.xor_eq_zero_iff,
        and_assoc]
  rw [show (0 : Octet) = 0#8 from rfl, poly1305Tagcmp, hfold]
  constructor
  · rintro ⟨-, hbytes⟩
    apply List.ext_getElem?
    intro i
    -- both tags have sixteen bytes, and all of these are compared
    rw [getElem?_eq_byte, getElem?_eq_byte, h1, h2]
    by_cases hi : i < 16
    · rw [if_pos hi, if_pos hi, hbytes i (List.mem_range.mpr hi)]
    · rw [if_neg hi, if_neg hi]
  · rintro rfl
    exact ⟨rfl, fun _ _ => rfl⟩

namespace ChaCha20Cipher

variable {d : Digests} (c : ChaCha20Cipher) {page reserved hmacCheck : Nat} {e : Bytes} {g : Rng}

/-- A page that is accepted is encrypted again to the same page, with the nonce it carries. -/
theorem encryptPage_decryptPage (h512 : 512 ≤ e.length) (hmis : ¬ c.mismatch reserved)
    (hpos : 0 < c.nReserved reserved) (hcheck : hmacCheck ≠ 0)
    (hsalt : page = 1 → c.usePlaintextHeader = false → e.take 16 = c.salt)
    (hg : (g.next 16).1 = slice e (e.length - 32) 16)
    (hok : (c.decryptPage d page e reserved hmacCheck).1 = .ok) :
    (c.decryptPage d page e reserved hmacCheck).2.length = e.length ∧
      (page = 1 → c.usePlaintextHeader = false →
        (c.decryptPage d page e reserved hmacCheck).2.take 16 = fileHeader) ∧
      c.encryptPage d page (c.decryptPage d page e reserved hmacCheck).2 reserved g =
        (.ok, e, (g.next 16).2) := by
  have ho := c.offset_le page
  have hr : c.nReserved reserved = 32 := by
    have := c.nReserved_eq reserved
    omega
  have hsaltlen := c.length_salt
  generalize hn : e.length - 32 = n at hg
  generalize hnonce : slice e n 16 = nonce at hg
  have hcrypt (x : Bytes) (hx : x.length = n - c.offset page) :
      (c.crypt nonce page x).length = n - c.offset page := by rw [length_crypt, hx]
  generalize hdata : putFirst page c.usePlaintextHeader fileHeader
    (inPlace (c.crypt nonce page) (c.offset page) n e) = data
  -- the tag is correct, so the page is decrypted
  obtain ⟨htag, hdec⟩ : slice e (n + 16) 16 = poly1305 (slice e 0 (n + 16)) (c.otk nonce page) ∧
      c.decryptPage d page e reserved hmacCheck = (.ok, data) := by
    unfold decryptPage at hok ⊢
    rw [if_neg hmis, if_pos hpos, hr, hn, hnonce] at hok ⊢
    dsimp only at hok ⊢
    split at hok
    · exact absurd hok (by unfold badPage; split <;> simp)
    · rename_i hcmp
      rw [if_neg hcmp, hdata]
      refine ⟨?_, rfl⟩
      have hzero : poly1305Tagcmp (slice e (n + 16) 16)
          (poly1305 (slice e 0 (n + 16)) (c.otk nonce page)) = 0 := by
        by_contra hne
        exact hcmp ⟨hcheck, hne⟩
      exact (poly1305Tagcmp_eq_zero_iff (length_slice (by omega)) (length_poly1305 _ _)).mp hzero
  rw [hdec]
  have hopen := length_inPlace hcrypt (b := e) (by omega) (by omega)
  have hlen : data.length = e.length := by
    rw [← hdata, length_putFirst (by rw [length_fileHeader]; omega), hopen]
  refine ⟨hlen, fun hpage hplain => ?_, ?_⟩
  · rw [← hdata, putFirst, if_pos ⟨hpage, hplain⟩, ← slice_zero_eq_take]
    exact slice_patch_of_length (Nat.zero_le _) length_fileHeader
  -- what lies behind the part is not changed
  have htail {offset count : Nat} (hle : n ≤ offset) :
      slice data offset count = slice e offset count := by
    rw [← hdata, slice_putFirst (by rw [length_fileHeader]; omega),
      slice_inPlace_of_disjoint hcrypt (by omega) (by omega) (Or.inr hle)]
  have hkeep : patch data n nonce = data := by
    rw [← hnonce, ← htail (Nat.le_refl n)]
    exact patch_slice_self (by omega)
  have hclosed := length_inPlace hcrypt (b := data) (by omega) (by omega)
  have hback : putFirst page c.usePlaintextHeader c.salt
      (inPlace (c.crypt nonce page) (c.offset page) n data) = e := by
    have hput : (putFirst page c.usePlaintextHeader c.salt
        (inPlace (c.crypt nonce page) (c.offset page) n data)).length = e.length := by
      rw [length_putFirst (by omega), hclosed, hlen]
    refine eq_of_take_of_slice hput (k := n) (by omega) ?_ ?_
    · exact c.take_crypt_crypt (by omega) (by omega) hlen length_fileHeader hsalt (by rw [hdata])
    · rw [hput, slice_putFirst (by omega),
        slice_inPlace_of_disjoint hcrypt (by omega) (by omega) (Or.inr (Nat.le_refl n)),
        htail (Nat.le_refl n)]
  unfold encryptPage
  rw [if_neg hmis, if_pos hpos, hr, hlen, hn, hg]
  dsimp only
  rw [hkeep, hback, ← htag, patch_slice_self (by omega)]

end ChaCha20Cipher

namespace SQLCipherCipher

variable {d : Digests} (c : SQLCipherCipher) {page reserved hmacCheck : Nat} {e : Bytes} {g : Rng}

/-- The bytes of a page that were drawn at random: the initial vector and what is behind the
tag. -/
def Carries (d : Digests) (c : SQLCipherCipher) (reserved : Nat) (e : Bytes) (g : Rng) : Prop :=
  let n := e.length - c.nReserved reserved
  let tag := (d.hmac c.hmacAlgorithm c.hmacKey []).length
  slice e n 16 = (g.next 128).1.take 16 ∧
    slice e (n + 16 + tag) (c.nReserved reserved - 16 - tag) =
      slice (g.next 128).1 (16 + tag) (c.nReserved reserved - 16 - tag)

/-- A page that is accepted is encrypted again to the same page, with the random bytes it
carries. -/
theorem encryptPage_decryptPage (h512 : 512 ≤ e.length) (hmis : ¬ c.mismatch reserved)
    (huse : c.hmacUse = 1) (hpos : 0 < c.nReserved reserved) (hcheck : hmacCheck ≠ 0)
    (hsalt : page = 1 → c.usePlaintextHeader = false → e.take 16 = c.salt)
    (hg : c.Carries d reserved e g)
    (hok : (c.decryptPage d page e reserved hmacCheck).1 = .ok) :
    (c.decryptPage d page e reserved hmacCheck).2.length = e.length ∧
      (page = 1 → c.usePlaintextHeader = false →
        (c.decryptPage d page e reserved hmacCheck).2.take 16 = fileHeader) ∧
      c.encryptPage d page (c.decryptPage d page e reserved hmacCheck).2 reserved g =
        (.ok, e, (g.next 128).2) := by
  have ho := c.offset_le page
  have hr := c.nReserved_eq reserved
  have hsaltlen := c.length_salt
  have htaglen (part : Bytes) : (c.hmac d page part).length =
      (d.hmac c.hmacAlgorithm c.hmacKey []).length := by
    rw [hmac, d.length_hmac, d.length_hmac]
  have hfits : 16 + (c.hmac d page []).length ≤ c.nReserved reserved :=
    c.length_hmac_le huse hpos []
  rw [htaglen] at hfits
  obtain ⟨hiv, hrest⟩ := hg
  generalize hL : (d.hmac c.hmacAlgorithm c.hmacKey []).length = L at *
  generalize hr' : c.nReserved reserved = r at *
  generalize hn : e.length - r = n at *
  generalize hv : (g.next 128).1 = v at *
  have hvlen : v.length = 128 := by rw [← hv, Rng.length_next]
  have h16 : (v.take 16).length = 16 := by
    rw [List.length_take]
    omega
  have henc (x : Bytes) (hx : x.length = n - c.offset page) :
      (Rijndael.blockEncrypt 8 c.key (v.take 16) x).length = n - c.offset page :=
    c.length_encryptPart h16 (by omega) hx
  have hdecl (x : Bytes) (hx : x.length = n - c.offset page) :
      (Rijndael.blockDecrypt 8 c.key (v.take 16) x).length = n - c.offset page :=
    c.length_decryptPart h16 (by omega) hx
  generalize hdata : putFirst page c.usePlaintextHeader fileHeader
    (inPlace (Rijndael.blockDecrypt 8 c.key (v.take 16)) (c.offset page) n e) = data
  have hopen := length_inPlace hdecl (b := e) (by omega) (by omega)
  -- the tag is correct, so the page is decrypted
  obtain ⟨htag, hdec⟩ : slice e (n + 16) L =
        c.hmac d page (slice e (c.offset page) (n + 16 - c.offset page)) ∧
      c.decryptPage d page e reserved hmacCheck = (.ok, data) := by
    unfold decryptPage at hok ⊢
    rw [if_neg hmis] at hok ⊢
    dsimp only at hok ⊢
    rw [hr', hn, htaglen, if_pos hpos] at hok ⊢
    split at hok
    · exact absurd hok (by unfold badPage; split <;> simp)
    · rename_i hcmp
      rw [if_neg hcmp, if_pos hpos]
      have hsame : slice e (n + 16) L =
          c.hmac d page (slice e (c.offset page) (n + 16 - c.offset page)) := by
        by_contra hne
        exact hcmp ⟨huse, hpos, hcheck, hne⟩
      refine ⟨hsame, ?_⟩
      have htake : (slice e n r).take 16 = v.take 16 := by
        rw [slice, List.take_take, Nat.min_eq_left (by omega)]
        exact hiv
      have hkeep : patch (inPlace (Rijndael.blockDecrypt 8 c.key (v.take 16)) (c.offset page) n e) n
          (slice e n r) = inPlace (Rijndael.blockDecrypt 8 c.key (v.take 16)) (c.offset page) n e := by
        have hbehind : slice (inPlace (Rijndael.blockDecrypt 8 c.key (v.take 16)) (c.offset page)
            n e) n r = slice e n r :=
          slice_inPlace_of_disjoint hdecl (by omega) (by omega) (Or.inr (Nat.le_refl n))
        rw [← hbehind]
        exact patch_slice_self (by omega)
      rw [htake, hkeep, hdata]
  rw [hdec]
  have hlen : data.length = e.length := by
    rw [← hdata, length_putFirst (by rw [length_fileHeader]; omega), hopen]
  refine ⟨hlen, fun hpage hplain => ?_, ?_⟩
  -- the header is on the first page
  · rw [← hdata, putFirst, if_pos ⟨hpage, hplain⟩, ← slice_zero_eq_take]
    exact slice_patch_of_length (Nat.zero_le _) length_fileHeader
  -- the part is encrypted to what it was
  have hback := take_putFirst hdecl henc (by omega) (by omega) (by omega) hlen length_fileHeader
    hsalt (by rw [hdata]) fun x y j hx hy hagree hsalted => by
      have hsame : y = Rijndael.blockDecrypt 8 c.key (v.take 16) x := by
        apply List.ext_getElem?
        intro i
        apply hagree i
        intro hpage hplain
        subst hpage
        have := c.le_offset hplain
        omega
      have hround : Rijndael.blockEncrypt 8 c.key (v.take 16)
          (Rijndael.blockDecrypt 8 c.key (v.take 16) x) = x :=
        comp_eq_of_length henc (fun x hx => Cbc.decrypt_encrypt (by decide) h16 (by omega)) hx
      rw [hsame, hround]
  -- encrypted again, with the vector that was drawn
  have hclosed := length_inPlace henc (b := data) (by omega) (by omega)
  unfold encryptPage
  rw [if_neg hmis, hr', hlen, hn]
  dsimp only
  rw [if_pos hpos, if_pos hpos, if_pos hpos, hv, if_pos ⟨huse, hpos⟩]
  generalize hbody : inPlace (Rijndael.blockEncrypt 8 c.key (v.take 16)) (c.offset page) n data =
    body at hback hclosed
  have hwith : (patch body n (v.take r)).length = e.length := by
    rw [length_patch (by rw [List.length_take]; omega), hclosed, hlen]
  generalize hs : putFirst page c.usePlaintextHeader c.salt (patch body n (v.take r)) = s
  have hslen : s.length = e.length := by rw [← hs, length_putFirst (by omega), hwith]
  -- up to the tag the page is as it was
  have hlow : s.take (n + 16) = e.take (n + 16) := by
    apply take_eq_take_of_slice (Nat.le_add_right n 16)
    · rw [← hback, ← hs]
      apply take_putFirst_congr (take_patch_of_le (by omega) (Nat.le_refl n))
      rw [hwith, hclosed, hlen]
    · have hself : slice (patch body n (v.take r)) (n + 0) 16 = slice (v.take r) 0 16 :=
        slice_patch_inside (by omega) (by rw [List.length_take]; omega)
      rw [Nat.add_zero, slice_zero_eq_take, List.take_take, Nat.min_eq_left (by omega)] at hself
      rw [Nat.add_sub_cancel_left, ← hs, slice_putFirst (by omega), hself, hiv]
  -- so the tag is computed over the same bytes
  have hmac : c.hmac d page (slice s (c.offset page) (n + 16 - c.offset page)) =
      slice e (n + 16) L := by
    rw [slice_eq_of_take_eq hlow (by omega), htag]
  rw [hmac]
  have htagged : (slice e (n + 16) L).length = L := length_slice (by omega)
  have hpatched : (patch s (n + 16) (slice e (n + 16) L)).length = e.length := by
    rw [length_patch (by omega), hslen]
  -- the tag and what follows it are put back as they were
  have hsame : patch s (n + 16) (slice e (n + 16) L) = e := by
    refine eq_of_take_of_slice hpatched (k := n + 16 + L) (by omega) ?_ ?_
    · apply take_eq_take_of_slice (n := n + 16) (by omega)
      · rw [take_patch_of_le (by omega) (Nat.le_refl _), hlow]
      · rw [Nat.add_sub_cancel_left, slice_patch_of_length (by omega) htagged]
    · rw [hpatched, show e.length - (n + 16 + L) = r - 16 - L by omega, hrest,
        slice_patch_of_disjoint (by omega) (Or.inr (by omega)), ← hs, slice_putFirst (by omega),
        Nat.add_assoc, slice_patch_inside (by omega) (by rw [List.length_take]; omega)]
      exact slice_eq_of_take_eq (List.take_take.trans (by rw [min_self])) (by omega)
  rw [hsame]

end SQLCipherCipher

namespace Ascon128Cipher

variable {d : Digests} (c : Ascon128Cipher) {page reserved hmacCheck : Nat} {e : Bytes} {g : Rng}

/-- A page that is accepted is encrypted again to the same page, with the nonce it carries. -/
theorem encryptPage_decryptPage (h512 : 512 ≤ e.length) (hle : nReserved reserved ≤ reserved)
    (hpos : 0 < nReserved reserved) (hcheck : hmacCheck ≠ 0)
    (hsalt : page = 1 → c.usePlaintextHeader = false → e.take 16 = c.salt)
    (hg : (g.next 16).1 = slice e (e.length - 16) 16)
    (hok : (c.decryptPage d page e reserved hmacCheck).1 = .ok) :
    (c.decryptPage d page e reserved hmacCheck).2.length = e.length ∧
      (page = 1 → c.usePlaintextHeader = false →
        (c.decryptPage d page e reserved hmacCheck).2.take 16 = fileHeader) ∧
      c.encryptPage d page (c.decryptPage d page e reserved hmacCheck).2 reserved g =
        (.ok, e, (g.next 16).2) := by
  have ho := c.offset_le page
  -- with room for a tag, 32 bytes are reserved
  have hr : nReserved reserved = 32 := by
    have := nReserved_eq reserved
    omega
  have hsaltlen := c.length_salt
  generalize hn : e.length - 32 = n
  rw [show e.length - 16 = n + 16 by omega] at hg
  generalize hnonce : slice e (n + 16) 16 = nonce at hg
  have hnoncelen : nonce.length = 16 := by rw [← hnonce, length_slice (by omega)]
  generalize hm : (Ascon.aeadDecrypt (slice e (c.offset page) (n - c.offset page)) []
    (slice e n 16) nonce (c.otk nonce page)).1 = m
  have hpart : (slice e (c.offset page) (n - c.offset page)).length = n - c.offset page :=
    length_slice (by omega)
  have hmlen : m.length = n - c.offset page := by rw [← hm, Ascon.length_aeadDecrypt, hpart]
  generalize hdata : putFirst page c.usePlaintextHeader fileHeader (patch e (c.offset page) m) = data
  -- the tag is correct, so the part is the one that was encrypted
  obtain ⟨htext, hdec⟩ : Ascon.aeadEncrypt m [] nonce (c.otk nonce page) =
        (slice e (c.offset page) (n - c.offset page), slice e n 16) ∧
      c.decryptPage d page e reserved hmacCheck = (.ok, data) := by
    unfold decryptPage at hok ⊢
    rw [if_neg (by omega), if_pos hpos, hr, hn, hnonce] at hok ⊢
    dsimp only at hok ⊢
    split at hok
    · exact absurd hok (by unfold badPage; split <;> simp)
    · rename_i hcmp
      rw [if_neg hcmp, hm, hdata]
      have hzero : (Ascon.aeadDecrypt (slice e (c.offset page) (n - c.offset page)) []
          (slice e n 16) nonce (c.otk nonce page)).2 = 0 := by
        by_contra hne
        exact hcmp ⟨hcheck, hne⟩
      exact ⟨((Ascon.aeadDecrypt_eq_zero_iff [] nonce _ (length_slice (by omega))).mp
        (Prod.ext hm hzero)).2, rfl⟩
  rw [hdec]
  have hopen : (patch e (c.offset page) m).length = e.length := length_patch (by omega)
  have hlen : data.length = e.length := by
    rw [← hdata, length_putFirst (by rw [length_fileHeader]; omega), hopen]
  refine ⟨hlen, fun hpage hplain => ?_, ?_⟩
  · rw [← hdata, putFirst, if_pos ⟨hpage, hplain⟩, ← slice_zero_eq_take]
    exact slice_patch_of_length (Nat.zero_le _) length_fileHeader
  -- the nonce is already behind the part
  have hkeep : patch data (n + 16) nonce = data := by
    have hbehind : slice data (n + 16) 16 = nonce := by
      rw [← hdata, slice_putFirst (by rw [length_fileHeader]; omega),
        slice_patch_of_disjoint (by omega) (Or.inr (by omega)), hnonce]
    rw [← hbehind]
    exact patch_slice_self (by omega)
  have hplain : slice data (c.offset page) (n - c.offset page) = m := by
    rw [← hdata, slice_putFirst_of_salted, slice_patch_of_length (by omega) hmlen]
    intro hpage _
    subst hpage
    have := c.le_offset
    rw [length_fileHeader]
    omega
  -- the same nonce gives the same part and the same tag
  unfold encryptPage
  rw [if_neg (by omega), if_pos hpos, hr, hlen, hn, hg]
  dsimp only
  rw [hkeep, hplain, htext]
  dsimp only
  have htag : (slice e n 16).length = 16 := length_slice (by omega)
  have hsame : patch (patch e (c.offset page) m) (c.offset page)
      (slice e (c.offset page) (n - c.offset page)) = e := by
    rw [patch_patch_self (by omega) (by omega), patch_slice_self (by omega)]
  have hback : putFirst page c.usePlaintextHeader c.salt (patch (patch data (c.offset page)
      (slice e (c.offset page) (n - c.offset page))) n (slice e n 16)) = e := by
    by_cases hcase : page = 1 ∧ c.usePlaintextHeader = false
    · -- the header gives way to the salt again
      have hoff : 24 ≤ c.offset page := hcase.1 ▸ c.le_offset
      have hfirst : slice e 0 c.salt.length = c.salt := by
        rw [slice_zero_eq_take, hsaltlen]
        exact hsalt hcase.1 hcase.2
      have hheader := length_fileHeader
      rw [← hdata, putFirst, putFirst, if_pos hcase, if_pos hcase,
        patch_comm (b := patch e (c.offset page) m) (by omega) (by omega) (Or.inl (by omega)), hsame,
        patch_comm (b := e) (by omega) (by omega) (Or.inl (by omega)), patch_slice_self (by omega),
        patch_patch_self (by omega) (by omega), ← hfirst, patch_slice_self (by omega)]
    · rw [← hdata, putFirst, putFirst, if_neg hcase, if_neg hcase, hsame, patch_slice_self (by omega)]
  rw [hback]

end Ascon128Cipher

/-! ## The ciphers with a tag -/

namespace PageCipher

/-- Pages with these reserved bytes have a tag. -/
def Authenticates (c : PageCipher) (reserved : Nat) : Prop :=
  match c with
  | chacha20 c => 0 < c.nReserved reserved
  | sqlcipher c => c.hmacUse = 1 ∧ 0 < c.nReserved reserved
  | ascon128 _ => 0 < Ascon128Cipher.nReserved reserved
  | _ => False

/-- The random bytes in a page are those that the generator returns next. -/
def Carries (d : Digests) (c : PageCipher) (reserved : Nat) (e : Bytes) (g : Rng) : Prop :=
  match c with
  | chacha20 _ => (g.next 16).1 = slice e (e.length - 32) 16
  | sqlcipher c => c.Carries d reserved e g
  | ascon128 _ => (g.next 16).1 = slice e (e.length - 16) 16
  | _ => True

/-- A page that is accepted is encrypted again to the same page. -/
theorem encryptPage_decryptPage {d : Digests} {c : PageCipher} {page reserved hmacCheck : Nat}
    {e : Bytes} {g : Rng} (h512 : 512 ≤ e.length) (hsuits : c.Suits reserved)
    (hauth : c.Authenticates reserved) (hcheck : hmacCheck ≠ 0) (hg : c.Carries d reserved e g)
    (hsalt : c.Salted page e) (hok : (c.decryptPage d page e reserved hmacCheck).1 = .ok) :
    (c.decryptPage d page e reserved hmacCheck).2.length = e.length ∧
      c.StartsWith page fileHeader (c.decryptPage d page e reserved hmacCheck).2 ∧
      ∃ g', c.encryptPage d page (c.decryptPage d page e reserved hmacCheck).2 reserved g =
        (.ok, e, g') := by
  -- only the ciphers with a tag authenticate; the others have nothing to say here
  cases c with
  | chacha20 c =>
    obtain ⟨hlen, hfirst, henc⟩ := c.encryptPage_decryptPage h512 hsuits hauth hcheck (hsalt c.salt rfl)
      hg hok
    exact ⟨hlen, hfirst, _, henc⟩
  | sqlcipher c =>
    obtain ⟨hlen, hfirst, henc⟩ := c.encryptPage_decryptPage h512 hsuits hauth.1 hauth.2 hcheck
      (hsalt c.salt rfl) hg hok
    exact ⟨hlen, hfirst, _, henc⟩
  | ascon128 c =>
    obtain ⟨hlen, hfirst, henc⟩ := c.encryptPage_decryptPage h512 hsuits hauth hcheck (hsalt c.salt rfl)
      hg hok
    exact ⟨hlen, hfirst, _, henc⟩
  | aes128 c => exact hauth.elim
  | aes256 c => exact hauth.elim
  | rc4 c => exact hauth.elim

/-- A page that is encrypted with its header is decrypted with the result `.ok`. -/
theorem decryptPage_of_encryptPage {d : Digests} {c : PageCipher} {page reserved : Nat}
    {data e : Bytes} {g g' : Rng} (hmacCheck : Nat) (h512 : 512 ≤ data.length)
    (hsuits : c.Suits reserved) (hfirst : c.StartsWith page fileHeader data)
    (hauth : c.Authenticates reserved) (h : c.encryptPage d page data reserved g = (.ok, e, g')) :
    (c.decryptPage d page e reserved hmacCheck).1 = .ok := by
  have he : e = (c.encryptPage d page data reserved g).2.1 := by rw [h]
  rw [he]
  cases c with
  | chacha20 c => exact (c.decryptPage_encryptPage h512 hsuits hfirst).restores.rc
  | sqlcipher c => exact (c.decryptPage_encryptPage h512 hsuits hfirst).restores.rc
  | ascon128 c => exact (c.decryptPage_encryptPage h512 hsuits hfirst).restores.rc
  | aes128 c => exact hauth.elim
  | aes256 c => exact hauth.elim
  | rc4 c => exact hauth.elim

/--
**Only encrypted pages are accepted.** With a cipher that authenticates and checks its tags, a page is
read without an error exactly when it is the encryption of some page, with the random bytes it
carries; a first page also has to begin with the salt of the cipher to be one.
-/
theorem accepts_iff_encrypted (d : Digests) {c : PageCipher} {page reserved hmacCheck : Nat}
    {e : Bytes} {g : Rng} (h512 : 512 ≤ e.length) (hsuits : c.Suits reserved)
    (hauth : c.Authenticates reserved) (hcheck : hmacCheck ≠ 0)
    (hg : c.Carries d reserved e g) :
    (c.decryptPage d page e reserved hmacCheck).1 = .ok ∧ c.Salted page e ↔
      ∃ data g', data.length = e.length ∧ c.StartsWith page fileHeader data ∧
        c.encryptPage d page data reserved g = (.ok, e, g') := by
  constructor
  · rintro ⟨hok, hsalt⟩
    obtain ⟨hlen, hfirst, g', henc⟩ := encryptPage_decryptPage h512 hsuits hauth hcheck hg hsalt hok
    exact ⟨_, g', hlen, hfirst, henc⟩
  · rintro ⟨data, g', hlen, hfirst, henc⟩
    refine ⟨decryptPage_of_encryptPage hmacCheck (by omega) hsuits hfirst hauth henc, ?_⟩
    have hsalted : c.Salted page (c.encryptPage d page data reserved g).2.1 :=
      salted_encryptPage d c g (by omega) hsuits
    rwa [henc] at hsalted

/-- A page of zeros under ChaCha20. -/
theorem accepts_iff_encrypted_zeros :
    let c : PageCipher := .chacha20 ⟨0, 4096, 1, 0, [], zeros 16, rfl, Nat.zero_le 100⟩
    let g : Rng := { (default : Rng) with available := 64, available_le := Nat.le_refl 64 }
    (c.decryptPage default 2 (zeros 512) 32 1).1 = .ok ∧ c.Salted 2 (zeros 512) ↔
      ∃ data g', data.length = (zeros 512).length ∧ c.StartsWith 2 fileHeader data ∧
        c.encryptPage default 2 data 32 g = (.ok, zeros 512, g') := by
  intro c g
  have hlen : (zeros 512).length = 512 := List.length_replicate
  have hsuits : c.Suits 32 := c.suits_getReserved
  -- the nonce and the tag take the 32 bytes that are reserved
  have hauth : c.Authenticates 32 := by
    show 0 < ChaCha20Cipher.nReserved _ 32
    decide
  -- the nonce that the page ends with is the one the generator draws
  have hcarries : c.Carries default 32 (zeros 512) g := by
    show (g.next 16).1 = slice (zeros 512) ((zeros 512).length - 32) 16
    rw [hlen, slice, zeros, List.drop_replicate, List.take_replicate]
    rfl
  have hiff : (c.decryptPage default 2 (zeros 512) 32 1).1 = .ok ∧ c.Salted 2 (zeros 512) ↔ _ :=
    accepts_iff_encrypted default (by omega) hsuits hauth (by decide) hcarries
  exact hiff

end PageCipher

end Native

end SqliteMc
