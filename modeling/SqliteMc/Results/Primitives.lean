import SqliteMc.Model.PageHeader

/-!
# The primitives, and the pages they make

What the ciphers rely on, and what every cipher keeps of a page.

* `aes_bijective` — AES in CBC mode, with a fragment at the end, undone in both orders.
* `raw_key_digits` — a raw key in hexadecimal digits stands for its bytes.
* `rounds_eq` — the permutation of Ascon for words of 32 bits is that for words of 64 bits.
* `aead_accepts_iff` — what the decryption of Ascon lets through.
* `draws_eq_next` — however the random bytes are asked for, they are one stream.
* `page_round_trip` — every page comes back under every cipher.
* `first_page_header` — what can be read of the first page without a key.
-/

namespace SqliteMc

open Buffer ChaCha20

namespace Native

/-! ## AES -/

/--
**AES is a bijection on buffers.** A buffer of one block at least, with a fragment of a block at its
end or not, is encrypted to one of the same length, and encryption and decryption undo each other
in both orders, for every page and every key of either length.
-/
theorem aes_bijective (columns : Nat) (digest : Bytes → Bytes) (d : Digests) (page : Nat)
    (key : Bytes) {data : Bytes} (h : 16 ≤ data.length) :
    (aesEncrypt columns digest d page key data).length = data.length ∧
      aesDecrypt columns digest d page key (aesEncrypt columns digest d page key data) = data ∧
      aesEncrypt columns digest d page key (aesDecrypt columns digest d page key data) = data := by
  refine ⟨length_aesEncrypt h, aesDecrypt_aesEncrypt h, ?_⟩
  have hlen (x : Bytes) (hx : x.length = data.length) :
      (aesEncrypt columns digest d page key x).length = data.length := by
    rw [length_aesEncrypt (by omega), hx]
  have hback (x : Bytes) (hx : x.length = data.length) :
      aesDecrypt columns digest d page key (aesEncrypt columns digest d page key x) = x :=
    aesDecrypt_aesEncrypt (by omega)
  exact comp_eq_of_length hlen hback rfl

/-- A block and a fragment of three bytes on the first page whose initial vector has a negative
seed, under AES-128 and its digests. -/
theorem aes_bijective_fragment :
    let d := Digests.vendored
    let page := 2147483647
    let key : Bytes := (List.range 16).map (BitVec.ofNat 8)
    let data := zeros 19
    (aesEncrypt 4 d.md5 d page key data).length = data.length ∧
      aesDecrypt 4 d.md5 d page key (aesEncrypt 4 d.md5 d page key data) = data ∧
      aesEncrypt 4 d.md5 d page key (aesDecrypt 4 d.md5 d page key data) = data := by
  intro d page key data
  have hlen : data.length = 19 := List.length_replicate
  exact aes_bijective 4 d.md5 d page key (by omega)

/-! ## Raw keys -/

/-- Digits that stand behind others are converted behind them. -/
theorem convertHex2Bin_append {m : Nat} {a : Bytes} (b : Bytes) (h : a.length = 2 * m) :
    convertHex2Bin (a ++ b) = convertHex2Bin a ++ convertHex2Bin b := by
  -- each round of the loop takes two digits, and makes one byte of them
  induction m generalizing a with
  | zero =>
    rw [List.length_eq_zero_iff.mp h]
    rfl
  | succ m ih =>
    match a, h with
    | _ :: _ :: a, h =>
      have hrest : a.length = 2 * m := by
        simp only [List.length_cons] at h
        omega
      rw [List.cons_append, List.cons_append, convertHex2Bin, convertHex2Bin, ih hrest,
        List.cons_append]

section RawKey

variable {keyOnly : Bool} {n s : Nat} {key salt z hex : Bytes}

/-- The key and the salt of a text in hexadecimal digits. -/
theorem convertHex2Bin_parts (h : hex.length = 2 * (n + s)) :
    convertHex2Bin (hex.take (2 * n)) = (convertHex2Bin hex).take n ∧
      convertHex2Bin (slice hex (2 * n) (2 * s)) = slice (convertHex2Bin hex) n s := by
  -- the digits of the key, and those of the salt
  have hleft : (hex.take (2 * n)).length = 2 * n := by
    rw [List.length_take]
    omega
  have hright : (hex.drop (2 * n)).length = 2 * s := by
    rw [List.length_drop]
    omega
  have hkey := length_convertHex2Bin hleft
  have hsalt := length_convertHex2Bin hright
  have hsplit : convertHex2Bin hex =
      convertHex2Bin (hex.take (2 * n)) ++ convertHex2Bin (hex.drop (2 * n)) := by
    rw [← convertHex2Bin_append _ hleft, List.take_append_drop]
  have hslice : slice hex (2 * n) (2 * s) = hex.drop (2 * n) :=
    List.take_of_length_le (by omega)
  refine ⟨?_, ?_⟩
  · rw [hsplit, List.take_append_of_le_length (Nat.le_of_eq hkey.symm),
      List.take_of_length_le (Nat.le_of_eq hkey)]
  · have hpart := slice_append_right (convertHex2Bin (hex.take (2 * n)))
      (convertHex2Bin (hex.drop (2 * n))) 0 s
    rw [hkey, Nat.add_zero, slice_zero_eq_take,
      List.take_of_length_le (Nat.le_of_eq hsalt)] at hpart
    rw [hslice, hsplit, hpart]

/-- The condition under which a password is read as a raw key. -/
theorem rawPrefix_append (h : 0 < z.length) :
    4 < (rawPrefix ++ z).length ∧ (rawPrefix ++ z).take 4 = rawPrefix := by
  have hfour : rawPrefix.length = 4 := rfl
  refine ⟨?_, rfl⟩
  rw [List.length_append]
  omega

/-- A binary key is taken as it is. -/
theorem extractRawKey_binary (hn : 0 < n) (hs : 0 < s) (hz : z.length = n) :
    extractRawKey (rawPrefix ++ z) keyOnly n s key salt = ⟨true, z, salt⟩ := by
  rw [extractRawKey, if_pos (rawPrefix_append (by omega))]
  exact (if_neg (by omega : ¬ z.length = n + s)).trans (if_pos hz)

/-- A binary key with a salt behind it is divided at the key's length. -/
theorem extractRawKey_binary_salt (hn : 0 < n) (hz : z.length = n + s) :
    extractRawKey (rawPrefix ++ z) keyOnly n s key salt =
      ⟨true, z.take n, if keyOnly then salt else slice z n s⟩ := by
  rw [extractRawKey, if_pos (rawPrefix_append (by omega))]
  exact if_pos hz

/-- A key of hexadecimal digits is taken as the bytes that they stand for. -/
theorem extractRawKey_hex (hn : 0 < n) (hne : n ≠ s) (hdigits : isHexKey hex = true)
    (hz : hex.length = 2 * n) :
    extractRawKey (rawPrefix ++ hex) keyOnly n s key salt = ⟨true, convertHex2Bin hex, salt⟩ := by
  rw [extractRawKey, if_pos (rawPrefix_append (by omega))]
  exact (if_neg (by omega : ¬ hex.length = n + s)).trans
    ((if_neg (by omega : ¬ hex.length = n)).trans ((if_pos hz).trans (if_pos hdigits)))

/-- A key and a salt of hexadecimal digits are divided at the key's digits. -/
theorem extractRawKey_hex_salt (hn : 0 < n) (hs : 0 < s) (hdigits : isHexKey hex = true)
    (hz : hex.length = 2 * (n + s)) :
    extractRawKey (rawPrefix ++ hex) keyOnly n s key salt =
      ⟨true, convertHex2Bin (hex.take (2 * n)),
        if keyOnly then salt else convertHex2Bin (slice hex (2 * n) (2 * s))⟩ := by
  rw [extractRawKey, if_pos (rawPrefix_append (by omega))]
  exact (if_neg (by omega : ¬ hex.length = n + s)).trans
    ((if_neg (by omega : ¬ hex.length = n)).trans ((if_neg (by omega : ¬ hex.length = 2 * n)).trans
      ((if_pos hz).trans (if_pos hdigits))))

/--
**A raw key in digits is the key itself.** For every length of the key and another one of the salt, a
text of hexadecimal digits after `raw:` gives the key, and the salt where it holds one and the caller
takes it, that the bytes it stands for give after `raw:`; and both leave the derivation out.
-/
theorem raw_key_digits (keyOnly : Bool) (key salt : Bytes) (hn : 0 < n) (hs : 0 < s) (hne : n ≠ s)
    (hdigits : isHexKey hex = true) (hlen : hex.length = 2 * n ∨ hex.length = 2 * (n + s)) :
    let digits := extractRawKey (rawPrefix ++ hex) keyOnly n s key salt
    digits = extractRawKey (rawPrefix ++ convertHex2Bin hex) keyOnly n s key salt ∧
      digits.bypass = true ∧ digits.key = (convertHex2Bin hex).take n ∧
      (keyOnly = true → digits.salt = salt) := by
  intro digits
  -- digits for the key alone, or for key and salt
  rcases hlen with hlen | hlen
  · have hbytes := length_convertHex2Bin hlen
    have hdigits' : digits = ⟨true, convertHex2Bin hex, salt⟩ :=
      extractRawKey_hex hn hne hdigits hlen
    rw [hdigits', extractRawKey_binary hn hs hbytes]
    exact ⟨rfl, rfl, (List.take_of_length_le (Nat.le_of_eq hbytes)).symm, fun _ => rfl⟩
  · have hbytes := length_convertHex2Bin hlen
    obtain ⟨hkey, hsalt⟩ := convertHex2Bin_parts hlen
    have hdigits' : digits = ⟨true, convertHex2Bin (hex.take (2 * n)),
        if keyOnly then salt else convertHex2Bin (slice hex (2 * n) (2 * s))⟩ :=
      extractRawKey_hex_salt hn hs hdigits hlen
    rw [hdigits', extractRawKey_binary_salt hn hbytes, hkey, hsalt]
    exact ⟨rfl, rfl, rfl, fun hkeyOnly => if_pos hkeyOnly⟩

/-- A key of two bytes and a salt of one. -/
theorem raw_key_digits_salt :
    let hex : Bytes := [0x30, 0x46, 0x61, 0x62, 0x31, 0x39]
    let digits := extractRawKey (rawPrefix ++ hex) false 2 1 [] []
    digits = extractRawKey (rawPrefix ++ convertHex2Bin hex) false 2 1 [] [] ∧
      digits.bypass = true ∧ digits.key = (convertHex2Bin hex).take 2 ∧
      (false = true → digits.salt = []) :=
  raw_key_digits false [] [] (by decide) (by decide) (by decide) (by decide) (Or.inr rfl)

end RawKey

end Native

/-! ## Ascon -/

namespace Ascon

/--
**The two permutations agree.** Any number of rounds with any constants is the same in the version
for words of 32 bits, which puts the words together in another order, as in the one for 64 bits.
-/
theorem rounds_eq (constants : List (BitVec 64)) (s : State) :
    constants.foldl (fun s C => round32 C s) s = constants.foldl (fun s C => round64 C s) s := by
  induction constants generalizing s with
  | nil => rfl
  | cons C constants ih => rw [List.foldl_cons, List.foldl_cons, round32_eq_round64, ih]

/--
**Only what was encrypted is accepted.** The decryption returns a text without an error exactly if
the cipher text and the tag are those of the encryption of that text, and the text is not shorter
than a tag.
-/
theorem aead_accepts_iff {ctext tag mtext : Bytes} (ad nonce k : Bytes) (h : tag.length = 16) :
    aeadDecrypt ctext ad tag nonce k = (mtext, 0) ↔
      16 ≤ mtext.length ∧ aeadEncrypt mtext ad nonce k = (ctext, tag) :=
  aeadDecrypt_eq_zero_iff ad nonce k h

/-- A cipher text and a tag of zeros. -/
theorem aead_accepts_iff_zeros :
    aeadDecrypt (zeros 20) [] (zeros 16) (zeros 16) (zeros 16) = (zeros 20, 0) ↔
      16 ≤ (zeros 20).length ∧
        aeadEncrypt (zeros 20) [] (zeros 16) (zeros 16) = (zeros 20, zeros 16) :=
  aead_accepts_iff [] (zeros 16) (zeros 16) List.length_replicate

end Ascon

/-! ## Random bytes -/

namespace ChaCha20

namespace Rng

/-- The results of calls for so many bytes each, and the generator after them. -/
def draws (g : Rng) : List Nat → List Bytes × Rng
  | [] => ([], g)
  | n :: ns =>
    let rest := draws (g.next n).2 ns
    ((g.next n).1 :: rest.1, rest.2)

/--
**One stream of random bytes.** However the bytes are asked for, call after call, the generator
hands out those that a single call for all of them would, and is left as that call leaves it.
-/
theorem draws_eq_next (g : Rng) (ns : List Nat) :
    ((g.draws ns).1.flatten, (g.draws ns).2) = g.next ns.sum := by
  rw [next, loop_eq_stream g (Nat.le_refl _)]
  induction ns generalizing g with
  | nil => rfl
  | cons n ns ih =>
    have hnext : g.next n = stream n g := loop_eq_stream g (Nat.le_refl n)
    obtain ⟨hbytes, hstate⟩ := Prod.mk.inj (ih (g.next n).2)
    rw [draws, List.flatten_cons, List.sum_cons, stream_add, ← hnext]
    dsimp only
    rw [hbytes, hstate]

end Rng

end ChaCha20

/-! ## Pages -/

namespace Native

namespace PageCipher

/--
**Every page comes back.** Under each of the six ciphers, in every mode, a page that begins as a
database does if it is the first one is encrypted without an error to as many bytes, and is
decrypted to what it was up to the bytes that the cipher takes for itself.
-/
theorem page_round_trip (d : Digests) (c : PageCipher) {page reserved : Nat} (hmacCheck : Nat)
    {data : Bytes} (g : Rng) (h512 : 512 ≤ data.length) (hsuits : c.Suits reserved)
    (hfirst : StartsDatabase page data) :
    let encrypted := c.encryptPage d page data reserved g
    let decrypted := c.decryptPage d page encrypted.2.1 reserved hmacCheck
    encrypted.1 = .ok ∧ encrypted.2.1.length = data.length ∧ decrypted.1 = .ok ∧
      decrypted.2.take (data.length - c.nReserved reserved) =
        data.take (data.length - c.nReserved reserved) := by
  intro encrypted decrypted
  have htrip := c.roundTrip d hmacCheck g h512 hsuits hfirst
  exact ⟨htrip.rc, htrip.length, htrip.restores.rc, htrip.restores.take⟩

/-- A page of zeros under Ascon. -/
theorem page_round_trip_ascon :
    let c : PageCipher := .ascon128 ⟨64007, 0, [], zeros 16, rfl, Nat.zero_le 100⟩
    let encrypted := c.encryptPage default 2 (zeros 512) 32 default
    let decrypted := c.decryptPage default 2 encrypted.2.1 32 1
    encrypted.1 = .ok ∧ encrypted.2.1.length = (zeros 512).length ∧ decrypted.1 = .ok ∧
      decrypted.2.take ((zeros 512).length - c.nReserved 32) =
        (zeros 512).take ((zeros 512).length - c.nReserved 32) := by
  intro c
  -- the nonce and the tag take the 32 bytes that are reserved
  have hlen : (zeros 512).length = 512 := List.length_replicate
  have htrip := page_round_trip default c 1 default (Nat.le_of_eq hlen.symm)
    (by decide : Ascon128Cipher.nReserved 32 ≤ 32) fun h => absurd h (by decide : ¬ 2 = 1)
  exact htrip

/--
**What is read of the first page without a key.** It begins with the salt of the cipher, if the cipher
has one and does not keep the header in plain text; and the bytes 16 to 23, which hold the size of
the pages, stay as they are outside the legacy modes of all ciphers but RC4.
-/
theorem first_page_header (d : Digests) (c : PageCipher) {reserved : Nat} {data : Bytes} (g : Rng)
    (h512 : 512 ≤ data.length) (hsuits : c.Suits reserved) :
    let encrypted := (c.encryptPage d 1 data reserved g).2.1
    c.Salted 1 encrypted ∧ (c.PlainHeader → slice encrypted 16 8 = slice data 16 8) :=
  ⟨salted_encryptPage d c g h512 hsuits, slice_encryptPage d c g h512 hsuits⟩

/-- A first page of zeros under Ascon. -/
theorem first_page_header_ascon :
    let c : PageCipher := .ascon128 ⟨64007, 0, [], zeros 16, rfl, Nat.zero_le 100⟩
    let encrypted := (c.encryptPage default 1 (zeros 512) 32 default).2.1
    c.Salted 1 encrypted ∧ (c.PlainHeader → slice encrypted 16 8 = slice (zeros 512) 16 8) := by
  intro c
  have hlen : (zeros 512).length = 512 := List.length_replicate
  have hheader := first_page_header (c := c) default default (Nat.le_of_eq hlen.symm)
    (by decide : Ascon128Cipher.nReserved 32 ≤ 32)
  exact hheader

end PageCipher

end Native

end SqliteMc
