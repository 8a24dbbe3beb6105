import SqliteMc.Model.CodecInvariant

/-!
# Rekeying and its failures

The codec of a database over any sequence of successful and failed rekeyings.

* `rekeyAll_settled_iff` — pages are written under the key they are read with, unless the last
  thing that happened was that a database could not be decrypted: then they are written in plain
  text and still decrypted when they are read.
* `load_store_rekeyAll` — apart from that no page is ever refused, and every page that is stored
  is loaded again.
-/

namespace SqliteMc

namespace Native

open Buffer ChaCha20

namespace Codec

/-- A call of `sqlite3_rekey_v2`: the reserved bytes of the database before it, the key, and whether
the transaction was committed. -/
structure RekeyCall where
  nReserved : Nat
  key : Option NewKey
  committed : Bool

/-- The codec after a sequence of calls. -/
def rekeyAll (pageSize : Nat) (codec : Option Codec) (calls : List RekeyCall) : Option Codec :=
  calls.foldl (fun codec call => rekey pageSize call.nReserved codec call.key call.committed) codec

theorem rekeyAll_concat (pageSize : Nat) (codec : Option Codec) (calls : List RekeyCall)
    (call : RekeyCall) : rekeyAll pageSize codec (calls ++ [call]) =
      rekey pageSize call.nReserved (rekeyAll pageSize codec calls) call.key call.committed :=
  List.foldl_append

variable {pageSize : Nat} {codec : Option Codec}

/-- Each call leaves the codec at rest. -/
theorem allAtRest_rekey (hps : 512 ≤ pageSize) (h : AllAtRest codec) (call : RekeyCall) :
    AllAtRest (rekey pageSize call.nReserved codec call.key call.committed) := by
  cases call.committed
  · exact (rekey_rolledBack h).1
  · exact (rekey_committed hps h).1

/-- Rekeying keeps the codec at rest. -/
theorem allAtRest_rekeyAll (hps : 512 ≤ pageSize) (h : AllAtRest codec) (calls : List RekeyCall) :
    AllAtRest (rekeyAll pageSize codec calls) := by
  induction calls generalizing codec with
  | nil => exact h
  | cons call calls ih => exact ih (allAtRest_rekey hps h call)

/-- An encrypted database has a key to read with. -/
theorem AtRest.keyOf_ne_none {c : Codec} (hc : c.AtRest) : keyOf (some c) false ≠ none := by
  obtain ⟨cipher, hcipher, -⟩ := hc.read hc.isEncrypted hc.hasReadCipher
  have hkey : c.key false = c.readCipher := if_pos ⟨hc.isEncrypted, hc.hasReadCipher⟩
  rw [show keyOf (some c) false = c.key false from rfl, hkey, hcipher]
  exact Option.some_ne_none cipher

/-- The last of the calls failed to decrypt a database. -/
def DecryptFailed (pageSize : Nat) (codec : Option Codec) (calls : List RekeyCall) : Prop :=
  ∃ before call, calls = before ++ [call] ∧ call.key.isNone ∧ call.committed = false ∧
    (rekeyAll pageSize codec before).isSome

theorem not_decryptFailed_nil : ¬ DecryptFailed pageSize codec [] := by
  rintro ⟨before, call, h, -⟩
  simp at h

/-- A run ends in a failed decryption when its last call is one. -/
theorem decryptFailed_concat {calls : List RekeyCall} {call : RekeyCall} :
    DecryptFailed pageSize codec (calls ++ [call]) ↔
      call.key.isNone ∧ call.committed = false ∧ (rekeyAll pageSize codec calls).isSome := by
  constructor
  · rintro ⟨before, call', h, hcall⟩
    obtain ⟨rfl, hlast⟩ := List.append_inj' h rfl
    cases hlast
    exact hcall
  · exact fun h => ⟨calls, call, rfl, h⟩

/-- The keys of both sides after any calls. -/
theorem settled_rekeyAll (hps : 512 ≤ pageSize) (h : AllAtRest codec)
    (hsettled : keyOf codec true = keyOf codec false) (calls : List RekeyCall) :
    keyOf (rekeyAll pageSize codec calls) true = keyOf (rekeyAll pageSize codec calls) false ↔
      ¬ DecryptFailed pageSize codec calls := by
  rcases List.eq_nil_or_concat calls with rfl | ⟨before, call, rfl⟩
  · exact iff_of_true hsettled not_decryptFailed_nil
  rw [List.concat_eq_append, decryptFailed_concat, rekeyAll_concat]
  have hrest := allAtRest_rekeyAll hps h before
  cases hcommitted : call.committed with
  | true =>
    have hkeys (useWriteKey : Bool) : keyOf (rekey pageSize call.nReserved _ call.key true)
        useWriteKey = call.key.map NewKey.cipher := (rekey_committed hps hrest).2 useWriteKey
    rw [hkeys, hkeys]
    simp
  | false =>
    generalize rekeyAll pageSize codec before = codec' at hrest
    obtain ⟨-, hread, hwrite⟩ : AllAtRest (rekey pageSize call.nReserved codec' call.key false) ∧ _ :=
      rekey_rolledBack hrest
    rw [hread, hwrite]
    cases hkey : call.key with
    | some k => simp
    | none =>
      -- nothing is left to write with, so it is a matter of whether there was a key
      cases codec' with
      | none => simp [keyOf]
      | some c =>
        have hne := (hrest c rfl).keyOf_ne_none
        simp [hne.symm]

/-- A database whose codec has no key to write with is written as it is. -/
theorem store_of_key_none {c : Codec} {useWriteKey : Bool} (hc : c.Consistent)
    (hkey : c.key useWriteKey = none) (d : Digests) (data : Bytes) (page : Nat) (g : Rng) :
    (c.store d data page useWriteKey g).1 = data := by
  unfold store
  by_cases henc : c.isEncrypted = false
  · rw [if_pos henc]
  · by_cases hhas : (if useWriteKey then c.hasWriteCipher else c.hasReadCipher) = false
    · rw [if_neg henc, if_pos hhas]
    · obtain ⟨cipher, -, hsome, -⟩ := hc.key_eq_some (Bool.eq_true_of_not_eq_false henc)
        (Bool.eq_true_of_not_eq_false hhas)
      rw [hkey] at hsome
      cases hsome

/-! ## The results -/

/--
**Rekeying settles the codec, but for a failed decryption.** After any sequence of calls that
succeed or fail, pages are written under the key they are read with, exactly if the last call is
not one that failed to decrypt the database. After such a call the pages are written in plain
text, while they are still decrypted when they are read.
-/
theorem rekeyAll_settled_iff (hps : 512 ≤ pageSize) (h : AllAtRest codec)
    (hsettled : keyOf codec true = keyOf codec false) (calls : List RekeyCall) :
    (keyOf (rekeyAll pageSize codec calls) true = keyOf (rekeyAll pageSize codec calls) false ↔
        ¬ DecryptFailed pageSize codec calls) ∧
      (DecryptFailed pageSize codec calls → ∃ c cipher, rekeyAll pageSize codec calls = some c ∧
        c.key false = some cipher ∧
        ∀ d data page g, (c.store d data page true g).1 = data) := by
  refine ⟨settled_rekeyAll hps h hsettled calls, ?_⟩
  rintro ⟨before, call, rfl, hnone, hfailed, hsome⟩
  have hbefore := allAtRest_rekeyAll hps h before
  rw [rekeyAll_concat, hfailed]
  obtain ⟨c, hc⟩ := Option.isSome_iff_exists.mp hsome
  rw [hc] at hbefore ⊢
  obtain ⟨hrest, hread, hwrite⟩ :
      AllAtRest (rekey pageSize call.nReserved (some c) call.key false) ∧ _ :=
    rekey_rolledBack hbefore
  rw [Option.isNone_iff_eq_none.mp hnone] at hrest hread hwrite ⊢
  have hne := (hbefore c rfl).keyOf_ne_none
  -- the database is still read, so there is a codec
  cases hafter : rekey pageSize call.nReserved (some c) none false with
  | none =>
    rw [hafter] at hread
    exact absurd hread.symm hne
  | some c' =>
    rw [hafter] at hrest hread hwrite
    obtain ⟨cipher, hcipher⟩ := Option.ne_none_iff_exists'.mp hne
    exact ⟨c', cipher, rfl, hread.trans hcipher,
      store_of_key_none (hrest c' rfl).toConsistent hwrite⟩

/-- An RC4 database that is rekeyed, and then cannot be decrypted. -/
theorem rekeyAll_settled_iff_rc4 :
    let codec := some (attach 512 1 0 (.rc4 ⟨1, 512, [0x2a]⟩))
    let calls : List RekeyCall := [⟨0, some ⟨1, 0, .rc4 ⟨1, 512, [0x2b]⟩⟩, true⟩, ⟨0, none, false⟩]
    (keyOf (rekeyAll 512 codec calls) true = keyOf (rekeyAll 512 codec calls) false ↔
        ¬ DecryptFailed 512 codec calls) ∧
      (DecryptFailed 512 codec calls → ∃ c cipher, rekeyAll 512 codec calls = some c ∧
        c.key false = some cipher ∧
        ∀ d data page g, (c.store d data page true g).1 = data) := by
  intro codec calls
  -- the codec is encrypted and at rest from the start
  have hrest : AllAtRest codec := by
    intro c hc
    obtain rfl := Option.some_inj.mp hc
    exact (attach_spec (Nat.le_refl 512)).1
  exact rekeyAll_settled_iff (Nat.le_refl 512) hrest rfl calls

/--
**Otherwise no page is refused or lost.** After any sequence of calls of which the last one did not
fail to decrypt the database, what is stored in the file is the encryption of the page under the key
of the database, and it is loaded as it was, up to the reserved bytes.
-/
theorem load_store_rekeyAll (d : Digests) (hps : 512 ≤ pageSize) (h : AllAtRest codec)
    (hsettled : keyOf codec true = keyOf codec false) {calls : List RekeyCall}
    (hcalls : ¬ DecryptFailed pageSize codec calls) {c : Codec}
    (hc : rekeyAll pageSize codec calls = some c) {data : Bytes} {page : Nat} (g : Rng)
    (hlen : data.length = c.pageSize) (hfirst : PageCipher.StartsDatabase page data) :
    let stored := c.store d data page true g
    let loaded := stored.2.1.load d stored.1 page
    stored.2.1.lastError = .ok ∧ Encrypted d (c.key false) c.reserved page data stored.1 ∧
      Restores (c.pageSize - c.reserved) data (loaded.2.lastError, loaded.1) := by
  intro stored loaded
  -- the codec is still at rest, and both of its keys are the same
  have hrest := allAtRest_rekeyAll hps h calls c hc
  have hkeys := (settled_rekeyAll hps h hsettled calls).mpr hcalls
  rw [hc] at hkeys
  have hkey : c.key true = c.key false := hkeys
  obtain ⟨hsealed, hok, -⟩ : Sealed d (c.key true) c.reserved page data stored.1 ∧ _ :=
    sealed_store hrest.toConsistent g hlen hfirst
  -- so what is stored under the write key is opened by the read key
  rw [hkey] at hsealed
  have hs : stored.2.1.settings = c.settings := settings_store data page true g
  have hreserved := (fields_congr hs).2.1
  refine ⟨hok, hsealed.encrypted, ?_⟩
  rw [← key_congr hs, ← hreserved] at hsealed
  obtain ⟨hload, -⟩ := load_of_sealed (hrest.toConsistent.congr hs.symm) hsealed
  rwa [hlen, hreserved] at hload

/-- An RC4 database after it was rekeyed. -/
theorem load_store_rekeyAll_rc4 :
    let c := attach 512 1 0 (.rc4 ⟨1, 512, [0x2b]⟩)
    let stored := c.store default (zeros 512) 2 true default
    let loaded := stored.2.1.load default stored.1 2
    stored.2.1.lastError = .ok ∧ Encrypted default (c.key false) c.reserved 2 (zeros 512) stored.1 ∧
      Restores (c.pageSize - c.reserved) (zeros 512) (loaded.2.lastError, loaded.1) := by
  intro c
  -- the codec is encrypted and at rest from the start
  have hrest : AllAtRest (some (attach 512 1 0 (.rc4 ⟨1, 512, [0x2a]⟩))) := by
    intro c hc
    obtain rfl := Option.some_inj.mp hc
    exact (attach_spec (Nat.le_refl 512)).1
  have hnot : ¬ DecryptFailed 512 (some (attach 512 1 0 (.rc4 ⟨1, 512, [0x2a]⟩)))
      ([] ++ [⟨0, some ⟨1, 0, .rc4 ⟨1, 512, [0x2b]⟩⟩, true⟩]) := by
    rw [decryptFailed_concat]
    simp
  have hlen : (zeros 512).length = c.pageSize := List.length_replicate
  have hrun := load_store_rekeyAll default (Nat.le_refl 512) hrest rfl hnot (c := c) rfl default hlen
    fun h => absurd h (by decide : ¬ 2 = 1)
  exact hrun

end Codec

end Native

end SqliteMc
