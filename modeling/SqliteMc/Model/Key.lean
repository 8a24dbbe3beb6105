import SqliteMc.Lib.Encoding
import SqliteMc.Lib.SqlLiteral
import SqliteMc.Model.CipherConfig

/-!
# Keys

`Key.passphrase`, `Key.raw` and the text a key takes in a `PRAGMA key` or `PRAGMA rekey`
statement. The class constructor is private; that a raw key is the base 16 text of a 32
byte key and an optional 16 byte salt is a field of the structure.
-/

namespace SqliteMc

structure Key where
  value : Text
  isRaw : Bool
  raw_encoded : isRaw = true → ∃ bytes : List Octet,
    (bytes.length = 32 ∨ bytes.length = 48) ∧ value = Base16.encode bytes

/-- The byte arrays of the program, by reference. -/
abbrev ByteArrays := Nat → List Octet

/-- `String.escapeSQL`. -/
def escapeSQL (value : Text) : Text := SqlLiteral.escape value

namespace Key

instance : DecidableEq Key := fun a b =>
  decidable_of_iff (a.value = b.value ∧ a.isRaw = b.isRaw)
    ⟨fun h => by cases a; cases b; cases h.1; cases h.2; rfl, fun h => h ▸ ⟨rfl, rfl⟩⟩

def passphrase (value : Text) : Key where
  value := value
  isRaw := false
  raw_encoded := by simp

/-- `Key.Empty`. -/
def Empty : Key := passphrase []

/-- The text that the encoder feed writes for a raw key, with a line break interval of
`Byte.MAX_VALUE`. -/
def rawValue (key : List Octet) (salt : Option (List Octet)) : Text :=
  Text.breakLines 127 0 (Base16.encode key ++ (salt.map Base16.encode).getD [])

/-- At most 96 characters are written, so no line is broken. -/
theorem rawValue_eq {key : List Octet} {salt : Option (List Octet)} (hkey : key.length = 32)
    (hsalt : ∀ s ∈ salt, s.length = 16) :
    rawValue key salt = Base16.encode (key ++ salt.getD []) := by
  -- 32 bytes and a salt of 16 at most, two characters each
  have hlen : (key ++ salt.getD []).length ≤ 48 := by
    rw [List.length_append, hkey]
    cases salt with
    | none => simp
    | some s => rw [Option.getD_some, hsalt s rfl]
  have henc : Base16.encode key ++ (salt.map Base16.encode).getD [] =
      Base16.encode (key ++ salt.getD []) := by
    rw [Base16.encode_append]
    cases salt <;> rfl
  rw [rawValue, henc, Text.breakLines_eq_self]
  rw [Base16.length_encode]
  omega

/-- `Key.raw(key, salt)`. -/
def raw (key : List Octet) (salt : Option (List Octet)) : Except Throwable Key :=
  if hkey : key.length = 32 then
    if hsalt : ∀ s ∈ salt, s.length = 16 then
      .ok {
        value := rawValue key salt
        isRaw := true
        raw_encoded := fun _ => ⟨key ++ salt.getD [], by
          rw [List.length_append, hkey]
          cases salt with
          | none => simp
          | some s => simp [hsalt s rfl], rawValue_eq hkey hsalt⟩ }
    else .error (.illegalArgument (Text.lit "Salt must be 16 bytes"))
  else .error (.illegalArgument (Text.lit "A Raw key must be 32 bytes"))

-- ---------------------------------------------------------------------------
-- The arrays of the caller
-- ---------------------------------------------------------------------------

/-- `Key.raw(key, salt, fillKey)` on two of the program's arrays, and the arrays after it. -/
def rawFrom (arrays : ByteArrays) (key : Nat) (salt : Option Nat) (fillKey : Bool) :
    Except Throwable Key × ByteArrays :=
  match raw (arrays key) (salt.map arrays) with
  -- the sizes are checked before anything is written
  | .error t => (.error t, arrays)
  | .ok k =>
    -- key.fill(0), the last thing before the return
    (.ok k, if fillKey then
      Function.update arrays key (List.replicate (arrays key).length 0)
    else arrays)

theorem isAscii_of_isRaw {k : Key} (h : k.isRaw = true) : k.value.IsAscii := by
  obtain ⟨bytes, -, hvalue⟩ := k.raw_encoded h
  rw [hvalue]
  exact Base16.isAscii_encode bytes

/-- `Key.retrieveFormatted(cipher)`. -/
def retrieveFormatted (k : Key) (cipher : Cipher) : Except Throwable Text :=
  if !k.isRaw then .ok (Text.lit "'" ++ escapeSQL k.value ++ Text.lit "'")
  else
    match cipher with
    | .sqlcipher => .ok (Text.lit "\"x'" ++ k.value ++ Text.lit "'\"")
    | .chacha20 => .ok (Text.lit "'raw:" ++ k.value ++ Text.lit "'")
    | _ =>
      .error (.illegalArgument (Text.lit "Invalid key type for " ++ cipher.name ++ Text.lit ". " ++
        Text.lit "Only sqlcipher and chacha20 support raw keys."))

end Key

/-- The cipher takes the key: any passphrase, and raw keys for two of the ciphers. -/
def Cipher.accepts (cipher : Cipher) (k : Key) : Bool :=
  !k.isRaw || cipher == .sqlcipher || cipher == .chacha20

/-- A cipher accepts a key when the key has a text for it. -/
theorem Cipher.accepts_iff (cipher : Cipher) (k : Key) :
    cipher.accepts k = true ↔ ∃ v, k.retrieveFormatted cipher = .ok v := by
  unfold Cipher.accepts Key.retrieveFormatted
  cases k.isRaw <;> cases cipher <;> simp

/-- A key that the cipher does not take is refused as an illegal argument. -/
theorem Cipher.refused_of_not_accepts {cipher : Cipher} {k : Key} (h : cipher.accepts k = false) :
    ∃ message, k.retrieveFormatted cipher = .error (.illegalArgument message) := by
  unfold Cipher.accepts at h
  unfold Key.retrieveFormatted
  cases hraw : k.isRaw <;> cases cipher <;> simp_all

/-- A passphrase is written as an SQL string literal. -/
theorem Key.retrieveFormatted_of_not_raw {k : Key} (h : k.isRaw = false) (cipher : Cipher) :
    k.retrieveFormatted cipher =
      .ok (SqlLiteral.quote :: SqlLiteral.escape k.value ++ [SqlLiteral.quote]) := by
  have hnot : (!k.isRaw) = true := by rw [h]; rfl
  exact if_pos hnot

end SqliteMc
