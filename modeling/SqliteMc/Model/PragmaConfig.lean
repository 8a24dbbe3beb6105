import SqliteMc.Model.Pragma
import SqliteMc.Model.Tokenize

/-!
# User pragmas

`PragmaConfig` and its builder, and what the two platforms make of a config's maps. Native
takes five pragmas out of a map for its `DatabaseConfiguration` and executes the others on
each connection; on the JVM the map is put into the connection properties.

* `foreignKeys`, `recursiveTriggers` — native reads these two as flags itself (`readFlag`).
* `Sqlite3.pragmaFlag` — the flag that SQLite reads from a `PRAGMA` statement.
-/

namespace SqliteMc

/-- A map of pragma names to values. -/
abbrev Pragmas := LinkedMap Text Text

/-- The statement that an entry is made into. -/
def pragmaSql (key value : Text) : Text :=
  Text.lit "PRAGMA " ++ key ++ Text.lit " = " ++ value

-- ---------------------------------------------------------------------------
-- PragmaConfig
-- ---------------------------------------------------------------------------

structure PragmaConfig where
  ephemeral : Pragmas
  filesystem : Pragmas

namespace PragmaConfig

/-- The two mutable maps of a builder. -/
structure Builder where
  ephemeral : Pragmas
  filesystem : Pragmas

namespace Builder

/-- `Builder(other)`. -/
def new (other : Option PragmaConfig) : Builder :=
  match other with
  | none => ⟨.empty, .empty⟩
  | some c => ⟨LinkedMap.empty.putAll c.ephemeral.entries, LinkedMap.empty.putAll c.filesystem.entries⟩

/-- What a block does with the builder. The maps are public, so a block can also write to
one of them directly, in any way. -/
inductive Call where
  | put (key value : Text)
  | putAll (pairs : List (Text × Text))
  | ephemeral (write : Pragmas → Pragmas)
  | filesystem (write : Pragmas → Pragmas)

def call (b : Builder) : Call → Builder
  | .put key value => ⟨b.ephemeral.put key value, b.filesystem.put key value⟩
  | .putAll pairs => ⟨b.ephemeral.putAll pairs, b.filesystem.putAll pairs⟩
  | .ephemeral write => { b with ephemeral := write b.ephemeral }
  | .filesystem write => { b with filesystem := write b.filesystem }

/-- `BLACK_LISTED`. -/
def blackListed : List Text := [Text.lit "user_version"]

/-- The names that `build` removes from both maps. -/
def removed : List Text := MCPragma.all.map MCPragma.name ++ blackListed

def build (b : Builder) : PragmaConfig where
  ephemeral := removed.foldl LinkedMap.remove b.ephemeral
  filesystem := removed.foldl LinkedMap.remove b.filesystem

end Builder

/-- The maps are inherited with their entries in order. -/
theorem builder_new (c : PragmaConfig) : Builder.new (some c) = ⟨c.ephemeral, c.filesystem⟩ :=
  congrArg₂ Builder.mk (LinkedMap.putAll_entries c.ephemeral)
    (LinkedMap.putAll_entries c.filesystem)

end PragmaConfig

-- ---------------------------------------------------------------------------
-- Native
-- ---------------------------------------------------------------------------

namespace Native

/-- `toBooleanStrictOrNull`, else `toIntOrNull` compared with 1, else whether it is `ON`. -/
def readFlag (value : Text) : Bool :=
  if value = Text.lit "true" then true
  else if value = Text.lit "false" then false
  else
    -- neither word: a number, or the word that SQLite knows as well
    match value.toIntOrNull with
    | some i => i == 1
    | none => value.equalsIgnoreCase (Text.lit "ON")

/-- Take a flag out of the map; it is off by default. -/
def takeFlag (name : Text) (m : Pragmas) : Bool × Pragmas :=
  (((m.get? name).map readFlag).getD false, m.remove name)

def foreignKeys (m : Pragmas) : Bool × Pragmas := takeFlag (Text.lit "foreign_keys") m

def recursiveTriggers (m : Pragmas) : Bool × Pragmas := takeFlag (Text.lit "recursive_triggers") m

/-- The text that `JournalMode.forString` is given; without one the mode is `DELETE`. -/
def journalMode (m : Pragmas) : Option Text × Pragmas :=
  (m.get? (Text.lit "journal_mode"), m.remove (Text.lit "journal_mode"))

def busyTimeout (m : Pragmas) : Int32 × Pragmas :=
  (((m.get? (Text.lit "busy_timeout")).bind Text.toIntOrNull).getD 3000,
    m.remove (Text.lit "busy_timeout"))

def pageSize (m : Pragmas) : Option Int32 × Pragmas :=
  ((m.get? (Text.lit "page_size")).bind Text.toIntOrNull, m.remove (Text.lit "page_size"))

/-- What the pragmas decide of a `DatabaseConfiguration`. -/
structure DatabaseConfiguration where
  journalMode : Option Text
  foreignKeyConstraints : Bool
  busyTimeout : Int32
  pageSize : Option Int32
  recursiveTriggers : Bool

/-- The configuration, and the pragmas that are left over. -/
def databaseConfiguration (pragmas : Pragmas) : DatabaseConfiguration × Pragmas :=
  let (journalMode, pragmas) := journalMode pragmas
  let (foreignKeys, pragmas) := foreignKeys pragmas
  let (busyTimeout, pragmas) := busyTimeout pragmas
  let (pageSize, pragmas) := pageSize pragmas
  let (recursiveTriggers, pragmas) := recursiveTriggers pragmas
  (⟨journalMode, foreignKeys, busyTimeout, pageSize, recursiveTriggers⟩, pragmas)

end Native

-- ---------------------------------------------------------------------------
-- How SQLite reads a flag
-- ---------------------------------------------------------------------------

namespace Sqlite3

/-- The digits that a loop of at most `limit` rounds goes through. -/
def digits (isDigit : Char16 → Bool) (limit : Nat) (z : Text) : Text :=
  ((z.dropWhile (· == 0x30)).takeWhile isDigit).take limit

/-- The value of digits in a base. -/
def digitsValue (base : Nat) (ds : Text) : Nat :=
  ds.foldl (fun v c => base * v + (Base16.value c).getD 0) 0

def isXDigit (c : Char16) : Bool := (Base16.value c).isSome

/-- The part of `sqlite3GetInt32` behind the sign. -/
def getDecimal (neg : Bool) (z : Text) : Option Int :=
  match z with
  | [] => none
  | c :: _ =>
    if !Text.isAsciiDigit c then none
    else
      let ds := digits Text.isAsciiDigit 11 z
      let v : Int := digitsValue 10 ds
      if 10 < ds.length then none
      else if 2147483647 < v - (if neg then 1 else 0) then none
      else some (if neg then -v else v)

/-- The part behind `0x`: a ninth digit or a set sign bit is an error. -/
def getHexadecimal (z : Text) : Option Int :=
  let ds := digits isXDigit 8 z
  if 0x80000000 ≤ digitsValue 16 ds ∨ 8 < (digits isXDigit 9 z).length then none
  else some (digitsValue 16 ds)

/-- `sqlite3GetInt32`; what follows the number is ignored. -/
def getInt32 (z : Text) : Option Int :=
  match z with
  | 0x2D :: rest => getDecimal true rest
  | 0x2B :: rest => getDecimal false rest
  | 0x30 :: x :: h :: rest =>
    if (x = 0x78 ∨ x = 0x58) ∧ isXDigit h then getHexadecimal (h :: rest) else getDecimal false z
  | z => getDecimal false z

def atoi (z : Text) : Int := (getInt32 z).getD 0

/-- `zText` and `iValue` of `getSafetyLevel`. -/
def safetyLevels : List (Text × Int) :=
  [(Text.lit "on", 1), (Text.lit "no", 0), (Text.lit "off", 0), (Text.lit "false", 0),
    (Text.lit "yes", 1), (Text.lit "true", 1), (Text.lit "extra", 3), (Text.lit "full", 2)]

/-- `getSafetyLevel`; an integer is cast to `u8`. -/
def getSafetyLevel (z : Text) (omitFull : Bool) (dflt : Int) : Int :=
  -- `sqlite3Isdigit(*z)`
  if z.head?.any Text.isAsciiDigit then atoi z % 256
  else
    match safetyLevels.find? fun l => decide (z.lowerAscii = l.1) && (!omitFull || l.2 ≤ 1) with
    | some l => l.2
    | none => dflt

/-- `sqlite3GetBoolean`. -/
def getBoolean (value : Text) (dflt : Int) : Bool := getSafetyLevel value true dflt != 0

/-- `zRight` of `PRAGMA key = value`; there is none when the text is no such statement. -/
def zRight (key value : Text) : Option Text :=
  (pragma? (tokens (pragmaSql key value))).bind Pragma.value

/-- The flag after `PRAGMA key = value`, which is off before that. -/
def pragmaFlag (key value : Text) : Bool := ((zRight key value).map (getBoolean · 0)).getD false

end Sqlite3

end SqliteMc
