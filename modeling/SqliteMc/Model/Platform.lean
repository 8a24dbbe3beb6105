import SqliteMc.Model.Engine
import SqliteMc.Model.Factory

/-!
# FactoryConfig.create on the two platforms

`Platform.create` opens the connections of an attempt and lets them act on the database
file. How far it gets is up to the environment: what comes before the first connection can
throw, each connection has its `Outcome`, and so do the steps after the connections (the
schema's creation or migration, the `AfterVersion` callbacks).

The file's encryption changes when a `PRAGMA rekey` succeeds, all at once: it is then under
the codec that the connection's parameter tables give at that moment. On the JVM the
statements arrive as the password transport carries them.

* `text_received` — a received statement is the text that the transport delivers.
-/

namespace SqliteMc

-- ---------------------------------------------------------------------------
-- The database file
-- ---------------------------------------------------------------------------

/-- What a file is encrypted with. -/
structure Encryption where
  cipher : Engine.CodecCipher
  key : Text

namespace Engine

/-- The file after a successful statement on a connection with the tables `t`; an empty key
removes the encryption. -/
def fileAfter (t : Parameters) (file : Option Encryption) : Statement → Option Encryption
  | .rekey value => if value = emptyKey then none else some ⟨t.codec.cipher, value⟩
  | _ => file

/-- The file after what a connection with the tables `t` executed. -/
def replay (received : Statement → Statement) :
    Parameters → Option Encryption → List (Statement × Bool) → Option Encryption
  | _, file, [] => file
  | t, file, (st, true) :: rest =>
    replay received (exec t (received st)) (fileAfter t file (received st)) rest
  -- a statement that fails does nothing, and is the connection's last
  | _, file, (_, false) :: _ => file

end Engine

-- ---------------------------------------------------------------------------
-- Platforms
-- ---------------------------------------------------------------------------

/-- A statement whose texts have been through the transport `carry`. -/
def Statement.received (carry : Text → Text) : Statement → Statement
  | .cipher schema value => .cipher schema (carry value)
  | .key value => .key (carry value)
  | .rekey value => .rekey (carry value)
  | .selectSchema => .selectSchema
  | .journalModeDelete => .journalModeDelete
  | .config schema pragma integer => .config schema pragma integer

structure Platform where
  State : Type
  start : Attempt → State
  connect : Outcome → State → State × Connection
  /-- What the way to SQLite makes of a text. -/
  carry : Text → Text
  /-- The message of the exception that wraps whatever opening throws. -/
  failure : Text

namespace Platform

def native : Platform where
  State := Maps
  start := Attempt.maps
  connect := onCreateConnection
  carry := id
  failure := Text.lit "Failed to create DatabaseManager"

def jvm (dbName : Text) (user : LinkedMap Text Text) : Platform where
  State := JDBCMCProperties
  start a := a.properties user
  connect := JDBCMCProperties.withKeyProps
  carry := carried
  failure := Text.lit "Failed to open JDBC connection with " ++ dbName

/-- The platforms there are. -/
inductive Kind where
  | native
  | jvm (dbName : Text) (user : LinkedMap Text Text)

def Kind.platform : Kind → Platform
  | .native => Platform.native
  | .jvm dbName user => Platform.jvm dbName user

end Platform

-- ---------------------------------------------------------------------------
-- Creating a driver
-- ---------------------------------------------------------------------------

/-- How a call of `create` fares. -/
structure CreateOutcome where
  /-- What is thrown before the first connection, if anything is. -/
  before : Option Throwable
  first : Outcome
  more : List Outcome
  /-- What follows the connections comes to its end. -/
  finished : Bool
  /-- The exception with which opening fails, if it does. -/
  error : Throwable
  /-- What is thrown once the database is open, if anything is. -/
  after : Option Throwable

/-- A call of `create`, and the connections it opened. -/
structure Opening where
  attempt : Attempt
  connections : List Connection

/-- The database file, and the calls of `create` so far. -/
structure World where
  file : Option Encryption
  openings : List Opening

/-- The connections of an attempt act on the file, one after the other. -/
def World.record (w : World) (carry : Text → Text) (a : Attempt) (connections : List Connection) :
    World where
  file := connections.foldl (fun file c =>
    Engine.replay (Statement.received carry) Engine.Parameters.new file c.executed) w.file
  openings := w.openings ++ [⟨a, connections⟩]

/-- `if (t is IllegalStateException) throw t else throw IllegalStateException(message, t)`. -/
def orIllegalState (message : Text) (t : Throwable) : Throwable :=
  if t.isIllegalState then t else .illegalState message (some t)

/-- `FactoryConfig.create(keyPragma, rekeyPragma)`; `outcome n` is how the `n`-th call fares. -/
def Platform.create (P : Platform) (outcome : Nat → CreateOutcome) (a : Attempt) (w : World) :
    Except Throwable P.State × World :=
  let o := outcome w.openings.length
  match o.before with
  | some t => (.error t, w.record P.carry a [])
  | none =>
    let r := openAll P.connect (P.start a) (o.first :: o.more)
    let w' := w.record P.carry a r.2.1
    if r.2.2 && o.finished then
      -- after the try block nothing is wrapped
      match o.after with
      | none => (.ok r.1, w')
      | some t => (.error t, w')
    else (.error (orIllegalState P.failure o.error), w')

-- ---------------------------------------------------------------------------
-- The transport
-- ---------------------------------------------------------------------------

theorem carried_append (s t : Text) : carried (s ++ t) = carried s ++ carried t :=
  List.map_append

/-- What the transport delivers of a statement is the received statement. -/
theorem Statement.text_received (st : Statement) :
    (st.received carried).text = carried st.text := by
  -- everything but the values is written in ASCII
  have hlit : ∀ s : String, (s.toList.all fun c => decide (c.toNat < 0x80)) = true →
      carried (Text.lit s) = Text.lit s := by
    intro s hs
    refine carried_of_isAscii fun c hc => ?_
    obtain ⟨x, hx, rfl⟩ := List.mem_map.mp hc
    have hlt : x.toNat < 0x80 := of_decide_eq_true (List.all_eq_true.mp hs x hx)
    rw [BitVec.toNat_ofNat]
    omega
  have hschema : ∀ schema : Schema, carried schema.name = schema.name := by
    intro schema
    cases schema <;> exact hlit _ rfl
  have hname : ∀ p : MCPragma, carried p.name = p.name := by
    intro p
    cases p <;> exact hlit _ rfl
  cases st with
  | selectSchema => exact (hlit _ rfl).symm
  | journalModeDelete => exact (hlit _ rfl).symm
  | cipher schema value =>
    simp only [text, carried_append, hschema, hname, received]
    rw [hlit _ rfl, hlit _ rfl, hlit _ rfl]
  | config schema pragma integer =>
    simp only [text, carried_append, hschema, hname, received]
    rw [hlit _ rfl, hlit _ rfl, hlit _ rfl, carried_of_isAscii (Text.isAscii_ofInt32 integer)]
  | key value =>
    simp only [text, carried_append, hname, received]
    rw [hlit _ rfl, hlit _ rfl]
  | rekey value =>
    simp only [text, carried_append, hname, received]
    rw [hlit _ rfl, hlit _ rfl]

end SqliteMc
