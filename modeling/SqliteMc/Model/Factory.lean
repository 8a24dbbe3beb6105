import SqliteMc.Model.Connection

/-!
# SQLiteMCDriver.Factory

`createActual` and `attemptUpgrade`, over any environment: what `FactoryConfig.create` does
with the two maps it is handed is a function on a state `σ` that gives a driver's arguments
or an exception.

The factory's own state is the flag `hasOpened`. Calls are taken one after the other, as
the factory's dispatcher does with its parallelism of one. The log messages are left out:
the logger of a `FactoryConfig` swallows whatever the user's function throws.
-/

namespace SqliteMc

inductive EphemeralOpt where
  | inMemory
  | named
  | temporary
  deriving DecidableEq, Repr

/-- The two `FactoryConfig.create` of a platform. -/
structure Opener (σ δ : Type) where
  create : Attempt → σ → Except Throwable δ × σ
  createEphemeral : EphemeralOpt → σ → Except Throwable δ × σ

variable {σ δ : Type}

/-- Make the maps and hand them to `create`. -/
def openDatabase (create : Attempt → σ → Except Throwable δ × σ) (config : EncryptionConfig)
    (key : Key) (rekey : Option (EncryptionConfig × Key)) (s : σ) : Except Throwable δ × σ :=
  match Attempt.make config key rekey with
  | .error e => (.error e, s)
  | .ok attempt => create attempt s

/-- The loop of `attemptUpgrade`, with the migrations in the order they are tried. -/
def attemptUpgrade (create : Attempt → σ → Except Throwable δ × σ) (current : EncryptionConfig)
    (key rekey : Key) : List EncryptionMigration → Option Throwable → σ → Except Throwable δ × σ
  | [], lastError, s =>
    (.error (.illegalState
      (Text.lit "Failed to open database. All migration attempts failed.") lastError), s)
  -- each error takes the place of the last one
  | migration :: rest, _, s =>
    match openDatabase create migration.encryptionConfig key (some (current, rekey)) s with
    | (.ok args, s') => (.ok args, s')
    | (.error t, s') => attemptUpgrade create current key rekey rest (some t) s'

structure Factory (σ : Type) where
  filesystemConfig : FilesystemConfig
  hasOpened : Bool := false
  env : σ

namespace Factory

/-- The body of `createActual` up to the driver's arguments. -/
def openOrUpgrade (create : Attempt → σ → Except Throwable δ × σ) (f : Factory σ) (key : Key)
    (rekey : Option Key) : Except Throwable δ × σ :=
  let current := f.filesystemConfig.encryptionConfig
  match openDatabase create current key (rekey.map fun r => (current, r)) f.env with
  | (.ok args, s) => (.ok args, s)
  | (.error e, s) =>
    -- catch (e: IllegalStateException)
    if e.isIllegalState then
      match f.filesystemConfig.encryptionMigrationConfig with
      | none => (.error e, s)
      | some config =>
        if !f.hasOpened then
          attemptUpgrade create current key (rekey.getD key) config.migrations.keys.reverse none s
        else (.error e, s)
    else (.error e, s)

def createActual (create : Attempt → σ → Except Throwable δ × σ) (f : Factory σ) (key : Key)
    (rekey : Option Key) : Except Throwable δ × Factory σ :=
  match f.openOrUpgrade create key rekey with
  | (.ok args, s) => (.ok args, { f with hasOpened := true, env := s })
  | (.error e, s) => (.error e, { f with env := s })

/-- The calls of the three `create` functions. -/
inductive Call where
  | create (key : Key)
  | createRekey (key rekey : Key)
  | createEphemeral (opt : EphemeralOpt)

def call (o : Opener σ δ) (f : Factory σ) : Call → Except Throwable δ × Factory σ
  | .create key => f.createActual o.create key none
  | .createRekey key rekey => f.createActual o.create key (some rekey)
  | .createEphemeral opt =>
    ((o.createEphemeral opt f.env).1, { f with env := (o.createEphemeral opt f.env).2 })

end Factory

-- ---------------------------------------------------------------------------
-- Histories
-- ---------------------------------------------------------------------------

/-- What an open was asked for. -/
inductive Target where
  | keyed (config : EncryptionConfig) (key : Key) (rekey : Option (EncryptionConfig × Key))
  | ephemeral (opt : EphemeralOpt)
  deriving DecidableEq

/-- An open, and what came of it. -/
structure Open (δ : Type) where
  target : Target
  result : Except Throwable δ

def Attempt.target (a : Attempt) : Target := .keyed a.config a.key a.rekey

/-- The same opener, with a record of its opens. -/
def Opener.traced (o : Opener σ δ) : Opener (σ × List (Open δ)) δ where
  create a s := ((o.create a s.1).1, (o.create a s.1).2, s.2 ++ [⟨a.target, (o.create a s.1).1⟩])
  createEphemeral opt s :=
    ((o.createEphemeral opt s.1).1, (o.createEphemeral opt s.1).2,
      s.2 ++ [⟨.ephemeral opt, (o.createEphemeral opt s.1).1⟩])

/-- A call, the opens it made, and what came of it. -/
structure Record (δ : Type) where
  call : Factory.Call
  opens : List (Open δ)
  result : Except Throwable δ

/-- The calls made on a factory, one after the other. -/
def Factory.history (o : Opener σ δ) : Factory σ → List Call → List (Record δ)
  | _, [] => []
  | f, c :: rest =>
    let r := Factory.call o.traced { f with env := (f.env, []) } c
    ⟨c, r.2.env.2, r.1⟩ :: history o { r.2 with env := r.2.env.1 } rest

end SqliteMc
