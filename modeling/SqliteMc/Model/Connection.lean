import SqliteMc.Lib.Script
import SqliteMc.Model.ApplyPragmas
import SqliteMc.Model.Properties
import SqliteMc.Model.Transport

/-!
# Opening connections

What `FactoryConfig.create` is handed (`Attempt`), and what the two platforms do with it:
the native `onCreateConnection` callback, and on the JVM one uncontended call of
`withKeyProps` whose block opens a JDBC connection. Each connection leaves the list of what
it executed.

Whether a statement succeeds, and whether what comes after the key and rekey statements does
(the schema query, the user's pragmas, the creation or migration of the schema), is up to
the environment: an `Outcome` for each connection.
-/

namespace SqliteMc

/-- The two maps `createActual` and `attemptUpgrade` hand to `create`, with what they were
made from. -/
structure Attempt where
  config : EncryptionConfig
  key : Key
  /-- The configuration and the key of the rekey map. -/
  rekey : Option (EncryptionConfig × Key)
  keyPragma : MCPragmas
  rekeyPragma : Option MCPragmas
  keyPragma_eq : config.pragmas false key false = .ok keyPragma
  rekeyPragma_eq : (rekey.map fun r => r.1.pragmas false r.2 true) = rekeyPragma.map .ok

/-- The maps are made one after the other; either can refuse its key. -/
def Attempt.make (config : EncryptionConfig) (key : Key) (rekey : Option (EncryptionConfig × Key)) :
    Except Throwable Attempt :=
  match hkey : config.pragmas false key false with
  | .error e => .error e
  | .ok keyPragma =>
    match rekey with
    | none => .ok ⟨config, key, none, keyPragma, none, hkey, rfl⟩
    | some r =>
      match hrekey : r.1.pragmas false r.2 true with
      | .error e => .error e
      | .ok rekeyPragma =>
        .ok ⟨config, key, some r, keyPragma, some rekeyPragma, hkey, congrArg some hrekey⟩

namespace Attempt

/-- Both ciphers take the key they are to be used with. -/
def accepts (config : EncryptionConfig) (key : Key) (rekey : Option (EncryptionConfig × Key)) :
    Bool :=
  config.cipherConfig.cipher.accepts key &&
    rekey.all fun r => r.1.cipherConfig.cipher.accepts r.2

variable {config : EncryptionConfig} {key : Key} {rekey : Option (EncryptionConfig × Key)}

/-- Accepted keys make an attempt. -/
theorem exists_make (h : accepts config key rekey = true) :
    ∃ a, make config key rekey = .ok a ∧ a.config = config ∧ a.key = key ∧ a.rekey = rekey := by
  obtain ⟨hkey, hrekey⟩ := Bool.and_eq_true_iff.mp h
  -- the key map, and for a rekey the rekey map, can be made
  obtain ⟨m, hm⟩ := EncryptionConfig.pragmas_of_accepts hkey false false
  unfold make
  split
  · rename_i e he
    rw [hm] at he
    cases he
  · cases rekey with
    | none => exact ⟨_, rfl, rfl, rfl, rfl⟩
    | some r =>
      obtain ⟨m', hm'⟩ := EncryptionConfig.pragmas_of_accepts (Option.all_some ▸ hrekey) false true
      dsimp only
      split
      · rename_i e he
        rw [hm'] at he
        cases he
      · exact ⟨_, rfl, rfl, rfl, rfl⟩

/-- A key that is refused is an illegal argument. -/
theorem make_of_refused (h : accepts config key rekey = false) :
    ∃ message, make config key rekey = .error (.illegalArgument message) := by
  unfold make
  split
  · -- the key is refused by the configuration it is for
    rename_i e he
    cases hkey : config.cipherConfig.cipher.accepts key with
    | false =>
      obtain ⟨message, hmessage⟩ := EncryptionConfig.pragmas_of_not_accepts hkey false false
      rw [hmessage] at he
      cases he
      exact ⟨message, rfl⟩
    | true =>
      obtain ⟨m, hm⟩ := EncryptionConfig.pragmas_of_accepts hkey false false
      rw [hm] at he
      cases he
  -- the key is taken, so it is the rekey that is refused
  · rename_i m hm
    have hkey : config.cipherConfig.cipher.accepts key = true := by
      by_contra hkey
      obtain ⟨message, hmessage⟩ :=
        EncryptionConfig.pragmas_of_not_accepts (Bool.eq_false_iff.mpr hkey) false false
      rw [hmessage] at hm
      cases hm
    rw [accepts, hkey, Bool.true_and] at h
    cases rekey with
    | none => cases h
    | some r =>
      obtain ⟨message, hmessage⟩ :=
        EncryptionConfig.pragmas_of_not_accepts (Option.all_some ▸ h) false true
      dsimp only
      split
      · rename_i e he
        rw [hmessage] at he
        cases he
        exact ⟨message, rfl⟩
      · rename_i m' hm'
        rw [hmessage] at hm'
        cases hm'

end Attempt

/-- How a connection fares: which of its key and rekey statements succeed, and whether what
follows them does. -/
structure Outcome where
  statement : Nat → Bool
  rest : Bool

/-- What a connection does. -/
inductive Step where
  | statement (st : Statement) (ok : Bool)
  /-- The rekey map replaces the key map. -/
  | swap
  | rest (ok : Bool)
  deriving DecidableEq

/-- A connection: its steps, and whether it could be opened. -/
structure Connection where
  steps : List Step
  opened : Bool

def Step.statements (executed : List (Statement × Bool)) : List Step :=
  executed.map fun s => .statement s.1 s.2

/-- What was executed of the key and rekey statements. -/
def Connection.executed (c : Connection) : List (Statement × Bool) :=
  c.steps.filterMap fun
    | .statement st ok => some (st, ok)
    | _ => none

-- ---------------------------------------------------------------------------
-- Native
-- ---------------------------------------------------------------------------

/-- The maps that `onCreateConnection` captures. -/
structure Maps where
  keyPragma : MCPragmas
  rekeyPragma : Option MCPragmas

/-- `isNullOrEmpty`. -/
def Maps.rekeyIsNullOrEmpty (m : Maps) : Bool :=
  match m.rekeyPragma with
  | none => true
  | some rekey => rekey.isEmpty

def Maps.swap (m : Maps) : Maps :=
  match m.rekeyPragma with
  | none => m
  | some rekey => { keyPragma := rekey.swapped, rekeyPragma := some .empty }

/-- The part of `onCreateConnection` for a rekey map; `n` statements have been executed. -/
def Maps.rekey (m : Maps) (o : Outcome) (n : Nat) (executed : List (Statement × Bool)) :
    Maps × Connection :=
  match (m.rekeyPragma.getD .empty).toMCSQLStatements with
  -- what cannot be made is thrown before a statement of it is executed
  | .error _ => (m, ⟨Step.statements executed, false⟩)
  | .ok rekeyStatements =>
    let r := Script.exec o.statement n rekeyStatements
    -- the maps are swapped when all of the statements have succeeded
    if r.2 then
      (m.swap, ⟨Step.statements (executed ++ r.1) ++ [.swap, .rest o.rest], o.rest⟩)
    else (m, ⟨Step.statements (executed ++ r.1), false⟩)

def onCreateConnection (o : Outcome) (m : Maps) : Maps × Connection :=
  match m.keyPragma.toMCSQLStatements with
  | .error _ => (m, ⟨[], false⟩)
  | .ok keyStatements =>
    let k := Script.exec o.statement 0 keyStatements
    -- a statement that fails closes the connection
    if !k.2 then (m, ⟨Step.statements k.1, false⟩)
    else if m.rekeyIsNullOrEmpty then
      (m, ⟨Step.statements k.1 ++ [.rest o.rest], o.rest⟩)
    else m.rekey o keyStatements.length k.1

/-- The catch block of `create`: `keyPragma.clear()` and `rekeyPragma?.clear()`. -/
def Maps.clear (m : Maps) : Maps where
  keyPragma := .empty
  rekeyPragma := m.rekeyPragma.map fun _ => .empty

/-- `PlatformDriver.close`; the driver knows the key map only. -/
def Maps.close (m : Maps) : Maps := { m with keyPragma := .empty }

/-- What can happen to the maps: a connection is opened, the driver is closed, or the
`create` they were made for throws. (What it throws outside of its try block leaves no
manager behind that could open a connection.) -/
inductive Maps.Event where
  | connect (o : Outcome)
  | close
  | createThrows

/-- The maps after a sequence of events, and the connections in it. -/
def Maps.life : Maps → List Event → Maps × List Connection
  | m, [] => (m, [])
  | m, .connect o :: rest =>
    let r := life (onCreateConnection o m).1 rest
    (r.1, (onCreateConnection o m).2 :: r.2)
  | m, .close :: rest => life m.close rest
  | m, .createThrows :: rest => life m.clear rest

-- ---------------------------------------------------------------------------
-- JVM
-- ---------------------------------------------------------------------------

/-- A connection block: the statements of the password are executed first. -/
def Connection.ofPassword (o : Outcome) (password : Option (List Statement)) : Connection :=
  let r := Script.exec o.statement 0 (password.getD [])
  if r.2 then ⟨Step.statements r.1 ++ [.rest o.rest], o.rest⟩ else ⟨Step.statements r.1, false⟩

/-- `withKeyProps`, from start to end. -/
def JDBCMCProperties.withKeyProps (o : Outcome) (sh : JDBCMCProperties) :
    JDBCMCProperties × Connection :=
  if sh.isInitialized then (sh, .ofPassword o sh.properties.password)
  else
    match sh.packIfAbsent sh.properties with
    -- nothing could be packed, and the flag stays as it is
    | .error _ => (sh, ⟨[], false⟩)
    | .ok keyProp =>
      let c := Connection.ofPassword o keyProp.password
      -- `finally` clears the copy, the properties themselves are untouched
      if !c.opened then (sh, c)
      else
        let steps := c.steps ++ (if sh.rekeyPragma.isSome then [.swap] else [])
        match sh.swap.repack with
        | .error _ => (sh.swap, ⟨steps, false⟩)
        | .ok sh' => ({ sh' with isInitialized := true }, ⟨steps, true⟩)

-- ---------------------------------------------------------------------------
-- Sequences of connections
-- ---------------------------------------------------------------------------

section Sequences

variable {σ : Type} (connect : Outcome → σ → σ × Connection)

/-- The connections that opening a database makes: the first one that fails is the last. -/
def openAll (s : σ) : List Outcome → σ × List Connection × Bool
  | [] => (s, [], true)
  | o :: rest =>
    if (connect o s).2.opened then
      let r := openAll (connect o s).1 rest
      (r.1, (connect o s).2 :: r.2.1, r.2.2)
    else ((connect o s).1, [(connect o s).2], false)

/-- The connections of an open database: one that fails does not prevent the next. -/
def openMore (s : σ) : List Outcome → List Connection
  | [] => []
  -- the state goes on, opened or not
  | o :: rest => (connect o s).2 :: openMore (connect o s).1 rest

/-- Opening the database with a first and some `more` connections, and, if all of them
succeed, the connections that are made `later`. -/
def session (s : σ) (first : Outcome) (more later : List Outcome) : List Connection :=
  let r := openAll connect s (first :: more)
  if r.2.2 then r.2.1 ++ openMore connect r.1 later else r.2.1

end Sequences

namespace Attempt

def maps (a : Attempt) : Maps where
  keyPragma := a.keyPragma
  rekeyPragma := a.rekeyPragma

/-- The properties the JVM driver starts with. -/
def properties (a : Attempt) (user : LinkedMap Text Text) : JDBCMCProperties where
  keyPragma := some a.keyPragma
  rekeyPragma := a.rekeyPragma
  isInitialized := false
  properties := { user := user }

end Attempt

end SqliteMc
