import SqliteMc.Lib.Transition
import SqliteMc.Model.Pragma

/-!
# JDBCMCProperties

The connection properties of the JVM driver, shared by all threads that open connections.
`withKeyProps` reads a volatile flag without the lock, reads it again with the lock, packs
the statements into a copy of the properties, runs the connection block, and after the
first success moves the rekey map into the key map and packs the key statements into the
properties themselves.

`Thread.act` is that program a step at a time: what is done while the lock is held and
nobody reads without it is one step, what an unlocked reader can see in between is a step
of its own. A connection block is handed the properties in one step and returns in another.

A password is kept as the list of the statements that are packed into it.
-/

namespace SqliteMc

open Transition

/-- `java.util.Properties`: the packed password and the user's entries, none of which is
named password. -/
structure Properties where
  password : Option (List Statement) := none
  user : LinkedMap Text Text := .empty
  deriving DecidableEq

structure JDBCMCProperties where
  keyPragma : Option MCPragmas
  rekeyPragma : Option MCPragmas
  isInitialized : Bool
  properties : Properties
  deriving DecidableEq

namespace JDBCMCProperties

/-- `JDBCMCProperties.of(keyPragma, rekeyPragma)`, with the user's entries put into it. -/
def of (keyPragma : MCPragmas) (rekeyPragma : Option MCPragmas) (user : LinkedMap Text Text) :
    Except Throwable JDBCMCProperties := do
  require (keyPragma.contains .key) "keyPragma must contain Pragma.MC.KEY"
  require (¬ keyPragma.contains .reKey) "keyPragma cannot contain Pragma.MC.RE_KEY"
  require (∀ m ∈ rekeyPragma, m.contains .reKey) "rekeyPragma must contain Pragma.MC.RE_KEY"
  require (∀ m ∈ rekeyPragma, ¬ m.contains .key) "rekeyPragma cannot contain Pragma.MC.KEY"
  return { keyPragma := some keyPragma, rekeyPragma := rekeyPragma, isInitialized := false,
           properties := { user := user } }

/-- `JDBCMCProperties.of()`, for a database without encryption. -/
def ofNothing (user : LinkedMap Text Text) : JDBCMCProperties where
  keyPragma := none
  rekeyPragma := none
  isInitialized := true
  properties := { user := user }

/-- `try { … } catch (e: IllegalArgumentException) { throw SQLException(message, e) }`. -/
def orSqlException {α : Type} (message : String) (x : Except Throwable α) : Except Throwable α :=
  match x with
  | .ok a => .ok a
  | .error e => .error (if e.isIllegalArgument then .sql (Text.lit message) (some e) else e)

/-- The statements of both maps, those of the key map first. -/
def packedStatements (keyPragma : MCPragmas) (rekeyPragma : Option MCPragmas) :
    Except Throwable (List Statement) := do
  let keyStatements ←
    orSqlException "Failed to create key statements" keyPragma.toMCSQLStatements
  match rekeyPragma with
  | none => return keyStatements
  | some m => do
    let reKeyStatements ←
      orSqlException "Failed to create rekey statements" m.toMCSQLStatements
    return keyStatements ++ reKeyStatements

/-- `packMCSqlStatements`, run on `properties`. -/
def packMCSqlStatements (sh : JDBCMCProperties) (properties : Properties) :
    Except Throwable Properties :=
  match sh.keyPragma with
  | none => .ok properties
  | some keyPragma => do
    let statements ← packedStatements keyPragma sh.rekeyPragma
    return { password := some statements, user := properties.user.remove (Text.lit "hexkey_mode") }

/-- `if (!properties.containsKey("password")) properties.packMCSqlStatements(…)`. -/
def packIfAbsent (sh : JDBCMCProperties) (properties : Properties) : Except Throwable Properties :=
  if properties.password.isSome then .ok properties else sh.packMCSqlStatements properties

/-- After a successful first connection: the rekey map, if any, replaces the key map. -/
def swap (sh : JDBCMCProperties) : JDBCMCProperties :=
  match sh.keyPragma, sh.rekeyPragma with
  | some _, some rekey => { sh with keyPragma := some rekey.swapped, rekeyPragma := none }
  | _, _ => sh

/-- The key statements packed into the properties themselves, for all further connections. -/
def repack (sh : JDBCMCProperties) : Except Throwable JDBCMCProperties :=
  if sh.keyPragma.isNone then .ok sh
  else (sh.packIfAbsent sh.properties).map fun properties => { sh with properties := properties }

/-- The locked part of `clear`. -/
def clearMaps (sh : JDBCMCProperties) : JDBCMCProperties :=
  { sh with
    keyPragma := sh.keyPragma.map fun _ => .empty
    rekeyPragma := sh.rekeyPragma.map fun _ => .empty }

/-- `super.clear()`. -/
def superClear (sh : JDBCMCProperties) : JDBCMCProperties := { sh with properties := {} }

end JDBCMCProperties

-- ---------------------------------------------------------------------------
-- Threads
-- ---------------------------------------------------------------------------

/-- How a block came to be run: without the lock, with the lock after the second look at
the flag, or on a copy of the properties. -/
inductive Path where
  | unlocked
  | locked
  | first
  deriving DecidableEq, Repr

/-- Where a thread is. -/
inductive Pc where
  | idle
  | enter
  | connectUnlocked
  | synchronize
  | recheck
  | connectLocked
  | pack (keyProp : Properties)
  | connectFirst (keyProp : Properties)
  | block (path : Path) (password : Option (List Statement))
  | swap
  | repack
  | setInitialized
  | unlock (ok : Bool)
  | clear
  | clearMaps
  | superClear
  deriving DecidableEq

/-- The thread holds the lock. -/
def Pc.holds : Pc → Bool
  | recheck | connectLocked | pack _ | connectFirst _ | swap | repack | setInitialized | unlock _
  | clearMaps => true
  | block path _ => path != .unlocked
  | _ => false

/-- A thread, and whether it has changed the shared state since it was last called. -/
structure Thread where
  pc : Pc := .idle
  changed : Bool := false

/-- What the threads do that others can tell: a block is handed a password, it returns, a
call throws after having changed the shared state or not, the maps are cleared. -/
inductive Event where
  | handed (i : ThreadId) (password : Option (List Statement))
  | returned (i : ThreadId) (password : Option (List Statement)) (ok : Bool)
  | threw (i : ThreadId) (changed : Bool)
  | cleared
  deriving DecidableEq

/-- What can happen next: a thread calls `withKeyProps` or `clear`, takes a step, or its
block returns with a connection or an exception. -/
inductive Action where
  | withKeyProps
  | clear
  | go
  | returns (ok : Bool)
  deriving DecidableEq

/-- The effect of going on at `pc`, with the other parts of the state as they are. -/
abbrev goto (sh : JDBCMCProperties) (lock : Option ThreadId) (pc : Pc)
    (events : List Event := []) : Effect JDBCMCProperties Pc Event :=
  { shared := sh, lock := lock, thread := pc, events := events }

/-- One step of a thread. -/
def Pc.act (i : ThreadId) (sh : JDBCMCProperties) (lock : Option ThreadId) (changed : Bool) :
    Pc → Action → Option (Effect JDBCMCProperties Pc Event)
  | .idle, .withKeyProps => some (goto sh lock .enter)
  | .idle, .clear => some (goto sh lock .clear)
  -- both reads of `isInitialized`, without and with the lock
  | .enter, .go => some (goto sh lock (if sh.isInitialized then .connectUnlocked else .synchronize))
  | .connectUnlocked, .go =>
    some (goto sh lock (.block .unlocked sh.properties.password)
      [.handed i sh.properties.password])
  | .synchronize, .go => if lock = none then some (goto sh (some i) .recheck) else none
  | .recheck, .go =>
    some (goto sh lock (if sh.isInitialized then .connectLocked else .pack sh.properties))
  | .connectLocked, .go =>
    some (goto sh lock (.block .locked sh.properties.password) [.handed i sh.properties.password])
  -- a throw of `packMCSqlStatements` leaves the monitor
  | .pack keyProp, .go =>
    match sh.packIfAbsent keyProp with
    | .ok keyProp' => some (goto sh lock (.connectFirst keyProp'))
    | .error _ => some (goto sh lock (.unlock false))
  | .connectFirst keyProp, .go =>
    some (goto sh lock (.block .first keyProp.password) [.handed i keyProp.password])
  -- without the lock the call ends here, else the monitor is left first
  | .block .unlocked password, .returns ok =>
    some (goto sh lock .idle
      (.returned i password ok :: if ok then [] else [.threw i changed]))
  | .block .locked password, .returns ok =>
    some (goto sh lock (.unlock ok) [.returned i password ok])
  | .block .first password, .returns ok =>
    some (goto sh lock (if ok then .swap else .unlock false) [.returned i password ok])
  | .swap, .go => some (goto sh.swap lock .repack)
  | .repack, .go =>
    match sh.repack with
    | .ok sh' => some (goto sh' lock .setInitialized)
    | .error _ => some (goto sh lock (.unlock false))
  | .setInitialized, .go => some (goto { sh with isInitialized := true } lock (.unlock true))
  | .unlock ok, .go => some (goto sh none .idle (if ok then [] else [.threw i changed]))
  | .clear, .go => if lock = none then some (goto sh (some i) .clearMaps) else none
  | .clearMaps, .go => some (goto sh.clearMaps none .superClear [.cleared])
  | .superClear, .go => some (goto sh.superClear lock .idle)
  | _, _ => none

/-- One step of a thread, noting whether it changed the shared state. -/
def Thread.act (i : ThreadId) (sh : JDBCMCProperties) (lock : Option ThreadId) (t : Thread)
    (a : Action) : Option (Effect JDBCMCProperties Thread Event) :=
  (t.pc.act i sh lock t.changed a).map fun e =>
    { shared := e.shared
      lock := e.lock
      thread :=
        { pc := e.thread
          changed := (t.changed && a ≠ .withKeyProps) || e.shared ≠ sh }
      events := e.events }

/-- The properties with all threads that use them. -/
abbrev System := Pool JDBCMCProperties Thread Event

def System.init (sh : JDBCMCProperties) : System where
  shared := sh
  lock := none
  threads := fun _ => {}
  log := []

/-- A run of the threads, in any order of their steps. -/
def System.run (s : System) (labels : List (ThreadId × Action)) : Option System :=
  Transition.run (Pool.step Thread.act) s labels

end SqliteMc
