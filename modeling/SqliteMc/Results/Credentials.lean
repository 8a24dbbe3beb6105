import SqliteMc.Results.Connection

/-!
# Credentials after close

Once a driver is closed, or the `create` that should have returned it has thrown, no
connection gets to see a key again.

On the JVM both are calls of `JDBCMCProperties.clear`. Of its two steps the first empties
the maps with the lock held, so nothing can be packed afterwards; it is the second one,
without the lock, that drops the packed password. In between an attempt can still be handed
the password, and nothing makes up for that: the invariant `Forgotten` holds from the moment
`clear` returns (`forgotten_step`). On native the emptied key map makes
`toMCSQLStatements` throw, which is the first thing a connection does.

`credentials_unusable` states both.
-/

namespace SqliteMc

open Transition

/-! ## JVM -/

/-- A call of `clear` returns: a thread takes the last step of it. -/
def System.ClearReturns (s s' : System) : Prop :=
  ∃ i, (s.threads i).pc = .superClear ∧ Pool.step Thread.act s (i, .go) = some s'

/-- Nothing is left of the credentials. -/
structure Forgotten (s : System) : Prop where
  cleared : cleared s.log = true
  password : s.shared.properties.password = none

section Jvm

variable {keyPragma : MCPragmas} {rekeyPragma : Option MCPragmas}

/-- A step of a thread when the credentials are gone: whoever would put the password back
holds the lock and knows that the maps have not been cleared. -/
theorem Pc.act_forgotten {i : ThreadId} {sh : JDBCMCProperties} {lock : Option ThreadId}
    {changed : Bool} {log : List Event} {pc : Pc} {a : Action}
    {e : Effect JDBCMCProperties Pc Event} (hpc : PcInv keyPragma rekeyPragma sh log pc)
    (hcleared : cleared log = true) (hpassword : sh.properties.password = none)
    (h : pc.act i sh lock changed a = some e) :
    e.shared.properties.password = none ∧ e.shared.isInitialized = sh.isInitialized ∧
      ∀ j password, .handed j password ∈ e.events → password = none ∧ sh.isInitialized = true := by
  have hnot : cleared log ≠ false := by
    rw [hcleared]
    decide
  -- a block that is run without the first connection gets the properties as they are
  have hhanded : sh.isInitialized = true → ∀ j password,
      Event.handed j password ∈ [Event.handed i sh.properties.password] →
        password = none ∧ sh.isInitialized = true := by
    intro hflag j password hmem
    injection List.mem_singleton.mp hmem with _ heq
    exact ⟨heq.trans hpassword, hflag⟩
  revert h
  fun_cases Pc.act i sh lock changed pc a
  all_goals rintro ⟨⟩
  case case4 => exact ⟨hpassword, rfl, hhanded hpc⟩
  case case8 => exact ⟨hpassword, rfl, hhanded hpc⟩
  -- the first connection and the changes after it
  case case11 => exact absurd hpc.notCleared hnot
  case case14 => exact absurd hpc.notCleared hnot
  case case15 => exact absurd hpc.notCleared hnot
  case case16 => exact absurd hpc.notCleared hnot
  case case18 =>
    obtain ⟨_, -, hcommitting⟩ := hpc
    exact absurd hcommitting.notCleared hnot
  case case23 => exact ⟨rfl, rfl, by simp⟩
  -- no other step hands a password to a block, or touches the one there is
  all_goals
    refine ⟨hpassword, rfl, fun j password hmem => ?_⟩
    try split at hmem
  all_goals simp at hmem

/-- Every step of every thread keeps the credentials forgotten. -/
theorem forgotten_step {s s' : System} {label : ThreadId × Action}
    (hs : Inv keyPragma rekeyPragma s) (hforgotten : Forgotten s)
    (h : Pool.step Thread.act s label = some s') :
    Forgotten s' ∧ s'.shared.isInitialized = s.shared.isInitialized ∧
      ∃ es, s'.log = s.log ++ es ∧ ∀ j password, .handed j password ∈ es →
        password = none ∧ s.shared.isInitialized = true := by
  obtain ⟨i, a⟩ := label
  obtain ⟨e, he, rfl⟩ := System.step_eq_some.mp h
  obtain ⟨hpassword, hflag, hhanded⟩ :=
    Pc.act_forgotten (hs.threads i) hforgotten.cleared hforgotten.password he
  refine ⟨⟨?_, hpassword⟩, hflag, e.events, rfl, hhanded⟩
  show cleared (s.log ++ e.events) = true
  rw [cleared_append, hforgotten.cleared]
  rfl

/-- What a run finds that starts when the credentials are gone. -/
structure AfterClear (s s' : System) : Prop where
  /-- No password comes back, and none is on its way to a block. -/
  forgotten : Forgotten s'
  copies : ∀ i keyProp, (s'.threads i).pc ≠ .connectFirst keyProp
  /-- A block is handed no password, and it is run only if there was a first connection. -/
  handed : ∃ es, s'.log = s.log ++ es ∧ ∀ i password, .handed i password ∈ es →
    password = none ∧ s.shared.isInitialized = true

/-- What has forgotten the key never uses it again, whatever the threads do. -/
theorem forgotten_run (haccepted : Accepted keyPragma rekeyPragma) {s s' : System}
    {labels : List (ThreadId × Action)} (hs : Inv keyPragma rekeyPragma s)
    (hforgotten : Forgotten s) (hrun : s.run labels = some s') : AfterClear s s' := by
  -- what one step adds to the log is appended to what the steps before it did
  have hinv : Inv keyPragma rekeyPragma s' ∧ Forgotten s' ∧
      s'.shared.isInitialized = s.shared.isInitialized ∧
      ∃ es, s'.log = s.log ++ es ∧ ∀ i password, .handed i password ∈ es →
        password = none ∧ s.shared.isInitialized = true := by
    refine run_invariant (I := fun t => Inv keyPragma rekeyPragma t ∧ Forgotten t ∧
      t.shared.isInitialized = s.shared.isInitialized ∧
      ∃ es, t.log = s.log ++ es ∧ ∀ i password, .handed i password ∈ es →
        password = none ∧ s.shared.isInitialized = true) ?_ ?_ hrun
    · rintro t label t' ⟨ht, hforgotten, hflag, es, hes, hhanded⟩ hstep
      obtain ⟨hforgotten', hflag', es', hes', hhanded'⟩ := forgotten_step ht hforgotten hstep
      refine ⟨inv_step haccepted ht hstep, hforgotten', hflag'.trans hflag, es ++ es', ?_, ?_⟩
      · rw [hes', hes, List.append_assoc]
      · intro i password hmem
        rcases List.mem_append.mp hmem with hmem | hmem
        · exact hhanded i password hmem
        · rw [← hflag]
          exact hhanded' i password hmem
    · refine ⟨hs, hforgotten, rfl, [], (List.append_nil _).symm, fun i password hmem => ?_⟩
      exact absurd hmem List.not_mem_nil
  obtain ⟨hinv', hforgotten', -, hhanded⟩ := hinv
  -- a copy that was packed is only held while the maps have not been cleared
  refine ⟨hforgotten', fun i keyProp hpc => ?_, hhanded⟩
  have hthread := hinv'.threads i
  rw [hpc] at hthread
  exact absurd hthread.notCleared (by rw [hforgotten'.cleared]; decide)

/-- When `clear` returns, the credentials are gone. -/
theorem forgotten_of_clearReturns {s s' : System} (hs : Inv keyPragma rekeyPragma s)
    (h : s.ClearReturns s') : Forgotten s' := by
  obtain ⟨i, hpc, hstep⟩ := h
  -- the maps were emptied one step before, with the lock held
  have hcleared : cleared s.log = true := by
    have hthread := hs.threads i
    rw [hpc] at hthread
    exact hthread
  obtain ⟨e, he, rfl⟩ := System.step_eq_some.mp hstep
  rw [hpc] at he
  obtain rfl : goto s.shared.superClear s.lock .idle = e := Option.some_inj.mp he
  refine ⟨?_, rfl⟩
  show cleared (s.log ++ []) = true
  rw [List.append_nil, hcleared]

end Jvm

/-! ## Native -/

/-- With an emptied key map a connection fails before it executes anything. -/
theorem onCreateConnection_emptied {m : Maps} (h : m.keyPragma = .empty) (o : Outcome) :
    onCreateConnection o m = (m, ⟨[], false⟩) := by
  unfold onCreateConnection
  rw [h]
  rfl

/-- A native session without a key opens nothing, whatever happens to it. -/
theorem life_emptied {m : Maps} (h : m.keyPragma = .empty) (events : List Maps.Event) :
    ∀ c ∈ (m.life events).2, c = ⟨[], false⟩ := by
  induction events generalizing m with
  | nil => exact fun c hc => absurd hc List.not_mem_nil
  | cons event rest ih =>
    cases event with
    -- a connection fails on the empty map, and leaves the maps as they are
    | connect o =>
      have hrest := ih (m := (onCreateConnection o m).1)
      intro c hc
      rw [onCreateConnection_emptied h] at hrest
      simp only [Maps.life, onCreateConnection_emptied h] at hc
      rcases List.mem_cons.mp hc with rfl | hc
      · rfl
      · exact hrest h c hc
    | close => exact ih rfl
    | createThrows => exact ih rfl

/-- The key map is empty after the driver was closed or `create` threw. -/
theorem keyPragma_life_concat {last : Maps.Event} (h : last = .close ∨ last = .createThrows)
    (m : Maps) (events : List Maps.Event) :
    (m.life (events ++ [last])).1.keyPragma = .empty := by
  induction events generalizing m with
  | nil => rcases h with rfl | rfl <;> rfl
  | cons event rest ih =>
    cases event with
    | connect o => exact ih (onCreateConnection o m).1
    | close => exact ih m.close
    | createThrows => exact ih m.clear

/--
**Credentials are unusable after close or failure.** On the JVM, in every run of any threads
that open connections and clear the properties: from the moment that a call of `clear`
returns there is no password, and no block is handed one. On native, whatever happened to
the maps before: once the driver is closed or `create` has thrown, every connection fails
without having executed a statement.
-/
theorem credentials_unusable :
    (∀ (keyPragma : MCPragmas) (rekeyPragma : Option MCPragmas) (user : LinkedMap Text Text)
      (sh : JDBCMCProperties), JDBCMCProperties.of keyPragma rekeyPragma user = .ok sh →
      ∀ (before after : List (ThreadId × Action)) (s s' s'' : System),
        (System.init sh).run before = some s → s.ClearReturns s' → s'.run after = some s'' →
          AfterClear s' s'') ∧
    ∀ (m : Maps) (before after : List Maps.Event) (last : Maps.Event),
      last = .close ∨ last = .createThrows →
        ∀ c ∈ ((m.life (before ++ [last])).1.life after).2, c = ⟨[], false⟩ := by
  constructor
  · intro keyPragma rekeyPragma user sh hof before after s s' s'' hbefore hreturns hafter
    have haccepted := (JDBCMCProperties.of_eq_ok hof).1
    have hinv : Inv keyPragma rekeyPragma s :=
      run_invariant (fun _ _ _ => inv_step haccepted) (inv_init hof) hbefore
    -- the return of `clear` empties the properties, and every further step keeps them so
    have hforgotten := forgotten_of_clearReturns hinv hreturns
    obtain ⟨i, -, hstep⟩ := hreturns
    exact forgotten_run haccepted (inv_step haccepted hinv hstep) hforgotten hafter
  · intro m before after last hlast
    exact life_emptied (keyPragma_life_concat hlast m before) after

/-- Thread 0 opens a connection, and thread 1 is about to have cleared the properties. -/
def openThenClear : List (ThreadId × Action) :=
  (0, .withKeyProps) :: (List.replicate 5 (0, .go) ++
    (0, .returns true) :: List.replicate 4 (0, .go)) ++ [(1, .clear), (1, .go), (1, .go)]

/-- Thread 2 asks for a connection. -/
def openAgain : List (ThreadId × Action) := [(2, .withKeyProps), (2, .go), (2, .go)]

theorem credentials_unusable_threeThreads :
    ∃ sh s s' s'', JDBCMCProperties.of keyPragmaAbcd (some rekeyPragmaEfgh) .empty = .ok sh ∧
      (System.init sh).run openThenClear = some s ∧ s.ClearReturns s' ∧
      s'.run openAgain = some s'' ∧ s''.log = s'.log ++ [.handed 2 none] ∧ AfterClear s' s'' := by
  refine ⟨_, _, _, _, rfl, rfl, ⟨1, rfl, rfl⟩, rfl, rfl, ?_⟩
  exact credentials_unusable.1 keyPragmaAbcd (some rekeyPragmaEfgh) .empty _ rfl openThenClear
    openAgain _ _ _ rfl ⟨1, rfl, rfl⟩ rfl

end SqliteMc
