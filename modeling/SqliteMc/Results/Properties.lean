import SqliteMc.Model.Properties

/-!
# No connection rekeys twice

`withKeyProps` under any number of threads, any order of their steps, and any success or
failure of the connection blocks.

The shared state goes through four stages: as created (`At` with both maps and no
password), the rekey map moved into the key map, the key statements packed, and
initialized. All changes are made by the holder of the lock, so a thread that is about to
make one finds the stage as it left it (`PcInv`), and between the changes only the first
and the last stage can be seen (`Inv.fresh`, `Inv.ready`). `clear` empties the maps for good.

* `inv_step` — every step of every thread keeps the invariant.
* `withKeyProps_state_machine` — what follows for the log of a run.
-/

namespace SqliteMc

open Transition

/-! ## The statements of the maps -/

/-- The key map once a rekey, if there is one, has been moved into it. -/
def finalMap (keyPragma : MCPragmas) (rekeyPragma : Option MCPragmas) : MCPragmas :=
  match rekeyPragma with
  | none => keyPragma
  | some rekey => rekey.swapped

/-- The maps pass the checks of `JDBCMCProperties.of`. -/
structure Accepted (keyPragma : MCPragmas) (rekeyPragma : Option MCPragmas) : Prop where
  keyPragma_reKey : keyPragma.contains .reKey = false
  rekeyPragma_reKey : ∀ m ∈ rekeyPragma, m.contains .reKey = true
  rekeyPragma_key : ∀ m ∈ rekeyPragma, m.contains .key = false

namespace JDBCMCProperties

/-- What the constructor of the properties checks, and what it builds. -/
theorem of_eq_ok {keyPragma : MCPragmas} {rekeyPragma : Option MCPragmas}
    {user : LinkedMap Text Text} {sh : JDBCMCProperties}
    (h : of keyPragma rekeyPragma user = .ok sh) :
    Accepted keyPragma rekeyPragma ∧
      sh = { keyPragma := some keyPragma, rekeyPragma := rekeyPragma, isInitialized := false,
             properties := { user := user } } := by
  -- the four checks of `of`
  obtain ⟨_, -, h⟩ := bind_eq_ok.mp h
  obtain ⟨_, h2, h⟩ := bind_eq_ok.mp h
  obtain ⟨_, h3, h⟩ := bind_eq_ok.mp h
  obtain ⟨_, h4, h⟩ := bind_eq_ok.mp h
  cases h
  refine ⟨⟨?_, require_eq_ok.mp h3, ?_⟩, rfl⟩
  · simpa using require_eq_ok.mp h2
  · intro m hm
    simpa using require_eq_ok.mp h4 m hm

/-- Only the kind of the error is changed. -/
theorem orSqlException_eq_ok {α : Type} {message : String} {x : Except Throwable α} {a : α} :
    orSqlException message x = .ok a ↔ x = .ok a := by
  cases x <;> simp [orSqlException]

/-- Without a rekey the statements are those of the key map. -/
theorem packedStatements_none_eq_ok {m : MCPragmas} {sts : List Statement} :
    packedStatements m none = .ok sts ↔ m.toMCSQLStatements = .ok sts := by
  constructor
  · intro h
    obtain ⟨sts', hsts, h⟩ := bind_eq_ok.mp h
    cases h
    exact orSqlException_eq_ok.mp hsts
  · exact fun h => bind_eq_ok.mpr ⟨sts, orSqlException_eq_ok.mpr h, rfl⟩

/-- With a rekey its statements stand behind those of the key map. -/
theorem packedStatements_some_eq_ok {m rekey : MCPragmas} {sts : List Statement} :
    packedStatements m (some rekey) = .ok sts ↔
      ∃ a b, m.toMCSQLStatements = .ok a ∧ rekey.toMCSQLStatements = .ok b ∧ sts = a ++ b := by
  constructor
  · intro h
    obtain ⟨a, ha, h⟩ := bind_eq_ok.mp h
    obtain ⟨b, hb, h⟩ := bind_eq_ok.mp h
    cases h
    exact ⟨a, b, orSqlException_eq_ok.mp ha, orSqlException_eq_ok.mp hb, rfl⟩
  · rintro ⟨a, b, ha, hb, rfl⟩
    exact bind_eq_ok.mpr ⟨a, orSqlException_eq_ok.mpr ha,
      bind_eq_ok.mpr ⟨b, orSqlException_eq_ok.mpr hb, rfl⟩⟩

/-- Nothing can be packed once the maps have been cleared. -/
theorem packedStatements_empty (rekeyPragma : Option MCPragmas) (sts : List Statement) :
    packedStatements .empty rekeyPragma ≠ .ok sts := by
  intro h
  obtain ⟨a, ha, -⟩ := bind_eq_ok.mp h
  cases orSqlException_eq_ok.mp ha

end JDBCMCProperties

section Maps

open JDBCMCProperties

variable {keyPragma : MCPragmas} {rekeyPragma : Option MCPragmas}

/-- If the statements of both maps can be made, so can those of the final map. -/
theorem Accepted.exists_final (h : Accepted keyPragma rekeyPragma) {sts : List Statement}
    (hsts : packedStatements keyPragma rekeyPragma = .ok sts) :
    ∃ fsts, (finalMap keyPragma rekeyPragma).toMCSQLStatements = .ok fsts := by
  cases rekeyPragma with
  | none => exact ⟨sts, packedStatements_none_eq_ok.mp hsts⟩
  | some rekey =>
    obtain ⟨a, b, -, hb, -⟩ := packedStatements_some_eq_ok.mp hsts
    exact MCPragmas.toMCSQLStatements_swapped (h.rekeyPragma_key rekey rfl)
      (h.rekeyPragma_reKey rekey rfl) ⟨b, hb⟩

/-- The final map does not rekey. -/
theorem Accepted.isRekey_final (h : Accepted keyPragma rekeyPragma) {fsts : List Statement}
    (hfsts : (finalMap keyPragma rekeyPragma).toMCSQLStatements = .ok fsts) :
    ∀ s ∈ fsts, s.isRekey = false := by
  have hfinal : (finalMap keyPragma rekeyPragma).contains .reKey = false := by
    cases rekeyPragma with
    | none => exact h.keyPragma_reKey
    | some rekey =>
      rw [finalMap, MCPragmas.contains_eq, MCPragmas.get?_swapped (h.rekeyPragma_key rekey rfl)]
      rfl
  exact MCPragmas.isRekey_of_toMCSQLStatements hfinal hfsts

end Maps

/-! ## The stages of the shared state -/

/-- What the shared state holds. -/
structure At (sh : JDBCMCProperties) (keyPragma : MCPragmas) (rekeyPragma : Option MCPragmas)
    (isInitialized : Bool) (password : Option (List Statement)) : Prop where
  keyPragma : sh.keyPragma = some keyPragma
  rekeyPragma : sh.rekeyPragma = rekeyPragma
  isInitialized : sh.isInitialized = isInitialized
  password : sh.properties.password = password

namespace At

open JDBCMCProperties

variable {sh : JDBCMCProperties} {m : MCPragmas} {r : Option MCPragmas} {b : Bool}
  {pw : Option (List Statement)}

/-- After the rekey its map is the key map, and there is no rekey left. -/
theorem swap (h : At sh m r b pw) : At sh.swap (finalMap m r) none b pw := by
  obtain ⟨h1, h2, h3, h4⟩ := h
  unfold JDBCMCProperties.swap
  rw [h1, h2]
  cases r with
  | none => exact ⟨h1, h2, h3, h4⟩
  | some rekey => exact ⟨rfl, rfl, h3, h4⟩

/-- What packing into properties without a password comes to. -/
theorem packIfAbsent (h : At sh m r b pw) {p p' : Properties} (hp : p.password = none)
    (hpack : sh.packIfAbsent p = .ok p') :
    ∃ sts, packedStatements m r = .ok sts ∧ p'.password = some sts := by
  have habsent : ¬ p.password.isSome = true := by
    rw [hp]
    exact Bool.false_ne_true
  rw [JDBCMCProperties.packIfAbsent, if_neg habsent, packMCSqlStatements, h.keyPragma,
    h.rekeyPragma] at hpack
  obtain ⟨sts, hsts, hp'⟩ := bind_eq_ok.mp hpack
  cases hp'
  exact ⟨sts, hsts, rfl⟩

/-- Packing again replaces the statements that connections are opened with. -/
theorem repack (h : At sh m none b none) {sts : List Statement}
    (hsts : m.toMCSQLStatements = .ok sts) :
    ∃ sh', sh.repack = .ok sh' ∧ At sh' m none b (some sts) := by
  have hsome : ¬ sh.keyPragma.isNone = true := by
    rw [h.keyPragma]
    exact Bool.false_ne_true
  have habsent : ¬ sh.properties.password.isSome = true := by
    rw [h.password]
    exact Bool.false_ne_true
  -- the rekey map is gone, so it is the key statements alone that are packed
  have hpacked := packedStatements_none_eq_ok.mpr hsts
  have hpack : sh.packIfAbsent sh.properties = .ok
      { password := some sts, user := sh.properties.user.remove (Text.lit "hexkey_mode") } := by
    rw [JDBCMCProperties.packIfAbsent, if_neg habsent, packMCSqlStatements, h.keyPragma,
      h.rekeyPragma]
    exact bind_eq_ok.mpr ⟨sts, hpacked, rfl⟩
  have hrepack : sh.repack = .ok { sh with properties :=
      { password := some sts, user := sh.properties.user.remove (Text.lit "hexkey_mode") } } := by
    rw [JDBCMCProperties.repack, if_neg hsome, hpack]
    rfl
  exact ⟨_, hrepack, h.keyPragma, h.rekeyPragma, h.isInitialized, rfl⟩

end At

/-- The maps have been cleared. -/
structure ClearedMaps (sh : JDBCMCProperties) : Prop where
  keyPragma : sh.keyPragma = some .empty
  rekeyPragma : sh.rekeyPragma = none ∨ sh.rekeyPragma = some .empty

/-- Clearing empties both maps. -/
theorem At.clearMaps {sh : JDBCMCProperties} {m : MCPragmas} {r : Option MCPragmas} {b : Bool}
    {pw : Option (List Statement)} (h : At sh m r b pw) : ClearedMaps sh.clearMaps := by
  refine ⟨?_, ?_⟩
  · show sh.keyPragma.map _ = _
    rw [h.keyPragma]
    rfl
  · show sh.rekeyPragma.map _ = none ∨ sh.rekeyPragma.map _ = _
    cases sh.rekeyPragma with
    | none => exact Or.inl rfl
    | some _ => exact Or.inr rfl

/-- Without the maps nothing can be packed. -/
theorem ClearedMaps.packIfAbsent {sh : JDBCMCProperties} (h : ClearedMaps sh) {p p' : Properties}
    (hp : p.password = none) : sh.packIfAbsent p ≠ .ok p' := by
  intro hpack
  have hat : At sh .empty sh.rekeyPragma sh.isInitialized sh.properties.password :=
    ⟨h.keyPragma, rfl, rfl, rfl⟩
  obtain ⟨sts, hsts, -⟩ := hat.packIfAbsent hp hpack
  exact JDBCMCProperties.packedStatements_empty _ _ hsts

/-! ## The invariant -/

namespace Event

def isCleared : Event → Bool
  | cleared => true
  | _ => false

/-- A block returned with a connection. -/
def isSuccess : Event → Bool
  | returned _ _ ok => ok
  | _ => false

/-- A block that was handed a rekey statement returned with a connection. -/
def rekeys : Event → Bool
  | returned _ (some sts) true => sts.any Statement.isRekey
  | _ => false

end Event

def cleared (log : List Event) : Bool := log.any Event.isCleared

def succeeded (log : List Event) : Bool := log.any Event.isSuccess

@[simp] theorem cleared_append (a b : List Event) : cleared (a ++ b) = (cleared a || cleared b) :=
  List.any_append

@[simp] theorem succeeded_append (a b : List Event) :
    succeeded (a ++ b) = (succeeded a || succeeded b) := List.any_append

/-- The three changes after the first success are under way. -/
def Pc.commits : Pc → Bool
  | swap | repack | setInitialized => true
  | _ => false

/-- A thread that is here may have changed the shared state. -/
def Pc.mayHaveChanged : Pc → Bool
  | idle | repack | setInitialized | clear | clearMaps | superClear => true
  | unlock ok => ok
  | _ => false

section Invariant

variable (keyPragma : MCPragmas) (rekeyPragma : Option MCPragmas)

/-- What an event says, after what was logged before it. -/
def EventInv (past : List Event) : Event → Prop
  | .handed _ password => cleared past = false →
    ∃ sts, (if succeeded past then (finalMap keyPragma rekeyPragma).toMCSQLStatements
      else JDBCMCProperties.packedStatements keyPragma rekeyPragma) = .ok sts ∧
        password = some sts
  | .returned i password ok => Event.rekeys (.returned i password ok) = true →
    succeeded past = false
  | .threw _ changed => changed = false
  | .cleared => True

/-- A password of the properties themselves packs the statements of the final map. -/
def FinalPassword (password : Option (List Statement)) : Prop :=
  ∀ sts, password = some sts → (finalMap keyPragma rekeyPragma).toMCSQLStatements = .ok sts

/-- No block has succeeded, and the first one's password is made. -/
structure Unopened (sh : JDBCMCProperties) (log : List Event)
    (password : Option (List Statement)) : Prop where
  fresh : At sh keyPragma rekeyPragma false none
  notCleared : cleared log = false
  password : ∃ sts, JDBCMCProperties.packedStatements keyPragma rekeyPragma = .ok sts ∧
    password = some sts

/-- A block has succeeded, and the changes that follow are not complete. -/
structure Committing (sh : JDBCMCProperties) (log : List Event) (m : MCPragmas)
    (r : Option MCPragmas) (password : Option (List Statement)) : Prop where
  stage : At sh m r false password
  notCleared : cleared log = false
  succeeded : succeeded log = true
  final : ∃ fsts, (finalMap keyPragma rekeyPragma).toMCSQLStatements = .ok fsts

/-- What a thread can rely on. -/
def PcInv (sh : JDBCMCProperties) (log : List Event) : Pc → Prop
  | .connectUnlocked => sh.isInitialized = true
  | .connectLocked => sh.isInitialized = true
  | .pack keyProp => sh.isInitialized = false ∧ keyProp.password = none
  | .connectFirst keyProp => Unopened keyPragma rekeyPragma sh log keyProp.password
  | .block .first password => Unopened keyPragma rekeyPragma sh log password
  | .block .locked password => sh.isInitialized = true ∧ FinalPassword keyPragma rekeyPragma password
  | .block .unlocked password =>
    sh.isInitialized = true ∧ FinalPassword keyPragma rekeyPragma password
  | .swap => Committing keyPragma rekeyPragma sh log keyPragma rekeyPragma none
  | .repack =>
    Committing keyPragma rekeyPragma sh log (finalMap keyPragma rekeyPragma) none none
  | .setInitialized => ∃ fsts, (finalMap keyPragma rekeyPragma).toMCSQLStatements = .ok fsts ∧
    Committing keyPragma rekeyPragma sh log (finalMap keyPragma rekeyPragma) none (some fsts)
  | .superClear => cleared log = true
  | _ => True

/-- What holds in every state of a run. -/
structure Inv (s : System) : Prop where
  /-- The lock is held by the thread that it names, and by no other. -/
  exclusive : Pool.Exclusive (fun t : Thread => t.pc.holds) s
  threads : ∀ i, PcInv keyPragma rekeyPragma s.shared s.log (s.threads i).pc
  changed : ∀ i, (s.threads i).changed = true → (s.threads i).pc.mayHaveChanged = true
  /-- Until a block has succeeded the maps are those that were given. -/
  fresh : cleared s.log = false → s.shared.isInitialized = false →
    (∀ i, (s.threads i).pc.commits = false) →
    At s.shared keyPragma rekeyPragma false none ∧ succeeded s.log = false
  /-- Once the changes that follow are complete there is the final map, and its password. -/
  ready : cleared s.log = false → s.shared.isInitialized = true →
    succeeded s.log = true ∧ ∃ fsts, (finalMap keyPragma rekeyPragma).toMCSQLStatements = .ok fsts ∧
      At s.shared (finalMap keyPragma rekeyPragma) none true (some fsts)
  /-- Cleared maps do not come back; a password may be there until the properties are cleared. -/
  maps : cleared s.log = true → ClearedMaps s.shared ∧
    (s.shared.isInitialized = false → s.shared.properties.password = none) ∧
    FinalPassword keyPragma rekeyPragma s.shared.properties.password
  log : AllAt (EventInv keyPragma rekeyPragma) s.log

end Invariant

section Steps

variable {keyPragma : MCPragmas} {rekeyPragma : Option MCPragmas}

/-! ### What does not touch a thread -/

/-- Events other than clearing leave a thread what it relies on. -/
theorem PcInv.mono {sh : JDBCMCProperties} {log es : List Event} (hes : cleared es = false)
    {pc : Pc} (h : PcInv keyPragma rekeyPragma sh log pc) :
    PcInv keyPragma rekeyPragma sh (log ++ es) pc := by
  have hcleared : cleared log = false → cleared (log ++ es) = false := by
    intro hlog
    rw [cleared_append, hlog, hes]
    rfl
  have hcommitting : ∀ {m r pw}, Committing keyPragma rekeyPragma sh log m r pw →
      Committing keyPragma rekeyPragma sh (log ++ es) m r pw := by
    rintro m r pw ⟨h1, h2, h3, h4⟩
    exact ⟨h1, hcleared h2, by rw [succeeded_append, h3]; rfl, h4⟩
  -- only the thread that opens, and the one that commits, rely on the log
  cases pc with
  | connectFirst keyProp => exact ⟨h.fresh, hcleared h.notCleared, h.password⟩
  | block path password =>
    cases path with
    | first => exact ⟨h.fresh, hcleared h.notCleared, h.password⟩
    | _ => exact h
  | swap => exact hcommitting h
  | repack => exact hcommitting h
  | setInitialized =>
    obtain ⟨fsts, hfsts, h⟩ := h
    exact ⟨fsts, hfsts, hcommitting h⟩
  | superClear =>
    show cleared (log ++ es) = true
    rw [cleared_append, show cleared log = true from h]
    rfl
  | _ => exact h

/-- A thread without the lock relies on the flag, which is never taken back, only. -/
theorem PcInv.of_not_holds {sh sh' : JDBCMCProperties} {log : List Event} (es : List Event)
    (hflag : sh.isInitialized = true → sh'.isInitialized = true) {pc : Pc}
    (hpc : pc.holds = false) (h : PcInv keyPragma rekeyPragma sh log pc) :
    PcInv keyPragma rekeyPragma sh' (log ++ es) pc := by
  cases pc with
  | connectUnlocked => exact hflag h
  | block path password =>
    cases path with
    | unlocked => exact ⟨hflag h.1, h.2⟩
    | locked => cases hpc
    | first => cases hpc
  | superClear =>
    show cleared (log ++ es) = true
    rw [cleared_append, show cleared log = true from h]
    rfl
  -- the places without the lock where nothing is relied on
  | idle | enter | synchronize | clear => trivial
  | _ => cases hpc

/-- Once the maps are cleared, no thread relies on the properties. -/
theorem PcInv.superClear {sh : JDBCMCProperties} {log : List Event} (hcleared : cleared log = true)
    {pc : Pc} (h : PcInv keyPragma rekeyPragma sh log pc) :
    PcInv keyPragma rekeyPragma sh.superClear log pc := by
  have hnot : cleared log ≠ false := by
    rw [hcleared]
    decide
  -- who relies on the properties relies on their not having been cleared
  cases pc with
  | connectFirst keyProp => exact absurd h.notCleared hnot
  | block path password =>
    cases path with
    | first => exact absurd h.notCleared hnot
    | _ => exact h
  | swap => exact absurd h.notCleared hnot
  | repack => exact absurd h.notCleared hnot
  | setInitialized =>
    obtain ⟨_, _, h⟩ := h
    exact absurd h.notCleared hnot
  | _ => exact h

/-! ### One step -/

/-- The state after a step of the thread `i`. -/
def System.after (s : System) (i : ThreadId) (a : Action)
    (e : Effect JDBCMCProperties Pc Event) : System where
  shared := e.shared
  lock := e.lock
  threads := Function.update s.threads i
    { pc := e.thread
      changed := ((s.threads i).changed && a ≠ .withKeyProps) || e.shared ≠ s.shared }
  log := s.log ++ e.events

/-- A step of the system is what the thread's next statement does, written back. -/
theorem System.step_eq_some {s s' : System} {i : ThreadId} {a : Action} :
    Pool.step Thread.act s (i, a) = some s' ↔
      ∃ e, (s.threads i).pc.act i s.shared s.lock (s.threads i).changed a = some e ∧
        s' = s.after i a e := by
  rw [Pool.step_eq_some]
  constructor
  · rintro ⟨e', he', rfl⟩
    obtain ⟨e, he, rfl⟩ := Option.map_eq_some_iff.mp he'
    exact ⟨e, he, rfl⟩
  · rintro ⟨e, he, rfl⟩
    exact ⟨_, Option.map_eq_some_iff.mpr ⟨e, he, rfl⟩, rfl⟩

/-- The thread that stepped is where its step left it. -/
@[simp] theorem System.after_self (s : System) (i : ThreadId) (a : Action)
    (e : Effect JDBCMCProperties Pc Event) : ((s.after i a e).threads i).pc = e.thread := by
  show (Function.update s.threads i _ i).pc = _
  rw [Function.update_self]

/-- No other thread moves. -/
theorem System.after_of_ne (s : System) {i j : ThreadId} (h : j ≠ i) (a : Action)
    (e : Effect JDBCMCProperties Pc Event) : (s.after i a e).threads j = s.threads j :=
  Function.update_of_ne h _ _

/-- The lock is taken and given up as it should be. -/
theorem Pc.act_lock {i : ThreadId} {sh : JDBCMCProperties} {lock : Option ThreadId} {changed : Bool}
    {pc : Pc} {a : Action} {e : Effect JDBCMCProperties Pc Event}
    (h : pc.act i sh lock changed a = some e) :
    (pc.holds = e.thread.holds → e.lock = lock) ∧
      (pc.holds = false → e.thread.holds = true → lock = none ∧ e.lock = some i) ∧
      (pc.holds = true → e.thread.holds = false → e.lock = none) := by
  revert h
  fun_cases Pc.act i sh lock changed pc a
  all_goals
    rintro ⟨⟩
    try split_ifs
  all_goals try simp [Pc.holds]
  -- the lock is taken when it is free
  all_goals assumption

/-- Threads take the lock only when it is free, and give back only what they hold. -/
theorem lockDiscipline : Pool.LockDiscipline Thread.act (fun t : Thread => t.pc.holds) where
  keep := by
    intro i sh l t a e he hholds
    obtain ⟨e', he', rfl⟩ := Option.map_eq_some_iff.mp he
    exact (Pc.act_lock he').1 hholds
  acquire := by
    intro i sh l t a e he hbefore hafter
    obtain ⟨e', he', rfl⟩ := Option.map_eq_some_iff.mp he
    exact (Pc.act_lock he').2.1 hbefore hafter
  release := by
    intro i sh l t a e he hbefore hafter
    obtain ⟨e', he', rfl⟩ := Option.map_eq_some_iff.mp he
    exact (Pc.act_lock he').2.2 hbefore hafter

/-- While a thread holds the lock, no other one is committing. -/
theorem Inv.commits_of_holds {s : System} (hs : Inv keyPragma rekeyPragma s) {i : ThreadId}
    (hi : (s.threads i).pc.holds = true) {j : ThreadId} (hj : j ≠ i) :
    (s.threads j).pc.holds = false ∧ (s.threads j).pc.commits = false := by
  have hnot : (s.threads j).pc.holds = false := by
    cases hholds : (s.threads j).pc.holds with
    | false => rfl
    | true => exact absurd (hs.exclusive.unique hi hholds) hj
  refine ⟨hnot, ?_⟩
  cases hpc : (s.threads j).pc <;> first | rfl | (rw [hpc] at hnot; cases hnot)

/-- While the thread inside the lock is not about to commit, no thread is. -/
theorem Inv.quiet_of_holds {s : System} (hs : Inv keyPragma rekeyPragma s) {i : ThreadId}
    (hi : (s.threads i).pc.holds = true) (hcommits : (s.threads i).pc.commits = false)
    (j : ThreadId) : (s.threads j).pc.commits = false := by
  by_cases hj : j = i
  · rw [hj]
    exact hcommits
  · exact (hs.commits_of_holds hi hj).2

/-- After a step of one thread, what holds of its place and of the places of the others. -/
theorem System.forall_after {P : Pc → Prop} {s : System} {i : ThreadId} {a : Action}
    {e : Effect JDBCMCProperties Pc Event} (hself : P e.thread)
    (hothers : ∀ j, j ≠ i → P (s.threads j).pc) (j : ThreadId) :
    P ((s.after i a e).threads j).pc := by
  by_cases hj : j = i
  · rw [hj, System.after_self]
    exact hself
  · rw [System.after_of_ne s hj]
    exact hothers j hj

/-- A thread may change the shared state if it comes to a place where this is admitted. -/
theorem Inv.changed_after {s : System} (hs : Inv keyPragma rekeyPragma s) {i : ThreadId}
    {a : Action} {e : Effect JDBCMCProperties Pc Event} (hmay : e.thread.mayHaveChanged = true)
    (j : ThreadId) (h : ((s.after i a e).threads j).changed = true) :
    ((s.after i a e).threads j).pc.mayHaveChanged = true := by
  by_cases hj : j = i
  · rw [hj, System.after_self]
    exact hmay
  · rw [System.after_of_ne s hj] at h ⊢
    exact hs.changed j h

/-- A step that leaves the shared state alone. -/
theorem Inv.after_same {s : System} (hs : Inv keyPragma rekeyPragma s) {i : ThreadId} {a : Action}
    {e : Effect JDBCMCProperties Pc Event}
    (hexclusive : Pool.Exclusive (fun t : Thread => t.pc.holds) (s.after i a e))
    (hshared : e.shared = s.shared) (hcommits : (s.threads i).pc.commits = false)
    (hcleared : cleared e.events = false)
    (hsuccess : succeeded e.events = true →
      s.shared.isInitialized = true ∨ e.thread.commits = true)
    (hpc : PcInv keyPragma rekeyPragma s.shared (s.log ++ e.events) e.thread)
    (hchanged : a = .withKeyProps ∨
      ((s.threads i).pc.mayHaveChanged = true → e.thread.mayHaveChanged = true))
    (hlog : AllAt (fun past => EventInv keyPragma rekeyPragma (s.log ++ past)) e.events) :
    Inv keyPragma rekeyPragma (s.after i a e) := by
  have hclear : cleared (s.after i a e).log = cleared s.log := by
    show cleared (s.log ++ e.events) = _
    rw [cleared_append, hcleared, Bool.or_false]
  have hsh : (s.after i a e).shared = s.shared := hshared
  exact {
    exclusive := hexclusive
    threads := by
      rw [hsh]
      exact System.forall_after hpc fun j _ => (hs.threads j).mono hcleared
    changed := by
      intro j
      by_cases hj : j = i
      · subst hj
        rw [System.after_self]
        show (Function.update s.threads j _ j).changed = true → _
        rw [Function.update_self]
        intro h
        -- the shared state is the same, so a change was made before, in the same call
        have h' : (s.threads j).changed = true ∧ a ≠ .withKeyProps := by
          simpa [hshared] using h
        rcases hchanged with rfl | hchanged
        · exact absurd rfl h'.2
        · exact hchanged (hs.changed j h'.1)
      · rw [System.after_of_ne s hj]
        exact hs.changed j
    -- the maps have not been used yet
    fresh := by
      rw [hclear, hsh]
      intro hnot hflag hquiet
      have hquiet' : ∀ j, (s.threads j).pc.commits = false := by
        intro j
        by_cases hj : j = i
        · rw [hj]
          exact hcommits
        · have := hquiet j
          rwa [System.after_of_ne s hj] at this
      obtain ⟨hat, hsucc⟩ := hs.fresh hnot hflag hquiet'
      refine ⟨hat, ?_⟩
      show succeeded (s.log ++ e.events) = false
      rw [succeeded_append, hsucc, Bool.false_or]
      cases hes : succeeded e.events with
      | false => rfl
      | true =>
        -- a success is that of a later connection, or its thread is committing
        have hi := hquiet i
        rw [System.after_self] at hi
        rcases hsuccess hes with h | h
        · exact absurd (hflag.symm.trans h) Bool.false_ne_true
        · exact absurd (hi.symm.trans h) Bool.false_ne_true
    -- the flag is set: the final statements are in the maps
    ready := by
      rw [hclear, hsh]
      intro hnot hflag
      obtain ⟨hsucc, hready⟩ := hs.ready hnot hflag
      refine ⟨?_, hready⟩
      show succeeded (s.log ++ e.events) = true
      rw [succeeded_append, hsucc]
      rfl
    maps := by
      rw [hclear, hsh]
      exact hs.maps
    log := allAt_append.mpr ⟨hs.log, hlog⟩ }

/-- A change made by the thread that is committing. -/
theorem Inv.after_commit {s : System} (hs : Inv keyPragma rekeyPragma s) {i : ThreadId} {a : Action}
    {e : Effect JDBCMCProperties Pc Event}
    (hexclusive : Pool.Exclusive (fun t : Thread => t.pc.holds) (s.after i a e))
    (hevents : e.events = []) (hholds : (s.threads i).pc.holds = true)
    (hnot : cleared s.log = false)
    (hflag : s.shared.isInitialized = true → e.shared.isInitialized = true)
    (hpc : PcInv keyPragma rekeyPragma e.shared s.log e.thread)
    (hchanged : e.thread.mayHaveChanged = true)
    (hcommits : e.shared.isInitialized = false → e.thread.commits = true)
    (hready : e.shared.isInitialized = true → succeeded s.log = true ∧
      ∃ fsts, (finalMap keyPragma rekeyPragma).toMCSQLStatements = .ok fsts ∧
        At e.shared (finalMap keyPragma rekeyPragma) none true (some fsts)) :
    Inv keyPragma rekeyPragma (s.after i a e) := by
  have hlog : (s.after i a e).log = s.log := by
    show s.log ++ e.events = s.log
    rw [hevents, List.append_nil]
  exact {
    exclusive := hexclusive
    threads := by
      rw [hlog]
      refine System.forall_after hpc fun j hj => ?_
      -- the others do not hold the lock
      have h := (hs.threads j).of_not_holds [] hflag (hs.commits_of_holds hholds hj).1
      rwa [List.append_nil] at h
    changed := hs.changed_after hchanged
    fresh := by
      intro _ hinit hquiet
      have h := hquiet i
      rw [System.after_self, hcommits hinit] at h
      cases h
    ready := by
      rw [hlog]
      exact fun _ => hready
    maps := by
      rw [hlog, hnot]
      exact fun h => absurd h Bool.false_ne_true
    log := by
      rw [hlog]
      exact hs.log }

/-- Going on without a change and without an event. -/
theorem Inv.after_goto {s : System} (hs : Inv keyPragma rekeyPragma s) {i : ThreadId} {a : Action}
    {lock : Option ThreadId} {pc : Pc}
    (hexclusive : Pool.Exclusive (fun t : Thread => t.pc.holds) (s.after i a (goto s.shared lock pc)))
    (hcommits : (s.threads i).pc.commits = false)
    (hpc : PcInv keyPragma rekeyPragma s.shared s.log pc)
    (hchanged : a = .withKeyProps ∨
      ((s.threads i).pc.mayHaveChanged = true → pc.mayHaveChanged = true)) :
    Inv keyPragma rekeyPragma (s.after i a (goto s.shared lock pc)) := by
  refine hs.after_same hexclusive rfl hcommits rfl (fun h => ?_) (hpc.mono rfl) hchanged
    (allAt_nil _)
  cases h

/-- Handing a block its password. -/
theorem Inv.after_handed {s : System} (hs : Inv keyPragma rekeyPragma s) {i : ThreadId}
    {lock : Option ThreadId} {path : Path} {password : Option (List Statement)}
    (hexclusive : Pool.Exclusive (fun t : Thread => t.pc.holds)
      (s.after i .go (goto s.shared lock (.block path password) [.handed i password])))
    (hcommits : (s.threads i).pc.commits = false)
    (hunchanged : (s.threads i).pc.mayHaveChanged = false)
    (hpc : PcInv keyPragma rekeyPragma s.shared s.log (.block path password))
    (hevent : EventInv keyPragma rekeyPragma s.log (.handed i password)) :
    Inv keyPragma rekeyPragma
      (s.after i .go (goto s.shared lock (.block path password) [.handed i password])) := by
  refine hs.after_same hexclusive rfl hcommits rfl (fun h => ?_) (hpc.mono rfl) (Or.inr ?_) ?_
  · cases h
  · intro h
    rw [hunchanged] at h
    cases h
  · refine allAt_cons.mpr ⟨?_, allAt_nil _⟩
    rwa [List.append_nil]

/-- While the flag is set, the properties hold the password of the final map, unless they
have been cleared. -/
theorem Inv.finalPassword {s : System} (hs : Inv keyPragma rekeyPragma s)
    (hflag : s.shared.isInitialized = true) :
    FinalPassword keyPragma rekeyPragma s.shared.properties.password := by
  cases hcleared : cleared s.log with
  | true => exact (hs.maps hcleared).2.2
  | false =>
    obtain ⟨-, fsts, hfsts, hat⟩ := hs.ready hcleared hflag
    intro sts hsts
    rw [hat.password, Option.some_inj] at hsts
    rw [hfsts, hsts]

/-- Once initialized, the properties that are handed out are the final ones. -/
theorem Inv.eventInv_handed {s : System} (hs : Inv keyPragma rekeyPragma s)
    (hflag : s.shared.isInitialized = true) (i : ThreadId) :
    EventInv keyPragma rekeyPragma s.log (.handed i s.shared.properties.password) := by
  intro hcleared
  obtain ⟨hsucc, fsts, hfsts, hat⟩ := hs.ready hcleared hflag
  refine ⟨fsts, ?_, hat.password⟩
  rw [if_pos hsucc]
  exact hfsts

/-- A thread that holds the lock before the first success knows that there was none. -/
theorem Inv.not_succeeded {s : System} (hs : Inv keyPragma rekeyPragma s) {i : ThreadId}
    (hi : (s.threads i).pc.holds = true) (hcommits : (s.threads i).pc.commits = false)
    {password : Option (List Statement)}
    (h : Unopened keyPragma rekeyPragma s.shared s.log password) : succeeded s.log = false :=
  (hs.fresh h.notCleared h.fresh.isInitialized (hs.quiet_of_holds hi hcommits)).2

/-- Before the first success there is no password, cleared or not. -/
theorem Inv.password_of_holds {s : System} (hs : Inv keyPragma rekeyPragma s) {i : ThreadId}
    (hi : (s.threads i).pc.holds = true) (hcommits : (s.threads i).pc.commits = false)
    (hflag : s.shared.isInitialized = false) : s.shared.properties.password = none := by
  cases hcleared : cleared s.log with
  | true => exact (hs.maps hcleared).2.1 hflag
  | false => exact (hs.fresh hcleared hflag (hs.quiet_of_holds hi hcommits)).1.password

/-- Packing succeeds before the first success only, and not after the maps were cleared. -/
theorem Inv.unopened_of_pack {s : System} (hs : Inv keyPragma rekeyPragma s) {i : ThreadId}
    (hi : (s.threads i).pc.holds = true) (hcommits : (s.threads i).pc.commits = false)
    (hflag : s.shared.isInitialized = false) {keyProp keyProp' : Properties}
    (hnone : keyProp.password = none) (hpack : s.shared.packIfAbsent keyProp = .ok keyProp') :
    Unopened keyPragma rekeyPragma s.shared s.log keyProp'.password := by
  cases hcleared : cleared s.log with
  | true => exact absurd hpack ((hs.maps hcleared).1.packIfAbsent hnone)
  | false =>
    obtain ⟨hat, -⟩ := hs.fresh hcleared hflag (hs.quiet_of_holds hi hcommits)
    exact ⟨hat, hcleared, hat.packIfAbsent hnone hpack⟩

/-- The statements that are left after a rekey do not rekey again. -/
theorem rekeys_of_final (haccepted : Accepted keyPragma rekeyPragma)
    {password : Option (List Statement)} (h : FinalPassword keyPragma rekeyPragma password)
    (i : ThreadId) (ok : Bool) : Event.rekeys (.returned i password ok) = false := by
  cases password with
  | none => rfl
  | some sts =>
    cases ok with
    | false => rfl
    | true =>
      -- the final map has no rekey
      show sts.any Statement.isRekey = false
      rw [List.any_eq_false]
      intro st hst
      rw [haccepted.isRekey_final (h sts rfl) st hst]
      exact Bool.false_ne_true

/-- The locked part of `clear`. -/
theorem Inv.after_clearMaps {s : System} (hs : Inv keyPragma rekeyPragma s) {i : ThreadId}
    (hpc : (s.threads i).pc = .clearMaps)
    (hexclusive : Pool.Exclusive (fun t : Thread => t.pc.holds)
      (s.after i .go (goto s.shared.clearMaps none .superClear [.cleared]))) :
    Inv keyPragma rekeyPragma
      (s.after i .go (goto s.shared.clearMaps none .superClear [.cleared])) := by
  have hholds : (s.threads i).pc.holds = true := by rw [hpc]; rfl
  have hquiet := hs.quiet_of_holds hholds (by rw [hpc]; rfl)
  have hcleared : cleared (s.log ++ [.cleared]) = true := by
    rw [cleared_append]
    exact Bool.or_true _
  have hmaps : ClearedMaps s.shared.clearMaps ∧
      (s.shared.isInitialized = false → s.shared.properties.password = none) ∧
      FinalPassword keyPragma rekeyPragma s.shared.properties.password := by
    -- cleared again, after the first success, or before it
    cases hbefore : cleared s.log with
    | true =>
      obtain ⟨hmaps, hrest⟩ := hs.maps hbefore
      have hat : At s.shared .empty s.shared.rekeyPragma s.shared.isInitialized
        s.shared.properties.password := ⟨hmaps.keyPragma, rfl, rfl, rfl⟩
      exact ⟨hat.clearMaps, hrest⟩
    | false =>
      cases hflag : s.shared.isInitialized with
      | true =>
        obtain ⟨-, fsts, -, hat⟩ := hs.ready hbefore hflag
        exact ⟨hat.clearMaps, fun h => absurd h.symm Bool.false_ne_true, hs.finalPassword hflag⟩
      | false =>
        obtain ⟨hat, -⟩ := hs.fresh hbefore hflag hquiet
        refine ⟨hat.clearMaps, fun _ => hat.password, ?_⟩
        intro sts hsts
        rw [hat.password] at hsts
        cases hsts
  exact {
    exclusive := hexclusive
    threads := by
      have hflag : s.shared.isInitialized = true → s.shared.clearMaps.isInitialized = true := id
      exact System.forall_after hcleared fun j hj =>
        (hs.threads j).of_not_holds [.cleared] hflag (hs.commits_of_holds hholds hj).1
    changed := hs.changed_after rfl
    fresh := fun h => absurd (h.symm.trans hcleared) Bool.false_ne_true
    ready := fun h => absurd (h.symm.trans hcleared) Bool.false_ne_true
    maps := fun _ => hmaps
    log := allAt_concat.mpr ⟨hs.log, trivial⟩ }

/-- The unlocked part of `clear`. -/
theorem Inv.after_superClear {s : System} (hs : Inv keyPragma rekeyPragma s) {i : ThreadId}
    {a : Action} {lock : Option ThreadId} (hpc : (s.threads i).pc = .superClear)
    (hexclusive : Pool.Exclusive (fun t : Thread => t.pc.holds)
      (s.after i a (goto s.shared.superClear lock .idle))) :
    Inv keyPragma rekeyPragma (s.after i a (goto s.shared.superClear lock .idle)) := by
  have hcleared : cleared s.log = true := by
    have h := hs.threads i
    rw [hpc] at h
    exact h
  have hlog : (s.after i a (goto s.shared.superClear lock .idle)).log = s.log :=
    List.append_nil _
  obtain ⟨hmaps, -, -⟩ := hs.maps hcleared
  exact {
    exclusive := hexclusive
    threads := by
      rw [hlog]
      -- the maps are cleared before the properties, and nobody relies on them since
      exact System.forall_after trivial fun j _ => (hs.threads j).superClear hcleared
    changed := hs.changed_after rfl
    fresh := by
      rw [hlog]
      exact fun h => absurd (h.symm.trans hcleared) Bool.false_ne_true
    ready := by
      rw [hlog]
      exact fun h => absurd (h.symm.trans hcleared) Bool.false_ne_true
    maps := by
      intro _
      refine ⟨⟨hmaps.keyPragma, hmaps.rekeyPragma⟩, fun _ => rfl, ?_⟩
      intro sts hsts
      cases hsts
    log := by
      rw [hlog]
      exact hs.log }

/-- Every step of every thread keeps the invariant. -/
theorem inv_step (haccepted : Accepted keyPragma rekeyPragma) {s s' : System}
    {label : ThreadId × Action} (hs : Inv keyPragma rekeyPragma s)
    (h : Pool.step Thread.act s label = some s') : Inv keyPragma rekeyPragma s' := by
  have hexclusive := Pool.exclusive_step lockDiscipline hs.exclusive h
  obtain ⟨i, a⟩ := label
  obtain ⟨e, he, rfl⟩ := System.step_eq_some.mp h
  have hpc := hs.threads i
  have hunchanged : (s.threads i).pc.mayHaveChanged = false → (s.threads i).changed = false := by
    intro hnot
    cases hch : (s.threads i).changed with
    | false => rfl
    | true => exact absurd (hnot.symm.trans (hs.changed i hch)) Bool.false_ne_true
  revert he
  generalize hat : (s.threads i).pc = pc at *
  have hcommits := congrArg Pc.commits hat
  have hmay := congrArg Pc.mayHaveChanged hat
  have hholds := congrArg Pc.holds hat
  fun_cases Pc.act i s.shared s.lock (s.threads i).changed pc a
  all_goals rintro ⟨⟩
  case case1 => exact hs.after_goto hexclusive hcommits trivial (Or.inl rfl)
  case case2 => exact hs.after_goto hexclusive hcommits trivial (Or.inr fun _ => rfl)
  case case3 =>
    -- the first look at the flag
    refine hs.after_goto hexclusive hcommits ?_ (Or.inr fun h => ?_)
    · cases hflag : s.shared.isInitialized with
      | true => exact hflag
      | false => trivial
    · rw [hmay] at h
      cases h
  case case4 =>
    -- the flag was set at the first look: the final statements are handed out
    exact hs.after_handed hexclusive hcommits hmay ⟨hpc, hs.finalPassword hpc⟩
      (hs.eventInv_handed hpc i)
  case case5 =>
    refine hs.after_goto hexclusive hcommits trivial (Or.inr fun h => ?_)
    rw [hmay] at h
    cases h
  case case7 =>
    -- the second look, with the lock
    refine hs.after_goto hexclusive hcommits ?_ (Or.inr fun h => ?_)
    · cases hflag : s.shared.isInitialized with
      | true => exact hflag
      | false => exact ⟨hflag, hs.password_of_holds hholds hcommits hflag⟩
    · rw [hmay] at h
      cases h
  case case8 =>
    -- another thread was first: the final statements are handed out
    exact hs.after_handed hexclusive hcommits hmay ⟨hpc, hs.finalPassword hpc⟩
      (hs.eventInv_handed hpc i)
  case case9 keyProp keyProp' hpack =>
    -- the statements could be packed, so the maps have not been cleared
    refine hs.after_goto hexclusive hcommits ?_ (Or.inr fun h => ?_)
    · exact hs.unopened_of_pack hholds hcommits hpc.1 hpc.2 hpack
    · rw [hmay] at h
      cases h
  case case10 =>
    refine hs.after_goto hexclusive hcommits trivial (Or.inr fun h => ?_)
    rw [hmay] at h
    cases h
  case case11 keyProp =>
    -- the first connection gets the statements with the rekeys
    refine hs.after_handed hexclusive hcommits hmay hpc ?_
    intro _
    obtain ⟨sts, hsts, hpassword⟩ := hpc.password
    refine ⟨sts, ?_, hpassword⟩
    rw [if_neg (by rw [hs.not_succeeded hholds hcommits hpc]; exact Bool.false_ne_true)]
    exact hsts
  case case12 password ok =>
    -- a block without the lock returns
    have hrekeys := rekeys_of_final haccepted hpc.2 i ok
    refine hs.after_same hexclusive rfl hcommits ?_ (fun _ => Or.inl hpc.1) trivial (Or.inr ?_) ?_
    · cases ok <;> rfl
    · exact fun _ => rfl
    · refine allAt_cons.mpr ⟨fun h => absurd (hrekeys.symm.trans h) Bool.false_ne_true, ?_⟩
      cases ok with
      | true => exact allAt_nil _
      | false => exact allAt_cons.mpr ⟨hunchanged rfl, allAt_nil _⟩
  case case13 password ok =>
    -- so does a block that held the lock, with the same statements
    have hrekeys := rekeys_of_final haccepted hpc.2 i ok
    refine hs.after_same hexclusive rfl hcommits rfl (fun _ => Or.inl hpc.1) trivial
      (Or.inr fun h => ?_) ?_
    · rw [hmay] at h
      cases h
    · exact allAt_cons.mpr ⟨fun h => absurd (hrekeys.symm.trans h) Bool.false_ne_true, allAt_nil _⟩
  case case14 password ok =>
    -- the first block returns
    have hnone := hs.not_succeeded hholds hcommits hpc
    refine hs.after_same hexclusive rfl hcommits rfl ?_ ?_ (Or.inr fun h => ?_) ?_
    · intro h
      cases ok with
      | true => exact Or.inr rfl
      | false => cases h
    · cases ok with
      | false => trivial
      | true =>
        obtain ⟨sts, hsts, -⟩ := hpc.password
        refine ⟨hpc.fresh, ?_, ?_, haccepted.exists_final hsts⟩
        · show cleared (s.log ++ [_]) = false
          rw [cleared_append, hpc.notCleared]
          rfl
        · show succeeded (s.log ++ [_]) = true
          rw [succeeded_append]
          exact Bool.or_true _
    · rw [hmay] at h
      cases h
    · refine allAt_cons.mpr ⟨fun _ => ?_, allAt_nil _⟩
      rwa [List.append_nil]
  case case15 =>
    -- the maps are swapped, the flag is still down
    obtain ⟨hstage, hnot, hsucc, hfinal⟩ := hpc
    have hswap := hstage.swap
    refine hs.after_commit hexclusive rfl hholds hnot (fun h => ?_) ⟨hswap, hnot, hsucc, hfinal⟩ rfl
      (fun _ => rfl) (fun h => ?_)
    · exact absurd (hstage.isInitialized.symm.trans h) Bool.false_ne_true
    · exact absurd (hswap.isInitialized.symm.trans h) Bool.false_ne_true
  case case16 sh' hrepack =>
    -- the final statements are packed under the lock
    obtain ⟨hstage, hnot, hsucc, fsts, hfsts⟩ := hpc
    obtain ⟨sh'', hrepack', hstage'⟩ := hstage.repack hfsts
    rw [hrepack] at hrepack'
    cases hrepack'
    refine hs.after_commit hexclusive rfl hholds hnot (fun h => ?_)
      ⟨fsts, hfsts, hstage', hnot, hsucc, fsts, hfsts⟩ rfl (fun _ => rfl) (fun h => ?_)
    · exact absurd (hstage.isInitialized.symm.trans h) Bool.false_ne_true
    · exact absurd (hstage'.isInitialized.symm.trans h) Bool.false_ne_true
  case case17 t hrepack =>
    -- what could be packed with the rekey statements can be packed without them
    obtain ⟨hstage, -, -, fsts, hfsts⟩ := hpc
    obtain ⟨sh'', hrepack', -⟩ := hstage.repack hfsts
    rw [hrepack] at hrepack'
    cases hrepack'
  case case18 =>
    -- the flag is set last
    obtain ⟨fsts, hfsts, hstage, hnot, hsucc, hfinal⟩ := hpc
    refine hs.after_commit hexclusive rfl hholds hnot (fun _ => rfl) trivial rfl (fun h => ?_)
      (fun _ => ⟨hsucc, fsts, hfsts, hstage.keyPragma, hstage.rekeyPragma, rfl, hstage.password⟩)
    cases h
  case case19 ok =>
    -- the lock is given back
    refine hs.after_same hexclusive rfl hcommits ?_ (fun h => ?_) trivial (Or.inr fun _ => rfl) ?_
    · cases ok <;> rfl
    · cases ok <;> cases h
    · cases ok with
      | true => exact allAt_nil _
      | false => exact allAt_cons.mpr ⟨hunchanged rfl, allAt_nil _⟩
  case case20 => exact hs.after_goto hexclusive hcommits trivial (Or.inr fun _ => rfl)
  case case22 => exact hs.after_clearMaps hat hexclusive
  case case23 => exact hs.after_superClear hat hexclusive

/-! ## Runs -/

/-- The constructed properties satisfy the invariant before any thread has started. -/
theorem inv_init {user : LinkedMap Text Text} {sh : JDBCMCProperties}
    (hof : JDBCMCProperties.of keyPragma rekeyPragma user = .ok sh) :
    Inv keyPragma rekeyPragma (System.init sh) := by
  obtain ⟨-, rfl⟩ := JDBCMCProperties.of_eq_ok hof
  exact {
    exclusive := fun i => iff_of_false Bool.false_ne_true (Option.some_ne_none i).symm
    threads := fun _ => trivial
    changed := fun _ h => absurd h Bool.false_ne_true
    fresh := fun _ _ _ => ⟨⟨rfl, rfl, rfl, rfl⟩, rfl⟩
    ready := fun _ h => absurd h Bool.false_ne_true
    maps := fun h => absurd h Bool.false_ne_true
    log := allAt_nil _ }

end Steps

/-- What can be told from the log of a run. -/
structure PropertiesLaw (keyPragma : MCPragmas) (rekeyPragma : Option MCPragmas)
    (log : List Event) : Prop where
  /-- At most one connection whose block succeeded was handed a rekey statement. -/
  rekeysOnce : (log.filter Event.rekeys).length ≤ 1
  /-- Once a block has succeeded, and until the maps are cleared, every block is handed the
  statements of the final map. -/
  finalAfterwards : ∀ past i password rest, log = past ++ .handed i password :: rest →
    cleared past = false → succeeded past = true →
    ∃ sts, (finalMap keyPragma rekeyPragma).toMCSQLStatements = .ok sts ∧ password = some sts
  /-- A call that throws has not changed the shared state. -/
  throwsUnchanged : ∀ i changed, .threw i changed ∈ log → changed = false
  /-- Until a block succeeds, every block is handed the same statements. -/
  sameUntilSuccess : ∀ past i password rest, log = past ++ .handed i password :: rest →
    cleared past = false → succeeded past = false →
    ∃ sts, JDBCMCProperties.packedStatements keyPragma rekeyPragma = .ok sts ∧
      password = some sts

/--
**The state machine of `withKeyProps`.** For all maps that `JDBCMCProperties.of` accepts,
every run of any threads that call `withKeyProps` and `clear` obeys `PropertiesLaw`.
-/
theorem withKeyProps_state_machine (keyPragma : MCPragmas) (rekeyPragma : Option MCPragmas)
    (user : LinkedMap Text Text) (sh : JDBCMCProperties)
    (hof : JDBCMCProperties.of keyPragma rekeyPragma user = .ok sh)
    (labels : List (ThreadId × Action)) (s : System)
    (hrun : (System.init sh).run labels = some s) :
    PropertiesLaw keyPragma rekeyPragma s.log := by
  have haccepted := (JDBCMCProperties.of_eq_ok hof).1
  have hinv : Inv keyPragma rekeyPragma s :=
    run_invariant (fun _ _ _ => inv_step haccepted) (inv_init hof) hrun
  -- each part is what the invariant says of one kind of event
  exact {
    rekeysOnce := by
      refine length_filter_le_one ?_
      intro past e rest hlog hrekeys
      have hevent := hinv.log past e rest hlog
      cases e with
      | returned i password ok =>
        -- a success with a rekey statement is the first success
        have hnone := hevent hrekeys
        rw [succeeded, List.any_eq_false] at hnone
        rw [List.any_eq_false]
        intro x hx hrek
        refine hnone x hx ?_
        cases x with
        | returned j pw ok' =>
          cases ok' with
          | true => rfl
          | false => cases pw <;> cases hrek
        | _ => cases hrek
      | _ => cases hrekeys
    finalAfterwards := by
      intro past i password rest hlog hcleared hsucceeded
      have hevent := hinv.log past _ rest hlog hcleared
      rwa [if_pos hsucceeded] at hevent
    throwsUnchanged := by
      intro i changed hmem
      obtain ⟨past, rest, hlog⟩ := List.append_of_mem hmem
      exact hinv.log past _ rest hlog
    sameUntilSuccess := by
      intro past i password rest hlog hcleared hsucceeded
      have hevent := hinv.log past _ rest hlog hcleared
      rwa [if_neg (by rw [hsucceeded]; exact Bool.false_ne_true)] at hevent }

/-- A key map and a rekey map. -/
def keyPragmaAbcd : MCPragmas :=
  MCPragma.key.put (MCPragma.legacy.put (MCPragma.cipher.put .empty .chacha20) 0)
    (Text.lit "'abcd'")

def rekeyPragmaEfgh : MCPragmas :=
  MCPragma.reKey.put (MCPragma.legacy.put (MCPragma.cipher.put .empty .chacha20) 0)
    (Text.lit "'efgh'")

/-- Thread 0 opens the first connection and rekeys while thread 1 waits for the lock; the
block of thread 1 fails. -/
def twoThreads : List (ThreadId × Action) :=
  [(0, .withKeyProps), (0, .go), (0, .go), (1, .withKeyProps), (1, .go), (0, .go), (0, .go),
    (0, .go), (0, .returns true), (0, .go), (0, .go), (0, .go), (0, .go), (1, .go), (1, .go),
    (1, .go), (1, .returns false), (1, .go)]

/-- Two threads open, one with the rekey and one behind it. -/
theorem withKeyProps_state_machine_twoThreads :
    ∃ sh s, JDBCMCProperties.of keyPragmaAbcd (some rekeyPragmaEfgh) .empty = .ok sh ∧
      (System.init sh).run twoThreads = some s ∧ s.log.length = 5 ∧
      PropertiesLaw keyPragmaAbcd (some rekeyPragmaEfgh) s.log :=
  ⟨_, _, rfl, rfl, rfl, withKeyProps_state_machine _ _ .empty _ rfl twoThreads _ rfl⟩

end SqliteMc
