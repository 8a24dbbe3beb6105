import SqliteMc.Model.Connection
import SqliteMc.Results.Properties

/-!
# JVM and native run the same key protocol

Whatever succeeds and fails, the connections of a JVM session execute the same key and rekey
statements as those of a native session. The two keep their maps differently and swap them
at different moments, but once the first connection is open both are in a state that no
further connection changes (`connect_ready`, `onCreateConnection_final`), and every further
connection executes the statements of the final map.

`withKeyProps_run` ties the sequential `withKeyProps` to the threads: it is what a thread
does when no other one takes a step in between.
-/

namespace SqliteMc

open JDBCMCProperties Transition

/-! ## The maps of an attempt -/

namespace Attempt

/-- The statements of the key map. -/
theorem exists_keyStatements (a : Attempt) :
    ∃ value, a.key.retrieveFormatted a.config.cipherConfig.cipher = .ok value ∧
      a.keyPragma.Holds a.config false false value ∧
      a.keyPragma.toMCSQLStatements = .ok (a.config.keyStatements false value) := by
  obtain ⟨value, hvalue, hholds⟩ := EncryptionConfig.pragmas_eq_ok a.keyPragma_eq
  exact ⟨value, hvalue, hholds, MCPragmas.toMCSQLStatements_of_holds hholds⟩

/-- The statements of the rekey map, and of the key map it is swapped into. -/
theorem exists_rekeyStatements (a : Attempt) {m : MCPragmas} (hm : a.rekeyPragma = some m) :
    ∃ r value, a.rekey = some r ∧ r.2.retrieveFormatted r.1.cipherConfig.cipher = .ok value ∧
      m.Holds r.1 false true value ∧
      m.toMCSQLStatements = .ok (r.1.rekeyStatements false value) ∧
      m.swapped.toMCSQLStatements = .ok (r.1.keyStatements false value) := by
  have heq := a.rekeyPragma_eq
  rw [hm] at heq
  obtain ⟨r, hr, hpragmas⟩ := Option.map_eq_some_iff.mp heq
  obtain ⟨value, hvalue, hholds⟩ := EncryptionConfig.pragmas_eq_ok hpragmas
  exact ⟨r, value, hr, hvalue, hholds, MCPragmas.toMCSQLStatements_of_holds hholds,
    MCPragmas.toMCSQLStatements_of_holds (MCPragmas.holds_swapped hholds)⟩

/-- Whether a map that holds a configuration has a key or a rekey. -/
private theorem contains_of_holds {m : MCPragmas} {c : EncryptionConfig} {isRekey : Bool}
    {value : Text} (h : m.Holds c false isRekey value) :
    m.contains .reKey = isRekey ∧ m.contains .key = !isRekey := by
  rw [MCPragmas.contains_eq, MCPragmas.contains_eq, h .reKey, h .key]
  cases isRekey <;> exact ⟨rfl, rfl⟩

/-- The maps of an attempt are accepted by both platforms. -/
theorem accepted (a : Attempt) : Accepted a.keyPragma a.rekeyPragma := by
  obtain ⟨value, -, hholds, -⟩ := a.exists_keyStatements
  refine ⟨(contains_of_holds hholds).1, ?_, ?_⟩
  · intro m hm
    obtain ⟨r, v, -, -, hrekey, -⟩ := a.exists_rekeyStatements hm
    exact (contains_of_holds hrekey).1
  · intro m hm
    obtain ⟨r, v, -, -, hrekey, -⟩ := a.exists_rekeyStatements hm
    exact (contains_of_holds hrekey).2

/-- `JDBCMCProperties.of` accepts the maps of an attempt. -/
theorem of_eq_ok (a : Attempt) (user : LinkedMap Text Text) :
    JDBCMCProperties.of a.keyPragma a.rekeyPragma user = .ok (a.properties user) := by
  obtain ⟨value, -, hholds, -⟩ := a.exists_keyStatements
  obtain ⟨hnoRekey, hkey⟩ := contains_of_holds hholds
  -- four checks in the source's order: two on each of the maps
  refine bind_eq_ok.mpr ⟨(), require_eq_ok.mpr hkey, bind_eq_ok.mpr ⟨(), require_eq_ok.mpr ?_,
    bind_eq_ok.mpr ⟨(), require_eq_ok.mpr a.accepted.rekeyPragma_reKey,
      bind_eq_ok.mpr ⟨(), require_eq_ok.mpr ?_, rfl⟩⟩⟩⟩
  · rw [hnoRekey]
    exact Bool.false_ne_true
  · intro m hm
    rw [a.accepted.rekeyPragma_key m hm]
    exact Bool.false_ne_true

/-- The statements of an attempt: those of the key map, those of the rekey map, and those of
the map that is left in the end. -/
structure Statements (a : Attempt) where
  key : List Statement
  rekey : List Statement
  final : List Statement
  key_eq : a.keyPragma.toMCSQLStatements = .ok key
  rekey_eq : ∀ m ∈ a.rekeyPragma, m.toMCSQLStatements = .ok rekey
  rekey_none : a.rekeyPragma = none → rekey = []
  final_eq : (finalMap a.keyPragma a.rekeyPragma).toMCSQLStatements = .ok final

/-- An attempt has the statements for its key and for its rekey. -/
theorem nonempty_statements (a : Attempt) : Nonempty a.Statements := by
  obtain ⟨value, -, -, hkey⟩ := a.exists_keyStatements
  cases hm : a.rekeyPragma with
  -- the final map is the key map, or what the rekey map is swapped into
  | none =>
    refine ⟨⟨_, [], a.config.keyStatements false value, hkey, ?_, fun _ => rfl, ?_⟩⟩
    · intro m hmem
      rw [hm] at hmem
      cases hmem
    · rw [hm]
      exact hkey
  | some m =>
    obtain ⟨r, v, -, -, -, hrekey, hswapped⟩ := a.exists_rekeyStatements hm
    refine ⟨⟨_, r.1.rekeyStatements false v, r.1.keyStatements false v, hkey, ?_, fun h => ?_, ?_⟩⟩
    · intro m' hm'
      rw [hm] at hm'
      cases hm'
      exact hrekey
    · rw [hm] at h
      cases h
    · rw [hm]
      exact hswapped

/-- The statements that are packed are those for the key, and behind them those for the rekey. -/
theorem packedStatements_eq {a : Attempt} (sts : a.Statements) :
    packedStatements a.keyPragma a.rekeyPragma = .ok (sts.key ++ sts.rekey) := by
  cases hm : a.rekeyPragma with
  | none =>
    rw [sts.rekey_none hm, List.append_nil]
    exact packedStatements_none_eq_ok.mpr sts.key_eq
  | some m => exact packedStatements_some_eq_ok.mpr ⟨_, _, sts.key_eq, sts.rekey_eq m hm, rfl⟩

end Attempt

/-! ## Connections -/

@[simp] theorem Connection.executed_append (a b : List Step) (ok : Bool) :
    (Connection.mk (a ++ b) ok).executed =
      (Connection.mk a ok).executed ++ (Connection.mk b ok).executed :=
  List.filterMap_append

@[simp] theorem Connection.executed_statements (executed : List (Statement × Bool)) (ok : Bool) :
    (Connection.mk (Step.statements executed) ok).executed = executed := by
  show (executed.map _).filterMap _ = executed
  rw [List.filterMap_map]
  exact List.filterMap_some

/-- A connection runs the key and rekey statements `sts` as far as they succeed, and is open
if all of them and the rest do. -/
structure Connection.Runs (c : Connection) (o : Outcome) (sts : List Statement) : Prop where
  executed : c.executed = (Script.exec o.statement 0 sts).1
  opened : c.opened = ((Script.exec o.statement 0 sts).2 && o.rest)

/-- A connection opened with a password runs its statements, and is ready when none of them
failed. -/
theorem Connection.runs_ofPassword (o : Outcome) (sts : List Statement) :
    (Connection.ofPassword o (some sts)).Runs o sts := by
  unfold Connection.ofPassword
  simp only [Option.getD_some]
  -- a statement that failed ends the attempt; after all of them the connection is ready
  cases hend : (Script.exec o.statement 0 sts).2 with
  | false =>
    rw [if_neg Bool.false_ne_true]
    exact ⟨executed_statements _ _, by rw [hend]; rfl⟩
  | true =>
    rw [if_pos rfl]
    refine ⟨?_, by rw [hend]; rfl⟩
    rw [executed_append, executed_statements]
    exact List.append_nil _

/-! ### JVM -/

/-- Once initialized, the properties stay as they are. -/
theorem JDBCMCProperties.connect_ready {sh : JDBCMCProperties} (hflag : sh.isInitialized = true)
    (o : Outcome) : sh.withKeyProps o = (sh, .ofPassword o sh.properties.password) :=
  if_pos hflag

/-- The first connection of the JVM driver, and the properties it leaves if it is opened. -/
theorem Attempt.connect_properties {a : Attempt} (sts : a.Statements) (user : LinkedMap Text Text)
    (o : Outcome) :
    ((a.properties user).withKeyProps o).2.Runs o (sts.key ++ sts.rekey) ∧
      (((a.properties user).withKeyProps o).2.opened = true →
        At ((a.properties user).withKeyProps o).1 (finalMap a.keyPragma a.rekeyPragma) none true
          (some sts.final)) := by
  have hat : At (a.properties user) a.keyPragma a.rekeyPragma false none := ⟨rfl, rfl, rfl, rfl⟩
  -- the first connection: there is no password yet, so both lists are packed
  have hpack : (a.properties user).packIfAbsent (a.properties user).properties =
      .ok { password := some (sts.key ++ sts.rekey), user := user.remove (Text.lit "hexkey_mode") } :=
    bind_eq_ok.mpr ⟨_, packedStatements_eq sts, rfl⟩
  obtain ⟨sh', hrepack, hat'⟩ := hat.swap.repack sts.final_eq
  have hruns := Connection.runs_ofPassword o (sts.key ++ sts.rekey)
  unfold withKeyProps
  rw [if_neg (show ¬ (a.properties user).isInitialized = true from Bool.false_ne_true)]
  simp only [hpack]
  cases hopened : (Connection.ofPassword o (some (sts.key ++ sts.rekey))).opened with
  -- the connection failed, and the copy of the properties is dropped
  | false =>
    rw [Bool.not_false, if_pos rfl]
    exact ⟨hruns, fun h => absurd (hopened.symm.trans h) Bool.false_ne_true⟩
  | true =>
    rw [Bool.not_true, if_neg Bool.false_ne_true]
    simp only [hrepack]
    refine ⟨⟨?_, ?_⟩, fun _ => ⟨hat'.keyPragma, hat'.rekeyPragma, rfl, hat'.password⟩⟩
    · -- the swap comes after what was executed
      rw [Connection.executed_append, ← hruns.executed]
      have hswap : ∀ b : Bool,
          (Connection.mk (if b then [.swap] else []) true).executed = [] := by
        intro b
        cases b <;> rfl
      rw [hswap, List.append_nil]
      rfl
    · rw [← hruns.opened, hopened]

/-! ### Native -/

/-- Without a rekey map, a connection leaves the maps as they are. -/
theorem onCreateConnection_final {m : Maps} {sts : List Statement}
    (hkey : m.keyPragma.toMCSQLStatements = .ok sts) (hrekey : m.rekeyIsNullOrEmpty = true)
    (o : Outcome) : ∃ c, onCreateConnection o m = (m, c) ∧ c.Runs o sts := by
  unfold onCreateConnection
  simp only [hkey, hrekey]
  cases hend : (Script.exec o.statement 0 sts).2 with
  | false =>
    refine ⟨_, rfl, Connection.executed_statements _ _, ?_⟩
    rw [hend]
    rfl
  -- what follows the statements is not a statement
  | true =>
    refine ⟨_, rfl, ?_, ?_⟩
    · rw [Connection.executed_append, Connection.executed_statements]
      exact List.append_nil _
    · rw [hend]
      rfl

/-- The first connection of the native driver, and the maps it leaves if it is opened. -/
theorem Attempt.onCreateConnection_maps {a : Attempt} (sts : a.Statements) (o : Outcome) :
    (onCreateConnection o a.maps).2.Runs o (sts.key ++ sts.rekey) ∧
      ((onCreateConnection o a.maps).2.opened = true →
        (onCreateConnection o a.maps).1.keyPragma = finalMap a.keyPragma a.rekeyPragma ∧
          (onCreateConnection o a.maps).1.rekeyIsNullOrEmpty = true) := by
  cases hm : a.rekeyPragma with
  | none =>
    have hempty : a.maps.rekeyIsNullOrEmpty = true := by
      rw [Maps.rekeyIsNullOrEmpty, show a.maps.rekeyPragma = none from hm]
    obtain ⟨c, hc, hruns⟩ := onCreateConnection_final (m := a.maps) sts.key_eq hempty o
    rw [hc, sts.rekey_none hm, List.append_nil]
    exact ⟨hruns, fun _ => ⟨rfl, hempty⟩⟩
  | some rekey =>
    have hrekey : a.maps.rekeyPragma = some rekey := hm
    have hnonempty : a.maps.rekeyIsNullOrEmpty = false := by
      rw [Maps.rekeyIsNullOrEmpty, hrekey]
      have hcontains := a.accepted.rekeyPragma_reKey rekey hm
      cases hentries : rekey.entries with
      | nil =>
        rw [LinkedMap.contains, LinkedMap.get?, hentries] at hcontains
        cases hcontains
      | cons e es =>
        show rekey.entries.isEmpty = false
        rw [hentries]
        rfl
    have hstatements := sts.rekey_eq rekey hm
    have happend := Script.exec_append o.statement 0 sts.key sts.rekey
    rw [Nat.zero_add] at happend
    unfold onCreateConnection
    simp only [show a.maps.keyPragma.toMCSQLStatements = .ok sts.key from sts.key_eq]
    cases hkeyEnd : (Script.exec o.statement 0 sts.key).2 with
    | false =>
      -- a key statement fails
      rw [hkeyEnd, if_neg Bool.false_ne_true] at happend
      refine ⟨⟨?_, ?_⟩, fun h => ?_⟩
      · rw [happend]
        exact Connection.executed_statements _ _
      · rw [happend, hkeyEnd]
        rfl
      · cases h
    | true =>
      rw [hkeyEnd, if_pos rfl] at happend
      simp only [Bool.not_true, if_neg Bool.false_ne_true, hnonempty, Maps.rekey, hrekey,
        Option.getD_some, hstatements]
      cases hrekeyEnd : (Script.exec o.statement sts.key.length sts.rekey).2 with
      | false =>
        rw [if_neg Bool.false_ne_true]
        refine ⟨⟨?_, ?_⟩, fun h => ?_⟩
        · rw [happend]
          exact Connection.executed_statements _ _
        · rw [happend, hrekeyEnd]
          rfl
        · cases h
      | true =>
        rw [if_pos rfl]
        refine ⟨⟨?_, ?_⟩, fun _ => ?_⟩
        · rw [happend, Connection.executed_append, Connection.executed_statements]
          exact List.append_nil _
        · rw [happend, hrekeyEnd]
          rfl
        · rw [Maps.swap, hrekey]
          exact ⟨rfl, rfl⟩

/-! ## One thread on its own -/

/-- What a thread sees: the shared state, the lock, and where it is itself. -/
structure View where
  shared : JDBCMCProperties
  lock : Option ThreadId
  pc : Pc

/-- Thread `i` can take a step from one view to another. -/
def View.Next (i : ThreadId) (v w : View) : Prop :=
  ∃ a, ∀ changed, ∃ events,
    v.pc.act i v.shared v.lock changed a = some (goto w.shared w.lock w.pc events)

/-- What thread `i` can do on its own is a run of the system. -/
theorem System.run_of_next {i : ThreadId} {v w : View} (h : Relation.ReflTransGen (View.Next i) v w)
    (s : System) (hs : v = ⟨s.shared, s.lock, (s.threads i).pc⟩) :
    ∃ labels t, (∀ l ∈ labels, l.1 = i) ∧ s.run labels = some t ∧
      w = ⟨t.shared, t.lock, (t.threads i).pc⟩ := by
  induction h with
  | refl => exact ⟨[], s, by simp, rfl, hs⟩
  | @tail w x _ hnext ih =>
    obtain ⟨labels, t, hlabels, hrun, rfl⟩ := ih
    obtain ⟨a, hact⟩ := hnext
    -- the thread can go on whether it has changed the shared state before or not
    obtain ⟨events, hact⟩ := hact (t.threads i).changed
    refine ⟨labels ++ [(i, a)], t.after i a (goto x.shared x.lock x.pc events), ?_, ?_, ?_⟩
    · intro l hl
      rcases List.mem_append.mp hl with hl | hl
      · exact hlabels l hl
      · rw [List.mem_singleton.mp hl]
    · rw [System.run, run_append, show Transition.run _ s labels = some t from hrun]
      exact run_cons_eq_some.mpr ⟨_, System.step_eq_some.mpr ⟨_, hact, rfl⟩, rfl⟩
    · rw [System.after_self]
      rfl

/-- A call of `withKeyProps` by one thread, step by step. -/
theorem JDBCMCProperties.next_withKeyProps (sh : JDBCMCProperties) (i : ThreadId) (o : Outcome) :
    Relation.ReflTransGen (View.Next i) ⟨sh, none, .idle⟩ ⟨(sh.withKeyProps o).1, none, .idle⟩ := by
  have hcall : View.Next i ⟨sh, none, .idle⟩ ⟨sh, none, .enter⟩ :=
    ⟨.withKeyProps, fun _ => ⟨[], rfl⟩⟩
  refine .head hcall ?_
  cases hflag : sh.isInitialized with
  | true =>
    have henter : View.Next i ⟨sh, none, .enter⟩ ⟨sh, none, .connectUnlocked⟩ :=
      ⟨.go, fun _ => ⟨[], by rw [Pc.act, hflag]; rfl⟩⟩
    rw [connect_ready hflag]
    refine .head henter (.head (b := ⟨sh, none, .block .unlocked sh.properties.password⟩)
      ⟨.go, fun _ => ⟨_, rfl⟩⟩ (.single ⟨.returns true, fun _ => ⟨_, rfl⟩⟩))
  | false =>
    have henter : View.Next i ⟨sh, none, .enter⟩ ⟨sh, none, .synchronize⟩ :=
      ⟨.go, fun _ => ⟨[], by rw [Pc.act, hflag]; rfl⟩⟩
    have hlock : View.Next i ⟨sh, none, .synchronize⟩ ⟨sh, some i, .recheck⟩ :=
      ⟨.go, fun _ => ⟨[], rfl⟩⟩
    have hrecheck : View.Next i ⟨sh, some i, .recheck⟩ ⟨sh, some i, .pack sh.properties⟩ :=
      ⟨.go, fun _ => ⟨[], by rw [Pc.act, hflag]; rfl⟩⟩
    have hunlock : ∀ (sh' : JDBCMCProperties) (ok : Bool),
        View.Next i ⟨sh', some i, .unlock ok⟩ ⟨sh', none, .idle⟩ :=
      fun _ _ => ⟨.go, fun _ => ⟨_, rfl⟩⟩
    refine .head henter (.head hlock (.head hrecheck ?_))
    unfold withKeyProps
    rw [if_neg (by rw [hflag]; exact Bool.false_ne_true)]
    cases hpack : sh.packIfAbsent sh.properties with
    | error e =>
      refine .head (b := ⟨sh, some i, .unlock false⟩) ⟨.go, fun _ => ⟨[], ?_⟩⟩ (.single (hunlock _ _))
      rw [Pc.act, hpack]
    | ok keyProp =>
      have hconnect : View.Next i ⟨sh, some i, .pack sh.properties⟩
          ⟨sh, some i, .connectFirst keyProp⟩ := ⟨.go, fun _ => ⟨[], by rw [Pc.act, hpack]⟩⟩
      have hblock : View.Next i ⟨sh, some i, .connectFirst keyProp⟩
          ⟨sh, some i, .block .first keyProp.password⟩ := ⟨.go, fun _ => ⟨_, rfl⟩⟩
      refine .head hconnect (.head hblock ?_)
      dsimp only
      cases (Connection.ofPassword o keyProp.password).opened with
      | false =>
        -- the block throws
        exact .head ⟨.returns false, fun _ => ⟨_, rfl⟩⟩ (.single (hunlock sh false))
      | true =>
        have hreturns : View.Next i ⟨sh, some i, .block .first keyProp.password⟩
            ⟨sh, some i, .swap⟩ := ⟨.returns true, fun _ => ⟨_, rfl⟩⟩
        have hswap : View.Next i ⟨sh, some i, .swap⟩ ⟨sh.swap, some i, .repack⟩ :=
          ⟨.go, fun _ => ⟨[], rfl⟩⟩
        refine .head hreturns (.head hswap ?_)
        cases hrepack : sh.swap.repack with
        | error e =>
          refine .head ⟨.go, fun _ => ⟨[], ?_⟩⟩ (.single (hunlock sh.swap false))
          rw [Pc.act, hrepack]
        | ok sh' =>
          have hrepacked : View.Next i ⟨sh.swap, some i, .repack⟩ ⟨sh', some i, .setInitialized⟩ :=
            ⟨.go, fun _ => ⟨[], by rw [Pc.act, hrepack]⟩⟩
          exact .head hrepacked (.head ⟨.go, fun _ => ⟨[], rfl⟩⟩ (.single (hunlock _ true)))

/-- A thread that nobody interferes with does what the sequential `withKeyProps` does. -/
theorem withKeyProps_run (s : System) (i : ThreadId) (o : Outcome) (hlock : s.lock = none)
    (hidle : (s.threads i).pc = .idle) :
    ∃ labels t, (∀ l ∈ labels, l.1 = i) ∧ s.run labels = some t ∧
      t.shared = (s.shared.withKeyProps o).1 ∧ t.lock = none ∧ (t.threads i).pc = .idle := by
  obtain ⟨labels, t, hlabels, hrun, ht⟩ := System.run_of_next
    (s.shared.next_withKeyProps i o) s (by rw [hlock, hidle])
  injection ht with hshared hlock' hpc
  exact ⟨labels, t, hlabels, hrun, hshared.symm, hlock'.symm, hpc.symm⟩

/-! ## Sessions -/

namespace Outcome

/-- What is executed of the key and rekey statements `sts`. -/
def executes (o : Outcome) (sts : List Statement) : List (Statement × Bool) :=
  (Script.exec o.statement 0 sts).1

/-- Whether a connection with the key and rekey statements `sts` is opened. -/
def opens (o : Outcome) (sts : List Statement) : Bool :=
  (Script.exec o.statement 0 sts).2 && o.rest

/-- The connections of a session that come after the first one if each of them runs `sts`:
none is made after one of `more` has failed. -/
def further (sts : List Statement) (later : List Outcome) : List Outcome → List Outcome
  | [] => later
  | o :: more => o :: if o.opens sts then further sts later more else []

end Outcome

/-- The key protocol. The first connection runs the statements of `opening`; once it is
open, every further one runs those of `final`. -/
def keyProtocol (opening final : List Statement) (first : Outcome) (more later : List Outcome) :
    List (List (Statement × Bool)) :=
  first.executes opening ::
    if first.opens opening then (Outcome.further final later more).map (·.executes final) else []

section Sessions

variable {σ : Type} {connect : Outcome → σ → σ × Connection} {s : σ} {final : List Statement}

/-- Every connection runs `final` and leaves the state as it is. -/
def Settled (connect : Outcome → σ → σ × Connection) (s : σ) (final : List Statement) : Prop :=
  ∀ o, (connect o s).1 = s ∧ (connect o s).2.Runs o final

/-- Once the maps have settled, each further connection runs the same statements. -/
theorem openMore_of_settled (h : Settled connect s final) (later : List Outcome) :
    (openMore connect s later).map Connection.executed = later.map (·.executes final) := by
  induction later with
  | nil => rfl
  | cons o rest ih =>
    obtain ⟨hstate, hruns⟩ := h o
    rw [openMore, hstate, List.map_cons, List.map_cons, ih, hruns.executed]
    rfl

/-- Further connections leave settled maps as they are. -/
theorem openAll_of_settled (h : Settled connect s final) (more : List Outcome) :
    (openAll connect s more).1 = s := by
  induction more with
  | nil => rfl
  | cons o rest ih =>
    rw [openAll, (h o).1]
    split
    · exact ih
    · rfl

/-- The further connections of a session, once the state is settled. -/
theorem further_of_settled (h : Settled connect s final) (more later : List Outcome) :
    ((openAll connect s more).2.1 ++
        if (openAll connect s more).2.2 then openMore connect s later else []).map
      Connection.executed = (Outcome.further final later more).map (·.executes final) := by
  induction more with
  | nil => exact openMore_of_settled h later
  | cons o rest ih =>
    obtain ⟨hstate, hruns⟩ := h o
    have hopened : (connect o s).2.opened = o.opens final := hruns.opened
    rw [openAll, Outcome.further, hopened, hstate]
    cases o.opens final with
    | false =>
      -- nothing comes after a failure while the database is being opened
      rw [if_neg Bool.false_ne_true, if_neg Bool.false_ne_true]
      show [(connect o s).2.executed] = [o.executes final]
      rw [hruns.executed]
      rfl
    | true =>
      rw [if_pos rfl, if_pos rfl, List.map_cons, ← ih]
      show (connect o s).2.executed :: _ = _
      rw [hruns.executed]
      rfl

/-- A first connection that runs `opening` and, if it is opened, leaves a settled state makes
the session follow the key protocol. -/
theorem session_keyProtocol {opening : List Statement} {first : Outcome}
    (hfirst : (connect first s).2.Runs first opening)
    (hsettled : (connect first s).2.opened = true → Settled connect (connect first s).1 final)
    (more later : List Outcome) :
    (session connect s first more later).map Connection.executed =
      keyProtocol opening final first more later := by
  have hopened : (connect first s).2.opened = first.opens opening := hfirst.opened
  have hexecuted : (connect first s).2.executed = first.executes opening := hfirst.executed
  rw [session, openAll, keyProtocol, ← hopened, ← hexecuted]
  cases hcase : (connect first s).2.opened with
  -- nothing follows a first connection that failed
  | false =>
    rw [if_neg Bool.false_ne_true, if_neg Bool.false_ne_true]
    rfl
  | true =>
    have hset := hsettled hcase
    rw [if_pos rfl, if_pos rfl, ← further_of_settled hset more later]
    simp only [openAll_of_settled hset]
    cases (openAll connect (connect first s).1 more).2.2 with
    | false => simp
    | true => simp

end Sessions

/-- With the rekey done and one password left the JVM's properties are settled. -/
theorem JDBCMCProperties.settled {sh : JDBCMCProperties} {m : MCPragmas} {final : List Statement}
    (h : At sh m none true (some final)) : Settled withKeyProps sh final := by
  intro o
  rw [connect_ready h.isInitialized o, h.password]
  exact ⟨rfl, Connection.runs_ofPassword o final⟩

/-- With the rekey done the native maps are settled. -/
theorem Maps.settled {m : Maps} {final : List Statement}
    (hkey : m.keyPragma.toMCSQLStatements = .ok final) (hrekey : m.rekeyIsNullOrEmpty = true) :
    Settled onCreateConnection m final := by
  intro o
  obtain ⟨c, hc, hruns⟩ := onCreateConnection_final hkey hrekey o
  rw [hc]
  exact ⟨rfl, hruns⟩

/-- Both platforms follow the key protocol: the first connection runs the key statements,
then the rekey statements, up to the first failure, and once it is open every further one
runs the key statements of the final map. -/
theorem same_key_protocol (a : Attempt) (user : LinkedMap Text Text) (first : Outcome)
    (more later : List Outcome) :
    ∃ key rekey final : List Statement,
      a.keyPragma.toMCSQLStatements = .ok key ∧
      (∀ m ∈ a.rekeyPragma, m.toMCSQLStatements = .ok rekey) ∧
      (a.rekeyPragma = none → rekey = []) ∧
      (finalMap a.keyPragma a.rekeyPragma).toMCSQLStatements = .ok final ∧
      JDBCMCProperties.of a.keyPragma a.rekeyPragma user = .ok (a.properties user) ∧
      (session JDBCMCProperties.withKeyProps (a.properties user) first more later).map
        Connection.executed = keyProtocol (key ++ rekey) final first more later ∧
      (session onCreateConnection a.maps first more later).map
        Connection.executed = keyProtocol (key ++ rekey) final first more later := by
  obtain ⟨sts⟩ := a.nonempty_statements
  refine ⟨sts.key, sts.rekey, sts.final, sts.key_eq, sts.rekey_eq, sts.rekey_none, sts.final_eq,
    a.of_eq_ok user, ?_, ?_⟩
  -- the JVM driver, then native
  · obtain ⟨hruns, hopened⟩ := Attempt.connect_properties sts user first
    exact session_keyProtocol hruns (fun h => JDBCMCProperties.settled (hopened h)) more later
  · obtain ⟨hruns, hopened⟩ := Attempt.onCreateConnection_maps sts first
    refine session_keyProtocol hruns (fun h => ?_) more later
    obtain ⟨hkey, hrekey⟩ := hopened h
    exact Maps.settled (hkey ▸ sts.final_eq) hrekey

end SqliteMc
