import SqliteMc.Model.Platform
import SqliteMc.Results.Connection
import SqliteMc.Results.Factory
import SqliteMc.Results.Migration

/-!
# When a database is rekeyed

What the connections of a whole call of `create` execute, on either platform, in every
attempt and whatever fails.

* `rekey_verified` — `PRAGMA rekey` comes after the connection's `PRAGMA key`, a successful
  read of the schema and a successful `PRAGMA journal_mode = DELETE`; after a failed
  statement there is no other, and no swap.
* `create_file_law` — the file is encrypted as before the call, unless a `PRAGMA rekey` of
  the call has succeeded: then as the last of these left it.
-/

namespace SqliteMc

/-! ## One `PRAGMA rekey` -/

/-- A list with one element of a kind can be split at an element of that kind in one way. -/
private theorem split_unique {α : Type} {p : α → Bool} {before after as bs : List α} {x y : α}
    (has : ∀ a ∈ as, p a = false) (hbs : ∀ b ∈ bs, p b = false) (hx : p x = true)
    (h : before ++ x :: after = as ++ y :: bs) : before = as ∧ x = y ∧ after = bs := by
  induction before generalizing as with
  | nil =>
    cases as with
    | nil =>
      obtain ⟨hxy, hafter⟩ := List.cons.inj h
      exact ⟨rfl, hxy, hafter⟩
    | cons a as =>
      have hxa : x = a := (List.cons.inj h).1
      have hpa := has a List.mem_cons_self
      rw [← hxa, hx] at hpa
      cases hpa
  | cons b before ih =>
    cases as with
    | nil =>
      -- the element would stand after the only one of its kind
      have hmem : x ∈ bs := by
        rw [← (List.cons.inj h).2]
        exact List.mem_append_right _ List.mem_cons_self
      have hpx := hbs x hmem
      rw [hx] at hpx
      cases hpx
    | cons a as =>
      obtain ⟨hba, hrest⟩ := List.cons.inj h
      obtain ⟨hbefore, hxy, hafter⟩ := ih (fun c hc => has c (List.mem_cons_of_mem a hc)) hrest
      exact ⟨by rw [hba, hbefore], hxy, hafter⟩

namespace Attempt

/-- The statements of an attempt, in terms of its configurations and keys. -/
theorem Statements.closed {a : Attempt} (sts : a.Statements) :
    ∃ value, a.key.retrieveFormatted a.config.cipherConfig.cipher = .ok value ∧
      sts.key = a.config.keyStatements false value ∧
      ((a.rekey = none ∧ sts.rekey = []) ∨
        ∃ r revalue, a.rekey = some r ∧
          r.2.retrieveFormatted r.1.cipherConfig.cipher = .ok revalue ∧
          sts.rekey = r.1.rekeyStatements false revalue) := by
  obtain ⟨value, hvalue, -, hkey⟩ := a.exists_keyStatements
  have hkey' : sts.key = a.config.keyStatements false value :=
    Except.ok.inj (sts.key_eq.symm.trans hkey)
  refine ⟨value, hvalue, hkey', ?_⟩
  -- the rekey map is there just when a rekey was asked for
  cases hm : a.rekeyPragma with
  | none =>
    have hnone : a.rekey = none := by
      have heq := a.rekeyPragma_eq
      rw [hm, Option.map_none, Option.map_eq_none_iff] at heq
      exact heq
    exact Or.inl ⟨hnone, sts.rekey_none hm⟩
  | some m =>
    obtain ⟨r, revalue, hr, hrevalue, -, hrekey, -⟩ := a.exists_rekeyStatements hm
    exact Or.inr ⟨r, revalue, hr, hrevalue, Except.ok.inj ((sts.rekey_eq m hm).symm.trans hrekey)⟩

/-- What stands around the `PRAGMA rekey` of an attempt. -/
structure RekeysAt (a : Attempt) (before : List Statement) (x : Statement) (value : Text)
    (r : EncryptionConfig × Key) (revalue : Text) : Prop where
  key : a.key.retrieveFormatted a.config.cipherConfig.cipher = .ok value
  rekey : a.rekey = some r
  newKey : r.2.retrieveFormatted r.1.cipherConfig.cipher = .ok revalue
  statement : x = .rekey revalue
  before : before = a.config.beforeRekey r.1 value

/-- An attempt rekeys once at most. -/
theorem Statements.rekeysAt {a : Attempt} (sts : a.Statements) {before after : List Statement}
    {x : Statement} (h : sts.key ++ sts.rekey = before ++ x :: after) (hx : x.isRekey = true) :
    ∃ value r revalue, a.RekeysAt before x value r revalue ∧ ∀ y ∈ after, y.isRekey = false := by
  obtain ⟨value, hvalue, hkey, ⟨-, hrekey⟩ | ⟨r, revalue, hr, hrevalue, hrekey⟩⟩ := sts.closed
  · -- the key statements do not rekey
    have hmem : x ∈ a.config.keyStatements false value := by
      rw [← hkey, ← List.append_nil sts.key, ← hrekey, h]
      exact List.mem_append_right _ List.mem_cons_self
    have hnot := EncryptionConfig.isRekey_keyStatements a.config value x hmem
    rw [hx] at hnot
    cases hnot
  · rw [hkey, hrekey, EncryptionConfig.keyStatements_append_rekeyStatements] at h
    -- all of the statements but one are no rekey, so this is the one
    have hkeys := EncryptionConfig.isRekey_keyStatements r.1 revalue
    obtain ⟨hbefore, hxeq, hafter⟩ :=
      split_unique (EncryptionConfig.isRekey_beforeRekey a.config r.1 value) hkeys hx h.symm
    exact ⟨value, r, revalue, ⟨hvalue, hr, hrevalue, hxeq, hbefore⟩, hafter ▸ hkeys⟩

/-- The statements that are left are for the key only. -/
theorem Statements.isRekey_final {a : Attempt} (sts : a.Statements) :
    ∀ s ∈ sts.final, s.isRekey = false :=
  a.accepted.isRekey_final sts.final_eq

end Attempt

/-! ## The connections of an attempt -/

/-- What a connection executed is the beginning of its script: the opening statements on
the first connection, the final ones on all others. -/
def Connection.Follows (c : Connection) {a : Attempt} (sts : a.Statements) : Prop :=
  ∃ o : Outcome, c.executed = o.executes (sts.key ++ sts.rekey) ∨ c.executed = o.executes sts.final

/-- What stands around a `PRAGMA rekey` that a connection executed. -/
theorem Connection.Follows.rekeysAt {c : Connection} {a : Attempt} {sts : a.Statements}
    (h : c.Follows sts) {pre post : List (Statement × Bool)} {x : Statement × Bool}
    (hexecuted : c.executed = pre ++ x :: post) (hx : x.1.isRekey = true) :
    ∃ before value r revalue, (pre = before.map fun st => (st, true)) ∧
      a.RekeysAt before x.1 value r revalue ∧ ∀ y ∈ post, y.1.isRekey = false := by
  obtain ⟨o, ho | ho⟩ := h
  -- the first connection runs the opening statements
  · obtain ⟨before, after, hsplit, hpre, hpost⟩ :=
      Script.exec_eq_append o.statement (ho.symm.trans hexecuted)
    obtain ⟨value, r, revalue, hat, hafter⟩ := sts.rekeysAt hsplit hx
    refine ⟨before, value, r, revalue, hpre, hat, fun y hy => ?_⟩
    exact hafter y.1 (hpost.subset (List.mem_map.mpr ⟨y, hy, rfl⟩))
  · -- the final statements do not rekey
    obtain ⟨before, after, hsplit, -, -⟩ :=
      Script.exec_eq_append o.statement (ho.symm.trans hexecuted)
    have hnot := sts.isRekey_final x.1 (by
      rw [hsplit]
      exact List.mem_append_right _ List.mem_cons_self)
    rw [hx] at hnot
    cases hnot

/-- The connections that `openAll` makes are made one by one. -/
theorem exists_connect_of_mem_openAll {σ : Type} {connect : Outcome → σ → σ × Connection}
    {s : σ} {os : List Outcome} {c : Connection} (h : c ∈ (openAll connect s os).2.1) :
    ∃ o s', c = (connect o s').2 := by
  induction os generalizing s with
  | nil => cases h
  | cons o rest ih =>
    unfold openAll at h
    split at h
    -- the connection is the one opened first, or one of those behind it
    · rcases List.mem_cons.mp h with rfl | h
      · exact ⟨o, s, rfl⟩
      · exact ih h
    · rw [List.mem_singleton.mp h]
      exact ⟨o, s, rfl⟩

/-- The connections of `create` keep to the key protocol. -/
theorem Platform.openAll_keyProtocol (kind : Platform.Kind) {a : Attempt} (sts : a.Statements)
    (first : Outcome) (more : List Outcome) :
    (openAll kind.platform.connect (kind.platform.start a) (first :: more)).2.1.map
        Connection.executed =
      keyProtocol (sts.key ++ sts.rekey) sts.final first more [] := by
  -- `create` opens no connection after the others
  have hsession : ∀ {σ : Type} (connect : Outcome → σ → σ × Connection) (s : σ),
      (openAll connect s (first :: more)).2.1 = session connect s first more [] := by
    intro σ connect s
    rw [session]
    split
    · exact (List.append_nil _).symm
    · rfl
  rw [hsession]
  cases kind with
  | native =>
    obtain ⟨hruns, hopened⟩ := Attempt.onCreateConnection_maps sts first
    refine session_keyProtocol hruns (fun h => ?_) more []
    obtain ⟨hkey, hrekey⟩ := hopened h
    exact Maps.settled (hkey ▸ sts.final_eq) hrekey
  | jvm dbName user =>
    obtain ⟨hruns, hopened⟩ := Attempt.connect_properties sts user first
    exact session_keyProtocol hruns (fun h => JDBCMCProperties.settled (hopened h)) more []

/-- Every connection of `create` follows the statements of its attempt. -/
theorem Platform.follows_of_mem_openAll (kind : Platform.Kind) {a : Attempt} (sts : a.Statements)
    {first : Outcome} {more : List Outcome} {c : Connection}
    (hc : c ∈ (openAll kind.platform.connect (kind.platform.start a) (first :: more)).2.1) :
    c.Follows sts := by
  have hmem : c.executed ∈ keyProtocol (sts.key ++ sts.rekey) sts.final first more [] := by
    rw [← openAll_keyProtocol kind sts first more]
    exact List.mem_map.mpr ⟨c, hc, rfl⟩
  rcases List.mem_cons.mp hmem with hfirst | hfurther
  · exact ⟨first, Or.inl hfirst⟩
  · split at hfurther
    · obtain ⟨o, -, ho⟩ := List.mem_map.mp hfurther
      exact ⟨o, Or.inr ho.symm⟩
    · cases hfurther

/-! ### Failed statements -/

/-- A statement of the connection has failed. -/
def Connection.Failed (c : Connection) : Prop := ∃ st, (st, false) ∈ c.executed

/-- A failed statement is the last that was run. -/
private theorem exec_snd_of_failed {o : Outcome} {n : Nat} {sts : List Statement} {st : Statement}
    (h : (st, false) ∈ (Script.exec o.statement n sts).1) :
    (Script.exec o.statement n sts).2 = false := by
  obtain ⟨pre, post, hsplit⟩ := List.append_of_mem h
  exact (Script.exec_eq_append_false o.statement hsplit).2.1

/-- Running statements swaps no maps. -/
private theorem swap_not_mem_statements (executed : List (Statement × Bool)) :
    Step.swap ∉ Step.statements executed := by
  intro h
  obtain ⟨x, -, hx⟩ := List.mem_map.mp h
  cases hx

/-- A connection block in which a statement failed is not opened, and does nothing else. -/
theorem Connection.ofPassword_failed {o : Outcome} {password : Option (List Statement)}
    (h : (Connection.ofPassword o password).Failed) :
    (Connection.ofPassword o password).opened = false ∧
      Step.swap ∉ (Connection.ofPassword o password).steps := by
  obtain ⟨st, hst⟩ := h
  have hruns := Connection.runs_ofPassword o (password.getD [])
  have hpassword : Connection.ofPassword o (some (password.getD [])) =
      Connection.ofPassword o password := rfl
  rw [hpassword] at hruns
  rw [hruns.executed] at hst
  -- a statement that failed was the last
  have hend := exec_snd_of_failed hst
  refine ⟨by rw [hruns.opened, hend]; rfl, ?_⟩
  unfold Connection.ofPassword
  simp only [hend, Bool.false_eq_true, if_false]
  exact swap_not_mem_statements _

/-- After a failed statement the properties stay as they are, and there is no swap. -/
theorem JDBCMCProperties.withKeyProps_failed {o : Outcome} {sh : JDBCMCProperties}
    (h : (sh.withKeyProps o).2.Failed) :
    (sh.withKeyProps o).1 = sh ∧ Step.swap ∉ (sh.withKeyProps o).2.steps := by
  unfold withKeyProps at h ⊢
  split at h
  · rename_i hflag
    rw [if_pos hflag]
    exact ⟨rfl, (Connection.ofPassword_failed h).2⟩
  · rename_i hflag
    rw [if_neg hflag]
    cases hpack : sh.packIfAbsent sh.properties with
    | error e =>
      rw [hpack] at h
      obtain ⟨st, hst⟩ := h
      cases hst
    | ok keyProp =>
      rw [hpack] at h
      dsimp only at h ⊢
      cases hopened : (Connection.ofPassword o keyProp.password).opened with
      | false =>
        rw [hopened] at h
        rw [Bool.not_false, if_pos rfl]
        exact ⟨rfl, (Connection.ofPassword_failed h).2⟩
      | true =>
        -- a connection that was opened has no failed statement
        rw [hopened, Bool.not_true, if_neg Bool.false_ne_true] at h
        have hfailed : (Connection.ofPassword o keyProp.password).Failed := by
          have hsteps : ∀ (b : Bool) ok, (Connection.mk ((Connection.ofPassword o
              keyProp.password).steps ++ if b then [.swap] else []) ok).Failed →
                (Connection.ofPassword o keyProp.password).Failed := by
            rintro b ok ⟨st, hst⟩
            rw [Connection.executed_append] at hst
            rcases List.mem_append.mp hst with hst | hst
            · exact ⟨st, hst⟩
            · cases b <;> cases hst
          cases hrepack : sh.swap.repack with
          | error e =>
            rw [hrepack] at h
            exact hsteps _ _ h
          | ok sh' =>
            rw [hrepack] at h
            exact hsteps _ _ h
        have hnot := (Connection.ofPassword_failed hfailed).1
        rw [hopened] at hnot
        cases hnot

/-- After a failed statement the maps stay as they are, and there is no swap. -/
theorem onCreateConnection_failed {o : Outcome} {m : Maps} (h : (onCreateConnection o m).2.Failed) :
    (onCreateConnection o m).1 = m ∧ Step.swap ∉ (onCreateConnection o m).2.steps := by
  unfold onCreateConnection at h ⊢
  cases hkey : m.keyPragma.toMCSQLStatements with
  | error e => exact ⟨rfl, swap_not_mem_statements []⟩
  | ok keyStatements =>
    rw [hkey] at h
    dsimp only at h ⊢
    cases hkeyEnd : (Script.exec o.statement 0 keyStatements).2 with
    | false =>
      -- a key statement failed
      rw [Bool.not_false, if_pos rfl]
      exact ⟨rfl, swap_not_mem_statements _⟩
    | true =>
      rw [hkeyEnd, Bool.not_true, if_neg Bool.false_ne_true] at h
      rw [Bool.not_true, if_neg Bool.false_ne_true]
      cases hnone : m.rekeyIsNullOrEmpty with
      | true =>
        rw [if_pos rfl]
        refine ⟨rfl, fun hswap => ?_⟩
        rcases List.mem_append.mp hswap with hswap | hswap
        · exact swap_not_mem_statements _ hswap
        · cases List.mem_singleton.mp hswap
      | false =>
        rw [hnone, if_neg Bool.false_ne_true] at h
        rw [if_neg Bool.false_ne_true]
        unfold Maps.rekey at h ⊢
        cases hrekey : (m.rekeyPragma.getD .empty).toMCSQLStatements with
        | error e => exact ⟨rfl, swap_not_mem_statements _⟩
        | ok rekeyStatements =>
          rw [hrekey] at h
          dsimp only at h ⊢
          cases hend : (Script.exec o.statement keyStatements.length rekeyStatements).2 with
          | false =>
            rw [if_neg Bool.false_ne_true]
            exact ⟨rfl, swap_not_mem_statements _⟩
          | true =>
            -- all statements have succeeded
            rw [hend, if_pos rfl] at h
            obtain ⟨st, hst⟩ := h
            rw [Connection.executed_append, Connection.executed_statements] at hst
            rcases List.mem_append.mp hst with hst | hst
            · rcases List.mem_append.mp hst with hst | hst
              · rw [exec_snd_of_failed hst] at hkeyEnd
                cases hkeyEnd
              · rw [exec_snd_of_failed hst] at hend
                cases hend
            · cases hst

/-- On either platform, a connection with a failed statement leaves the state as it is and
does not swap the maps. -/
theorem Platform.connect_failed (kind : Platform.Kind) {o : Outcome} {s : kind.platform.State}
    (h : (kind.platform.connect o s).2.Failed) :
    (kind.platform.connect o s).1 = s ∧ Step.swap ∉ (kind.platform.connect o s).2.steps := by
  cases kind with
  | native => exact onCreateConnection_failed h
  | jvm dbName user => exact JDBCMCProperties.withKeyProps_failed h

/-! ### The order of the statements -/

/-- What a connection does about rekeying: `PRAGMA rekey` is executed after `PRAGMA key` and
the two checks, all successful, with no key statement in between; after a failed statement
no other is executed, and the rekey map does not become the key map. -/
structure Connection.Verified (c : Connection) : Prop where
  rekey : ∀ pre x post, c.executed = pre ++ x :: post → x.1.isRekey = true →
    ∃ before value checks, pre = before ++ (.key value, true) :: checks ∧
      (∀ y ∈ checks, y.1.isKey = false ∧ y.1.isRekey = false) ∧
      [(.selectSchema, true), (.journalModeDelete, true)] <+: checks
  failed : ∀ pre st post, c.executed = pre ++ (st, false) :: post →
    post = [] ∧ Step.swap ∉ c.steps

/-- No setting is a key. -/
private theorem isKey_configStatements (c : EncryptionConfig) (schema : Schema) :
    ∀ s ∈ c.configStatements false schema, s.isKey = false := by
  intro s hs
  rcases List.mem_cons.mp hs with rfl | hs
  · rfl
  · obtain ⟨x, -, rfl⟩ := List.mem_map.mp hs
    rfl

/-- A connection that follows its statements verifies the rekey it runs. -/
theorem Connection.Follows.verified {c : Connection} {a : Attempt} {sts : a.Statements}
    (h : c.Follows sts) (hswap : c.Failed → Step.swap ∉ c.steps) : c.Verified where
  rekey pre x post hexecuted hx := by
    obtain ⟨before, value, r, revalue, hpre, hat, -⟩ := h.rekeysAt hexecuted hx
    rw [hpre, hat.before, EncryptionConfig.beforeRekey, List.map_append, List.map_append,
      List.append_assoc]
    refine ⟨_, value, _, rfl, ?_, List.prefix_append _ _⟩
    intro y hy
    -- what comes between the key and the rekey
    have hmem : ∃ s ∈ [Statement.selectSchema, .journalModeDelete] ++
        r.1.configStatements false .temp, y = (s, true) := by
      obtain ⟨s, hs, rfl⟩ := List.mem_map.mp (List.map_append ▸ hy : y ∈ List.map
        (fun st => (st, true)) ([Statement.selectSchema, .journalModeDelete] ++
          r.1.configStatements false .temp))
      exact ⟨s, hs, rfl⟩
    obtain ⟨s, hs, rfl⟩ := hmem
    rcases List.mem_append.mp hs with hs | hs
    · rcases List.mem_cons.mp hs with rfl | hs
      · exact ⟨rfl, rfl⟩
      · rw [List.mem_singleton.mp hs]
        exact ⟨rfl, rfl⟩
    · exact ⟨isKey_configStatements r.1 .temp s hs,
        EncryptionConfig.isRekey_configStatements r.1 .temp s hs⟩
  failed pre st post hexecuted := by
    refine ⟨?_, hswap ⟨st, by rw [hexecuted]; exact List.mem_append_right _ List.mem_cons_self⟩⟩
    obtain ⟨o, ho | ho⟩ := h
    · exact (Script.exec_eq_append_false o.statement (ho.symm.trans hexecuted)).1
    · exact (Script.exec_eq_append_false o.statement (ho.symm.trans hexecuted)).1

/-- If no read of the schema succeeds, the connection does not rekey. -/
theorem Connection.Verified.not_rekey {c : Connection} (h : c.Verified)
    (hschema : (Statement.selectSchema, true) ∉ c.executed) :
    ∀ x ∈ c.executed, x.1.isRekey = false := by
  intro x hx
  by_contra hrekey
  obtain ⟨pre, post, hsplit⟩ := List.append_of_mem hx
  obtain ⟨before, value, checks, hpre, -, hchecks⟩ :=
    h.rekey pre x post hsplit (Bool.eq_true_of_not_eq_false hrekey)
  refine hschema ?_
  rw [hsplit, hpre]
  refine List.mem_append_left _ (List.mem_append_right _ (List.mem_cons_of_mem _ ?_))
  exact hchecks.subset List.mem_cons_self

/-! ## A call of `create` -/

/-- A call adds one opening, and each of its connections follows the statements of its
attempt. -/
theorem Platform.create_eq_record (kind : Platform.Kind) (outcome : Nat → CreateOutcome)
    (a : Attempt) (w : World) :
    ∃ connections, (kind.platform.create outcome a w).2 =
        w.record kind.platform.carry a connections ∧
      ∀ c ∈ connections, (∀ sts : a.Statements, c.Follows sts) ∧
        (c.Failed → Step.swap ∉ c.steps) := by
  unfold Platform.create
  cases hbefore : (outcome w.openings.length).before with
  -- what throws before the first connection leaves an opening without any
  | some t =>
    refine ⟨[], by simp only [hbefore], fun c hc => ?_⟩
    cases hc
  | none =>
    refine ⟨(openAll kind.platform.connect (kind.platform.start a)
      ((outcome w.openings.length).first :: (outcome w.openings.length).more)).2.1, ?_, ?_⟩
    · -- the world is the same whether what follows the connections succeeds or not
      simp only [hbefore]
      split_ifs
      · split <;> rfl
      · rfl
    · intro c hc
      refine ⟨fun sts => follows_of_mem_openAll kind sts hc, fun hfailed => ?_⟩
      obtain ⟨o, s, rfl⟩ := exists_connect_of_mem_openAll hc
      exact (connect_failed kind hfailed).2

/-- The openings that a call has added. -/
def World.Extends (w : World) (before : World) (made : List Opening) : Prop :=
  w.openings = before.openings ++ made

/-- A rekey is never executed under an unverified key: every connection of every attempt of
a call is `Verified`, and if no read of the schema succeeds, there is no rekey at all. A
connection with a failed statement leaves the maps as they are. -/
theorem rekey_verified (kind : Platform.Kind) (outcome : Nat → CreateOutcome) (f : Factory World)
    (key : Key) (rekey : Option Key) :
    (∃ made, (f.createActual (kind.platform.create outcome) key rekey).2.env.Extends f.env made ∧
      (∀ o ∈ made, ∀ c ∈ o.connections, c.Verified) ∧
      ((∀ o ∈ made, ∀ c ∈ o.connections, (Statement.selectSchema, true) ∉ c.executed) →
        ∀ o ∈ made, ∀ c ∈ o.connections, ∀ x ∈ c.executed, x.1.isRekey = false)) ∧
    ∀ (o : Outcome) (s : kind.platform.State), (kind.platform.connect o s).2.Failed →
      (kind.platform.connect o s).1 = s ∧ Step.swap ∉ (kind.platform.connect o s).2.steps := by
  refine ⟨?_, fun o s h => Platform.connect_failed kind h⟩
  -- the invariant: all that the call has opened up to now is verified
  have hverified : ∃ made, (f.openOrUpgrade (kind.platform.create outcome) key rekey).2.Extends
      f.env made ∧ ∀ o ∈ made, ∀ c ∈ o.connections, c.Verified := by
    refine Factory.openOrUpgrade_invariant (I := fun w : World => ∃ made, w.Extends f.env made ∧
      ∀ o ∈ made, ∀ c ∈ o.connections, c.Verified) _ f key rekey ?_ ?_
    · rintro a w - - ⟨made, hmade, hall⟩
      obtain ⟨connections, hw, hconnections⟩ := Platform.create_eq_record kind outcome a w
      obtain ⟨sts⟩ := a.nonempty_statements
      refine ⟨made ++ [⟨a, connections⟩], ?_, ?_⟩
      · rw [hw, World.Extends, World.record, hmade, List.append_assoc]
      · intro o ho c hc
        rcases List.mem_append.mp ho with ho | ho
        · exact hall o ho c hc
        · rw [List.mem_singleton.mp ho] at hc
          obtain ⟨hfollows, hswap⟩ := hconnections c hc
          exact (hfollows sts).verified hswap
    · exact ⟨[], (List.append_nil _).symm, fun o ho => by cases ho⟩
  rw [createActual_eq]
  obtain ⟨made, hmade, hall⟩ := hverified
  exact ⟨made, hmade, hall, fun hschema o ho c hc => (hall o ho c hc).not_rekey (hschema o ho c hc)⟩

/-! ## The file -/

/-- Whether a statement is a rekey survives the transport. -/
@[simp] theorem Statement.isRekey_received (carry : Text → Text) (st : Statement) :
    (st.received carry).isRekey = st.isRekey := by
  cases st <;> rfl

namespace Engine

/-- Only a rekey changes the file. -/
theorem fileAfter_of_not_rekey {carry : Text → Text} {st : Statement} (h : st.isRekey = false)
    (t : Parameters) (file : Option Encryption) : fileAfter t file (st.received carry) = file := by
  cases st with
  | rekey value => cases h
  | _ => rfl

/-- Without a successful rekey the file stays as it is. -/
theorem replay_of_not_rekey {carry : Text → Text} {executed : List (Statement × Bool)}
    (h : ∀ st, (st, true) ∈ executed → st.isRekey = false) (t : Parameters)
    (file : Option Encryption) :
    replay (Statement.received carry) t file executed = file := by
  induction executed generalizing t file with
  | nil => rfl
  | cons x rest ih =>
    obtain ⟨st, ok⟩ := x
    -- a failed statement ends the run; one that succeeded is no rekey and leaves the file
    cases ok with
    | false => rfl
    | true =>
      show replay _ _ (fileAfter t file (st.received carry)) rest = file
      rw [fileAfter_of_not_rekey (h st List.mem_cons_self)]
      exact ih (fun s hs => h s (List.mem_cons_of_mem _ hs)) _ file

/-- Statements that have succeeded and do not rekey leave their mark on the tables only. -/
theorem replay_append {carry : Text → Text} {before : List Statement}
    (h : ∀ st ∈ before, st.isRekey = false) (t : Parameters) (file : Option Encryption)
    (rest : List (Statement × Bool)) :
    replay (Statement.received carry) t file ((before.map fun st => (st, true)) ++ rest) =
      replay (Statement.received carry) (run t (before.map (Statement.received carry))) file rest := by
  induction before generalizing t with
  | nil => rfl
  | cons st before ih =>
    show replay _ _ (fileAfter t file (st.received carry))
      ((before.map fun st => (st, true)) ++ rest) = _
    rw [fileAfter_of_not_rekey (h st List.mem_cons_self),
      ih fun s hs => h s (List.mem_cons_of_mem st hs)]
    rfl

end Engine

/-- A `PRAGMA rekey` of the connection has succeeded. -/
def Connection.Rekeyed (c : Connection) : Prop := ∃ st, (st, true) ∈ c.executed ∧ st.isRekey = true

/-- The connection's `PRAGMA rekey` has left the file encrypted with the cipher of the
current configuration, under the parameters its tables held at that moment, and with the
new key as it reaches SQLite; an empty one has removed the encryption. -/
structure Connection.Leaves (c : Connection) (P : Platform) (current : EncryptionConfig)
    (newKey : Key) (file : Option Encryption) : Prop where
  rekeyed : ∃ (before : List Statement) (value : Text) (after : List (Statement × Bool))
      (t : Engine.Parameters), c.executed =
      (before.map fun st => (st, true)) ++ (.rekey value, true) :: after ∧
    newKey.retrieveFormatted current.cipherConfig.cipher = .ok value ∧
    t = Engine.run Engine.Parameters.new (before.map (Statement.received P.carry)) ∧
    t.cipher = current.cipherConfig.cipher ∧
    file = if P.carry value = Engine.emptyKey then none else some ⟨t.codec.cipher, P.carry value⟩

/-- The configuration statements arrive as they are. -/
theorem Platform.received_configStatements (kind : Platform.Kind) (c : EncryptionConfig)
    (schema : Schema) :
    (c.configStatements false schema).map (Statement.received kind.platform.carry) =
      c.configStatements false schema := by
  -- the names of the ciphers are ASCII, which every transport carries over
  have hname : kind.platform.carry c.cipherConfig.cipher.name = c.cipherConfig.cipher.name := by
    cases kind with
    | native => rfl
    | jvm dbName user =>
      refine carried_of_isAscii ?_
      cases c.cipherConfig.cipher <;> exact Text.isAscii_of_all rfl
  rw [EncryptionConfig.configStatements, List.map_cons, List.map_map]
  show Statement.cipher schema (kind.platform.carry _) :: _ = _
  rw [hname]
  rfl

/-- The tables of a connection when its `PRAGMA rekey` executes. -/
theorem Platform.run_received_beforeRekey (kind : Platform.Kind) (old current : EncryptionConfig)
    (value : Text) :
    Engine.run Engine.Parameters.new
        ((old.beforeRekey current value).map (Statement.received kind.platform.carry)) =
      old.migrated current (kind.platform.carry value) := by
  rw [← EncryptionConfig.run_beforeRekey, EncryptionConfig.beforeRekey, List.map_append,
    List.map_append, received_configStatements, received_configStatements]
  rfl

/-- What a connection does to the file. -/
theorem Connection.Follows.replay_cases (kind : Platform.Kind) {c : Connection} {a : Attempt}
    {sts : a.Statements} (h : c.Follows sts) {current : EncryptionConfig} {newKey : Key}
    (hrekey : ∀ r ∈ a.rekey, r = (current, newKey)) (file : Option Encryption) :
    (¬ c.Rekeyed ∧ Engine.replay (Statement.received kind.platform.carry) Engine.Parameters.new
        file c.executed = file) ∨
      c.Rekeyed ∧ c.Leaves kind.platform current newKey
        (Engine.replay (Statement.received kind.platform.carry) Engine.Parameters.new file
          c.executed) := by
  by_cases hrekeyed : c.Rekeyed
  · obtain ⟨st, hst, hisRekey⟩ := hrekeyed
    obtain ⟨pre, post, hsplit⟩ := List.append_of_mem hst
    obtain ⟨before, value, r, revalue, hpre, hat, hpost⟩ := h.rekeysAt hsplit hisRekey
    have hr : r = (current, newKey) := hrekey r hat.rekey
    subst hr
    refine Or.inr ⟨⟨st, hst, hisRekey⟩, ⟨before, revalue, post, _, ?_, hat.newKey, rfl, ?_, ?_⟩⟩
    · rw [hsplit, hpre, show st = .rekey revalue from hat.statement]
    · rw [hat.before, Platform.run_received_beforeRekey, EncryptionConfig.migrated_cipher]
    · have hbefore : ∀ s ∈ before, s.isRekey = false := by
        rw [hat.before]
        exact EncryptionConfig.isRekey_beforeRekey a.config current value
      rw [hsplit, hpre, show st = .rekey revalue from hat.statement,
        Engine.replay_append hbefore]
      -- nothing after the rekey changes the file again
      exact Engine.replay_of_not_rekey (fun s hs => hpost (s, true) hs) _ _
  · refine Or.inl ⟨hrekeyed, Engine.replay_of_not_rekey (fun st hst => ?_) _ _⟩
    by_contra hisRekey
    exact hrekeyed ⟨st, hst, Bool.eq_true_of_not_eq_false hisRekey⟩

/-- What the connections of a call have made of the file: nothing, or what the last of them
that rekeyed it has left. -/
def FileLaw (P : Platform) (current : EncryptionConfig) (newKey : Key)
    (connections : List Connection) (before after : Option Encryption) : Prop :=
  ((∀ c ∈ connections, ¬ c.Rekeyed) ∧ after = before) ∨
    ∃ earlier c later, connections = earlier ++ c :: later ∧ (∀ x ∈ later, ¬ x.Rekeyed) ∧
      c.Leaves P current newKey after

/-- One more connection. -/
theorem FileLaw.concat (kind : Platform.Kind) {current : EncryptionConfig} {newKey : Key}
    {connections : List Connection} {before file : Option Encryption}
    (h : FileLaw kind.platform current newKey connections before file) {c : Connection}
    {a : Attempt} {sts : a.Statements} (hc : c.Follows sts)
    (hrekey : ∀ r ∈ a.rekey, r = (current, newKey)) :
    FileLaw kind.platform current newKey (connections ++ [c]) before
      (Engine.replay (Statement.received kind.platform.carry) Engine.Parameters.new file
        c.executed) := by
  rcases hc.replay_cases kind hrekey file with ⟨hnot, hfile⟩ | ⟨-, hleaves⟩
  -- the connection does not rekey, and the law is as it was
  · rw [hfile]
    rcases h with ⟨hall, hsame⟩ | ⟨earlier, d, later, hsplit, hlater, hleaves⟩
    · refine Or.inl ⟨fun x hx => ?_, hsame⟩
      rcases List.mem_append.mp hx with hx | hx
      · exact hall x hx
      · rw [List.mem_singleton.mp hx]
        exact hnot
    · refine Or.inr ⟨earlier, d, later ++ [c], ?_, fun x hx => ?_, hleaves⟩
      · rw [hsplit, List.append_assoc]
        rfl
      · rcases List.mem_append.mp hx with hx | hx
        · exact hlater x hx
        · rw [List.mem_singleton.mp hx]
          exact hnot
  -- it does, and is the last to have done so
  · exact Or.inr ⟨connections, c, [], rfl, fun x hx => (List.not_mem_nil hx).elim, hleaves⟩

/-- All connections of one opening. -/
theorem FileLaw.append (kind : Platform.Kind) {current : EncryptionConfig} {newKey : Key}
    {connections : List Connection} {before file : Option Encryption}
    (h : FileLaw kind.platform current newKey connections before file) {a : Attempt}
    {sts : a.Statements} (hrekey : ∀ r ∈ a.rekey, r = (current, newKey))
    {more : List Connection} (hmore : ∀ c ∈ more, c.Follows sts) :
    FileLaw kind.platform current newKey (connections ++ more) before
      (more.foldl (fun file c => Engine.replay (Statement.received kind.platform.carry)
        Engine.Parameters.new file c.executed) file) := by
  induction more generalizing connections file with
  | nil =>
    rw [List.append_nil]
    exact h
  | cons c rest ih =>
    -- one connection at a time, each on the file that the one before it left
    have hnext := ih (h.concat kind (hmore c List.mem_cons_self) hrekey)
      fun d hd => hmore d (List.mem_cons_of_mem c hd)
    rw [List.append_assoc] at hnext
    exact hnext

/-- The file after a call: encrypted as before, unless a `PRAGMA rekey` of the call has
succeeded; then it is encrypted as the last of these left it. A failure of the call does
not undo it. -/
theorem create_file_law (kind : Platform.Kind) (outcome : Nat → CreateOutcome) (f : Factory World)
    (key : Key) (rekey : Option Key) :
    ∃ made, (f.createActual (kind.platform.create outcome) key rekey).2.env.Extends f.env made ∧
      FileLaw kind.platform f.filesystemConfig.encryptionConfig (rekey.getD key)
        (made.flatMap Opening.connections) f.env.file
        (f.createActual (kind.platform.create outcome) key rekey).2.env.file := by
  rw [createActual_eq]
  refine Factory.openOrUpgrade_invariant (I := fun w : World => ∃ made, w.Extends f.env made ∧
    FileLaw kind.platform f.filesystemConfig.encryptionConfig (rekey.getD key)
      (made.flatMap Opening.connections) f.env.file w.file) _ f key rekey ?_ ?_
  -- each open adds its connections behind those of the opens before it
  · rintro a w - hrekey ⟨made, hmade, hlaw⟩
    obtain ⟨connections, hw, hconnections⟩ := Platform.create_eq_record kind outcome a w
    obtain ⟨sts⟩ := a.nonempty_statements
    refine ⟨made ++ [⟨a, connections⟩], ?_, ?_⟩
    · rw [hw, World.Extends, World.record, hmade, List.append_assoc]
    · rw [hw, List.flatMap_append, List.flatMap_singleton]
      exact hlaw.append kind hrekey fun c hc => (hconnections c hc).1 sts
  · exact ⟨[], (List.append_nil _).symm, Or.inl ⟨fun c hc => (List.not_mem_nil hc).elim, rfl⟩⟩

/-! ### A rekey that outlives its call -/

/-- All statements succeed, and what comes after the rekey fails. -/
def failsAfterRekey : CreateOutcome where
  before := none
  first := { statement := fun _ => true, rest := false }
  more := []
  finished := true
  error := .other (Text.lit "AfterVersion")
  after := none

/-- A factory with the default configuration and no migrations, on a file under `abcd`. -/
def factoryAbcd : Factory World where
  filesystemConfig :=
    { encryptionConfig := EncryptionConfig.Default, encryptionMigrationConfig := none }
  env :=
    { file := some ⟨Engine.Parameters.new.codec.cipher, Text.lit "'abcd'"⟩, openings := [] }

/-- The call throws, and the file is under the new key. -/
theorem create_changes_file_and_throws :
    (∀ d, (factoryAbcd.createActual (Platform.native.create fun _ => failsAfterRekey)
      (Key.passphrase (Text.lit "abcd")) (some (Key.passphrase (Text.lit "efgh")))).1 ≠ .ok d) ∧
    (factoryAbcd.createActual (Platform.native.create fun _ => failsAfterRekey)
      (Key.passphrase (Text.lit "abcd"))
      (some (Key.passphrase (Text.lit "efgh")))).2.env.file.map Encryption.key =
        some (Text.lit "'efgh'") ∧
    factoryAbcd.env.file.map Encryption.key = some (Text.lit "'abcd'") := by
  refine ⟨fun d => ?_, rfl, rfl⟩
  intro h
  cases h

end SqliteMc
