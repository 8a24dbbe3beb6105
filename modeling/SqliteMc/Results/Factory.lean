import SqliteMc.Lib.Attempts
import SqliteMc.Lib.Transition
import SqliteMc.Model.Factory

/-!
# Opening and migrating

The factory as a state machine: what a call opens, in which order, and what it returns,
after any history of calls and whatever the opens come to.

* `plan_eq` — the migrations are tried in the reverse of the order of their first declaration.
* `attemptUpgrade_eq` — `attemptUpgrade` tries alternatives until one succeeds.
* `open_migrate_law` — every call of every history keeps to `CallLaw`.
* `migration_completeness` — on a file under the current or a declared configuration, a
  call ends with the file under the current one.
-/

namespace SqliteMc

open Transition

/-! ## The order of the migrations -/

namespace EncryptionMigrationConfig.Builder

/-- The migration that a call declares. -/
def Call.declares : Call → Option EncryptionMigration
  | .migrationFrom block => (EncryptionMigration.buildMigration block).toOption.join
  | .migrationFromExisting other => some other

/-- The migrations that are inherited and declared, in order. -/
def declared (other : Option EncryptionMigrationConfig) (calls : List Call) :
    List EncryptionMigration :=
  (other.map fun o => o.migrations.keys).getD [] ++ calls.filterMap Call.declares

/-- The distinct migrations, those first declared coming last. -/
def plan (other : Option EncryptionMigrationConfig) (calls : List Call) :
    List EncryptionMigration :=
  (declared other calls).reverse.dedup

/-- A call adds the migration it declares, if any. -/
theorem migrations_call (b : Builder) (c : Call) :
    ((b.call c).toOption.getD b).migrations =
      b.migrations.putAll (c.declares.toList.map fun m => (m, ())) := by
  cases c with
  | migrationFromExisting other => rfl
  | migrationFrom block =>
    have hdeclares : (Call.migrationFrom block).declares =
        (EncryptionMigration.buildMigration block).toOption.join := rfl
    show ((b.migrationFrom block).toOption.getD b).migrations = _
    rw [hdeclares, migrationFrom]
    -- a migration is added when its block returned one
    cases EncryptionMigration.buildMigration block with
    | error e => rfl
    | ok migration => cases migration <;> rfl

/-- Calls add the migrations that they declare, in order and each once. -/
theorem migrations_runCalls (b : Builder) (calls : List Call) :
    (runCalls call b calls).migrations =
      b.migrations.putAll ((calls.filterMap Call.declares).map fun m => (m, ())) := by
  induction calls generalizing b with
  | nil => rfl
  | cons c rest ih =>
    show (runCalls call ((b.call c).toOption.getD b) rest).migrations = _
    rw [ih, migrations_call, List.filterMap_cons]
    cases c.declares <;> rfl

/-- The migrations are tried in the reverse of the order of their first declaration. -/
theorem plan_eq (other : Option EncryptionMigrationConfig) (calls : List Call) :
    (runCalls call (new other) calls).migrations.keys.reverse = plan other calls := by
  have hnew : (new other).migrations.keys.reverse =
      ((other.map fun o => o.migrations.keys).getD []).reverse.dedup := by
    -- a new builder starts with the migrations of `other`, or with none
    cases other with
    | none => rfl
    | some o =>
      rw [builder_new]
      exact (List.nodup_reverse.mpr o.migrations.nodup).dedup.symm
  rw [migrations_runCalls, LinkedMap.reverse_keys_putAll, hnew, List.dedup_append, List.dedup_idem,
    ← List.dedup_append, List.map_map, plan, declared, List.reverse_append]
  have hfst : (Prod.fst ∘ fun m : EncryptionMigration => (m, ())) = id := rfl
  rw [hfst, List.map_id]

/-- There is a configuration if anything was declared. -/
theorem build_eq (other : Option EncryptionMigrationConfig) (calls : List Call) :
    (runCalls call (new other) calls).build =
      if plan other calls = [] then none
      else some ⟨(runCalls call (new other) calls).migrations⟩ := by
  rw [← plan_eq, build]
  congr 1
  simp [LinkedMap.isEmpty, LinkedMap.keys, List.isEmpty_iff]

end EncryptionMigrationConfig.Builder

/-! ## Opens -/

section Opens

variable {σ δ : Type} (create : Attempt → σ → Except Throwable δ × σ)

/-- A key that is refused is an illegal argument, and nothing is opened. -/
theorem openDatabase_refused {config : EncryptionConfig} {key : Key}
    {rekey : Option (EncryptionConfig × Key)} (h : Attempt.accepts config key rekey = false) (s : σ) :
    ∃ message, openDatabase create config key rekey s = (.error (.illegalArgument message), s) := by
  obtain ⟨message, hmessage⟩ := Attempt.make_of_refused h
  exact ⟨message, by rw [openDatabase, hmessage]⟩

/-- An attempt whose keys its ciphers accept reaches `create`. -/
theorem openDatabase_accepted {config : EncryptionConfig} {key : Key}
    {rekey : Option (EncryptionConfig × Key)} (h : Attempt.accepts config key rekey = true) :
    ∃ a : Attempt, a.config = config ∧ a.key = key ∧ a.rekey = rekey ∧
      ∀ s, openDatabase create config key rekey s = create a s := by
  obtain ⟨a, hmake, hconfig, hkey, hrekey⟩ := Attempt.exists_make h
  exact ⟨a, hconfig, hkey, hrekey, fun s => by rw [openDatabase, hmake]⟩

/-- Trying a migration. -/
def tryMigration (current : EncryptionConfig) (key rekey : Key) (m : EncryptionMigration) (s : σ) :
    Except Throwable δ × σ :=
  openDatabase create m.encryptionConfig key (some (current, rekey)) s

/-- The exception of `attemptUpgrade`. -/
def upgradeFailed (lastError : Option Throwable) : Throwable :=
  .illegalState (Text.lit "Failed to open database. All migration attempts failed.") lastError

/-- `attemptUpgrade` tries one migration after the other until one succeeds. -/
theorem attemptUpgrade_eq (current : EncryptionConfig) (key rekey : Key)
    (migrations : List EncryptionMigration) (lastError : Option Throwable) (s : σ) :
    attemptUpgrade create current key rekey migrations lastError s =
      ((Attempts.result (Attempts.run (tryMigration create current key rekey) migrations s).1).mapError
          fun last => upgradeFailed (last.or lastError),
        (Attempts.run (tryMigration create current key rekey) migrations s).2) := by
  induction migrations generalizing lastError s with
  | nil => rfl
  | cons m rest ih =>
    unfold attemptUpgrade
    obtain ⟨r, s', h⟩ : ∃ r s', openDatabase create m.encryptionConfig key (some (current, rekey)) s =
        (r, s') := ⟨_, _, rfl⟩
    have htry : tryMigration create current key rekey m s = (r, s') := h
    rw [h]
    cases r with
    | ok d =>
      rw [Attempts.run_cons_of_ok htry]
      rfl
    | error e =>
      rw [Attempts.run_cons_of_error htry, Attempts.result_cons_error]
      -- the error of this migration stands in for that of the one before it
      show attemptUpgrade create current key rekey rest (some e) s' = _
      rw [ih]
      cases Attempts.result (Attempts.run (tryMigration create current key rekey) rest s').1 with
      | ok d => rfl
      | error last => cases last <;> rfl

/-- A call on the factory goes on to the migrations after this first open. -/
structure Factory.Upgrades (f : Factory σ) (first : Except Throwable δ)
    (config : EncryptionMigrationConfig) : Prop where
  illegalState : ∃ e, first = .error e ∧ e.isIllegalState = true
  config : f.filesystemConfig.encryptionMigrationConfig = some config
  unopened : f.hasOpened = false

/-- Opening with the current configuration. -/
def Factory.openCurrent (f : Factory σ) (key : Key) (rekey : Option Key) : Except Throwable δ × σ :=
  openDatabase create f.filesystemConfig.encryptionConfig key
    (rekey.map fun r => (f.filesystemConfig.encryptionConfig, r)) f.env

/-- When the current configuration does not open the file, the migrations are tried. -/
theorem Factory.openOrUpgrade_of_upgrades {f : Factory σ} {key : Key} {rekey : Option Key}
    {config : EncryptionMigrationConfig} (h : f.Upgrades (f.openCurrent create key rekey).1 config) :
    f.openOrUpgrade create key rekey =
      attemptUpgrade create f.filesystemConfig.encryptionConfig key (rekey.getD key)
        config.migrations.keys.reverse none (f.openCurrent create key rekey).2 := by
  obtain ⟨⟨e, hfirst, hstate⟩, hconfig, hopened⟩ := h
  obtain ⟨r, s, hcurrent⟩ : ∃ r s, f.openCurrent create key rekey = (r, s) := ⟨_, _, rfl⟩
  rw [hcurrent] at hfirst ⊢
  cases hfirst
  unfold openOrUpgrade
  unfold openCurrent at hcurrent
  simp [hcurrent, hstate, hconfig, hopened]

/-- In every other case the result of the current configuration is the result. -/
theorem Factory.openOrUpgrade_of_not_upgrades {f : Factory σ} {key : Key} {rekey : Option Key}
    (h : ∀ config, ¬ f.Upgrades (f.openCurrent create key rekey).1 config) :
    f.openOrUpgrade create key rekey = f.openCurrent create key rekey := by
  obtain ⟨r, s, hcurrent⟩ : ∃ r s, f.openCurrent create key rekey = (r, s) := ⟨_, _, rfl⟩
  rw [hcurrent] at h ⊢
  unfold openOrUpgrade
  unfold openCurrent at hcurrent
  simp only [hcurrent]
  cases r with
  | ok d => rfl
  | error e =>
    dsimp only
    split_ifs with hstate hopened
    · -- nothing was opened before, so there are no migrations
      split
      · rfl
      · rename_i config hconfig
        exact absurd ⟨⟨e, rfl, hstate⟩, hconfig, by simpa using hopened⟩ (h config)
    · split <;> rfl
    · rfl

/-- What every open of a keyed call preserves, the call preserves. Each open is made with
the call's key, and rekeys, if it does, to the current configuration and the new key. -/
theorem Factory.openOrUpgrade_invariant {I : σ → Prop} (f : Factory σ) (key : Key)
    (rekey : Option Key)
    (hcreate : ∀ a s, a.key = key →
      (∀ r ∈ a.rekey, r = (f.filesystemConfig.encryptionConfig, rekey.getD key)) →
        I s → I (create a s).2)
    (hf : I f.env) : I (f.openOrUpgrade create key rekey).2 := by
  -- an open that is refused does not come to `create`
  have hopen : ∀ config r s,
      (∀ x ∈ r, x = (f.filesystemConfig.encryptionConfig, rekey.getD key)) → I s →
        I (openDatabase create config key r s).2 := by
    intro config r s hr hs
    cases haccepts : Attempt.accepts config key r with
    | false =>
      obtain ⟨message, hmessage⟩ := openDatabase_refused create haccepts s
      rw [hmessage]
      exact hs
    | true =>
      obtain ⟨a, -, hkey, hrekey, ha⟩ := openDatabase_accepted create haccepts
      rw [ha]
      exact hcreate a s hkey (hrekey ▸ hr) hs
  have hcurrent : I (f.openCurrent create key rekey).2 := by
    refine hopen _ _ _ (fun x hx => ?_) hf
    obtain ⟨r, rfl, rfl⟩ := Option.map_eq_some_iff.mp hx
    rfl
  -- after the first open there are the migrations, or nothing
  by_cases h : ∃ config, f.Upgrades (f.openCurrent create key rekey).1 config
  · obtain ⟨config, hconfig⟩ := h
    rw [openOrUpgrade_of_upgrades create hconfig, attemptUpgrade_eq]
    refine Attempts.run_invariant (fun m _ s hs => ?_) hcurrent
    refine hopen m.encryptionConfig _ s (fun x hx => ?_) hs
    exact (Option.some.inj hx).symm
  · rw [openOrUpgrade_of_not_upgrades create fun config hconfig => h ⟨config, hconfig⟩]
    exact hcurrent

end Opens

/-! ## The law of a call -/

/-- The call succeeded, and was not for an ephemeral database. -/
def Record.openedFile {δ : Type} (r : Record δ) : Bool :=
  match r.call with
  | .createEphemeral _ => false
  | _ => r.result.isOk

section Law

variable {δ : Type} (current : EncryptionConfig)

/-- The opens of a try of a migration: none if its cipher does not take the key. -/
def migrationOpens (key rekey : Key) (m : EncryptionMigration) (result : Except Throwable δ) :
    List (Open δ) :=
  if m.encryptionConfig.cipherConfig.cipher.accepts key then
    [⟨.keyed m.encryptionConfig key (some (current, rekey)), result⟩]
  else []

/-- The migrations are tried in the order of the plan. Those in `failed` have failed, each
with its exception; then one succeeds and gives the result, or there is no other. -/
def MigrationLaw (plan : List EncryptionMigration) (key rekey : Key) (opens : List (Open δ))
    (result : Except Throwable δ) : Prop :=
  ∃ failed : List (EncryptionMigration × Throwable),
    (∀ x ∈ failed, x.1.encryptionConfig.cipherConfig.cipher.accepts key = false →
      x.2.isIllegalArgument = true) ∧
    ((∃ m others d, plan = failed.map Prod.fst ++ m :: others ∧
        m.encryptionConfig.cipherConfig.cipher.accepts key = true ∧
        opens = (failed.flatMap fun x => migrationOpens current key rekey x.1 (.error x.2)) ++
          [⟨.keyed m.encryptionConfig key (some (current, rekey)), .ok d⟩] ∧
        result = .ok d) ∨
      (plan = failed.map Prod.fst ∧
        opens = (failed.flatMap fun x => migrationOpens current key rekey x.1 (.error x.2)) ∧
        result = .error (upgradeFailed (failed.getLast?.map Prod.snd))))

/-- A call goes on to the migrations if its first open threw an `IllegalStateException`,
there are migrations, and no earlier call has opened the file. -/
structure Migrates (plan : List EncryptionMigration) (earlier : List (Record δ))
    (first : Except Throwable δ) : Prop where
  illegalState : ∃ e, first = .error e ∧ e.isIllegalState = true
  configured : plan ≠ []
  unopened : earlier.any Record.openedFile = false

/-- What a keyed call does. -/
structure KeyedLaw (plan : List EncryptionMigration) (earlier : List (Record δ)) (key : Key)
    (rekey : Option Key) (opens : List (Open δ)) (result : Except Throwable δ) : Prop where
  refused : (current.cipherConfig.cipher.accepts key = false ∨
      ∃ r ∈ rekey, current.cipherConfig.cipher.accepts r = false) →
    opens = [] ∧ ∃ message, result = .error (.illegalArgument message)
  accepted : current.cipherConfig.cipher.accepts key = true →
    (∀ r ∈ rekey, current.cipherConfig.cipher.accepts r = true) →
    ∃ first rest, opens = ⟨.keyed current key (rekey.map fun r => (current, r)), first⟩ :: rest ∧
      (Migrates plan earlier first →
        MigrationLaw current plan key (rekey.getD key) rest result) ∧
      (¬ Migrates plan earlier first → rest = [] ∧ result = first)

/-- How many of the opens have succeeded. -/
def successes (opens : List (Open δ)) : Nat := (opens.filter fun x => x.result.isOk).length

/-- What a call does. -/
def CallLaw (plan : List EncryptionMigration) (earlier : List (Record δ)) (r : Record δ) : Prop :=
  (match r.call with
    | .create key => KeyedLaw current plan earlier key none r.opens r.result
    | .createRekey key rekey => KeyedLaw current plan earlier key (some rekey) r.opens r.result
    | .createEphemeral opt => r.opens = [⟨.ephemeral opt, r.result⟩]) ∧
  successes r.opens = if r.result.isOk then 1 else 0

end Law

/-! ### One call -/

section Call

variable {σ δ : Type} (o : Opener σ δ) {current : EncryptionConfig}

/-- What an open logs. -/
theorem openDatabase_traced (config : EncryptionConfig) (key : Key)
    (rekey : Option (EncryptionConfig × Key)) (s : σ × List (Open δ)) :
    (openDatabase o.traced.create config key rekey s).2.2 = s.2 ++
      if Attempt.accepts config key rekey then
        [⟨.keyed config key rekey, (openDatabase o.traced.create config key rekey s).1⟩]
      else [] := by
  cases h : Attempt.accepts config key rekey with
  -- a refused key does not get as far as an open
  | false =>
    obtain ⟨message, hmessage⟩ := openDatabase_refused o.traced.create h s
    rw [hmessage, if_neg Bool.false_ne_true, List.append_nil]
  | true =>
    obtain ⟨a, hconfig, hkey, hrekey, hcreate⟩ := openDatabase_accepted o.traced.create h
    rw [hcreate, if_pos rfl, ← hconfig, ← hkey, ← hrekey]
    rfl

/-- A migration opens at most one connection, and that only with a key its cipher accepts. -/
theorem migrationOpens_eq {key rekey : Key}
    (hrekey : current.cipherConfig.cipher.accepts rekey = true) (m : EncryptionMigration)
    (result : Except Throwable δ) :
    migrationOpens current key rekey m result =
      if Attempt.accepts m.encryptionConfig key (some (current, rekey)) then
        [⟨.keyed m.encryptionConfig key (some (current, rekey)), result⟩]
      else [] := by
  have haccepts : Attempt.accepts m.encryptionConfig key (some (current, rekey)) =
      m.encryptionConfig.cipherConfig.cipher.accepts key := by
    rw [Attempt.accepts, Option.all_some, hrekey, Bool.and_true]
  rw [migrationOpens, haccepts]

/-- `attemptUpgrade` keeps to the law of migrations. -/
theorem migrationLaw_attemptUpgrade (key : Key) {rekey : Key}
    (hrekey : current.cipherConfig.cipher.accepts rekey = true) (plan : List EncryptionMigration)
    (s : σ) (opens : List (Open δ)) :
    ∃ rest, (attemptUpgrade o.traced.create current key rekey plan none (s, opens)).2.2 =
        opens ++ rest ∧
      MigrationLaw current plan key rekey rest
        (attemptUpgrade o.traced.create current key rekey plan none (s, opens)).1 := by
  rw [attemptUpgrade_eq]
  have htry : ∀ m (s : σ × List (Open δ)),
      (tryMigration o.traced.create current key rekey m s).2.2 =
        s.2 ++ migrationOpens current key rekey m
          (tryMigration o.traced.create current key rekey m s).1 := by
    intro m s
    rw [migrationOpens_eq hrekey]
    exact openDatabase_traced o m.encryptionConfig key (some (current, rekey)) s
  have hlog := Attempts.log_run htry plan (s, opens)
  refine ⟨_, hlog, ?_⟩
  -- a migration that refuses the key fails with an illegal argument
  have hrefused : ∀ x ∈ (Attempts.run (tryMigration o.traced.create current key rekey) plan
      (s, opens)).1, x.1.encryptionConfig.cipherConfig.cipher.accepts key = false →
        ∃ message, x.2 = .error (.illegalArgument message) := by
    intro x hx hx'
    obtain ⟨s', hs'⟩ := Attempts.exists_of_mem_run hx
    have haccepts : Attempt.accepts x.1.encryptionConfig key (some (current, rekey)) = false := by
      rw [Attempt.accepts, hx', Bool.false_and]
    obtain ⟨message, hmessage⟩ := openDatabase_refused o.traced.create haccepts s'
    refine ⟨message, hs'.symm.trans ?_⟩
    rw [tryMigration, hmessage]
  rcases Attempts.run_cases (tryMigration o.traced.create current key rekey) plan (s, opens) with
    ⟨failed, m, others, d, hplan, htried⟩ | ⟨failed, hplan, htried⟩
  · rw [htried] at hrefused ⊢
    have hm : m.encryptionConfig.cipherConfig.cipher.accepts key = true := by
      by_contra hm
      obtain ⟨message, hmessage⟩ := hrefused (m, .ok d)
        (List.mem_append_right _ (List.mem_singleton_self _)) (Bool.eq_false_iff.mpr hm)
      cases hmessage
    refine ⟨failed, ?_, Or.inl ⟨m, others, d, hplan, hm, ?_, ?_⟩⟩
    · intro x hx hx'
      obtain ⟨message, hmessage⟩ := hrefused (x.1, .error x.2)
        (List.mem_append_left _ (List.mem_map.mpr ⟨x, hx, rfl⟩)) hx'
      injection hmessage with hx
      rw [hx]
      rfl
    · rw [List.flatMap_append, Attempts.failures, List.flatMap_map, List.flatMap_singleton,
        migrationOpens, if_pos hm]
    · rw [Attempts.result_succeeded]
      rfl
  · rw [htried] at hrefused ⊢
    refine ⟨failed, ?_, Or.inr ⟨hplan, ?_, ?_⟩⟩
    · intro x hx hx'
      obtain ⟨message, hmessage⟩ := hrefused (x.1, .error x.2) (List.mem_map.mpr ⟨x, hx, rfl⟩) hx'
      injection hmessage with hx
      rw [hx]
      rfl
    · rw [Attempts.failures, List.flatMap_map]
    · rw [Attempts.result_failures]
      show Except.error (upgradeFailed (Option.or _ none)) = _
      rw [Option.or_none]

/-- The tries that failed opened nothing. -/
theorem successes_failed (key rekey : Key) (failed : List (EncryptionMigration × Throwable)) :
    successes (failed.flatMap fun x =>
      (migrationOpens current key rekey x.1 (.error x.2) : List (Open δ))) = 0 := by
  rw [successes, List.length_eq_zero_iff, List.filter_eq_nil_iff]
  intro x hx
  obtain ⟨y, -, hy⟩ := List.mem_flatMap.mp hx
  unfold migrationOpens at hy
  split at hy
  · rw [List.mem_singleton.mp hy]
    exact Bool.false_ne_true
  · cases hy

/-- At most one attempt of a migration succeeds, and then the migration does. -/
theorem MigrationLaw.successes_eq {plan : List EncryptionMigration} {key rekey : Key}
    {opens : List (Open δ)} {result : Except Throwable δ}
    (h : MigrationLaw current plan key rekey opens result) :
    successes opens = if result.isOk then 1 else 0 := by
  obtain ⟨failed, -, ⟨m, others, d, -, -, hopens, hresult⟩ | ⟨-, hopens, hresult⟩⟩ := h
  · rw [hopens, hresult, successes, List.filter_append, List.length_append]
    show successes _ + 1 = 1
    rw [successes_failed]
  · rw [hopens, hresult, successes_failed]
    rfl

/-- A keyed call keeps to its law, and opens the file once at most. -/
theorem keyedLaw_openOrUpgrade {f : Factory (σ × List (Open δ))} {plan : List EncryptionMigration}
    {earlier : List (Record δ)} (hcurrent : f.filesystemConfig.encryptionConfig = current)
    (hconfig : f.filesystemConfig.encryptionMigrationConfig.map (fun c => c.migrations.keys.reverse) =
      if plan = [] then none else some plan)
    (hflag : f.hasOpened = earlier.any Record.openedFile) (hopens : f.env.2 = []) (key : Key)
    (rekey : Option Key) :
    KeyedLaw current plan earlier key rekey (f.openOrUpgrade o.traced.create key rekey).2.2
        (f.openOrUpgrade o.traced.create key rekey).1 ∧
      successes (f.openOrUpgrade o.traced.create key rekey).2.2 =
        if (f.openOrUpgrade o.traced.create key rekey).1.isOk then 1 else 0 := by
  -- the rekey key is accepted when the configuration accepts it
  have hall : ∀ r : Option Key, (r.map fun r => (current, r)).all
      (fun r => r.1.cipherConfig.cipher.accepts r.2) =
        r.all fun r => current.cipherConfig.cipher.accepts r := by
    intro r
    cases r <;> rfl
  obtain ⟨first, s, hfirst⟩ : ∃ first s, f.openCurrent o.traced.create key rekey = (first, s) :=
    ⟨_, _, rfl⟩
  have hopen := hfirst
  rw [Factory.openCurrent, hcurrent] at hopen
  -- the factory upgrades when the law says so
  have hupgrades : (∃ config, f.Upgrades first config) ↔ Migrates plan earlier first := by
    constructor
    · rintro ⟨config, hstate, hsome, hunopened⟩
      refine ⟨hstate, ?_, hflag ▸ hunopened⟩
      rintro rfl
      rw [hsome, if_pos rfl] at hconfig
      cases hconfig
    · rintro ⟨hstate, hplan, hunopened⟩
      rw [if_neg hplan] at hconfig
      obtain ⟨config, hsome, -⟩ := Option.map_eq_some_iff.mp hconfig
      exact ⟨config, hstate, hsome, hflag.trans hunopened⟩
  cases haccepts : Attempt.accepts current key (rekey.map fun r => (current, r)) with
  | false =>
    -- an illegal argument is not caught
    obtain ⟨message, hmessage⟩ := openDatabase_refused o.traced.create haccepts f.env
    rw [hmessage] at hopen
    cases hopen
    have hnot : ∀ config, ¬ f.Upgrades (f.openCurrent o.traced.create key rekey).1 config := by
      intro config h
      obtain ⟨e, he, hstate⟩ := h.illegalState
      rw [hfirst] at he
      cases he
      cases hstate
    rw [Factory.openOrUpgrade_of_not_upgrades o.traced.create hnot, hfirst, hopens]
    refine ⟨⟨fun _ => ⟨rfl, message, rfl⟩, fun hkey hrekey => ?_⟩, rfl⟩
    have htrue : Attempt.accepts current key (rekey.map fun r => (current, r)) = true := by
      rw [Attempt.accepts, hkey, hall, Bool.true_and, Option.all_eq_true]
      exact hrekey
    rw [haccepts] at htrue
    cases htrue
  | true =>
    obtain ⟨hkey, hrekey⟩ := Bool.and_eq_true_iff.mp haccepts
    rw [hall, Option.all_eq_true] at hrekey
    have hnotRefused : ∀ P : Prop, (current.cipherConfig.cipher.accepts key = false ∨
        ∃ r ∈ rekey, current.cipherConfig.cipher.accepts r = false) → P := by
      rintro P (h | ⟨r, hr, h⟩)
      · rw [hkey] at h
        cases h
      · rw [hrekey r hr] at h
        cases h
    have hlog := openDatabase_traced o current key (rekey.map fun r => (current, r)) f.env
    rw [haccepts, if_pos rfl, hopens, List.nil_append, hopen] at hlog
    by_cases hmigrates : Migrates plan earlier first
    -- the attempt failed in a way that upgrades: the plan is gone through
    · obtain ⟨config, hconfig'⟩ := hupgrades.mpr hmigrates
      have hplan : config.migrations.keys.reverse = plan := by
        rw [hconfig'.config, if_neg hmigrates.configured] at hconfig
        exact Option.some.inj hconfig
      have hrekey' : current.cipherConfig.cipher.accepts (rekey.getD key) = true := by
        cases rekey with
        | none => exact hkey
        | some r => exact hrekey r rfl
      rw [Factory.openOrUpgrade_of_upgrades o.traced.create (by rw [hfirst]; exact hconfig'),
        hfirst, hcurrent, hplan]
      obtain ⟨rest, hrest, hlaw⟩ := migrationLaw_attemptUpgrade o key hrekey' plan s.1 s.2
      obtain ⟨e, rfl, -⟩ := hmigrates.illegalState
      refine ⟨⟨hnotRefused _, fun _ _ => ⟨.error e, rest, ?_, fun _ => hlaw,
        fun h => absurd hmigrates h⟩⟩, ?_⟩
      · rw [hrest, hlog]
        rfl
      · rw [hrest, hlog, ← hlaw.successes_eq]
        rfl
    -- no upgrade, so the first outcome is the last
    · rw [Factory.openOrUpgrade_of_not_upgrades o.traced.create (fun config h =>
        hmigrates (hupgrades.mp ⟨config, by rw [hfirst] at h; exact h⟩)), hfirst]
      refine ⟨⟨hnotRefused _, fun _ _ => ⟨first, [], hlog, fun h => absurd h hmigrates,
        fun _ => ⟨rfl, rfl⟩⟩⟩, ?_⟩
      rw [hlog]
      cases first <;> rfl

/-- What `createActual` makes of the factory. -/
theorem createActual_eq (create : Attempt → σ → Except Throwable δ × σ) (f : Factory σ) (key : Key)
    (rekey : Option Key) :
    f.createActual create key rekey =
      ((f.openOrUpgrade create key rekey).1,
        { f with
          hasOpened := f.hasOpened || (f.openOrUpgrade create key rekey).1.isOk
          env := (f.openOrUpgrade create key rekey).2 }) := by
  unfold Factory.createActual
  obtain ⟨r, s, h⟩ : ∃ r s, f.openOrUpgrade create key rekey = (r, s) := ⟨_, _, rfl⟩
  rw [h]
  cases r with
  | ok d => simp [Except.isOk, Except.toBool]
  | error e => simp [Except.isOk, Except.toBool]

/-- The factory of a history knows whether an earlier call opened the file. -/
structure Tracks (current : EncryptionConfig) (plan : List EncryptionMigration)
    (earlier : List (Record δ)) (f : Factory σ) : Prop where
  current : f.filesystemConfig.encryptionConfig = current
  config : f.filesystemConfig.encryptionMigrationConfig.map (fun c => c.migrations.keys.reverse) =
    if plan = [] then none else some plan
  hasOpened : f.hasOpened = earlier.any Record.openedFile

/-- One call keeps to the law, and the factory keeps track. -/
theorem callLaw_call {plan : List EncryptionMigration} {earlier : List (Record δ)}
    {f : Factory (σ × List (Open δ))} (hf : Tracks current plan earlier f) (hopens : f.env.2 = [])
    (c : Factory.Call) :
    CallLaw current plan earlier
        ⟨c, (Factory.call o.traced f c).2.env.2, (Factory.call o.traced f c).1⟩ ∧
      Tracks current plan
        (earlier ++ [⟨c, (Factory.call o.traced f c).2.env.2, (Factory.call o.traced f c).1⟩])
        (Factory.call o.traced f c).2 := by
  -- the two keyed calls
  have hkeyed : ∀ key rekey, KeyedLaw current plan earlier key rekey
      (f.openOrUpgrade o.traced.create key rekey).2.2
      (f.openOrUpgrade o.traced.create key rekey).1 ∧
        successes (f.openOrUpgrade o.traced.create key rekey).2.2 =
          if (f.openOrUpgrade o.traced.create key rekey).1.isOk then 1 else 0 :=
    keyedLaw_openOrUpgrade o hf.current hf.config hf.hasOpened hopens
  cases c with
  | create key =>
    simp only [Factory.call, createActual_eq]
    refine ⟨hkeyed key none, hf.current, hf.config, ?_⟩
    rw [List.any_append, ← hf.hasOpened, List.any_cons, List.any_nil, Bool.or_false]
    rfl
  | createRekey key rekey =>
    simp only [Factory.call, createActual_eq]
    refine ⟨hkeyed key (some rekey), hf.current, hf.config, ?_⟩
    rw [List.any_append, ← hf.hasOpened, List.any_cons, List.any_nil, Bool.or_false]
    rfl
  | createEphemeral opt =>
    have hlog : ((o.traced.createEphemeral opt f.env).2).2 =
        [⟨.ephemeral opt, (o.traced.createEphemeral opt f.env).1⟩] := by
      show f.env.2 ++ _ = _
      rw [hopens]
      rfl
    refine ⟨⟨hlog, ?_⟩, hf.current, hf.config, ?_⟩
    · show successes ((o.traced.createEphemeral opt f.env).2).2 = _
      rw [hlog]
      show successes [Open.mk (.ephemeral opt) (o.traced.createEphemeral opt f.env).1] =
        if (o.traced.createEphemeral opt f.env).1.isOk then 1 else 0
      cases (o.traced.createEphemeral opt f.env).1 <;> rfl
    · rw [List.any_append, ← hf.hasOpened, List.any_cons, List.any_nil, Bool.or_false]
      exact (Bool.or_false _).symm

/-- All calls of a history keep to the law, whatever came before. -/
theorem callLaw_history {plan : List EncryptionMigration} {earlier : List (Record δ)}
    {f : Factory σ} (hf : Tracks current plan earlier f) (calls : List Factory.Call) :
    AllAt (fun past r => CallLaw current plan (earlier ++ past) r) (f.history o calls) := by
  induction calls generalizing f earlier with
  | nil => exact allAt_nil _
  | cons c rest ih =>
    have htraced : Tracks current plan earlier
        ({ f with env := (f.env, []) } : Factory (σ × List (Open δ))) :=
      ⟨hf.current, hf.config, hf.hasOpened⟩
    -- each call is traced from an empty trace on
    obtain ⟨hlaw, hnext⟩ := callLaw_call o htraced rfl c
    rw [Factory.history, allAt_cons]
    refine ⟨?_, ?_⟩
    · rw [List.append_nil]
      exact hlaw
    · have hrest := ih (f := { (Factory.call o.traced { f with env := (f.env, []) } c).2 with
        env := (Factory.call o.traced { f with env := (f.env, []) } c).2.env.1 })
        ⟨hnext.current, hnext.config, hnext.hasOpened⟩
      simpa only [List.append_assoc, List.cons_append, List.nil_append] using hrest

end Call

/-- A new factory, its migrations declared by a sequence of calls on a builder that may
inherit others. -/
def Factory.configured {σ : Type} (env : σ) (current : EncryptionConfig)
    (other : Option EncryptionMigrationConfig)
    (migrations : List EncryptionMigrationConfig.Builder.Call) : Factory σ where
  filesystemConfig :=
    { encryptionConfig := current
      encryptionMigrationConfig :=
        (runCalls EncryptionMigrationConfig.Builder.call
          (EncryptionMigrationConfig.Builder.new other) migrations).build }
  env := env

/-- The configuration of a new factory holds the plan. -/
theorem Factory.config_configured {σ : Type} (env : σ) (current : EncryptionConfig)
    (other : Option EncryptionMigrationConfig)
    (migrations : List EncryptionMigrationConfig.Builder.Call) :
    (configured env current other migrations).filesystemConfig.encryptionMigrationConfig.map
        (fun c => c.migrations.keys.reverse) =
      if EncryptionMigrationConfig.Builder.plan other migrations = [] then none
      else some (EncryptionMigrationConfig.Builder.plan other migrations) := by
  show ((runCalls EncryptionMigrationConfig.Builder.call
    (EncryptionMigrationConfig.Builder.new other) migrations).build).map _ = _
  rw [EncryptionMigrationConfig.Builder.build_eq]
  split_ifs
  · rfl
  · exact congrArg some (EncryptionMigrationConfig.Builder.plan_eq other migrations)

/-- The law of opening and migrating: every call of every history on a factory keeps to
`CallLaw`, whatever its opens come to. Each of the distinct migrations is tried at most
once, as the plan has no duplicates. -/
theorem open_migrate_law {σ δ : Type} (o : Opener σ δ) (env : σ) (current : EncryptionConfig)
    (other : Option EncryptionMigrationConfig)
    (migrations : List EncryptionMigrationConfig.Builder.Call) (calls : List Factory.Call) :
    (EncryptionMigrationConfig.Builder.plan other migrations).Nodup ∧
      AllAt (CallLaw current (EncryptionMigrationConfig.Builder.plan other migrations))
        ((Factory.configured env current other migrations).history o calls) := by
  refine ⟨List.nodup_dedup _, ?_⟩
  have htracks : Tracks current (EncryptionMigrationConfig.Builder.plan other migrations)
      ([] : List (Record δ)) (Factory.configured env current other migrations) :=
    ⟨rfl, Factory.config_configured env current other migrations, rfl⟩
  exact callLaw_history o htracks calls

/-! ## Migration completeness -/

section Completeness

variable (message : Text) (cause : Option Throwable)

/-- A file that is encrypted under one configuration and one key: opening it with any other
pair fails, and a rekey replaces the pair. -/
def pairCreate (a : Attempt) (file : EncryptionConfig × Key) :
    Except Throwable Unit × (EncryptionConfig × Key) :=
  if (a.config, a.key) = file then (.ok (), a.rekey.getD file)
  else (.error (.illegalState message cause), file)

variable {config : EncryptionConfig} {key : Key} {rekey : Option (EncryptionConfig × Key)}
  {file : EncryptionConfig × Key}

/-- The model file opens under the pair that it has, and then has the pair it is rekeyed to. -/
theorem openDatabase_pair_of_eq (haccepts : Attempt.accepts config key rekey = true) :
    openDatabase (pairCreate message cause) config key rekey (config, key) =
      (.ok (), rekey.getD (config, key)) := by
  obtain ⟨a, hconfig, hkey, hrekey, hcreate⟩ :=
    openDatabase_accepted (pairCreate message cause) haccepts
  rw [hcreate, pairCreate, hconfig, hkey, hrekey, if_pos rfl]

/-- The model file opens under no other pair, and keeps the one that it has. -/
theorem openDatabase_pair_of_ne (haccepts : Attempt.accepts config key rekey = true)
    (hfile : (config, key) ≠ file) :
    openDatabase (pairCreate message cause) config key rekey file =
      (.error (.illegalState message cause), file) := by
  obtain ⟨a, hconfig, hkey, hrekey, hcreate⟩ :=
    openDatabase_accepted (pairCreate message cause) haccepts
  rw [hcreate, pairCreate, hconfig, hkey, if_neg hfile]

/-- An open fails and leaves the file alone, or it succeeds and leaves the file rekeyed. -/
theorem openDatabase_pair_cases (config : EncryptionConfig) (key : Key)
    (rekey : Option (EncryptionConfig × Key)) (file : EncryptionConfig × Key) :
    (∃ e, openDatabase (pairCreate message cause) config key rekey file = (.error e, file)) ∨
      openDatabase (pairCreate message cause) config key rekey file = (.ok (), rekey.getD file) := by
  cases haccepts : Attempt.accepts config key rekey with
  | false =>
    obtain ⟨refusal, hrefusal⟩ := openDatabase_refused (pairCreate message cause) haccepts file
    exact Or.inl ⟨_, hrefusal⟩
  | true =>
    by_cases hfile : (config, key) = file
    · subst hfile
      exact Or.inr (openDatabase_pair_of_eq message cause haccepts)
    · exact Or.inl ⟨_, openDatabase_pair_of_ne message cause haccepts hfile⟩

/-- The configuration that the file is under is found among the migrations. -/
theorem attemptUpgrade_pair {current config : EncryptionConfig} {key rekey : Key}
    {migrations : List EncryptionMigration} (hkey : config.cipherConfig.cipher.accepts key = true)
    (hrekey : current.cipherConfig.cipher.accepts rekey = true) (hmem : ⟨config⟩ ∈ migrations) :
    attemptUpgrade (pairCreate message cause) current key rekey migrations none (config, key) =
      (.ok (), (current, rekey)) := by
  -- the migrations tried before it leave the file alone
  have hfail : ∀ m ∈ migrations, ∀ e,
      (tryMigration (pairCreate message cause) current key rekey m (config, key)).1 = .error e →
      (tryMigration (pairCreate message cause) current key rekey m (config, key)).2 =
        (config, key) := by
    intro m _ e he
    rcases openDatabase_pair_cases message cause m.encryptionConfig key
      (some (current, rekey)) (config, key) with ⟨e', h⟩ | h
    · rw [tryMigration, h]
    · rw [tryMigration, h] at he
      cases he
  have haccepts : Attempt.accepts config key (some (current, rekey)) = true := by
    rw [Attempt.accepts, hkey, Option.all_some, hrekey, Bool.and_true]
  obtain ⟨m, -, d, hrun, hresult⟩ := Attempts.exists_run_eq_ok hfail
    ⟨_, hmem, (), congrArg Prod.fst (openDatabase_pair_of_eq message cause haccepts)⟩
  rw [attemptUpgrade_eq, hresult]
  rcases openDatabase_pair_cases message cause m.encryptionConfig key
    (some (current, rekey)) (config, key) with ⟨e, h⟩ | h
  · rw [tryMigration, h] at hrun
    cases hrun
  · rw [tryMigration, h] at hrun
    rw [← congrArg Prod.snd hrun]
    rfl

/-- Every file under the current or a declared configuration is opened, and ends under the
current one, if the current configuration takes both the key and the rekey. -/
theorem migration_completeness (message : Text) (cause : Option Throwable)
    (current : EncryptionConfig) (other : Option EncryptionMigrationConfig)
    (migrations : List EncryptionMigrationConfig.Builder.Call) (config : EncryptionConfig)
    (key : Key) (rekey : Option Key)
    (hconfig : config = current ∨
      ⟨config⟩ ∈ EncryptionMigrationConfig.Builder.declared other migrations)
    (hkey : config.cipherConfig.cipher.accepts key = true)
    (hcurrent : current.cipherConfig.cipher.accepts key = true)
    (hrekey : current.cipherConfig.cipher.accepts (rekey.getD key) = true) :
    ((Factory.configured (config, key) current other migrations).createActual
        (pairCreate message cause) key rekey).1 = .ok () ∧
      ((Factory.configured (config, key) current other migrations).createActual
        (pairCreate message cause) key rekey).2.env = (current, rekey.getD key) := by
  rw [createActual_eq]
  show ((Factory.configured (config, key) current other migrations).openOrUpgrade
      (pairCreate message cause) key rekey).1 = .ok () ∧
    ((Factory.configured (config, key) current other migrations).openOrUpgrade
      (pairCreate message cause) key rekey).2 = (current, rekey.getD key)
  have haccepts : Attempt.accepts current key (rekey.map fun r => (current, r)) = true := by
    rw [Attempt.accepts, hcurrent, Bool.true_and]
    cases rekey with
    | none => rfl
    | some r => exact hrekey
  by_cases hsame : config = current
  · -- the first open succeeds
    subst hsame
    have hopen : (Factory.configured (config, key) config other migrations).openCurrent
        (pairCreate message cause) key rekey =
          (.ok (), (rekey.map fun r => (config, r)).getD (config, key)) :=
      openDatabase_pair_of_eq message cause haccepts
    rw [Factory.openOrUpgrade_of_not_upgrades (pairCreate message cause) (fun c h => by
      obtain ⟨e, he, -⟩ := h.illegalState
      rw [hopen] at he
      cases he), hopen]
    refine ⟨rfl, ?_⟩
    cases rekey <;> rfl
  · have hopen : (Factory.configured (config, key) current other migrations).openCurrent
        (pairCreate message cause) key rekey =
          (.error (.illegalState message cause), (config, key)) :=
      openDatabase_pair_of_ne message cause haccepts fun h => hsame (congrArg Prod.fst h).symm
    -- the first open fails on the state of the file, and the upgrade comes to its configuration
    have hplan : ⟨config⟩ ∈ EncryptionMigrationConfig.Builder.plan other migrations :=
      List.mem_dedup.mpr (List.mem_reverse.mpr (hconfig.resolve_left hsame))
    have hmigrations := Factory.config_configured (config, key) current other migrations
    rw [if_neg (List.ne_nil_of_mem hplan)] at hmigrations
    obtain ⟨c, hc, hkeys⟩ := Option.map_eq_some_iff.mp hmigrations
    rw [Factory.openOrUpgrade_of_upgrades (pairCreate message cause)
      (by rw [hopen]; exact ⟨⟨_, rfl, rfl⟩, hc, rfl⟩), hopen, hkeys]
    have hupgrade := attemptUpgrade_pair message cause hkey hrekey hplan
    exact ⟨congrArg Prod.fst hupgrade, congrArg Prod.snd hupgrade⟩

end Completeness

/-! ### A raw key that the current cipher refuses -/

/-- A raw key of 32 zero bytes. -/
def rawZero : Key where
  value := Base16.encode (List.replicate 32 0)
  isRaw := true
  raw_encoded := fun _ => ⟨List.replicate 32 0, Or.inl (List.length_replicate ..), rfl⟩

/-- `wxAES256 { default() }`. -/
def wxAES256Default : EncryptionConfig where
  cipherConfig := .wxAES256 MCWxAES256Config.Default
  hmacCheck := true
  mcLegacyWAL := false

/-- The file is under the default configuration, which is declared as a migration. -/
theorem migration_completeness_chaCha20 :
    ((Factory.configured (EncryptionConfig.Default, Key.Empty) wxAES256Default none
          [.migrationFromExisting ⟨EncryptionConfig.Default⟩]).createActual
        (pairCreate [] none) Key.Empty (some (Key.passphrase (Text.lit "abcd")))).1 = .ok () ∧
      ((Factory.configured (EncryptionConfig.Default, Key.Empty) wxAES256Default none
          [.migrationFromExisting ⟨EncryptionConfig.Default⟩]).createActual
        (pairCreate [] none) Key.Empty (some (Key.passphrase (Text.lit "abcd")))).2.env =
          (wxAES256Default, Key.passphrase (Text.lit "abcd")) :=
  migration_completeness [] none wxAES256Default none
    [.migrationFromExisting ⟨EncryptionConfig.Default⟩] EncryptionConfig.Default Key.Empty _
    (Or.inr List.mem_cons_self) rfl rfl rfl

/-- A file that the declared ChaCha20 configuration would open with its raw key is not even
tried: the current cipher refuses the key first. -/
theorem migration_completeness_fails_raw :
    ⟨EncryptionConfig.Default⟩ ∈ EncryptionMigrationConfig.Builder.declared none
        [.migrationFromExisting ⟨EncryptionConfig.Default⟩] ∧
      EncryptionConfig.Default.cipherConfig.cipher.accepts rawZero = true ∧
      wxAES256Default.cipherConfig.cipher.accepts (Key.passphrase (Text.lit "abcd")) = true ∧
      ∀ d, ((Factory.configured (EncryptionConfig.Default, rawZero) wxAES256Default none
          [.migrationFromExisting ⟨EncryptionConfig.Default⟩]).createActual
        (pairCreate [] none) rawZero (some (Key.passphrase (Text.lit "abcd")))).1 ≠ .ok d := by
  refine ⟨List.mem_cons_self, rfl, rfl, fun d hd => ?_⟩
  have hrefused : Attempt.accepts wxAES256Default rawZero
      ((some (Key.passphrase (Text.lit "abcd"))).map fun r => (wxAES256Default, r)) = false := rfl
  obtain ⟨refusal, hrefusal⟩ := openDatabase_refused (pairCreate [] none) hrefused
    (EncryptionConfig.Default, rawZero)
  have hopen : (Factory.configured (EncryptionConfig.Default, rawZero) wxAES256Default none
      [.migrationFromExisting ⟨EncryptionConfig.Default⟩]).openCurrent (pairCreate [] none) rawZero
        (some (Key.passphrase (Text.lit "abcd"))) =
          (.error (.illegalArgument refusal), (EncryptionConfig.Default, rawZero)) := hrefusal
  -- an illegal argument is not an illegal state, so no migration is tried
  rw [createActual_eq, Factory.openOrUpgrade_of_not_upgrades (pairCreate [] none) (fun c h => by
    obtain ⟨e, he, hstate⟩ := h.illegalState
    rw [hopen] at he
    cases he
    cases hstate), hopen] at hd
  cases hd

end SqliteMc
