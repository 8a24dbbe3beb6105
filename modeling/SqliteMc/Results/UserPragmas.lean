import SqliteMc.Model.PragmaConfig
import SqliteMc.Results.Connection

/-!
# User pragmas and the encryption layer

`PragmaConfig.Builder.build` takes the names of the encryption layer and `user_version` out
of both of its maps, so that no user pragma can interfere with the key. The builder compares
exact strings, though, and an entry is pasted into a `PRAGMA` statement as it is: SQLite3MC
ignores letter case, quotes, white space and comments, takes a schema in front of the name, knows
other ways to set a key, and reads a name or a value that ends the statement as several ones.

`user_pragmas_iff` says for each of the four ways from a builder to a connection when it is
true that no reserved pragma gets there: each entry of the builder's map that reads as a
reserved pragma has to be named by one of the texts that are taken out on that way
(`CreatePath.takenOut`). On the JVM that is a statement about the properties that are handed to
connection blocks in any run of any threads; `UserInv` is the invariant behind it. What the JDBC
driver makes of a property is a parameter, so that the result holds for all it can execute.
-/

namespace SqliteMc

open Transition

/-! ## Reserved names -/

/-- The pragmas of the encryption layer, the other ways to set a key, and the version that
the driver handles. -/
def reservedNames : List Text :=
  MCPragma.all.map MCPragma.name ++
    [Text.lit "password", Text.lit "hexkey", Text.lit "hexrekey", Text.lit "hexkey_mode",
      Text.lit "user_version"]

/-- A connection reads a reserved pragma in one of the statements; names are compared ignoring case. -/
def Reserved (session : Sqlite3.Session) (statements : Set Text) : Prop :=
  ∃ zSql ∈ statements, ∃ p : Sqlite3.Pragma, session.Reads zSql p ∧
    p.name.lowerAscii ∈ reservedNames

/-! ## From a builder to a connection -/

/-- The two kinds of databases on the two platforms. -/
inductive CreatePath where
  | jvmFilesystem
  | jvmEphemeral
  | nativeFilesystem
  | nativeEphemeral

/-- The map of the builder that the path uses. -/
def CreatePath.source (b : PragmaConfig.Builder) : CreatePath → Pragmas
  | jvmFilesystem => b.filesystem
  | jvmEphemeral => b.ephemeral
  | nativeFilesystem => b.filesystem
  | nativeEphemeral => b.ephemeral

/-- The statements of an entry. Native pastes it into one; the JDBC driver is handed it as a pragma, of
which it can also make the statements `jdbc` of its own. -/
def CreatePath.statements (jdbc : Text × Text → Set Text) (entry : Text × Text) :
    CreatePath → Set Text
  | jvmFilesystem => insert (pragmaSql entry.1 entry.2) (jdbc entry)
  | jvmEphemeral => insert (pragmaSql entry.1 entry.2) (jdbc entry)
  | nativeFilesystem => {pragmaSql entry.1 entry.2}
  | nativeEphemeral => {pragmaSql entry.1 entry.2}

/-- On each path the pragma itself is among them. -/
theorem CreatePath.pragmaSql_mem_statements (jdbc : Text × Text → Set Text) (entry : Text × Text)
    (path : CreatePath) : pragmaSql entry.1 entry.2 ∈ path.statements jdbc entry := by
  cases path with
  | jvmFilesystem | jvmEphemeral => exact Set.mem_insert _ _
  | nativeFilesystem | nativeEphemeral => exact Set.mem_singleton _

/-- The pragmas that become settings of the `DatabaseConfiguration`. -/
def Native.typed : List Text :=
  [Text.lit "journal_mode", Text.lit "foreign_keys", Text.lit "busy_timeout",
    Text.lit "page_size", Text.lit "recursive_triggers"]

/-- The names that are taken out on the path; native makes no statements of those it reads itself. -/
def CreatePath.takenOut : CreatePath → List Text
  | jvmFilesystem => PragmaConfig.Builder.removed ++ [Text.lit "password", Text.lit "hexkey_mode"]
  | jvmEphemeral => PragmaConfig.Builder.removed
  | nativeFilesystem => PragmaConfig.Builder.removed ++ Native.typed
  | nativeEphemeral => PragmaConfig.Builder.removed ++ Native.typed

/-- The properties that a thread's next step hands to a block. -/
def Pc.handing (sh : JDBCMCProperties) : Pc → Option Properties
  | connectUnlocked => some sh.properties
  | connectLocked => some sh.properties
  | connectFirst keyProp => some keyProp
  | _ => none

/-- In some run of any threads, some block is handed the user's entry. -/
def JDBCMCProperties.Hands (sh : JDBCMCProperties) (entry : Text × Text) : Prop :=
  ∃ labels s i p, (System.init sh).run labels = some s ∧
    (s.threads i).pc.handing s.shared = some p ∧ entry ∈ p.user.entries

/-- The entry gets to a connection of a database that `create` opens with the built config; `a` are
the maps of a keyed `create`. -/
def CreatePath.Passes (a : Attempt) (config : PragmaConfig) (entry : Text × Text) :
    CreatePath → Prop
  | jvmFilesystem => (a.properties (config.filesystem.remove (Text.lit "password"))).Hands entry
  | jvmEphemeral => (JDBCMCProperties.ofNothing config.ephemeral).Hands entry
  | nativeFilesystem => entry ∈ (Native.databaseConfiguration config.filesystem).2.entries
  | nativeEphemeral => entry ∈ (Native.databaseConfiguration config.ephemeral).2.entries

/-! ## Native -/

/-- What is left over are the entries that the configuration does not type. -/
theorem Native.mem_entries_left (pragmas : Pragmas) (entry : Text × Text) :
    entry ∈ (databaseConfiguration pragmas).2.entries ↔
      entry.1 ∉ typed ∧ entry ∈ pragmas.entries :=
  LinkedMap.mem_entries_removeAll typed pragmas entry

/-! ## JVM -/

section Jvm

variable {base allowed : Text × Text → Prop}

/-- The user's entries in some properties. -/
def Properties.All (p : Properties) (P : Text × Text → Prop) : Prop := ∀ e ∈ p.user.entries, P e

/-- What a thread relies on: the entries it is about to hand to a block are allowed. -/
def PcUser (base allowed : Text × Text → Prop) (sh : JDBCMCProperties) : Pc → Prop
  | .connectUnlocked => sh.isInitialized = true
  | .connectLocked => sh.isInitialized = true
  | .pack keyProp => sh.keyPragma.isSome = true ∧ keyProp.All base ∧
      (keyProp.password.isSome = true → keyProp.All allowed)
  | .connectFirst keyProp => sh.keyPragma.isSome = true ∧ keyProp.All allowed
  | .block .first _ => sh.keyPragma.isSome = true
  | .swap => sh.keyPragma.isSome = true
  | .repack => sh.keyPragma.isSome = true
  | .setInitialized => sh.properties.All allowed
  | _ => True

/-- What holds of the shared state: properties that a block can be handed have allowed
entries only. -/
structure SharedUser (base allowed : Text × Text → Prop) (sh : JDBCMCProperties) : Prop where
  base : sh.properties.All base
  ready : sh.isInitialized = true → sh.properties.All allowed
  packed : sh.properties.password.isSome = true → sh.properties.All allowed
  keyed : sh.isInitialized = false → sh.keyPragma.isSome = true

/-- What a step of one thread takes from no other one. -/
structure Keeps (allowed : Text × Text → Prop) (sh sh' : JDBCMCProperties) : Prop where
  isInitialized : sh.isInitialized = true → sh'.isInitialized = true
  keyPragma : sh.keyPragma.isSome = true → sh'.keyPragma.isSome = true
  properties : sh.properties.All allowed → sh'.properties.All allowed

theorem Keeps.refl (allowed : Text × Text → Prop) (sh : JDBCMCProperties) : Keeps allowed sh sh :=
  ⟨id, id, id⟩

/-- What is known where a thread stands stays known while the properties keep what is allowed. -/
theorem PcUser.mono {sh sh' : JDBCMCProperties} (hkeeps : Keeps allowed sh sh') {pc : Pc}
    (h : PcUser base allowed sh pc) : PcUser base allowed sh' pc := by
  obtain ⟨hflag, hkey, hproperties⟩ := hkeeps
  -- the states that look at the properties, and those that do not
  match pc with
  | .connectUnlocked => exact hflag h
  | .connectLocked => exact hflag h
  | .pack keyProp => exact ⟨hkey h.1, h.2⟩
  | .connectFirst keyProp => exact ⟨hkey h.1, h.2⟩
  | .block .first _ => exact hkey h
  | .swap => exact hkey h
  | .repack => exact hkey h
  | .setInitialized => exact hproperties h
  | .idle | .enter | .synchronize | .recheck | .block .unlocked _ | .block .locked _
  | .unlock _ | .clear | .clearMaps | .superClear => trivial

/-- Packing leaves the allowed entries, the others having been taken out. -/
theorem packIfAbsent_all (hallowed : ∀ e, base e → e.1 ≠ Text.lit "hexkey_mode" → allowed e)
    {sh : JDBCMCProperties} (hkey : sh.keyPragma.isSome = true) {p p' : Properties}
    (hbase : p.All base) (hpacked : p.password.isSome = true → p.All allowed)
    (h : sh.packIfAbsent p = .ok p') : p'.All allowed := by
  unfold JDBCMCProperties.packIfAbsent at h
  split at h
  · -- packed before: the properties stay as they are
    rename_i hsome
    rw [← Except.ok.inj h]
    exact hpacked hsome
  · unfold JDBCMCProperties.packMCSqlStatements at h
    split at h
    -- there is a key map
    · rename_i hnone
      rw [hnone] at hkey
      cases hkey
    · obtain ⟨statements, -, hp⟩ := bind_eq_ok.mp h
      rw [← Except.ok.inj hp]
      intro e hmem
      obtain ⟨hne, hmem⟩ := (LinkedMap.mem_entries_remove _ _ _).mp hmem
      exact hallowed e (hbase e hmem) hne

/-- Swapping leaves the properties and the flag, and still has a key map. -/
theorem swap_eq (sh : JDBCMCProperties) :
    sh.swap.properties = sh.properties ∧ sh.swap.isInitialized = sh.isInitialized ∧
      sh.swap.keyPragma.isSome = sh.keyPragma.isSome := by
  unfold JDBCMCProperties.swap
  split
  · rename_i hkey _
    rw [hkey]
    exact ⟨rfl, rfl, rfl⟩
  · exact ⟨rfl, rfl, rfl⟩

/-- Packing again leaves every allowed entry in place. -/
theorem repack_all (hallowed : ∀ e, base e → e.1 ≠ Text.lit "hexkey_mode" → allowed e)
    {sh sh' : JDBCMCProperties} (hsh : SharedUser base allowed sh)
    (hkey : sh.keyPragma.isSome = true) (h : sh.repack = .ok sh') :
    sh'.properties.All allowed ∧ sh'.keyPragma = sh.keyPragma ∧
      sh'.isInitialized = sh.isInitialized := by
  unfold JDBCMCProperties.repack at h
  split at h
  · rename_i hnone
    rw [Option.isNone_iff_eq_none.mp hnone] at hkey
    cases hkey
  -- a throw leaves the properties, and is not a success
  · cases hpack : sh.packIfAbsent sh.properties with
    | error t =>
      rw [hpack] at h
      cases h
    | ok p =>
      rw [hpack] at h
      rw [← Except.ok.inj h]
      exact ⟨packIfAbsent_all hallowed hkey hsh.base hsh.packed hpack, rfl, rfl⟩

/-- What a step leaves of it all. -/
theorem Pc.act_user (hallowed : ∀ e, base e → e.1 ≠ Text.lit "hexkey_mode" → allowed e)
    (hbase : ∀ e, allowed e → base e) {i : ThreadId} {sh : JDBCMCProperties}
    {lock : Option ThreadId} {changed : Bool} {pc : Pc} {a : Action}
    {e : Effect JDBCMCProperties Pc Event} (hsh : SharedUser base allowed sh)
    (hpc : PcUser base allowed sh pc) (h : pc.act i sh lock changed a = some e) :
    SharedUser base allowed e.shared ∧ PcUser base allowed e.shared e.thread ∧
      Keeps allowed sh e.shared := by
  have hrefl := Keeps.refl allowed sh
  revert h
  fun_cases Pc.act i sh lock changed pc a
  all_goals rintro ⟨⟩
  case case3 =>
    -- the first look at the flag
    refine ⟨hsh, ?_, hrefl⟩
    split
    · assumption
    · trivial
  case case7 =>
    refine ⟨hsh, ?_, hrefl⟩
    -- the second look, with the lock
    split
    · assumption
    · rename_i hflag
      exact ⟨hsh.keyed (Bool.eq_false_iff.mpr hflag), hsh.base, hsh.packed⟩
  case case9 keyProp keyProp' hpack =>
    -- what could be packed came from allowed entries
    exact ⟨hsh, ⟨hpc.1, packIfAbsent_all hallowed hpc.1 hpc.2.1 hpc.2.2 hpack⟩, hrefl⟩
  case case11 => exact ⟨hsh, hpc.1, hrefl⟩
  case case14 password ok =>
    refine ⟨hsh, ?_, hrefl⟩
    cases ok with
    | true => exact hpc
    | false => trivial
  case case15 =>
    obtain ⟨hproperties, hflag, hkey⟩ := swap_eq sh
    -- the swap changes the maps, and keeps what is said of them
    have hshared : SharedUser base allowed sh.swap := {
      base := by rw [hproperties]; exact hsh.base
      ready := by rw [hproperties, hflag]; exact hsh.ready
      packed := by rw [hproperties]; exact hsh.packed
      keyed := by rw [hflag, hkey]; exact hsh.keyed }
    have hkeeps : Keeps allowed sh sh.swap := {
      isInitialized := by rw [hflag]; exact id
      keyPragma := by rw [hkey]; exact id
      properties := by rw [hproperties]; exact id }
    exact ⟨hshared, hkey.trans hpc, hkeeps⟩
  case case16 sh' hrepack =>
    obtain ⟨hall, hkey, hflag⟩ := repack_all hallowed hsh hpc hrepack
    -- what is packed is allowed, whatever was there before
    have hshared : SharedUser base allowed sh' := {
      base := fun e hmem => hbase e (hall e hmem)
      ready := fun _ => hall
      packed := fun _ => hall
      keyed := by rw [hflag, hkey]; exact hsh.keyed }
    have hkeeps : Keeps allowed sh sh' := {
      isInitialized := by rw [hflag]; exact id
      keyPragma := by rw [hkey]; exact id
      properties := fun _ => hall }
    exact ⟨hshared, hall, hkeeps⟩
  case case18 =>
    -- the flag is set, with the entries of the last packing
    exact ⟨⟨hsh.base, fun _ => hpc, hsh.packed, fun h => absurd h.symm Bool.false_ne_true⟩, trivial,
      fun _ => rfl, id, id⟩
  case case22 =>
    -- a cleared map keeps its key, with no text
    have hkey : sh.keyPragma.isSome = true → sh.clearMaps.keyPragma.isSome = true := by
      intro h
      show (sh.keyPragma.map _).isSome = true
      rwa [Option.isSome_map]
    exact ⟨⟨hsh.base, hsh.ready, hsh.packed, fun h => hkey (hsh.keyed h)⟩, trivial, id, hkey, id⟩
  case case23 =>
    -- no entry is left
    have hnone : ∀ P : Text × Text → Prop, sh.superClear.properties.All P :=
      fun P e hmem => absurd hmem List.not_mem_nil
    exact ⟨⟨hnone _, fun _ => hnone _, fun _ => hnone _, hsh.keyed⟩, trivial, id, id,
      fun _ => hnone _⟩
  -- the other steps leave the shared state alone
  all_goals exact ⟨hsh, trivial, hrefl⟩

structure UserInv (base allowed : Text × Text → Prop) (s : System) : Prop where
  shared : SharedUser base allowed s.shared
  threads : ∀ i, PcUser base allowed s.shared (s.threads i).pc

/-- The invariant about the user's entries is preserved by every step. -/
theorem userInv_step (hallowed : ∀ e, base e → e.1 ≠ Text.lit "hexkey_mode" → allowed e)
    (hbase : ∀ e, allowed e → base e) {s s' : System} {label : ThreadId × Action}
    (hs : UserInv base allowed s) (h : Pool.step Thread.act s label = some s') :
    UserInv base allowed s' := by
  obtain ⟨i, a⟩ := label
  obtain ⟨e, he, rfl⟩ := System.step_eq_some.mp h
  obtain ⟨hshared, hthread, hkeeps⟩ := Pc.act_user hallowed hbase hs.shared (hs.threads i) he
  -- the thread that took the step, and the others, which keep what they rely on
  exact ⟨hshared, System.forall_after hthread fun j _ => (hs.threads j).mono hkeeps⟩

/-- In every run, what a block is handed is allowed. -/
theorem allowed_of_hands (hallowed : ∀ e, base e → e.1 ≠ Text.lit "hexkey_mode" → allowed e)
    (hbase : ∀ e, allowed e → base e) {sh : JDBCMCProperties}
    (hsh : SharedUser base allowed sh) {e : Text × Text} (h : sh.Hands e) : allowed e := by
  obtain ⟨labels, s, i, p, hrun, hp, hmem⟩ := h
  have hinit : UserInv base allowed (System.init sh) := ⟨hsh, fun _ => trivial⟩
  have hinv : UserInv base allowed s :=
    run_invariant (fun _ _ _ => userInv_step hallowed hbase) hinit hrun
  have hthread := hinv.threads i
  revert hp hthread
  -- the three places from which properties are handed
  fun_cases Pc.handing s.shared (s.threads i).pc
  all_goals rintro ⟨⟩ hthread
  · exact hinv.shared.ready hthread e hmem
  · exact hinv.shared.ready hthread e hmem
  · exact hthread.2 e hmem

end Jvm

/-- A thread on its own gets to hand a block the properties `p`. -/
theorem hands_of_next {sh : JDBCMCProperties} {v : View} {p : Properties}
    (hnext : Relation.ReflTransGen (View.Next 0) ⟨sh, none, .idle⟩ v)
    (hp : v.pc.handing v.shared = some p) {e : Text × Text} (hmem : e ∈ p.user.entries) :
    sh.Hands e := by
  obtain ⟨labels, s, -, hrun, rfl⟩ := System.run_of_next hnext (System.init sh) rfl
  exact ⟨labels, s, 0, p, hrun, hp, hmem⟩

/-- With a keyed database every entry is handed to some block, except for `hexkey_mode`. -/
theorem Attempt.hands_iff (a : Attempt) (user : Pragmas) (e : Text × Text) :
    (a.properties user).Hands e ↔ e.1 ≠ Text.lit "hexkey_mode" ∧ e ∈ user.entries := by
  constructor
  · have hsh : SharedUser (fun e => e ∈ user.entries)
        (fun e => e.1 ≠ Text.lit "hexkey_mode" ∧ e ∈ user.entries) (a.properties user) :=
      ⟨fun e h => h, fun h => absurd h Bool.false_ne_true, fun h => absurd h Bool.false_ne_true,
        fun _ => rfl⟩
    exact allowed_of_hands (fun e hmem hne => ⟨hne, hmem⟩) (fun e h => h.2) hsh
  · intro hentry
    -- one thread on its own is enough: it is handed the properties as they were packed
    obtain ⟨sts⟩ := a.nonempty_statements
    -- the first connection
    have hpack : (a.properties user).packIfAbsent (a.properties user).properties = .ok
        { password := some (sts.key ++ sts.rekey), user := user.remove (Text.lit "hexkey_mode") } :=
      bind_eq_ok.mpr ⟨_, Attempt.packedStatements_eq sts, rfl⟩
    have hpacked : View.Next 0
        ⟨a.properties user, some 0, .pack (a.properties user).properties⟩
        ⟨a.properties user, some 0, .connectFirst { password := some (sts.key ++ sts.rekey),
                                                    user := user.remove (Text.lit "hexkey_mode") }⟩ :=
      ⟨.go, fun _ => ⟨[], by rw [Pc.act, hpack]⟩⟩
    have hrecheck : View.Next 0 ⟨a.properties user, some 0, .recheck⟩
        ⟨a.properties user, some 0, .pack (a.properties user).properties⟩ :=
      ⟨.go, fun _ => ⟨[], rfl⟩⟩
    have hlock : View.Next 0 ⟨a.properties user, none, .synchronize⟩
        ⟨a.properties user, some 0, .recheck⟩ := ⟨.go, fun _ => ⟨[], rfl⟩⟩
    have henter : View.Next 0 ⟨a.properties user, none, .enter⟩
        ⟨a.properties user, none, .synchronize⟩ := ⟨.go, fun _ => ⟨[], rfl⟩⟩
    have hcall : View.Next 0 ⟨a.properties user, none, .idle⟩
        ⟨a.properties user, none, .enter⟩ := ⟨.withKeyProps, fun _ => ⟨[], rfl⟩⟩
    exact hands_of_next (.head hcall (.head henter (.head hlock (.head hrecheck (.single hpacked)))))
      rfl ((LinkedMap.mem_entries_remove _ _ _).mpr hentry)

/-- Without a key every entry is. -/
theorem hands_ofNothing_iff (user : Pragmas) (e : Text × Text) :
    (JDBCMCProperties.ofNothing user).Hands e ↔ e ∈ user.entries := by
  constructor
  · have hsh : SharedUser (fun e => e ∈ user.entries) (fun e => e ∈ user.entries)
        (JDBCMCProperties.ofNothing user) :=
      ⟨fun e h => h, fun _ e h => h, fun _ e h => h,
        fun h => absurd h.symm Bool.false_ne_true⟩
    exact allowed_of_hands (fun e hmem _ => hmem) (fun e h => h) hsh
  -- two steps lead to the block
  · intro hentry
    have henter : View.Next 0 ⟨.ofNothing user, none, .enter⟩
        ⟨.ofNothing user, none, .connectUnlocked⟩ := ⟨.go, fun _ => ⟨[], rfl⟩⟩
    have hcall : View.Next 0 ⟨.ofNothing user, none, .idle⟩ ⟨.ofNothing user, none, .enter⟩ :=
      ⟨.withKeyProps, fun _ => ⟨[], rfl⟩⟩
    exact hands_of_next (.head hcall (.single henter)) rfl hentry

/-! ## What passes -/

/-- Building takes the entries that were removed out of both maps. -/
theorem mem_entries_build (b : PragmaConfig.Builder) (e : Text × Text) :
    (e ∈ b.build.filesystem.entries ↔
        e.1 ∉ PragmaConfig.Builder.removed ∧ e ∈ b.filesystem.entries) ∧
      (e ∈ b.build.ephemeral.entries ↔
        e.1 ∉ PragmaConfig.Builder.removed ∧ e ∈ b.ephemeral.entries) :=
  ⟨LinkedMap.mem_entries_removeAll _ b.filesystem e, LinkedMap.mem_entries_removeAll _ b.ephemeral e⟩

/-- What passes on a path: all that is not taken out. -/
theorem CreatePath.passes_iff (a : Attempt) (b : PragmaConfig.Builder) (e : Text × Text)
    (path : CreatePath) :
    path.Passes a b.build e ↔ e.1 ∉ path.takenOut ∧ e ∈ (path.source b).entries := by
  obtain ⟨hfilesystem, hephemeral⟩ := mem_entries_build b e
  cases path with
  -- both maps lose what was taken out; on the JVM the two typed properties as well
  | jvmFilesystem =>
    have hout : e.1 ∉ takenOut .jvmFilesystem ↔ e.1 ∉ PragmaConfig.Builder.removed ∧
        e.1 ≠ Text.lit "password" ∧ e.1 ≠ Text.lit "hexkey_mode" := by
      rw [takenOut, List.mem_append, List.mem_cons, List.mem_singleton, not_or, not_or]
    rw [Passes, Attempt.hands_iff, LinkedMap.mem_entries_remove, hfilesystem, hout, source]
    constructor
    · exact fun ⟨hmode, hpassword, hremoved, hmem⟩ => ⟨⟨hremoved, hpassword, hmode⟩, hmem⟩
    · exact fun ⟨⟨hremoved, hpassword, hmode⟩, hmem⟩ => ⟨hmode, hpassword, hremoved, hmem⟩
  | jvmEphemeral => rw [Passes, hands_ofNothing_iff, hephemeral, takenOut, source]
  | nativeFilesystem =>
    rw [Passes, Native.mem_entries_left, hfilesystem, takenOut, source, List.mem_append, not_or,
      and_assoc, and_left_comm]
  | nativeEphemeral =>
    rw [Passes, Native.mem_entries_left, hephemeral, takenOut, source, List.mem_append, not_or,
      and_assoc, and_left_comm]

/-- The entry that `put(key, "x")` makes gets to the connections on every path, and a connection
without attached databases reads it as a reserved pragma, whatever the JDBC driver makes of it. -/
def PassesAsReserved (key : Text) : Prop :=
  ∃ a : Attempt, ∀ (path : CreatePath) (jdbc : Text × Text → Set Text),
    Reserved ⟨[], fun _ => none⟩ (path.statements jdbc (key, Text.lit "x")) ∧
      path.Passes a ((PragmaConfig.Builder.new none).call (.put key (Text.lit "x"))).build
        (key, Text.lit "x")

/-- A pragma of the user that has the reserved name is passed to the platform. -/
theorem passesAsReserved_of_pragma {key name : Text} {schema : Option Text}
    (hp : Sqlite3.pragma? (Sqlite3.tokens (pragmaSql key (Text.lit "x"))) =
      some ⟨schema, name, some (Text.lit "x")⟩)
    (hschema : schema = none ∨ schema = some (Text.lit "main"))
    (hname : name.lowerAscii ∈ reservedNames) (hout : ∀ path : CreatePath, key ∉ path.takenOut) :
    PassesAsReserved key := by
  obtain ⟨a, -⟩ := @Attempt.exists_make EncryptionConfig.Default
    (Key.passphrase (Text.lit "abcd")) none rfl
  refine ⟨a, fun path jdbc => ⟨?_, ?_⟩⟩
  -- the first statement of the text is the pragma
  · refine ⟨_, path.pragmaSql_mem_statements jdbc (key, Text.lit "x"), _, ⟨_, .refl, hp, ?_⟩, hname⟩
    intro s hs
    rcases hschema with rfl | rfl
    · cases hs
    · cases hs
      simp [Sqlite3.Session.findDbName]
  · refine (CreatePath.passes_iff a _ _ path).mpr ⟨hout path, ?_⟩
    cases path <;> exact List.mem_singleton_self _

end SqliteMc
