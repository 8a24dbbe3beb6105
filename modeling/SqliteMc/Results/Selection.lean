import SqliteMc.Model.EncryptionConfig
import Mathlib.Data.List.Induction

/-!
# Which cipher a builder ends up with

Twelve selectors share the builder's `cipherConfig` field. `Call.selection` says what a
call is meant to select, and `lastSelection` that the last effective call wins. Every
selector but one writes the field, so the builder holds the last selection among the
other calls (`run_cipherConfig`); the exception is `ascon128(other, block)`, which
customises a builder and drops it.

`selection_law_iff` is the exact condition under which a sequence of calls on either
builder is unaffected.
-/

namespace SqliteMc

open EncryptionConfig (Builder)

namespace EncryptionConfig.Builder

/-- What the last option function that ran to its end in an options block selects. -/
def optionsSelection (D : CipherDsl) (wrap : D.Config → MCCipherConfig)
    (block : D.OptionsBlock) : Option MCCipherConfig :=
  block.calls.foldl
    (fun cur opt => ((D.customise (D.start opt.1) opt.2).toOption.map wrap).or cur) none

/-- What a selector called with an existing configuration selects:
`Builder(other).apply(block).build()`. -/
def otherSelection (D : CipherDsl) (wrap : D.Config → MCCipherConfig) (other : D.Config)
    (block : Block D.Call) : Option MCCipherConfig :=
  (D.customise other block).toOption.map wrap

/-- The configuration a call selects; `none` for a call without effect on the choice. -/
def Call.selection : Call → Option MCCipherConfig
  | .hmacCheck _ => none
  | .mcLegacyWAL _ => none
  | .ascon128Options block => optionsSelection MCAscon128Config.dsl .ascon128 block
  | .ascon128 other block => otherSelection MCAscon128Config.dsl .ascon128 other block
  | .chaCha20Options block => optionsSelection MCChaCha20Config.dsl .chaCha20 block
  | .chaCha20 other block => otherSelection MCChaCha20Config.dsl .chaCha20 other block
  | .rc4Options block => optionsSelection MCRC4Config.dsl .rc4 block
  | .rc4 other block => otherSelection MCRC4Config.dsl .rc4 other block
  | .sqlCipherOptions block => optionsSelection MCSqlCipherConfig.dsl .sqlCipher block
  | .sqlCipher other block => otherSelection MCSqlCipherConfig.dsl .sqlCipher other block
  | .wxAES128Options block => optionsSelection MCWxAES128Config.dsl .wxAES128 block
  | .wxAES128 other block => otherSelection MCWxAES128Config.dsl .wxAES128 other block
  | .wxAES256Options block => optionsSelection MCWxAES256Config.dsl .wxAES256 block
  | .wxAES256 other block => otherSelection MCWxAES256Config.dsl .wxAES256 other block

/-- The last effective selection of a sequence of calls, over what was inherited. -/
def lastSelection (inherited : Option MCCipherConfig) (calls : List Call) :
    Option MCCipherConfig :=
  calls.foldl (fun cur c => c.selection.or cur) inherited

/-- The call is the overload `ascon128(other, block)`. -/
def Call.isAscon128Other : Call → Bool
  | .ascon128 _ _ => true
  | _ => false

/-- The last call decides, and leaves the selection when it makes none. -/
@[simp] theorem lastSelection_append_singleton (inherited : Option MCCipherConfig)
    (calls : List Call) (c : Call) :
    lastSelection inherited (calls ++ [c]) = c.selection.or (lastSelection inherited calls) := by
  simp [lastSelection, List.foldl_append]

/-- Calls that select nothing leave the selection. -/
theorem lastSelection_append_of_none {inherited : Option MCCipherConfig} {calls post : List Call}
    (h : ∀ c ∈ post, c.selection = none) :
    lastSelection inherited (calls ++ post) = lastSelection inherited calls := by
  induction post using List.reverseRecOn with
  | nil => rw [List.append_nil]
  | append_singleton rest c ih =>
    rw [← List.append_assoc, lastSelection_append_singleton, h c (by simp), Option.none_or]
    exact ih fun x hx => h x (List.mem_append_left _ hx)

/-! ## What the selectors write -/

/-- Running option functions leaves the last one's configuration, or the field as it was. -/
private theorem runCalls_option_cipherConfig {D : CipherDsl} {wrap : D.Config → MCCipherConfig}
    (opts : List (D.Start × Block D.Call)) (b : Builder) (cur : Option MCCipherConfig)
    (orig : Option MCCipherConfig) (hb : b.cipherConfig = cur.or orig) :
    (runCalls (option D wrap) b opts).cipherConfig =
      (opts.foldl (fun cur opt =>
        ((D.customise (D.start opt.1) opt.2).toOption.map wrap).or cur) cur).or orig := by
  induction opts generalizing b cur with
  | nil => exact hb
  | cons opt rest ih =>
    rw [List.foldl_cons]
    cases h : D.customise (D.start opt.1) opt.2 with
    -- an option that throws selects nothing
    | error t =>
      have hstep : runCalls (option D wrap) b (opt :: rest) =
          runCalls (option D wrap) b rest := by
        simp [runCalls, option, h, Except.map, Except.toOption]
      rw [hstep]
      exact ih b cur hb
    | ok c =>
      have hstep : runCalls (option D wrap) b (opt :: rest) =
          runCalls (option D wrap) { b with cipherConfig := some (wrap c) } rest := by
        simp [runCalls, option, h, Except.map, Except.toOption]
      rw [hstep]
      exact ih _ (some (wrap c)) rfl

/-- A block that starts from options selects what it built, or nothing. -/
theorem selectOptions_cipherConfig (D : CipherDsl) (wrap : D.Config → MCCipherConfig)
    (b : Builder) (block : D.OptionsBlock) :
    (selectOptions D wrap b block).1.cipherConfig =
      (optionsSelection D wrap block).or b.cipherConfig :=
  runCalls_option_cipherConfig block.calls b none b.cipherConfig rfl

/-- A block that starts from another configuration selects what it built, or nothing. -/
theorem selectOther_cipherConfig (D : CipherDsl) (wrap : D.Config → MCCipherConfig)
    (b : Builder) (other : D.Config) (block : Block D.Call) :
    (selectOther D wrap b other block).1.cipherConfig =
      (otherSelection D wrap other block).or b.cipherConfig := by
  unfold selectOther otherSelection
  cases D.customise other block <;> rfl

/-- Every call but `ascon128(other, block)` writes the field when it selects something. -/
theorem call_cipherConfig (b : Builder) {c : Call} (h : c.isAscon128Other = false) :
    (b.call c).1.cipherConfig = c.selection.or b.cipherConfig := by
  -- one case for each call; eleven of them assign what they have built
  cases c with
  | hmacCheck value => rfl
  | mcLegacyWAL value => rfl
  | ascon128 other block => cases h
  | ascon128Options block => exact selectOptions_cipherConfig MCAscon128Config.dsl .ascon128 b block
  | chaCha20Options block => exact selectOptions_cipherConfig MCChaCha20Config.dsl .chaCha20 b block
  | rc4Options block => exact selectOptions_cipherConfig MCRC4Config.dsl .rc4 b block
  | sqlCipherOptions block => exact selectOptions_cipherConfig MCSqlCipherConfig.dsl .sqlCipher b block
  | wxAES128Options block => exact selectOptions_cipherConfig MCWxAES128Config.dsl .wxAES128 b block
  | wxAES256Options block => exact selectOptions_cipherConfig MCWxAES256Config.dsl .wxAES256 b block
  | chaCha20 other block => exact selectOther_cipherConfig MCChaCha20Config.dsl .chaCha20 b other block
  | rc4 other block => exact selectOther_cipherConfig MCRC4Config.dsl .rc4 b other block
  | sqlCipher other block => exact selectOther_cipherConfig MCSqlCipherConfig.dsl .sqlCipher b other block
  | wxAES128 other block => exact selectOther_cipherConfig MCWxAES128Config.dsl .wxAES128 b other block
  | wxAES256 other block => exact selectOther_cipherConfig MCWxAES256Config.dsl .wxAES256 b other block

/-- `ascon128(other, block)` leaves the builder as it is. -/
theorem call_ascon128Other (b : Builder) {c : Call} (h : c.isAscon128Other = true) :
    (b.call c).1 = b := by
  cases c <;> first | rfl | cases h

/-- The builder holds the last selection among the calls other than `ascon128(other, block)`. -/
theorem run_cipherConfig (b : Builder) (calls : List Call) :
    (b.run calls).cipherConfig =
      lastSelection b.cipherConfig (calls.filter fun c => !c.isAscon128Other) := by
  induction calls using List.reverseRecOn with
  | nil => rfl
  | append_singleton init c ih =>
    have hrun : b.run (init ++ [c]) = ((b.run init).call c).1 := by
      simp [run, List.foldl_append]
    rw [hrun, List.filter_append]
    -- the calls are taken from the last one back
    cases h : c.isAscon128Other with
    | true =>
      rw [call_ascon128Other _ h, ih]
      simp [h]
    | false =>
      rw [call_cipherConfig _ h, ih, List.filter_singleton, h]
      exact (lastSelection_append_singleton _ _ _).symm

/-- The built configuration has the selected cipher configuration. -/
theorem build_cipherConfig (b : Builder) :
    b.build.map EncryptionConfig.cipherConfig = b.cipherConfig := by
  cases h : b.cipherConfig <;> simp [build, h]

/-! ## The law and its condition -/

/-- The configuration built by `Builder(other)` after `calls` holds the last effective
selection; nothing is built when there is none. -/
def SelectionLaw (other : Option EncryptionConfig) (calls : List Call) : Prop :=
  ((Builder.new other).run calls).build.map EncryptionConfig.cipherConfig =
    lastSelection (other.map EncryptionConfig.cipherConfig) calls

/-- The same of `EncryptionMigration.Builder`, which inherits nothing. -/
def MigrationSelectionLaw (calls : List Call) : Prop :=
  (EncryptionMigration.buildMigration ⟨calls, none⟩).map
      (Option.map fun m => m.encryptionConfig.cipherConfig) =
    .ok (lastSelection none calls)

/-- If the last effective call is `ascon128(other, block)`, the configuration it selects is
the one the effective call before it that is not of this kind (or the inherited
configuration) has already selected. -/
def LastAscon128Repeats (inherited : Option MCCipherConfig) (calls : List Call) : Prop :=
  ∀ pre other block post c, calls = pre ++ .ascon128 other block :: post →
    (Call.ascon128 other block).selection = some c →
    (∀ x ∈ post, x.selection = none) →
    lastSelection inherited (pre.filter fun c => !c.isAscon128Other) = some c

/-- Leaving out the dropped calls changes nothing exactly when the last of them repeats. -/
theorem lastSelection_filter_iff (inherited : Option MCCipherConfig) (calls : List Call) :
    lastSelection inherited (calls.filter fun c => !c.isAscon128Other) =
        lastSelection inherited calls ↔
      LastAscon128Repeats inherited calls := by
  constructor
  · rintro h pre other block post c rfl hc hpost
    have hfilter : ∀ x ∈ post.filter (fun c => !c.isAscon128Other), x.selection = none :=
      fun x hx => hpost x (List.mem_of_mem_filter hx)
    have hlast : lastSelection inherited (pre ++ .ascon128 other block :: post) = some c := by
      rw [List.append_cons, lastSelection_append_of_none hpost,
        lastSelection_append_singleton, hc, Option.some_or]
    rw [hlast, List.filter_append, List.filter_cons_of_neg (by simp [Call.isAscon128Other]),
      lastSelection_append_of_none hfilter] at h
    exact h
  · intro h
    induction calls using List.reverseRecOn with
    | nil => rfl
    | append_singleton init x ih =>
      rw [List.filter_append, lastSelection_append_singleton]
      cases hx : x.isAscon128Other with
      | false =>
        -- a call that writes: its own selection, or the one before it
        have hinit : x.selection = none → LastAscon128Repeats inherited init := by
          rintro hnone pre other block post c rfl hc hpost
          refine h pre other block (post ++ [x]) c (by simp) hc ?_
          intro y hy
          rcases List.mem_append.mp hy with hy | hy
          · exact hpost y hy
          · rw [List.mem_singleton.mp hy, hnone]
        rw [List.filter_singleton, hx]
        refine (lastSelection_append_singleton _ _ _).trans ?_
        cases hs : x.selection with
        | none =>
          rw [Option.none_or, Option.none_or]
          exact ih (hinit hs)
        | some c => rfl
      | true =>
        -- a dropped call: either it selects nothing, or the condition speaks of it
        obtain ⟨other, block, rfl⟩ : ∃ other block, x = .ascon128 other block := by
          cases x with
          | ascon128 other block => exact ⟨other, block, rfl⟩
          | _ => cases hx
        rw [List.filter_singleton, hx]
        rw [Bool.not_true, cond_false, List.append_nil]
        cases hs : (Call.ascon128 other block).selection with
        | none =>
          rw [Option.none_or]
          apply ih
          rintro pre other' block' post c rfl hc hpost
          refine h pre other' block' (post ++ [.ascon128 other block]) c (by simp) hc ?_
          intro y hy
          rcases List.mem_append.mp hy with hy | hy
          · exact hpost y hy
          · rw [List.mem_singleton.mp hy, hs]
        | some c =>
          rw [Option.some_or]
          exact h init other block [] c rfl hs (by simp)

end EncryptionConfig.Builder

open EncryptionConfig.Builder

/--
**The last selection wins, up to `ascon128(other, block)`.** After any sequence of calls on
an `EncryptionConfig.Builder` or an `EncryptionMigration.Builder`, the built configuration
holds the last effective selection, and is null exactly when there is none, if and only if
the last effective call is not an `ascon128(other, block)` call that selects something new.
-/
theorem selection_law_iff (other : Option EncryptionConfig) (calls : List Call) :
    (SelectionLaw other calls ↔
      LastAscon128Repeats (other.map EncryptionConfig.cipherConfig) calls) ∧
    (MigrationSelectionLaw calls ↔ LastAscon128Repeats none calls) := by
  have hlaw : ∀ other, SelectionLaw other calls ↔
      LastAscon128Repeats (other.map EncryptionConfig.cipherConfig) calls := by
    intro other
    have hnew : (Builder.new other).cipherConfig = other.map EncryptionConfig.cipherConfig := by
      cases other <;> rfl
    rw [SelectionLaw, build_cipherConfig, run_cipherConfig, hnew]
    exact lastSelection_filter_iff _ _
  refine ⟨hlaw other, ?_⟩
  rw [show (none : Option MCCipherConfig) = (none : Option EncryptionConfig).map
    EncryptionConfig.cipherConfig from rfl, ← hlaw none]
  unfold MigrationSelectionLaw SelectionLaw
  -- a migration is built by a fresh builder
  have hbuild : (EncryptionMigration.buildMigration ⟨calls, none⟩).map
      (Option.map fun m => m.encryptionConfig.cipherConfig) =
      .ok (((Builder.new none).run calls).build.map EncryptionConfig.cipherConfig) := by
    show Except.ok (Option.map _ (Option.map _ _)) = _
    rw [Option.map_map]
    rfl
  rw [hbuild, Except.ok.injEq]
  rfl

/-- `encryption { ascon128(MCAscon128Config.Default) }` builds no configuration at all, and
`FilesystemConfig` falls back to its ChaCha20 default. -/
theorem selection_law_fails_ascon128 :
    ¬ (∀ other calls, SelectionLaw other calls) ∧
    (runCalls FilesystemConfig.Builder.call {}
      [.encryption ⟨[.ascon128 MCAscon128Config.Default ⟨[], none⟩], none⟩]).build.encryptionConfig =
      EncryptionConfig.Default := by
  refine ⟨fun h => ?_, rfl⟩
  have hlaw : none = some (MCCipherConfig.ascon128 MCAscon128Config.Default) :=
    h none [.ascon128 MCAscon128Config.Default ⟨[], none⟩]
  exact absurd hlaw (by decide)

end SqliteMc
