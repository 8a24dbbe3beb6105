import SqliteMc.Model.ApplyPragmas

/-!
# The statements of a map

What `toMCSQLStatements` makes of a pragma map, whatever its values and the order in which
they were put.

* `rekey_statements` — the statements of a rekey map end in those of the key map that it is
  swapped for.
* `statements_order` — the order of the statements is that of `ALL`.
* `rejected_iff` — which maps and which keys are refused.
-/

namespace SqliteMc

namespace MCPragmas

/-- The statements depend on the values only, not on the order in which they were put. -/
theorem toMCSQLStatements_congr {m m' : MCPragmas} (h : ∀ p, m.get? p = m'.get? p) :
    m.toMCSQLStatements = m'.toMCSQLStatements := by
  -- the map is looked into at single pragmas only
  have hcontains : ∀ p, m.contains p = m'.contains p := fun p => by
    rw [contains_eq, contains_eq, h p]
  have hcipher : checkCipher m = checkCipher m' := by
    unfold checkCipher
    rw [h .cipher]
  have hloop : ∀ (isRekey : Bool) (ps : List MCPragma), loop m isRekey ps = loop m' isRekey ps := by
    intro isRekey ps
    induction ps with
    | nil => rfl
    | cons p rest ih => rw [loop, loop, h p, ih]
  unfold toMCSQLStatements
  simp only [hcipher, hcontains, hloop]

/-! ## Rekeying -/

/-- The swapped map sets the same, and the new key. -/
theorem part_swapped {m : MCPragmas} (hkey : m.contains .key = false) {value : Text}
    (hget : m.get? .reKey = some value) :
    m.swapped.part .main MCPragma.all = m.part .main MCPragma.all := by
  -- the two keys are the only pragmas that the swap changes
  have hsettings : ∀ p ∈ settingPragmas, m.swapped.get? p = m.get? p := by
    intro p hp
    have hne : p ≠ .key ∧ p ≠ .reKey := by
      constructor <;> rintro rfl <;> exact absurd hp (by decide)
    rw [get?_swapped hkey, if_neg hne.1, if_neg hne.2]
  have hnewKey : m.swapped.get? .key = some value := by
    rw [get?_swapped hkey, if_pos rfl, hget]
  have hnoRekey : m.swapped.get? .reKey = none := by
    rw [get?_swapped hkey, if_neg (by decide), if_pos rfl]
  have hnoKey : m.get? .key = none := Option.not_isSome_iff_eq_none.mp (Bool.eq_false_iff.mp hkey)
  rw [all_eq, part_append, part_append, part_congr hsettings, part_of_key hnewKey hnoRekey,
    part_of_reKey hnoKey hget]
  rfl

end MCPragmas

open MCPragmas (settingPragmas)

/--
**Rekeying ends where later connections start.** The statements of a rekey map are the two
that come first, the settings of the map in the `temp` schema, in the order of `ALL`, the
rekey itself, and then all those of the map that is swapped in for it.
-/
theorem rekey_statements (m : MCPragmas) (hrekey : m.contains .reKey = true)
    (hkey : m.contains .key = false) (sts : List Statement)
    (haccepted : m.toMCSQLStatements = .ok sts) :
    ∃ value rest, m.get? .reKey = some value ∧ m.swapped.toMCSQLStatements = .ok rest ∧
      sts = [.selectSchema, .journalModeDelete] ++ m.part .temp settingPragmas ++ [.rekey value] ++
        rest := by
  obtain ⟨value, hget⟩ := Option.isSome_iff_exists.mp hrekey
  obtain ⟨rest, hrest⟩ := MCPragmas.toMCSQLStatements_swapped hkey hrekey ⟨sts, haccepted⟩
  refine ⟨value, rest, hget, hrest, ?_⟩
  -- the map that is swapped in does not rekey
  have hswapped : m.swapped.contains .reKey = false := by
    rw [MCPragmas.contains_eq, MCPragmas.get?_swapped hkey, if_neg (by decide), if_pos rfl]
    rfl
  have hmain := MCPragmas.toMCSQLStatements_eq_part hrest
  rw [if_neg (Bool.eq_false_iff.mp hswapped), MCPragmas.part_swapped hkey hget] at hmain
  have hsts := MCPragmas.toMCSQLStatements_eq_part haccepted
  rw [if_pos hrekey, ← hmain] at hsts
  have hnoKey : m.get? .key = none := Option.not_isSome_iff_eq_none.mp (Bool.eq_false_iff.mp hkey)
  have htemp : m.part .temp MCPragma.all = m.part .temp settingPragmas ++ [.rekey value] := by
    rw [MCPragmas.all_eq, MCPragmas.part_append, MCPragmas.part_of_reKey hnoKey hget]
    rfl
  rw [hsts, htemp]
  simp only [List.append_assoc]

/-- A new key and another cipher, with its default settings. -/
private def rekeyMap : MCPragmas where
  entries := [(.reKey, Text.lit "'new'"), (.cipher, Text.lit "chacha20"), (.legacy, Text.lit "0")]
  nodup := by decide

/-- The rekey map of the example, under ChaCha20. -/
theorem rekey_statements_chacha20 :
    ∃ value rest, rekeyMap.get? .reKey = some value ∧
      rekeyMap.swapped.toMCSQLStatements = .ok rest ∧
      [.selectSchema, .journalModeDelete, .cipher .temp (Text.lit "chacha20"),
        .config .temp .legacy 0, .rekey (Text.lit "'new'"), .cipher .main (Text.lit "chacha20"),
        .config .main .legacy 0, .key (Text.lit "'new'")] =
        [.selectSchema, .journalModeDelete] ++ rekeyMap.part .temp settingPragmas ++
          [.rekey value] ++ rest :=
  rekey_statements rekeyMap rfl rfl _ rfl

/-! ## The order of the statements -/

/-- The parameters of a cipher that a change of the legacy level resets. -/
def MCPragma.resetByLegacy : List MCPragma :=
  [.legacyPageSize, .kdfIter, .fastKdfIter, .hmacUse, .hmacPngo, .hmacSaltMask, .kdfAlgorithm,
    .hmacAlgorithm, .plainTextHeaderSize]

def MCPragma.IsKeying (p : MCPragma) : Prop := p = .key ∨ p = .reKey

instance (p : MCPragma) : Decidable p.IsKeying := inferInstanceAs (Decidable (_ ∨ _))

/-- An order in which no pragma undoes an earlier one. -/
structure MCPragma.Ordered (ps : List MCPragma) : Prop where
  nodup : ps.Nodup
  cipher : ps.head? = some .cipher
  legacy : ps.Pairwise fun p q => q = .legacy → p ∉ resetByLegacy
  keying : ps.Pairwise fun p q => p.IsKeying → q.IsKeying
  last : ∃ p, ps.getLast? = some p ∧ p.IsKeying

namespace MCPragmas

/-- The statements are those of the pragmas of the map, each with its value in the map, in an
order in which none undoes another. -/
def Renders (m : MCPragmas) (schema : Schema) (sts : List Statement) : Prop :=
  ∃ ps, MCPragma.Ordered ps ∧ (∀ p, p ∈ ps ↔ m.contains p = true) ∧
    List.Forall₂ (fun p s => ∃ v, m.get? p = some v ∧ Statement.of schema p v = some s) ps sts

/-- What is left of `ALL` has the order of `ALL`. -/
theorem ordered_filter {m : MCPragmas} (hcipher : m.contains .cipher = true)
    (hkey : m.contains .reKey = true ∨ m.contains .key = true) :
    MCPragma.Ordered (MCPragma.all.filter m.contains) where
  nodup := List.Nodup.filter _ (by decide)
  cipher := by
    rw [MCPragma.all, List.cons_append, List.filter_cons_of_pos hcipher]
    rfl
  legacy := List.Pairwise.filter _ (by decide)
  keying := List.Pairwise.filter _ (by decide)
  last := by
    -- the keys are at the end, `RE_KEY` behind `KEY`
    rw [all_eq, List.filter_append]
    by_cases hrekey : m.contains .reKey = true
    · refine ⟨.reKey, ?_, Or.inr rfl⟩
      rw [show [MCPragma.key, .reKey] = [.key] ++ [.reKey] from rfl, List.filter_append,
        List.filter_cons_of_pos hrekey, ← List.append_assoc]
      exact List.getLast?_concat
    · refine ⟨.key, ?_, Or.inl rfl⟩
      rw [List.filter_cons_of_pos (hkey.resolve_left hrekey), List.filter_cons_of_neg hrekey]
      exact List.getLast?_concat

/-- A pragma that is there and has a statement gives this one, and no other pragma does. -/
theorem forall₂_part {m : MCPragmas} {schema : Schema} {ps : List MCPragma}
    (h : ∀ p v, m.get? p = some v → ∃ s, Statement.of schema p v = some s) :
    List.Forall₂ (fun p s => ∃ v, m.get? p = some v ∧ Statement.of schema p v = some s)
      (ps.filter m.contains) (m.part schema ps) := by
  induction ps with
  | nil => exact .nil
  | cons p rest ih =>
    -- a pragma that is not there is left out on both sides
    cases hget : m.get? p with
    | none =>
      rw [List.filter_cons_of_neg (by rw [contains_eq, hget]; exact Bool.false_ne_true), part,
        List.filterMap_cons_none (by rw [hget]; rfl)]
      exact ih
    | some v =>
      obtain ⟨s, hs⟩ := h p v hget
      rw [List.filter_cons_of_pos (by rw [contains_eq, hget]; rfl), part,
        List.filterMap_cons_some (by rw [hget]; exact hs)]
      exact .cons ⟨v, hget, hs⟩ ih

/-- Each part of the statements of a map that is accepted. -/
theorem renders_part {m : MCPragmas} (h : ∃ sts, m.toMCSQLStatements = .ok sts)
    (schema : Schema) : m.Renders schema (m.part schema MCPragma.all) := by
  obtain ⟨⟨value, _, hcipher, -⟩, -, hkey, hvalues⟩ := (toMCSQLStatements_isOk_iff m).mp h
  refine ⟨MCPragma.all.filter m.contains, ordered_filter ?_ hkey, ?_, forall₂_part ?_⟩
  · rw [contains_eq, hcipher]
    rfl
  · exact fun p => List.mem_filter.trans (and_iff_right (MCPragma.mem_all p))
  · intro p v hget
    obtain ⟨s, hs⟩ := (sql_isOk_iff true p v).mpr fun hp => hvalues p hp v hget
    -- the two statements that the loop has for the pragma
    obtain ⟨htemp, hmain⟩ := of_of_sql (fun _ => rfl) hs
    cases schema with
    | main => exact ⟨s.2, hmain⟩
    | temp => exact ⟨s.1, htemp⟩

end MCPragmas

/--
**The order of the statements does not depend on how the map was filled.** Two maps with the
same entries give the same statements, or fail in the same way. Where there are statements,
each part of them holds one for each pragma of the map: the cipher comes first, the legacy
level before all that it resets, and the key last.
-/
theorem statements_order (m m' : MCPragmas) (hentries : m.entries.Perm m'.entries) :
    m.toMCSQLStatements = m'.toMCSQLStatements ∧
      ∀ sts, m.toMCSQLStatements = .ok sts →
        if m.contains .reKey then
          ∃ temp main, sts = [.selectSchema, .journalModeDelete] ++ temp ++ main ∧
            m.Renders .temp temp ∧ m.Renders .main main
        else m.Renders .main sts := by
  refine ⟨MCPragmas.toMCSQLStatements_congr (LinkedMap.get?_eq_of_perm hentries), ?_⟩
  intro sts haccepted
  have hsts := MCPragmas.toMCSQLStatements_eq_part haccepted
  -- with a rekey the settings are made in both schemas, without one in the main one only
  by_cases hrekey : m.contains .reKey = true
  · rw [if_pos hrekey] at hsts ⊢
    exact ⟨_, _, hsts, MCPragmas.renders_part ⟨sts, haccepted⟩ .temp,
      MCPragmas.renders_part ⟨sts, haccepted⟩ .main⟩
  · rw [if_neg hrekey] at hsts ⊢
    rw [hsts]
    exact MCPragmas.renders_part ⟨sts, haccepted⟩ .main

/-- The entries of `rekeyMap`, put in another order. -/
private def rekeyMapLegacyFirst : MCPragmas where
  entries := [(.legacy, Text.lit "0"), (.reKey, Text.lit "'new'"), (.cipher, Text.lit "chacha20")]
  nodup := by decide

/-- The same map, filled in another order. -/
theorem statements_order_rekeyMap :
    rekeyMap.toMCSQLStatements = rekeyMapLegacyFirst.toMCSQLStatements ∧
      ∀ sts, rekeyMap.toMCSQLStatements = .ok sts →
        if rekeyMap.contains .reKey then
          ∃ temp main, sts = [.selectSchema, .journalModeDelete] ++ temp ++ main ∧
            rekeyMap.Renders .temp temp ∧ rekeyMap.Renders .main main
        else rekeyMap.Renders .main sts :=
  statements_order rekeyMap rekeyMapLegacyFirst (by decide)

/-! ## What is refused -/

/-- A cipher is found by its name, in any case of the letters. -/
theorem Cipher.valueOf_isOk_iff (name : Text) :
    (∃ c, Cipher.valueOf name = .ok c) ↔ ∃ c : Cipher, name.equalsIgnoreCase c.name = true := by
  have hfind : (Cipher.valueOfOrNull name).isSome = true ↔
      ∃ c : Cipher, name.equalsIgnoreCase c.name = true := by
    rw [Cipher.valueOfOrNull, List.find?_isSome]
    constructor
    · rintro ⟨c, -, hc⟩
      exact ⟨c, hc⟩
    · rintro ⟨c, hc⟩
      exact ⟨c, by cases c <;> decide, hc⟩
  rw [← hfind, Cipher.valueOf]
  cases Cipher.valueOfOrNull name <;> simp

namespace MCPragmas

/-- The maps that no statements are made of. -/
inductive Refused (m : MCPragmas) : Prop
  | noCipher (h : m.contains .cipher = false)
  | unknownCipher {value : Text} (hget : m.get? .cipher = some value)
      (h : ∀ c : Cipher, value.equalsIgnoreCase c.name = false)
  | noLegacy (h : m.contains .legacy = false)
  | noKey (hkey : m.contains .key = false) (hrekey : m.contains .reKey = false)
  | notInteger {p : MCPragma} {value : Text} (hp : p ∈ MCPragma.parameters)
      (hget : m.get? p = some value) (h : value.toIntOrNull = none)

/-- A map has statements exactly when it is not refused. -/
theorem toMCSQLStatements_isOk_iff_not_refused (m : MCPragmas) :
    (∃ sts, m.toMCSQLStatements = .ok sts) ↔ ¬ m.Refused := by
  rw [toMCSQLStatements_isOk_iff]
  constructor
  · rintro ⟨⟨value, c, hget, hvalue⟩, hlegacy, hkey, hvalues⟩ hrefused
    -- each of the five is against one of the conditions
    cases hrefused with
    | noCipher h =>
      rw [contains_eq, hget] at h
      cases h
    | unknownCipher hget' h =>
      obtain ⟨c', hc'⟩ := (Cipher.valueOf_isOk_iff value).mp ⟨c, hvalue⟩
      rw [hget, Option.some_inj] at hget'
      rw [hget', h c'] at hc'
      cases hc'
    | noLegacy h => exact Bool.eq_false_iff.mp h hlegacy
    | noKey hnokey hnorekey =>
      exact hkey.elim (Bool.eq_false_iff.mp hnorekey) (Bool.eq_false_iff.mp hnokey)
    | notInteger hp hget' h => exact hvalues _ hp _ hget' h
  · intro hnot
    refine ⟨?_, ?_, ?_, ?_⟩
    · cases hget : m.get? .cipher with
      | none => exact absurd (.noCipher (by rw [contains_eq, hget]; rfl)) hnot
      | some value =>
        have hknown : ∃ c : Cipher, value.equalsIgnoreCase c.name = true := by
          by_contra hunknown
          exact hnot (.unknownCipher hget fun c =>
            Bool.eq_false_iff.mpr fun hc => hunknown ⟨c, hc⟩)
        obtain ⟨c, hc⟩ := (Cipher.valueOf_isOk_iff value).mpr hknown
        exact ⟨value, c, rfl, hc⟩
    · by_contra h
      exact hnot (.noLegacy (Bool.eq_false_iff.mpr h))
    · by_contra h
      rw [not_or] at h
      exact hnot (.noKey (Bool.eq_false_iff.mpr h.2) (Bool.eq_false_iff.mpr h.1))
    · exact fun p hp value hget h => hnot (.notInteger hp hget h)

/-! ### No other exception -/

/-- The check of a value throws `IllegalArgumentException` and nothing else. -/
theorem onlyIllegalArgument_sql (isRekey : Bool) (p : MCPragma) (value : Text) :
    OnlyIllegalArgument (sql isRekey p value) := by
  cases p with
  | cipher => exact onlyIllegalArgument_ok _
  | key => exact onlyIllegalArgument_ok _
  | reKey => exact onlyIllegalArgument_ok _
  -- the parameters: what does not parse is an illegal argument
  | _ =>
    intro t h
    simp only [sql] at h
    cases hvalue : value.toIntOrNull with
    | none =>
      rw [hvalue] at h
      cases h
      exact ⟨_, rfl⟩
    | some n =>
      rw [hvalue] at h
      cases h

/-- The loop over the pragmas throws `IllegalArgumentException` and nothing else. -/
theorem onlyIllegalArgument_loop (m : MCPragmas) (isRekey : Bool) (ps : List MCPragma) :
    OnlyIllegalArgument (loop m isRekey ps) := by
  induction ps with
  | nil => exact onlyIllegalArgument_ok _
  | cons p rest ih =>
    rw [loop]
    cases m.get? p with
    | none => exact ih
    | some value =>
      exact (onlyIllegalArgument_sql isRekey p value).bind fun _ =>
        ih.bind fun _ => onlyIllegalArgument_ok _

/-- The check of the cipher throws `IllegalArgumentException` and nothing else. -/
theorem onlyIllegalArgument_checkCipher (m : MCPragmas) : OnlyIllegalArgument (checkCipher m) := by
  intro t h
  unfold checkCipher at h
  cases hget : m.get? .cipher with
  | none =>
    rw [hget] at h
    cases h
    exact ⟨_, rfl⟩
  | some value =>
    rw [hget] at h
    simp only [Cipher.valueOf] at h
    -- `Cipher.valueOf` throws for a name it does not know
    cases hvalue : Cipher.valueOfOrNull value with
    | none =>
      rw [hvalue] at h
      cases h
      exact ⟨_, rfl⟩
    | some c =>
      rw [hvalue] at h
      cases h

/-- The rendering as a whole throws `IllegalArgumentException` and nothing else. -/
theorem onlyIllegalArgument_toMCSQLStatements (m : MCPragmas) :
    OnlyIllegalArgument m.toMCSQLStatements :=
  (onlyIllegalArgument_checkCipher m).bind fun _ =>
    (onlyIllegalArgument_require _ _).bind fun _ =>
      (onlyIllegalArgument_require _ _).bind fun _ =>
        (onlyIllegalArgument_loop m _ _).bind fun _ => onlyIllegalArgument_ok _

/-- What is refused is refused as an illegal argument, and nothing else is. -/
theorem toMCSQLStatements_error_iff (m : MCPragmas) :
    (∃ message, m.toMCSQLStatements = .error (.illegalArgument message)) ↔ m.Refused := by
  have hiff := toMCSQLStatements_isOk_iff_not_refused m
  constructor
  -- without statements there is an error, and only `IllegalArgumentException` is thrown
  · rintro ⟨message, h⟩
    by_contra hnot
    obtain ⟨sts, hsts⟩ := hiff.mpr hnot
    rw [h] at hsts
    cases hsts
  · intro hrefused
    cases h : m.toMCSQLStatements with
    | error t =>
      obtain ⟨message, rfl⟩ := onlyIllegalArgument_toMCSQLStatements m t h
      exact ⟨message, rfl⟩
    | ok sts => exact absurd hrefused (hiff.mp ⟨sts, h⟩)

end MCPragmas

/-! ### Configurations -/

namespace EncryptionConfig

/-- Putting a key fails only if the cipher does not take it. -/
theorem applyKeyPragma_error_iff (c : EncryptionConfig) (pragmas : MCPragmas) (key : Key)
    (isRekey : Bool) :
    (∃ message, c.applyKeyPragma pragmas key isRekey = .error (.illegalArgument message)) ↔
      key.isRaw = true ∧ c.cipherConfig.cipher ≠ .sqlcipher ∧
        c.cipherConfig.cipher ≠ .chacha20 := by
  have haccepts : c.cipherConfig.cipher.accepts key = false ↔ key.isRaw = true ∧
      c.cipherConfig.cipher ≠ .sqlcipher ∧ c.cipherConfig.cipher ≠ .chacha20 := by
    simp [Cipher.accepts, and_assoc]
  rw [← haccepts]
  constructor
  · rintro ⟨message, h⟩
    by_contra hnot
    -- a key that the cipher takes can be formatted, and a map is put together
    obtain ⟨value, hvalue⟩ := (Cipher.accepts_iff _ key).mp (Bool.eq_true_of_not_eq_false hnot)
    rw [applyKeyPragma, hvalue] at h
    cases h
  · intro h
    obtain ⟨message, hmessage⟩ := Cipher.refused_of_not_accepts h
    exact ⟨message, by rw [applyKeyPragma, hmessage]; rfl⟩

/-- The integers in the statements of a configuration are its fields. -/
theorem field_of_mem_configStatements {c : EncryptionConfig} {addAll : Bool} {schema : Schema}
    {schema' : Schema} {p : MCPragma} {n : Int32}
    (h : .config schema p n ∈ c.configStatements addAll schema') : c.field p = some n := by
  rcases List.mem_cons.mp h with h | h
  · cases h
  · obtain ⟨⟨q, k⟩, hmem, heq⟩ := List.mem_map.mp h
    obtain ⟨q', -, hq'⟩ := List.mem_filterMap.mp hmem
    obtain ⟨k', hemitted, hk'⟩ := Option.map_eq_some_iff.mp hq'
    cases heq
    cases hk'
    exact emitted_eq_some hemitted

/-- What is emitted is set by one of the statements. -/
theorem config_mem_configStatements {c : EncryptionConfig} {addAll : Bool} {p : MCPragma}
    {n : Int32} (hp : p ∈ MCPragma.parameters) (h : c.emitted addAll p = some n)
    (schema : Schema) : .config schema p n ∈ c.configStatements addAll schema := by
  have hsetting : (p, n) ∈ c.settings addAll :=
    List.mem_filterMap.mpr ⟨p, hp, by rw [h]; rfl⟩
  exact List.mem_cons_of_mem _ (List.mem_map.mpr ⟨(p, n), hsetting, rfl⟩)

/-- The statements for a key set the fields of the configuration. -/
theorem field_of_mem_keyStatements {c : EncryptionConfig} {addAll : Bool} {value : Text}
    {schema : Schema} {p : MCPragma} {n : Int32}
    (h : .config schema p n ∈ c.keyStatements addAll value) : c.field p = some n := by
  rcases List.mem_append.mp h with h | h
  · exact field_of_mem_configStatements h
  · cases List.mem_singleton.mp h

/-- The statements for a rekey set the fields of the configuration. -/
theorem field_of_mem_rekeyStatements {c : EncryptionConfig} {addAll : Bool} {value : Text}
    {schema : Schema} {p : MCPragma} {n : Int32}
    (h : .config schema p n ∈ c.rekeyStatements addAll value) : c.field p = some n := by
  rw [rekeyStatements, List.mem_append, List.mem_append, List.mem_append] at h
  rcases h with (h | h | h) | h
  · simp at h
  · exact field_of_mem_configStatements h
  · cases List.mem_singleton.mp h
  · exact field_of_mem_keyStatements h

end EncryptionConfig

/-- The parameters of a map that holds a configuration. -/
theorem MCPragmas.emitted_of_holds {m : MCPragmas} {c : EncryptionConfig} {addAll isRekey : Bool}
    {value : Text} (h : m.Holds c addAll isRekey value) {p : MCPragma}
    (hp : p ∈ MCPragma.parameters) (hcontains : m.contains p = true) :
    ∃ n, c.emitted addAll p = some n := by
  rw [contains_eq, h.parameter hp, Option.isSome_map] at hcontains
  exact Option.isSome_iff_exists.mp hcontains

/--
**Exactly which inputs are refused.** A map that is refused lacks a cipher, a legacy level or
a key, or holds a value that does not parse; a key that is refused is raw, for a cipher that
takes none. A map made from a configuration and a key is never refused: its statements set all
the parameters of the map, to the fields of the configuration.
-/
theorem rejected_iff :
    (∀ m : MCPragmas, OnlyIllegalArgument m.toMCSQLStatements ∧
      ((∃ message, m.toMCSQLStatements = .error (.illegalArgument message)) ↔ m.Refused)) ∧
    ∀ (c : EncryptionConfig) (key : Key) (isRekey : Bool),
      (∀ pragmas,
        (∃ message, c.applyKeyPragma pragmas key isRekey = .error (.illegalArgument message)) ↔
          key.isRaw = true ∧ c.cipherConfig.cipher ≠ .sqlcipher ∧
            c.cipherConfig.cipher ≠ .chacha20) ∧
      ∀ addAll m, c.applyKeyPragma (c.applyPragmas .empty addAll) key isRekey = .ok m →
        ∃ sts, m.toMCSQLStatements = .ok sts ∧
          (∀ schema p n, .config schema p n ∈ sts → c.field p = some n) ∧
          ∀ p ∈ MCPragma.parameters, m.contains p = true → ∃ n, .config .main p n ∈ sts := by
  refine ⟨fun m => ⟨MCPragmas.onlyIllegalArgument_toMCSQLStatements m,
    MCPragmas.toMCSQLStatements_error_iff m⟩, ?_⟩
  intro c key isRekey
  refine ⟨fun pragmas => c.applyKeyPragma_error_iff pragmas key isRekey, ?_⟩
  intro addAll m hm
  -- the map holds the configuration, and its statements are known
  obtain ⟨value, -, hholds⟩ := EncryptionConfig.pragmas_eq_ok hm
  refine ⟨_, MCPragmas.toMCSQLStatements_of_holds hholds, ?_, ?_⟩
  · intro schema p n hmem
    cases isRekey with
    | false => exact EncryptionConfig.field_of_mem_keyStatements hmem
    | true => exact EncryptionConfig.field_of_mem_rekeyStatements hmem
  · intro p hp hcontains
    obtain ⟨n, hn⟩ := MCPragmas.emitted_of_holds hholds hp hcontains
    -- the parameters are set for `main` in both roles
    have hkeyed : .config .main p n ∈ c.keyStatements addAll value :=
      List.mem_append_left _ (EncryptionConfig.config_mem_configStatements hp hn .main)
    cases isRekey with
    | false => exact ⟨n, hkeyed⟩
    | true => exact ⟨n, List.mem_append_right _ hkeyed⟩

end SqliteMc
