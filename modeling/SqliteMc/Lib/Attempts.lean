import Mathlib.Data.List.Basic

/-!
# Trying alternatives

Alternatives are tried in order until one succeeds. Each try runs in the state that the one
before it left and gives a value or an error; nothing is undone when it fails.

* `run_cases` — the alternatives tried are an initial part of the list, all of them but the
  last one failed, and the last one succeeded unless the list is exhausted.
* `run_invariant`, `log_run` — what every try preserves, and what every try logs.
* `exists_run_eq_ok` — alternatives that fail without a trace do not hide a later success.
-/

namespace Attempts

variable {α σ ε δ : Type*}

/-- What was tried, each with its result, and the state at the end. -/
def run (attempt : α → σ → Except ε δ × σ) : List α → σ → List (α × Except ε δ) × σ
  | [], s => ([], s)
  | a :: rest, s =>
    match attempt a s with
    | (.ok d, s') => ([(a, .ok d)], s')
    | (.error e, s') => ((a, .error e) :: (run attempt rest s').1, (run attempt rest s').2)

/-- The value of the last try, or its error; nothing if there was none. -/
def result (tried : List (α × Except ε δ)) : Except (Option ε) δ :=
  match tried.getLast? with
  | none => .error none
  | some (_, .error e) => .error (some e)
  | some (_, .ok d) => .ok d

/-- Tries that failed. -/
def failures (failed : List (α × ε)) : List (α × Except ε δ) :=
  failed.map fun x => (x.1, .error x.2)

variable {attempt : α → σ → Except ε δ × σ}

/-- A run stops at its first success. -/
theorem run_cons_of_ok {a : α} {s s' : σ} {d : δ} (h : attempt a s = (.ok d, s')) (rest : List α) :
    run attempt (a :: rest) s = ([(a, .ok d)], s') := by
  rw [run, h]

/-- A refused attempt is kept in the run, which goes on with the rest. -/
theorem run_cons_of_error {a : α} {s s' : σ} {e : ε} (h : attempt a s = (.error e, s'))
    (rest : List α) :
    run attempt (a :: rest) s =
      ((a, .error e) :: (run attempt rest s').1, (run attempt rest s').2) := by
  rw [run, h]

/-- Either one alternative succeeded after others had failed, or all of them failed. -/
theorem run_cases (attempt : α → σ → Except ε δ × σ) (as : List α) (s : σ) :
    (∃ failed a rest d, as = failed.map Prod.fst ++ a :: rest ∧
      (run attempt as s).1 = failures failed ++ [(a, .ok d)]) ∨
    (∃ failed, as = failed.map Prod.fst ∧ (run attempt as s).1 = failures failed) := by
  induction as generalizing s with
  | nil => exact Or.inr ⟨[], rfl, rfl⟩
  | cons a rest ih =>
    obtain ⟨r, s', h⟩ : ∃ r s', attempt a s = (r, s') := ⟨_, _, rfl⟩
    cases r with
    | ok d =>
      rw [run_cons_of_ok h]
      exact Or.inl ⟨[], a, rest, d, rfl, rfl⟩
    | error e =>
      rw [run_cons_of_error h]
      -- what came of the others, from the state that the failure left
      rcases ih s' with ⟨failed, b, others, d, hrest, htried⟩ | ⟨failed, hrest, htried⟩
      · refine Or.inl ⟨(a, e) :: failed, b, others, d, ?_, ?_⟩
        · rw [hrest]
          rfl
        · rw [htried]
          rfl
      · refine Or.inr ⟨(a, e) :: failed, ?_, ?_⟩
        · rw [hrest]
          rfl
        · rw [htried]
          rfl

/-- What came of a try is what the attempt makes of some state. -/
theorem exists_of_mem_run {as : List α} {s : σ} {x : α × Except ε δ}
    (h : x ∈ (run attempt as s).1) : ∃ s', (attempt x.1 s').1 = x.2 := by
  induction as generalizing s with
  | nil => cases h
  | cons a rest ih =>
    obtain ⟨r, s', htry⟩ : ∃ r s', attempt a s = (r, s') := ⟨_, _, rfl⟩
    cases r with
    | ok d =>
      rw [run_cons_of_ok htry] at h
      rw [List.mem_singleton.mp h]
      exact ⟨s, by rw [htry]⟩
    | error e =>
      -- an entry of this try, or of one that comes after its failure
      rw [run_cons_of_error htry] at h
      rcases List.mem_cons.mp h with rfl | h
      · exact ⟨s, by rw [htry]⟩
      · exact ih h

/-- A run that ends in a success has the result of that success. -/
theorem result_succeeded (tried : List (α × Except ε δ)) (a : α) (d : δ) :
    result (tried ++ [(a, .ok d)]) = .ok d := by
  rw [result, List.getLast?_concat]

/-- If all tries failed, the error is the last one's. -/
theorem result_failures (failed : List (α × ε)) :
    result (failures failed : List (α × Except ε δ)) = .error (failed.getLast?.map Prod.snd) := by
  rw [result, failures, List.getLast?_map]
  cases failed.getLast? <;> rfl

/-- A failed first try matters only if there is no other. -/
theorem result_cons_error (a : α) (e : ε) (tried : List (α × Except ε δ)) :
    result ((a, .error e) :: tried) = (result tried).mapError fun last => last.or (some e) := by
  rw [result, result, List.getLast?_cons]
  cases tried.getLast? with
  | none => rfl
  | some x =>
    obtain ⟨b, r⟩ := x
    cases r <;> rfl

/-- What every try preserves is preserved. -/
theorem run_invariant {I : σ → Prop} {as : List α}
    (hattempt : ∀ a ∈ as, ∀ s, I s → I (attempt a s).2) {s : σ} (hs : I s) :
    I (run attempt as s).2 := by
  induction as generalizing s with
  | nil => exact hs
  | cons a rest ih =>
    have hafter := hattempt a List.mem_cons_self s hs
    obtain ⟨r, s', h⟩ : ∃ r s', attempt a s = (r, s') := ⟨_, _, rfl⟩
    rw [h] at hafter
    cases r with
    | ok d =>
      rw [run_cons_of_ok h]
      exact hafter
    | error e =>
      -- the others start from what the failed try left
      rw [run_cons_of_error h]
      exact ih (fun b hb => hattempt b (List.mem_cons_of_mem a hb)) hafter

/-- If every try appends to a log, the log has what each of the tries appended. -/
theorem log_run {β : Type*} {log : σ → List β} {entries : α → Except ε δ → List β}
    (hattempt : ∀ a s, log (attempt a s).2 = log s ++ entries a (attempt a s).1)
    (as : List α) (s : σ) :
    log (run attempt as s).2 =
      log s ++ (run attempt as s).1.flatMap fun x => entries x.1 x.2 := by
  induction as generalizing s with
  | nil => exact (List.append_nil _).symm
  | cons a rest ih =>
    -- the entries of the first try are in the log before the others are tried
    have hafter := hattempt a s
    obtain ⟨r, s', h⟩ : ∃ r s', attempt a s = (r, s') := ⟨_, _, rfl⟩
    rw [h] at hafter
    cases r with
    | ok d =>
      rw [run_cons_of_ok h]
      show log s' = log s ++ (entries a (.ok d) ++ [])
      rw [List.append_nil]
      exact hafter
    | error e =>
      rw [run_cons_of_error h, List.flatMap_cons, ← List.append_assoc, ← hafter]
      exact ih s'

/-- If failing leaves the state as it was and some alternative succeeds in it, one of the
alternatives is found that does, and the state is the one it leaves. -/
theorem exists_run_eq_ok {as : List α} {s : σ}
    (hfail : ∀ a ∈ as, ∀ e, (attempt a s).1 = .error e → (attempt a s).2 = s)
    (hok : ∃ a ∈ as, ∃ d, (attempt a s).1 = .ok d) :
    ∃ a ∈ as, ∃ d, attempt a s = (.ok d, (run attempt as s).2) ∧
      result (run attempt as s).1 = .ok d := by
  induction as with
  | nil =>
    obtain ⟨a, ha, -⟩ := hok
    cases ha
  | cons a rest ih =>
    obtain ⟨r, s', h⟩ : ∃ r s', attempt a s = (r, s') := ⟨_, _, rfl⟩
    cases r with
    | ok d =>
      rw [run_cons_of_ok h]
      exact ⟨a, List.mem_cons_self, d, h, rfl⟩
    | error e =>
      -- a failed attempt leaves the state, so that what succeeds there has still to come
      have hs : s' = s := by
        have hafter := hfail a List.mem_cons_self e (by rw [h])
        rwa [h] at hafter
      obtain ⟨b, hb, d, hd⟩ := hok
      -- the one that succeeds is another one
      have hrest : ∃ a ∈ rest, ∃ d, (attempt a s).1 = .ok d := by
        rcases List.mem_cons.mp hb with rfl | hb
        · rw [h] at hd
          cases hd
        · exact ⟨b, hb, d, hd⟩
      obtain ⟨c, hc, d', hrun, hresult⟩ :=
        ih (fun x hx => hfail x (List.mem_cons_of_mem a hx)) hrest
      rw [run_cons_of_error h, hs]
      refine ⟨c, List.mem_cons_of_mem a hc, d', hrun, ?_⟩
      rw [result_cons_error, hresult]
      rfl

end Attempts
