import Mathlib.Data.List.Induction
import Mathlib.Logic.Function.Basic

/-!
# Runs of a transition function and threads around a lock

`Transition.run` is a partial step function iterated over a list of labels, and
`run_invariant` the induction over runs.

`AllAt` relates each entry of a log to the entries before it.

`Pool` is a set of threads that share a state and one lock. A thread acts by a local
function that sees the shared state, the lock and the thread itself. If that function
acquires only a free lock and releases only its own (`LockDiscipline`), the lock names
exactly the thread that holds it in every reachable state (`exclusive_run`).
-/

namespace Transition

section Run

variable {σ α : Type*} {step : σ → α → Option σ}

/-- The state after a sequence of labels, each of which was enabled. -/
def run (step : σ → α → Option σ) : σ → List α → Option σ
  | s, [] => some s
  | s, a :: rest => (step s a).bind fun s' => run step s' rest

@[simp] theorem run_nil (s : σ) : run step s [] = some s := rfl

/-- A run takes its first step, and goes on from where that leads. -/
theorem run_cons_eq_some {s s' : σ} {a : α} {rest : List α} :
    run step s (a :: rest) = some s' ↔ ∃ t, step s a = some t ∧ run step t rest = some s' :=
  Option.bind_eq_some_iff

theorem run_append (s : σ) (as bs : List α) :
    run step s (as ++ bs) = (run step s as).bind fun t => run step t bs := by
  induction as generalizing s with
  | nil => rfl
  | cons a rest ih =>
    show (step s a).bind _ = ((step s a).bind _).bind _
    rw [Option.bind_assoc]
    exact Option.bind_congr fun t _ => ih t

/-- What every step preserves holds at the end of every run. -/
theorem run_invariant {I : σ → Prop} (hstep : ∀ s a s', I s → step s a = some s' → I s')
    {s s' : σ} {as : List α} (hs : I s) (h : run step s as = some s') : I s' := by
  induction as generalizing s with
  | nil =>
    cases h
    exact hs
  | cons a rest ih =>
    obtain ⟨t, ht, hrest⟩ := run_cons_eq_some.mp h
    exact ih (hstep s a t hs ht) hrest

end Run

/-! ## Logs -/

section Log

variable {ε : Type*}

/-- Every entry of the log stands in the relation `P` to what was logged before it. -/
def AllAt (P : List ε → ε → Prop) (log : List ε) : Prop :=
  ∀ pre e post, log = pre ++ e :: post → P pre e

theorem allAt_nil (P : List ε → ε → Prop) : AllAt P [] := by
  intro pre e post h
  simp at h

/-- A log that grows at its end has one more event to look at, with all the others in its past. -/
theorem allAt_concat {P : List ε → ε → Prop} {log : List ε} {e : ε} :
    AllAt P (log ++ [e]) ↔ AllAt P log ∧ P log e := by
  constructor
  · intro h
    refine ⟨fun pre x post hlog => h pre x (post ++ [e]) ?_, h log e [] rfl⟩
    rw [hlog, List.append_assoc, List.cons_append]
  · rintro ⟨hlog, he⟩ pre x post h
    -- the last entry, or one before it
    rcases List.eq_nil_or_concat post with rfl | ⟨post', y, rfl⟩
    · obtain ⟨hpre, hx⟩ := List.append_inj' h rfl
      cases hx
      rw [← hpre]
      exact he
    · rw [List.concat_eq_append, ← List.cons_append, ← List.append_assoc] at h
      exact hlog pre x post' (List.append_inj' h rfl).1

/-- A log of two parts: the second part's events have the first in their past. -/
theorem allAt_append {P : List ε → ε → Prop} {log es : List ε} :
    AllAt P (log ++ es) ↔ AllAt P log ∧ AllAt (fun past e => P (log ++ past) e) es := by
  induction es using List.reverseRecOn with
  | nil => simp [allAt_nil]
  | append_singleton es e ih =>
    rw [← List.append_assoc, allAt_concat, allAt_concat, ih, and_assoc]

/-- A log as its first event and the rest, which has that event in its past. -/
theorem allAt_cons {P : List ε → ε → Prop} {e : ε} {es : List ε} :
    AllAt P (e :: es) ↔ P [] e ∧ AllAt (fun past x => P (e :: past) x) es := by
  have hsplit : AllAt P ([e] ++ es) ↔ AllAt P [e] ∧ AllAt (fun past x => P ([e] ++ past) x) es :=
    allAt_append
  have hsingle : AllAt P ([] ++ [e]) ↔ AllAt P [] ∧ P [] e := allAt_concat
  rw [List.nil_append, and_iff_right (allAt_nil P)] at hsingle
  rwa [hsingle] at hsplit

/-- Entries that are never preceded by one of their kind occur once at most. -/
theorem length_filter_le_one {p : ε → Bool} {log : List ε}
    (h : AllAt (fun pre e => p e = true → pre.any p = false) log) :
    (log.filter p).length ≤ 1 := by
  induction log using List.reverseRecOn with
  | nil => exact Nat.zero_le 1
  | append_singleton log e ih =>
    obtain ⟨hlog, he⟩ := allAt_concat.mp h
    rw [List.filter_append, List.length_append]
    cases hp : p e with
    | false => simpa [hp] using ih hlog
    | true =>
      -- the last entry is of the kind, so none before it is
      have hnone : log.filter p = [] := by
        rw [List.filter_eq_nil_iff]
        intro x hx
        exact List.any_eq_false.mp (he hp) x hx
      simp [hnone, hp]

end Log

/-! ## Threads around a lock -/

abbrev ThreadId := Nat

/-- What a thread's step makes of the shared state, the lock and itself, and what it logs. -/
structure Effect (σ τ ε : Type*) where
  shared : σ
  lock : Option ThreadId
  thread : τ
  events : List ε

structure Pool (σ τ ε : Type*) where
  shared : σ
  lock : Option ThreadId
  threads : ThreadId → τ
  log : List ε

namespace Pool

variable {σ τ ε α : Type*}

/-- The step of one thread. -/
def step (act : ThreadId → σ → Option ThreadId → τ → α → Option (Effect σ τ ε))
    (p : Pool σ τ ε) (a : ThreadId × α) : Option (Pool σ τ ε) :=
  (act a.1 p.shared p.lock (p.threads a.1) a.2).map fun e =>
    { shared := e.shared
      lock := e.lock
      threads := Function.update p.threads a.1 e.thread
      log := p.log ++ e.events }

/-- A step of the pool is what one thread may do, written back into the pool. -/
theorem step_eq_some {act : ThreadId → σ → Option ThreadId → τ → α → Option (Effect σ τ ε)}
    {p p' : Pool σ τ ε} {i : ThreadId} {a : α} :
    step act p (i, a) = some p' ↔ ∃ e, act i p.shared p.lock (p.threads i) a = some e ∧
      p' = { shared := e.shared
             lock := e.lock
             threads := Function.update p.threads i e.thread
             log := p.log ++ e.events } := by
  rw [step, Option.map_eq_some_iff]
  exact exists_congr fun e => and_congr_right fun _ => eq_comm

/-- The lock names the thread that holds it. -/
def Exclusive (holds : τ → Bool) (p : Pool σ τ ε) : Prop :=
  ∀ i, holds (p.threads i) = true ↔ p.lock = some i

/-- A thread takes the lock when it is free, gives up its own, and does not touch it
otherwise. -/
structure LockDiscipline (act : ThreadId → σ → Option ThreadId → τ → α → Option (Effect σ τ ε))
    (holds : τ → Bool) : Prop where
  keep : ∀ i sh l t a e, act i sh l t a = some e → holds t = holds e.thread → e.lock = l
  acquire : ∀ i sh l t a e, act i sh l t a = some e → holds t = false → holds e.thread = true →
    l = none ∧ e.lock = some i
  release : ∀ i sh l t a e, act i sh l t a = some e → holds t = true → holds e.thread = false →
    e.lock = none

/-- Steps that keep to the lock keep at most one thread inside. -/
theorem exclusive_step {act : ThreadId → σ → Option ThreadId → τ → α → Option (Effect σ τ ε)}
    {holds : τ → Bool} (hact : LockDiscipline act holds) {p p' : Pool σ τ ε} {a : ThreadId × α}
    (hp : Exclusive holds p) (h : step act p a = some p') : Exclusive holds p' := by
  obtain ⟨e, he, rfl⟩ := step_eq_some.mp h
  intro j
  show holds (Function.update p.threads a.1 e.thread j) = true ↔ e.lock = some j
  have hi := hp a.1
  have hj := hp j
  by_cases hji : j = a.1
  · subst hji
    rw [Function.update_self]
    cases hbefore : holds (p.threads a.1) <;> cases hafter : holds e.thread
    · rw [hact.keep _ _ _ _ _ _ he (hbefore.trans hafter.symm), ← hi, hbefore]
    · simp [(hact.acquire _ _ _ _ _ _ he hbefore hafter).2]
    · simp [hact.release _ _ _ _ _ _ he hbefore hafter]
    · rw [hact.keep _ _ _ _ _ _ he (hbefore.trans hafter.symm), ← hi, hbefore]
  · rw [Function.update_of_ne hji, hj]
    -- another thread holds the lock only while the acting one does not
    cases hbefore : holds (p.threads a.1) <;> cases hafter : holds e.thread
    · rw [hact.keep _ _ _ _ _ _ he (hbefore.trans hafter.symm)]
    · obtain ⟨hfree, hown⟩ := hact.acquire _ _ _ _ _ _ he hbefore hafter
      rw [hfree, hown]
      simp [Ne.symm hji]
    · rw [hact.release _ _ _ _ _ _ he hbefore hafter, hi.mp hbefore]
      simp [Ne.symm hji]
    · rw [hact.keep _ _ _ _ _ _ he (hbefore.trans hafter.symm)]

/-- A thread that holds the lock is the only one that does. -/
theorem Exclusive.unique {holds : τ → Bool} {p : Pool σ τ ε} (hp : Exclusive holds p)
    {i j : ThreadId} (hi : holds (p.threads i) = true) (hj : holds (p.threads j) = true) : j = i := by
  have h1 := (hp i).mp hi
  have h2 := (hp j).mp hj
  rw [h1, Option.some_inj] at h2
  exact h2.symm

end Pool

end Transition
