import Mathlib.Data.List.Basic

/-!
# Scripts

A script is a list of actions carried out in order until one fails. Which actions succeed
is up to the environment: `ok n` says it of the `n`-th one. `exec` gives the actions that
were carried out, each with its success, and whether the script came to its end.

Only the last action can have failed (`exec_eq_append_false`), and what was carried out is
an initial part of the script (`map_fst_exec`).
-/

namespace Script

variable {α : Type*} (ok : Nat → Bool)

/-- The actions carried out, the first of them being the `n`-th for the environment. -/
def exec (n : Nat) : List α → List (α × Bool) × Bool
  | [] => ([], true)
  | a :: rest =>
    if ok n then ((a, true) :: (exec (n + 1) rest).1, (exec (n + 1) rest).2)
    else ([(a, false)], false)

@[simp] theorem exec_nil (n : Nat) : exec ok n ([] : List α) = ([], true) := rfl

/-- A command that succeeds is recorded, and the rest runs. -/
theorem exec_cons_of_ok {n : Nat} (h : ok n = true) (a : α) (rest : List α) :
    exec ok n (a :: rest) = ((a, true) :: (exec ok (n + 1) rest).1, (exec ok (n + 1) rest).2) :=
  if_pos h

/-- A command that fails ends the run. -/
theorem exec_cons_of_not_ok {n : Nat} (h : ok n = false) (a : α) (rest : List α) :
    exec ok n (a :: rest) = ([(a, false)], false) :=
  if_neg (by rw [h]; exact Bool.false_ne_true)

/-- A script in two parts: the second one is begun when the first came to its end. -/
theorem exec_append (n : Nat) (as bs : List α) :
    exec ok n (as ++ bs) =
      if (exec ok n as).2 then
        ((exec ok n as).1 ++ (exec ok (n + as.length) bs).1, (exec ok (n + as.length) bs).2)
      else exec ok n as := by
  induction as generalizing n with
  | nil => rfl
  | cons a rest ih =>
    cases hok : ok n with
    -- the failure keeps the second part from being begun
    | false =>
      rw [List.cons_append, exec_cons_of_not_ok ok hok, exec_cons_of_not_ok ok hok]
      rfl
    | true =>
      rw [List.cons_append, exec_cons_of_ok ok hok, exec_cons_of_ok ok hok, ih (n + 1)]
      have hlen : n + 1 + rest.length = n + (a :: rest).length := by
        rw [List.length_cons]
        omega
      rw [hlen]
      split <;> rfl

/-- What was carried out is an initial part of the script. -/
theorem map_fst_exec (n : Nat) (as : List α) : ((exec ok n as).1.map Prod.fst) <+: as := by
  induction as generalizing n with
  | nil => exact List.prefix_rfl
  | cons a rest ih =>
    -- the failed command is recorded too, and is the last
    cases hok : ok n with
    | false =>
      rw [exec_cons_of_not_ok ok hok]
      exact ⟨rest, rfl⟩
    | true =>
      rw [exec_cons_of_ok ok hok]
      exact (List.prefix_cons_inj a).mpr (ih (n + 1))

/-- Nothing is carried out after a failure. -/
theorem exec_eq_append_false {n : Nat} {as : List α} {pre post : List (α × Bool)} {a : α}
    (h : (exec ok n as).1 = pre ++ (a, false) :: post) :
    post = [] ∧ (exec ok n as).2 = false ∧ ∀ x ∈ pre, x.2 = true := by
  induction as generalizing n pre with
  | nil => simp at h
  | cons b rest ih =>
    cases hok : ok n with
    | false =>
      rw [exec_cons_of_not_ok ok hok] at h ⊢
      -- the first one failed, and nothing runs behind it
      cases pre with
      | nil =>
        cases h
        exact ⟨rfl, rfl, by simp⟩
      | cons x pre => simp at h
    | true =>
      rw [exec_cons_of_ok ok hok] at h ⊢
      cases pre with
      | nil => simp at h
      | cons x pre =>
        rw [List.cons_append, List.cons.injEq] at h
        obtain ⟨rfl, h⟩ := h
        obtain ⟨hpost, hend, hall⟩ := ih h
        refine ⟨hpost, hend, fun y hy => ?_⟩
        rcases List.mem_cons.mp hy with rfl | hy
        · rfl
        · exact hall y hy

/-- When an action is carried out, all before it in the script have succeeded, and what
comes after it comes after it in the script. -/
theorem exec_eq_append {n : Nat} {as : List α} {pre post : List (α × Bool)} {x : α × Bool}
    (h : (exec ok n as).1 = pre ++ x :: post) :
    ∃ before after, as = before ++ x.1 :: after ∧ (pre = before.map fun a => (a, true)) ∧
      post.map Prod.fst <+: after := by
  induction as generalizing n pre with
  | nil => simp at h
  | cons b rest ih =>
    cases hok : ok n with
    | false =>
      rw [exec_cons_of_not_ok ok hok] at h
      cases pre with
      | nil =>
        cases h
        -- it failed: nothing else was executed
        exact ⟨[], rest, rfl, rfl, List.nil_prefix⟩
      | cons y pre => simp at h
    | true =>
      rw [exec_cons_of_ok ok hok] at h
      cases pre with
      | nil =>
        cases h
        exact ⟨[], rest, rfl, rfl, map_fst_exec ok (n + 1) rest⟩
      | cons y pre =>
        rw [List.cons_append, List.cons.injEq] at h
        -- the first one succeeded and belongs to what was before
        obtain ⟨rfl, h⟩ := h
        obtain ⟨before, after, hrest, hpre, hpost⟩ := ih h
        refine ⟨b :: before, after, ?_, ?_, hpost⟩
        · rw [hrest, List.cons_append]
        · rw [hpre]
          rfl

end Script
