import SqliteMc.Lib.Text

/-!
# Builders and blocks

What the driver's builders have in common. A configuration block (`Builder.() -> Unit`)
performs calls on the builder it is handed and may let an exception escape. A call that
throws leaves the builder as it was, and the block may catch the exception and go on, so
a block is the list of the calls it made and the exception, if any, it ended with.

The six cipher builders are instances of `CipherDsl`: a `Builder(other)` constructor, the
setters and presets as calls, `build`, and the named starting points its `Options` class
offers. `CipherDsl.Built` are the configurations user code can get hold of: the class
constructors are private, so every configuration comes out of a builder.
-/

namespace SqliteMc

/-- The exceptions of the modelled code, with their message and cause. -/
inductive Throwable where
  | illegalArgument (message : Text)
  | illegalState (message : Text) (cause : Option Throwable)
  | sql (message : Text) (cause : Option Throwable)
  | other (message : Text)

namespace Throwable

def isIllegalState : Throwable → Bool
  | illegalState _ _ => true
  | _ => false

def isIllegalArgument : Throwable → Bool
  | illegalArgument _ => true
  | _ => false

end Throwable

/-- `require(p) { message }`. -/
def require (p : Prop) [Decidable p] (message : String) : Except Throwable Unit :=
  if p then .ok () else .error (.illegalArgument (Text.lit message))

/-- A check passes when its condition holds. -/
theorem require_eq_ok {p : Prop} [Decidable p] {message : String} {u : Unit} :
    require p message = .ok u ↔ p := by
  unfold require
  by_cases h : p <;> simp [h]

/-- A sequence of steps succeeds when each does. -/
theorem bind_eq_ok {ε α β : Type} {x : Except ε α} {f : α → Except ε β} {b : β} :
    (x >>= f) = .ok b ↔ ∃ a, x = .ok a ∧ f a = .ok b := by
  cases x with
  | error e => simp [bind, Except.bind]
  | ok a => simp [bind, Except.bind]

/-- A setter that checks its argument: the check has passed, and the field is written. -/
theorem checked_eq_ok {ε β : Type} {check : Except ε Unit} {b b' : β} :
    (check >>= fun _ => .ok b) = .ok b' ↔ check = .ok () ∧ b = b' := by
  cases check with
  | error e => simp [bind, Except.bind]
  | ok u => simp [bind, Except.bind]

/-- The step succeeds or refuses its argument. -/
def OnlyIllegalArgument {α : Type} (x : Except Throwable α) : Prop :=
  ∀ t, x = .error t → ∃ message, t = .illegalArgument message

/-- A result is no error. -/
theorem onlyIllegalArgument_ok {α : Type} (a : α) :
    OnlyIllegalArgument (.ok a : Except Throwable α) := fun _ h => nomatch h

/-- A check throws `IllegalArgumentException` and nothing else. -/
theorem onlyIllegalArgument_require (p : Prop) [Decidable p] (message : String) :
    OnlyIllegalArgument (require p message) := by
  intro t h
  unfold require at h
  split_ifs at h
  cases h
  exact ⟨_, rfl⟩

/-- Steps that throw nothing else can follow each other. -/
theorem OnlyIllegalArgument.bind {α β : Type} {x : Except Throwable α}
    {f : α → Except Throwable β} (hx : OnlyIllegalArgument x)
    (hf : ∀ a, OnlyIllegalArgument (f a)) : OnlyIllegalArgument (x >>= f) := by
  intro t h
  cases x with
  | error e =>
    cases h
    exact hx _ rfl
  | ok a => exact hf a t h

/-- A configuration block: the calls it makes and the exception that escapes it. -/
structure Block (α : Type) where
  calls : List α
  escapes : Option Throwable := none

/-- The calls made one after the other; one that throws changes nothing. -/
def runCalls {α β : Type} (call : β → α → Except Throwable β) (b : β) (calls : List α) : β :=
  calls.foldl (fun b c => (call b c).toOption.getD b) b

/-- What each call of a sequence preserves, the sequence preserves. -/
theorem runCalls_invariant_of_mem {α β : Type} {call : β → α → Except Throwable β} {I : β → Prop}
    {calls : List α} (hcall : ∀ c ∈ calls, ∀ b b', I b → call b c = .ok b' → I b') {b : β}
    (hb : I b) : I (runCalls call b calls) := by
  refine List.foldlRecOn calls _ hb ?_
  intro b hb c hc
  cases h : call b c with
  | error e => exact hb
  | ok b' => exact hcall c hc b b' hb h

/-- What every call preserves, a sequence of calls preserves. -/
theorem runCalls_invariant {α β : Type} {call : β → α → Except Throwable β} {I : β → Prop}
    (hcall : ∀ b c b', I b → call b c = .ok b' → I b') {b : β} (hb : I b) (calls : List α) :
    I (runCalls call b calls) :=
  runCalls_invariant_of_mem (fun c _ b b' => hcall b c b') hb

/-- None of the calls, where it succeeds, sets the field. -/
def NoneSets {α β : Type} (call : β → α → Except Throwable β) (sets : α → Prop) (calls : List α) :
    Prop :=
  ∀ c ∈ calls, ∀ b b', call b c = .ok b' → ¬ sets c

/-- What none of the calls sets is kept. -/
theorem NoneSets.frame {α β γ : Type} {call : β → α → Except Throwable β} {sets : α → Prop}
    {calls : List α} (h : NoneSets call sets calls) {f : β → γ}
    (hcall : ∀ b c b', call b c = .ok b' → ¬ sets c → f b' = f b) (b : β) :
    f (runCalls call b calls) = f b :=
  runCalls_invariant_of_mem (I := fun b' => f b' = f b)
    (fun c hc b' b'' hb' hok => (hcall b' c b'' hok (h c hc b' b'' hok)).trans hb') rfl

/-- A cipher configuration's builder: `Builder(other)`, its setters and presets, `build`,
and the starting points of the `Options` class. -/
structure CipherDsl where
  Config : Type
  Builder : Type
  Call : Type
  /-- The functions of the `Options` class. -/
  Start : Type
  new : Option Config → Builder
  call : Builder → Call → Except Throwable Builder
  build : Builder → Config
  start : Start → Config

namespace CipherDsl

/-- `Builder(other).apply(block).build()`. -/
def customise (D : CipherDsl) (other : D.Config) (block : Block D.Call) :
    Except Throwable D.Config :=
  match block.escapes with
  | none => .ok (D.build (runCalls D.call (D.new (some other)) block.calls))
  | some t => .error t

/-- The configurations that builders produce. -/
inductive Built (D : CipherDsl) : D.Config → Prop
  | fresh (calls : List D.Call) : Built D (D.build (runCalls D.call (D.new none) calls))
  | inherit {other : D.Config} (h : Built D other) (calls : List D.Call) :
      Built D (D.build (runCalls D.call (D.new (some other)) calls))

/-- A configuration that was customised from a built one is built. -/
theorem built_of_customise {D : CipherDsl} {other c : D.Config} {block : Block D.Call}
    (h : D.Built other) (hc : D.customise other block = .ok c) : D.Built c := by
  unfold customise at hc
  cases he : block.escapes with
  | none =>
    rw [he] at hc
    cases hc
    exact .inherit h block.calls
  | some t =>
    rw [he] at hc
    cases hc

/-- What the constructor establishes, each call preserves and `build` hands on holds of
every built configuration. -/
theorem Built.induct {D : CipherDsl} {I : D.Builder → Prop} {P : D.Config → Prop}
    (hnone : I (D.new none)) (hsome : ∀ c, P c → I (D.new (some c)))
    (hcall : ∀ b c b', I b → D.call b c = .ok b' → I b')
    (hbuild : ∀ b, I b → P (D.build b)) {c : D.Config} (h : D.Built c) : P c := by
  induction h with
  | fresh calls => exact hbuild _ (runCalls_invariant hcall hnone calls)
  | inherit _ calls ih => exact hbuild _ (runCalls_invariant hcall (hsome _ ih) calls)

end CipherDsl

end SqliteMc
