import StakingGateway.Gateway.Basic
import StakingGateway.Proofs.Outcome

/-!
# Runs of stateful actions

A gateway answers in whatever monad its node answers in.  When all that an action of this monad does
is change a state, such as that of the node and of the connection to it, a run is told by the states
before and after.  An answer is then given at the end of a run in which no step fails or is cut
short.
-/

namespace StakingGateway

/-- A monad whose actions change a state and do nothing else.  An action that is cut short gives no
value, and what would come after it is not done. -/
class Stateful (m : Type → Type) [Monad m] (σ : outParam Type) where
  act {α : Type} : m α → σ → Option α × σ
  act_pure {α : Type} (a : α) (s : σ) : act (pure a : m α) s = (some a, s)
  act_map {α β : Type} (f : α → β) (x : m α) (s : σ) :
    act (f <$> x) s = (act x s).map (Option.map f) id
  act_bind_of_some {α β : Type} {x : m α} {a : α} {s s' : σ} (h : act x s = (some a, s'))
    (f : α → m β) : act (x >>= f) s = act (f a) s'
  act_bind_of_none {α β : Type} {x : m α} {s s' : σ} (h : act x s = (none, s')) (f : α → m β) :
    act (x >>= f) s = (none, s')

namespace Stateful

instance {σ : Type} : Stateful (StateM σ) σ where
  act x s := (some (x s).1, (x s).2)
  act_pure _ _ := rfl
  act_map _ _ _ := rfl
  act_bind_of_some h _ := by
    cases h
    rfl
  act_bind_of_none h := by cases h

/-- The states of an action that keeps one of its own. -/
instance {ρ σ : Type} : Stateful (StateT ρ (StateM σ)) (ρ × σ) where
  act x s := (some (x s.1 s.2).1.1, (x s.1 s.2).1.2, (x s.1 s.2).2)
  act_pure _ _ := rfl
  act_map _ _ _ := rfl
  act_bind_of_some h _ := by
    cases h
    rfl
  act_bind_of_none h := by cases h

section

variable {m : Type → Type} [Monad m] {σ : Type} [Stateful m σ] {α β : Type} {x : OptionT m α}
  {s s' : σ}

theorem act_run_bind_of_some {a : α} (h : act x.run s = (some (some a), s'))
    (f : α → OptionT m β) : act (x >>= f).run s = act (f a).run s' :=
  act_bind_of_some h _

theorem act_run_bind_of_none (h : act x.run s = (some none, s')) (f : α → OptionT m β) :
    act (x >>= f).run s = (some none, s') :=
  (act_bind_of_some h _).trans (act_pure _ _)

end

/-- An action that may be cut short leaves the state as it is by then. -/
instance {m : Type → Type} [Monad m] {σ : Type} [Stateful m σ] : Stateful (OptionT m) σ where
  act x s := (act x.run s).map Option.join id
  act_pure a s := by
    change (act (pure (some a) : m _) s).map _ _ = _
    rw [act_pure]
    rfl
  act_map f x s := by
    change (act (x >>= fun a => pure (f a)).run s).map _ _ = _
    rcases h : act x.run s with ⟨_ | _ | a, s'⟩
    · rw [show (act (x >>= _).run s) = _ from act_bind_of_none h _]
      rfl
    · rw [act_run_bind_of_none h]
      rfl
    · rw [act_run_bind_of_some h]
      change (act (pure (some (f a)) : m _) s').map _ _ = _
      rw [act_pure]
      rfl
  act_bind_of_some {_ _ x a s s'} h f := by
    rcases hx : act x.run s with ⟨_ | _ | b, t⟩ <;> rw [hx] at h <;> cases h
    rw [act_run_bind_of_some hx]
    rfl
  act_bind_of_none {_ _ x s s'} h f := by
    rcases hx : act x.run s with ⟨_ | _ | b, t⟩ <;> rw [hx] at h <;> cases h
    · rw [show (act (x >>= f).run s) = _ from act_bind_of_none hx _]
      rfl
    · rw [act_run_bind_of_none hx]
      rfl

end Stateful

section

variable {m : Type → Type} [Monad m] {σ : Type} [Stateful m σ] {ε α : Type}

/-- An action gives a value, and leaves another state behind. -/
def Succeeds (x : ExceptT ε m α) (s : σ) (a : α) (s' : σ) : Prop :=
  Stateful.act x.run s = (some (.ok a), s')

def Fails (x : ExceptT ε m α) (s : σ) (reason : ε) (s' : σ) : Prop :=
  Stateful.act x.run s = (some (.error reason), s')

def Aborts (x : ExceptT ε m α) (s s' : σ) : Prop :=
  Stateful.act x.run s = (none, s')

end

section

variable {m : Type → Type} [Monad m] {σ : Type} [Stateful m σ] {ε ε' α β : Type} {s s' : σ}

theorem succeeds_pure_iff {a b : α} :
    Succeeds (pure a : ExceptT ε m α) s b s' ↔ a = b ∧ s = s' := by
  rw [Succeeds]
  change Stateful.act (pure (Except.ok a)) s = _ ↔ _
  rw [Stateful.act_pure, Prod.mk.injEq, Option.some.injEq, Except.ok.injEq]

theorem not_succeeds_throw {reason : ε} {a : α} :
    ¬ Succeeds (throw reason : ExceptT ε m α) s a s' := by
  rw [Succeeds]
  change Stateful.act (pure (Except.error reason)) s ≠ _
  rw [Stateful.act_pure]
  nofun

theorem act_run_bind_of_ok {x : ExceptT ε m α} {a : α} (h : Succeeds x s a s')
    (f : α → ExceptT ε m β) : Stateful.act (x >>= f).run s = Stateful.act (f a).run s' :=
  Stateful.act_bind_of_some h _

theorem act_run_bind_of_error {x : ExceptT ε m α} {reason : ε} (h : Fails x s reason s')
    (f : α → ExceptT ε m β) : Stateful.act (x >>= f).run s = (some (.error reason), s') :=
  (Stateful.act_bind_of_some h _).trans (Stateful.act_pure ..)

theorem act_run_bind_of_abort {x : ExceptT ε m α} (h : Aborts x s s')
    (f : α → ExceptT ε m β) : Stateful.act (x >>= f).run s = (none, s') :=
  Stateful.act_bind_of_none h _

theorem succeeds_bind_iff {x : ExceptT ε m α} {f : α → ExceptT ε m β} {b : β} :
    Succeeds (x >>= f) s b s' ↔ ∃ a t, Succeeds x s a t ∧ Succeeds (f a) t b s' := by
  constructor
  · intro h
    rcases hx : Stateful.act x.run s with ⟨_ | reason | a, t⟩
    · cases (act_run_bind_of_abort hx f).symm.trans h
    · cases (act_run_bind_of_error hx f).symm.trans h
    · exact ⟨a, t, hx, (act_run_bind_of_ok hx f).symm.trans h⟩
  · rintro ⟨a, t, hx, h⟩
    exact (act_run_bind_of_ok hx f).trans h

/-- What comes after another action is cut short if the first one is, or the one after it. -/
theorem aborts_bind_iff {x : ExceptT ε m α} {f : α → ExceptT ε m β} :
    Aborts (x >>= f) s s' ↔ Aborts x s s' ∨ ∃ a t, Succeeds x s a t ∧ Aborts (f a) t s' := by
  constructor
  · intro h
    rcases hx : Stateful.act x.run s with ⟨_ | reason | a, t⟩
    · obtain rfl : t = s' := congrArg Prod.snd ((act_run_bind_of_abort hx f).symm.trans h)
      exact .inl hx
    · cases (act_run_bind_of_error hx f).symm.trans h
    · exact .inr ⟨a, t, hx, (act_run_bind_of_ok hx f).symm.trans h⟩
  · rintro (hx | ⟨a, t, hx, h⟩)
    · exact act_run_bind_of_abort hx f
    · exact (act_run_bind_of_ok hx f).trans h

def Ends (x : ExceptT ε m α) : Prop :=
  ∀ s s', ¬ Aborts x s s'

theorem ends_mk_pure (outcome : Except ε α) : Ends (ExceptT.mk (pure outcome) : ExceptT ε m α) := by
  intro s s'
  rw [Aborts, ExceptT.run_mk, Stateful.act_pure]
  nofun

theorem ends_pure (a : α) : Ends (pure a : ExceptT ε m α) :=
  ends_mk_pure (.ok a)

theorem ends_throw (reason : ε) : Ends (throw reason : ExceptT ε m α) :=
  ends_mk_pure (.error reason)

theorem Ends.bind {x : ExceptT ε m α} {f : α → ExceptT ε m β} (hx : Ends x)
    (hf : ∀ a, Ends (f a)) : Ends (x >>= f) := by
  intro s s' h
  rcases aborts_bind_iff.mp h with h | ⟨a, t, -, h⟩
  · exact hx s s' h
  · exact hf a t s' h

/-- Every run of the action keeps a property of the state, however it ends. -/
def Keeps (P : σ → Prop) (x : ExceptT ε m α) : Prop :=
  ∀ s, P s → P (Stateful.act x.run s).2

theorem keeps_pure (P : σ → Prop) (a : α) : Keeps P (pure a : ExceptT ε m α) := by
  intro s hs
  change P (Stateful.act (pure (Except.ok a)) s).2
  rwa [Stateful.act_pure]

theorem Keeps.bind {P : σ → Prop} {x : ExceptT ε m α} {f : α → ExceptT ε m β} (hx : Keeps P x)
    (hf : ∀ a, Keeps P (f a)) : Keeps P (x >>= f) := by
  intro s hs
  have hnext := hx s hs
  rcases hrun : Stateful.act x.run s with ⟨_ | reason | a, t⟩
  · rw [hrun] at hnext
    rwa [act_run_bind_of_abort hrun]
  · rw [hrun] at hnext
    rwa [act_run_bind_of_error hrun]
  · rw [hrun] at hnext
    rw [act_run_bind_of_ok hrun]
    exact hf a t hnext

theorem act_lift_snd (x : m α) (s : σ) :
    (Stateful.act (liftM x : ExceptT ε m α).run s).2 = (Stateful.act x s).2 := by
  change (Stateful.act (Except.ok <$> x) s).2 = _
  rw [Stateful.act_map]
  rfl

theorem aborts_lift_iff {x : m α} :
    Aborts (liftM x : ExceptT ε m α) s s' ↔ Stateful.act x s = (none, s') := by
  rw [Aborts]
  change Stateful.act (Except.ok <$> x) s = _ ↔ _
  rw [Stateful.act_map]
  simp [Prod.ext_iff]

theorem succeeds_lift_iff {x : m α} {a : α} :
    Succeeds (liftM x : ExceptT ε m α) s a s' ↔ Stateful.act x s = (some a, s') := by
  rw [Succeeds]
  change Stateful.act (Except.ok <$> x) s = _ ↔ _
  rw [Stateful.act_map]
  simp [Prod.ext_iff]

namespace Handler

theorem succeeds_of_iff {answer : Except Api.Failure α} {a : α} :
    Succeeds (Handler.of answer : Handler m α) s a s' ↔ answer = .ok a ∧ s = s' := by
  rw [Succeeds]
  change Stateful.act (pure answer) s = _ ↔ _
  rw [Stateful.act_pure, Prod.mk.injEq, Option.some.injEq]

theorem succeeds_ask_iff {kind : Api.ErrorKind} {question : ExceptT NodeError m α} {a : α} :
    Succeeds (Handler.ask kind question) s a s' ↔ Succeeds question s a s' := by
  rw [Succeeds, Succeeds]
  change Stateful.act (Except.mapError _ <$> question.run) s = _ ↔ _
  rw [Stateful.act_map]
  simp [Prod.ext_iff, mapError_eq_ok_iff]

theorem ends_of (answer : Except Api.Failure α) : Ends (Handler.of answer : Handler m α) :=
  ends_mk_pure answer

theorem ends_ask {kind : Api.ErrorKind} {question : ExceptT NodeError m α} (h : Ends question) :
    Ends (Handler.ask kind question) := by
  intro s s' hask
  refine h s s' ?_
  rw [Aborts] at hask ⊢
  change Stateful.act (Except.mapError _ <$> question.run) s = _ at hask
  rw [Stateful.act_map] at hask
  simpa [Prod.ext_iff] using hask

end Handler

theorem Gateway.succeeds_chainId {gateway : Gateway m} {network : Option Api.NetworkIdentifier}
    {chainId : String} (h : Succeeds (gateway.checkNetwork network) s chainId s') :
    Succeeds gateway.chainId s chainId s' := by
  cases network with
  | none => exact (not_succeeds_throw h).elim
  | some network =>
      obtain ⟨_, t, hof, h⟩ := succeeds_bind_iff.mp h
      obtain ⟨_, rfl⟩ := Handler.succeeds_of_iff.mp hof
      obtain ⟨found, t, hfound, h⟩ := succeeds_bind_iff.mp h
      split at h
      next =>
        obtain ⟨_, _, hthrow, _⟩ := succeeds_bind_iff.mp h
        exact (not_succeeds_throw hthrow).elim
      next =>
        obtain ⟨rfl, rfl⟩ := succeeds_pure_iff.mp h
        exact hfound

end

end StakingGateway
