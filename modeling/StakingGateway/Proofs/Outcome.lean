import Mathlib

/-!
# Outcomes of steps in a row

Steps in a row succeed if every step does.  The lemmas take a success apart into the successes of
its steps, and put it together again.
-/

namespace StakingGateway

variable {ε ε' α β : Type}

theorem bind_eq_ok_iff {x : Except ε α} {f : α → Except ε β} {b : β} :
    x >>= f = .ok b ↔ ∃ a, x = .ok a ∧ f a = .ok b := by
  cases x with
  | error reason => simp [bind, Except.bind]
  | ok a => simp [bind, Except.bind]

theorem map_eq_ok_iff {x : Except ε α} {f : α → β} {b : β} :
    x.map f = .ok b ↔ ∃ a, x = .ok a ∧ f a = b := by
  cases x with
  | error reason => simp [Except.map]
  | ok a => simp [Except.map]

theorem mapError_eq_ok_iff {x : Except ε α} {f : ε → ε'} {a : α} :
    x.mapError f = .ok a ↔ x = .ok a := by
  cases x with
  | error reason => simp [Except.mapError]
  | ok b => simp [Except.mapError]

theorem throw_eq_ok_iff {reason : ε} {a : α} : (throw reason : Except ε α) = .ok a ↔ False :=
  ⟨nofun, nofun⟩

theorem throw_bind_ne_ok {reason : ε} {f : α → Except ε β} {b : β} :
    (throw reason : Except ε α) >>= f ≠ .ok b :=
  nofun

theorem pure_eq_ok_iff {a b : α} : (pure a : Except ε α) = .ok b ↔ a = b :=
  ⟨Except.ok.inj, congrArg Except.ok⟩

theorem mapM_map_of_forall {write : α → β} {read : β → Option α}
    (h : ∀ a, read (write a) = some a) (as : List α) : (as.map write).mapM read = some as := by
  induction as with
  | nil => rfl
  | cons a as ih => simp [h, ih]

end StakingGateway
