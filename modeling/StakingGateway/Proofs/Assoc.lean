import Mathlib
import StakingGateway.Assoc

/-!
# Arranging keeps the entries

A list in which no key stands twice is arranged without a loss: the arranged list is a permutation
of it (`arrange_perm`), and every list of the same entries is arranged alike
(`arrange_eq_of_perm`).  A look-up in such a list finds the entry of the key, whatever the order
(`find?_eq_some_iff`).
-/

namespace StakingGateway.Assoc

variable {κ β ρ : Type} [LT ρ] [DecidableLT ρ] [LE ρ] [Std.IsLinearOrder ρ]
  [Std.LawfulOrderLT ρ] {rank : κ → ρ}

theorem insert_perm {key : κ} {value : β} {entries : List (κ × β)}
    (h : ∀ e ∈ entries, rank e.1 ≠ rank key) :
    (insert rank key value entries).Perm ((key, value) :: entries) := by
  induction entries with
  | nil => rfl
  | cons head rest ih =>
      obtain ⟨k, v⟩ := head
      obtain ⟨hhead, hrest⟩ := List.forall_mem_cons.mp h
      simp only [insert]
      split
      next => rfl
      next hge =>
        split
        next => exact ((ih hrest).cons (k, v)).trans (.swap ..)
        next hle => exact absurd (Std.le_antisymm (Std.not_lt.mp hge) (Std.not_lt.mp hle)) hhead

/-- Whatever is arranged already stays, and what follows comes in. -/
theorem foldl_insert_perm (start : List (κ × β)) {entries : List (κ × β)}
    (h : ((start ++ entries).map fun e => rank e.1).Nodup) :
    (entries.foldl (fun arranged e => insert rank e.1 e.2 arranged) start).Perm
      (start ++ entries) := by
  induction entries generalizing start with
  | nil => simp
  | cons head rest ih =>
      have hfresh : ∀ e ∈ start, rank e.1 ≠ rank head.1 := by
        intro e he
        rw [List.map_append, List.nodup_append] at h
        exact h.2.2 _ (List.mem_map_of_mem he) _ (List.mem_map_of_mem List.mem_cons_self)
      have hnext : (insert rank head.1 head.2 start ++ rest).Perm (start ++ head :: rest) :=
        ((insert_perm hfresh).append_right rest).trans List.perm_middle.symm
      exact (ih _ ((hnext.map _).nodup_iff.mpr h)).trans hnext

theorem arrange_perm {entries : List (κ × β)} (h : (entries.map fun e => rank e.1).Nodup) :
    (arrange rank entries).Perm entries :=
  foldl_insert_perm [] h

omit [DecidableLT ρ] [Std.IsLinearOrder ρ] in
theorem nodup_of_ascending {entries : List (κ × β)} (h : Ascending rank entries) :
    (entries.map fun e => rank e.1).Nodup := by
  refine List.pairwise_map.mpr (h.imp ?_)
  intro a b hlt heq
  rw [heq] at hlt
  exact Std.lt_irrefl hlt

/-- Entries in key order are what they are arranged to, in whatever order they come. -/
theorem arrange_eq_of_perm {entries others : List (κ × β)} (h : Ascending rank entries)
    (hperm : others.Perm entries) : arrange rank others = entries := by
  have hnodup : (others.map fun e => rank e.1).Nodup :=
    (hperm.map _).nodup_iff.mpr (nodup_of_ascending h)
  exact List.Perm.eq_of_pairwise
    (fun _ _ _ _ hlt hgt => absurd (Std.lt_trans hlt hgt) Std.lt_irrefl)
    (arrange_ascending others) h ((arrange_perm hnodup).trans hperm)

end StakingGateway.Assoc

namespace StakingGateway.Assoc

variable {κ β : Type} [DecidableEq κ]

theorem find?_eq_some_iff {entries : List (κ × β)} {key : κ} {value : β}
    (h : (entries.map (·.1)).Nodup) : find? key entries = some value ↔ (key, value) ∈ entries := by
  induction entries with
  | nil => simp [find?]
  | cons head rest ih =>
      obtain ⟨k, v⟩ := head
      obtain ⟨hfresh, hrest⟩ := List.nodup_cons.mp h
      rw [find?]
      split
      next heq =>
        subst heq
        have habsent : (k, value) ∉ rest := fun hmem => hfresh (List.mem_map.mpr ⟨_, hmem, rfl⟩)
        simp [habsent, eq_comm]
      next hne =>
        simp [ih hrest, Ne.symm hne]

theorem find?_eq_of_perm {entries others : List (κ × β)} (h : (entries.map (·.1)).Nodup)
    (hperm : others.Perm entries) (key : κ) : find? key others = find? key entries := by
  apply Option.ext
  intro value
  rw [find?_eq_some_iff h, find?_eq_some_iff ((hperm.map _).nodup_iff.mpr h), hperm.mem_iff]

end StakingGateway.Assoc
