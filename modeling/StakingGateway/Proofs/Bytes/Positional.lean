import Mathlib
import StakingGateway.Bytes.Positional

/-!
# Values of digit lists

A digit list stands for a number below the power of the base that its length gives.  For bytes
this bounds the number by the length (`BigEndian.toNat_lt`), and the shortest byte string of a
number stands for it (`BigEndian.toNat_ofNat`).
-/

namespace StakingGateway.Positional

theorem value_lt {base : Nat} {ds : List Nat} (h : ∀ d ∈ ds, d < base) :
    value base ds < base ^ ds.length := by
  -- The fold starts from any number `n`, whose digits then stand in front.
  have general : ∀ (ds : List Nat) (n : Nat), (∀ d ∈ ds, d < base) →
      ds.foldl (fun n d => n * base + d) n < (n + 1) * base ^ ds.length := by
    intro ds
    induction ds with
    | nil => intro n _; simp
    | cons d rest ih =>
        intro n h
        have hd : d < base := h d (by simp)
        have hstep : n * base + d + 1 ≤ (n + 1) * base := by
          rw [Nat.add_mul, Nat.one_mul]
          omega
        calc (d :: rest).foldl (fun n d => n * base + d) n
            < (n * base + d + 1) * base ^ rest.length := ih _ fun e he => h e (by simp [he])
          _ ≤ (n + 1) * base * base ^ rest.length := Nat.mul_le_mul_right _ hstep
          _ = (n + 1) * base ^ (d :: rest).length := by
              rw [List.length_cons, Nat.pow_succ', Nat.mul_assoc]
  simpa [value] using general ds 0 h

end StakingGateway.Positional

namespace StakingGateway.BigEndian

theorem toNat_bytesOfLength {length n : Nat} (h : n < 256 ^ length) :
    toNat (bytesOfLength length n) = n := by
  have hdigits : (Positional.digits 256 length n).map (UInt8.toNat ∘ UInt8.ofNat)
      = (Positional.digits 256 length n).map id := by
    apply List.map_congr_left
    intro d hd
    have hlt : d < 256 := Positional.lt_of_mem_digits (by decide) hd
    simp [Nat.mod_eq_of_lt hlt]
  rw [toNat, bytesOfLength, List.map_map, hdigits, List.map_id, Positional.value_digits,
    Nat.pow_eq, Nat.mod_eq_of_lt h]

theorem lt_pow_byteCount (n : Nat) : n < 256 ^ byteCount n := by
  by_cases hzero : n = 0
  · simp [hzero, byteCount]
  · have hlog : n < 2 ^ (n.log2 + 1) := Nat.lt_log2_self
    have hexp : n.log2 + 1 ≤ 8 * (n.log2 / 8 + 1) := by omega
    rw [byteCount, if_neg hzero, show (256 : Nat) = 2 ^ 8 from rfl, ← Nat.pow_mul]
    exact Nat.lt_of_lt_of_le hlog (Nat.pow_le_pow_right (by decide) hexp)

theorem toNat_ofNat (n : Nat) : toNat (ofNat n) = n :=
  toNat_bytesOfLength (lt_pow_byteCount n)

theorem toNat_lt (bytes : List UInt8) : toNat bytes < 256 ^ bytes.length := by
  have h : ∀ d ∈ bytes.map UInt8.toNat, d < 256 := by
    intro d hd
    obtain ⟨b, _, rfl⟩ := List.mem_map.mp hd
    exact b.toNat_lt
  simpa [toNat] using Positional.value_lt h

end StakingGateway.BigEndian
