/-!
# Positional notation

Numbers as digit lists, the most significant digit first.  `value` reads a digit list in a base
and `digits` writes the lowest places of a number; on as many places as a list has, the two undo
each other.  Byte strings are the digit lists in base 256.
-/

namespace StakingGateway.Positional

/-- The number that the digits stand for in the base. -/
def value (base : Nat) (digits : List Nat) : Nat :=
  digits.foldl (fun n d => n * base + d) 0

/-- The lowest `places` digits of a number in the base. -/
def digits (base : Nat) : Nat → Nat → List Nat
  | 0, _ => []
  | places + 1, n => digits base places (n / base) ++ [n % base]

theorem value_append_singleton (base : Nat) (ds : List Nat) (d : Nat) :
    value base (ds ++ [d]) = value base ds * base + d := by
  simp [value]

theorem length_digits (base places n : Nat) : (digits base places n).length = places := by
  induction places generalizing n with
  | zero => rfl
  | succ places ih => simp [digits, ih]

theorem lt_of_mem_digits {base places n d : Nat} (hbase : 0 < base)
    (h : d ∈ digits base places n) : d < base := by
  induction places generalizing n with
  | zero => simp [digits] at h
  | succ places ih =>
    rcases List.mem_append.mp h with h | h
    · exact ih h
    · rw [List.mem_singleton.mp h]
      exact Nat.mod_lt _ hbase

/-- Digits read back as the number, up to the places that were written. -/
theorem value_digits (base places n : Nat) :
    value base (digits base places n) = n % base.pow places := by
  induction places generalizing n with
  | zero => simp [digits, value, Nat.mod_one]
  | succ places ih =>
    rw [digits, value_append_singleton, ih, Nat.pow_eq, Nat.pow_eq, Nat.pow_succ,
      Nat.mul_comm (base ^ places), Nat.mod_mul, Nat.mul_comm, Nat.add_comm]

theorem digits_value {base : Nat} {ds : List Nat} (h : ∀ d ∈ ds, d < base) :
    digits base ds.length (value base ds) = ds := by
  have general : ∀ rev : List Nat, (∀ d ∈ rev, d < base) →
      digits base rev.length (value base rev.reverse) = rev.reverse := by
    intro rev
    induction rev with
    | nil => intro _; rfl
    | cons d rest ih =>
      intro h
      have hd : d < base := h d (by simp)
      have hpos : 0 < base := Nat.lt_of_le_of_lt (Nat.zero_le d) hd
      rw [List.reverse_cons, value_append_singleton, List.length_cons, digits,
        Nat.mul_comm, Nat.mul_add_div hpos, Nat.div_eq_of_lt hd, Nat.add_zero,
        Nat.mul_add_mod, Nat.mod_eq_of_lt hd, ih fun e he => h e (by simp [he])]
  simpa using general ds.reverse (by simpa using h)

end StakingGateway.Positional

namespace StakingGateway.BigEndian

def toNat (bytes : List UInt8) : Nat :=
  Positional.value 256 (bytes.map UInt8.toNat)

def bytesOfLength (length n : Nat) : List UInt8 :=
  (Positional.digits 256 length n).map UInt8.ofNat

/-- How many bytes a number needs: none for zero. -/
def byteCount (n : Nat) : Nat :=
  if n = 0 then 0 else n.log2 / 8 + 1

/-- The bytes of a number without a leading zero byte; zero has none. -/
def ofNat (n : Nat) : List UInt8 :=
  bytesOfLength (byteCount n) n

theorem length_bytesOfLength (length n : Nat) : (bytesOfLength length n).length = length := by
  simp [bytesOfLength, Positional.length_digits]

theorem bytesOfLength_toNat (bytes : List UInt8) :
    bytesOfLength bytes.length (toNat bytes) = bytes := by
  have hdigits : ∀ d ∈ bytes.map UInt8.toNat, d < 256 := by
    intro d hd
    obtain ⟨b, _, rfl⟩ := List.mem_map.mp hd
    exact b.toNat_lt
  have h := Positional.digits_value hdigits
  rw [List.length_map] at h
  rw [bytesOfLength, toNat, h, List.map_map]
  simp [Function.comp_def]

end StakingGateway.BigEndian
