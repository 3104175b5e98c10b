import StakingGateway.Proofs.Cbor.Record
import StakingGateway.Proofs.Quantity

/-!
# Bytes of quantities

Zero bytes in front of a byte string do not change the number that it stands for,
`BigEndian.toNat_dropWhile`, and without them it is the shortest byte string of that number,
`BigEndian.ofNat_toNat`.  So every quantity has one byte string that does not begin with zero, and
that is the one that is written; `bytes_canonical` is the main statement.
-/

namespace StakingGateway

namespace Positional

theorem value_eq_ofDigits (base : Nat) (ds : List Nat) :
    value base ds = Nat.ofDigits base ds.reverse := by
  induction ds using List.reverseRecOn with
  | nil => rfl
  | append_singleton ds d ih =>
      rw [value_append_singleton, ih, List.reverse_append, List.reverse_singleton,
        List.singleton_append, Nat.ofDigits_cons, Nat.mul_comm, Nat.add_comm]

end Positional

namespace BigEndian

variable {bytes : List UInt8}

theorem toNat_eq_ofDigits (bytes : List UInt8) :
    toNat bytes = Nat.ofDigits 256 (bytes.map UInt8.toNat).reverse :=
  Positional.value_eq_ofDigits 256 _

theorem toNat_dropWhile (bytes : List UInt8) : toNat (bytes.dropWhile (· = 0)) = toNat bytes := by
  induction bytes with
  | nil => rfl
  | cons byte rest ih =>
      by_cases hzero : byte = 0
      · have hrest : toNat (0 :: rest) = toNat rest := rfl
        rw [hzero, List.dropWhile_cons_of_pos (by simp), hrest, ih]
      · rw [List.dropWhile_cons_of_neg (by simpa using hzero)]

theorem head?_dropWhile_ne_zero (bytes : List UInt8) :
    (bytes.dropWhile (· = 0)).head? ≠ some 0 := by
  intro hhead
  have h := List.head?_dropWhile_not (fun byte : UInt8 => decide (byte = 0)) bytes
  rw [hhead] at h
  simp at h

/-- A byte string that does not begin with zero stands for a number that needs all its places. -/
theorem pow_length_le (hnil : bytes ≠ []) (hhead : bytes.head? ≠ some 0) :
    256 ^ bytes.length ≤ 256 * toNat bytes := by
  have hdigits : (bytes.map UInt8.toNat).reverse ≠ [] := by simpa using hnil
  have hlast : (bytes.map UInt8.toNat).reverse.getLast hdigits ≠ 0 := by
    cases bytes with
    | nil => exact absurd rfl hnil
    | cons byte rest =>
        rw [List.getLast_reverse, List.head_map, List.head_cons]
        intro hzero
        exact hhead (congrArg some (UInt8.toNat_inj.mp hzero))
  have h := Nat.pow_length_le_mul_ofDigits (b := 254) hdigits hlast
  rwa [List.length_reverse, List.length_map, ← toNat_eq_ofDigits] at h

theorem byteCount_toNat (hhead : bytes.head? ≠ some 0) :
    byteCount (toNat bytes) = bytes.length := by
  cases bytes with
  | nil => rfl
  | cons byte rest =>
      have hpow (k : Nat) : 256 ^ k = 2 ^ (8 * k) := by rw [Nat.pow_mul]
      have hlow : 2 ^ (8 * rest.length) ≤ toNat (byte :: rest) := by
        have h := pow_length_le (List.cons_ne_nil byte rest) hhead
        rw [List.length_cons, Nat.pow_succ'] at h
        rw [← hpow]
        exact Nat.le_of_mul_le_mul_left h (by decide)
      have hhigh : toNat (byte :: rest) < 2 ^ (8 * (rest.length + 1)) := by
        rw [← hpow]
        exact toNat_lt (byte :: rest)
      have hne : toNat (byte :: rest) ≠ 0 :=
        Nat.ne_of_gt (Nat.lt_of_lt_of_le (Nat.two_pow_pos _) hlow)
      have hle := (Nat.le_log2 hne).mpr hlow
      have hlt := (Nat.log2_lt hne).mpr hhigh
      rw [byteCount, if_neg hne, List.length_cons]
      omega

/-- The shortest byte string of a number is what is left of any without the zeros in front. -/
theorem ofNat_toNat (bytes : List UInt8) : ofNat (toNat bytes) = bytes.dropWhile (· = 0) := by
  rw [← toNat_dropWhile, ofNat, byteCount_toNat (head?_dropWhile_ne_zero bytes),
    bytesOfLength_toNat]

theorem head?_ofNat_ne_zero (n : Nat) : (ofNat n).head? ≠ some 0 := by
  rw [← toNat_ofNat n, ofNat_toNat]
  exact head?_dropWhile_ne_zero (ofNat n)

theorem ofNat_eq_nil_iff {n : Nat} : ofNat n = [] ↔ n = 0 := by
  constructor
  · intro h
    rw [← toNat_ofNat n, h]
    rfl
  · rintro rfl
    rfl

theorem toNat_eq_toNat_iff {bytes' : List UInt8} :
    toNat bytes = toNat bytes' ↔ bytes.dropWhile (· = 0) = bytes'.dropWhile (· = 0) := by
  constructor
  · intro h
    rw [← ofNat_toNat, h, ofNat_toNat]
  · intro h
    rw [← toNat_dropWhile bytes, h, toNat_dropWhile]

end BigEndian

namespace Quantity

theorem decodeAs_encode (q : Quantity) : Cbor.decodeAs ofItem? q.toItem.encode = .ok q :=
  Cbor.decodeAs_encode (Cbor.Item.plain_bytes q.bytes) (by decide) q.ofItem?_toItem

/-- A quantity is written as the one byte string of its number that does not begin with zero, which
is empty for zero, and reads back from it and from its item.  Byte strings are read in base 256, so
two of them stand for the same quantity if they agree behind the zeros in front. -/
theorem bytes_canonical (q : Quantity) (a b : List UInt8) :
    (ofBytes q.bytes = q ∧ q.bytes.head? ≠ some 0 ∧ (q.bytes = [] ↔ q = zero)) ∧
    ((ofBytes a).units = Nat.ofDigits 256 (a.map UInt8.toNat).reverse ∧
      (ofBytes a).bytes = a.dropWhile (· = 0)) ∧
    (ofBytes a = ofBytes b ↔ a.dropWhile (· = 0) = b.dropWhile (· = 0)) ∧
    Cbor.decodeAs ofItem? q.toItem.encode = .ok q := by
  have hread : ofBytes q.bytes = q := congrArg mk (BigEndian.toNat_ofNat q.units)
  have hzero : q.bytes = [] ↔ q = zero := by
    rw [bytes, BigEndian.ofNat_eq_nil_iff, zero]
    exact ⟨congrArg mk, congrArg units⟩
  have hsame : ofBytes a = ofBytes b ↔ a.dropWhile (· = 0) = b.dropWhile (· = 0) := by
    rw [← BigEndian.toNat_eq_toNat_iff]
    exact ⟨congrArg units, congrArg mk⟩
  exact ⟨⟨hread, BigEndian.head?_ofNat_ne_zero q.units, hzero⟩,
    ⟨BigEndian.toNat_eq_ofDigits a, BigEndian.ofNat_toNat a⟩, hsame, q.decodeAs_encode⟩

end Quantity

end StakingGateway
