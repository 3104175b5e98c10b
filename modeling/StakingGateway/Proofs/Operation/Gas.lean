import StakingGateway.Proofs.Double
import StakingGateway.Proofs.Operation.Ledger
import StakingGateway.Proofs.Operation.RoundTrip

/-!
# The gas of a fee pair

The gas of a transaction is the number in the metadata of the fee debit.  `Gas.ToldBy` says which
gas a number tells: the one that is equal to it, and where a double is just above the largest gas,
two to the power 64, the largest.  Other numbers tell none.  `ofOperations_eq_ok_iff_gas` takes the
number out of the list: what is read is what would be read without it, with the gas that is told.
-/

namespace StakingGateway

open Api (Operation)

def Json.Number.value : Json.Number → ℚ
  | .integer value => value
  | .float value => value.value

/-- The gas that a number tells: the same number, or the largest gas for a double just above it. -/
inductive Gas.ToldBy (number : Json.Number) (gas : Gas) : Prop
  | same (h : number.value = gas.toNat)
  | limit {value : Double} (hnumber : number = .float value) (hvalue : value.value = 2 ^ 64)
      (hgas : gas.toNat = 2 ^ 64 - 1)

def Api.Operation.withoutMetadata (op : Operation) : Operation :=
  { op with metadata := none }

def Transaction.withGas (tx : Transaction) (gas : Gas) : Transaction :=
  { tx with fee := tx.fee.map fun fee => { fee with gas } }

/-! ## Numbers -/

namespace Gas

theorem ofNat_eq_iff {n : ℕ} (hn : n < 2 ^ 64) {gas : Gas} :
    UInt64.ofNat n = gas ↔ n = gas.toNat := by
  rw [← UInt64.toNat_inj, UInt64.toNat_ofNat_of_lt' hn]

theorem ofNumber?_integer_iff {value : Int} {gas : Gas} :
    ofNumber? (.integer value) = some gas ↔ value = gas.toNat := by
  constructor
  · intro h
    rw [ofNumber?, Option.ite_none_right_eq_some, Option.some.injEq] at h
    obtain ⟨hrange, hgas⟩ := h
    rw [ofNat_eq_iff (by omega)] at hgas
    omega
  · rintro rfl
    exact ofNumber?_integer gas

/-- A whole number up to two to the power 64 is taken for a gas, the last one for the largest. -/
theorem saturated_eq_iff {whole : ℕ} (hwhole : whole ≤ 2 ^ 64) {gas : Gas} :
    UInt64.ofNat (if whole < 0x10000000000000000 then whole else 0xffffffffffffffff) = gas ↔
      whole = gas.toNat ∨ whole = 2 ^ 64 ∧ gas.toNat = 2 ^ 64 - 1 := by
  have hlt := gas.toNat_lt
  split
  next hless =>
    rw [ofNat_eq_iff hless]
    omega
  next hmore =>
    rw [ofNat_eq_iff (by decide)]
    omega

theorem ofNumber?_float_iff {value : Double} {gas : Gas} :
    ofNumber? (.float value) = some gas ↔
      ∃ n : ℕ, value.value = n ∧ (n = gas.toNat ∨ n = 2 ^ 64 ∧ gas.toNat = 2 ^ 64 - 1) := by
  have hlt := gas.toNat_lt
  simp only [ofNumber?, Option.ite_none_right_eq_some, Option.some.injEq, Bool.and_eq_true,
    Bool.or_eq_true, Bool.not_eq_true', decide_eq_true_eq, Double.value_eq_natCast_iff]
  constructor
  · rintro ⟨⟨⟨hintegral, hsign⟩, hbound⟩, hgas⟩
    exact ⟨_, ⟨hintegral, rfl, hsign⟩, (saturated_eq_iff hbound).mp hgas⟩
  · rintro ⟨_, ⟨hintegral, rfl, hsign⟩, hgas⟩
    have hbound : value.quanta / Double.one ≤ 2 ^ 64 := by omega
    exact ⟨⟨⟨hintegral, hsign⟩, hbound⟩, (saturated_eq_iff hbound).mpr hgas⟩

theorem ofNumber?_eq_some_iff {number : Json.Number} {gas : Gas} :
    ofNumber? number = some gas ↔ ToldBy number gas := by
  cases number with
  | integer value =>
      rw [ofNumber?_integer_iff]
      constructor
      · rintro rfl
        exact .same (Int.cast_natCast gas.toNat)
      · rintro (h | ⟨⟨⟩, -, -⟩)
        exact_mod_cast (show (value : ℚ) = gas.toNat from h)
  | float value =>
      rw [ofNumber?_float_iff]
      constructor
      · rintro ⟨n, hvalue, rfl | ⟨rfl, hgas⟩⟩
        · exact .same hvalue
        · exact .limit rfl (by exact_mod_cast hvalue) hgas
      · rintro (h | ⟨hnumber, hvalue, hgas⟩)
        · exact ⟨gas.toNat, h, .inl rfl⟩
        · cases hnumber
          exact ⟨2 ^ 64, by exact_mod_cast hvalue, .inr ⟨rfl, hgas⟩⟩

theorem ToldBy.value_eq {number : Json.Number} {gas : Gas} (h : ToldBy number gas) :
    ∃ n : ℕ, n ≤ 2 ^ 64 ∧ number.value = n := by
  cases h with
  | same h => exact ⟨gas.toNat, gas.toNat_lt.le, h⟩
  | limit hnumber hvalue _ =>
      refine ⟨2 ^ 64, le_refl _, ?_⟩
      rw [hnumber]
      exact_mod_cast hvalue

theorem not_toldBy {number : Json.Number}
    (h : number.value < 0 ∨ (∀ z : ℤ, number.value ≠ z) ∨ 2 ^ 64 < number.value) (gas : Gas) :
    ¬ToldBy number gas := by
  intro htold
  obtain ⟨n, hle, hn⟩ := htold.value_eq
  rcases h with hnegative | hfraction | hlarge
  · exact absurd hnegative (by simp [hn])
  · exact hfraction n (by exact_mod_cast hn)
  · rw [hn] at hlarge
    exact absurd hle (not_le.mpr (by exact_mod_cast hlarge))

end Gas

namespace Api.Operation

variable {op : Operation} {number : Json.Number}

theorem gas_eq_ok_iff_toldBy (hnumber : op.metadata? feeGasKey = some (.number number))
    {gas : Gas} : op.gas = .ok gas ↔ Gas.ToldBy number gas := by
  rw [← Gas.ofNumber?_eq_some_iff, Operation.gas, hnumber]
  cases hread : Gas.ofNumber? number <;> simp [hread]

theorem gas_eq_error (hnumber : op.metadata? feeGasKey = some (.number number))
    (hnone : ∀ gas, ¬Gas.ToldBy number gas) :
    op.gas = .error (.malformed (.invalidGas (.number number))) := by
  have hread : Gas.ofNumber? number = none :=
    Option.eq_none_iff_forall_ne_some.mpr fun gas h =>
      hnone gas (Gas.ofNumber?_eq_some_iff.mp h)
  simp only [Operation.gas, hnumber, hread]

theorem concerns_withoutMetadata {kind : OperationKind} {address : Address}
    {subAccount : Option String} :
    op.withoutMetadata.Concerns kind address subAccount ↔ op.Concerns kind address subAccount :=
  ⟨fun h => ⟨h.kind_eq, h.isOn, h.subAccount_eq⟩, fun h => ⟨h.kind_eq, h.isOn, h.subAccount_eq⟩⟩

end Api.Operation

/-! ## Fee pairs -/

section

variable {signer : Address} {debit credit : Operation}

theorem paysFee_iff_withoutMetadata {fee : Fee} :
    PaysFee signer fee debit credit ↔
      debit.gas = .ok fee.gas ∧
        PaysFee signer ⟨defaultGas, fee.amount⟩ debit.withoutMetadata credit := by
  constructor
  · intro h
    exact ⟨h.gas_eq, Operation.concerns_withoutMetadata.mpr h.debit_concerns, h.debit_moves, rfl,
      h.credit_subAccount, h.credit_moves⟩
  · rintro ⟨hgas, h⟩
    exact ⟨Operation.concerns_withoutMetadata.mp h.debit_concerns, h.debit_moves, hgas,
      h.credit_subAccount, h.credit_moves⟩

theorem readFee_eq_error {fee : Fee} {reason : OperationsError}
    (h : PaysFee signer fee debit.withoutMetadata credit) (hgas : debit.gas = .error reason) :
    readFee debit credit = .error reason := by
  have hplain : debit.subAccount? = none := h.debit_concerns.subAccount_eq
  have haddress : debit.address "fee transfer from" = .ok signer :=
    (Operation.address_eq_ok_iff _).mpr h.debit_concerns.isOn
  have hamount : debit.quantity true "fee transfer from" = .ok fee.amount :=
    (Operation.quantity_eq_ok_iff _).mpr h.debit_moves
  simp only [readFee, hplain, haddress, hamount, hgas]
  rfl

variable [Suite] {rest : List Operation}

theorem describesAll_cons_cons_iff (hpair : isFeePair debit credit) {fee : Fee}
    {kind : TransactionKind} :
    DescribesAll signer (debit :: credit :: rest) fee kind ↔
      PaysFee signer fee debit credit ∧ Describes signer rest kind := by
  constructor
  · intro h
    cases h with
    | paid _ hfee hbody => exact ⟨hfee, hbody⟩
    | unpaid hfree _ => simp [hasFee, splitFee, hpair] at hfree
  · rintro ⟨hfee, hbody⟩
    exact .paid hpair hfee hbody

/-- The metadata of the debit only tells the gas. -/
theorem ofOperations_eq_ok_iff_gas (hpair : isFeePair debit credit) {tx : Transaction} :
    Transaction.ofOperations (debit :: credit :: rest) = .ok (signer, tx) ↔
      ∃ gas plain, debit.gas = .ok gas ∧
        Transaction.ofOperations (debit.withoutMetadata :: credit :: rest) = .ok (signer, plain) ∧
        tx = plain.withGas gas := by
  have hplain : isFeePair debit.withoutMetadata credit := hpair
  have hindices : checkIndices 0 (debit.withoutMetadata :: credit :: rest)
      = checkIndices 0 (debit :: credit :: rest) := rfl
  simp only [ofOperations_eq_ok_iff, describesAll_cons_cons_iff hpair,
    describesAll_cons_cons_iff hplain, hindices]
  constructor
  · rintro ⟨hrow, fee, kind, ⟨hfee, hbody⟩, rfl⟩
    obtain ⟨hgas, hfee⟩ := paysFee_iff_withoutMetadata.mp hfee
    exact ⟨fee.gas, _, hgas, ⟨hrow, _, kind, ⟨hfee, hbody⟩, rfl⟩, rfl⟩
  · rintro ⟨gas, _, hgas, ⟨hrow, fee, kind, ⟨hfee, hbody⟩, rfl⟩, rfl⟩
    obtain ⟨found, amount⟩ := fee
    obtain rfl : defaultGas = found := Except.ok.inj hfee.gas_eq
    exact ⟨hrow, ⟨gas, amount⟩, kind, ⟨paysFee_iff_withoutMetadata.mpr ⟨hgas, hfee⟩, hbody⟩, rfl⟩

/-- A list that would be read without the metadata of its debit is refused for a gas that cannot be
read. -/
theorem ofOperations_eq_error (hpair : isFeePair debit credit) {plain : Transaction}
    {reason : OperationsError}
    (h : Transaction.ofOperations (debit.withoutMetadata :: credit :: rest) = .ok (signer, plain))
    (hgas : debit.gas = .error reason) :
    Transaction.ofOperations (debit :: credit :: rest) = .error reason := by
  have hplain : isFeePair debit.withoutMetadata credit := hpair
  obtain ⟨hrow, fee, kind, hdescribes, -⟩ := ofOperations_eq_ok_iff.mp h
  have hfee := ((describesAll_cons_cons_iff hplain).mp hdescribes).1
  have hindices : checkIndices 0 (debit :: credit :: rest) = .ok () := hrow
  have hsplit : splitFee (debit :: credit :: rest) = (some (debit, credit), rest) :=
    splitFee_eq_some_iff.mpr ⟨rfl, hpair⟩
  simp only [Transaction.ofOperations, hindices, hsplit, readFee_eq_error hfee hgas]
  rfl

/-- The gas of what is read is told by the number in the debit.  The list is read if it would be
read without the number and the number tells a gas, and a number that is negative, has a fraction
or is too large is refused by itself. -/
theorem gas_toldBy_of_splitFee {ops : List Operation} {number : Json.Number}
    (hsplit : splitFee ops = (some (debit, credit), rest))
    (hnumber : debit.metadata? feeGasKey = some (.number number)) :
    (∀ signer tx, Transaction.ofOperations ops = .ok (signer, tx) ↔
      ∃ gas plain, Gas.ToldBy number gas ∧
        Transaction.ofOperations (debit.withoutMetadata :: credit :: rest) = .ok (signer, plain) ∧
        tx = plain.withGas gas) ∧
    (∀ signer tx, Transaction.ofOperations ops = .ok (signer, tx) →
      ∃ fee, tx.fee = some fee ∧ Gas.ToldBy number fee.gas) ∧
    (number.value < 0 ∨ (∀ z : ℤ, number.value ≠ z) ∨ 2 ^ 64 < number.value →
      (∃ reason, Transaction.ofOperations ops = .error reason) ∧
      ∀ signer plain,
        Transaction.ofOperations (debit.withoutMetadata :: credit :: rest) = .ok (signer, plain) →
        Transaction.ofOperations ops
          = .error (.malformed (.invalidGas (.number number)))) := by
  obtain ⟨rfl, hpair⟩ := splitFee_eq_some_iff.mp hsplit
  have hread : ∀ signer tx, Transaction.ofOperations (debit :: credit :: rest) = .ok (signer, tx) ↔
      ∃ gas plain, Gas.ToldBy number gas ∧
        Transaction.ofOperations (debit.withoutMetadata :: credit :: rest) = .ok (signer, plain) ∧
        tx = plain.withGas gas := by
    intro signer tx
    simp only [ofOperations_eq_ok_iff_gas hpair, Operation.gas_eq_ok_iff_toldBy hnumber]
  refine ⟨hread, ?_, ?_⟩
  · intro signer tx h
    obtain ⟨gas, plain, htold, hplain, rfl⟩ := (hread signer tx).mp h
    obtain ⟨_, fee, kind, _, rfl⟩ := ofOperations_eq_ok_iff.mp hplain
    exact ⟨⟨gas, fee.amount⟩, rfl, htold⟩
  · intro hbad
    have hnone := Gas.not_toldBy hbad
    constructor
    · cases hresult : Transaction.ofOperations (debit :: credit :: rest) with
      | error reason => exact ⟨reason, rfl⟩
      | ok result =>
          obtain ⟨gas, _, htold, _⟩ := (hread result.1 result.2).mp hresult
          exact absurd htold (hnone gas)
    · intro signer plain hplain
      exact ofOperations_eq_error hpair hplain (Operation.gas_eq_error hnumber hnone)

end

def meteredDebit (number : Json.Number) : Operation :=
  (Operation.of 0 "Transfer" none (some (.of "OASIS1QQRSWPC8QURSWPC8QURSWPC8QURSWPC8QUZDFWSE"))
    (some (.of "-007" currency))).withMetadata feeGasKey (.number number)

/-- The fee pair and the burn of `spelledBurn`, with a number for the gas. -/
def meteredBurn (number : Json.Number) : List Operation :=
  meteredDebit number :: spelledBurn.tail

theorem metadata?_meteredDebit (number : Json.Number) :
    (meteredDebit number).metadata? feeGasKey = some (.number number) :=
  metadata?_withMetadata ..

theorem splitFee_meteredBurn (number : Json.Number) :
    ∃ credit rest, meteredBurn number = meteredDebit number :: credit :: rest ∧
      splitFee (meteredBurn number) = (some (meteredDebit number, credit), rest) ∧
      (meteredDebit number).withoutMetadata :: credit :: rest = spelledBurn := by
  refine ⟨_, _, rfl, splitFee_eq_some_iff.mpr ⟨rfl, ?_⟩, rfl⟩
  exact isFeePair_iff.mpr ⟨rfl, rfl, _, rfl, rfl⟩

/-- The double 2000 is read as a gas, and the number -1 is refused. -/
theorem gas_toldBy_of_splitFee_meteredBurn :
    (∃ signer tx fee,
      Transaction.ofOperations (meteredBurn (.float ⟨0x409F400000000000⟩)) = .ok (signer, tx) ∧
      tx.fee = some fee ∧ fee.gas = 2000) ∧
    Transaction.ofOperations (meteredBurn (.integer (-1)))
      = .error (.malformed (.invalidGas (.number (.integer (-1))))) := by
  constructor
  · obtain ⟨credit, rest, -, hsplit, hplain⟩ :=
      splitFee_meteredBurn (.float ⟨0x409F400000000000⟩)
    obtain ⟨hread, -, -⟩ := gas_toldBy_of_splitFee hsplit (metadata?_meteredDebit _)
    have hvalue : (Double.mk 0x409F400000000000).value = (2000 : ℕ) :=
      Double.value_eq_natCast_iff.mpr ⟨by decide +kernel, by decide +kernel, .inl rfl⟩
    rw [hplain] at hread
    have hresult := (hread _ _).mpr ⟨2000, _, .same hvalue, ofOperations_spelledBurn, rfl⟩
    exact ⟨_, _, _, hresult, rfl, rfl⟩
  · obtain ⟨credit, rest, -, hsplit, hplain⟩ := splitFee_meteredBurn (.integer (-1))
    obtain ⟨-, -, hrefused⟩ := gas_toldBy_of_splitFee hsplit (metadata?_meteredDebit _)
    have hnegative : (Json.Number.integer (-1)).value < 0 := by decide +kernel
    rw [hplain] at hrefused
    exact (hrefused (.inl hnegative)).2 _ _ ofOperations_spelledBurn

/-- Two to the power 64 is not a gas, and as a double it is read as the largest one. -/
theorem gas_ne_value_meteredBurn :
    ∃ number debit credit rest signer tx fee,
      splitFee (meteredBurn number) = (some (debit, credit), rest) ∧
      debit.metadata? feeGasKey = some (.number number) ∧
      Transaction.ofOperations (meteredBurn number) = .ok (signer, tx) ∧ tx.fee = some fee ∧
      number = .float ⟨0x43F0000000000000⟩ ∧ number.value = 2 ^ 64 ∧
      fee.gas.toNat = 2 ^ 64 - 1 ∧ number.value ≠ fee.gas.toNat := by
  obtain ⟨credit, rest, heq, hsplit, hplain⟩ := splitFee_meteredBurn (.float ⟨0x43F0000000000000⟩)
  have hpair := (splitFee_eq_some_iff.mp hsplit).2
  have hnumber := metadata?_meteredDebit (.float ⟨0x43F0000000000000⟩)
  have hvalue : (Double.mk 0x43F0000000000000).value = (2 ^ 64 : ℕ) :=
    Double.value_eq_natCast_iff.mpr ⟨by decide +kernel, by decide +kernel, .inl rfl⟩
  have htold : Gas.ToldBy (.float ⟨0x43F0000000000000⟩) 0xffffffffffffffff :=
    .limit rfl (by exact_mod_cast hvalue) rfl
  have hgas := (Operation.gas_eq_ok_iff_toldBy hnumber).mpr htold
  have hread := (ofOperations_eq_ok_iff_gas hpair).mpr
    ⟨_, _, hgas, hplain ▸ ofOperations_spelledBurn, rfl⟩
  refine ⟨_, _, credit, rest, _, _, _, hsplit, hnumber, heq ▸ hread, rfl, rfl, ?_, rfl, ?_⟩
  · exact_mod_cast hvalue
  · have hne : (2 ^ 64 : ℕ) ≠ (0xffffffffffffffff : Gas).toNat := by decide
    exact fun h => hne (by exact_mod_cast hvalue.symm.trans h)

end StakingGateway
