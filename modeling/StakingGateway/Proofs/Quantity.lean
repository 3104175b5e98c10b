import StakingGateway.Operation.Amount
import StakingGateway.Proofs.Bytes.Positional

/-!
# Quantities and the numbers their texts denote

`digitsValue?` and `Amount.units?` say which number a text of digits and the text of an amount
denote.  The readers of quantities are bound to them: a quantity is read from the texts that
denote it, `ofText_eq_ok_iff`, and from the amounts in the currency of the chain that denote it or
its negative, `ofAmount_eq_ok_iff`.  In particular what was written reads back.
-/

namespace StakingGateway

namespace Quantity

def digitsValue? (digits : List Char) : Option Nat :=
  if digits ≠ [] ∧ digits.all Char.isDigit then some (Nat.ofDigitChars 10 digits 0) else none

def signed (q : Quantity) (debit : Bool) : Int :=
  if debit then -(q.units : Int) else q.units

end Quantity

/-- The whole number that the text of an amount denotes: digits, behind a minus sign or not. -/
def Api.Amount.units? (amount : Api.Amount) : Option Int :=
  match amount.value.toList with
  | '-' :: digits => (Quantity.digitsValue? digits).map fun n : Nat => -(n : Int)
  | digits => (Quantity.digitsValue? digits).map fun n : Nat => (n : Int)

def Api.Amount.InCurrency (amount : Api.Amount) : Prop :=
  amount.currency.symbol = StakingGateway.currency.symbol
    ∧ amount.currency.decimals = StakingGateway.currency.decimals

namespace Quantity

theorem signed_true (q : Quantity) : q.signed true = -(q.units : Int) :=
  rfl

theorem signed_false (q : Quantity) : q.signed false = q.units :=
  rfl

theorem ofText_eq_ok_iff {text : String} {q : Quantity} :
    ofText text = .ok q ↔ digitsValue? text.toList = some q.units := by
  have hempty : text.isEmpty = true ↔ text.toList = [] := by
    rw [String.isEmpty_iff, String.toList_eq_nil_iff]
  by_cases hnil : text.toList = []
  · simp [ofText, digitsValue?, hempty, hnil]
  · by_cases hdigits : text.toList.all Char.isDigit = true
    · have hvalue : digitsValue? text.toList = some (Nat.ofDigitChars 10 text.toList 0) := by
        rw [digitsValue?, if_pos ⟨hnil, hdigits⟩]
      rw [ofText, if_neg (by rwa [hempty]), if_pos hdigits, hvalue]
      constructor
      · intro h
        rw [← Except.ok.inj h]
      · intro h
        rw [Option.some.inj h]
    · rw [ofText, if_neg (by rwa [hempty]), if_neg hdigits, digitsValue?,
        if_neg fun h => hdigits h.2]
      simp

theorem digitsValue?_text (q : Quantity) : digitsValue? q.text.toList = some q.units := by
  have htext : q.text.toList = Nat.toDigits 10 q.units := by simp [text]
  have hnonempty : Nat.toDigits 10 q.units ≠ [] := Nat.toDigits_ne_nil
  have hdigits : (Nat.toDigits 10 q.units).all Char.isDigit = true :=
    List.all_eq_true.mpr fun c hc => Nat.isDigit_of_mem_toDigits (by decide) (by decide) hc
  rw [htext, digitsValue?, if_pos ⟨hnonempty, hdigits⟩, Nat.ofDigitChars_ten_toDigits]

theorem ofText_text (q : Quantity) : ofText q.text = .ok q :=
  ofText_eq_ok_iff.mpr (digitsValue?_text q)

theorem ofItem?_toItem (q : Quantity) : ofItem? q.toItem = some q := by
  simp [ofItem?, toItem, Cbor.Item.asBytes?, Cbor.Item.untag, ofBytes, bytes,
    BigEndian.toNat_ofNat]

theorem isZero_iff (q : Quantity) : q.isZero = true ↔ q.units = 0 := by
  simp [isZero]

/-- The sign that is split off is the sign of the number that is denoted. -/
theorem units?_eq_map_splitSign (amount : Api.Amount) :
    amount.units? = (digitsValue? (splitSign amount.value).2.toList).map fun n : Nat =>
      signed ⟨n⟩ (splitSign amount.value).1 := by
  by_cases hminus : ∃ digits, amount.value.toList = '-' :: digits
  · obtain ⟨digits, hdigits⟩ := hminus
    simp [Api.Amount.units?, splitSign, hdigits, signed]
  · rw [not_exists] at hminus
    rw [Api.Amount.units?, splitSign]
    split
    next digits hdigits => exact absurd hdigits (hminus digits)
    next => simp [signed]

theorem signed_eq_signed_iff {p q : Quantity} {negative debit : Bool} :
    p.signed negative = q.signed debit ↔ p = q ∧ (p.isZero ∨ negative = debit) := by
  obtain ⟨m⟩ := p
  obtain ⟨n⟩ := q
  simp only [signed, isZero, Quantity.mk.injEq, decide_eq_true_eq]
  cases negative <;> cases debit <;> simp <;> omega

/-- An amount is read as a quantity if it is in the currency of the chain and denotes the quantity
in the sign that is asked for; zero has both signs. -/
theorem ofAmount_eq_ok_iff {amount : Api.Amount} {debit : Bool} {q : Quantity} :
    ofAmount amount debit = .ok q ↔
      amount.InCurrency ∧ amount.units? = some (q.signed debit) := by
  by_cases hcurrency : amount.InCurrency
  · have hguard : ¬ (amount.currency.symbol ≠ currency.symbol
        ∨ amount.currency.decimals ≠ currency.decimals) := by
      simpa [Api.Amount.InCurrency] using hcurrency
    rw [units?_eq_map_splitSign, ofAmount, if_neg hguard]
    generalize splitSign amount.value = split
    obtain ⟨negative, digits⟩ := split
    cases hdigits : digitsValue? digits.toList with
    | none =>
        have herror : ∀ p, ofText digits ≠ .ok p := by
          intro p hp
          rw [ofText_eq_ok_iff, hdigits] at hp
          cases hp
        cases hread : ofText digits with
        | error reason => simp [hread]
        | ok p => exact absurd hread (herror p)
    | some n =>
        have hread : ofText digits = .ok ⟨n⟩ := ofText_eq_ok_iff.mpr hdigits
        simp only [hread, hcurrency, true_and, Option.map_some, Option.some.injEq,
          signed_eq_signed_iff]
        by_cases hsign : (⟨n⟩ : Quantity).isZero ∨ negative = debit
        · have hcond : ¬ (!(⟨n⟩ : Quantity).isZero && negative != debit) = true := by
            rcases hsign with h | h <;> simp [h]
          rw [if_neg hcond, Except.ok.injEq]
          exact ⟨fun h => ⟨h, hsign⟩, fun h => h.1⟩
        · have hcond : (!(⟨n⟩ : Quantity).isZero && negative != debit) = true := by
            simpa [not_or] using hsign
          rw [if_pos hcond]
          exact ⟨(nomatch ·), fun h => absurd h.2 hsign⟩
  · have hguard : amount.currency.symbol ≠ currency.symbol
        ∨ amount.currency.decimals ≠ currency.decimals := by
      rw [Api.Amount.InCurrency] at hcurrency
      exact Decidable.not_and_iff_not_or_not.mp hcurrency
    rw [ofAmount, if_pos hguard]
    simp [hcurrency]

theorem not_minus_of_digitsValue? {digits : List Char} {n : Nat}
    (h : digitsValue? digits = some n) (rest : List Char) : digits ≠ '-' :: rest := by
  rintro rfl
  simp [digitsValue?] at h

theorem units?_toAmount (q : Quantity) (debit : Bool) :
    (q.toAmount debit).units? = some (q.signed debit) := by
  by_cases hminus : (debit && !q.isZero) = true
  · have hvalue : (q.toAmount debit).value.toList = '-' :: q.text.toList := by
      simp [toAmount, Api.Amount.of, hminus]
    have hdebit : debit = true := by simp_all
    rw [Api.Amount.units?, hvalue]
    simp [digitsValue?_text, signed, hdebit]
  · have hvalue : (q.toAmount debit).value = q.text := by
      rw [toAmount, Api.Amount.of, if_neg hminus]
    have hsigned : q.signed debit = q.units := by
      cases debit with
      | false => rfl
      | true => simp_all [signed, isZero]
    rw [Api.Amount.units?, hvalue]
    split
    next rest hrest => exact absurd hrest (not_minus_of_digitsValue? (digitsValue?_text q) rest)
    next => rw [digitsValue?_text, hsigned]; rfl

theorem ofAmount_toAmount (q : Quantity) (debit : Bool) :
    ofAmount (q.toAmount debit) debit = .ok q :=
  ofAmount_eq_ok_iff.mpr ⟨⟨rfl, rfl⟩, units?_toAmount q debit⟩

end Quantity

end StakingGateway
