import StakingGateway.Proofs.Quantity

/-!
# Texts of amounts

`Decimal.Denotes text z` says that a text is decimal digits, at least one, behind a minus sign or
not, and that `z` is their number.  An amount is read as a quantity if its text denotes the quantity
or its negative, as asked for.  Many texts denote one number.  The text that is written is
`Decimal.Canonical`: it has no leading zeros, and zero has no sign.  The main statement is
`ofAmount_exact`.
-/

namespace StakingGateway

namespace Decimal

def chars (digits : List (Fin 10)) : List Char :=
  digits.map fun digit : Fin 10 => Nat.digitChar digit.val

/-- The number of decimal digits, the last of which counts the ones. -/
def number (digits : List (Fin 10)) : Nat :=
  Nat.ofDigits 10 (digits.map Fin.val).reverse

/-- The text is digits, at least one, behind a minus sign or not, and this is the number. -/
def Denotes (text : String) (z : Int) : Prop :=
  ∃ digits : List (Fin 10), digits ≠ [] ∧
    (text.toList = chars digits ∧ z = number digits ∨
      text.toList = '-' :: chars digits ∧ z = -(number digits : Int))

/-- A number is not written with zeros in front, and zero is not written with a sign. -/
structure Canonical (text : String) : Prop where
  eq_nil_of_zero : ∀ rest, text.toList = '0' :: rest → rest = []
  ne_minus_zero : ∀ rest, text.toList ≠ '-' :: '0' :: rest

/-! ## Digits -/

theorem exists_digitChar {c : Char} (h : c.isDigit = true) :
    ∃ digit : Fin 10, c = Nat.digitChar digit := by
  rw [Char.isDigit_iff_toNat] at h
  have hlt : c.toNat - '0'.toNat < 10 := by
    have hten : '9'.toNat - '0'.toNat < 10 := by decide
    omega
  refine ⟨⟨_, hlt⟩, Char.toNat_inj.mp ?_⟩
  rw [Nat.toNat_digitChar_of_lt_ten hlt]
  have hzero : '0'.toNat = 48 := rfl
  omega

theorem exists_chars {text : List Char} (h : text.all Char.isDigit = true) :
    ∃ digits, text = chars digits := by
  induction text with
  | nil => exact ⟨[], rfl⟩
  | cons c rest ih =>
      rw [List.all_cons, Bool.and_eq_true] at h
      obtain ⟨digit, rfl⟩ := exists_digitChar h.1
      obtain ⟨digits, rfl⟩ := ih h.2
      exact ⟨digit :: digits, rfl⟩

theorem all_isDigit_chars (digits : List (Fin 10)) :
    (chars digits).all Char.isDigit = true := by
  rw [chars, List.all_map, List.all_eq_true]
  intro digit _
  rw [Function.comp_apply, Nat.isDigit_digitChar]
  exact decide_eq_true digit.isLt

theorem chars_ne_minus (digits : List (Fin 10)) (rest : List Char) :
    chars digits ≠ '-' :: rest := by
  intro h
  have hall := all_isDigit_chars digits
  rw [h] at hall
  cases hall

theorem number_append_singleton (digits : List (Fin 10)) (digit : Fin 10) :
    number (digits ++ [digit]) = 10 * number digits + digit := by
  rw [number, List.map_append, List.map_singleton, List.reverse_append,
    List.reverse_singleton, List.singleton_append, Nat.ofDigits_cons, Nat.add_comm, number]

theorem ofDigitChars_chars (digits : List (Fin 10)) :
    Nat.ofDigitChars 10 (chars digits) 0 = number digits := by
  induction digits using List.reverseRecOn with
  | nil => rfl
  | append_singleton digits digit ih =>
      have hdigit : (Nat.digitChar digit.val).toNat - '0'.toNat = digit := by
        rw [Nat.toNat_digitChar_of_lt_ten digit.isLt]
        exact Nat.add_sub_cancel_left ..
      have htext : chars (digits ++ [digit])
          = chars digits ++ [Nat.digitChar digit.val] := List.map_append
      rw [htext, Nat.ofDigitChars_append, ih, Nat.ofDigitChars_cons, Nat.ofDigitChars_nil, hdigit,
        number_append_singleton]

theorem eq_zero_of_toDigits {n : Nat} {rest : List Char} (h : Nat.toDigits 10 n = '0' :: rest) :
    n = 0 := by
  induction n using Nat.strongRecOn generalizing rest with
  | ind n ih =>
    by_cases hlt : n < 10
    · rw [Nat.toDigits_of_lt_base hlt] at h
      have hzero := congrArg Char.toNat (List.cons.inj h).1
      rw [Nat.toNat_digitChar_of_lt_ten hlt] at hzero
      exact Nat.add_left_cancel hzero
    · -- The number begins with the digits of its quotient by ten, of which there are some.
      have hnonempty : Nat.toDigits 10 (n / 10) ≠ [] := Nat.toDigits_ne_nil
      obtain ⟨c, front, hfront⟩ := List.exists_cons_of_ne_nil hnonempty
      rw [Nat.toDigits_of_base_le (by decide) (Nat.le_of_not_lt hlt), hfront,
        List.cons_append] at h
      obtain ⟨rfl, -⟩ := List.cons.inj h
      have hquotient : n / 10 = 0 := ih (n / 10) (by omega) hfront
      omega

end Decimal

namespace Quantity

theorem digitsValue?_eq_some_iff {text : List Char} {n : Nat} :
    digitsValue? text = some n ↔
      ∃ digits, digits ≠ [] ∧ text = Decimal.chars digits ∧ n = Decimal.number digits := by
  constructor
  · intro h
    rw [digitsValue?, Option.ite_none_right_eq_some] at h
    obtain ⟨⟨hnil, hall⟩, hvalue⟩ := h
    obtain ⟨digits, rfl⟩ := Decimal.exists_chars hall
    rw [Decimal.ofDigitChars_chars] at hvalue
    refine ⟨digits, ?_, rfl, (Option.some.inj hvalue).symm⟩
    rintro rfl
    exact hnil rfl
  · rintro ⟨digits, hnil, rfl, rfl⟩
    have htext : Decimal.chars digits ≠ [] := fun h => hnil (List.map_eq_nil_iff.mp h)
    rw [digitsValue?, if_pos ⟨htext, Decimal.all_isDigit_chars digits⟩,
      Decimal.ofDigitChars_chars]

theorem units?_eq_some_iff {amount : Api.Amount} {z : Int} :
    amount.units? = some z ↔ Decimal.Denotes amount.value z := by
  unfold Api.Amount.units? Decimal.Denotes
  split
  next text hminus =>
    simp only [hminus, Option.map_eq_some_iff, digitsValue?_eq_some_iff]
    constructor
    · rintro ⟨n, ⟨digits, hnil, rfl, rfl⟩, rfl⟩
      exact ⟨digits, hnil, .inr ⟨rfl, rfl⟩⟩
    · rintro ⟨digits, hnil, ⟨htext, _⟩ | ⟨htext, rfl⟩⟩
      · exact absurd htext.symm (Decimal.chars_ne_minus digits text)
      · exact ⟨_, ⟨digits, hnil, (List.cons.inj htext).2, rfl⟩, rfl⟩
  next hplain =>
    simp only [Option.map_eq_some_iff, digitsValue?_eq_some_iff]
    constructor
    · rintro ⟨n, ⟨digits, hnil, htext, rfl⟩, rfl⟩
      exact ⟨digits, hnil, .inl ⟨htext, rfl⟩⟩
    · rintro ⟨digits, hnil, ⟨htext, rfl⟩ | ⟨htext, _⟩⟩
      · exact ⟨_, ⟨digits, hnil, htext, rfl⟩, rfl⟩
      · exact (hplain _ htext).elim

theorem denotes_toAmount_iff (q : Quantity) (debit : Bool) {z : Int} :
    Decimal.Denotes (q.toAmount debit).value z ↔ z = q.signed debit := by
  rw [← units?_eq_some_iff, units?_toAmount, Option.some.injEq, eq_comm]

theorem canonical_toAmount (q : Quantity) (debit : Bool) :
    Decimal.Canonical (q.toAmount debit).value := by
  have htext : q.text.toList = Nat.toDigits 10 q.units := by simp [text]
  by_cases hminus : (debit && !q.isZero) = true
  · have hvalue : (q.toAmount debit).value.toList = '-' :: Nat.toDigits 10 q.units := by
      simp [toAmount, Api.Amount.of, hminus, htext]
    have hunits : q.units ≠ 0 := by
      intro hzero
      simp [isZero, hzero] at hminus
    constructor
    · intro rest h
      rw [hvalue] at h
      cases h
    · intro rest h
      rw [hvalue] at h
      exact hunits (Decimal.eq_zero_of_toDigits (List.cons.inj h).2)
  · have hvalue : (q.toAmount debit).value.toList = Nat.toDigits 10 q.units := by
      simp [toAmount, Api.Amount.of, hminus, htext]
    constructor
    · intro rest h
      rw [hvalue] at h
      rw [Decimal.eq_zero_of_toDigits h] at h
      exact (List.cons.inj h).2.symm
    · intro rest h
      rw [hvalue, ← htext] at h
      exact not_minus_of_digitsValue? q.digitsValue?_text _ h

theorem exists_ofAmount_not_iff {q : Quantity} {debit : Bool} :
    (∃ p, ofAmount (q.toAmount debit) (!debit) = .ok p) ↔ q = zero := by
  simp only [ofAmount_eq_ok_iff, units?_toAmount, Option.some.injEq]
  constructor
  · rintro ⟨p, -, hsigned⟩
    obtain ⟨rfl, hzero | hsign⟩ := signed_eq_signed_iff.mp hsigned
    · exact congrArg mk ((isZero_iff q).mp hzero)
    · cases debit <;> cases hsign
  · rintro rfl
    exact ⟨zero, ⟨rfl, rfl⟩, signed_eq_signed_iff.mpr ⟨rfl, .inl rfl⟩⟩

/-- Writing an amount and reading one are exact.  What is written reads back, and in the other sign
only if it is zero.  What is read is in the currency of the chain and denotes the quantity in the
sign that is asked for, whatever its size, and every such amount is read.  Written again, an amount
that was read denotes the number that it denoted, in the canonical way. -/
theorem ofAmount_exact (q : Quantity) (amount : Api.Amount) (debit : Bool) :
    ofAmount (q.toAmount debit) debit = .ok q ∧
    ((∃ p, ofAmount (q.toAmount debit) (!debit) = .ok p) ↔ q = zero) ∧
    (ofAmount amount debit = .ok q ↔
      (amount.currency.symbol = "ROSE" ∧ amount.currency.decimals = 9) ∧
        Decimal.Denotes amount.value (if debit then -(q.units : Int) else q.units)) ∧
    (ofAmount amount debit = .ok q →
      Decimal.Canonical (q.toAmount debit).value ∧
        ∀ z, Decimal.Denotes amount.value z ↔ Decimal.Denotes (q.toAmount debit).value z) := by
  refine ⟨ofAmount_toAmount q debit, exists_ofAmount_not_iff, ?_, ?_⟩
  · rw [ofAmount_eq_ok_iff, units?_eq_some_iff]
    rfl
  · intro h
    refine ⟨canonical_toAmount q debit, fun z => ?_⟩
    rw [denotes_toAmount_iff, ← units?_eq_some_iff, (ofAmount_eq_ok_iff.mp h).2,
      Option.some.injEq, eq_comm]

end Quantity

end StakingGateway
