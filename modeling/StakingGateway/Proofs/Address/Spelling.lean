import StakingGateway.Gateway.Input
import StakingGateway.Proofs.Address
import StakingGateway.Proofs.Bytes.Bech32.Spelling

/-!
# How addresses are spelled

An address is read from its text and from its text in upper case, and from no other text
(`ofText_eq_ok_iff`).  So what is listed by the texts of addresses is listed by the addresses, and
addresses may be compared by their texts where these were written and not read.
-/

namespace StakingGateway.Address

variable {text : String} {address : Address}

theorem eq_bytes_of_ofBytes {bytes : List UInt8} (h : ofBytes bytes = .ok address) :
    bytes = address.bytes := by
  cases bytes with
  | nil => cases h
  | cons version payload =>
      rw [ofBytes] at h
      split at h
      next =>
        split at h
        next hversion =>
          rw [← Except.ok.inj h, hversion]
          rfl
        next => cases h
      next => cases h

/-- A text that is read as an address is its text, in one of the two cases. -/
theorem eq_text_or_upper_of_ofText (h : ofText text = .ok address) :
    text = address.text ∨ text = Bech32.upper address.text := by
  rw [ofText] at h
  split at h
  next => cases h
  next found data variant hdecode =>
    split at h
    next => cases h
    next hfound =>
      split at h
      next => cases h
      next hvariant =>
        split at h
        next => cases h
        next bytes hbytes =>
          obtain ⟨hdata, hspelled⟩ := Bech32.eq_encode_or_upper_of_decode hdecode
          rwa [not_not.mp hfound, not_not.mp hvariant, Bech32.eq_ofBytes_of_toBytes hdata hbytes,
            eq_bytes_of_ofBytes h] at hspelled

theorem ofText_eq_ok_iff :
    ofText text = .ok address ↔ text = address.text ∨ text = Bech32.upper address.text := by
  constructor
  · exact eq_text_or_upper_of_ofText
  · rintro (rfl | rfl)
    · exact ofText_text address
    · exact ofText_upper_text address

theorem input_eq_ok_iff : Input.address text = .ok address ↔ ofText text = .ok address := by
  rw [Input.address]
  split
  next hempty =>
    have hrefused : ofText "" = .error (.malformed .missingSeparator) := rfl
    rw [String.isEmpty_iff.mp hempty, hrefused]
    exact ⟨nofun, nofun⟩
  next => cases ofText text <;> simp

/-- Every address is read from its text, and different addresses have different texts.  An address
has one other spelling, its text in upper case, in requests as anywhere else. -/
theorem text_unique_upToCase :
    Function.Injective StakingGateway.Address.text ∧
    (∀ address : Address, ofText address.text = .ok address) ∧
    ∀ (address : Address) (spelled : String),
      (ofText spelled = .ok address ↔
        spelled = address.text ∨ spelled = Bech32.upper address.text) ∧
      (Input.address spelled = .ok address ↔ ofText spelled = .ok address) :=
  ⟨fun _ _ => text_inj.mp, ofText_text, fun _ _ => ⟨ofText_eq_ok_iff, input_eq_ok_iff⟩⟩

end StakingGateway.Address
