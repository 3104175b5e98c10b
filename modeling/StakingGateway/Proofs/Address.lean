import StakingGateway.Address
import StakingGateway.Proofs.Bytes.Bech32

/-!
# Addresses and their texts

Every address reads back from its text (`Address.ofText_text`), so different addresses have
different texts, and it reads back from its data item.  It has other texts, such as its text in
upper case (`Address.ofText_upper_text`).
-/

namespace StakingGateway.Address

theorem lowerPrefix_hrp : Bech32.LowerPrefix hrp where
  nonempty := by decide
  short := by decide
  lower := by decide
  readable := ⟨.lower, rfl, by decide⟩

theorem upperPrefix_hrp : Bech32.UpperPrefix hrp where
  nonempty := by decide
  short := by decide
  lower := by decide
  readable := ⟨.upper, rfl, by decide⟩

theorem ofText_of_decode {text : String} {address : Address}
    (h : Bech32.decode text = .ok (hrp, Bech32.ofBytes address.bytes, .bech32)) :
    ofText text = .ok address := by
  simp only [ofText, h, Bech32.toBytes_ofBytes, ofBytes_bytes]
  rfl

theorem ofText_text (address : Address) : ofText address.text = .ok address :=
  ofText_of_decode <|
    Bech32.decode_encode .bech32 lowerPrefix_hrp fun _ hv => Bech32.lt_of_mem_ofBytes hv

theorem ofText_upper_text (address : Address) : ofText (Bech32.upper address.text) = .ok address :=
  ofText_of_decode <|
    Bech32.decode_upper_encode .bech32 upperPrefix_hrp fun _ hv => Bech32.lt_of_mem_ofBytes hv

theorem upper_text_ne (address : Address) : Bech32.upper address.text ≠ address.text := by
  intro h
  have hhead := congrArg (fun text => text.toList.head?) h
  simp [Bech32.upper, text, Bech32.encode, hrp] at hhead

theorem text_inj {a b : Address} : a.text = b.text ↔ a = b := by
  constructor
  · intro h
    have ha := ofText_text a
    rw [h, ofText_text] at ha
    exact (Except.ok.inj ha).symm
  · rintro rfl
    rfl

theorem isEmpty_text (address : Address) : address.text.isEmpty = false := by
  simp [text, Bech32.encode, String.ofList_eq_empty_iff]

theorem ofItem?_toItem (address : Address) : ofItem? address.toItem = some address := by
  simp [ofItem?, toItem, Cbor.Item.asBytes?, Cbor.Item.untag, ofBytes_bytes, Except.toOption]

end StakingGateway.Address
