import StakingGateway.Proofs.Bytes.Bech32
import StakingGateway.Proofs.Outcome

/-!
# Bech32 texts are spelled in one way

What is read from a text determines the text up to its case (`eq_encode_or_upper_of_decode`).  The
symbols of a text are determined by their values.  Six symbols behind the data are a number that is
added to the checksum, so no others than those that are written lead to the residue of the variant.
The symbols of a byte string are determined too, since the bits that fill up the last one are zero
(`eq_ofBytes_of_toBytes`).
-/

namespace StakingGateway.Bech32

/-! ## Characters -/

/-- A text stays in the case that it is in, once it is in one. -/
def Case.Follows (seen final : Case) : Prop :=
  seen = .unseen ∨ final = seen

namespace Case

theorem Follows.refl (seen : Case) : seen.Follows seen :=
  .inr rfl

theorem Follows.trans {a b c : Case} (h : a.Follows b) (h' : b.Follows c) : a.Follows c := by
  rcases h with rfl | rfl
  · exact .inl rfl
  · exact h'

theorem follows_of_join? {seen next : Case} {c : Char} (h : seen.join? c = some next) :
    seen.Follows next := by
  rw [join?] at h
  unfold Follows
  cases seen <;> split at h <;> simp_all

/-- A character of a text is its lower-case form, written in the case of the text. -/
theorem write_toLower {seen next final : Case} {c : Char} (hascii : c.toNat < 128)
    (h : seen.join? c = some next) (hfinal : next.Follows final) : final.write c.toLower = c := by
  have hall : ∀ n < 128, ∀ seen ∈ [unseen, lower, upper], ∀ final ∈ [unseen, lower, upper],
      (seen.join? (Char.ofNat n)).all fun next =>
        !(next = .unseen || final = next) || final.write (Char.ofNat n).toLower = Char.ofNat n := by
    decide
  have hmem : ∀ case : Case, case ∈ [unseen, lower, upper] := by
    intro case
    cases case <;> simp
  have hc := hall c.toNat hascii seen (hmem seen) final (hmem final)
  rw [Char.ofNat_toNat, h, Option.all_some] at hc
  have hwrite : (¬ next = unseen ∧ ¬ final = next) ∨ final.write c.toLower = c := by
    simpa using hc
  exact hwrite.resolve_left fun hne => hfinal.elim hne.1 hne.2

end Case

theorem map_write_of_checkPrefix {chars : List Char} {seen final case : Case}
    (h : checkPrefix seen chars = .ok final) (hcase : final.Follows case) :
    seen.Follows final ∧ (chars.map Char.toLower).map case.write = chars := by
  induction chars generalizing seen with
  | nil =>
      rw [← Except.ok.inj h]
      exact ⟨.refl _, rfl⟩
  | cons c rest ih =>
      rw [checkPrefix] at h
      split at h
      next hprintable =>
        split at h
        next next hjoin =>
          obtain ⟨hfollows, hrest⟩ := ih h
          have hc := Case.write_toLower (by omega) hjoin (hfollows.trans hcase)
          exact ⟨(Case.follows_of_join? hjoin).trans hfollows, by simp [hc, hrest]⟩
        next => cases h
      next => cases h

theorem symbol_of_symbolValue? {c : Char} {value : Nat} (h : symbolValue? c = some value) :
    value < 32 ∧ symbol value = c := by
  obtain ⟨hlt, hget, -⟩ := List.idxOf?_eq_some_iff.mp h
  refine ⟨hlt, ?_⟩
  rw [symbol, List.getD_eq_getElem?_getD, List.getElem?_eq_getElem hlt, hget, Option.getD_some]

theorem map_write_of_readData {chars : List Char} {seen : Case} {values : List Nat}
    (h : readData seen chars = .ok values) :
    (∀ v ∈ values, v < 32) ∧
      ∃ case, seen.Follows case ∧ (values.map symbol).map case.write = chars := by
  induction chars generalizing seen values with
  | nil =>
      rw [← Except.ok.inj h]
      exact ⟨by simp, seen, .refl _, rfl⟩
  | cons c rest ih =>
      rw [readData] at h
      split at h
      next => cases h
      next hascii =>
        split at h
        next => cases h
        next next hjoin =>
          split at h
          next => cases h
          next value hvalue =>
            obtain ⟨values, hrest, h⟩ := bind_eq_ok_iff.mp h
            obtain rfl := pure_eq_ok_iff.mp h
            obtain ⟨hlt, case, hfollows, hcase⟩ := ih hrest
            obtain ⟨hvalueLt, hsymbol⟩ := symbol_of_symbolValue? hvalue
            have hc := Case.write_toLower (by omega) hjoin hfollows
            refine ⟨?_, case, (Case.follows_of_join? hjoin).trans hfollows, ?_⟩
            · simpa using ⟨hvalueLt, hlt⟩
            · simp only [List.map_cons, hsymbol, hc, hcase]

theorem eq_of_splitLast {separator : Char} {text before after : List Char}
    (h : splitLast separator text = some (before, after)) : text = before ++ separator :: after := by
  simp only [splitLast] at h
  split at h
  next => cases h
  next c rest hdrop =>
    obtain ⟨rfl, rfl⟩ := Prod.mk.inj (Option.some.inj h)
    have hc : c = separator := by
      have hhead := List.head?_dropWhile_not (fun x => decide (x ≠ separator)) text.reverse
      rw [hdrop] at hhead
      simpa using hhead
    subst hc
    rw [← List.reverse_inj, List.reverse_append, List.reverse_cons, List.reverse_reverse,
      List.reverse_reverse, List.append_assoc, List.singleton_append, ← hdrop,
      List.takeWhile_append_dropWhile]

/-! ## The checksum -/

/-- No six symbols but those that are written lead to the residue. -/
theorem eq_checksum_of_reduce {variant : Variant} {hrp : List Char} {data sum : List Nat}
    (hlength : sum.length = checksumLength) (hsum : ∀ v ∈ sum, v < 32)
    (h : reduce (expandPrefix hrp ++ (data ++ sum)) = variant.residue) :
    sum = checksum variant hrp data := by
  have hwritten := reduce_append hrp data (length_checksum variant hrp data)
    fun v hv => lt_of_mem_checksum hv
  rw [reduce_checksum, ← h, reduce_append hrp data hlength hsum] at hwritten
  have hnumber := congrArg BitVec.toNat ((BitVec.xor_right_inj _).mp hwritten)
  have hroom : ∀ {symbols : List Nat}, symbols.length = checksumLength → (∀ v ∈ symbols, v < 32) →
      Positional.value 32 symbols < 2 ^ 30 := by
    intro symbols hsymbols hlt
    have hvalue := Positional.value_lt hlt
    rwa [hsymbols] at hvalue
  rw [BitVec.toNat_ofNat, BitVec.toNat_ofNat, Nat.mod_eq_of_lt (hroom hlength hsum),
    Nat.mod_eq_of_lt (hroom (length_checksum ..) fun v hv => lt_of_mem_checksum hv)] at hnumber
  rw [← Positional.digits_value hsum, hlength, hnumber, ← length_checksum variant hrp data,
    Positional.digits_value fun v hv => lt_of_mem_checksum hv]

theorem reduce_of_variantOf? {hrp : List Char} {values : List Nat} {variant : Variant}
    (h : variantOf? hrp values = some variant) :
    reduce (expandPrefix hrp ++ values) = variant.residue := by
  simp only [variantOf?] at h
  split at h
  next heq =>
    rw [← Option.some.inj h]
    exact heq
  next =>
    split at h
    next heq =>
      rw [← Option.some.inj h]
      exact heq
    next => cases h

/-! ## The text -/

theorem eq_or_eq_upper (case : Case) {text written : String}
    (h : text.toList = written.toList.map case.write) : text = written ∨ text = upper written := by
  cases case with
  | upper =>
      right
      rw [upper, ← String.ofList_toList (s := text), h]
      rfl
  | _ =>
      left
      rw [← String.toList_inj, h]
      exact List.map_id _

/-- A text is what is written for the parts that are read from it, in one of the two cases. -/
theorem eq_encode_or_upper_of_decode {text hrp : String} {data : List Nat} {variant : Variant}
    (h : decode text = .ok (hrp, data, variant)) :
    (∀ v ∈ data, v < 32) ∧
      (text = encode variant hrp data ∨ text = upper (encode variant hrp data)) := by
  rw [decode] at h
  split at h
  next before after hsplit =>
    split at h
    next => cases h
    next =>
      obtain ⟨seen, hcheck, h⟩ := bind_eq_ok_iff.mp h
      obtain ⟨values, hread, h⟩ := bind_eq_ok_iff.mp h
      split at h
      next => cases h
      next hlong =>
        split at h
        next => cases h
        next found hfound =>
          obtain ⟨rfl, rfl, rfl⟩ : String.ofList (before.map Char.toLower) = hrp ∧
              values.take (values.length - checksumLength) = data ∧ found = variant := by
            simpa using h
          obtain ⟨hvalues, case, hfollows, hafter⟩ := map_write_of_readData hread
          obtain ⟨-, hbefore⟩ := map_write_of_checkPrefix hcheck hfollows
          have hsplitValues := List.take_append_drop (values.length - checksumLength) values
          have hsum : values.drop (values.length - checksumLength) = checksum found
              (before.map Char.toLower) (values.take (values.length - checksumLength)) := by
            apply eq_checksum_of_reduce (by rw [List.length_drop]; omega)
            · exact fun v hv => hvalues v (List.mem_of_mem_drop hv)
            · rw [hsplitValues, reduce_of_variantOf? hfound]
          refine ⟨fun v hv => hvalues v (List.mem_of_mem_take hv), eq_or_eq_upper case ?_⟩
          have hseparator : case.write '1' = '1' := by cases case <;> rfl
          rw [eq_of_splitLast hsplit, encode, String.toList_ofList, String.toList_ofList, ← hsum,
            hsplitValues, List.map_append, List.map_cons, hbefore, hafter, hseparator]
  next => cases h

/-! ## The data -/

theorem eq_ofBytes_of_toBytes {data : List Nat} {bytes : List UInt8} (hdata : ∀ v ∈ data, v < 32)
    (h : toBytes data = .ok bytes) : data = ofBytes bytes := by
  have hpow : Nat.shiftLeft 1 (5 * data.length % 8) = 2 ^ (5 * data.length % 8) := by
    rw [← Nat.one_shiftLeft]
    rfl
  simp only [toBytes, hpow, Nat.shiftRight_eq_div_pow] at h
  split at h
  next => cases h
  next hpadding =>
    obtain ⟨hfill, hzero⟩ := not_or.mp hpadding
    generalize hfillEq : 5 * data.length % 8 = fill at *
    have hvalue : Positional.value 32 data / 2 ^ fill * 2 ^ fill = Positional.value 32 data :=
      Nat.div_mul_cancel (Nat.dvd_of_mod_eq_zero (not_not.mp hzero))
    have hroom : Positional.value 32 data / 2 ^ fill < 256 ^ (5 * data.length / 8) := by
      apply Nat.div_lt_of_lt_mul
      rw [show (256 : Nat) = 2 ^ 8 from rfl, ← Nat.pow_mul, ← Nat.pow_add,
        show fill + 8 * (5 * data.length / 8) = 5 * data.length by omega, Nat.pow_mul]
      exact Positional.value_lt hdata
    obtain rfl := Except.ok.inj h
    have hcount : (8 * (5 * data.length / 8) + 4) / 5 = data.length := by omega
    have hrest : 5 * data.length - 8 * (5 * data.length / 8) = fill := by omega
    simp only [ofBytes, BigEndian.length_bytesOfLength, hcount, hrest, Nat.shiftLeft_eq,
      BigEndian.toNat_bytesOfLength hroom, hvalue]
    exact (Positional.digits_value hdata).symm

end StakingGateway.Bech32
