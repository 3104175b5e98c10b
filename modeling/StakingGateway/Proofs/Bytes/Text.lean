import Mathlib
import StakingGateway.Bytes.Base64
import StakingGateway.Bytes.Hex

/-!
# Texts that carry bytes

Hexadecimal and base64 texts consist of characters below 128, so their UTF-8 bytes are their
characters one by one.  With that, both readers undo their writers: `Hex.decode_encode` and
`Base64.decode_encode` hold for every byte string.
-/

namespace StakingGateway.Utf8

theorem utf8EncodeChar_ascii {c : Char} (h : c.toNat < 128) :
    String.utf8EncodeChar c = [UInt8.ofNat c.toNat] := by
  have hval : c.val ≤ 0x7f := by
    rw [UInt32.le_iff_toNat_le]
    exact Nat.le_of_lt_succ h
  have hsize : c.utf8Size = 1 := by simp [Char.utf8Size, hval]
  rw [String.utf8EncodeChar_eq_singleton hsize]
  rfl

theorem encode_ofList (chars : List Char) :
    encode (String.ofList chars) = chars.flatMap String.utf8EncodeChar := by
  simp [encode, List.utf8Encode]

theorem encode_ofList_ascii {chars : List Char} (h : ∀ c ∈ chars, c.toNat < 128) :
    encode (String.ofList chars) = chars.map fun c => UInt8.ofNat c.toNat := by
  rw [encode_ofList]
  induction chars with
  | nil => rfl
  | cons c rest ih =>
      rw [List.flatMap_cons, List.map_cons, utf8EncodeChar_ascii (h c (by simp)),
        ih fun d hd => h d (by simp [hd])]
      rfl

theorem encode_eq_flatMap (text : String) :
    encode text = text.toList.flatMap String.utf8EncodeChar := by
  rw [← encode_ofList, String.ofList_toList]

theorem encode_append (s t : String) : encode (s ++ t) = encode s ++ encode t := by
  rw [encode_eq_flatMap, encode_eq_flatMap, encode_eq_flatMap, String.toList_append,
    List.flatMap_append]

theorem encode_singleton (c : Char) : encode (String.singleton c) = String.utf8EncodeChar c := by
  rw [encode_eq_flatMap, String.toList_singleton, List.flatMap_singleton]

theorem encode_intercalate (separator : String) (texts : List String) :
    encode (separator.intercalate texts)
      = (encode separator).intercalate (texts.map encode) := by
  induction texts with
  | nil => rfl
  | cons text texts ih =>
      cases texts with
      | nil => simp
      | cons next texts =>
          rw [String.intercalate_cons_cons, encode_append, encode_append, ih, List.map_cons,
            List.map_cons, List.map_cons, List.intercalate_cons_cons]

theorem le_of_mem_utf8EncodeChar {c : Char} (h : 128 ≤ c.toNat) :
    ∀ byte ∈ String.utf8EncodeChar c, 128 ≤ byte.toNat := by
  have hval : ¬ c.val.toNat ≤ 127 := Nat.not_le.mpr h
  intro byte hbyte
  simp only [String.utf8EncodeChar, if_neg hval] at hbyte
  split_ifs at hbyte <;> simp only [List.mem_cons, List.not_mem_nil, or_false] at hbyte <;>
    rcases hbyte with rfl | rfl | rfl | rfl <;> simp only [UInt8.toNat_ofNat'] <;> omega

end StakingGateway.Utf8

/-! ## Hexadecimal text -/

namespace StakingGateway.Hex

theorem digit_ascii {n : Nat} (h : n < 16) : (digit n).toNat < 128 := by
  revert n
  decide

theorem digitValue?_digit {n : Nat} (h : n < 16) :
    digitValue? (UInt8.ofNat (digit n).toNat) = some n := by
  revert n
  decide

theorem length_flatMap_pair (bytes : List UInt8) :
    (bytes.flatMap pair).length = 2 * bytes.length := by
  induction bytes with
  | nil => rfl
  | cons byte rest ih =>
      simp only [List.flatMap_cons, List.length_append, List.length_cons, ih, pair,
        List.length_nil]
      omega

theorem decodePairs_pairs (bytes : List UInt8) (position : Nat) :
    decodePairs position ((bytes.flatMap pair).map fun c => UInt8.ofNat c.toNat) = .ok bytes := by
  induction bytes generalizing position with
  | nil => rfl
  | cons byte rest ih =>
      have hbyte : byte.toNat < 256 := byte.toNat_lt
      have hhigh : byte.toNat / 16 < 16 := by omega
      have hlow : byte.toNat % 16 < 16 := by omega
      have hsum : 16 * (byte.toNat / 16) + byte.toNat % 16 = byte.toNat := Nat.div_add_mod _ _
      simp only [List.flatMap_cons, pair, List.cons_append, List.nil_append, List.map_cons,
        decodePairs, digitValue?_digit hhigh, digitValue?_digit hlow, ih, hsum, UInt8.ofNat_toNat]
      rfl

theorem decode_encode (bytes : List UInt8) : decode (encode bytes) = .ok bytes := by
  have hascii : ∀ c ∈ bytes.flatMap pair, c.toNat < 128 := by
    intro c hc
    obtain ⟨byte, _, hpair⟩ := List.mem_flatMap.mp hc
    have hbyte : byte.toNat < 256 := byte.toNat_lt
    simp only [pair, List.mem_cons, List.not_mem_nil, or_false] at hpair
    rcases hpair with rfl | rfl
    · exact digit_ascii (by omega)
    · exact digit_ascii (by omega)
  rw [decode, encode, Utf8.encode_ofList_ascii hascii, decodeBytes, if_neg]
  · exact decodePairs_pairs bytes 0
  · rw [List.length_map, length_flatMap_pair]
    omega

end StakingGateway.Hex

/-! ## Base64 text -/

namespace StakingGateway.Base64

/-- The values of the symbols of a byte string, without its padding. -/
def sextets : List UInt8 → List Nat
  | [] => []
  | [a] => [a.toNat / 4, a.toNat % 4 * 16]
  | [a, b] =>
    let n := a.toNat * 256 + b.toNat
    [n / 1024, n / 16 % 64, n % 16 * 4]
  | a :: b :: c :: rest =>
    let n := a.toNat * 65536 + b.toNat * 256 + c.toNat
    n / 262144 :: n / 4096 % 64 :: n / 64 % 64 :: n % 64 :: sextets rest

def padding : List UInt8 → List UInt8
  | [] => []
  | [_] => [pad, pad]
  | [_, _] => [pad]
  | _ :: _ :: _ :: rest => padding rest

theorem encodeBytes_eq : ∀ bytes : List UInt8,
    encodeBytes bytes = (sextets bytes).map symbol ++ padding bytes
  | [] => rfl
  | [_] => rfl
  | [_, _] => rfl
  | a :: b :: c :: rest => by simp [encodeBytes, sextets, padding, encodeBytes_eq rest]

theorem lt_of_mem_sextets : ∀ (bytes : List UInt8), ∀ n ∈ sextets bytes, n < 64
  | [], n, h => by simp [sextets] at h
  | [a], n, h => by
      have ha : a.toNat < 256 := a.toNat_lt
      simp only [sextets, List.mem_cons, List.not_mem_nil, or_false] at h
      omega
  | [a, b], n, h => by
      have ha : a.toNat < 256 := a.toNat_lt
      have hb : b.toNat < 256 := b.toNat_lt
      simp only [sextets, List.mem_cons, List.not_mem_nil, or_false] at h
      omega
  | a :: b :: c :: rest, n, h => by
      have ha : a.toNat < 256 := a.toNat_lt
      have hb : b.toNat < 256 := b.toNat_lt
      have hc : c.toNat < 256 := c.toNat_lt
      simp only [sextets, List.mem_cons] at h
      rcases h with rfl | rfl | rfl | rfl | h
      · omega
      · omega
      · omega
      · omega
      · exact lt_of_mem_sextets rest n h

theorem eq_pad_of_mem_padding : ∀ (bytes : List UInt8), ∀ byte ∈ padding bytes, byte = pad
  | [], _, h => by simp [padding] at h
  | [_], _, h => by simpa [padding] using h
  | [_, _], _, h => by simpa [padding] using h
  | _ :: _ :: _ :: rest, byte, h => eq_pad_of_mem_padding rest byte h

theorem symbol_ascii {n : Nat} (h : n < 64) : (symbol n).toNat < 128 := by
  revert n
  decide

theorem symbolValue?_symbol {n : Nat} (h : n < 64) : symbolValue? (symbol n) = some n := by
  revert n
  decide

theorem symbolValue?_pad : symbolValue? pad = none := by
  decide

/-- The run of symbols ends where the padding begins. -/
theorem symbols_append_pad {values : List Nat} {tail : List UInt8}
    (hvalues : ∀ n ∈ values, n < 64) (htail : ∀ byte ∈ tail, byte = pad) :
    symbols (values.map symbol ++ tail) = (values, tail) := by
  induction values with
  | nil =>
      cases tail with
      | nil => rfl
      | cons byte rest => simp [symbols, htail byte (by simp), symbolValue?_pad]
  | cons n rest ih =>
      simp [symbols, symbolValue?_symbol (hvalues n (by simp)),
        ih fun m hm => hvalues m (by simp [hm])]

theorem length_encodeBytes_mod : ∀ bytes : List UInt8, (encodeBytes bytes).length % 4 = 0
  | [] => rfl
  | [_] => by simp [encodeBytes]
  | [_, _] => by simp [encodeBytes]
  | _ :: _ :: _ :: rest => by
      have ih := length_encodeBytes_mod rest
      simp only [encodeBytes, List.length_cons]
      omega

theorem tailError?_add_four {count : Nat} {tail : List UInt8} (h : tailError? count tail = none) :
    tailError? (count + 4) tail = none := by
  cases tail with
  | nil => rfl
  | cons byte rest => simpa [tailError?] using h

theorem tailError?_padding : ∀ bytes : List UInt8,
    tailError? (sextets bytes).length (padding bytes) = none
  | [] => rfl
  | [_] => rfl
  | [_, _] => rfl
  | _ :: _ :: _ :: rest => tailError?_add_four (tailError?_padding rest)

theorem unpack_sextets : ∀ bytes : List UInt8, unpack (sextets bytes) = some bytes
  | [] => rfl
  | [a] => by
      have ha : a.toNat < 256 := a.toNat_lt
      have hfill : a.toNat % 4 * 16 % 16 = 0 := by omega
      have hvalue : a.toNat / 4 * 4 + a.toNat % 4 * 16 / 16 = a.toNat := by omega
      rw [sextets, unpack, if_pos hfill, hvalue, UInt8.ofNat_toNat]
  | [a, b] => by
      have ha : a.toNat < 256 := a.toNat_lt
      have hb : b.toNat < 256 := b.toNat_lt
      simp only [sextets, unpack]
      rw [if_pos (by omega), Option.some.injEq, List.cons.injEq, List.cons.injEq]
      refine ⟨?_, ?_, rfl⟩
      · rw [UInt8.ofNat_eq_iff_mod_eq_toNat]
        omega
      · rw [UInt8.ofNat_eq_iff_mod_eq_toNat]
        omega
  | a :: b :: c :: rest => by
      have ha : a.toNat < 256 := a.toNat_lt
      have hb : b.toNat < 256 := b.toNat_lt
      have hc : c.toNat < 256 := c.toNat_lt
      simp only [sextets, unpack, unpack_sextets rest, Option.map_some, Option.some.injEq,
        List.cons.injEq, and_true]
      refine ⟨?_, ?_, ?_⟩
      · rw [UInt8.ofNat_eq_iff_mod_eq_toNat]
        omega
      · rw [UInt8.ofNat_eq_iff_mod_eq_toNat]
        omega
      · rw [UInt8.ofNat_eq_iff_mod_eq_toNat]
        omega

theorem decodeBytes_encodeBytes (bytes : List UInt8) :
    decodeBytes (encodeBytes bytes) = .ok bytes := by
  have hsymbols : symbols (encodeBytes bytes) = (sextets bytes, padding bytes) := by
    rw [encodeBytes_eq]
    exact symbols_append_pad (lt_of_mem_sextets bytes) (eq_pad_of_mem_padding bytes)
  have hlength : (encodeBytes bytes).length % 4 ≠ 1 := by
    rw [length_encodeBytes_mod]
    decide
  simp only [decodeBytes, hsymbols, if_neg hlength, tailError?_padding, unpack_sextets]

theorem ascii_of_mem_encodeBytes {bytes : List UInt8} {byte : UInt8}
    (h : byte ∈ encodeBytes bytes) : byte.toNat < 128 := by
  rw [encodeBytes_eq, List.mem_append] at h
  rcases h with h | h
  · obtain ⟨n, hn, rfl⟩ := List.mem_map.mp h
    exact symbol_ascii (lt_of_mem_sextets bytes n hn)
  · rw [eq_pad_of_mem_padding bytes byte h]
    decide

theorem toNat_charOfNat {n : Nat} (h : n < 128) : (Char.ofNat n).toNat = n := by
  revert n
  decide

theorem utf8_encode (bytes : List UInt8) : Utf8.encode (encode bytes) = encodeBytes bytes := by
  have hchar : ∀ byte ∈ encodeBytes bytes, (Char.ofNat byte.toNat).toNat = byte.toNat :=
    fun byte h => toNat_charOfNat (ascii_of_mem_encodeBytes h)
  rw [encode, Utf8.encode_ofList_ascii, List.map_map]
  · calc (encodeBytes bytes).map ((fun c => UInt8.ofNat c.toNat) ∘ fun b => Char.ofNat b.toNat)
        = (encodeBytes bytes).map id := by
          apply List.map_congr_left
          intro byte h
          simp [hchar byte h]
      _ = encodeBytes bytes := List.map_id _
  · intro c hc
    obtain ⟨byte, h, rfl⟩ := List.mem_map.mp hc
    rw [hchar byte h]
    exact ascii_of_mem_encodeBytes h

theorem decode_encode (bytes : List UInt8) : decode (encode bytes) = .ok bytes := by
  rw [decode, utf8_encode, decodeBytes_encodeBytes]

end StakingGateway.Base64
