import Mathlib
import StakingGateway.Json.Parse
import StakingGateway.Json.Render
import StakingGateway.Proofs.Bytes.Text

/-!
# Strings in JSON text

A string is taken as pieces, which are then put together.  What is written for a character gives
pieces that stand for the bytes of the character (`Spells.escaped`), whatever was taken before and
whatever follows, so what is written for a string stands for the string.  The main statement is
`readString_quoted`.
-/

namespace StakingGateway.Json

/-- What is written is taken as pieces, and the pieces stand for the bytes that are meant, wherever
in a string that is. -/
structure Spells (written meant : List UInt8) (pieces : List Piece) : Prop where
  takePieces_eq (found : List Piece) (rest : List UInt8) :
    takePieces found (written ++ rest) = takePieces (pieces.reverse ++ found) rest
  assemble_eq (found : List UInt8) (rest : List Piece) :
    assemble found (pieces ++ rest) = assemble (meant.reverse ++ found) rest

theorem hexDigit_ascii {n : Nat} (h : n < 16) : (hexDigit n).toNat < 128 := by
  revert n
  decide

theorem hexDigit?_hexDigit {n : Nat} (h : n < 16) :
    hexDigit? (UInt8.ofNat (hexDigit n).toNat) = some n := by
  revert n
  decide

theorem assemble_unit {unit : Nat} (h : unit < 0xd800) (found : List UInt8) (pieces : List Piece) :
    assemble found (.unit unit :: pieces)
      = assemble ((String.utf8EncodeChar (Char.ofNat unit)).reverse ++ found) pieces := by
  have hhigh : isHighSurrogate unit = false := by simp [isHighSurrogate]; omega
  have hlow : isLowSurrogate unit = false := by simp [isLowSurrogate]; omega
  rw [← Utf8.encode_singleton]
  rcases pieces with _ | ⟨_ | _, _⟩ <;> simp [assemble, hhigh, hlow]

namespace Spells

variable {written written' meant meant' : List UInt8} {pieces pieces' : List Piece}

theorem nil : Spells [] [] [] :=
  ⟨fun _ _ => rfl, fun _ _ => rfl⟩

theorem append (h : Spells written meant pieces) (h' : Spells written' meant' pieces') :
    Spells (written ++ written') (meant ++ meant') (pieces ++ pieces') where
  takePieces_eq found rest := by
    rw [List.append_assoc, h.takePieces_eq, h'.takePieces_eq, List.reverse_append,
      List.append_assoc]
  assemble_eq found rest := by
    rw [List.append_assoc, h.assemble_eq, h'.assemble_eq, List.reverse_append, List.append_assoc]

theorem byte {byte : UInt8} (hcontrol : 0x20 ≤ byte) (hquote : byte ≠ 0x22)
    (hbackslash : byte ≠ 0x5c) : Spells [byte] [byte] [.byte byte] where
  takePieces_eq found rest := by
    have hplain : (byte < 0x20 || byte = 0x5c) = false := by
      simp [UInt8.not_lt.mpr hcontrol, hbackslash]
    rw [List.singleton_append, takePieces]
    · simp [hplain]
    all_goals simp_all
  assemble_eq found rest := rfl

theorem bytes {bytes : List UInt8} (h : ∀ byte ∈ bytes, 128 ≤ byte.toNat) :
    ∃ pieces, Spells bytes bytes pieces := by
  induction bytes with
  | nil => exact ⟨[], nil⟩
  | cons head tail ih =>
      obtain ⟨pieces, htail⟩ := ih fun byte hbyte => h byte (List.mem_cons_of_mem _ hbyte)
      have hhead := h head List.mem_cons_self
      refine ⟨_, (byte ?_ ?_ ?_).append htail⟩
      · rw [UInt8.le_iff_toNat_le]
        exact Nat.le_trans (by decide) hhead
      · rintro rfl
        exact absurd hhead (by decide)
      · rintro rfl
        exact absurd hhead (by decide)

theorem escape (letter : UInt8) {meant : UInt8} (hunit : letter ≠ 0x75)
    (h : escape? letter = some meant) : Spells [0x5c, letter] [meant] [.byte meant] where
  takePieces_eq found rest := by
    rw [List.cons_append, List.singleton_append, takePieces]
    · simp [h]
    · simp_all
  assemble_eq found rest := rfl

theorem unit {c : Char} (h : c.toNat < 0x20) :
    Spells (['\\', 'u', '0', '0', hexDigit (c.toNat / 16), hexDigit (c.toNat % 16)].flatMap
      String.utf8EncodeChar) (String.utf8EncodeChar c) [.unit c.toNat] where
  takePieces_eq found rest := by
    have hhigh : c.toNat / 16 < 16 := by omega
    have hlow : c.toNat % 16 < 16 := by omega
    have hvalue : ((0 * 16 + 0) * 16 + c.toNat / 16) * 16 + c.toNat % 16 = c.toNat := by omega
    simp only [List.flatMap_cons, List.flatMap_nil,
      Utf8.utf8EncodeChar_ascii (hexDigit_ascii hhigh),
      Utf8.utf8EncodeChar_ascii (hexDigit_ascii hlow)]
    change takePieces found (0x5c :: 0x75 :: 0x30 :: 0x30 :: _ :: _ :: rest) = _
    rw [takePieces, hexDigit?_hexDigit hhigh, hexDigit?_hexDigit hlow]
    change takePieces (.unit (((0 * 16 + 0) * 16 + c.toNat / 16) * 16 + c.toNat % 16) :: found)
      rest = _
    rw [hvalue]
    rfl
  assemble_eq found rest := by
    rw [List.singleton_append, assemble_unit (Nat.lt_trans h (by decide)), Char.ofNat_toNat]

/-- What is written for a character stands for it. -/
theorem escaped (c : Char) : ∃ pieces, Spells ((escaped c).flatMap String.utf8EncodeChar)
    (String.utf8EncodeChar c) pieces := by
  unfold Json.escaped
  split_ifs with hquote hbackslash hprinted hn hr ht hb hf
  · subst hquote
    exact ⟨_, escape 0x22 (by decide) rfl⟩
  · subst hbackslash
    exact ⟨_, escape 0x5c (by decide) rfl⟩
  · rw [List.flatMap_singleton]
    by_cases hascii : c.toNat < 128
    · have hbyte : (UInt8.ofNat c.toNat).toNat = c.toNat := by
        rw [UInt8.toNat_ofNat']
        omega
      rw [Utf8.utf8EncodeChar_ascii hascii]
      refine ⟨_, byte ?_ ?_ ?_⟩
      · rwa [UInt8.le_iff_toNat_le, hbyte]
      · exact fun h => hquote (Char.toNat_inj.mp (hbyte.symm.trans (congrArg UInt8.toNat h)))
      · exact fun h => hbackslash (Char.toNat_inj.mp (hbyte.symm.trans (congrArg UInt8.toNat h)))
    · -- None of its bytes could be taken for a quote or a backslash.
      exact bytes (Utf8.le_of_mem_utf8EncodeChar (Nat.le_of_not_lt hascii))
  · subst hn
    exact ⟨_, escape 0x6e (by decide) rfl⟩
  · subst hr
    exact ⟨_, escape 0x72 (by decide) rfl⟩
  · subst ht
    exact ⟨_, escape 0x74 (by decide) rfl⟩
  · obtain rfl : c = Char.ofNat 8 := by rw [← Char.ofNat_toNat c, hb]
    exact ⟨_, escape 0x62 (by decide) rfl⟩
  · obtain rfl : c = Char.ofNat 12 := by rw [← Char.ofNat_toNat c, hf]
    exact ⟨_, escape 0x66 (by decide) rfl⟩
  · exact ⟨_, unit (Nat.lt_of_not_le hprinted)⟩

theorem chars : ∀ text : List Char, ∃ pieces,
    Spells ((text.flatMap Json.escaped).flatMap String.utf8EncodeChar)
      (text.flatMap String.utf8EncodeChar) pieces
  | [] => ⟨[], nil⟩
  | c :: rest => by
      obtain ⟨first, hfirst⟩ := escaped c
      obtain ⟨others, hothers⟩ := chars rest
      rw [List.flatMap_cons, List.flatMap_append, List.flatMap_cons]
      exact ⟨_, hfirst.append hothers⟩

end Spells

/-- A quoted string is read, behind its opening quote, as the string. -/
theorem readString_quoted (text : String) :
    ∃ written, Utf8.encode (quoted text) = 0x22 :: written ∧
      ∀ rest, readString (written ++ rest) = some (some text, rest) := by
  obtain ⟨pieces, hpieces⟩ := Spells.chars text.toList
  refine ⟨(text.toList.flatMap escaped).flatMap String.utf8EncodeChar ++ [0x22], ?_, fun rest => ?_⟩
  · have hquote : Utf8.encode "\"" = [0x22] := rfl
    rw [quoted, Utf8.encode_append, Utf8.encode_append, hquote,
      Utf8.encode_ofList (text.toList.flatMap escaped), List.singleton_append, List.cons_append]
  · have htake : takePieces [] ((text.toList.flatMap escaped).flatMap String.utf8EncodeChar
        ++ 0x22 :: rest) = some (pieces, rest) := by
      rw [hpieces.takePieces_eq, List.append_nil, takePieces, List.reverse_reverse]
    have hassemble := hpieces.assemble_eq [] []
    rw [List.append_nil, List.append_nil, ← Utf8.encode_eq_flatMap, assemble,
      List.reverse_reverse] at hassemble
    rw [readString, List.append_assoc, List.singleton_append, htake]
    change some ((assemble [] pieces).bind Utf8.decode?, rest) = _
    rw [hassemble, Option.bind_some, Utf8.decode?_encode]

end StakingGateway.Json
