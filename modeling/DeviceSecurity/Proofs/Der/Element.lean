import DeviceSecurity.Der.SubjectKey
import DeviceSecurity.Proofs.Result

/-!
# Reading what was written

An element that is written as an identifier, the length of its content and the content is read back
with what follows it left over.
-/

namespace DeviceSecurity.Der

/-- The bytes are a length, whatever follows them. -/
def IsLength (b : Bytes) (length : Nat) : Prop := ∀ rest, length? (b ++ rest) = some (length, rest)

theorem isLength_short {x : UInt8} (h : x < 0x80) : IsLength [x] x.toNat := by
  intro rest
  show length? (x :: rest) = _
  rw [length?, if_pos h]

/-- A length in one byte behind the number of bytes. -/
theorem isLength_long (x : UInt8) : IsLength [0x81, x] x.toNat := by
  intro rest
  have hlt : x.toNat < 256 := x.toNat_lt
  show length? (0x81 :: x :: rest) = _
  simp [length?, Bytes.toNat]
  omega

/-- The element behind an identifier of one byte. -/
def Element.ofIdentifier (id : UInt8) (content : Bytes) : Element :=
  ⟨.ofBits (id.toNat / 64), id.toNat / 32 % 2 == 1, id.toNat % 32, content⟩

theorem Element.read?_append {id : UInt8} {lengthBytes content : Bytes} (hid : id.toNat % 32 ≠ 31)
    (hlength : IsLength lengthBytes content.length) (rest : Bytes) :
    Element.read? (id :: lengthBytes ++ content ++ rest) =
      some (.ofIdentifier id content, rest) := by
  have hread : length? (lengthBytes ++ (content ++ rest)) =
      some (content.length, content ++ rest) := hlength _
  have hid' : identifier? (id :: (lengthBytes ++ (content ++ rest))) =
      some ((.ofBits (id.toNat / 64), id.toNat / 32 % 2 == 1, id.toNat % 32),
        lengthBytes ++ (content ++ rest)) := by
    rw [identifier?, if_neg hid]
  simp [Element.read?, hid', hread, Element.ofIdentifier]

/-- A bit string without unused bits. -/
theorem bits?_zero_cons (b : Bytes) : bits? (0x00 :: b) = some b := by
  rcases List.eq_nil_or_concat b with rfl | ⟨init, last, rfl⟩
  · rfl
  · simp [bits?, Nat.mod_one]

theorem bitString?_append {lengthBytes b : Bytes} (hlength : IsLength lengthBytes (b.length + 1))
    (rest : Bytes) :
    bitString? (0x03 :: lengthBytes ++ (0x00 :: b) ++ rest) = some (b, rest) := by
  have hlength : IsLength lengthBytes (0x00 :: b).length := hlength
  have hread := Element.read?_append (by decide : (0x03 : UInt8).toNat % 32 ≠ 31) hlength rest
  rw [bitString?, Element.expect?, hread]
  show (bits? (0x00 :: b)).bind _ = _
  rw [bits?_zero_cons]
  rfl

/-- A key in a sequence of an algorithm identifier and a bit string. -/
theorem SubjectKey.read?_append {outerLength algorithmBytes innerLength key : Bytes}
    {algorithm : Algorithm}
    (houter : IsLength outerLength (algorithmBytes.length + innerLength.length + key.length + 2))
    (halgorithm : ∀ rest, Algorithm.read? (algorithmBytes ++ rest) = some (algorithm, rest))
    (hinner : IsLength innerLength (key.length + 1)) (rest : Bytes) :
    ∃ encoded, SubjectKey.read? (0x30 :: outerLength ++
      (algorithmBytes ++ (0x03 :: innerLength ++ (0x00 :: key))) ++ rest) =
        some (⟨algorithm, encoded, key⟩, rest) := by
  have hlength : (algorithmBytes ++ (0x03 :: innerLength ++ (0x00 :: key))).length =
      algorithmBytes.length + innerLength.length + key.length + 2 := by
    simp
    omega
  rw [← hlength] at houter
  have hread := Element.read?_append (by decide : (0x30 : UInt8).toNat % 32 ≠ 31) houter rest
  have hbits := bitString?_append hinner []
  rw [List.append_nil] at hbits
  have halgorithm := halgorithm (0x03 :: innerLength ++ (0x00 :: key))
  generalize algorithmBytes ++ (0x03 :: innerLength ++ (0x00 :: key)) = content at *
  rw [SubjectKey.read?, Element.expect?, hread]
  show ∃ encoded, ((Algorithm.read? content).bind _) = _
  rw [halgorithm]
  show ∃ encoded, ((bitString? _).bind _) = _
  rw [hbits]
  exact ⟨_, rfl⟩

end DeviceSecurity.Der
