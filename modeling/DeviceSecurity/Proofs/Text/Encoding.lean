import DeviceSecurity.Bytes
import DeviceSecurity.Proofs.Text.Folding
import Mathlib.Tactic.SplitIfs

/-!
# The bytes of a text

An ASCII character is one byte with its number, and every other character is several bytes that no
ASCII character has. So a property that does not tell bytes beyond ASCII apart holds of the bytes of
a text if it holds of the characters (`Bytes.forall_mem_ofText`).
-/

namespace DeviceSecurity.Bytes

theorem ofText_ofList (l : List Char) :
    ofText (String.ofList l) = l.flatMap String.utf8EncodeChar := by
  simp [ofText, String.toUTF8, List.utf8Encode]

theorem ofText_eq_flatMap (s : String) : ofText s = s.toList.flatMap String.utf8EncodeChar := by
  rw [← ofText_ofList, String.ofList_toList]

theorem utf8EncodeChar_of_isAscii {c : Char} (h : Text.IsAscii c) :
    String.utf8EncodeChar c = [UInt8.ofNat c.toNat] := by
  have hlow : c.val.toNat ≤ 127 := Nat.le_of_lt_succ h
  unfold String.utf8EncodeChar
  exact if_pos hlow

theorem le_of_mem_utf8EncodeChar {c : Char} (h : ¬Text.IsAscii c) :
    ∀ x ∈ String.utf8EncodeChar c, 0x80 ≤ x.toNat := by
  have hhigh : ¬c.val.toNat ≤ 127 := fun hlow => h (Nat.lt_succ_of_le hlow)
  unfold String.utf8EncodeChar
  simp only [hhigh, if_false]
  -- Two, three or four bytes: one that opens the group, and those that continue it.
  split_ifs <;>
    · simp only [List.forall_mem_cons, List.not_mem_nil, false_imp_iff, implies_true, and_true,
        UInt8.toNat_ofNat']
      omega

/-- Where bytes beyond ASCII are not told apart, what holds of the bytes of a text is what holds of
its characters. -/
theorem forall_mem_ofText {P : Nat → Prop} (hhigh : ∀ m n, 0x80 ≤ m → 0x80 ≤ n → P m → P n)
    {s : String} : (∀ x ∈ ofText s, P x.toNat) ↔ ∀ c ∈ s.toList, P c.toNat := by
  have hchar : ∀ c, (∀ x ∈ String.utf8EncodeChar c, P x.toNat) ↔ P c.toNat := by
    intro c
    by_cases hc : Text.IsAscii c
    · have hbyte : (UInt8.ofNat c.toNat).toNat = c.toNat := by
        have hlt : c.toNat < 0x80 := hc
        rw [UInt8.toNat_ofNat']
        omega
      rw [utf8EncodeChar_of_isAscii hc, List.forall_mem_singleton, hbyte]
    · have hle : 0x80 ≤ c.toNat := Nat.le_of_not_lt hc
      have hbytes := le_of_mem_utf8EncodeChar hc
      constructor
      · intro h
        obtain ⟨x, hx⟩ := List.exists_mem_of_ne_nil _ (String.utf8EncodeChar_ne_nil (c := c))
        exact hhigh _ _ (hbytes x hx) hle (h x hx)
      · intro h x hx
        exact hhigh _ _ hle (hbytes x hx) h
  rw [ofText_eq_flatMap]
  simp only [List.forall_mem_flatMap, hchar]

/-- An ASCII text has as many bytes as characters. -/
theorem length_ofText {s : String} (h : ∀ c ∈ s.toList, Text.IsAscii c) :
    (ofText s).length = s.length := by
  have hchars : ∀ l : List Char, (∀ c ∈ l, Text.IsAscii c) →
      (l.flatMap String.utf8EncodeChar).length = l.length := by
    intro l hl
    induction l with
    | nil => rfl
    | cons c l ih =>
      obtain ⟨hc, hl⟩ := List.forall_mem_cons.mp hl
      rw [List.flatMap_cons, List.length_append, utf8EncodeChar_of_isAscii hc, ih hl,
        List.length_singleton, List.length_cons, Nat.add_comm]
  rw [ofText_eq_flatMap, hchars _ h, String.length_toList]

end DeviceSecurity.Bytes
