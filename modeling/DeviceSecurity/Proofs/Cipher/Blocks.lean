import DeviceSecurity.Cipher.Aes
import Mathlib.Data.List.Induction

/-!
# Byte strings cut into blocks

A block has the bytes it was read from and is read from its bytes (`Block.bytes_ofBytes`,
`Block.bytes_injective`). Two byte strings of one length that differ within one block of sixteen
bytes are cut into lists that differ in one member (`Block.ChangedIn.split_eq`).
-/

namespace DeviceSecurity

/-! ## Numbers -/

namespace Bytes

/-- The digits of the number that a byte string spells are its bytes. -/
theorem ofNat_toNat (b : Bytes) : ofNat b.length (toNat b) = b := by
  induction b using List.reverseRecOn with
  | nil => rfl
  | append_singleton b x ih =>
    have hx : x.toNat < 256 := x.toNat_lt
    have hinit : (toNat b * 256 + x.toNat) / 256 = toNat b := by omega
    have hlast : UInt8.ofNat (toNat b * 256 + x.toNat) = x := by
      apply UInt8.toNat_inj.mp
      rw [UInt8.toNat_ofNat']
      omega
    rw [List.length_append, List.length_singleton, toNat_append_singleton, ofNat, hinit, ih, hlast]

theorem toNat_lt (b : Bytes) : toNat b < Nat.pow 256 b.length := by
  have h := toNat_ofNat b.length (toNat b)
  rw [ofNat_toNat] at h
  rw [h]
  exact Nat.mod_lt _ (Nat.pow_pos (by omega))

/-! ## Cuts -/

/-- No more blocks are counted than there are. -/
theorem blocksUpTo_eq {size : Nat} (hsize : 0 < size) {m n : Nat} {b : Bytes}
    (hm : b.length ≤ m) (hn : b.length ≤ n) : blocksUpTo size m b = blocksUpTo size n b := by
  induction m generalizing n b with
  | zero =>
    obtain rfl := List.length_eq_zero_iff.mp (Nat.le_zero.mp hm)
    cases n <;> rfl
  | succ m ih =>
    cases b with
    | nil => cases n <;> rfl
    | cons x b =>
      cases n with
      | zero => simp at hn
      | succ n =>
        have hm' : ((x :: b).drop size).length ≤ m := by
          rw [List.length_drop]
          omega
        have hn' : ((x :: b).drop size).length ≤ n := by
          rw [List.length_drop]
          omega
        rw [blocksUpTo, blocksUpTo, ih hm' hn'] <;> exact List.cons_ne_nil x b

theorem blocks_eq_cons {size : Nat} (hsize : 0 < size) {b : Bytes} (hb : b ≠ []) :
    blocks size b = b.take size :: blocks size (b.drop size) := by
  cases b with
  | nil => exact absurd rfl hb
  | cons x b =>
    have hdrop : ((x :: b).drop size).length ≤ b.length := by
      rw [List.length_drop, List.length_cons]
      omega
    rw [blocks, List.length_cons, blocksUpTo, blocksUpTo_eq hsize hdrop (Nat.le_refl _), blocks]
    exact List.cons_ne_nil x b

end Bytes

namespace Block

theorem bytes_ofBytes {b : Bytes} (h : b.length ≤ 16) :
    (ofBytes b).bytes = b ++ List.replicate (16 - b.length) 0 := by
  have hlength : (b ++ List.replicate (16 - b.length) 0).length = 16 := by
    simp
    omega
  have hlt := Bytes.toNat_lt (b ++ List.replicate (16 - b.length) 0)
  have hback := Bytes.ofNat_toNat (b ++ List.replicate (16 - b.length) 0)
  rw [hlength] at hlt hback
  rw [bytes, ofBytes, BitVec.toNat_ofNat, Nat.mod_eq_of_lt hlt, hback]

theorem ofBytes_inj {a b : Bytes} (ha : a.length ≤ 16) (hlength : a.length = b.length)
    (h : ofBytes a = ofBytes b) : a = b := by
  have hbytes := congrArg bytes h
  rw [bytes_ofBytes ha, bytes_ofBytes (hlength ▸ ha)] at hbytes
  exact (List.append_inj hbytes hlength).1

theorem bytes_injective {x y : Block} (h : x.bytes = y.bytes) : x = y := by
  have hnat := congrArg Bytes.toNat h
  rw [bytes, bytes, Bytes.toNat_ofNat, Bytes.toNat_ofNat, Nat.mod_eq_of_lt x.isLt,
    Nat.mod_eq_of_lt y.isLt] at hnat
  exact BitVec.eq_of_toNat_eq hnat

theorem split_eq_cons {b : Bytes} (hb : b ≠ []) :
    split b = ofBytes (b.take 16) :: split (b.drop 16) := by
  rw [split, Bytes.blocks_eq_cons (by omega) hb]
  rfl

/-- Strings of one length that differ within the block `i` and nowhere else. -/
structure ChangedIn (i : Nat) (a b : Bytes) : Prop where
  length_eq : a.length = b.length
  ne : a ≠ b
  outside : ∀ j, j / 16 ≠ i → a[j]? = b[j]?

namespace ChangedIn

variable {i : Nat} {a b : Bytes}

theorem ne_nil (h : ChangedIn i a b) : a ≠ [] ∧ b ≠ [] := by
  have hlength := h.length_eq
  refine ⟨?_, ?_⟩ <;> rintro rfl
  · exact h.ne (List.length_eq_zero_iff.mp hlength.symm).symm
  · exact h.ne (List.length_eq_zero_iff.mp hlength)

theorem drop_eq (h : ChangedIn 0 a b) : a.drop 16 = b.drop 16 := by
  refine List.ext_getElem? fun j => ?_
  rw [List.getElem?_drop, List.getElem?_drop]
  exact h.outside _ (by omega)

theorem take_eq (h : ChangedIn (i + 1) a b) : a.take 16 = b.take 16 := by
  refine List.ext_getElem? fun j => ?_
  rw [List.getElem?_take, List.getElem?_take]
  split
  · exact h.outside j (by omega)
  · rfl

theorem drop (h : ChangedIn (i + 1) a b) : ChangedIn i (a.drop 16) (b.drop 16) where
  length_eq := by rw [List.length_drop, List.length_drop, h.length_eq]
  ne hdrop := h.ne (by
    rw [← List.take_append_drop 16 a, h.take_eq, hdrop, List.take_append_drop])
  outside j hj := by
    rw [List.getElem?_drop, List.getElem?_drop]
    exact h.outside _ (by omega)

/-- A change within one block is a change of one block. -/
theorem split_eq (h : ChangedIn i a b) :
    ∃ before x y after, x ≠ y ∧ split a = before ++ x :: after ∧
      split b = before ++ y :: after := by
  -- the blocks before the changed one are equal and come off one by one
  induction i generalizing a b with
  | zero =>
    refine ⟨[], ofBytes (a.take 16), ofBytes (b.take 16), split (a.drop 16), fun hfirst => ?_,
      split_eq_cons h.ne_nil.1, ?_⟩
    · have htake : a.take 16 = b.take 16 :=
        ofBytes_inj (List.length_take_le 16 a) (by simp [h.length_eq]) hfirst
      exact h.ne (by
        rw [← List.take_append_drop 16 a, htake, h.drop_eq, List.take_append_drop])
    · rw [split_eq_cons h.ne_nil.2, h.drop_eq]
      rfl
  | succ i ih =>
    obtain ⟨before, x, y, after, hne, ha, hb⟩ := ih h.drop
    refine ⟨ofBytes (a.take 16) :: before, x, y, after, hne, ?_, ?_⟩
    · rw [split_eq_cons h.ne_nil.1, ha]
      rfl
    · rw [split_eq_cons h.ne_nil.2, hb, h.take_eq]
      rfl

end ChangedIn

end Block

end DeviceSecurity
