import DeviceSecurity.Proofs.Base64.RoundTrip
import Mathlib.Logic.Basic
import Mathlib.Tactic.ByContra
import Mathlib.Tactic.SplitIfs

/-!
# Every byte string has one text

`encode_of_decode`: a text that decodes is what encoding its bytes writes, so that decoding accepts
the encoded texts and no others. A symbol stands for one number in every variant; the last group
is the place where texts could differ, and there the padding and the unused bits are fixed.
-/

namespace DeviceSecurity.Base64

open Variant.Readable (ofNat_of_eq length_padding_le)

variable {v : Variant}

/-! ## Symbols -/

/-- A symbol is the one of the number that it stands for. -/
theorem symbol_of_value? {x : UInt8} {n : Nat} (h : v.value? x = some n) :
    n < 64 ∧ v.symbol n = x := by
  unfold Variant.value? at h
  split_ifs at h with h62 h63 hupper hlower hdigit
  · obtain rfl := Option.some.inj h
    exact ⟨by decide, h62.symm⟩
  · obtain rfl := Option.some.inj h
    exact ⟨by decide, h63.symm⟩
  · obtain rfl := Option.some.inj h
    simp only [UInt8.le_iff_toNat_le, UInt8.reduceToNat] at hupper
    refine ⟨by omega, ?_⟩
    rw [Variant.symbol, if_pos (by omega)]
    exact ofNat_of_eq (by omega)
  · obtain rfl := Option.some.inj h
    simp only [UInt8.le_iff_toNat_le, UInt8.reduceToNat] at hlower
    refine ⟨by omega, ?_⟩
    rw [Variant.symbol, if_neg (by omega), if_pos (by omega)]
    exact ofNat_of_eq (by omega)
  · obtain rfl := Option.some.inj h
    simp only [UInt8.le_iff_toNat_le, UInt8.reduceToNat] at hdigit
    refine ⟨by omega, ?_⟩
    rw [Variant.symbol, if_neg (by omega), if_neg (by omega), if_pos (by omega)]
    exact ofNat_of_eq (by omega)

theorem symbol_of_sextet {offset : Nat} {x : UInt8} {n : Nat} (h : v.sextet offset x = .ok n) :
    n < 64 ∧ v.symbol n = x := by
  unfold Variant.sextet at h
  split at h
  · next hvalue =>
    obtain rfl := Except.ok.inj h
    exact symbol_of_value? hvalue
  · cases h

theorem symbols_of_sextets {offset : Nat} {b : Bytes} {l : List Nat}
    (h : v.sextets offset b = .ok l) : (∀ n ∈ l, n < 64) ∧ l.map v.symbol = b := by
  induction b generalizing offset l with
  | nil =>
    obtain rfl := Except.ok.inj h
    exact ⟨nofun, rfl⟩
  | cons x b ih =>
    obtain ⟨n, hn, h⟩ := bind_eq_ok.mp h
    obtain ⟨rest, hrest, h⟩ := bind_eq_ok.mp h
    obtain rfl := Except.ok.inj h
    obtain ⟨hlt, hsymbol⟩ := symbol_of_sextet hn
    obtain ⟨hltRest, hsymbols⟩ := ih hrest
    exact ⟨List.forall_mem_cons.mpr ⟨hlt, hltRest⟩, by rw [List.map_cons, hsymbol, hsymbols]⟩

/-! ## Groups -/

/-- The padding of a group is what encoding writes: it fills the group up to four in the variants
that have it. -/
theorem padding_eq {symbols : Nat} {padding : Bytes} (hpad : ∀ x ∈ padding, x = pad)
    (hpadded : if v.padded then symbols + padding.length = 4 else padding = []) :
    padding = v.padding (4 - symbols) := by
  unfold Variant.padding
  split
  · next hp =>
    rw [if_pos hp] at hpadded
    exact List.eq_replicate_iff.mpr ⟨by omega, hpad⟩
  · next hp => rwa [if_neg hp] at hpadded

/-- A last group that decodes is empty or made of two to four symbols whose unused bits are zero,
and of the padding that belongs to them. -/
theorem decodeLast_eq_ok {offset : Nat} {group b : Bytes} (hfour : group.length ≤ 4)
    (h : decodeLast v offset group = .ok b) :
    group = [] ∧ b = [] ∨ ∃ l : List Nat, (∀ n ∈ l, n < 64) ∧ 2 ≤ l.length ∧ l.length ≤ 4 ∧
      tailBytes l = (b, false) ∧ group = l.map v.symbol ++ v.padding (4 - l.length) := by
  have hgroup := List.takeWhile_append_dropWhile (p := (· ≠ pad)) (l := group)
  unfold decodeLast at h
  simp only at h
  generalize hsymbols : group.takeWhile (· ≠ pad) = symbols at h hgroup
  generalize hpadding : group.dropWhile (· ≠ pad) = padding at h hgroup
  rw [bind_eq_ok] at h
  obtain ⟨l, hl, h⟩ := h
  obtain ⟨hlt, rfl⟩ := symbols_of_sextets hl
  rw [List.length_map] at h
  split at h
  · cases h
  next hmisplaced =>
  split at h
  · cases h
  next hsingle =>
  split at h
  · cases h
  next hfill =>
  split at h
  · cases h
  next hbits =>
  by_cases hempty : group = []
  · subst hempty
    obtain ⟨hmap, -⟩ := List.append_eq_nil_iff.mp hgroup
    obtain rfl := List.map_eq_nil_iff.mp hmap
    exact .inl ⟨rfl, (Except.ok.inj h).symm⟩
  · have htwo : 2 ≤ l.length := by
      by_contra hshort
      exact hsingle ⟨hempty, by omega⟩
    have hlength : l.length + padding.length = group.length := by
      rw [← hgroup, List.length_append, List.length_map]
    have hpad : ∀ x ∈ padding, x = pad := by
      intro x hx
      by_contra hne
      have hany : padding.any (· ≠ pad) = true := List.any_eq_true.mpr ⟨x, hx, decide_eq_true hne⟩
      exact hmisplaced ⟨List.ne_nil_of_mem hx, .inr hany⟩
    have hpadded : if v.padded then l.length + padding.length = 4 else padding = [] := by
      split
      · next hp =>
        have hmod : group.length % 4 = 0 := by
          by_contra hne
          exact hfill (.inl ⟨hp, hne⟩)
        omega
      · next hp =>
        by_contra hne
        exact hfill (.inr ⟨by simpa using hp, hne⟩)
    refine .inr ⟨l, hlt, htwo, by omega, Prod.ext (Except.ok.inj h) (by simpa using hbits), ?_⟩
    rw [← padding_eq hpad hpadded]
    exact hgroup.symm

theorem toNat_first {w x : Nat} (hw : w < 64) (hx : x < 64) :
    (UInt8.ofNat (w * 4 + x / 16)).toNat = w * 4 + x / 16 := by
  rw [UInt8.toNat_ofNat']
  omega

theorem toNat_second (x : Nat) {y : Nat} (hy : y < 64) :
    (UInt8.ofNat (x % 16 * 16 + y / 4)).toNat = x % 16 * 16 + y / 4 := by
  rw [UInt8.toNat_ofNat']
  omega

/-- The bytes of four symbols are written with these symbols. -/
theorem encodeBytes_cons {w x y z : Nat} (hw : w < 64) (hx : x < 64) (hy : y < 64) (hz : z < 64)
    (rest : Bytes) :
    encodeBytes v (UInt8.ofNat (w * 4 + x / 16) :: UInt8.ofNat (x % 16 * 16 + y / 4) ::
      UInt8.ofNat (y % 4 * 64 + z) :: rest) =
        [w, x, y, z].map v.symbol ++ encodeBytes v rest := by
  have hfirst := toNat_first hw hx
  have hsecond := toNat_second x hy
  have hthird : (UInt8.ofNat (y % 4 * 64 + z)).toNat = y % 4 * 64 + z := by
    rw [UInt8.toNat_ofNat']
    omega
  rw [encodeBytes, hfirst, hsecond, hthird, show (w * 4 + x / 16) / 4 = w by omega,
    show (w * 4 + x / 16) % 4 * 16 + (x % 16 * 16 + y / 4) / 16 = x by omega,
    show (x % 16 * 16 + y / 4) % 16 * 4 + (y % 4 * 64 + z) / 64 = y by omega,
    show (y % 4 * 64 + z) % 64 = z by omega]
  rfl

/-- What two to four symbols say, encoding writes with the same symbols. -/
theorem encodeBytes_of_tailBytes {l : List Nat} {b : Bytes} (hlt : ∀ n ∈ l, n < 64)
    (htwo : 2 ≤ l.length) (hfour : l.length ≤ 4) (h : tailBytes l = (b, false)) :
    encodeBytes v b = l.map v.symbol ++ v.padding (4 - l.length) := by
  match l with
  | [w, x] =>
    simp only [List.forall_mem_cons, tailBytes, Prod.mk.injEq, decide_eq_false_iff_not,
      not_not] at hlt h
    obtain ⟨hw, hx, -⟩ := hlt
    obtain ⟨rfl, hbits⟩ := h
    have hfirst := toNat_first hw hx
    rw [encodeBytes, hfirst, show (w * 4 + x / 16) / 4 = w by omega,
      show (w * 4 + x / 16) % 4 * 16 = x by omega]
    rfl
  | [w, x, y] =>
    simp only [List.forall_mem_cons, tailBytes, Prod.mk.injEq, decide_eq_false_iff_not,
      not_not] at hlt h
    obtain ⟨hw, hx, hy, -⟩ := hlt
    obtain ⟨rfl, hbits⟩ := h
    have hfirst := toNat_first hw hx
    have hsecond := toNat_second x hy
    rw [encodeBytes, hfirst, hsecond, show (w * 4 + x / 16) / 4 = w by omega,
      show (w * 4 + x / 16) % 4 * 16 + (x % 16 * 16 + y / 4) / 16 = x by omega,
      show (x % 16 * 16 + y / 4) % 16 * 4 = y by omega]
    rfl
  | [w, x, y, z] =>
    simp only [List.forall_mem_cons, tailBytes, Prod.mk.injEq, and_true] at hlt h
    obtain ⟨hw, hx, hy, hz, -⟩ := hlt
    obtain rfl := h
    have hnone : v.padding 0 = [] := List.length_eq_zero_iff.mp
      (Nat.le_zero.mp (length_padding_le 0))
    rw [encodeBytes_cons hw hx hy hz, encodeBytes]
    exact (List.append_nil _).symm.trans (congrArg _ hnone.symm)

/-- Symbols in full groups are what encoding writes of three bytes for each group. -/
theorem exists_encodeBytes {l : List Char} {groups : Nat} (hlength : l.length = 4 * groups)
    (hsymbol : ∀ c ∈ l, ∃ n < 64, Char.ofNat (v.symbol n).toNat = c) :
    ∃ b : Bytes, b.length = 3 * groups ∧
      (encodeBytes v b).map (fun x => Char.ofNat x.toNat) = l := by
  induction groups generalizing l with
  | zero => exact ⟨[], rfl, (List.length_eq_zero_iff.mp hlength).symm⟩
  | succ groups ih =>
    match l, hlength with
    | c₀ :: c₁ :: c₂ :: c₃ :: rest, hlength =>
      simp only [List.forall_mem_cons] at hsymbol
      obtain ⟨⟨w, hw, rfl⟩, ⟨x, hx, rfl⟩, ⟨y, hy, rfl⟩, ⟨z, hz, rfl⟩, hrest⟩ := hsymbol
      obtain ⟨b, hb, rfl⟩ := ih (by simp only [List.length_cons] at hlength; omega) hrest
      refine ⟨_ :: _ :: _ :: b, ?_, congrArg _ (encodeBytes_cons hw hx hy hz b)⟩
      simp only [List.length_cons, hb]
      omega

/-- A text of symbols in full groups is the text of three bytes for each group. -/
theorem exists_encode {text : String} {groups : Nat} (hlength : text.length = 4 * groups)
    (hsymbol : ∀ c ∈ text.toList, ∃ n < 64, Char.ofNat (v.symbol n).toNat = c) :
    ∃ b : Bytes, b.length = 3 * groups ∧ encode v b = text := by
  obtain ⟨b, hb, htext⟩ := exists_encodeBytes (by rwa [String.length_toList]) hsymbol
  exact ⟨b, hb, by rw [encode, htext, String.ofList_toList]⟩

/-- Decoding group by group reads nothing but what encoding writes. -/
theorem encodeBytes_of_decodeGroups {offset : Nat} {text b : Bytes}
    (h : decodeGroups v offset text = .ok b) : encodeBytes v b = text := by
  fun_induction decodeGroups v offset text generalizing b with
  | case1 offset a₀ a₁ a₂ a₃ a₄ rest ih =>
    obtain ⟨w, hw, h⟩ := bind_eq_ok.mp h
    obtain ⟨x, hx, h⟩ := bind_eq_ok.mp h
    obtain ⟨y, hy, h⟩ := bind_eq_ok.mp h
    obtain ⟨z, hz, h⟩ := bind_eq_ok.mp h
    obtain ⟨more, hmore, h⟩ := bind_eq_ok.mp h
    obtain rfl := Except.ok.inj h
    obtain ⟨hltw, hsymw⟩ := symbol_of_sextet hw
    obtain ⟨hltx, hsymx⟩ := symbol_of_sextet hx
    obtain ⟨hlty, hsymy⟩ := symbol_of_sextet hy
    obtain ⟨hltz, hsymz⟩ := symbol_of_sextet hz
    rw [encodeBytes_cons hltw hltx hlty hltz, ih hmore, ← hsymw, ← hsymx, ← hsymy, ← hsymz]
    rfl
  | case2 offset group hshort =>
    have hlast : group.length ≤ 4 := by
      match group, hshort with
      | [], _ | [_], _ | [_, _], _ | [_, _, _], _ | [_, _, _, _], _ => simp
      | _ :: _ :: _ :: _ :: _ :: _, hshort => exact (hshort _ _ _ _ _ _ rfl).elim
    rcases decodeLast_eq_ok hlast h with ⟨rfl, rfl⟩ | ⟨l, hlt, htwo, hfour, htail, rfl⟩
    · rfl
    · exact encodeBytes_of_tailBytes hlt htwo hfour htail

/-! ## Texts -/

namespace Variant.Readable

variable (hv : v.Readable)

include hv

/-- A text that decodes is the encoding of its bytes. -/
theorem encode_of_decode {text : String} {b : Bytes} (h : decode v text = .ok b) :
    encode v b = text := by
  unfold decode decodeBytes at h
  split at h
  · cases h
  · have hbytes : Bytes.ofText (encode v b) = Bytes.ofText text := by
      rw [hv.ofText_encode, encodeBytes_of_decodeGroups h]
    exact Bytes.ofText_injective hbytes

end Variant.Readable

end DeviceSecurity.Base64
