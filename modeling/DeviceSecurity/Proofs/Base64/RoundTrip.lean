import DeviceSecurity.Base64
import DeviceSecurity.Proofs.Result
import DeviceSecurity.Proofs.Text.Folding
import DeviceSecurity.Text.Basic

/-!
# Reading back what base64 wrote

`decode_encode`: decoding an encoded byte string gives the byte string back, in any variant whose
symbols are told apart (`Variant.Readable`), as those of `standard` and `urlSafe` are. An encoded
text is printable ASCII, so that trimming leaves it alone.
-/

namespace DeviceSecurity

/-- The UTF-8 bytes of a text of ASCII characters are the characters' numbers. -/
theorem Bytes.ofText_ofList_ascii {b : Bytes} (h : ∀ x ∈ b, x.toNat < 0x80) :
    Bytes.ofText (String.ofList (b.map fun x => Char.ofNat x.toNat)) = b := by
  have hchar : ∀ x ∈ b, String.utf8EncodeChar (Char.ofNat x.toNat) = [x] := by
    intro x hx
    have hlt : x.toNat < 0x80 := h x hx
    have hval : (Char.ofNat x.toNat).val = x.toUInt32 := by
      apply UInt32.toNat_inj.mp
      rw [UInt8.toNat_toUInt32]
      exact Text.toNat_ofNat (Or.inl (by omega))
    have hsize : (Char.ofNat x.toNat).utf8Size = 1 := by
      rw [Char.utf8Size_eq_one_iff, hval, UInt32.le_iff_toNat_le]
      simp
      omega
    rw [String.utf8EncodeChar_eq_singleton hsize, hval]
    simp
  have hbytes : (b.map fun x => Char.ofNat x.toNat).flatMap String.utf8EncodeChar = b := by
    induction b with
    | nil => rfl
    | cons x b ih =>
      have hb := ih (fun y hy => h y (List.mem_cons_of_mem x hy))
        (fun y hy => hchar y (List.mem_cons_of_mem x hy))
      rw [List.map_cons, List.flatMap_cons, hchar x List.mem_cons_self, hb]
      rfl
  simp [ofText, String.toUTF8, List.utf8Encode, hbytes]

namespace Base64

/-! ## Symbols -/

/-- Every number below 64 is read back from its symbol, which is printable ASCII and no padding. -/
structure Variant.Readable (v : Variant) : Prop where
  value?_symbol : ∀ n < 64, v.value? (v.symbol n) = some n
  symbol_ne_pad : ∀ n < 64, v.symbol n ≠ pad
  symbol_printable : ∀ n < 64, 0x20 < (v.symbol n).toNat ∧ (v.symbol n).toNat < 0x7f

theorem readable_standard : Variant.standard.Readable :=
  ⟨by decide, by decide, by decide⟩

theorem readable_urlSafe : Variant.urlSafe.Readable :=
  ⟨by decide, by decide, by decide⟩

namespace Variant.Readable

variable {v : Variant} (hv : v.Readable)

include hv

theorem sextet_symbol (offset : Nat) {n : Nat} (hn : n < 64) :
    v.sextet offset (v.symbol n) = .ok n := by
  rw [sextet, hv.value?_symbol n hn]

theorem sextets_symbols (offset : Nat) {l : List Nat} (hl : ∀ n ∈ l, n < 64) :
    v.sextets offset (l.map v.symbol) = .ok l := by
  induction l generalizing offset with
  | nil => rfl
  | cons n l ih =>
    have hn : n < 64 := hl n List.mem_cons_self
    have hrest := ih (offset + 1) fun m hm => hl m (List.mem_cons_of_mem n hm)
    simp [sextets, hv.sextet_symbol offset hn, hrest]

/-! ## Groups -/

/-- A last group of two to four symbols, filled up with padding where the variant has it. -/
theorem decodeLast_symbols (offset : Nat) {l : List Nat} (hl : ∀ n ∈ l, n < 64) (k : Nat)
    (hk : if v.padded then l.length + k = 4 else k = 0) (htwo : 2 ≤ l.length)
    (hbits : (tailBytes l).2 = false) :
    decodeLast v offset (l.map v.symbol ++ List.replicate k pad) = .ok (tailBytes l).1 := by
  have hsymbol : ∀ x ∈ l.map v.symbol, (decide (x ≠ pad)) = true := by
    intro x hx
    obtain ⟨n, hn, rfl⟩ := List.mem_map.mp hx
    exact decide_eq_true (hv.symbol_ne_pad n (hl n hn))
  have htake : (l.map v.symbol ++ List.replicate k pad).takeWhile (· ≠ pad) = l.map v.symbol := by
    rw [List.takeWhile_append_of_pos hsymbol]
    cases k <;> simp [List.replicate_succ]
  have hdrop : (l.map v.symbol ++ List.replicate k pad).dropWhile (· ≠ pad) =
      List.replicate k pad := by
    rw [List.dropWhile_append_of_pos hsymbol]
    cases k <;> simp [List.replicate_succ]
  have hany : (List.replicate k pad).any (· ≠ pad) = false := by simp
  have hshort : ¬ l.length < 2 := by omega
  have hpadding : ¬ (v.padded = true ∧ ¬ (l.length + k) % 4 = 0 ∨ v.padded = false ∧ ¬ k = 0) := by
    cases hp : v.padded <;> simp_all
  unfold decodeLast
  simp only [htake, hdrop, hv.sextets_symbols offset hl, hany, ok_bind]
  simp [hshort, hpadding, hbits]

/-- Padding fills the last group up to four in the variants that have it. -/
theorem decodeLast_group (offset : Nat) {l : List Nat} (hl : ∀ n ∈ l, n < 64)
    (htwo : 2 ≤ l.length) (hfour : l.length ≤ 4) (hbits : (tailBytes l).2 = false) :
    decodeLast v offset (l.map v.symbol ++ v.padding (4 - l.length)) = .ok (tailBytes l).1 := by
  unfold Variant.padding
  split
  · next hp => exact hv.decodeLast_symbols offset hl _ (by rw [if_pos hp]; omega) htwo hbits
  · next hp =>
    have h := hv.decodeLast_symbols offset hl 0 (by rw [if_neg hp]) htwo hbits
    rwa [List.replicate_zero] at h

omit hv in
theorem decodeGroups_short (offset : Nat) {group : Bytes} (h : group.length ≤ 4) :
    decodeGroups v offset group = decodeLast v offset group := by
  unfold decodeGroups
  split
  · simp only [List.length_cons] at h
    omega
  · rfl

omit hv in
theorem length_padding_le (n : Nat) : (v.padding n).length ≤ n := by
  unfold Variant.padding
  split <;> simp

/-- Decoding a text of one group undoes encoding. -/
theorem decodeGroups_group (offset : Nat) {l : List Nat} (hl : ∀ n ∈ l, n < 64)
    (htwo : 2 ≤ l.length) (hfour : l.length ≤ 4) (hbits : (tailBytes l).2 = false) :
    decodeGroups v offset (l.map v.symbol ++ v.padding (4 - l.length)) = .ok (tailBytes l).1 := by
  have hlength := length_padding_le (v := v) (4 - l.length)
  rw [decodeGroups_short offset (by simp; omega)]
  exact hv.decodeLast_group offset hl htwo hfour hbits

omit hv in
theorem ofNat_of_eq {x : UInt8} {n : Nat} (h : n = x.toNat) : UInt8.ofNat n = x := by
  rw [h, UInt8.ofNat_toNat]

/-- Decoding group by group undoes encoding. -/
theorem decodeGroups_encodeBytes (offset : Nat) (b : Bytes) :
    decodeGroups v offset (encodeBytes v b) = .ok b := by
  fun_induction encodeBytes v b generalizing offset with
  | case1 => cases hp : v.padded <;> simp [decodeGroups, decodeLast, Variant.sextets, hp, tailBytes]
  | case2 a =>
    have ha := a.toNat_lt
    have htail : tailBytes [a.toNat / 4, a.toNat % 4 * 16] = ([a], false) := by
      rw [tailBytes, ofNat_of_eq (x := a) (by omega)]
      simp
    have hgroup := hv.decodeGroups_group offset (l := [a.toNat / 4, a.toNat % 4 * 16])
      (by simp; omega) (by simp) (by simp) (by rw [htail])
    rw [htail] at hgroup
    exact hgroup
  | case3 a b =>
    have ha := a.toNat_lt
    have hb := b.toNat_lt
    have htail : tailBytes [a.toNat / 4, a.toNat % 4 * 16 + b.toNat / 16, b.toNat % 16 * 4] =
        ([a, b], false) := by
      rw [tailBytes, ofNat_of_eq (x := a) (by omega), ofNat_of_eq (x := b) (by omega)]
      simp
    have hgroup := hv.decodeGroups_group offset
      (l := [a.toNat / 4, a.toNat % 4 * 16 + b.toNat / 16, b.toNat % 16 * 4])
      (by simp; omega) (by simp) (by simp) (by rw [htail])
    rw [htail] at hgroup
    exact hgroup
  | case4 a b c rest ih =>
    have ha := a.toNat_lt
    have hb := b.toNat_lt
    have hc := c.toNat_lt
    cases hrest : encodeBytes v rest with
    | nil =>
      -- Nothing follows, so these four symbols are the last group.
      obtain rfl : rest = [] := by
        have h := ih 0
        rw [hrest, decodeGroups_short 0 (by simp)] at h
        cases hp : v.padded <;> simpa [decodeLast, Variant.sextets, hp, tailBytes] using h
      have htail : tailBytes [a.toNat / 4, a.toNat % 4 * 16 + b.toNat / 16,
          b.toNat % 16 * 4 + c.toNat / 64, c.toNat % 64] = ([a, b, c], false) := by
        rw [tailBytes, ofNat_of_eq (x := a) (by omega), ofNat_of_eq (x := b) (by omega),
          ofNat_of_eq (x := c) (by omega)]
      have hgroup := hv.decodeGroups_group offset
        (l := [a.toNat / 4, a.toNat % 4 * 16 + b.toNat / 16, b.toNat % 16 * 4 + c.toNat / 64,
          c.toNat % 64])
        (by simp; omega) (by simp) (by simp) (by rw [htail])
      rw [htail] at hgroup
      simpa [Variant.padding] using hgroup
    | cons e more =>
      have h := ih (offset + 4)
      rw [hrest] at h
      rw [decodeGroups, hv.sextet_symbol _ (by omega), hv.sextet_symbol _ (by omega),
        hv.sextet_symbol _ (by omega), hv.sextet_symbol _ (by omega), h]
      simp only [ok_bind, pure_eq_ok]
      rw [ofNat_of_eq (x := a) (by omega), ofNat_of_eq (x := b) (by omega),
        ofNat_of_eq (x := c) (by omega)]

/-! ## Texts -/

omit hv in
/-- Encoding writes symbols and, in the variants that have it, padding. -/
theorem eq_pad_or_symbol {b : Bytes} {x : UInt8} (h : x ∈ encodeBytes v b) :
    x = pad ∧ v.padded = true ∨ ∃ n < 64, x = v.symbol n := by
  have hpad : ∀ {n : Nat} {y : UInt8}, y ∈ v.padding n → y = pad ∧ v.padded = true := by
    intro n y hy
    unfold Variant.padding at hy
    split at hy
    · next hp => exact ⟨(List.mem_replicate.mp hy).2, hp⟩
    · simp at hy
  fun_induction encodeBytes v b with
  | case1 => simp at h
  | case2 a =>
    have ha := a.toNat_lt
    simp only [List.mem_cons] at h
    rcases h with rfl | rfl | h
    · exact .inr ⟨_, by omega, rfl⟩
    · exact .inr ⟨_, by omega, rfl⟩
    · exact .inl (hpad h)
  | case3 a b =>
    have ha := a.toNat_lt
    have hb := b.toNat_lt
    simp only [List.mem_cons] at h
    rcases h with rfl | rfl | rfl | h
    · exact .inr ⟨_, by omega, rfl⟩
    · exact .inr ⟨_, by omega, rfl⟩
    · exact .inr ⟨_, by omega, rfl⟩
    · exact .inl (hpad h)
  | case4 a b c rest ih =>
    have ha := a.toNat_lt
    have hb := b.toNat_lt
    have hc := c.toNat_lt
    simp only [List.mem_cons] at h
    rcases h with rfl | rfl | rfl | rfl | h
    · exact .inr ⟨_, by omega, rfl⟩
    · exact .inr ⟨_, by omega, rfl⟩
    · exact .inr ⟨_, by omega, rfl⟩
    · exact .inr ⟨_, by omega, rfl⟩
    · exact ih h

omit hv in
/-- With padding, each three bytes take four symbols, and so do the last one or two. -/
theorem length_encodeBytes (hp : v.padded = true) (b : Bytes) :
    (encodeBytes v b).length = 4 * ((b.length + 2) / 3) := by
  fun_induction encodeBytes v b with
  | case1 => rfl
  | case2 a => simp [Variant.padding, hp]
  | case3 a b => simp [Variant.padding, hp]
  | case4 a b c rest ih =>
    simp only [List.length_cons, ih]
    omega

omit hv in
theorem length_encode (hp : v.padded = true) (b : Bytes) :
    (encode v b).toList.length = 4 * ((b.length + 2) / 3) := by
  rw [encode, String.toList_ofList, List.length_map, length_encodeBytes hp]

theorem printable_of_mem_encodeBytes {b : Bytes} {x : UInt8} (h : x ∈ encodeBytes v b) :
    0x20 < x.toNat ∧ x.toNat < 0x7f := by
  rcases eq_pad_or_symbol h with ⟨rfl, -⟩ | ⟨n, hn, rfl⟩
  · decide
  · exact hv.symbol_printable n hn

theorem ofText_encode (b : Bytes) : Bytes.ofText (encode v b) = encodeBytes v b := by
  apply Bytes.ofText_ofList_ascii
  intro x hx
  have h := hv.printable_of_mem_encodeBytes hx
  omega

/-- Decoding undoes encoding. -/
theorem decode_encode (b : Bytes) : decode v (encode v b) = .ok b := by
  have hstray : strayByte v (encodeBytes v b) = none := by
    unfold strayByte
    split
    · next x hx =>
      apply if_neg
      rintro ⟨-, hpad, hvalue⟩
      rcases eq_pad_or_symbol (List.mem_of_getLast? hx) with ⟨h, -⟩ | ⟨n, hn, h⟩
      · exact hpad h
      · rw [h, hv.value?_symbol n hn] at hvalue
        cases hvalue
    · rfl
  rw [decode, hv.ofText_encode, decodeBytes, hstray]
  exact hv.decodeGroups_encodeBytes 0 b

/-- Different byte strings have different texts. -/
theorem encode_injective {a b : Bytes} (h : encode v a = encode v b) : a = b := by
  have hdecode := hv.decode_encode a
  rw [h, hv.decode_encode b] at hdecode
  exact (Except.ok.inj hdecode).symm

theorem isAscii_of_mem_encode {b : Bytes} {c : Char} (h : c ∈ (encode v b).toList) :
    Text.IsAscii c := by
  rw [encode, String.toList_ofList, List.mem_map] at h
  obtain ⟨x, hx, rfl⟩ := h
  obtain ⟨-, hhigh⟩ := hv.printable_of_mem_encodeBytes hx
  rw [Text.IsAscii, Text.toNat_ofNat (Or.inl (by omega))]
  omega

/-- An encoded text has no blanks. -/
theorem not_isBlank_of_mem_encode {b : Bytes} {c : Char} (h : c ∈ (encode v b).toList) :
    Text.isBlank c = false := by
  simp only [encode, String.toList_ofList, List.mem_map] at h
  obtain ⟨x, hx, rfl⟩ := h
  obtain ⟨hlow, hhigh⟩ := hv.printable_of_mem_encodeBytes hx
  have hnat : (Char.ofNat x.toNat).toNat = x.toNat :=
    Text.toNat_ofNat (Or.inl (by omega))
  simp only [Text.isBlank, hnat]
  simp
  omega

end Variant.Readable

/-- A letter or digit of ASCII, a hyphen or an underscore. -/
def isUrlSafe (c : Char) : Bool := c.isAlphanum || c == '-' || c == '_'

/-- Without padding, all that encoding writes is safe in an address. -/
theorem isUrlSafe_of_mem_encode {b : Bytes} {c : Char} (h : c ∈ (encode .urlSafe b).toList) :
    isUrlSafe c = true := by
  have hsymbol : ∀ n < 64, isUrlSafe (Char.ofNat (Variant.urlSafe.symbol n).toNat) = true := by
    decide
  rw [encode, String.toList_ofList, List.mem_map] at h
  obtain ⟨x, hx, rfl⟩ := h
  rcases Variant.Readable.eq_pad_or_symbol hx with ⟨-, hpadded⟩ | ⟨n, hn, rfl⟩
  · cases hpadded
  · exact hsymbol n hn

end Base64

end DeviceSecurity
