import DeviceSecurity.Proofs.Pin.Texts

/-!
# Pins without a prefix

The prefix is made of base64 symbols, so that the text of a digest may begin with it. What is left
behind it is then no base64 text, and the digest can be read behind a prefix only (`ofText_bare`).
The seven symbols of the prefix are 42 bits, so that these digests are told by their first six bytes
(`looksPrefixed_bare_iff`).
-/

namespace DeviceSecurity.PinDigest

/-! ## Digests that begin like the prefix -/

/-- The bytes that base64 writes as `sha2` in some letter case. -/
def sha2Bytes : List Bytes :=
  [[0xb2, 0x16, 0xb6], [0xb2, 0x10, 0x36], [0xb0, 0x76, 0xb6], [0xb0, 0x70, 0x36],
    [0x4a, 0x16, 0xb6], [0x4a, 0x10, 0x36], [0x48, 0x76, 0xb6], [0x48, 0x70, 0x36]]

/-- A symbol as a character, in small letters. -/
def smallSymbol (n : Nat) : Char := (Char.ofNat (Base64.Variant.standard.symbol n).toNat).toLower

/-- The numbers of the symbols in the prefix. -/
theorem smallSymbol_eq : ∀ n < 64,
    (smallSymbol n = 's' ↔ n = 18 ∨ n = 44) ∧ (smallSymbol n = 'h' ↔ n = 7 ∨ n = 33) ∧
      (smallSymbol n = 'a' ↔ n = 0 ∨ n = 26) ∧ (smallSymbol n = '2' ↔ n = 54) ∧
      (smallSymbol n = '5' ↔ n = 57) ∧ (smallSymbol n = '6' ↔ n = 58) ∧
      (smallSymbol n = '/' ↔ n = 63) := by
  decide

/-- The first four symbols of the prefix, in the three bytes that they stand for. -/
theorem mem_sha2Bytes (u v w : UInt8) : [u, v, w] ∈ sha2Bytes ↔
    smallSymbol (u.toNat / 4) = 's' ∧ smallSymbol (u.toNat % 4 * 16 + v.toNat / 16) = 'h' ∧
      smallSymbol (v.toNat % 16 * 4 + w.toNat / 64) = 'a' ∧ smallSymbol (w.toNat % 64) = '2' := by
  have hu := u.toNat_lt
  have hv := v.toNat_lt
  have hw := w.toNat_lt
  obtain ⟨hs, -⟩ := smallSymbol_eq (u.toNat / 4) (by omega)
  obtain ⟨-, hh, -⟩ := smallSymbol_eq (u.toNat % 4 * 16 + v.toNat / 16) (by omega)
  obtain ⟨-, -, ha, -⟩ := smallSymbol_eq (v.toNat % 16 * 4 + w.toNat / 64) (by omega)
  obtain ⟨-, -, -, h2, -⟩ := smallSymbol_eq (w.toNat % 64) (by omega)
  rw [hs, hh, ha, h2]
  constructor
  · simp only [sha2Bytes, List.mem_cons, List.cons.injEq, List.not_mem_nil, or_false, and_true]
    rintro (h | h | h | h | h | h | h | h) <;>
      · obtain ⟨rfl, rfl, rfl⟩ := h
        decide
  · -- The four numbers give the three bytes back.
    have hfirst : UInt8.ofNat (u.toNat / 4 * 4 + (u.toNat % 4 * 16 + v.toNat / 16) / 16) = u :=
      Base64.Variant.Readable.ofNat_of_eq (by omega)
    have hsecond : UInt8.ofNat ((u.toNat % 4 * 16 + v.toNat / 16) % 16 * 16 +
        (v.toNat % 16 * 4 + w.toNat / 64) / 4) = v :=
      Base64.Variant.Readable.ofNat_of_eq (by omega)
    have hthird : UInt8.ofNat ((v.toNat % 16 * 4 + w.toNat / 64) % 4 * 64 + w.toNat % 64) = w :=
      Base64.Variant.Readable.ofNat_of_eq (by omega)
    rintro ⟨hs | hs, hh | hh, ha | ha, h2⟩ <;>
      · rw [hs, hh] at hfirst
        rw [hh, ha] at hsecond
        rw [ha, h2] at hthird
        rw [← hfirst, ← hsecond, ← hthird]
        decide

/-- The other three, of which the last takes two bits of the third byte. -/
theorem smallSymbols_256 (x y z : UInt8) :
    x = 0xe7 ∧ y = 0xaf ∧ 0xc0 ≤ z ↔
      smallSymbol (x.toNat / 4) = '5' ∧ smallSymbol (x.toNat % 4 * 16 + y.toNat / 16) = '6' ∧
        smallSymbol (y.toNat % 16 * 4 + z.toNat / 64) = '/' := by
  have hx := x.toNat_lt
  have hy := y.toNat_lt
  have hz := z.toNat_lt
  obtain ⟨-, -, -, -, h5, -⟩ := smallSymbol_eq (x.toNat / 4) (by omega)
  obtain ⟨-, -, -, -, -, h6, -⟩ := smallSymbol_eq (x.toNat % 4 * 16 + y.toNat / 16) (by omega)
  obtain ⟨-, -, -, -, -, -, hslash⟩ := smallSymbol_eq (y.toNat % 16 * 4 + z.toNat / 64) (by omega)
  rw [h5, h6, hslash, ← UInt8.toNat_inj, ← UInt8.toNat_inj, UInt8.le_iff_toNat_le]
  simp only [UInt8.reduceToNat]
  omega

/-- Whether the text of a digest begins like the prefix is seen from its first six bytes. -/
theorem looksPrefixed_bare_iff (d : PinDigest) : LooksPrefixed d.bare.toList ↔
    d.bytes.take 3 ∈ sha2Bytes ∧
      d.bytes.getD 3 0 = 0xe7 ∧ d.bytes.getD 4 0 = 0xaf ∧ 0xc0 ≤ d.bytes.getD 5 0 := by
  obtain ⟨b, hb⟩ := d
  have hlength : scheme.length = 7 := rfl
  match b, hb with
  | u :: v :: w :: x :: y :: z :: rest, _ =>
    rw [looksPrefixed_iff, bare, Base64.encode, String.toList_ofList]
    show _ = ['s', 'h', 'a', '2', '5', '6', '/'] ↔
      [u, v, w] ∈ sha2Bytes ∧ x = 0xe7 ∧ y = 0xaf ∧ 0xc0 ≤ z
    rw [mem_sha2Bytes, smallSymbols_256]
    simp only [Base64.encodeBytes, smallSymbol, hlength, List.map_cons, List.take_succ_cons,
      List.take_zero, List.map_nil, List.cons.injEq, and_true, and_assoc]

/-! ## Reading them -/

theorem trim_bare (d : PinDigest) : Text.trim d.bare = d.bare :=
  Text.trim_eq_self fun _ hc => Base64.readable_standard.not_isBlank_of_mem_encode hc

theorem length_bare (d : PinDigest) : d.bare.toList.length = 44 := by
  rw [bare, Base64.Variant.Readable.length_encode rfl, d.length_eq]

theorem spells_bare {d : PinDigest} (h : ¬LooksPrefixed d.bare.toList) : Spells d.bare d := by
  rw [Spells, trim_bare]
  exact .whole h

/-- What stands behind the prefix is 37 symbols long, and base64 comes in groups of four. -/
theorem refused_bare {d : PinDigest} (h : LooksPrefixed d.bare.toList) :
    Refused d.bare (.invalidPin (d.bare ++ " is not base64")) := by
  obtain ⟨head, hhead, rest, hrest⟩ := h
  have hencoded : Encoded (Text.trim d.bare).toList (String.ofList rest).toList := by
    rw [trim_bare, ← hrest, String.toList_ofList]
    exact .behind hhead
  refine .notBase64 hencoded fun b hb => ?_
  have hlength : rest.length = 4 * ((b.length + 2) / 3) := by
    rw [← String.toList_ofList (l := rest), ← hb, Base64.Variant.Readable.length_encode rfl]
  have hbare := d.length_bare
  rw [← hrest, List.length_append, hhead.length_eq, show scheme.length = 7 from rfl] at hbare
  omega

/-- Every digest is read behind the prefix. Without the prefix, a digest is refused if its text begins
like the prefix, in any letter case, and read if not; the first six bytes of the digest decide. -/
theorem ofText_bare (d : PinDigest) :
    ofText d.text = .ok d ∧
    ofText d.bare = (if LooksPrefixed d.bare.toList then
      .error (.invalidPin (d.bare ++ " is not base64")) else .ok d) ∧
    (LooksPrefixed d.bare.toList ↔ d.bytes.take 3 ∈ sha2Bytes ∧
      d.bytes.getD 3 0 = 0xe7 ∧ d.bytes.getD 4 0 = 0xaf ∧ 0xc0 ≤ d.bytes.getD 5 0) := by
  refine ⟨ofText_of_spells d.spells_text, ?_, d.looksPrefixed_bare_iff⟩
  split
  · next h => exact ofText_of_refused (refused_bare h)
  · next h => exact ofText_of_spells (spells_bare h)

/-- A digest of which the text is `sha256/` and then 36 times `A`, with the padding. -/
def sha256Digest : PinDigest :=
  ⟨[0xb2, 0x16, 0xb6, 0xe7, 0xaf, 0xc0] ++ List.replicate 26 0, rfl⟩

/-- Its text is refused. -/
theorem refused_bare_digest : ¬∀ d : PinDigest, ofText d.bare = .ok d := by
  intro h
  have hread := ofText_of_refused (refused_bare (d := sha256Digest) (by decide +kernel))
  cases hread.symm.trans (h sha256Digest)

end DeviceSecurity.PinDigest
