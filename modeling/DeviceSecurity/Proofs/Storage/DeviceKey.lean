import DeviceSecurity.Proofs.Cipher.Key
import DeviceSecurity.Proofs.Storage.Codec
import DeviceSecurity.Proofs.Storage.Identifier

/-!
# Storage keys of devices

An identifier may be reported with hyphens among its characters and with blanks around
(`DeviceSource.Spelling`); normalizing finds it again as long as it has neither itself. The 32
hexadecimal digits that identify a device are base64 symbols in full groups, so they are the text of
a key of 24 bytes, and storage without a secret of its own is kept under this key, however the
digits are spelled (`StorageCodec.deviceKey_stable`). In base64 the letter case of a digit counts:
other digits give another key (`StorageCodec.digits_of_forSecret_eq`).
-/

namespace DeviceSecurity

/-! ## Spellings of an identifier -/

namespace DeviceSource

/-- The characters of the second list, in order, with hyphens put among them anywhere. -/
inductive Hyphenated : List Char → List Char → Prop
  | nil : Hyphenated [] []
  | hyphen {l id : List Char} (h : Hyphenated l id) : Hyphenated ('-' :: l) id
  | char {l id : List Char} (c : Char) (h : Hyphenated l id) : Hyphenated (c :: l) (c :: id)

/-- A raw text that spells an identifier: with hyphens among its characters and blanks around. -/
def Spelling (raw id : String) : Prop :=
  ∃ before body behind : String, raw = before ++ body ++ behind ∧
    (∀ c ∈ before.toList, Text.isBlank c = true) ∧ (∀ c ∈ behind.toList, Text.isBlank c = true) ∧
    Hyphenated body.toList id.toList

theorem Hyphenated.mem {l id : List Char} (h : Hyphenated l id) {c : Char} (hc : c ∈ l) :
    c = '-' ∨ c ∈ id := by
  induction h with
  | nil => cases hc
  | hyphen h ih =>
    rcases List.mem_cons.mp hc with rfl | hc
    · exact .inl rfl
    · exact ih hc
  | char x h ih =>
    rcases List.mem_cons.mp hc with rfl | hc
    · exact .inr List.mem_cons_self
    · exact (ih hc).imp_right (List.mem_cons_of_mem x)

theorem Hyphenated.filter_eq {l id : List Char} (h : Hyphenated l id) (hid : '-' ∉ id) :
    l.filter (· ≠ '-') = id := by
  induction h with
  | nil => rfl
  | hyphen h ih => simpa using ih hid
  | char x h ih =>
    rw [List.mem_cons, not_or] at hid
    rw [List.filter_cons_of_pos (by simpa using Ne.symm hid.1), ih hid.2]

theorem hyphenated_filter (l : List Char) : Hyphenated l (l.filter (· ≠ '-')) := by
  induction l with
  | nil => exact .nil
  | cons c l ih =>
    by_cases hc : c = '-'
    · subst hc
      exact .hyphen ih
    · rw [List.filter_cons_of_pos (by simpa using hc)]
      exact .char c ih

/-- An identifier without blanks and hyphens is found in each of its spellings. -/
theorem normalize_of_spelling {raw id : String} (h : Spelling raw id)
    (hblank : ∀ c ∈ id.toList, Text.isBlank c = false) (hhyphen : '-' ∉ id.toList) :
    normalize raw = id := by
  obtain ⟨before, body, behind, rfl, hbefore, hbehind, hbody⟩ := h
  have htrim : Text.trim (before ++ body ++ behind) = body := by
    apply Text.trim_append hbefore hbehind
    intro c hc
    rcases hbody.mem hc with rfl | hc
    · exact isBlank_hyphen
    · exact hblank c hc
  apply String.toList_injective
  rw [toList_normalize, htrim]
  exact hbody.filter_eq hhyphen

end DeviceSource

/-! ## Digits -/

/-- A hexadecimal digit in either letter case. -/
def IsHexDigit (c : Char) : Prop := '0' ≤ c ∧ c ≤ '9' ∨ 'a' ≤ c ∧ c ≤ 'f' ∨ 'A' ≤ c ∧ c ≤ 'F'

instance : DecidablePred IsHexDigit := fun _ => inferInstanceAs (Decidable (_ ∨ _))

theorem IsHexDigit.isAscii {c : Char} (h : IsHexDigit c) : Text.IsAscii c := by
  rcases h with ⟨-, h⟩ | ⟨-, h⟩ | ⟨-, h⟩
  · exact Text.isAscii_of_le (by decide) h
  · exact Text.isAscii_of_le (by decide) h
  · exact Text.isAscii_of_le (by decide) h

/-- Every digit is the base64 symbol of some number. -/
theorem IsHexDigit.exists_symbol {c : Char} (h : IsHexDigit c) :
    ∃ n < 64, Char.ofNat (Base64.Variant.standard.symbol n).toNat = c := by
  have hascii : ∀ c, Text.IsAscii c → IsHexDigit c →
      ∃ n < 64, Char.ofNat (Base64.Variant.standard.symbol n).toNat = c :=
    Text.forall_isAscii (by decide +kernel)
  exact hascii c h.isAscii h

/-- Digits in fours are the base64 text of three bytes for each four. -/
theorem exists_encode_of_digits (groups : Nat) {digits : String}
    (hlength : digits.length = 4 * groups) (hdigits : ∀ c ∈ digits.toList, IsHexDigit c) :
    ∃ b : Bytes, b.length = 3 * groups ∧ Base64.encode .standard b = digits :=
  Base64.exists_encode hlength fun c hc => (hdigits c hc).exists_symbol

/-! ## Codecs -/

namespace StorageCodec

open DeviceSource (Spelling)

theorem hyphen_not_mem_encode (b : Bytes) : '-' ∉ (Base64.encode .standard b).toList := by
  have hsymbol : ∀ n < 64, Char.ofNat (Base64.Variant.standard.symbol n).toNat ≠ '-' := by decide
  intro h
  rw [Base64.encode, String.toList_ofList, List.mem_map] at h
  obtain ⟨x, hx, hhyphen⟩ := h
  rcases Base64.Variant.Readable.eq_pad_or_symbol hx with ⟨rfl, -⟩ | ⟨n, hn, rfl⟩
  · cases hhyphen
  · exact hsymbol n hn hhyphen

/-- A device whose identifier is the base64 text of a key has this key, however the identifier is
spelled. -/
theorem forSecret_of_spelling {b : Bytes} (hsize : CipherKey.IsSize b.length) {raw : String}
    (h : Spelling raw (Base64.encode .standard b)) :
    forSecret none (DeviceSource.fixed raw) = .ok ⟨⟨b, hsize⟩, .strict⟩ := by
  have hnormal : DeviceSource.normalize raw = Base64.encode .standard b := by
    apply DeviceSource.normalize_of_spelling h _ (hyphen_not_mem_encode b)
    intro c hc
    exact Base64.readable_standard.not_isBlank_of_mem_encode hc
  have hid : DeviceSource.identifier (DeviceSource.fixed raw) =
      .ok (Base64.encode .standard b) :=
    DeviceSource.identifier_eq_ok.mpr ⟨CipherKey.encode_ne_empty hsize, hnormal.symm⟩
  show (do ofSecret (← DeviceSource.identifier (DeviceSource.fixed raw))) = _
  rw [hid, ok_bind, ofSecret, CipherKey.forStorage_encode hsize]
  rfl

/-- The 32 digits of a device are the base64 text of its key. -/
theorem forSecret_of_digits {digits : String} (hlength : digits.length = 32)
    (hdigits : ∀ c ∈ digits.toList, IsHexDigit c) :
    ∃ key : CipherKey, key.length = 24 ∧ Base64.decode .standard digits = .ok key.bytes ∧
      ∀ raw, Spelling raw digits →
        forSecret none (DeviceSource.fixed raw) = .ok ⟨key, .strict⟩ := by
  obtain ⟨b, hb, rfl⟩ := exists_encode_of_digits 8 hlength hdigits
  have hsize : CipherKey.IsSize b.length := .inr (.inl hb)
  exact ⟨⟨b, hsize⟩, hb, Base64.readable_standard.decode_encode b,
    fun raw hraw => forSecret_of_spelling hsize hraw⟩

/-- Other digits, or the same ones in another letter case, give another codec. -/
theorem digits_of_forSecret_eq {digits digits' raw raw' : String} (hlength : digits.length = 32)
    (hdigits : ∀ c ∈ digits.toList, IsHexDigit c) (hlength' : digits'.length = 32)
    (hdigits' : ∀ c ∈ digits'.toList, IsHexDigit c) (hraw : Spelling raw digits)
    (hraw' : Spelling raw' digits')
    (h : forSecret none (DeviceSource.fixed raw) = forSecret none (DeviceSource.fixed raw')) :
    digits = digits' := by
  obtain ⟨key, -, hkey, hcodec⟩ := forSecret_of_digits hlength hdigits
  obtain ⟨key', -, hkey', hcodec'⟩ := forSecret_of_digits hlength' hdigits'
  rw [hcodec raw hraw, hcodec' raw' hraw'] at h
  obtain rfl : key = key' := congrArg StorageCodec.key (Except.ok.inj h)
  rw [← Base64.readable_standard.encode_of_decode hkey,
    ← Base64.readable_standard.encode_of_decode hkey']

/-- Storage without a secret of its own is kept, for a device with 32 hexadecimal digits, under the
24 bytes of which the digits are the base64 text, with hyphens among the digits and blanks around
them or without. So what is sealed for one spelling is opened for every other, in both modes and
under any policies. In general, every secret but the empty one gives a key: the bytes of which it is
the base64 text if they make a key, and else 32 bytes that HKDF derives from its own. -/
theorem deviceKey_stable :
    (∀ digits : String, digits.length = 32 → (∀ c ∈ digits.toList, IsHexDigit c) →
      ∃ key : CipherKey, key.length = 24 ∧ Base64.decode .standard digits = .ok key.bytes ∧
        (∀ raw, Spelling raw digits →
          forSecret none (DeviceSource.fixed raw) = .ok ⟨key, .strict⟩) ∧
        ∀ raw raw', Spelling raw digits → Spelling raw' digits →
          ∃ c d, forSecret none (DeviceSource.fixed raw) = .ok c ∧
            forSecret none (DeviceSource.fixed raw') = .ok d ∧
            ∀ p p' key value hard e entry rest,
              (c.withPolicy p).encodeEntry key value hard e = (.ok entry, rest) →
              (d.withPolicy p').decodeEntry entry.1 entry.2 hard = .ok (key, value)) ∧
    (∀ secret : String, secret ≠ "" → ∃ key, CipherKey.forStorage secret = .ok key ∧
      (∀ b : Bytes, CipherKey.IsSize b.length → Base64.encode .standard b = secret →
        key.bytes = b) ∧
      ((∀ b : Bytes, CipherKey.IsSize b.length → Base64.encode .standard b ≠ secret) →
        key.length = 32 ∧ key.bytes =
          Hmac.hmac (Hmac.hmac (List.replicate 32 0) (Bytes.ofText secret))
            (Bytes.ofText "warden-storage-key-v1" ++ [1]))) := by
  constructor
  · intro digits hlength hdigits
    obtain ⟨key, hsize, hkey, hcodec⟩ := forSecret_of_digits hlength hdigits
    refine ⟨key, hsize, hkey, hcodec, fun raw raw' hraw hraw' => ?_⟩
    refine ⟨_, _, hcodec raw hraw, hcodec raw' hraw', fun p p' k value hard e entry rest h => ?_⟩
    exact decodeEntry_of_encodeEntry rfl h
  · intro secret hne
    obtain ⟨key, hkey⟩ := CipherKey.exists_forStorage hne
    refine ⟨key, hkey, ?_, fun hnone => ?_⟩
    · rintro b hsize rfl
      rw [CipherKey.forStorage_encode hsize] at hkey
      rw [← Except.ok.inj hkey]
    · rw [CipherKey.forStorage_of_not_encode hne hnone, CipherKey.derive_eq] at hkey
      obtain rfl := Except.ok.inj hkey
      exact ⟨CipherKey.length_derivedBytes _ _, rfl⟩

/-- What is sealed for an identifier with hyphens is opened, under another policy, for its digits
between blanks; and there are secrets of both kinds. -/
theorem deviceKey_stable_spellings :
    (∃ c d entry,
      forSecret none (DeviceSource.fixed "6F9619FF-8B86-D011-B42D-00C04FC964Ff") = .ok c ∧
      forSecret none (DeviceSource.fixed "\t6F9619FF8B86D011B42D00C04FC964Ff\n") = .ok d ∧
      (c.withPolicy .strict).encodeEntry "token" "s3cr3t" false [] = (.ok entry, []) ∧
      (d.withPolicy .legacyFallback).decodeEntry entry.1 entry.2 false =
        .ok ("token", "s3cr3t")) ∧
    (∃ key, CipherKey.forStorage (Base64.encode .standard (List.replicate 16 42)) = .ok key ∧
      key.bytes = List.replicate 16 42) ∧
    ∃ key, CipherKey.forStorage "AA==" = .ok key ∧ key.length = 32 := by
  obtain ⟨hdevices, hsecrets⟩ := deviceKey_stable
  refine ⟨?_, ?_, ?_⟩
  · have hdigits : ∀ c ∈ "6F9619FF8B86D011B42D00C04FC964Ff".toList, IsHexDigit c :=
      List.all_iff_forall_prop.mp (by decide)
    have hhyphens : Spelling "6F9619FF-8B86-D011-B42D-00C04FC964Ff"
        "6F9619FF8B86D011B42D00C04FC964Ff" :=
      ⟨"", "6F9619FF-8B86-D011-B42D-00C04FC964Ff", "", rfl, by simp, by simp,
        DeviceSource.hyphenated_filter _⟩
    have hblanks : Spelling "\t6F9619FF8B86D011B42D00C04FC964Ff\n"
        "6F9619FF8B86D011B42D00C04FC964Ff" :=
      ⟨"\t", "6F9619FF8B86D011B42D00C04FC964Ff", "\n", rfl, List.all_iff_forall_prop.mp (by decide),
        List.all_iff_forall_prop.mp (by decide), DeviceSource.hyphenated_filter _⟩
    obtain ⟨_, -, -, -, hspellings⟩ := hdevices _ (by decide) hdigits
    obtain ⟨c, d, hc, hd, hentries⟩ := hspellings _ _ hhyphens hblanks
    obtain ⟨entry, hentry⟩ : ∃ entry,
        (c.withPolicy .strict).encodeEntry "token" "s3cr3t" false [] = (.ok entry, []) :=
      exists_encodeEntry _ (by decide) (by decide) []
    exact ⟨c, d, entry, hc, hd, hentry, hentries _ _ _ _ _ _ _ _ hentry⟩
  · have hsize : CipherKey.IsSize (List.replicate 16 (42 : UInt8)).length := .inl rfl
    obtain ⟨key, hkey, hbytes, -⟩ := hsecrets _ (CipherKey.encode_ne_empty hsize)
    exact ⟨key, hkey, hbytes _ hsize rfl⟩
  · -- The text is that of one byte, which is no key.
    have hdecode : Base64.decode .standard "AA==" = .ok [0] := by decide
    obtain ⟨key, hkey, -, hderived⟩ := hsecrets "AA==" (by decide)
    refine ⟨key, hkey, (hderived fun b hsize htext => ?_).1⟩
    rw [← htext, Base64.readable_standard.decode_encode] at hdecode
    obtain rfl := Except.ok.inj hdecode
    exact absurd hsize (by decide)

end StorageCodec

end DeviceSecurity
