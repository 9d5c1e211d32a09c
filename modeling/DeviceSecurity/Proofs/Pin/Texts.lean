import DeviceSecurity.Pin.Policy
import DeviceSecurity.Proofs.Base64.Canonical
import DeviceSecurity.Proofs.Result
import DeviceSecurity.Proofs.Text.Folding
import Mathlib.Data.List.Basic

/-!
# Texts of pins

A pin is read in two steps: the prefix is taken off the trimmed text if it stands there, in any
letter case, and what is left is decoded (`Encoded`). As base64 is canonical, one text can be left
for a digest, and every other one is refused (`ofText_eq_ok`, `ofText_eq_error`). A list of pins is
refused with the first of them that is refused, and else gives their digests, each once, so that
order and repetition do not matter (`pins_exact`).
-/

namespace DeviceSecurity

namespace PinDigest

variable {pin : String} {d : PinDigest} {fault : Error} {head chars encoded : List Char}

/-! ## The prefix -/

/-- The prefix of a pin, in some letter case. -/
def IsScheme (head : List Char) : Prop := head.map Char.toLower = scheme

theorem IsScheme.length_eq (h : IsScheme head) : head.length = scheme.length := by
  have hlower : head.map Char.toLower = scheme := h
  rw [← hlower, List.length_map]

theorem IsScheme.isAscii (h : IsScheme head) : ∀ c ∈ head, Text.IsAscii c := by
  intro c hc
  have hlower : c.toLower ∈ scheme := h ▸ List.mem_map_of_mem hc
  exact Text.isAscii_toLower.mp (List.all_iff_forall_prop.mp (by decide) _ hlower)

theorem IsScheme.not_isBlank (h : IsScheme head) : ∀ c ∈ head, Text.isBlank c = false := by
  have hblank : ∀ c, Text.IsAscii c → c.toLower ∈ scheme → Text.isBlank c = false :=
    Text.forall_isAscii (by decide)
  intro c hc
  have hlower : c.toLower ∈ scheme := h ▸ List.mem_map_of_mem hc
  exact hblank c (h.isAscii c hc) hlower

/-- Characters that begin like a pin with its prefix. -/
def LooksPrefixed (chars : List Char) : Prop := ∃ head, IsScheme head ∧ head <+: chars

theorem looksPrefixed_iff :
    LooksPrefixed chars ↔ (chars.take scheme.length).map Char.toLower = scheme := by
  constructor
  · rintro ⟨head, hhead, rest, rfl⟩
    rw [← hhead.length_eq, List.take_left]
    exact hhead
  · intro h
    exact ⟨_, h, List.take_prefix _ _⟩

instance : DecidablePred LooksPrefixed := fun _ => decidable_of_iff _ looksPrefixed_iff.symm

/-- What is decoded: all that stands behind the prefix, or else everything. -/
inductive Encoded : (chars encoded : List Char) → Prop
  | behind {head encoded : List Char} (hhead : IsScheme head) : Encoded (head ++ encoded) encoded
  | whole {chars : List Char} (hplain : ¬LooksPrefixed chars) : Encoded chars chars

theorem encoded_iff : Encoded chars encoded ↔ withoutScheme chars = encoded := by
  constructor
  · intro h
    cases h with
    | @behind head _ hhead =>
      have hlower : head.map Char.toLower = scheme := hhead
      rw [withoutScheme, ← hhead.length_eq, List.take_left, if_pos hlower, List.drop_left]
    | whole hplain => exact if_neg fun h => hplain (looksPrefixed_iff.mpr h)
  · rintro rfl
    unfold withoutScheme
    split
    · next h =>
      have hbehind : Encoded (chars.take scheme.length ++ chars.drop scheme.length)
        (chars.drop scheme.length) := .behind h
      rwa [List.take_append_drop] at hbehind
    · next h => exact .whole fun hprefixed => h (looksPrefixed_iff.mp hprefixed)

theorem exists_encoded (pin : String) : ∃ encoded : String, Encoded pin.toList encoded.toList :=
  ⟨String.ofList _, encoded_iff.mpr String.toList_ofList.symm⟩

/-! ## Reading a pin -/

/-- The text of a digest without the prefix. -/
def bare (d : PinDigest) : String := Base64.encode .standard d.bytes

theorem text_eq (d : PinDigest) : d.text = String.ofList scheme ++ d.bare := by
  rw [text, String.ofList_append, bare, String.ofList_toList]

/-- A pin whose decoded part is the text of a digest. -/
def Spells (pin : String) (d : PinDigest) : Prop :=
  Encoded (Text.trim pin).toList d.bare.toList

/-- A pin whose decoded part is the text of no digest: it is the text of no bytes, or of more or
fewer bytes than a digest has. -/
inductive Refused (pin : String) : Error → Prop
  | notBase64 {encoded : String} (h : Encoded (Text.trim pin).toList encoded.toList)
    (hnone : ∀ b, Base64.encode .standard b ≠ encoded) :
    Refused pin (.invalidPin (pin ++ " is not base64"))
  | length {b : Bytes} (h : Encoded (Text.trim pin).toList (Base64.encode .standard b).toList)
    (hlength : b.length ≠ 32) :
    Refused pin (.invalidPin s!"{pin} decodes to {b.length} bytes, need 32")

theorem Refused.exists_invalidPin (h : Refused pin fault) : ∃ reason, fault = .invalidPin reason := by
  cases h <;> exact ⟨_, rfl⟩

theorem ofText_of_encoded {encoded : String} (h : Encoded (Text.trim pin).toList encoded.toList) :
    ofText pin = match Base64.decode .standard encoded with
      | .error _ => .error (.invalidPin (pin ++ " is not base64"))
      | .ok b =>
        if h : b.length = 32 then .ok ⟨b, h⟩
        else .error (.invalidPin s!"{pin} decodes to {b.length} bytes, need 32") := by
  rw [Text.trim, String.toList_ofList, encoded_iff] at h
  have hencoded : String.ofList (withoutScheme (Text.trimBy Text.isBlank pin.toList)) = encoded := by
    rw [h, String.ofList_toList]
  cases hdecode : Base64.decode .standard encoded <;> simp only [ofText, hencoded, hdecode]

theorem ofText_of_spells (h : Spells pin d) : ofText pin = .ok d := by
  rw [ofText_of_encoded h, bare, Base64.readable_standard.decode_encode]
  exact dif_pos d.length_eq

theorem ofText_of_refused (h : Refused pin fault) : ofText pin = .error fault := by
  cases h with
  | @notBase64 encoded h hnone =>
    rw [ofText_of_encoded h]
    cases hdecode : Base64.decode .standard encoded with
    | error reason => rfl
    | ok b => exact absurd (Base64.readable_standard.encode_of_decode hdecode) (hnone b)
  | length h hlength =>
    rw [ofText_of_encoded h, Base64.readable_standard.decode_encode]
    exact dif_neg hlength

theorem spells_or_refused (pin : String) : (∃ d, Spells pin d) ∨ ∃ fault, Refused pin fault := by
  obtain ⟨encoded, hencoded⟩ := exists_encoded (Text.trim pin)
  by_cases htext : ∃ b, Base64.encode .standard b = encoded
  · obtain ⟨b, rfl⟩ := htext
    by_cases hlength : b.length = 32
    · exact .inl ⟨⟨b, hlength⟩, hencoded⟩
    · exact .inr ⟨_, .length hencoded hlength⟩
  · exact .inr ⟨_, .notBase64 hencoded (not_exists.mp htext)⟩

theorem ofText_eq_ok : ofText pin = .ok d ↔ Spells pin d := by
  refine ⟨fun h => ?_, ofText_of_spells⟩
  rcases spells_or_refused pin with ⟨d', hspells⟩ | ⟨fault, hrefused⟩
  · rw [ofText_of_spells hspells] at h
    rwa [← Except.ok.inj h]
  · cases (ofText_of_refused hrefused).symm.trans h

theorem ofText_eq_error : ofText pin = .error fault ↔ Refused pin fault := by
  refine ⟨fun h => ?_, ofText_of_refused⟩
  rcases spells_or_refused pin with ⟨d, hspells⟩ | ⟨fault', hrefused⟩
  · cases (ofText_of_spells hspells).symm.trans h
  · rw [ofText_of_refused hrefused] at h
    rwa [← Except.error.inj h]

/-- A pin that is read is, without blanks, the text of its digest, behind the prefix or alone. -/
theorem Spells.trim_eq (h : Spells pin d) : Text.trim pin = d.bare ∨
    ∃ head : String, IsScheme head.toList ∧ Text.trim pin = head ++ d.bare := by
  unfold Spells at h
  generalize hencoded : d.bare.toList = encoded at h
  generalize htrim : (Text.trim pin).toList = chars at h
  cases h with
  | @behind head _ hhead =>
    refine .inr ⟨String.ofList head, ?_, String.toList_injective ?_⟩
    · rw [String.toList_ofList]
      exact hhead
    · rw [htrim, String.toList_append, String.toList_ofList, hencoded]
  | whole => exact .inl (String.toList_injective (htrim.trans hencoded.symm))

/-- The text of a digest is read behind the prefix in any letter case and between any blanks. -/
theorem spells_append {before head behind : String}
    (hbefore : ∀ c ∈ before.toList, Text.isBlank c = true)
    (hbehind : ∀ c ∈ behind.toList, Text.isBlank c = true) (hhead : IsScheme head.toList)
    (d : PinDigest) : Spells (before ++ (head ++ d.bare) ++ behind) d := by
  have htrim : Text.trim (before ++ (head ++ d.bare) ++ behind) = head ++ d.bare := by
    refine Text.trim_append hbefore hbehind fun c hc => ?_
    rw [String.toList_append, List.mem_append] at hc
    exact hc.elim (hhead.not_isBlank c) Base64.readable_standard.not_isBlank_of_mem_encode
  rw [Spells, htrim, String.toList_append]
  exact .behind hhead

theorem spells_text (d : PinDigest) : Spells d.text d := by
  have hspells : Spells ("" ++ (String.ofList scheme ++ d.bare) ++ "") d :=
    spells_append (by simp) (by simp) (by unfold IsScheme; decide) d
  rwa [String.empty_append, String.append_empty, ← text_eq] at hspells

/-- A pin that is not all ASCII is refused, wherever it is not. -/
theorem refused_of_not_isAscii {c : Char} (hc : c ∈ (Text.trim pin).toList)
    (hascii : ¬Text.IsAscii c) : Refused pin (.invalidPin (pin ++ " is not base64")) := by
  obtain ⟨encoded, hencoded⟩ := exists_encoded (Text.trim pin)
  have hmem : c ∈ encoded.toList := by
    generalize encoded.toList = l at hencoded
    generalize (Text.trim pin).toList = chars at hencoded hc
    cases hencoded with
    | behind hhead => exact (List.mem_append.mp hc).resolve_left fun h => hascii (hhead.isAscii c h)
    | whole => exact hc
  refine .notBase64 hencoded fun b hb => hascii ?_
  rw [← hb] at hmem
  exact Base64.readable_standard.isAscii_of_mem_encode hmem

end PinDigest

/-! ## Lists of pins -/

/-- Leaving out repetitions leaves none. -/
theorem nodup_eraseDups {α : Type} [DecidableEq α] : (l : List α) → l.eraseDups.Nodup
  | [] => List.nodup_nil
  | a :: l => by
    rw [List.eraseDups_cons]
    refine List.nodup_cons.mpr ⟨fun ha => ?_, nodup_eraseDups _⟩
    simpa using List.mem_filter.mp (List.mem_eraseDups.mp ha)
termination_by l => l.length
decreasing_by exact Nat.lt_succ_of_le (List.length_filter_le _ _)

namespace PinPolicy

variable {pins pins' : List String} {digests digests' : List PinDigest} {fault : Error}
  {result result' : Except Error (List PinDigest)}

/-- A pin of the list is refused, and none before it. -/
def FirstRefused (pins : List String) (fault : Error) : Prop :=
  ∃ before pin after, pins = before ++ pin :: after ∧
    (∀ other ∈ before, ∃ d, PinDigest.Spells other d) ∧ PinDigest.Refused pin fault

/-- The digests of a list of pins, each once. -/
structure Denoted (pins : List String) (digests : List PinDigest) : Prop where
  nodup : digests.Nodup
  mem_iff : ∀ d, d ∈ digests ↔ ∃ pin ∈ pins, PinDigest.Spells pin d

theorem Denoted.perm (h : Denoted pins digests) (h' : Denoted pins' digests')
    (hpins : ∀ pin, pin ∈ pins ↔ pin ∈ pins') : digests.Perm digests' := by
  refine (List.perm_ext_iff_of_nodup h.nodup h'.nodup).mpr fun d => ?_
  rw [h.mem_iff, h'.mem_iff]
  simp only [hpins]

/-- What reading a list of pins comes to. -/
structure Reading (pins : List String) (result : Except Error (List PinDigest)) : Prop where
  fails_iff : (∃ fault, result = .error fault) ↔
    ∃ pin ∈ pins, ∃ fault, PinDigest.ofText pin = .error fault
  first : ∀ fault, result = .error fault ↔ FirstRefused pins fault
  denoted : ∀ digests, result = .ok digests → Denoted pins digests

theorem reading_mapM (pins : List String) :
    Reading pins (List.eraseDups <$> pins.mapM PinDigest.ofText) := by
  have herror : ∀ fault, List.eraseDups <$> pins.mapM PinDigest.ofText = .error fault ↔
      pins.mapM PinDigest.ofText = .error fault := fun _ => map_eq_error
  constructor
  case fails_iff =>
    simp only [herror]
    exact exists_mapM_eq_error
  case first =>
    intro fault
    rw [herror, mapM_eq_error]
    simp only [PinDigest.ofText_eq_ok, PinDigest.ofText_eq_error]
    rfl
  case denoted =>
    intro digests hread
    obtain ⟨all, hall, rfl⟩ := map_eq_ok.mp hread
    refine ⟨nodup_eraseDups all, fun d => ?_⟩
    rw [List.mem_eraseDups, mem_of_mapM_eq_ok hall]
    simp only [PinDigest.ofText_eq_ok]

theorem reading_ofTexts (pins domains : List String) :
    Reading pins (PinPolicy.pins <$> ofTexts pins domains) := by
  have hread : PinPolicy.pins <$> ofTexts pins domains =
      List.eraseDups <$> pins.mapM PinDigest.ofText := by
    unfold ofTexts
    cases pins.mapM PinDigest.ofText <;> rfl
  rw [hread]
  exact reading_mapM pins

theorem reading_withLeafPins (policy : PinPolicy) (pins : List String) :
    Reading pins (leafPins <$> policy.withLeafPins pins) := by
  have hread : leafPins <$> policy.withLeafPins pins =
      List.eraseDups <$> pins.mapM PinDigest.ofText := by
    unfold withLeafPins
    cases pins.mapM PinDigest.ofText <;> rfl
  rw [hread]
  exact reading_mapM pins

/-- All pins of the list are read. -/
def AllRead (pins : List String) : Prop := ∀ pin ∈ pins, ∃ d, PinDigest.Spells pin d

theorem Reading.exists_denoted (h : Reading pins result) (hall : AllRead pins) :
    ∃ digests, result = .ok digests ∧ Denoted pins digests := by
  match result with
  | .ok digests => exact ⟨digests, rfl, h.denoted digests rfl⟩
  | .error fault =>
    obtain ⟨pin, hpin, other, hother⟩ := h.fails_iff.mp ⟨fault, rfl⟩
    obtain ⟨d, hd⟩ := hall pin hpin
    cases (PinDigest.ofText_of_spells hd).symm.trans hother

theorem allRead_or_firstRefused (pins : List String) :
    AllRead pins ∨ ∃ fault, FirstRefused pins fault := by
  have hreading := reading_mapM pins
  cases hresult : List.eraseDups <$> pins.mapM PinDigest.ofText with
  | error fault => exact .inr ⟨fault, (hreading.first fault).mp hresult⟩
  | ok digests =>
    refine .inl fun pin hpin => (PinDigest.spells_or_refused pin).resolve_right ?_
    rintro ⟨fault, hfault⟩
    obtain ⟨other, hother⟩ :=
      hreading.fails_iff.mpr ⟨pin, hpin, fault, PinDigest.ofText_of_refused hfault⟩
    cases hresult.symm.trans hother

/-- Pins that are all read leave no digests only if there are none. -/
theorem Denoted.eq_nil_iff (h : Denoted pins digests) (hall : AllRead pins) :
    digests = [] ↔ pins = [] := by
  rw [List.eq_nil_iff_forall_not_mem, List.eq_nil_iff_forall_not_mem]
  constructor
  · intro hnone pin hpin
    obtain ⟨d, hd⟩ := hall pin hpin
    exact hnone d ((h.mem_iff d).mpr ⟨pin, hpin, hd⟩)
  · intro hnone d hd
    obtain ⟨pin, hpin, -⟩ := (h.mem_iff d).mp hd
    exact hnone pin hpin

/-- Lists of the same pins are both refused, or both read as the same digests. -/
theorem Reading.same (h : Reading pins result) (h' : Reading pins' result')
    (hpins : ∀ pin, pin ∈ pins ↔ pin ∈ pins') :
    (∃ fault fault', result = .error fault ∧ result' = .error fault') ∨
      ∃ digests digests', result = .ok digests ∧ result' = .ok digests' ∧
        digests.Perm digests' := by
  have hfails : (∃ fault, result = .error fault) ↔ ∃ fault, result' = .error fault := by
    rw [h.fails_iff, h'.fails_iff]
    simp only [hpins]
  match result, result' with
  | .error fault, .error fault' => exact .inl ⟨fault, fault', rfl, rfl⟩
  | .ok digests, .ok digests' =>
    exact .inr ⟨digests, digests', rfl, rfl, (h.denoted _ rfl).perm (h'.denoted _ rfl) hpins⟩
  | .error fault, .ok _ =>
    obtain ⟨_, hnone⟩ := hfails.mp ⟨fault, rfl⟩
    cases hnone
  | .ok _, .error fault =>
    obtain ⟨_, hnone⟩ := hfails.mpr ⟨fault, rfl⟩
    cases hnone

/-- A digest is read from its text behind the prefix, in any letter case and between any blanks. A
pin that is read is, without blanks, the text of its digest, behind the prefix or alone; every other
one is refused as an invalid pin, among them all that are not ASCII. A list of pins is refused
exactly if one of them is, with the error of the first; otherwise a policy gets the digests of its
pins, whatever their order and however often they stand there. -/
theorem pins_exact :
    (∀ d : PinDigest, d.text = String.ofList PinDigest.scheme ++ d.bare ∧
      ∀ before head behind : String, (∀ c ∈ before.toList, Text.isBlank c = true) →
        (∀ c ∈ behind.toList, Text.isBlank c = true) → PinDigest.IsScheme head.toList →
        PinDigest.ofText (before ++ (head ++ d.bare) ++ behind) = .ok d) ∧
    (∀ pin d, PinDigest.ofText pin = .ok d → Text.trim pin = d.bare ∨
      ∃ head : String, PinDigest.IsScheme head.toList ∧ Text.trim pin = head ++ d.bare) ∧
    (∀ pin fault, PinDigest.ofText pin = .error fault ↔ PinDigest.Refused pin fault) ∧
    (∀ pin fault, PinDigest.ofText pin = .error fault → ∃ reason, fault = .invalidPin reason) ∧
    (∀ pin, (∃ c ∈ (Text.trim pin).toList, ¬Text.IsAscii c) →
      PinDigest.ofText pin = .error (.invalidPin (pin ++ " is not base64"))) ∧
    (∀ pins domains, Reading pins (PinPolicy.pins <$> ofTexts pins domains)) ∧
    (∀ policy pins, Reading pins (leafPins <$> withLeafPins policy pins)) ∧
    ∀ pins pins' : List String, (∀ pin, pin ∈ pins ↔ pin ∈ pins') → ∀ result result',
      Reading pins result → Reading pins' result' →
      (∃ fault fault', result = .error fault ∧ result' = .error fault') ∨
        ∃ digests digests', result = .ok digests ∧ result' = .ok digests' ∧
          digests.Perm digests' := by
  refine ⟨fun d => ⟨d.text_eq, fun before head behind hbefore hbehind hhead => ?_⟩,
    fun pin d h => (PinDigest.ofText_eq_ok.mp h).trim_eq, fun pin fault => PinDigest.ofText_eq_error,
    fun pin fault h => (PinDigest.ofText_eq_error.mp h).exists_invalidPin, fun pin hc => ?_,
    reading_ofTexts, reading_withLeafPins,
    fun pins pins' hpins result result' h h' => h.same h' hpins⟩
  · exact PinDigest.ofText_of_spells (PinDigest.spells_append hbefore hbehind hhead d)
  · obtain ⟨c, hc, hascii⟩ := hc
    exact PinDigest.ofText_of_refused (PinDigest.refused_of_not_isAscii hc hascii)

/-- The digest of which all bytes are the same. -/
def uniformDigest (x : UInt8) : PinDigest := ⟨List.replicate 32 x, List.length_replicate⟩

/-- A pin with a prefix of its own between blanks, one that is not ASCII, and two pins of which one
is repeated. -/
theorem pins_exact_repeated :
    PinDigest.ofText (" " ++ ("Sha256/" ++ (uniformDigest 0).bare) ++ "\n") =
      .ok (uniformDigest 0) ∧
    PinDigest.ofText "sha256é" = .error (.invalidPin "sha256é is not base64") ∧
    ∃ digests digests',
      PinPolicy.pins <$> ofTexts
        [(uniformDigest 0).text, (uniformDigest 1).text, (uniformDigest 0).text] ["b"] =
          .ok digests ∧
      PinPolicy.pins <$> ofTexts [(uniformDigest 1).text, (uniformDigest 0).text] ["b"] =
        .ok digests' ∧ digests.Perm digests' := by
  obtain ⟨hbehind, -, -, -, hascii, hpins, -, hsame⟩ := pins_exact
  refine ⟨(hbehind _).2 " " "Sha256/" "\n" (by simp [Text.isBlank]) (by simp [Text.isBlank]) ?_,
    hascii "sha256é" ?_, ?_⟩
  · unfold PinDigest.IsScheme
    decide
  · exact ⟨'é', by decide +kernel, by decide⟩
  · have hmembers : ∀ pin, pin ∈ [(uniformDigest 0).text, (uniformDigest 1).text,
        (uniformDigest 0).text] ↔ pin ∈ [(uniformDigest 1).text, (uniformDigest 0).text] := by
      simp [or_comm]
    refine (hsame _ _ hmembers _ _ (hpins _ ["b"]) (hpins _ ["b"])).resolve_left ?_
    rintro ⟨fault, -, hfault, -⟩
    have hread : (PinPolicy.pins <$> ofTexts
        [(uniformDigest 0).text, (uniformDigest 1).text, (uniformDigest 0).text] ["b"]).isOk =
          true := by
      decide +kernel
    rw [hfault] at hread
    cases hread

end PinPolicy

end DeviceSecurity
