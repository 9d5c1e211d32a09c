import DeviceSecurity.Proofs.Result
import DeviceSecurity.Proofs.Text.Trim
import DeviceSecurity.Storage.Device
import Mathlib.Data.List.Basic

/-!
# Device identifiers

A raw identifier is trimmed first and loses its hyphens then. So an identifier is never empty and
has no hyphens, but where hyphens at an end of the trimmed text have a blank next to them, this
blank comes to stand at the end (`ExposesBlank`). That is the only way in which an identifier may
fail to be normalized, or one that is made of hyphens and blanks may fail to be refused
(`identifier_exact`).
-/

namespace DeviceSecurity.DeviceSource

open Text (isBlank IsTrimmed)

variable {raw : String} {l : List Char}

/-! ## Blanks behind hyphens -/

/-- The first character that is no hyphen is a blank. -/
def BlankFirst (l : List Char) : Prop :=
  ∃ hyphens c rest, l = hyphens ++ c :: rest ∧ (∀ x ∈ hyphens, x = '-') ∧ isBlank c = true

/-- Of the characters of the trimmed text that are no hyphens, the first or the last is a blank. -/
def ExposesBlank (raw : String) : Prop :=
  BlankFirst (Text.trim raw).toList ∨ BlankFirst (Text.trim raw).toList.reverse

theorem isBlank_hyphen : isBlank '-' = false := by decide

/-- What is left without hyphens begins with no blank exactly if none is first. -/
theorem head?_filter_iff :
    (∀ c ∈ (l.filter (· ≠ '-')).head?, isBlank c = false) ↔ ¬BlankFirst l := by
  rw [List.head?_filter]
  constructor
  · rintro h ⟨hyphens, c, rest, rfl, hhyphens, hc⟩
    have hne : c ≠ '-' := by
      rintro rfl
      cases hc.symm.trans isBlank_hyphen
    have hfind : (hyphens ++ c :: rest).find? (· ≠ '-') = some c :=
      List.find?_eq_some_iff_append.mpr
        ⟨by simpa using hne, hyphens, rest, rfl, fun x hx => by simp [hhyphens x hx]⟩
    cases hc.symm.trans (h c hfind)
  · intro h c hc
    obtain ⟨-, hyphens, rest, rfl, hhyphens⟩ := List.find?_eq_some_iff_append.mp hc
    rw [← Bool.not_eq_true]
    intro hblank
    exact h ⟨hyphens, c, rest, rfl, fun x hx => by simpa using hhyphens x hx, hblank⟩

theorem isTrimmed_filter_iff :
    IsTrimmed isBlank (l.filter (· ≠ '-')) ↔ ¬(BlankFirst l ∨ BlankFirst l.reverse) := by
  rw [not_or, ← head?_filter_iff, ← head?_filter_iff, List.filter_reverse, List.head?_reverse]
  rfl

/-- Where there are hyphens and blanks only, and none of the blanks is first, all are hyphens. -/
theorem all_hyphens_iff (h : ∀ c ∈ l, c = '-' ∨ isBlank c = true) :
    (∀ c ∈ l, c = '-') ↔ ¬BlankFirst l := by
  constructor
  · rintro hall ⟨hyphens, c, rest, rfl, -, hc⟩
    rw [hall c (by simp)] at hc
    cases hc.symm.trans isBlank_hyphen
  · intro hfirst c hc
    by_contra hne
    have hrest : l.filter (· ≠ '-') ≠ [] :=
      List.ne_nil_of_mem (List.mem_filter.mpr ⟨hc, by simpa using hne⟩)
    obtain ⟨x, rest, hx⟩ := List.exists_cons_of_ne_nil hrest
    have hmem : x ∈ l.filter (· ≠ '-') := hx ▸ List.mem_cons_self
    obtain ⟨hxl, hxne⟩ := List.mem_filter.mp hmem
    have hblank := (h x hxl).resolve_left (by simpa using hxne)
    have hclear := head?_filter_iff.mpr hfirst x (by rw [hx]; rfl)
    cases hblank.symm.trans hclear

/-! ## Normalizing -/

theorem toList_normalize (raw : String) :
    (normalize raw).toList = (Text.trim raw).toList.filter (· ≠ '-') := by
  rw [normalize, Text.trim, String.toList_ofList, String.toList_ofList]

theorem hyphen_not_mem_normalize (raw : String) : '-' ∉ (normalize raw).toList := by
  rw [toList_normalize]
  simp

theorem normalize_eq_empty_iff : normalize raw = "" ↔ ∀ c ∈ (Text.trim raw).toList, c = '-' := by
  rw [← String.toList_inj, toList_normalize, String.toList_empty, List.filter_eq_nil_iff]
  simp

/-- A text without hyphens is only trimmed. -/
theorem normalize_of_not_mem {id : String} (h : '-' ∉ id.toList) : normalize id = Text.trim id := by
  apply String.toList_injective
  rw [toList_normalize, List.filter_eq_self]
  intro c hc
  rw [Text.trim, String.toList_ofList] at hc
  have hmem := Text.mem_of_mem_trimBy hc
  simpa using ne_of_mem_of_not_mem hmem h

theorem normalize_eq_self_iff {id : String} (h : '-' ∉ id.toList) :
    normalize id = id ↔ IsTrimmed isBlank id.toList := by
  rw [normalize_of_not_mem h, ← String.toList_inj, Text.trim, String.toList_ofList]
  exact Text.trimBy_eq_self_iff

theorem isTrimmed_normalize_iff (raw : String) :
    IsTrimmed isBlank (normalize raw).toList ↔ ¬ExposesBlank raw := by
  rw [toList_normalize]
  exact isTrimmed_filter_iff

/-! ## Identifiers -/

/-- The error of an identifier of which nothing is left. -/
def emptyFault : Error := .invalidConfig "empty device identifier"

theorem identifier_fixed (raw : String) : identifier (fixed raw) =
    if normalize raw = "" then .error emptyFault else .ok (normalize raw) := by
  unfold identifier fixed
  rw [ok_bind]
  by_cases h : normalize raw = ""
  · rw [if_pos h, h]
    rfl
  · simp [h]

theorem identifier_eq_ok {id : String} :
    identifier (fixed raw) = .ok id ↔ id ≠ "" ∧ id = normalize raw := by
  rw [identifier_fixed]
  constructor
  · intro h
    split at h
    · cases h
    · next hne =>
      obtain rfl := Except.ok.inj h
      exact ⟨hne, rfl⟩
  · rintro ⟨hne, rfl⟩
    exact if_neg hne

theorem identifier_eq_error {fault : Error} : identifier (fixed raw) = .error fault ↔
    fault = emptyFault ∧ ∀ c ∈ (Text.trim raw).toList, c = '-' := by
  rw [identifier_fixed, ← normalize_eq_empty_iff]
  constructor
  · intro h
    split at h
    · next hempty => exact ⟨(Except.error.inj h).symm, hempty⟩
    · cases h
  · rintro ⟨rfl, hempty⟩
    exact if_pos hempty

/-- A text of hyphens and blanks exposes a blank if one is left between hyphens. -/
theorem all_hyphens_trim_iff (h : ∀ c ∈ raw.toList, c = '-' ∨ isBlank c = true) :
    (∀ c ∈ (Text.trim raw).toList, c = '-') ↔ ¬ExposesBlank raw := by
  have htrim : ∀ c ∈ (Text.trim raw).toList, c = '-' ∨ isBlank c = true := by
    intro c hc
    rw [Text.trim, String.toList_ofList] at hc
    exact h c (Text.mem_of_mem_trimBy hc)
  have hfront := all_hyphens_iff htrim
  have hback := all_hyphens_iff (l := (Text.trim raw).toList.reverse) (by simpa using htrim)
  simp only [List.mem_reverse] at hback
  rw [ExposesBlank, not_or, ← hfront, ← hback, and_self]

/-- An identifier is not empty and has no hyphens. It has no blanks at its ends, and is normalized
for good, exactly if the raw text exposes no blank. A raw text is refused exactly if it has nothing
but hyphens between the blanks at its ends; so of the texts of hyphens and blanks, those are refused
that expose no blank. -/
theorem identifier_exact (raw : String) :
    (∀ id, identifier (fixed raw) = .ok id → id ≠ "" ∧ '-' ∉ id.toList ∧
      (IsTrimmed isBlank id.toList ↔ ¬ExposesBlank raw) ∧
      (normalize id = id ↔ ¬ExposesBlank raw)) ∧
    (∀ fault, identifier (fixed raw) = .error fault ↔
      fault = .invalidConfig "empty device identifier" ∧
        ∀ c ∈ (Text.trim raw).toList, c = '-') ∧
    ((∀ c ∈ raw.toList, c = '-' ∨ isBlank c = true) →
      (identifier (fixed raw) = .error (.invalidConfig "empty device identifier") ↔
        ¬ExposesBlank raw)) := by
  refine ⟨fun id hid => ?_, fun fault => identifier_eq_error, fun hraw => ?_⟩
  · obtain ⟨hne, rfl⟩ := identifier_eq_ok.mp hid
    have hhyphen := hyphen_not_mem_normalize raw
    have htrimmed := isTrimmed_normalize_iff raw
    exact ⟨hne, hhyphen, htrimmed, (normalize_eq_self_iff hhyphen).trans htrimmed⟩
  · rw [← all_hyphens_trim_iff hraw, identifier_eq_error]
    exact and_iff_right rfl

/-- Hyphens at the end of an identifier are removed, and hyphens between blanks refused. -/
theorem identifier_exact_hyphens :
    identifier (fixed "\t6F-A-\n") = .ok "6FA" ∧ '-' ∉ "6FA".toList ∧
    (∀ c ∈ "\t--\n".toList, c = '-' ∨ isBlank c = true) ∧
    (identifier (fixed "\t--\n") = .error (.invalidConfig "empty device identifier") ↔
      ¬ExposesBlank "\t--\n") := by
  have hid : identifier (fixed "\t6F-A-\n") = .ok "6FA" := by decide
  have hraw : ∀ c ∈ "\t--\n".toList, c = '-' ∨ isBlank c = true :=
    List.all_iff_forall_prop.mp (by decide)
  obtain ⟨hidentifier, -, -⟩ := identifier_exact "\t6F-A-\n"
  obtain ⟨-, -, hrefused⟩ := identifier_exact "\t--\n"
  exact ⟨hid, (hidentifier _ hid).2.1, hraw, hrefused hraw⟩

/-- A blank between two hyphens becomes an identifier. -/
theorem identifier_blank : identifier (fixed "- -") = .ok " " := by decide

/-- So identifiers are not always normalized, and not all raw texts of hyphens and blanks are
refused. -/
theorem blank_exposed : ¬∀ raw : String,
    (∀ id, identifier (fixed raw) = .ok id → id ≠ "" ∧ '-' ∉ id.toList ∧
      IsTrimmed isBlank id.toList ∧ normalize id = id) ∧
    ((∀ c ∈ raw.toList, c = '-' ∨ isBlank c = true) →
      ∃ reason, identifier (fixed raw) = .error (.invalidConfig reason)) := by
  intro h
  obtain ⟨hidentifier, -⟩ := h "- -"
  obtain ⟨-, -, ⟨hfront, -⟩, -⟩ := hidentifier " " identifier_blank
  cases hfront ' ' rfl

end DeviceSecurity.DeviceSource
