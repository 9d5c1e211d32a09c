import DeviceSecurity.Proofs.Json.Record
import DeviceSecurity.Proofs.Result
import DeviceSecurity.Proofs.Text.Encoding
import DeviceSecurity.Request.Options

/-!
# Checking options

Options are valid if a body is there where the method needs one, every header is named by a token
and no value of a header holds a control of ASCII but the tab (`RequestOptions.IsValid`). Names and
values are judged by their bytes, which is how they are sent. Checking the options passes exactly
for the valid ones, and otherwise reports the body first, and else the first header in the order of
names that cannot be sent (`RequestOptions.Invalid`). The headers of options are sorted by name, as
reading leaves them (`RequestOptions.sorted_headers_of_ofText`).
-/

namespace DeviceSecurity.RequestOptions

variable {o : RequestOptions}

/-! ## Names and values -/

/-- The visible characters of ASCII that are no characters of a token. -/
def delimiters : List Char := "\"(),/:;<=>?@[\\]\x7b\x7d".toList

/-- The number of a visible ASCII character that is no delimiter. -/
def IsTokenByte (n : Nat) : Prop := 0x21 ≤ n ∧ n ≤ 0x7e ∧ n ∉ delimiters.map Char.toNat

instance : DecidablePred IsTokenByte := fun _ => inferInstanceAs (Decidable (_ ∧ _))

/-- A token that is not too long for the name of a header. -/
structure IsToken (name : String) : Prop where
  length_pos : 1 ≤ (Bytes.ofText name).length
  length_le : (Bytes.ofText name).length ≤ 65535
  bytes : ∀ x ∈ Bytes.ofText name, IsTokenByte x.toNat

/-- No byte of the text is a control of ASCII, unless it is a tab. -/
def IsClean (text : String) : Prop :=
  ∀ x ∈ Bytes.ofText text, x.toNat = 0x9 ∨ 0x20 ≤ x.toNat ∧ x.toNat ≠ 0x7f

theorem isTokenChar_iff {c : Char} : isTokenChar c = true ↔ IsTokenByte c.toNat := by
  have hascii : ∀ c, Text.IsAscii c → (isTokenChar c = true ↔ IsTokenByte c.toNat) :=
    Text.forall_isAscii (by decide +kernel)
  by_cases hc : Text.IsAscii c
  · exact hascii c hc
  · -- Along the list: the statement itself may be decided over all characters that there are.
    have hmarks : ∀ c ∈ "!#$%&'*+-.^_\x60|~".toList, Text.IsAscii c :=
      List.all_iff_forall_prop.mp (by decide)
    refine iff_of_false (fun h => hc ?_) (fun h => hc (Nat.lt_succ_of_lt (Nat.lt_succ_of_le h.2.1)))
    rw [isTokenChar, Bool.or_eq_true] at h
    exact h.elim Text.isAscii_of_isAlphanum fun hmark => hmarks c (by simpa using hmark)

theorem forall_isTokenByte {name : String} :
    (∀ x ∈ Bytes.ofText name, IsTokenByte x.toNat) ↔ ∀ c ∈ name.toList, IsTokenByte c.toNat := by
  apply Bytes.forall_mem_ofText (P := IsTokenByte)
  rintro m n hm - ⟨-, hle, -⟩
  omega

theorem isHeaderName_iff {name : String} : isHeaderName name = true ↔ IsToken name := by
  have htoken : name.toList.all isTokenChar = true ↔ ∀ c ∈ name.toList, IsTokenByte c.toNat := by
    simp only [List.all_eq_true, isTokenChar_iff]
  have hlength : (∀ c ∈ name.toList, IsTokenByte c.toNat) →
      (Bytes.ofText name).length = name.length := by
    intro h
    apply Bytes.length_ofText
    intro c hc
    exact Nat.lt_succ_of_lt (Nat.lt_succ_of_le (h c hc).2.1)
  have hempty : name ≠ "" ↔ 1 ≤ name.length := by
    rw [Nat.one_le_iff_ne_zero, ne_eq, ne_eq, String.length_eq_zero_iff]
  rw [isHeaderName, Bool.and_eq_true, Bool.and_eq_true, decide_eq_true_eq, decide_eq_true_eq,
    htoken, hempty]
  constructor
  · rintro ⟨⟨hpos, hle⟩, hchars⟩
    have hbytes := hlength hchars
    exact ⟨hbytes ▸ hpos, hbytes ▸ hle, forall_isTokenByte.mpr hchars⟩
  · rintro ⟨hpos, hle, hbytes⟩
    have hchars := forall_isTokenByte.mp hbytes
    rw [hlength hchars] at hpos hle
    exact ⟨⟨hpos, hle⟩, hchars⟩

theorem isClean_iff {text : String} : IsClean text ↔
    ∀ c ∈ text.toList, c.toNat = 0x9 ∨ 0x20 ≤ c.toNat ∧ c.toNat ≠ 0x7f := by
  apply Bytes.forall_mem_ofText (P := fun n => n = 0x9 ∨ 0x20 ≤ n ∧ n ≠ 0x7f)
  intro m n hm hn _
  omega

theorem isHeaderValue_iff {value : String} : isHeaderValue value = true ↔ IsClean value := by
  have hchar : ∀ c : Char, (c == '\t' || (decide (' ' ≤ c) && c != '\x7f')) = true ↔
      c.toNat = 0x9 ∨ 0x20 ≤ c.toNat ∧ c.toNat ≠ 0x7f := by
    intro c
    rw [Bool.or_eq_true, Bool.and_eq_true, beq_iff_eq, bne_iff_ne, decide_eq_true_eq, ne_eq,
      ← Char.toNat_inj, ← Char.toNat_inj]
    rfl
  rw [isClean_iff, isHeaderValue, List.all_eq_true]
  simp only [hchar]

theorem isClean_append {a b : String} : IsClean (a ++ b) ↔ IsClean a ∧ IsClean b := by
  simp only [isClean_iff, String.toList_append, List.forall_mem_append]

/-- A name cannot bring a control into what is sent either. -/
theorem IsToken.isClean {name : String} (h : IsToken name) : IsClean name := by
  intro x hx
  obtain ⟨hlow, hhigh, -⟩ := h.bytes x hx
  omega

/-! ## Order -/

theorem field_keeps_sorted {field : Json.Field RequestOptions} (h : field ∈ fields) :
    field.Keeps fun o => o.headers.Sorted := by
  intro j o updated hsorted hread
  simp only [fields, List.mem_cons, List.not_mem_nil, or_false] at h
  -- only the second field touches the headers
  rcases h with rfl | rfl | rfl | rfl | rfl | rfl | rfl | rfl | rfl
  all_goals
    obtain ⟨value, hvalue, hupdated⟩ := bind_eq_ok.mp hread
    obtain rfl := Except.ok.inj hupdated
  case inr.inl => exact Json.sorted_of_readMap hvalue
  all_goals exact hsorted

theorem sorted_headers_of_ofText {text : String} (h : ofText text = .ok o) :
    o.headers.Sorted := by
  have hdefaults : ({} : RequestOptions).headers.Sorted := List.Pairwise.nil
  unfold ofText at h
  split at h
  · next hread =>
    obtain rfl := Except.ok.inj h
    obtain ⟨j, hj⟩ := Json.exists_of_readText hread
    exact Json.of_readRecord (P := fun o : RequestOptions => o.headers.Sorted)
      (fun _ => field_keeps_sorted) hdefaults hj
  · cases h

/-! ## Valid options -/

/-- Methods that change something have a body, which is not null. -/
def HasNeededBody (o : RequestOptions) : Prop :=
  o.method = .get ∨ o.method = .delete ∨ ∃ body, o.body = some body ∧ body ≠ .null

/-- A header whose name and value can be sent. -/
structure CanSend (name value : String) : Prop where
  name : IsToken name
  value : IsClean value

/-- Options of a request that can be sent. -/
structure IsValid (o : RequestOptions) : Prop where
  body : o.HasNeededBody
  headers : ∀ h ∈ o.headers, CanSend h.1 h.2

/-- A header of which all those before it in the order of names can be sent. -/
def IsNext (o : RequestOptions) (name value : String) : Prop :=
  (name, value) ∈ o.headers ∧ ∀ h ∈ o.headers, h.1 < name → CanSend h.1 h.2

/-- What is wrong with options: the body is missing, or else it is the first header that cannot be
sent, whose name is looked at before the value. -/
inductive Invalid (o : RequestOptions) : Error → Prop
  | body (h : ¬o.HasNeededBody) : Invalid o (.invalidConfig (o.method.name ++ " requires a body"))
  | name {name value : String} (hbody : o.HasNeededBody) (hnext : o.IsNext name value)
    (hname : ¬IsToken name) : Invalid o (.invalidConfig ("invalid header name " ++ Text.quote name))
  | value {name value : String} (hbody : o.HasNeededBody) (hnext : o.IsNext name value)
    (hname : IsToken name) (hvalue : ¬IsClean value) :
    Invalid o (.invalidConfig ("invalid value for header " ++ name))

theorem bodyBytes_eq_none_iff : o.bodyBytes = none ↔ ∀ body, o.body = some body → body = .null := by
  unfold bodyBytes
  cases o.body with
  | none => simp
  | some j => cases j <;> simp

theorem hasNeededBody_iff :
    o.HasNeededBody ↔ (o.method.requiresBody && o.bodyBytes.isNone) = false := by
  have hbody : o.bodyBytes.isNone = false ↔ ∃ body, o.body = some body ∧ body ≠ .null := by
    rw [Option.isNone_eq_false_iff, Option.isSome_iff_ne_none, ne_eq, bodyBytes_eq_none_iff]
    simp only [not_forall, exists_prop, ne_eq]
  rw [HasNeededBody, ← hbody]
  cases o.method <;> simp [RequestMethod.requiresBody]

theorem validateHeader_eq_ok {name value : String} :
    validateHeader name value = .ok () ↔ CanSend name value := by
  have hsend : CanSend name value ↔ isHeaderName name = true ∧ isHeaderValue value = true := by
    rw [isHeaderName_iff, isHeaderValue_iff]
    exact ⟨fun h => ⟨h.name, h.value⟩, fun h => ⟨h.1, h.2⟩⟩
  rw [hsend, validateHeader]
  by_cases hname : isHeaderName name = true
  · by_cases hvalue : isHeaderValue value = true
    · simp [hname, hvalue]
    · simp [hname, hvalue]
  · simp [hname]

theorem validateHeader_eq_error {name value : String} {fault : Error} :
    validateHeader name value = .error fault ↔
      ¬IsToken name ∧ fault = .invalidConfig ("invalid header name " ++ Text.quote name) ∨
      IsToken name ∧ ¬IsClean value ∧
        fault = .invalidConfig ("invalid value for header " ++ name) := by
  rw [← isHeaderName_iff, ← isHeaderValue_iff, validateHeader]
  by_cases hname : isHeaderName name = true
  · by_cases hvalue : isHeaderValue value = true
    · simp [hname, hvalue]
    · simpa [hname, hvalue] using eq_comm
  · simpa [hname] using eq_comm

theorem validate_of_hasNeededBody (h : o.HasNeededBody) :
    o.validate = o.headers.forM fun header => validateHeader header.1 header.2 := by
  rw [validate, hasNeededBody_iff.mp h]
  rfl

theorem validate_of_not_hasNeededBody (h : ¬o.HasNeededBody) :
    o.validate = .error (.invalidConfig (o.method.name ++ " requires a body")) := by
  rw [hasNeededBody_iff, Bool.not_eq_false] at h
  rw [validate, h]
  rfl

/-- Options fail for nothing but what is configured wrongly. -/
theorem exists_invalidConfig_of_validate {fault : Error} (h : o.validate = .error fault) :
    ∃ reason, fault = .invalidConfig reason := by
  by_cases hbody : o.HasNeededBody
  · rw [validate_of_hasNeededBody hbody, forM_eq_error] at h
    obtain ⟨_, _, _, -, -, hheader⟩ := h
    rcases validateHeader_eq_error.mp hheader with ⟨-, rfl⟩ | ⟨-, -, rfl⟩
    · exact ⟨_, rfl⟩
    · exact ⟨_, rfl⟩
  · rw [validate_of_not_hasNeededBody hbody] at h
    exact ⟨_, (Except.error.inj h).symm⟩

/-- Checking passes for the valid options and no others. -/
theorem validate_eq_ok : o.validate = .ok () ↔ o.IsValid := by
  by_cases hbody : o.HasNeededBody
  · rw [validate_of_hasNeededBody hbody, forM_eq_ok]
    simp only [validateHeader_eq_ok]
    exact ⟨fun h => ⟨hbody, h⟩, fun h => h.headers⟩
  · rw [validate_of_not_hasNeededBody hbody]
    exact iff_of_false nofun fun h => hbody h.body

/-- Where headers are sorted, those before one in the list are those before it in the order of
names. -/
theorem isNext_iff (hsorted : o.headers.Sorted) {name value : String} : o.IsNext name value ↔
    ∃ before after, o.headers = before ++ (name, value) :: after ∧
      ∀ h ∈ before, CanSend h.1 h.2 := by
  constructor
  · rintro ⟨hmem, hfirst⟩
    obtain ⟨before, after, hheaders⟩ := List.append_of_mem hmem
    rw [hheaders, Json.Members.Sorted, List.pairwise_append] at hsorted
    refine ⟨before, after, hheaders, fun h hh => hfirst h ?_ ?_⟩
    · rw [hheaders]
      exact List.mem_append_left _ hh
    · exact hsorted.2.2 h hh _ List.mem_cons_self
  · rintro ⟨before, after, hheaders, hbefore⟩
    rw [hheaders, Json.Members.Sorted, List.pairwise_append, List.pairwise_cons] at hsorted
    rw [IsNext, hheaders]
    refine ⟨by simp, fun h hh hlt => ?_⟩
    rcases List.mem_append.mp hh with hh | hh
    · exact hbefore h hh
    · rcases List.mem_cons.mp hh with rfl | hh
      · exact absurd hlt (lt_irrefl _)
      · exact absurd (hlt.trans (hsorted.2.1.1 h hh)) (lt_irrefl _)

/-- What checking reports is what is wrong with the options. -/
theorem validate_eq_error (hsorted : o.headers.Sorted) {fault : Error} :
    o.validate = .error fault ↔ o.Invalid fault := by
  by_cases hbody : o.HasNeededBody
  · rw [validate_of_hasNeededBody hbody, forM_eq_error]
    simp only [validateHeader_eq_ok, validateHeader_eq_error]
    constructor
    · rintro ⟨before, ⟨name, value⟩, after, hheaders, hbefore, hfault⟩
      have hnext := (isNext_iff hsorted).mpr ⟨before, after, hheaders, hbefore⟩
      rcases hfault with ⟨hname, rfl⟩ | ⟨hname, hvalue, rfl⟩
      · exact .name hbody hnext hname
      · exact .value hbody hnext hname hvalue
    · intro h
      cases h with
      | body h => exact absurd hbody h
      | name _ hnext hname =>
        obtain ⟨before, after, hheaders, hbefore⟩ := (isNext_iff hsorted).mp hnext
        exact ⟨before, _, after, hheaders, hbefore, .inl ⟨hname, rfl⟩⟩
      | value _ hnext hname hvalue =>
        obtain ⟨before, after, hheaders, hbefore⟩ := (isNext_iff hsorted).mp hnext
        exact ⟨before, _, after, hheaders, hbefore, .inr ⟨hname, hvalue, rfl⟩⟩
  · rw [validate_of_not_hasNeededBody hbody]
    constructor
    · intro h
      obtain rfl := Except.error.inj h
      exact .body hbody
    · intro h
      cases h with
      | body => rfl
      | name h => exact absurd h hbody
      | value h => exact absurd h hbody

end DeviceSecurity.RequestOptions
