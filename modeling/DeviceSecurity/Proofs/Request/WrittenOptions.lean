import DeviceSecurity.Proofs.Configuration
import DeviceSecurity.Request.Options

/-!
# Options as they are written

Options are read back from their text, but for a body that is null: it is written as an absent one
is, and read as absent (`RequestOptions.ofText_text`). Nothing that is done with options tells the
two apart. What is sent for a JSON body spells that body. Together with configurations, which are
read back if they can be used, this is what becomes of all that a host writes for the program
(`settings_read_back`).
-/

namespace DeviceSecurity

namespace RequestOptions

variable {o : RequestOptions}

/-! ## Absent bodies -/

/-- The body that is there: null stands for none. -/
def presentBody : Option Json → Option Json
  | some .null => none
  | body => body

/-- The options with no body in place of null. -/
def withoutNull (o : RequestOptions) : RequestOptions := { o with body := presentBody o.body }

/-- Options that are used alike. -/
structure Agrees (a b : RequestOptions) : Prop where
  bodyBytes : a.bodyBytes = b.bodyBytes
  hasJsonBody : a.hasJsonBody = b.hasJsonBody
  timeoutOr : a.timeoutOr = b.timeoutOr
  signingIds : a.signingIds = b.signingIds
  pinPolicy : a.pinPolicy = b.pinPolicy
  validate : a.validate = b.validate

theorem bodyBytes_withoutNull (o : RequestOptions) : o.withoutNull.bodyBytes = o.bodyBytes := by
  unfold bodyBytes withoutNull
  cases o.body with
  | none => rfl
  | some j => cases j <;> rfl

theorem hasJsonBody_withoutNull (o : RequestOptions) :
    o.withoutNull.hasJsonBody = o.hasJsonBody := by
  unfold hasJsonBody withoutNull
  cases o.body with
  | none => rfl
  | some j => cases j <;> rfl

/-- Null is used as an absent body is. -/
theorem agrees_withoutNull (o : RequestOptions) : o.withoutNull.Agrees o where
  bodyBytes := bodyBytes_withoutNull o
  hasJsonBody := hasJsonBody_withoutNull o
  timeoutOr := rfl
  signingIds := rfl
  pinPolicy := rfl
  validate := by
    rw [validate, validate, bodyBytes_withoutNull]
    rfl

/-! ## Writing and reading -/

/-- Options within the limits up to which everything is read back. Headers and the members of the
body stand in order; the body nests no deeper than is read behind the options around it, and its
numbers are, as the time is, whole and fit 64 bits. -/
structure IsExact (o : RequestOptions) : Prop where
  headers : o.headers.Sorted
  body : ∀ j, o.body = some j → j.IsCanonical ∧ Json.Exact 126 j
  timeout : ∀ n, o.timeout = some n → n < 2 ^ 64

/-- The values of the fields in order. -/
def values (o : RequestOptions) : List Json :=
  [.string o.method.name, .object (o.headers.map fun h => (h.1, .string h.2)), o.body.getD .null,
    (o.timeout.map fun n => .number (.whole n)).getD .null, toJson.texts o.certificates,
    toJson.texts o.leafCertificates, toJson.texts o.validDomains,
    (o.keyId.map Json.string).getD .null, (o.requestId.map Json.string).getD .null]

theorem toJson_eq (o : RequestOptions) :
    o.toJson = .object ((fields.map (·.name)).zip o.values) := rfl

theorem readMethod_name (m : RequestMethod) :
    Json.readVariant RequestMethod.byName (.string m.name) = .ok m := by
  cases m <;> rfl

theorem readBody_getD {body : Option Json} (h : ∀ j, body = some j → j.IsCanonical) :
    readBody (body.getD .null) = .ok (presentBody body) := by
  cases body with
  | none => rfl
  | some j =>
    have hcanonical := (h j rfl).canonical_eq
    cases j with
    | null => rfl
    | _ => exact congrArg (fun j => Except.ok (some j)) hcanonical

theorem readRecord_toJson (h : o.IsExact) :
    Json.readRecord "FetchOptions" fields {} o.toJson = .ok o.withoutNull := by
  have hheaders : Json.readMap Json.readString
      (.object (o.headers.map fun h => (h.1, .string h.2))) = .ok o.headers :=
    Json.readMap_map Json.readString_string h.headers
  have hbody := readBody_getD fun j hj => (h.body j hj).1
  have htexts : ∀ l, Json.readList Json.readString (toJson.texts l) = .ok l :=
    Json.readList_map Json.readString_string
  rw [toJson_eq, Json.readRecord_zip (by decide) rfl]
  simp only [Json.readRecord, values, fields, Json.readItems, readMethod_name, hheaders, hbody,
    Json.readOptional_word, htexts, Json.readOptional_string, pure_eq_ok, ok_bind, ok_map]
  rfl

theorem exact_toJson (h : o.IsExact) : Json.Exact Json.maxDepth o.toJson := by
  have hheaders : Json.Exact 126 (.object (o.headers.map fun h => (h.1, .string h.2))) :=
    .object (List.forall_mem_map.mpr fun _ _ => .string _)
  have hbody : Json.Exact 126 (o.body.getD .null) := by
    cases hsome : o.body with
    | none => exact .null
    | some j => exact (h.body j hsome).2
  have htimeout : Json.Exact 126 ((o.timeout.map fun n => .number (.whole n)).getD .null) :=
    Json.exact_getD_null fun n hn => Json.exact_word (h.timeout n hn)
  have hid : ∀ id : Option String, Json.Exact 126 ((id.map Json.string).getD .null) :=
    fun _ => Json.exact_getD_null fun _ _ => .string _
  rw [toJson_eq]
  refine Json.exact_record (d := 126) ?_ _
  simp only [values, List.forall_mem_cons]
  exact ⟨.string _, hheaders, hbody, htimeout, Json.exact_texts _, Json.exact_texts _,
    Json.exact_texts _, hid _, hid _, List.forall_mem_nil _⟩

/-- Options are read back from their text, with no body in place of null. -/
theorem ofText_text (h : o.IsExact) : ofText o.text = .ok o.withoutNull := by
  rw [ofText, text, Json.readText_text (exact_toJson h) (readRecord_toJson h)]

/-! ## What is sent for a body -/

/-- A JSON body is sent as a text that spells it. -/
theorem exists_bodyBytes (h : o.IsExact) (hjson : o.hasJsonBody = true) :
    ∃ j sent, o.body = some j ∧ o.bodyBytes = some sent ∧
      (Bytes.toText? sent).bind Json.ofText? = some j := by
  cases hbody : o.body with
  | none => rw [hasJsonBody, hbody] at hjson; cases hjson
  | some j =>
    obtain ⟨hcanonical, hexact⟩ := h.body j hbody
    have hread : Json.ofText? j.text = some j :=
      Json.ofText?_text hcanonical hexact.allNumbers (Nat.le_succ_of_le hexact.depth_le)
    refine ⟨j, Bytes.ofText j.text, rfl, ?_, ?_⟩
    · rw [hasJsonBody, hbody] at hjson
      rw [bodyBytes, hbody]
      cases j <;> first | rfl | cases hjson
    · rw [Bytes.toText?_ofText, Option.bind_some, hread]

end RequestOptions

/-! ## All that a host writes -/

/-- Options within the limits are read back from their text, with no body in place of null, and what
is read is used as they are; what is sent for a JSON body is a text that spells it. Configurations
are read back from their text if they can be used, and are refused as invalid otherwise. -/
theorem settings_read_back :
    (∀ o : RequestOptions, o.IsExact →
      RequestOptions.ofText o.text = .ok o.withoutNull ∧ o.withoutNull.Agrees o ∧
      (o.hasJsonBody = true → ∃ j sent, o.body = some j ∧ o.bodyBytes = some sent ∧
        (Bytes.toText? sent).bind Json.ofText? = some j)) ∧
    ∀ c : Configuration, c.fetchTimeout < 2 ^ 64 →
      (c.validate = .ok () ↔ c.IsUsable) ∧
      (c.validate = .ok () → Configuration.ofText c.text = .ok c) ∧
      (c.validate ≠ .ok () →
        ∃ reason, Configuration.ofText c.text = .error (.invalidConfig reason)) := by
  refine ⟨fun o h => ⟨RequestOptions.ofText_text h, o.agrees_withoutNull,
    RequestOptions.exists_bodyBytes h⟩, fun c h => ?_⟩
  have hread := Configuration.ofText_text h
  refine ⟨Configuration.validate_eq_ok, fun hvalid => ?_, fun hinvalid => ?_⟩
  · rw [hread, hvalid]
    rfl
  · obtain ⟨reason, hreason⟩ :=
      Configuration.exists_validate_eq_error (mt Configuration.validate_eq_ok.mpr hinvalid)
    exact ⟨reason, by rw [hread, hreason]; rfl⟩

/-- Options with the smallest and the largest number and with names that differ in case come back,
as they do with null for the body, which then is absent; so does a configuration, but not one that
leaves requests no time. -/
theorem settings_read_back_limits :
    let o : RequestOptions := {
      method := .put, headers := [("A", "b\n"), ("a", "\u0000")]
      body := some (.object [("n", .array [.number (.whole (-0x8000000000000000)), .null])])
      timeout := some 0xffffffffffffffff, keyId := some "" }
    let unset : RequestOptions := { o with body := some .null }
    let c : Configuration := { defaultCurve := .p521, deviceSecret := some "\"" }
    let hasty : Configuration := { c with fetchTimeout := 0 }
    o.IsExact ∧ unset.IsExact ∧ RequestOptions.ofText o.text = .ok o ∧
    RequestOptions.ofText unset.text = .ok { o with body := none } ∧
    c.fetchTimeout < 2 ^ 64 ∧ Configuration.ofText c.text = .ok c ∧
    ∃ reason, Configuration.ofText hasty.text = .error (.invalidConfig reason) := by
  intro o unset c hasty
  have hsorted : o.headers.Sorted := by
    unfold Json.Members.Sorted
    decide
  have htimeout : ∀ n, o.timeout = some n → n < 2 ^ 64 := by
    rintro n ⟨⟩
    decide
  have hbody : ∀ j, o.body = some j → j.IsCanonical ∧ Json.Exact 126 j := by
    rintro j ⟨⟩
    refine ⟨.object (List.pairwise_singleton _ _) (List.forall_mem_singleton.mpr (.array ?_)),
      .object (List.forall_mem_singleton.mpr (.array ?_))⟩
    · simp only [List.forall_mem_cons]
      exact ⟨.number _, .null, List.forall_mem_nil _⟩
    · simp only [List.forall_mem_cons]
      exact ⟨.whole (by decide) (by decide), .null, List.forall_mem_nil _⟩
  have hexact : o.IsExact := ⟨hsorted, hbody, htimeout⟩
  have hunset : unset.IsExact := ⟨hsorted, by rintro j ⟨⟩; exact ⟨.null, .null⟩, htimeout⟩
  obtain ⟨hoptions, hconfiguration⟩ := settings_read_back
  have hc : c.fetchTimeout < 2 ^ 64 := by decide
  exact ⟨hexact, hunset, (hoptions o hexact).1, (hoptions unset hunset).1, hc,
    (hconfiguration c hc).2.1 rfl, (hconfiguration hasty (by decide)).2.2 nofun⟩

end DeviceSecurity
