import DeviceSecurity.Configuration
import DeviceSecurity.Proofs.Json.WrittenRecord

/-!
# Configurations as they are written

A configuration is read back from its text if its settings can be used, and refused for the setting
that cannot be used otherwise (`Configuration.ofText_text`).
-/

namespace DeviceSecurity.Configuration

variable {c : Configuration}

/-! ## Settings that can be used -/

/-- Settings that some part of the program can use. -/
structure IsUsable (c : Configuration) : Prop where
  fetchTimeout : c.fetchTimeout ≠ 0
  deviceSecret : c.deviceSecret ≠ some ""

theorem validate_eq_ok : c.validate = .ok () ↔ c.IsUsable := by
  unfold validate
  by_cases htimeout : c.fetchTimeout = 0
  · exact iff_of_false (by simp [htimeout]) fun h => h.fetchTimeout htimeout
  · by_cases hsecret : c.deviceSecret = some ""
    · exact iff_of_false (by simp [htimeout, hsecret]) fun h => h.deviceSecret hsecret
    · exact iff_of_true (by simp [htimeout, hsecret]) ⟨htimeout, hsecret⟩

theorem exists_validate_eq_error (h : ¬c.IsUsable) :
    ∃ reason, c.validate = .error (.invalidConfig reason) := by
  unfold validate
  by_cases htimeout : c.fetchTimeout = 0
  · exact ⟨_, by rw [if_pos htimeout]; rfl⟩
  · have hsecret : c.deviceSecret = some "" := by
      by_contra hsecret
      exact h ⟨htimeout, hsecret⟩
    exact ⟨_, by rw [if_neg htimeout, if_pos hsecret]; rfl⟩

/-! ## Writing and reading -/

/-- The values of the fields in order. -/
def values (c : Configuration) : List Json :=
  [.string c.defaultCurve.name, .number (.whole c.fetchTimeout), .string c.decodePolicy.name,
    .bool c.verboseLogging, (c.deviceSecret.map Json.string).getD .null]

theorem toJson_eq (c : Configuration) :
    c.toJson = .object ((fields.map (·.name)).zip c.values) := rfl

theorem readCurve_name (curve : Curve) : readCurve (.string curve.name) = .ok curve := by
  have hread : Json.readString (.string curve.name) = .ok curve.name := rfl
  rw [readCurve, hread, ok_bind, Curve.ofName_name]
  rfl

theorem readVariant_name (policy : DecodePolicy) :
    Json.readVariant DecodePolicy.byName (.string policy.name) = .ok policy := by
  cases policy <;> rfl

theorem readRecord_toJson (c : Configuration) :
    Json.readRecord "CoreConfig" fields {} c.toJson = .ok c := by
  rw [toJson_eq, Json.readRecord_zip (by decide) rfl]
  simp only [Json.readRecord, values, fields, Json.readItems, readCurve_name, Json.readWord_whole,
    readVariant_name, Json.readBool, Json.readOptional_string, pure_eq_ok, ok_bind, ok_map]

theorem exact_toJson (h : c.fetchTimeout < 2 ^ 64) : Json.Exact Json.maxDepth c.toJson := by
  rw [toJson_eq]
  refine Json.exact_record (d := 126) ?_ _
  simp only [values, List.forall_mem_cons]
  exact ⟨.string _, Json.exact_word h, .string _, .bool _,
    Json.exact_getD_null fun _ _ => .string _, List.forall_mem_nil _⟩

/-- What is written for a configuration is read as it and then checked. -/
theorem ofText_text (h : c.fetchTimeout < 2 ^ 64) :
    ofText c.text = c.validate >>= fun _ => .ok c := by
  rw [ofText, text, Json.readText_text (exact_toJson h) (readRecord_toJson c)]
  rfl

end DeviceSecurity.Configuration
