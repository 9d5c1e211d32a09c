import DeviceSecurity.Signature
import DeviceSecurity.Proofs.Base64.RoundTrip
import DeviceSecurity.Proofs.Json.WrittenRecord
import DeviceSecurity.Proofs.Result

/-!
# Signatures verify

A signature verifies under the secret that made it, over the body that it was made over, and gives
back the identifiers that it was made for. The header survives being written as JSON, whatever the
identifiers are, and no dot of it reaches the text, where dots separate the parts.
-/

namespace DeviceSecurity

namespace Json

/-- A member of a field that was not seen yet updates the record. -/
theorem readMembers_cons {σ : Type} {fields : List (Field σ)} {field : Field σ} {key : String}
    {value : Json} {seen : List String} {record : σ} (next : σ)
    (hfind : fields.find? (·.name == key) = some field) (hseen : seen.contains key = false)
    (hread : field.read value record = .ok next) (rest : List (String × Json)) :
    readMembers fields ((key, value) :: rest) seen record
      = readMembers fields rest (key :: seen) next := by
  rw [readMembers, hfind]
  simp only [hseen, hread]
  rfl

end Json

namespace SignatureHeader

/-! ## The header -/

theorem exact_toJson (h : SignatureHeader) : Json.Exact Json.maxDepth h.toJson := by
  refine .object fun m hm => ?_
  simp only [List.mem_cons, List.not_mem_nil, or_false] at hm
  rcases hm with rfl | rfl | rfl | rfl | rfl
  · exact .string _
  · exact .string _
  · exact .bool _
  · exact Json.exact_texts h.critical
  · exact .string _

/-- A header is read back from its members. -/
theorem read_toJson (h : SignatureHeader) : read h.toJson = .ok h := by
  obtain ⟨algorithm, keyId, encoded, critical, requestId⟩ := h
  have hcritical : Json.readList Json.readString (.array (critical.map .string)) = .ok critical :=
    Json.readList_map Json.readString_string critical
  have hread : Json.readMembers fields
      [("alg", .string algorithm), ("kid", .string keyId), ("b64", .bool encoded),
        ("crit", .array (critical.map .string)), ("requestId", .string requestId)]
      [] ⟨"", "", false, [], ""⟩
        = .ok (["requestId", "crit", "b64", "kid", "alg"],
            ⟨algorithm, keyId, encoded, critical, requestId⟩) := by
    rw [Json.readMembers_cons (mk algorithm "" false [] "") rfl rfl rfl,
      Json.readMembers_cons (mk algorithm keyId false [] "") rfl rfl rfl,
      Json.readMembers_cons (mk algorithm keyId encoded [] "") rfl rfl rfl,
      Json.readMembers_cons (mk algorithm keyId encoded critical "") rfl rfl
        (congrArg (· >>= fun l => pure (mk algorithm keyId encoded l "")) hcritical),
      Json.readMembers_cons (mk algorithm keyId encoded critical requestId) rfl rfl rfl]
    rfl
  rw [read, toJson, Json.readFullRecord, hread]
  rfl

theorem ofText_text (h : SignatureHeader) : ofText h.text = .ok h :=
  Json.readText_text h.exact_toJson h.read_toJson fieldNames

theorem ofBytes_text (h : SignatureHeader) : ofBytes (Bytes.ofText h.text) = .ok h := by
  rw [ofBytes, Bytes.toText?_ofText]
  exact h.ofText_text

end SignatureHeader

namespace Signature

/-! ## The parts -/

theorem splitDots_append {a : List Char} (ha : '.' ∉ a) (b : List Char) :
    splitDots (a ++ '.' :: '.' :: b) = some (a, b) := by
  induction a with
  | nil => rfl
  | cons c a ih =>
    rw [List.mem_cons, not_or] at ha
    rw [List.cons_append, splitDots.eq_2 _ _ (fun _ hc _ => ha.1 hc.symm), ih ha.2]
    rfl

theorem dot_not_mem_encode (b : Bytes) : '.' ∉ (Base64.encode .urlSafe b).toList := by
  intro h
  exact absurd (Base64.isUrlSafe_of_mem_encode h) (by decide)

theorem splitDots_encode (a b : Bytes) :
    splitDots (Base64.encode .urlSafe a ++ ".." ++ Base64.encode .urlSafe b).toList
      = some ((Base64.encode .urlSafe a).toList, (Base64.encode .urlSafe b).toList) := by
  rw [String.toList_append, String.toList_append, List.append_assoc]
  exact splitDots_append (dot_not_mem_encode a) _

theorem decodePart_encode (b : Bytes) : decodePart (Base64.encode .urlSafe b) = .ok b := by
  rw [decodePart, Base64.readable_urlSafe.decode_encode]

/-! ## Signing and verifying -/

/-- The header of a signature as it is written. -/
def encodedHeader (keyId requestId : String) : String :=
  Base64.encode .urlSafe (Bytes.ofText (SignatureHeader.forRequest keyId requestId).text)

/-- With a secret, signing always succeeds. -/
theorem sign_eq {secret : Bytes} (h : secret ≠ []) (keyId requestId : String) (body : Bytes) :
    sign secret keyId requestId body = .ok (encodedHeader keyId requestId ++ ".." ++
      Base64.encode .urlSafe
        (Hmac.hmac secret (signingInput (encodedHeader keyId requestId) body))) := by
  rw [sign, code, if_neg (by simpa using h)]
  rfl

/-- Without a secret nothing is signed. -/
theorem sign_eq_ok {secret body : Bytes} {keyId requestId signature : String} :
    sign secret keyId requestId body = .ok signature ↔ secret ≠ [] ∧
      signature = encodedHeader keyId requestId ++ ".." ++ Base64.encode .urlSafe
        (Hmac.hmac secret (signingInput (encodedHeader keyId requestId) body)) := by
  constructor
  · intro h
    have hsecret : secret ≠ [] := by
      rintro rfl
      cases h
    rw [sign_eq hsecret] at h
    exact ⟨hsecret, (Except.ok.inj h).symm⟩
  · rintro ⟨hsecret, rfl⟩
    exact sign_eq hsecret keyId requestId body

/-- A signature verifies under its secret, over its body, as that of its identifiers. -/
theorem verify_sign {secret body : Bytes} {keyId requestId signature : String}
    (h : sign secret keyId requestId body = .ok signature) :
    verify secret body signature = .ok (SignatureHeader.forRequest keyId requestId) := by
  obtain ⟨hsecret, rfl⟩ := sign_eq_ok.mp h
  have hcode : code secret (encodedHeader keyId requestId) body
      = .ok (Hmac.hmac secret (signingInput (encodedHeader keyId requestId) body)) :=
    if_neg (by simpa using hsecret)
  unfold encodedHeader at hcode ⊢
  rw [verify, splitDots_encode]
  simp only [ok_bind, pure_bind, String.ofList_toList, decodePart_encode,
    SignatureHeader.ofBytes_text, hcode]
  rw [if_neg (by rintro (h | h); exacts [h rfl, Bool.noConfusion h])]
  exact if_pos trivial

end Signature

end DeviceSecurity
