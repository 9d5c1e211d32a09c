import DeviceSecurity.Proofs.Base64.Canonical
import DeviceSecurity.Proofs.Signature.RoundTrip
import DeviceSecurity.Request.Options

/-!
# What verification accepts

A signature is well formed when the parts before and behind its first two adjacent dots are base64,
the first one of a header that is accepted (`Signature.WellFormed`). Verification takes the
signature apart before it uses the secret (`Signature.parse`), so that a text that is not well
formed is reported as such whatever the secret is; then a secret is asked for, and last the code is
compared (`Signature.verify_decides`). As base64 is canonical, a header part has one signature. What
signing writes is well formed and fit to be the value of a header (`Signature.sign_verifies`).
-/

namespace DeviceSecurity

/-- A header of the one algorithm, whose payload is not encoded. -/
structure SignatureHeader.IsSupported (header : SignatureHeader) : Prop where
  algorithm : header.algorithm = algorithmName
  encoded : header.encoded = false

namespace Signature

/-! ## The first two dots -/

/-- The first two adjacent dots of a text stand between the two parts. -/
structure CutAtDots (signature before behind : String) : Prop where
  parts : signature = before ++ ".." ++ behind
  first : ¬ ['.', '.'] <:+: (before ++ ".").toList

theorem splitDots_eq_some_iff {l a b : List Char} : splitDots l = some (a, b) ↔
    l = a ++ '.' :: '.' :: b ∧ ¬ ['.', '.'] <:+: a ++ ['.'] := by
  fun_induction splitDots l generalizing a with
  | case1 rest =>
    constructor
    · rintro ⟨⟩
      exact ⟨rfl, by decide⟩
    · rintro ⟨heq, hfirst⟩
      match a with
      | [] =>
        obtain ⟨-, hrest⟩ := List.cons.inj heq
        rw [(List.cons.inj hrest).2]
      | [c] =>
        obtain ⟨rfl, -⟩ := List.cons.inj heq
        exact (hfirst ⟨[], [], rfl⟩).elim
      | c :: d :: more =>
        obtain ⟨rfl, hrest⟩ := List.cons.inj heq
        obtain ⟨rfl, -⟩ := List.cons.inj hrest
        exact (hfirst ⟨[], more ++ ['.'], rfl⟩).elim
  | case2 c rest hnot ih =>
    constructor
    · intro h
      obtain ⟨⟨before, behind⟩, hrest, heq⟩ := Option.map_eq_some_iff.mp h
      obtain ⟨rfl, rfl⟩ := Prod.mk.inj heq
      obtain ⟨rfl, hfirst⟩ := ih.mp hrest
      refine ⟨rfl, fun hinfix => ?_⟩
      rcases List.infix_cons_iff.mp hinfix with ⟨more, hprefix⟩ | hinfix
      · -- Dots at the front would have been the place of the cut.
        obtain ⟨rfl, htail⟩ := List.cons.inj hprefix
        match before with
        | [] => exact hnot _ rfl rfl
        | d :: _ =>
          obtain ⟨rfl, -⟩ := List.cons.inj htail
          exact hnot _ rfl rfl
      · exact hfirst hinfix
    · rintro ⟨heq, hfirst⟩
      match a with
      | [] =>
        obtain ⟨rfl, rfl⟩ := List.cons.inj heq
        exact (hnot b rfl rfl).elim
      | d :: more =>
        obtain ⟨rfl, rfl⟩ := List.cons.inj heq
        rw [ih.mpr ⟨rfl, fun hinfix => hfirst (List.infix_cons hinfix)⟩]
        rfl
  | case3 => simp

theorem splitDots_eq_none_iff {l : List Char} : splitDots l = none ↔ ¬ ['.', '.'] <:+: l := by
  fun_induction splitDots l with
  | case1 rest => exact iff_of_false nofun (fun h => h ⟨[], rest, rfl⟩)
  | case2 c rest hnot ih =>
    rw [Option.map_eq_none_iff, ih, List.infix_cons_iff, not_or]
    refine (and_iff_right ?_).symm
    rintro ⟨more, hprefix⟩
    obtain ⟨rfl, rfl⟩ := List.cons.inj hprefix
    exact hnot more rfl rfl
  | case3 => simp

theorem cutAtDots_iff {signature : String} {before behind : List Char} :
    splitDots signature.toList = some (before, behind) ↔
      CutAtDots signature (String.ofList before) (String.ofList behind) := by
  rw [splitDots_eq_some_iff]
  constructor
  · rintro ⟨heq, hfirst⟩
    exact ⟨String.toList_inj.mp (by simpa using heq), by simpa using hfirst⟩
  · rintro ⟨heq, hfirst⟩
    exact ⟨by simp [heq], by simpa using hfirst⟩

theorem cutAtDots_encode (a b : Bytes) :
    CutAtDots (Base64.encode .urlSafe a ++ ".." ++ Base64.encode .urlSafe b)
      (Base64.encode .urlSafe a) (Base64.encode .urlSafe b) := by
  have hcut := cutAtDots_iff.mp (splitDots_encode a b)
  rwa [String.ofList_toList, String.ofList_toList] at hcut

/-! ## Well-formed signatures -/

theorem decodePart_eq_error {part : String} {fault : Error} :
    decodePart part = .error fault ↔ ∃ reason, Base64.decode .urlSafe part = .error reason ∧
      fault = .malformedInput ("invalid base64: " ++ reason.message) := by
  rw [decodePart]
  cases Base64.decode .urlSafe part <;> simp [eq_comm]

/-- A signature with this header part, whose header is accepted, and with this code. -/
structure WellFormed (signature part : String) (header : SignatureHeader) (code : Bytes) :
    Prop where
  cut : CutAtDots signature part (Base64.encode .urlSafe code)
  read : ∃ b, part = Base64.encode .urlSafe b ∧ SignatureHeader.ofBytes b = .ok header
  supported : header.IsSupported

/-- The reasons why a text is no well-formed signature, in the order in which they are looked
for. -/
inductive Malformed (signature : String) : Error → Prop
  | notDetached (h : ¬ ['.', '.'] <:+: signature.toList) :
    Malformed signature (.malformedInput "signature is not a detached JWS")
  | headerNotBase64 {part behind : String} {fault : Base64.Fault}
    (cut : CutAtDots signature part behind) (h : Base64.decode .urlSafe part = .error fault) :
    Malformed signature (.malformedInput ("invalid base64: " ++ fault.message))
  | headerNotRead {b : Bytes} {behind message : String}
    (cut : CutAtDots signature (Base64.encode .urlSafe b) behind)
    (h : SignatureHeader.ofBytes b = .error message) :
    Malformed signature (.malformedInput ("bad JWS header: " ++ message))
  | unsupported {b : Bytes} {behind : String} {header : SignatureHeader}
    (cut : CutAtDots signature (Base64.encode .urlSafe b) behind)
    (read : SignatureHeader.ofBytes b = .ok header) (h : ¬ header.IsSupported) :
    Malformed signature (.malformedInput
      s!"unsupported JWS header: alg={header.algorithm} b64={header.encoded}")
  | codeNotBase64 {b : Bytes} {behind : String} {header : SignatureHeader} {fault : Base64.Fault}
    (cut : CutAtDots signature (Base64.encode .urlSafe b) behind)
    (read : SignatureHeader.ofBytes b = .ok header) (supported : header.IsSupported)
    (h : Base64.decode .urlSafe behind = .error fault) :
    Malformed signature (.malformedInput ("invalid base64: " ++ fault.message))

/-- What a signature says before the secret is used: its header part, its header and its code. -/
def parse (signature : String) : Except Error (String × SignatureHeader × Bytes) := do
  let (before, behind) ← match splitDots signature.toList with
    | some parts => pure parts
    | none => throw (.malformedInput "signature is not a detached JWS")
  let encodedHeader := String.ofList before
  let headerBytes ← decodePart encodedHeader
  let header ← match SignatureHeader.ofBytes headerBytes with
    | .ok header => pure header
    | .error message => throw (.malformedInput ("bad JWS header: " ++ message))
  if header.algorithm ≠ SignatureHeader.algorithmName ∨ header.encoded then
    throw (.malformedInput
      s!"unsupported JWS header: alg={header.algorithm} b64={header.encoded}")
  let given ← decodePart (String.ofList behind)
  return (encodedHeader, header, given)

/-- Verification takes the signature apart and then compares the code. -/
theorem verify_eq (secret body : Bytes) (signature : String) : verify secret body signature = (do
    let (part, header, given) ← parse signature
    let expected ← code secret part body
    if given = expected then return header else throw .authenticationFailure) := by
  unfold verify parse
  cases splitDots signature.toList with
  | none => rfl
  | some parts =>
    obtain ⟨before, behind⟩ := parts
    simp only [pure_eq_ok, ok_bind]
    cases decodePart (String.ofList before) with
    | error fault => rfl
    | ok b =>
      simp only [ok_bind]
      cases SignatureHeader.ofBytes b with
      | error message => rfl
      | ok header =>
        simp only
        split
        · rfl
        · cases decodePart (String.ofList behind) <;> rfl

theorem not_isSupported_iff {header : SignatureHeader} : ¬ header.IsSupported ↔
    header.algorithm ≠ SignatureHeader.algorithmName ∨ header.encoded = true := by
  constructor
  · intro h
    by_cases halgorithm : header.algorithm = SignatureHeader.algorithmName
    · exact .inr (Bool.of_not_eq_false fun hencoded => h ⟨halgorithm, hencoded⟩)
    · exact .inl halgorithm
  · rintro (h | h) hsupported
    · exact h hsupported.algorithm
    · cases h.symm.trans hsupported.encoded

theorem CutAtDots.splitDots_eq {signature before behind : String}
    (h : CutAtDots signature before behind) :
    splitDots signature.toList = some (before.toList, behind.toList) := by
  rw [cutAtDots_iff, String.ofList_toList, String.ofList_toList]
  exact h

/-- A signature is cut at its dots in one way. -/
theorem CutAtDots.unique {signature before behind before' behind' : String}
    (h : CutAtDots signature before behind) (h' : CutAtDots signature before' behind') :
    before = before' ∧ behind = behind' := by
  have hparts := h.splitDots_eq
  rw [h'.splitDots_eq, Option.some.injEq, Prod.mk.injEq] at hparts
  exact ⟨String.toList_injective hparts.1.symm, String.toList_injective hparts.2.symm⟩

/-- A signature is taken apart if it is well formed. -/
theorem parse_of_wellFormed {signature part : String} {header : SignatureHeader} {given : Bytes}
    (h : WellFormed signature part header given) : parse signature = .ok (part, header, given) := by
  obtain ⟨hcut, ⟨b, rfl, hread⟩, hsupported⟩ := h
  have hnot : ¬ (header.algorithm ≠ SignatureHeader.algorithmName ∨ header.encoded = true) :=
    fun h => not_isSupported_iff.mpr h hsupported
  simp only [parse, hcut.splitDots_eq, pure_eq_ok, ok_bind, String.ofList_toList,
    decodePart_encode, hread, if_neg hnot]

theorem parse_of_malformed {signature : String} {fault : Error} (h : Malformed signature fault) :
    parse signature = .error fault := by
  cases h with
  | notDetached h =>
    rw [parse, splitDots_eq_none_iff.mpr h]
    rfl
  | headerNotBase64 cut h =>
    simp only [parse, cut.splitDots_eq, pure_eq_ok, ok_bind, String.ofList_toList,
      decodePart_eq_error.mpr ⟨_, h, rfl⟩, error_bind]
  | headerNotRead cut h =>
    simp only [parse, cut.splitDots_eq, pure_eq_ok, ok_bind, String.ofList_toList,
      decodePart_encode, h, throw_eq_error, error_bind]
  | unsupported cut read h =>
    simp only [parse, cut.splitDots_eq, pure_eq_ok, ok_bind, String.ofList_toList,
      decodePart_encode, read, if_pos (not_isSupported_iff.mp h), throw_eq_error, error_bind]
  | codeNotBase64 cut read supported h =>
    have hnot := fun hnot => not_isSupported_iff.mpr hnot supported
    simp only [parse, cut.splitDots_eq, pure_eq_ok, ok_bind, String.ofList_toList,
      decodePart_encode, read, if_neg hnot, decodePart_eq_error.mpr ⟨_, h, rfl⟩, error_bind]

/-- Every text is a well-formed signature or malformed. -/
theorem wellFormed_or_malformed (signature : String) :
    (∃ part header given, WellFormed signature part header given) ∨
      ∃ fault, Malformed signature fault := by
  cases hsplit : splitDots signature.toList with
  | none => exact .inr ⟨_, .notDetached (splitDots_eq_none_iff.mp hsplit)⟩
  | some parts =>
    have hcut := cutAtDots_iff.mp hsplit
    generalize String.ofList parts.1 = part, String.ofList parts.2 = behind at hcut
    cases hheader : Base64.decode .urlSafe part with
    | error fault => exact .inr ⟨_, .headerNotBase64 hcut hheader⟩
    | ok b =>
      obtain rfl := Base64.readable_urlSafe.encode_of_decode hheader
      cases hread : SignatureHeader.ofBytes b with
      | error message => exact .inr ⟨_, .headerNotRead hcut hread⟩
      | ok header =>
        by_cases hsupported : header.IsSupported
        · cases hcode : Base64.decode .urlSafe behind with
          | error fault => exact .inr ⟨_, .codeNotBase64 hcut hread hsupported hcode⟩
          | ok given =>
            obtain rfl := Base64.readable_urlSafe.encode_of_decode hcode
            exact .inl ⟨_, header, given, hcut, ⟨b, rfl, hread⟩, hsupported⟩
        · exact .inr ⟨_, .unsupported hcut hread hsupported⟩

/-! ## Outcomes -/

section Outcomes

variable {secret body : Bytes} {signature part : String} {header : SignatureHeader} {given : Bytes}

theorem verify_of_malformed {fault : Error} (h : Malformed signature fault) :
    verify secret body signature = .error fault := by
  rw [verify_eq, parse_of_malformed h, error_bind]

/-- A well-formed signature is judged by its code alone, once there is a secret. -/
theorem verify_of_wellFormed (h : WellFormed signature part header given) :
    verify secret body signature =
      if secret = [] then .error .noActiveKey
      else if given = Hmac.hmac secret (signingInput part body) then .ok header
      else .error .authenticationFailure := by
  rw [verify_eq, parse_of_wellFormed h]
  simp only [ok_bind, code, List.isEmpty_iff]
  split <;> rfl

/-- What may come of verification, and when. -/
inductive Verdict (secret body : Bytes) (signature : String) :
    Except Error SignatureHeader → Prop
  | accepted {part : String} {header : SignatureHeader} (hsecret : secret ≠ [])
    (h : WellFormed signature part header (Hmac.hmac secret (signingInput part body))) :
    Verdict secret body signature (.ok header)
  | unauthentic {part : String} {header : SignatureHeader} {given : Bytes} (hsecret : secret ≠ [])
    (h : WellFormed signature part header given)
    (hcode : given ≠ Hmac.hmac secret (signingInput part body)) :
    Verdict secret body signature (.error .authenticationFailure)
  | noSecret {part : String} {header : SignatureHeader} {given : Bytes} (hsecret : secret = [])
    (h : WellFormed signature part header given) :
    Verdict secret body signature (.error .noActiveKey)
  | malformed {fault : Error} (h : Malformed signature fault) :
    Verdict secret body signature (.error fault)

theorem verdict (secret body : Bytes) (signature : String) :
    Verdict secret body signature (verify secret body signature) := by
  rcases wellFormed_or_malformed signature with ⟨part, header, given, hwell⟩ | ⟨fault, hfault⟩
  · rw [verify_of_wellFormed hwell]
    split
    · next hsecret => exact .noSecret hsecret hwell
    next hsecret =>
    split
    · next hcode => exact .accepted hsecret (hcode ▸ hwell)
    · next hcode => exact .unauthentic hsecret hwell hcode
  · rw [verify_of_malformed hfault]
    exact .malformed hfault

theorem verify_eq_ok : verify secret body signature = .ok header ↔
    secret ≠ [] ∧
      ∃ part, WellFormed signature part header (Hmac.hmac secret (signingInput part body)) := by
  constructor
  · intro h
    have hverdict := verdict secret body signature
    rw [h] at hverdict
    cases hverdict with
    | accepted hsecret hwell => exact ⟨hsecret, _, hwell⟩
  · rintro ⟨hsecret, part, hwell⟩
    rw [verify_of_wellFormed hwell, if_neg hsecret, if_pos rfl]

end Outcomes

/-- What is safe in an address can be sent in a header. -/
theorem sendable_of_isUrlSafe {c : Char} (h : Base64.isUrlSafe c = true) :
    ' ' ≤ c ∧ c ≠ '\x7f' := by
  constructor
  · rw [Base64.isUrlSafe, Bool.or_eq_true, Bool.or_eq_true, beq_iff_eq, beq_iff_eq] at h
    rcases h with (h | rfl) | rfl
    · rcases Text.ranges_of_isAlphanum h with ⟨low, -⟩ | ⟨low, -⟩ | ⟨low, -⟩
      · exact Char.le_trans (by decide) low
      · exact Char.le_trans (by decide) low
      · exact Char.le_trans (by decide) low
    · decide
    · decide
  · rintro rfl
    cases h

/-- A text of characters that are safe in an address, and dots, can be the value of a header. -/
theorem isHeaderValue_of_isUrlSafe {s : String}
    (h : ∀ c ∈ s.toList, Base64.isUrlSafe c = true ∨ c = '.') :
    RequestOptions.isHeaderValue s = true := by
  refine List.all_eq_true.mpr fun c hc => ?_
  rcases h c hc with hsafe | rfl
  · simp [sendable_of_isUrlSafe hsafe]
  · rfl

/-- With a secret, signing a request succeeds, whatever its identifiers and its body are. The
signature is made of two parts without dots, of characters that are safe in an address, and of the
two dots between them, so that it can be the value of a header; and it verifies under the secret,
over the body, as that of the identifiers. -/
theorem sign_verifies {secret : Bytes} (h : secret ≠ []) (keyId requestId : String)
    (body : Bytes) :
    ∃ header code : String,
      sign secret keyId requestId body = .ok (header ++ ".." ++ code) ∧
      (∀ c ∈ (header ++ code).toList, Base64.isUrlSafe c = true) ∧
      RequestOptions.isHeaderValue (header ++ ".." ++ code) = true ∧
      verify secret body (header ++ ".." ++ code) =
        .ok (SignatureHeader.forRequest keyId requestId) := by
  have hsign := sign_eq h keyId requestId body
  have hsafe : ∀ c ∈ (encodedHeader keyId requestId ++ Base64.encode .urlSafe
      (Hmac.hmac secret (signingInput (encodedHeader keyId requestId) body))).toList,
      Base64.isUrlSafe c = true := by
    intro c hc
    rw [String.toList_append, List.mem_append] at hc
    exact hc.elim Base64.isUrlSafe_of_mem_encode Base64.isUrlSafe_of_mem_encode
  refine ⟨_, _, hsign, hsafe, isHeaderValue_of_isUrlSafe fun c hc => ?_, verify_sign hsign⟩
  simp only [String.toList_append, List.mem_append] at hsafe hc
  rcases hc with (hc | hc) | hc
  · exact .inl (hsafe c (.inl hc))
  · have hdots : c = '.' ∨ c = '.' := by simpa using hc
    exact .inr (hdots.elim id id)
  · exact .inl (hsafe c (.inr hc))

/-- Quotes, backslashes, dots and line breaks may stand in an identifier, and dots in the body. -/
theorem sign_verifies_escapes : ([1] : Bytes) ≠ [] ∧ ∃ header code : String,
      sign [1] "\"..\\\n" "" [0x2e, 0x2e] = .ok (header ++ ".." ++ code) ∧
      (∀ c ∈ (header ++ code).toList, Base64.isUrlSafe c = true) ∧
      RequestOptions.isHeaderValue (header ++ ".." ++ code) = true ∧
      verify [1] [0x2e, 0x2e] (header ++ ".." ++ code) =
        .ok (SignatureHeader.forRequest "\"..\\\n" "") :=
  ⟨by decide, sign_verifies (by decide) _ _ _⟩

end Signature

end DeviceSecurity
