import DeviceSecurity.Proofs.Pin.Decision
import DeviceSecurity.Proofs.Pin.HostPattern
import DeviceSecurity.Proofs.Text.Folding

/-!
# Hosts within the domains

A validation compares the leaf's common name with the domains and the host with the common name,
but never the host with the domains. Still the host of an accepted offer lies within them
(`allowsDomain_of_accepted`), whatever the common name. The two comparisons differ: one is a
comparison of suffixes after lowering, the other one by case folding with a star for any start.
They meet in the folded form of the name without its dots at the end: on an ASCII host that is the
form in which domains are compared, and a domain of ASCII characters that covers a name covers its
folded form. Where the common name begins with a star, the suffix of the domain stands behind the
star, and so at the end of the host.
-/

namespace DeviceSecurity

namespace HostName

theorem map_fold_of_matchesChars {commonName host : List Char}
    (hname : commonName.head? ≠ some '*') (h : matchesChars commonName host = true) :
    host.map Text.fold = commonName.map Text.fold := by
  rw [matchesChars_name hname] at h
  exact beq_iff_eq.mp h

/-- A star stands for some start of the host. -/
theorem exists_of_matchesChars {rest host : List Char}
    (h : matchesChars ('*' :: rest) host = true) :
    ∃ start, start ≠ [] ∧ host.map Text.fold = start ++ rest.map Text.fold := by
  obtain ⟨start, tail, rfl, hstart, -, htail⟩ := matchesChars_star.mp h
  refine ⟨start.map Text.fold, by simpa using hstart, ?_⟩
  rw [List.map_append, beq_iff_eq.mp (Text.sameFolded_iff.mpr htail)]

end HostName

namespace PinPolicy

/-! ## Patterns -/

/-- A name without a star at its start, or a star and a dot before a name that is not empty. -/
inductive IsNameOrWildcard : List Char → Prop
  | name {name : List Char} (h : name.head? ≠ some '*') : IsNameOrWildcard name
  | wildcard {name : List Char} (h : name ≠ []) : IsNameOrWildcard ('*' :: '.' :: name)

/-- A name ends in a dot and a suffix, and something stands before the dot. -/
def IsUnder (suffix name : List Char) : Prop :=
  ∃ start, start ≠ [] ∧ name = start ++ '.' :: suffix

theorem endsProperly_iff {name suffix : List Char} :
    endsProperly name ('.' :: suffix) = true ↔ IsUnder suffix name := by
  unfold endsProperly
  rw [Bool.and_eq_true, decide_eq_true_eq, List.isSuffixOf_iff_suffix]
  constructor
  · rintro ⟨hlength, start, rfl⟩
    refine ⟨start, ?_, rfl⟩
    rintro rfl
    simp at hlength
  · rintro ⟨start, hstart, rfl⟩
    have := List.length_pos_iff.mpr hstart
    exact ⟨by rw [List.length_append]; omega, List.suffix_append _ _⟩

theorem covers_name {pattern name : List Char} (h : pattern.head? ≠ some '*') :
    covers pattern name = true ↔ name = pattern ∨ IsUnder pattern name := by
  unfold covers
  rw [Bool.or_eq_true, beq_iff_eq, ← endsProperly_iff]
  split
  · exact absurd rfl h
  · rfl

theorem covers_wildcard {suffix name : List Char} :
    covers ('*' :: '.' :: suffix) name = true ↔ IsUnder suffix name := by
  unfold covers
  rw [Bool.or_eq_true, beq_iff_eq, ← endsProperly_iff]
  simp only [List.head?_cons, BEq.rfl, Bool.true_and, or_iff_right_iff_imp]
  rintro rfl
  exact endsProperly_iff.mpr ⟨['*'], by simp, rfl⟩

/-! ## Compared names -/

/-- A name as it is compared with domains. -/
def compared (name : List Char) : List Char :=
  (Text.dropEndWhile (· == '.') name).map Char.toLower

theorem allowsDomain_iff {p : PinPolicy} {name : String} :
    p.allowsDomain name = true ↔
      ∃ pattern ∈ p.domains, covers pattern.toList (compared name.toList) = true := by
  simp [allowsDomain, Text.lower, Text.trimEnd, compared]

theorem toLower_of_mem_compared {name : List Char} {c : Char} (h : c ∈ compared name) :
    c.toLower = c := by
  obtain ⟨d, -, rfl⟩ := List.mem_map.mp h
  exact Text.toLower_toLower d

/-- Folding a compared name folds the name without its dots at the end. -/
theorem map_fold_compared (name : List Char) :
    (compared name).map Text.fold = Text.dropEndWhile (· == '.') (name.map Text.fold) := by
  rw [compared, Text.map_fold_map_toLower, Text.map_fold_dropEndWhile]

/-- An ASCII name is compared in its folded form. -/
theorem compared_of_isAscii {name : List Char} (h : ∀ c ∈ name, Text.IsAscii c) :
    compared name = Text.dropEndWhile (· == '.') (name.map Text.fold) := by
  rw [← Text.map_fold_dropEndWhile, compared]
  refine (Text.map_fold_of_isAscii fun c hc => h c ?_).symm
  exact List.mem_reverse.mp (List.dropWhile_subset _ (List.mem_reverse.mp hc))

/-- A star at the start of a name is compared as it is. -/
theorem compared_star (rest : List Char) : compared ('*' :: rest) = '*' :: compared rest := by
  rw [compared, Text.dropEndWhile_cons (by decide), List.map_cons]
  rfl

theorem isAscii_dot_cons {suffix : List Char} (h : ∀ c ∈ suffix, Text.IsAscii c) :
    ∀ c ∈ '.' :: suffix, Text.IsAscii c := by
  rintro c (_ | ⟨_, hc⟩)
  · decide
  · exact h c hc

section Folded

variable {suffix name : List Char} (hascii : ∀ c ∈ suffix, Text.IsAscii c)
  (hlower : ∀ c ∈ name, c.toLower = c)

include hascii hlower

/-- An ASCII suffix of a compared name stands at the end of its folded form. -/
theorem map_fold_append (start : List Char) (h : name = start ++ suffix) :
    name.map Text.fold = start.map Text.fold ++ suffix := by
  have hsuffix : suffix.map Text.fold = suffix := by
    calc suffix.map Text.fold = suffix.map Char.toLower := Text.map_fold_of_isAscii hascii
      _ = suffix.map id := List.map_congr_left fun c hc =>
          hlower c (h ▸ List.mem_append_right start hc)
      _ = suffix := List.map_id suffix
  rw [h, List.map_append, hsuffix]

/-- A folded name is under the ASCII suffixes that the name is under. -/
theorem isUnder_map_fold (h : IsUnder suffix name) : IsUnder suffix (name.map Text.fold) := by
  obtain ⟨start, hstart, hname⟩ := h
  refine ⟨start.map Text.fold, by simpa using hstart, ?_⟩
  exact map_fold_append (isAscii_dot_cons hascii) hlower _ hname

end Folded

/-- A domain that covers a compared name covers its folded form. -/
theorem covers_map_fold {pattern name : List Char} (hpattern : IsNameOrWildcard pattern)
    (hascii : ∀ c ∈ pattern, Text.IsAscii c) (hlower : ∀ c ∈ name, c.toLower = c)
    (h : covers pattern name = true) : covers pattern (name.map Text.fold) = true := by
  cases hpattern with
  | name hplain =>
    rw [covers_name hplain] at h ⊢
    rcases h with h | h
    · exact .inl (map_fold_append hascii hlower [] h)
    · exact .inr (isUnder_map_fold hascii hlower h)
  | wildcard =>
    rw [covers_wildcard] at h ⊢
    exact isUnder_map_fold (fun c hc => hascii c (by simp [hc])) hlower h

/-- What is under a suffix with a star at its start is so with any start. Behind the star stands a
dot at least, so that only dots of the name are removed at the end. -/
theorem isUnder_of_star {suffix rest start : List Char} (hsuffix : ∀ c ∈ suffix, Text.IsAscii c)
    (hstart : start ≠ []) (h : IsUnder suffix ('*' :: compared rest)) :
    IsUnder suffix (Text.dropEndWhile (· == '.') (start ++ rest.map Text.fold)) := by
  obtain ⟨before, hbefore, hname⟩ := h
  obtain ⟨c, middle, rfl⟩ := List.exists_cons_of_ne_nil hbefore
  obtain ⟨-, hrest⟩ := List.cons.inj hname
  have hfolded := map_fold_append (isAscii_dot_cons hsuffix)
    (fun c => toLower_of_mem_compared) middle hrest
  rw [map_fold_compared] at hfolded
  rw [Text.dropEndWhile_append_of_ne_nil (by simp [hfolded]), hfolded]
  exact ⟨start ++ middle.map Text.fold, by simp [hstart], by simp⟩

/-- A domain that covers a common name covers the ASCII hosts that match it. -/
theorem covers_of_matchesChars {pattern commonName host : List Char}
    (hpattern : IsNameOrWildcard pattern) (hascii : ∀ c ∈ pattern, Text.IsAscii c)
    (hhost : ∀ c ∈ host, Text.IsAscii c) (hname : covers pattern (compared commonName) = true)
    (hmatches : HostName.matchesChars commonName host = true) :
    covers pattern (compared host) = true := by
  rw [compared_of_isAscii hhost]
  by_cases hstar : commonName.head? = some '*'
  · obtain ⟨rest, rfl⟩ := List.head?_eq_some_iff.mp hstar
    obtain ⟨start, hstart, hfolded⟩ := HostName.exists_of_matchesChars hmatches
    rw [compared_star] at hname
    rw [hfolded]
    cases hpattern with
    | name hplain =>
      rw [covers_name hplain] at hname ⊢
      rcases hname with rfl | hname
      · exact absurd rfl hplain
      · exact .inr (isUnder_of_star hascii hstart hname)
    | wildcard =>
      rw [covers_wildcard] at hname ⊢
      exact isUnder_of_star (fun c hc => hascii c (by simp [hc])) hstart hname
  · rw [HostName.map_fold_of_matchesChars hstar hmatches, ← map_fold_compared]
    exact covers_map_fold hpattern hascii (fun c => toLower_of_mem_compared) hname

end PinPolicy

namespace PinValidation

/-- Under a policy whose domains are ASCII names or wildcards, an ASCII host whose chain is accepted
is within the domains itself. -/
theorem allowsDomain_of_accepted {trusted : TrustEvaluator} {policy : PinPolicy}
    {offer : ChainOffer}
    (hpolicy : policy.isConfigured = true)
    (hdomains : ∀ pattern ∈ policy.domains, PinPolicy.IsNameOrWildcard pattern.toList ∧
      ∀ c ∈ pattern.toList, Text.IsAscii c)
    (hhost : ∀ c ∈ offer.host.toList, Text.IsAscii c)
    (haccepted : evaluate trusted policy offer = .accepted) :
    policy.allowsDomain offer.host = true := by
  obtain ⟨hcomplies, -⟩ := evaluate_eq_accepted.mp haccepted
  obtain ⟨leaf, name, hleaf, hmatches⟩ := (hcomplies (isConfigured_iff.mp hpolicy)).leaf
  obtain ⟨pattern, hmem, hcovers⟩ := PinPolicy.allowsDomain_iff.mp hleaf.allowed
  obtain ⟨hpattern, hascii⟩ := hdomains pattern hmem
  obtain ⟨-, hchars⟩ := HostName.matchesName_eq_ok.mp hmatches.host
  refine PinPolicy.allowsDomain_iff.mpr ⟨pattern, hmem, ?_⟩
  exact PinPolicy.covers_of_matchesChars hpattern hascii hhost hcovers hchars

/-- The smallest of certificates for the common name `*.b`, with a key of the one byte 1. -/
def wildcardCertificate : Bytes := [
    0x30, 0x4f, 0x30, 0x45, 0x02, 0x01, 0x01, 0x30, 0x03, 0x06, 0x01, 0x2a, 0x30, 0x00, 0x30, 0x1e,
    0x17, 0x0d, 0x30, 0x30, 0x30, 0x31, 0x30, 0x31, 0x30, 0x30, 0x30, 0x30, 0x30, 0x30, 0x5a, 0x17,
    0x0d, 0x30, 0x30, 0x30, 0x31, 0x30, 0x31, 0x30, 0x30, 0x30, 0x30, 0x30, 0x30, 0x5a, 0x30, 0x0e,
    0x31, 0x0c, 0x30, 0x0a, 0x06, 0x03, 0x55, 0x04, 0x03, 0x0c, 0x03, 0x2a, 0x2e, 0x62, 0x30, 0x09,
    0x30, 0x03, 0x06, 0x01, 0x2a, 0x03, 0x02, 0x00, 0x01, 0x30, 0x03, 0x06, 0x01, 0x2a, 0x03, 0x01,
    0x00]

/-- A policy for the domain `b` and the key of that certificate. -/
def wildcardPolicy : PinPolicy := { domains := ["b"], pins := [PinDigest.ofContent [0x01]] }

/-- The host `a.b`, with a chain of that certificate alone. -/
def wildcardOffer : ChainOffer :=
  ⟨"a.b", 443, [wildcardCertificate, wildcardCertificate, wildcardCertificate]⟩

/-- A name that matches a wildcard of its domain. -/
theorem allowsDomain_of_wildcard :
    wildcardPolicy.isConfigured = true ∧
      evaluate (fun _ => .ok ()) wildcardPolicy wildcardOffer = .accepted ∧
      wildcardPolicy.allowsDomain wildcardOffer.host = true := by
  have hconfigured : wildcardPolicy.isConfigured = true := rfl
  have haccepted : evaluate (fun _ => .ok ()) wildcardPolicy wildcardOffer = .accepted := by
    decide +kernel
  have hdomains : ∀ pattern ∈ wildcardPolicy.domains,
      PinPolicy.IsNameOrWildcard pattern.toList ∧ ∀ c ∈ pattern.toList, Text.IsAscii c := by
    intro pattern hpattern
    obtain rfl := List.mem_singleton.mp hpattern
    exact ⟨.name (by decide), List.all_iff_forall_prop.mp (by decide)⟩
  have hhost : ∀ c ∈ wildcardOffer.host.toList, Text.IsAscii c :=
    List.all_iff_forall_prop.mp (by decide)
  exact ⟨hconfigured, haccepted, allowsDomain_of_accepted hconfigured hdomains hhost haccepted⟩

end PinValidation

end DeviceSecurity
