import DeviceSecurity.Proofs.Pin.HostDomain
import Mathlib.Data.List.TakeWhile

/-!
# What the domains of a policy allow

A domain covers a name by comparing suffixes and lengths. What comes of it is said of the labels of
a name, the parts between its dots: a name is `Covered` if it is the domain, or if something stands
before the domain and a dot, so that the labels of the domain are the last labels of the name
(`labels_suffix`). Names and domains are compared without the dots at their end and in small letters
(`compared`), which two of them share exactly if they are the same up to these (`sameName_iff`), and
so nothing else of them counts (`allowsDomain_exact`). A configured entry is trimmed first, and only
once: what stands behind its last blank is dropped if it is dots, but then the blank is part of the
domain (`sameEntry_append_dot_iff`, `allowsDomain_dot`).
-/

namespace DeviceSecurity.PinPolicy

variable {pattern name suffix : List Char}

/-! ## Covered names -/

/-- The names that a domain covers. -/
inductive Covered : (pattern name : List Char) → Prop
  /-- The domain itself. -/
  | same {name : List Char} : Covered name name
  /-- What ends in a dot and the domain, behind something. -/
  | under {pattern name : List Char} (hplain : pattern.head? ≠ some '*')
    (h : IsUnder pattern name) : Covered pattern name
  /-- What ends in a dot and what stands behind the star and the dot of a wildcard. -/
  | wildcard {suffix name : List Char} (h : IsUnder suffix name) :
    Covered ('*' :: '.' :: suffix) name

/-- A star without a dot behind it covers nothing but itself. -/
theorem covers_star {rest : List Char} (h : rest.head? ≠ some '.') :
    covers ('*' :: rest) name = true ↔ name = '*' :: rest := by
  simp [covers, h]

theorem covers_iff : covers pattern name = true ↔ Covered pattern name := by
  by_cases hplain : pattern.head? = some '*'
  · obtain ⟨rest, rfl⟩ := List.head?_eq_some_iff.mp hplain
    by_cases hdot : rest.head? = some '.'
    · obtain ⟨suffix, rfl⟩ := List.head?_eq_some_iff.mp hdot
      rw [covers_wildcard]
      constructor
      · exact .wildcard
      · rintro (_ | ⟨hstar, -⟩ | h)
        · exact ⟨['*'], by simp, rfl⟩
        · exact absurd rfl hstar
        · exact h
    · rw [covers_star hdot]
      constructor
      · rintro rfl
        exact .same
      · rintro (_ | ⟨hstar, -⟩ | h)
        · rfl
        · exact absurd rfl hstar
        · exact absurd rfl hdot
  · rw [covers_name hplain]
    constructor
    · rintro (rfl | h)
      · exact .same
      · exact .under hplain h
    · rintro (_ | ⟨-, h⟩ | h)
      · exact .inl rfl
      · exact .inr h
      · exact absurd rfl hplain

theorem Covered.length_le (h : Covered pattern name) : pattern.length ≤ name.length := by
  cases h with
  | same => exact Nat.le_refl _
  | under _ h =>
    obtain ⟨start, -, rfl⟩ := h
    simp only [List.length_append, List.length_cons]
    omega
  | wildcard h =>
    obtain ⟨start, hstart, rfl⟩ := h
    have hpos := List.length_pos_iff.mpr hstart
    simp only [List.length_append, List.length_cons]
    omega

/-- Of the names that put one character in front of a dot and a suffix, only the wildcard covers the
wildcard. -/
theorem eq_star_of_covered {c : Char} (h : Covered (c :: '.' :: suffix) ('*' :: '.' :: suffix)) :
    c = '*' := by
  cases h with
  | same => rfl
  | under _ h =>
    obtain ⟨start, -, hname⟩ := h
    have hlength := congrArg List.length hname
    simp only [List.length_append, List.length_cons] at hlength
    omega
  | wildcard => rfl

/-- Two domains that cover each other are one. -/
theorem Covered.antisymm (h : Covered pattern name) (h' : Covered name pattern) :
    pattern = name := by
  have hlength := h'.length_le
  cases h with
  | same => rfl
  | under _ h =>
    obtain ⟨start, -, rfl⟩ := h
    simp only [List.length_append, List.length_cons] at hlength
    omega
  | wildcard h =>
    obtain ⟨start, hstart, rfl⟩ := h
    have hpos := List.length_pos_iff.mpr hstart
    simp only [List.length_append, List.length_cons] at hlength
    obtain ⟨c, rfl⟩ : ∃ c, start = [c] := List.length_eq_one_iff.mp (by omega)
    rw [eq_star_of_covered h']
    rfl

/-! ## Labels -/

/-- The parts of a name between its dots. -/
def labels (name : List Char) : List (List Char) := name.splitOn '.'

theorem labels_append (start name : List Char) :
    labels (start ++ '.' :: name) = labels start ++ labels name :=
  List.splitOnP_append_cons start name (by decide)

theorem labels_of_isUnder (h : IsUnder suffix name) : labels suffix <:+ labels name := by
  obtain ⟨start, -, rfl⟩ := h
  rw [labels_append]
  exact List.suffix_append _ _

/-- A domain without the star and the dot of a wildcard. -/
def bare : (pattern : List Char) → List Char
  | '*' :: '.' :: suffix => suffix
  | pattern => pattern

theorem bare_of_head?_ne (h : pattern.head? ≠ some '*') : bare pattern = pattern := by
  unfold bare
  split
  · exact absurd rfl h
  · rfl

theorem bare_suffix (pattern : List Char) : labels (bare pattern) <:+ labels pattern := by
  unfold bare
  split
  · exact labels_of_isUnder ⟨['*'], by simp, rfl⟩
  · exact List.suffix_rfl

/-- The labels of a domain are the last labels of a name that it covers. -/
theorem labels_suffix (h : Covered pattern name) : labels (bare pattern) <:+ labels name := by
  cases h with
  | same => exact bare_suffix pattern
  | under hplain h =>
    rw [bare_of_head?_ne hplain]
    exact labels_of_isUnder h
  | wildcard h => exact labels_of_isUnder h

/-! ## Normal forms -/

/-- Two names that are the same up to the case of ASCII letters and dots at the end. -/
def SameName (a b : List Char) : Prop :=
  ∃ core core' m n, a = core ++ List.replicate m '.' ∧ b = core' ++ List.replicate n '.' ∧
    core.map Char.toLower = core'.map Char.toLower

theorem compared_append_dots (core : List Char) (n : Nat) :
    compared (core ++ List.replicate n '.') = compared core := by
  unfold compared
  rw [Text.dropEndWhile_append]
  intro c hc
  rw [List.eq_of_mem_replicate hc]
  rfl

theorem exists_append_dots (name : List Char) :
    ∃ n, name = Text.dropEndWhile (· == '.') name ++ List.replicate n '.' := by
  obtain ⟨dropped, hname, hdots⟩ := Text.exists_dropEndWhile_append (· == '.') name
  have hreplicate : dropped = List.replicate dropped.length '.' :=
    List.eq_replicate_of_mem fun c hc => beq_iff_eq.mp (hdots c hc)
  exact ⟨dropped.length, by rwa [← hreplicate]⟩

theorem sameName_iff {a b : List Char} : SameName a b ↔ compared a = compared b := by
  constructor
  · rintro ⟨core, core', m, n, rfl, rfl, hcore⟩
    rw [compared_append_dots, compared_append_dots, compared, compared,
      Text.map_toLower_dropEndWhile, hcore, Text.map_toLower_dropEndWhile]
  · intro h
    obtain ⟨m, ha⟩ := exists_append_dots a
    obtain ⟨n, hb⟩ := exists_append_dots b
    exact ⟨_, _, m, n, ha, hb, h⟩

theorem compared_compared (name : List Char) : compared (compared name) = compared name := by
  have hlower : Char.toLower ∘ Char.toLower = Char.toLower := funext Text.toLower_toLower
  simp only [compared, Text.map_toLower_dropEndWhile, List.map_map, hlower,
    Text.dropEndWhile_dropEndWhile]

/-! ## Entries -/

/-- A configured domain as it is compared with names. -/
def normal (entry : String) : List Char := compared (Text.trim entry).toList

theorem toList_normalizeDomain (entry : String) :
    (normalizeDomain entry).toList = normal entry := by
  simp [normalizeDomain, normal, compared, Text.lower, Text.trimEnd]

/-- An entry is a domain with dots behind it and blanks around both. There are no blanks at the ends
of the domain and its dots. -/
def Writes (entry : String) (domain : List Char) : Prop :=
  ∃ before n behind, entry.toList = before ++ (domain ++ List.replicate n '.') ++ behind ∧
    (∀ c ∈ before, Text.isBlank c = true) ∧ (∀ c ∈ behind, Text.isBlank c = true) ∧
    Text.IsTrimmed Text.isBlank (domain ++ List.replicate n '.')

/-- Two entries write domains that are the same up to the case of ASCII letters. -/
def SameEntry (entry entry' : String) : Prop :=
  ∃ domain domain', Writes entry domain ∧ Writes entry' domain' ∧
    domain.map Char.toLower = domain'.map Char.toLower

theorem Writes.normal_eq {entry : String} {domain : List Char} (h : Writes entry domain) :
    normal entry = compared domain := by
  obtain ⟨before, n, behind, hentry, hbefore, hbehind, htrimmed⟩ := h
  rw [normal, Text.trim, String.toList_ofList, hentry,
    Text.trimBy_append_of_isTrimmed hbefore hbehind htrimmed, compared_append_dots]

/-- Every entry writes a domain, of which it has the normal form. -/
theorem exists_writes (entry : String) :
    ∃ domain, Writes entry domain ∧ domain.map Char.toLower = normal entry := by
  obtain ⟨before, behind, hentry, hbefore, hbehind⟩ :=
    Text.exists_trimBy_append Text.isBlank entry.toList
  obtain ⟨n, hdots⟩ := exists_append_dots (Text.trimBy Text.isBlank entry.toList)
  refine ⟨Text.dropEndWhile (· == '.') (Text.trimBy Text.isBlank entry.toList),
    ⟨before, n, behind, ?_, hbefore, hbehind, ?_⟩, ?_⟩
  · rwa [← hdots]
  · rw [← hdots]
    exact Text.isTrimmed_trimBy _ _
  · rw [normal, Text.trim, String.toList_ofList, compared]

theorem sameEntry_iff {entry entry' : String} :
    SameEntry entry entry' ↔ normal entry = normal entry' := by
  constructor
  · rintro ⟨domain, domain', h, h', hsame⟩
    rw [h.normal_eq, h'.normal_eq]
    exact sameName_iff.mp ⟨domain, domain', 0, 0, by simp, by simp, hsame⟩
  · intro h
    obtain ⟨domain, hwrites, hdomain⟩ := exists_writes entry
    obtain ⟨domain', hwrites', hdomain'⟩ := exists_writes entry'
    exact ⟨domain, domain', hwrites, hwrites', by rw [hdomain, hdomain', h]⟩

/-- An entry that writes no domain is empty in its normal form. -/
theorem writes_nil_iff {entry : String} : Writes entry [] ↔ normal entry = [] := by
  constructor
  · intro h
    exact h.normal_eq
  · intro h
    obtain ⟨domain, hwrites, hdomain⟩ := exists_writes entry
    rw [h, List.map_eq_nil_iff] at hdomain
    rwa [hdomain] at hwrites

/-- Each entry of either list writes a domain that one of the other writes too, or none. -/
def SameEntries (domains domains' : List String) : Prop :=
  (∀ entry ∈ domains, Writes entry [] ∨ ∃ entry' ∈ domains', SameEntry entry entry') ∧
  ∀ entry' ∈ domains', Writes entry' [] ∨ ∃ entry ∈ domains, SameEntry entry entry'

/-- A dot behind a text that is not blank throughout keeps the blanks in front of it. -/
theorem trimBy_append_dot {l : List Char} (h : ¬∀ c ∈ l, Text.isBlank c = true) :
    Text.trimBy Text.isBlank (l ++ ['.']) = l.dropWhile Text.isBlank ++ ['.'] := by
  have hsome : ¬(l.dropWhile Text.isBlank).isEmpty = true := by
    rwa [List.isEmpty_iff, List.dropWhile_eq_nil_iff]
  rw [Text.trimBy, List.dropWhile_append, if_neg hsome]
  refine Text.dropEndWhile_eq_self_iff.mpr fun c hc => ?_
  rw [List.getLast?_concat] at hc
  obtain rfl := Option.some.inj hc
  rfl

/-- Blanks at the end of a name are part of it. -/
theorem compared_dropEndWhile_isBlank {l : List Char} :
    compared (Text.dropEndWhile Text.isBlank l) = compared l ↔
      ∀ c ∈ l.getLast?, Text.isBlank c = false := by
  rw [← Text.dropEndWhile_eq_self_iff]
  constructor
  · intro h
    by_contra hblank
    have hdot : Text.dropEndWhile (· == '.') l = l := by
      rw [Text.dropEndWhile_eq_self_iff] at hblank ⊢
      intro c hc
      by_contra hlast
      refine hblank fun d hd => ?_
      obtain rfl : c = '.' := by simpa using hlast
      rw [← Option.some.inj (hc.symm.trans hd)]
      rfl
    have hlength := congrArg List.length h
    rw [compared, compared, hdot, List.length_map, List.length_map] at hlength
    have hbare := (Text.dropEndWhile_prefix (· == '.') (Text.dropEndWhile Text.isBlank l)).length_le
    have hshort := Text.dropEndWhile_prefix Text.isBlank l
    exact hblank (hshort.eq_of_length (hshort.length_le.antisymm (hlength ▸ hbare)))
  · intro h
    rw [h]

/-- A dot behind an entry does not count, unless a blank is the last character of the entry, and not
all of them are blanks. -/
theorem sameEntry_append_dot_iff (entry : String) :
    SameEntry entry (entry ++ ".") ↔
      (∀ c ∈ entry.toList.getLast?, Text.isBlank c = false) ∨
        ∀ c ∈ entry.toList, Text.isBlank c = true := by
  have hentry : (entry ++ ".").toList = entry.toList ++ ['.'] := String.toList_append
  rw [sameEntry_iff, normal, normal, Text.trim, Text.trim, String.toList_ofList,
    String.toList_ofList, hentry]
  generalize entry.toList = l
  by_cases hblank : ∀ c ∈ l, Text.isBlank c = true
  · have htrim : ∀ t, Text.IsTrimmed Text.isBlank t → Text.trimBy Text.isBlank (l ++ t) = t := by
      intro t ht
      have h := Text.trimBy_append_of_isTrimmed hblank (List.forall_mem_nil _) ht
      rwa [List.append_nil] at h
    have hnone := htrim [] Text.isTrimmed_nil
    rw [List.append_nil] at hnone
    rw [hnone, htrim ['.'] (Text.isTrimmed_singleton rfl)]
    exact iff_of_true rfl (.inr hblank)
  · have hlast : (l.dropWhile Text.isBlank).getLast? = l.getLast? := by
      have hsome : l.dropWhile Text.isBlank ≠ [] := by rwa [ne_eq, List.dropWhile_eq_nil_iff]
      rw [← List.getLast?_append_of_ne_nil _ hsome, List.takeWhile_append_dropWhile]
    have hdots : compared (l.dropWhile Text.isBlank ++ ['.']) =
        compared (l.dropWhile Text.isBlank) := compared_append_dots _ 1
    rw [trimBy_append_dot hblank, hdots, Text.trimBy, compared_dropEndWhile_isBlank, hlast,
      or_iff_left hblank]

/-! ## Policies -/

variable {pins domains pins' domains' : List String} {policy policy' : PinPolicy}

theorem domains_of_ofTexts (h : ofTexts pins domains = .ok policy) :
    policy.domains = (domains.map normalizeDomain).filter (· ≠ "") := by
  unfold ofTexts at h
  obtain ⟨digests, -, h⟩ := bind_eq_ok.mp h
  obtain rfl := Except.ok.inj h
  rfl

/-- The domains of a policy are its entries in their normal form, without empty ones. -/
theorem mem_domains_iff (h : ofTexts pins domains = .ok policy) {pattern : String} :
    pattern ∈ policy.domains ↔
      ∃ entry ∈ domains, normal entry ≠ [] ∧ pattern.toList = normal entry := by
  rw [domains_of_ofTexts h, List.mem_filter, List.mem_map, decide_eq_true_eq]
  constructor
  · rintro ⟨⟨entry, hentry, rfl⟩, hne⟩
    refine ⟨entry, hentry, ?_, toList_normalizeDomain entry⟩
    rwa [← toList_normalizeDomain, ne_eq, String.toList_eq_nil_iff]
  · rintro ⟨entry, hentry, hne, hpattern⟩
    rw [← toList_normalizeDomain] at hpattern hne
    obtain rfl := String.toList_injective hpattern
    exact ⟨⟨entry, hentry, rfl⟩, fun hempty => hne (by rw [hempty]; rfl)⟩

theorem allowsDomain_iff_covered (h : ofTexts pins domains = .ok policy) (name : String) :
    policy.allowsDomain name = true ↔
      ∃ entry ∈ domains, normal entry ≠ [] ∧ Covered (normal entry) (compared name.toList) := by
  rw [allowsDomain_iff]
  simp only [mem_domains_iff h, covers_iff]
  constructor
  · rintro ⟨pattern, ⟨entry, hentry, hne, hpattern⟩, hcovered⟩
    exact ⟨entry, hentry, hne, hpattern ▸ hcovered⟩
  · rintro ⟨entry, hentry, hne, hcovered⟩
    refine ⟨normalizeDomain entry, ⟨entry, hentry, hne, toList_normalizeDomain entry⟩, ?_⟩
    rwa [toList_normalizeDomain]

/-- What some entries allow is allowed by all that the same domains are among, under the same
name. -/
theorem allowsDomain_of_same (h : ofTexts pins domains = .ok policy)
    (h' : ofTexts pins' domains' = .ok policy') {name name' : String}
    (hentries : ∀ entry ∈ domains, Writes entry [] ∨ ∃ entry' ∈ domains', SameEntry entry entry')
    (hname : SameName name.toList name'.toList) (hallows : policy.allowsDomain name = true) :
    policy'.allowsDomain name' = true := by
  obtain ⟨entry, hentry, hne, hcovered⟩ := (allowsDomain_iff_covered h name).mp hallows
  rcases hentries entry hentry with hempty | ⟨entry', hentry', hsame⟩
  · exact absurd (writes_nil_iff.mp hempty) hne
  · rw [sameEntry_iff.mp hsame] at hne hcovered
    rw [sameName_iff.mp hname] at hcovered
    exact (allowsDomain_iff_covered h' name').mpr ⟨entry', hentry', hne, hcovered⟩

theorem SameName.symm {a b : List Char} (h : SameName a b) : SameName b a :=
  sameName_iff.mpr (sameName_iff.mp h).symm

theorem SameEntry.symm {entry entry' : String} (h : SameEntry entry entry') :
    SameEntry entry' entry :=
  sameEntry_iff.mpr (sameEntry_iff.mp h).symm

theorem allowsDomain_congr (h : ofTexts pins domains = .ok policy)
    (h' : ofTexts pins' domains' = .ok policy') {name name' : String}
    (hentries : SameEntries domains domains') (hname : SameName name.toList name'.toList) :
    policy.allowsDomain name = policy'.allowsDomain name' := by
  obtain ⟨hleft, hright⟩ := hentries
  rw [Bool.eq_iff_iff]
  constructor
  · exact allowsDomain_of_same h h' hleft hname
  · refine allowsDomain_of_same h' h (fun entry' hentry' => ?_) hname.symm
    rcases hright entry' hentry' with hempty | ⟨entry, hentry, hsame⟩
    · exact .inl hempty
    · exact .inr ⟨entry, hentry, hsame.symm⟩

/-- Entries that allow the same names on their own write the same domain. -/
theorem sameEntry_of_allowsDomain {entry entry' : String} (h : ofTexts pins [entry] = .ok policy)
    (h' : ofTexts pins' [entry'] = .ok policy')
    (hallows : ∀ name, policy.allowsDomain name = policy'.allowsDomain name) :
    SameEntry entry entry' := by
  have hcovered : ∀ name : List Char, (normal entry ≠ [] ∧ Covered (normal entry) (compared name)) ↔
      normal entry' ≠ [] ∧ Covered (normal entry') (compared name) := by
    intro name
    have hname := hallows (String.ofList name)
    rw [Bool.eq_iff_iff, allowsDomain_iff_covered h, allowsDomain_iff_covered h'] at hname
    simpa using hname
  have hself : ∀ entry : String, compared (normal entry) = normal entry :=
    fun entry => compared_compared _
  have hleft := hcovered (normal entry)
  have hright := hcovered (normal entry')
  rw [hself] at hleft hright
  rw [sameEntry_iff]
  by_cases hempty : normal entry = []
  · by_contra hne
    exact (hright.mpr ⟨fun h => hne (hempty.trans h.symm), .same⟩).1 hempty
  · have hcovers := hleft.mp ⟨hempty, .same⟩
    exact (hright.mpr ⟨hcovers.1, .same⟩).2.antisymm hcovers.2

/-- A policy allows a name if and only if an entry covers it, where entries are taken without blanks
around them and empty ones do not count, and both are taken without dots at the end and in small
letters. The last labels of a covered name are those of the entry: labels are never cut. Two
policies with entries for the same domains, up to order, repetition, the case of ASCII letters, and
dots and blanks around them, allow the same names, and so do names that are the same up to case and
dots. Entries for different domains allow different names. A dot behind an entry makes it one for
another domain exactly if the entry ends in a blank and is not blank throughout. -/
theorem allowsDomain_exact (h : ofTexts pins domains = .ok policy) :
    (∀ name, policy.allowsDomain name = true ↔
      ∃ entry ∈ domains, normal entry ≠ [] ∧ Covered (normal entry) (compared name.toList)) ∧
    (∀ name, policy.allowsDomain name = true → ∃ entry ∈ domains, normal entry ≠ [] ∧
      labels (bare (normal entry)) <:+ labels (compared name.toList)) ∧
    (∀ pins' domains' policy' name name', ofTexts pins' domains' = .ok policy' →
      SameEntries domains domains' → SameName name.toList name'.toList →
      policy.allowsDomain name = policy'.allowsDomain name') ∧
    (∀ entry entry' pins' policy', domains = [entry] → ofTexts pins' [entry'] = .ok policy' →
      (∀ name, policy.allowsDomain name = policy'.allowsDomain name) → SameEntry entry entry') ∧
    ∀ entry, SameEntry entry (entry ++ ".") ↔
      (∀ c ∈ entry.toList.getLast?, Text.isBlank c = false) ∨
        ∀ c ∈ entry.toList, Text.isBlank c = true := by
  refine ⟨fun name => allowsDomain_iff_covered h name, fun name hallows => ?_,
    fun _ _ _ _ _ h' hentries hname => allowsDomain_congr h h' hentries hname, ?_,
    sameEntry_append_dot_iff⟩
  · obtain ⟨entry, hentry, hne, hcovered⟩ := (allowsDomain_iff_covered h name).mp hallows
    exact ⟨entry, hentry, hne, labels_suffix hcovered⟩
  · rintro entry entry' pins' policy' rfl h' hallows
    exact sameEntry_of_allowsDomain h h' hallows

/-- Two spellings of one list of domains, and a name under the wildcard. -/
theorem allowsDomain_exact_spellings :
    ∃ policy policy', ofTexts [] ["*.Example.com", " b.ORG. ", ".."] = .ok policy ∧
      ofTexts [] ["B.org", "*.EXAMPLE.com.", "b.org"] = .ok policy' ∧
      policy.allowsDomain "API.example.com." = true ∧
      policy'.allowsDomain "api.EXAMPLE.com" = true := by
  have hpolicy : ofTexts [] ["*.Example.com", " b.ORG. ", ".."] = .ok _ := rfl
  have hpolicy' : ofTexts [] ["B.org", "*.EXAMPLE.com.", "b.org"] = .ok _ := rfl
  obtain ⟨hcovers, -, hsame, -, -⟩ := allowsDomain_exact hpolicy
  have hallows := (hcovers "API.example.com.").mpr
    ⟨"*.Example.com", by simp, by decide +kernel, covers_iff.mp (by decide +kernel)⟩
  have hentries : SameEntries ["*.Example.com", " b.ORG. ", ".."]
      ["B.org", "*.EXAMPLE.com.", "b.org"] := by
    simp only [SameEntries, writes_nil_iff, sameEntry_iff]
    decide +kernel
  refine ⟨_, _, hpolicy, hpolicy', hallows, ?_⟩
  rw [← hsame _ _ _ "API.example.com." _ hpolicy' hentries (sameName_iff.mpr (by decide +kernel))]
  exact hallows

/-- Entries that differ in a dot at their end only, or in the case of a letter beyond ASCII, and a
name that one of them allows. -/
theorem allowsDomain_dot :
    (∃ policy policy', ofTexts [] ["b.org "] = .ok policy ∧
      ofTexts [] ["b.org " ++ "."] = .ok policy' ∧
      policy.allowsDomain "b.org" = true ∧ policy'.allowsDomain "b.org" = false) ∧
    ∃ policy policy', ofTexts [] ["é.org"] = .ok policy ∧ ofTexts [] ["É.org"] = .ok policy' ∧
      policy.allowsDomain "é.org" = true ∧ policy'.allowsDomain "é.org" = false := by
  exact ⟨⟨_, _, rfl, rfl, by decide +kernel, by decide +kernel⟩, _, _, rfl, rfl,
    by decide +kernel, by decide +kernel⟩

end DeviceSecurity.PinPolicy
