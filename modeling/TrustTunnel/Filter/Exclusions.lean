import TrustTunnel.Filter.Domains

namespace TrustTunnel.Filter.Exclusions

open Lib.Assoc Lib.Words Domains List
open DomainFilter

variable {Cidr : Type} {parsers : Parsers Cidr} {filter : DomainFilter Cidr}
  {info : DomainEntryInfo} {entry : List Char} {flag : MatchFlagsSet → Bool}

theorem startsWith_iff {str s : List Char} : startsWith str s = true ↔ s <+: str := by
  rw [startsWith, beq_iff_eq, prefix_iff_eq_take, eq_comm]

def removeWww (name : List Char) : List Char :=
  if startsWith name wwwPrefix then name.drop wwwPrefix.length else name

def Excludes (entry name : List Char) : Prop :=
  (∃ x, entry = wildcardPrefix ++ x ∧ '.' :: x <:+ name) ∨
    ¬ wildcardPrefix <+: entry ∧ (name = removeWww entry ∨ name = wwwPrefix ++ removeWww entry)

theorem removeWww_cases (n : List Char) :
    (startsWith n wwwPrefix = true ∧ n = wwwPrefix ++ removeWww n) ∨
      (startsWith n wwwPrefix = false ∧ removeWww n = n) := by
  cases h : startsWith n wwwPrefix with
  | true =>
    obtain ⟨rest, rfl⟩ := startsWith_iff.1 h
    exact .inl ⟨rfl, by rw [removeWww, if_pos h, drop_left]⟩
  | false => exact .inr ⟨rfl, if_neg (Bool.eq_false_iff.1 h)⟩

theorem removeWww_append (name : List Char) : removeWww (wwwPrefix ++ name) = name := by
  rw [removeWww, if_pos (startsWith_iff.2 (prefix_append _ _)), drop_left]

theorem parseDomain_domain (h : (parseDomain entry : ParseResult Cidr) = .domain info) :
    (∃ x, entry = wildcardPrefix ++ x ∧ x ≠ [] ∧ info = ⟨x, { subdomains := true }⟩) ∨
      ¬ wildcardPrefix <+: entry ∧ info = ⟨removeWww entry, { exact := true }⟩ := by
  by_cases hwild : startsWith entry wildcardPrefix = true
  · simp only [parseDomain, if_pos hwild] at h
    obtain ⟨x, rfl⟩ := startsWith_iff.1 hwild
    rw [drop_left] at h
    split at h
    · cases h
    next hn =>
    split at h
    · cases h
    cases h
    exact .inl ⟨x, rfl, fun hx ↦ hn (by rw [hx]; rfl), rfl⟩
  · simp only [parseDomain, if_neg hwild] at h
    refine .inr ⟨fun hc ↦ hwild (startsWith_iff.2 hc), ?_⟩
    split at h
    · cases h
    split at h
    · cases h
    rw [removeWww]
    split at h
    · next hw =>
      cases h
      rw [if_pos hw]
    · next hw =>
      cases h
      rw [if_neg hw]

theorem parseHostPort_ne_domain : parseHostPort parsers entry ≠ some (.domain info) := by
  have ha : ∀ a : Net.Address.SocketAddress,
      (if a.valid then some (ParseResult.addr a) else none) ≠
        some (.domain info : ParseResult Cidr) := by
    intro a
    split <;> exact fun h ↦ (by cases h)
  rw [parseHostPort]
  split
  · exact fun h ↦ (by cases h)
  split
  · split
    · split
      · exact fun h ↦ (by cases h)
      · exact ha _
    · exact fun h ↦ (by cases h)
  · exact ha _

/-- The entries that name a domain, by their prefix. -/
theorem parseEntry_domain (h : parseEntry parsers entry = .domain info) :
    (∃ x, entry = wildcardPrefix ++ x ∧ x ≠ [] ∧ info = ⟨x, { subdomains := true }⟩) ∨
      ¬ wildcardPrefix <+: entry ∧ info = ⟨removeWww entry, { exact := true }⟩ := by
  rw [parseEntry] at h
  split at h
  next r hr =>
    subst h
    exact absurd hr parseHostPort_ne_domain
  split at h
  · cases h
  · exact parseDomain_domain h

def hasFlag (flag : MatchFlagsSet → Bool) (filter : DomainFilter Cidr) (text : List Char) : Bool :=
  (filter.domains.lookup text).any flag

def IsFlag (flag : MatchFlagsSet → Bool) : Prop :=
  flag {} = false ∧ ∀ a b, flag (a.union b) = (flag a || flag b)

theorem hasFlag_addEntry (h : IsFlag flag) (f : DomainFilter Cidr) (e t : List Char) :
    hasFlag flag (f.addEntry parsers e) t = true ↔ hasFlag flag f t = true ∨
      ∃ i, parseEntry parsers e = .domain i ∧ i.text = t ∧ flag i.flags = true := by
  rw [addEntry]
  cases hpar : parseEntry parsers e with
  | addr addr => simp [hasFlag]
  | cidr r => simp [hasFlag]
  | portOnly p => simp [hasFlag]
  | malformed => simp
  | domain i =>
    have ho : flag ((f.domains.lookup i.text).getD {}) = hasFlag flag f i.text := by
      rw [hasFlag]
      cases f.domains.lookup i.text with
      | none => exact h.1
      | some fs => rfl
    simp only [hasFlag, lookup_insert, ParseResult.domain.injEq, exists_eq_left']
    by_cases htext : t = i.text
    · rw [if_pos htext, Option.any_some, h.2, Bool.or_eq_true, ho, htext]
      simp [hasFlag]
    · rw [if_neg htext]
      simp [Ne.symm htext]

theorem hasFlag_foldl (h : IsFlag flag) (es : List (List Char))
    (f : DomainFilter Cidr) (t : List Char) :
    hasFlag flag (es.foldl (addEntry parsers) f) t = true ↔
      hasFlag flag f t = true ∨ ∃ e ∈ es, ∃ i,
        parseEntry parsers e = .domain i ∧ i.text = t ∧ flag i.flags = true := by
  induction es generalizing f with
  | nil => simp
  | cons e es ih =>
    rw [foldl_cons, ih, hasFlag_addEntry h, or_assoc, exists_mem_cons_iff]

/-- A domain has a flag exactly if an entry of the text gives it. -/
theorem hasFlag_updateExclusions (h : IsFlag flag) (m : Traffic.Types.VpnMode) (es t : List Char) :
    hasFlag flag (filter.updateExclusions parsers m es) t = true ↔
      ∃ e ∈ words isSpace es, ∃ i, parseEntry parsers e = .domain i ∧
        i.text = t ∧ flag i.flags = true := by
  rw [updateExclusions, foldWords_eq _ _ (fun b hb ↦ absurd hb not_mem_nil),
    hasFlag_foldl h, nil_append]
  exact or_iff_right Bool.false_ne_true

section Search

variable {name t : List Char}

theorem found_iff : filter.found name t = true ↔
    hasFlag MatchFlagsSet.exact filter t = true ∧ (t.length = name.length ∨
      startsWith name wwwPrefix = true ∧ t.length + wwwPrefix.length = name.length) ∨
    hasFlag MatchFlagsSet.subdomains filter t = true ∧ t.length < name.length := by
  rw [found, hasFlag, hasFlag]
  cases filter.domains.lookup t with
  | none => simp
  | some fs => simp

theorem isTail_exact : IsTail '.' t (removeWww name) ∧ (t.length = name.length ∨
    startsWith name wwwPrefix = true ∧ t.length + wwwPrefix.length = name.length) ↔
    t = removeWww name := by
  constructor
  · rintro ⟨ht, hl⟩
    have hs : t <:+ removeWww name := by
      rcases ht with rfl | ⟨-, ht⟩
      · exact suffix_rfl
      · exact (suffix_cons _ _).trans ht
    refine hs.eq_of_length ?_
    have he := hs.length_le
    rcases removeWww_cases name with ⟨-, hn⟩ | ⟨hw, hn⟩
    · have := congrArg length hn
      rw [length_append] at this
      have hf : wwwPrefix.length = 4 := rfl
      omega
    · rw [hn] at he ⊢
      rw [hw] at hl
      rcases hl with hl | ⟨hc, -⟩
      · exact hl
      · cases hc
  · rintro rfl
    refine ⟨.inl rfl, ?_⟩
    rcases removeWww_cases name with ⟨hw, hn⟩ | ⟨-, hn⟩
    · refine .inr ⟨hw, ?_⟩
      rw [← length_append.trans (Nat.add_comm _ _), ← hn]
    · exact .inl (congrArg _ hn)

theorem isTail_subdomain (ht : t ≠ []) :
    IsTail '.' t (removeWww name) ∧ t.length < name.length ↔ '.' :: t <:+ name := by
  rcases removeWww_cases name with ⟨-, hn⟩ | ⟨-, hn⟩
  · have hs : '.' :: t <:+ name ↔ t = removeWww name ∨ '.' :: t <:+ removeWww name := by
      rw [hn, removeWww_append]
      simp [wwwPrefix, suffix_cons_iff]
    rw [hs, IsTail, and_iff_right ht]
    refine and_iff_left_of_imp fun h ↦ ?_
    exact Nat.lt_of_succ_le (hs.2 h).length_le
  · rw [hn, IsTail, and_iff_right ht]
    constructor
    · rintro ⟨rfl | h, hl⟩
      · exact absurd hl (lt_irrefl _)
      · exact h
    · exact fun h ↦ ⟨.inr h, Nat.lt_of_succ_le h.length_le⟩

theorem matchDomain_iff : filter.matchDomain name = .exclusion ↔
    hasFlag MatchFlagsSet.exact filter (removeWww name) = true ∨
      ∃ t, hasFlag MatchFlagsSet.subdomains filter t = true ∧ IsTail '.' t (removeWww name) ∧
        t.length < name.length := by
  have hs : (if !startsWith name wwwPrefix then name else name.drop wwwPrefix.length) =
      removeWww name := by
    rw [removeWww]
    cases startsWith name wwwPrefix with
    | false => rfl
    | true => rfl
  have hst : filter.matchDomain name = .exclusion ↔
      anyTail '.' (filter.found name) (removeWww name) = true := by
    rw [matchDomain, hs]
    split
    · next h => exact iff_of_true rfl h
    · next h => exact iff_of_false (fun hc ↦ (by cases hc)) h
  rw [hst, anyTail_iff]
  simp only [found_iff]
  constructor
  · rintro ⟨t, ht, ⟨hf, hl⟩ | ⟨hf, hl⟩⟩
    · exact .inl (isTail_exact.1 ⟨ht, hl⟩ ▸ hf)
    · exact .inr ⟨t, hf, ht, hl⟩
  · rintro (hf | ⟨t, hf, ht, hl⟩)
    · obtain ⟨ht, hl⟩ := isTail_exact.2 (Eq.refl (removeWww name))
      exact ⟨_, ht, .inl ⟨hf, hl⟩⟩
    · exact ⟨t, ht, .inr ⟨hf, hl⟩⟩

end Search

theorem isFlag_exact : IsFlag MatchFlagsSet.exact := ⟨rfl, fun _ _ ↦ rfl⟩

theorem isFlag_subdomains : IsFlag MatchFlagsSet.subdomains := ⟨rfl, fun _ _ ↦ rfl⟩

/-- Two names with the same exact entry differ at most by one `www.`. -/
theorem removeWww_eq_iff {n : List Char} (hw : ¬ wwwPrefix ++ wwwPrefix <+: entry) :
    removeWww entry = removeWww n ↔ n = removeWww entry ∨ n = wwwPrefix ++ removeWww entry := by
  constructor
  · intro h
    rw [h]
    rcases removeWww_cases n with ⟨-, hn⟩ | ⟨-, hn⟩
    · exact .inr hn
    · exact .inl hn.symm
  · rintro (h | h)
    · rcases removeWww_cases n with ⟨hs, -⟩ | ⟨-, hn⟩
      · obtain ⟨r, hr⟩ := startsWith_iff.1 hs
        exfalso
        rcases removeWww_cases entry with ⟨-, ht⟩ | ⟨ht, he⟩
        · refine hw ⟨r, ?_⟩
          rw [append_assoc, hr, h, ← ht]
        · rw [he] at h
          rw [← h, hs] at ht
          cases ht
      · rw [hn, h]
    · rw [h, removeWww_append]

/-- Whatever the filter excluded before, a name is an exclusion after `update_exclusions` exactly if
one of the entries that are domains excludes it. -/
theorem matchDomain_updateExclusions (mode : Traffic.Types.VpnMode) (exclusions name : List Char)
    (hwww : ∀ entry ∈ words isSpace exclusions, ¬ wwwPrefix ++ wwwPrefix <+: entry) :
    (filter.updateExclusions parsers mode exclusions).matchDomain name = .exclusion ↔
      ∃ entry ∈ words isSpace exclusions, (∃ info, parseEntry parsers entry = .domain info) ∧
        Excludes entry name := by
  simp only [matchDomain_iff, hasFlag_updateExclusions isFlag_exact,
    hasFlag_updateExclusions isFlag_subdomains]
  constructor
  · rintro (⟨entry, he, info, hp, ht, hf⟩ |
      ⟨t, ⟨entry, he, info, hp, rfl, hf⟩, htail, hlength⟩)
    · refine ⟨entry, he, ⟨info, hp⟩, ?_⟩
      rcases parseEntry_domain hp with ⟨x, -, -, rfl⟩ | ⟨hw, rfl⟩
      · cases hf
      · exact .inr ⟨hw, (removeWww_eq_iff (hwww entry he)).1 ht⟩
    · refine ⟨entry, he, ⟨info, hp⟩, ?_⟩
      rcases parseEntry_domain hp with ⟨x, hx, hne, rfl⟩ | ⟨-, rfl⟩
      · exact .inl ⟨x, hx, (isTail_subdomain hne).1 ⟨htail, hlength⟩⟩
      · cases hf
  · rintro ⟨entry, he, ⟨info, hp⟩, hs⟩
    rcases parseEntry_domain hp with ⟨x, hx, hne, rfl⟩ | ⟨hw, rfl⟩
    · rcases hs with ⟨y, hy, hu⟩ | ⟨hw, -⟩
      · obtain rfl : x = y := append_cancel_left (hx.symm.trans hy)
        exact .inr ⟨x, ⟨entry, he, _, hp, rfl, rfl⟩, (isTail_subdomain hne).2 hu⟩
      · exact absurd ⟨x, hx.symm⟩ hw
    · rcases hs with ⟨y, rfl, -⟩ | ⟨-, hn⟩
      · exact absurd (prefix_append _ _) hw
      · exact .inl ⟨entry, he, _, hp, (removeWww_eq_iff (hwww entry he)).2 hn, rfl⟩

def onlyDomains : Parsers Empty := ⟨fun _ ↦ none, fun _ ↦ none, fun _ _ ↦ {}, fun _ ↦ none⟩

/-- A name below a wildcard entry. -/
theorem matchDomain_updateExclusions_subdomain :
    (({} : DomainFilter Empty).updateExclusions onlyDomains .general
      ['w', 'w', 'w', '.', 'a', '\n', '*', '.', 'b']).matchDomain ['c', '.', 'b'] = .exclusion := by
  refine (matchDomain_updateExclusions .general _ _ ?_).2
    ⟨['*', '.', 'b'], by decide, ⟨⟨['b'], { subdomains := true }⟩, by decide⟩,
      .inl ⟨['b'], rfl, ['c'], rfl⟩⟩
  decide

section Tags

open Net.Address (SocketAddress)

variable {includes : Cidr → SocketAddress → Bool} {addr : SocketAddress}

def Lists (includes : Cidr → SocketAddress → Bool) (addr : SocketAddress) :
    ParseResult Cidr → Prop
  | .addr a => addr = a ∨ { addr with port := 0 } = a
  | .cidr range => includes range addr = true
  | .portOnly port => addr.port = port
  | _ => False

/-- An address is listed exactly if it was before or an entry lists it. -/
theorem isListed_foldl (es : List (List Char)) (f : DomainFilter Cidr) :
    isListed (es.foldl (addEntry parsers) f) includes addr = true ↔
      isListed f includes addr = true ∨ ∃ e ∈ es, Lists includes addr (parseEntry parsers e) := by
  induction es generalizing f with
  | nil => simp
  | cons e es ih =>
    have ha : isListed (f.addEntry parsers e) includes addr = true ↔
        isListed f includes addr = true ∨ Lists includes addr (parseEntry parsers e) := by
      rw [addEntry]
      cases parseEntry parsers e <;> simp [isListed, Lists] <;> grind
    rw [foldl_cons, ih, ha, or_assoc, exists_mem_cons_iff]

theorem caches_foldl (es : List (List Char)) (f : DomainFilter Cidr) :
    (es.foldl (addEntry parsers) f).resolvedTags = f.resolvedTags ∧
      (es.foldl (addEntry parsers) f).exclusionSuspects = f.exclusionSuspects := by
  induction es generalizing f with
  | nil => exact ⟨rfl, rfl⟩
  | cons e es ih =>
    rw [foldl_cons, (ih _).1, (ih _).2, addEntry]
    cases parseEntry parsers e <;> exact ⟨rfl, rfl⟩

/-- After `update_exclusions` no address is a suspect, and it is an exclusion exactly if one of the
entries is the address, with its port or without one, a range around it or its port, or if the name
that it was resolved to before is an exclusion now. -/
theorem matchTag_updateExclusions (mode : Traffic.Types.VpnMode) (exclusions : List Char)
    (appname : String) :
    (((filter.updateExclusions parsers mode exclusions).matchTag includes addr appname).1 =
        .exclusion ↔
      (∃ entry ∈ words isSpace exclusions, Lists includes addr (parseEntry parsers entry)) ∨
        ∃ tag, filter.resolvedTags.find? (fun tag ↦ tag.1 = addr ∧ tag.2.1 = appname) = some tag ∧
          (filter.updateExclusions parsers mode exclusions).matchDomain tag.2.2 = .exclusion) ∧
    ((filter.updateExclusions parsers mode exclusions).matchTag includes addr appname).1 ≠
      .suspectExclusion := by
  rw [updateExclusions, foldWords_eq _ _ (fun b hb ↦ absurd hb not_mem_nil), nil_append, matchTag,
    (caches_foldl _ _).1, (caches_foldl _ _).2]
  dsimp only
  split
  · next h =>
    have he := (isListed_foldl _ _).1 h
    simp [he.resolve_left Bool.false_ne_true]
  · next h =>
    rw [isListed_foldl, not_or] at h
    cases filter.resolvedTags.find? fun tag ↦ tag.1 = addr ∧ tag.2.1 = appname with
    | none => simp [h.2]
    | some tag =>
      refine ⟨by simp [h.2], ?_⟩
      dsimp only [matchDomain]
      split_ifs <;> decide

end Tags

end TrustTunnel.Filter.Exclusions
