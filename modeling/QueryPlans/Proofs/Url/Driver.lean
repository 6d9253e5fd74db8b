import QueryPlans.Database.Target
import QueryPlans.Proofs.Text.Rewriting
import QueryPlans.Proofs.Url.Literals
import QueryPlans.Proofs.Url.Parts

/-!
# URLs that name a driver

The usual driver is taken out of a URL wherever its mark stands, and not in the scheme alone.  The mark ends
in two slashes, so that it can only be the scheme, the end of the authority, or stand behind both.

* `IsEnding` — how an authority ends in which the mark begins: a word, and a colon.
* `Reaches` — the URL is in order, its scheme is supported, and it has a host and a port that is read.

Principal results: `checkAuthority_ending`, `hostAndPort_ending` — the word at the end does not count;
`rewrites_withoutDriver` — the URL is rewritten; `reaches_withoutDriver_iff` — it reaches a server exactly if
the URL does.
-/

namespace QueryPlans.Url

open Text (Rewrites)

variable {e e' before : List Char} {u v : Url}

/-! ## Endings of an authority -/

/-- A word that starts with `p`, and a colon. -/
structure IsEnding (e : List Char) : Prop where
  word : ∃ word, e = 'p' :: word ++ [':'] ∧ ':' ∉ 'p' :: word
  unmarked : ∀ c ∈ e, c ≠ '@' ∧ c ≠ '[' ∧ c ≠ ']' ∧ c ≠ '%' ∧ isUnsafe c = false

namespace IsEnding

theorem exists_cons (h : IsEnding e) : ∃ rest, e = 'p' :: rest := by
  obtain ⟨word, rfl, -⟩ := h.word
  exact ⟨word ++ [':'], rfl⟩

theorem colon_mem (h : IsEnding e) : ':' ∈ e := by
  obtain ⟨word, rfl, -⟩ := h.word
  simp

theorem notMem (h : IsEnding e) : '@' ∉ e ∧ '[' ∉ e ∧ ']' ∉ e ∧ '%' ∉ e :=
  ⟨fun hc => (h.unmarked _ hc).1 rfl, fun hc => (h.unmarked _ hc).2.1 rfl,
    fun hc => (h.unmarked _ hc).2.2.1 rfl, fun hc => (h.unmarked _ hc).2.2.2.1 rfl⟩

theorem cut_colon (h : IsEnding e) : ∃ word, Text.cut ':' e = ('p' :: word, some []) := by
  obtain ⟨word, rfl, hword⟩ := h.word
  exact ⟨word, Text.cut_append_cons hword⟩

end IsEnding

/-! ### Addresses in brackets -/

theorem isFutureAddress_ending (he : IsEnding e) (he' : IsEnding e') (before : List Char) :
    isFutureAddress ('v' :: (before ++ e)) = isFutureAddress ('v' :: (before ++ e')) := by
  obtain ⟨rest, rfl⟩ := he.exists_cons
  obtain ⟨rest', rfl⟩ := he'.exists_cons
  by_cases hstop : ∃ c ∈ before, (Text.hexDigitValue? c).isNone = true
  · obtain ⟨version, c, tail, hspan⟩ := Text.exists_spanUntil_append hstop
    have hold := hspan ('p' :: rest)
    have hnew := hspan ('p' :: rest')
    simp only [isFutureAddress, hold, hnew]
    -- something stands behind the point in both
    cases tail <;> by_cases hc : c = '.' <;> simp [hc]
  · simp only [not_exists, not_and, Bool.not_eq_true] at hstop
    have hp : (Text.hexDigitValue? 'p').isNone = true := by decide
    simp [isFutureAddress, Text.spanUntil_append_cons hstop hp]

theorem isZonedIpv6_ending (he : IsEnding e) (he' : IsEnding e') (before : List Char) :
    isZonedIpv6 (before ++ e) = isZonedIpv6 (before ++ e') := by
  by_cases hzone : '%' ∈ before
  · obtain ⟨address, zone, hcut⟩ := Text.exists_cut_append hzone
    obtain ⟨rest, rfl⟩ := he.exists_cons
    obtain ⟨rest', rfl⟩ := he'.exists_cons
    have hpercent : '%' ∉ rest := fun hmem => he.notMem.2.2.2 (List.mem_cons_of_mem _ hmem)
    have hpercent' : '%' ∉ rest' := fun hmem => he'.notMem.2.2.2 (List.mem_cons_of_mem _ hmem)
    have hfull (rest : List Char) : (zone ++ 'p' :: rest).isEmpty = false := by
      simp [List.isEmpty_eq_false_iff]
    simp [isZonedIpv6, hcut, hfull, hpercent, hpercent']
  · have hnone {e : List Char} (he : IsEnding e) : isZonedIpv6 (before ++ e) = false := by
      obtain ⟨rest, rfl⟩ := he.exists_cons
      have hplain : '%' ∉ before ++ 'p' :: rest := by
        simp only [List.mem_append, not_or]
        exact ⟨hzone, he.notMem.2.2.2⟩
      -- the letter is no hexadecimal digit
      have hunread : ipv6? (before ++ 'p' :: rest) = none := by
        rw [Option.eq_none_iff_forall_ne_some]
        intro ns hread
        exact absurd (literal_of_ipv6? hread 'p' (by simp)) (by decide)
      simp [isZonedIpv6, Text.cut_of_notMem hplain, hunread]
    rw [hnone he, hnone he']

theorem checkAddress_eq_ok_iff {host : List Char} :
    checkAddress host = .ok () ↔
      if host.head? = some 'v' then isFutureAddress host = true
      else ipv4? host = none ∧ isZonedIpv6 host = true := by
  unfold checkAddress
  split
  · split <;> simp_all
  · cases ipv4? host <;> cases isZonedIpv6 host <;> simp

theorem checkAddress_ending (he : IsEnding e) (he' : IsEnding e') (before : List Char) :
    checkAddress (before ++ e) = .ok () ↔ checkAddress (before ++ e') = .ok () := by
  have hnumbers {e : List Char} (he : IsEnding e) : ipv4? (before ++ e) = none :=
    ipv4?_of_colon (List.mem_append_right _ he.colon_mem)
  rw [checkAddress_eq_ok_iff, checkAddress_eq_ok_iff, hnumbers he, hnumbers he',
    isZonedIpv6_ending he he' before]
  cases before with
  | nil =>
    obtain ⟨rest, rfl⟩ := he.exists_cons
    obtain ⟨rest', rfl⟩ := he'.exists_cons
    simp
  | cons c before =>
    by_cases hc : c = 'v'
    · simp [hc, isFutureAddress_ending he he' before]
    · simp [hc]

/-! ### The whole authority -/

theorem checkAuthority_ending (he : IsEnding e) (he' : IsEnding e') (before : List Char) :
    checkAuthority (before ++ e) = .ok () ↔ checkAuthority (before ++ e') = .ok () := by
  obtain ⟨-, hopen, hclose, -⟩ := he.notMem
  obtain ⟨-, hopen', hclose', -⟩ := he'.notMem
  have hsafe {e : List Char} (he : IsEnding e) :
      (∀ c ∈ before ++ e, isUnsafe c = false) ↔ ∀ c ∈ before, isUnsafe c = false := by
    rw [List.forall_mem_append]
    exact and_iff_left fun c hc => (he.unmarked c hc).2.2.2.2
  have haddress : '[' ∈ before →
      (checkAddress (bracketed (before ++ e)) = .ok () ↔
        checkAddress (bracketed (before ++ e')) = .ok ()) := by
    intro hopened
    obtain ⟨front, rest, hcut⟩ := Text.exists_cut_append hopened
    unfold bracketed
    rw [hcut, hcut]
    by_cases hclosed : ']' ∈ rest
    · obtain ⟨address, tail, hcut'⟩ := Text.exists_cut_append hclosed
      simp only [Option.getD_some, hcut']
    · simp only [Option.getD_some, Text.cut_append_of_notMem hclosed, Text.cut_of_notMem hclose,
        Text.cut_of_notMem hclose']
      exact checkAddress_ending he he' rest
  rw [checkAuthority_eq_ok_iff, checkAuthority_eq_ok_iff, hsafe he, hsafe he']
  simp only [List.mem_append, hopen, hclose, hopen', hclose', or_false]
  refine and_congr_right fun _ => and_congr_left fun _ => ?_
  exact forall_congr' haddress

theorem hostPart_append (he : IsEnding e) (before : List Char) :
    hostPart (before ++ e) = hostPart before ++ e :=
  Text.cutLast_append_of_notMem he.notMem.1 before

/-- Either the port is all that stands behind a colon, or there is none and the host is there or not; the
word at the end is the same for this. -/
theorem hostAndPort_ending (before : List Char) :
    (∃ port, ∀ u : Url, ∀ e, IsEnding e → u.authority = before ++ e → u.hostAndPort.2 = port ++ e) ∨
      ∃ present : Prop, ∀ u : Url, ∀ e, IsEnding e → u.authority = before ++ e →
        u.hostAndPort.2 = [] ∧ (u.hostAndPort.1 ≠ [] ↔ present) := by
  by_cases hopened : '[' ∈ hostPart before
  · obtain ⟨front, rest, hopen⟩ := Text.exists_cut_append hopened
    by_cases hclosed : ']' ∈ rest
    · obtain ⟨host, tail, hclose⟩ := Text.exists_cut_append hclosed
      by_cases hcolon : ':' ∈ tail
      · obtain ⟨front', port, hport⟩ := Text.exists_cut_append hcolon
        refine .inl ⟨port, fun u e he hu => ?_⟩
        simp [hostAndPort, hu, hostPart_append he, hopen, hclose, hport]
      · refine .inr ⟨host ≠ [], fun u e he hu => ?_⟩
        obtain ⟨word, hword⟩ := he.cut_colon
        simp [hostAndPort, hu, hostPart_append he, hopen, hclose,
          Text.cut_append_of_notMem hcolon, hword]
    · refine .inr ⟨True, fun u e he hu => ?_⟩
      have hnone : Text.cut ':' [] = ([], none) := rfl
      obtain ⟨word, rfl⟩ := he.exists_cons
      simp [hostAndPort, hu, hostPart_append he, hopen, Text.cut_append_of_notMem hclosed,
        Text.cut_of_notMem he.notMem.2.2.1, hnone]
  · by_cases hcolon : ':' ∈ hostPart before
    · obtain ⟨host, port, hport⟩ := Text.exists_cut_append hcolon
      refine .inl ⟨port, fun u e he hu => ?_⟩
      simp [hostAndPort, hu, hostPart_append he, Text.cut_append_of_notMem hopened,
        Text.cut_of_notMem he.notMem.2.1, hport]
    · refine .inr ⟨True, fun u e he hu => ?_⟩
      obtain ⟨word, hword⟩ := he.cut_colon
      simp [hostAndPort, hu, hostPart_append he, Text.cut_append_of_notMem hopened,
        Text.cut_of_notMem he.notMem.2.1, Text.cut_append_of_notMem hcolon, hword]

theorem isSome_host?_iff : u.host?.isSome = true ↔ u.hostAndPort.1 ≠ [] := by
  unfold host?
  split <;> simp_all

theorem hostAndPort_congr (h : v.authority = u.authority) : v.hostAndPort = u.hostAndPort := by
  unfold hostAndPort
  rw [h]

theorem port_congr (h : v.hostAndPort = u.hostAndPort) : v.port = u.port := by
  unfold port
  rw [h]

theorem authority_ne_nil (h : u.host?.isSome = true) : u.authority ≠ [] := by
  rw [isSome_host?_iff] at h
  intro hnil
  apply h
  unfold hostAndPort
  rw [hnil]
  rfl

/-- A port that holds a letter is not read. -/
theorem port_of_ending {port : List Char} (he : IsEnding e) (h : u.hostAndPort.2 = port ++ e) :
    ∀ n, u.port ≠ .ok n := by
  obtain ⟨rest, rfl⟩ := he.exists_cons
  have hdigits : ¬ (port ++ 'p' :: rest).all Char.isDigit = true := by
    intro hall
    exact absurd (List.all_eq_true.1 hall 'p' (by simp)) (by decide)
  intro n hn
  unfold Url.port at hn
  rw [h] at hn
  split at hn
  · rename_i hnil
    simp at hnil
  · rw [Bool.not_eq_true] at hdigits
    rw [hdigits] at hn
    cases hn

end QueryPlans.Url

namespace QueryPlans.Target

open Text (Rewrites)
open Url (IsEnding IsScheme ofChars cleaned)

variable {s : String} {u v : Url} {text text' rest word word' : List Char}

/-! ## The mark of a driver -/

/-- The scheme with the usual driver, and without it. -/
def schemeWords : List (List Char) := ["postgresql+asyncpg".toList, "postgresql".toList]

/-- A scheme with what stands between it and an authority. -/
def markOf (word : List Char) : List Char := word ++ ':' :: ['/', '/']

theorem forall_mem_schemeWords {P : List Char → Prop} :
    (∀ word ∈ schemeWords, P word) ↔ P "postgresql+asyncpg".toList ∧ P "postgresql".toList := by
  simp only [schemeWords, List.forall_mem_cons, List.not_mem_nil, false_imp_iff, implies_true, and_true]

theorem isEnding_of_mem (h : word ∈ schemeWords) : IsEnding (word ++ [':']) := by
  revert word
  rw [forall_mem_schemeWords]
  constructor
  · exact ⟨⟨"ostgresql+asyncpg".toList, rfl, by decide⟩, Text.forall_mem_of_all (by decide)⟩
  · exact ⟨⟨"ostgresql".toList, rfl, by decide⟩, Text.forall_mem_of_all (by decide)⟩

theorem markOf_starts (h : word ∈ schemeWords) : ∃ ds, markOf word = 'p' :: ds := by
  simp only [schemeWords, List.mem_cons, List.not_mem_nil, or_false] at h
  rcases h with rfl | rfl <;> exact ⟨_, rfl⟩

/-- Whatever stands in front of the word, either word makes a scheme of it. -/
theorem isScheme_append (hw' : word' ∈ schemeWords) {front : List Char}
    (h : IsScheme (String.ofList (front ++ word))) : IsScheme (String.ofList (front ++ word')) := by
  have hwords : ∀ word ∈ schemeWords, ∀ c ∈ word, Url.isSchemeChar c = true :=
    forall_mem_schemeWords.2 ⟨Text.forall_mem_of_all (by decide), Text.forall_mem_of_all (by decide)⟩
  obtain ⟨c, cs, htext, hletter, hrest⟩ := h
  rw [String.toList_ofList] at htext
  unfold IsScheme
  rw [String.toList_ofList]
  cases front with
  | nil =>
    obtain ⟨tail, htail⟩ : ∃ tail, word' = 'p' :: tail := by
      simp only [schemeWords, List.mem_cons, List.not_mem_nil, or_false] at hw'
      rcases hw' with rfl | rfl <;> exact ⟨_, rfl⟩
    refine ⟨'p', tail, htail, by decide, fun d hd => hwords word' hw' d ?_⟩
    rw [htail]
    exact List.mem_cons_of_mem _ hd
  | cons d front =>
    rw [List.cons_append] at htext
    obtain ⟨rfl, rfl⟩ := List.cons.inj htext
    refine ⟨d, front ++ word', rfl, hletter, fun b hb => ?_⟩
    rcases List.mem_append.1 hb with hfront | hword
    · exact hrest b (List.mem_append_left _ hfront)
    · exact hwords word' hw' b hword

/-- The driver is no part of the base of a scheme. -/
theorem isSupportedScheme_append (hw : word ∈ schemeWords) (hw' : word' ∈ schemeWords)
    (front : List Char) :
    isSupportedScheme (String.ofList ((front ++ word).map Char.toLower)) =
      isSupportedScheme (String.ofList ((front ++ word').map Char.toLower)) := by
  have hbase : ∀ word ∈ schemeWords,
      (Text.cut '+' (word.map Char.toLower)).1 = "postgresql".toList := by decide
  unfold isSupportedScheme baseScheme
  simp only [List.map_append, String.toList_ofList]
  by_cases hplus : '+' ∈ front.map Char.toLower
  · obtain ⟨base, driver, hcut⟩ := Text.exists_cut_append hplus
    rw [hcut, hcut]
  · rw [Text.cut_append_of_notMem hplus, Text.cut_append_of_notMem hplus, hbase word hw, hbase word' hw']

/-! ## Rewritten URLs -/

theorem rewrites_withoutDriver (text : String) :
    Rewrites (markOf "postgresql+asyncpg".toList) (markOf "postgresql".toList) text.toList
      (withoutDriver text).toList := by
  have hne : markOf "postgresql+asyncpg".toList ≠ [] := by decide
  have hlist : (withoutDriver text).toList =
      Text.replaceAll (markOf "postgresql+asyncpg".toList) (markOf "postgresql".toList) text.toList :=
    String.toList_ofList
  rw [hlist]
  exact Text.rewrites_replaceAll hne text.toList

theorem rewrites_cleaned (text : String) :
    Rewrites (markOf "postgresql+asyncpg".toList) (markOf "postgresql".toList) (cleaned text)
      (cleaned (withoutDriver text)) := by
  refine Rewrites.filter (Text.forall_mem_of_all (by decide)) (Text.forall_mem_of_all (by decide)) ?_
  exact (rewrites_withoutDriver text).dropWhile ⟨'p', _, rfl, by decide⟩ ⟨'p', _, rfl, by decide⟩

/-- A scheme stays a scheme, and is supported as before. -/
theorem scheme_of_rewrites (hw : word ∈ schemeWords) (hw' : word' ∈ schemeWords) (hs : IsScheme s)
    (h : Rewrites (markOf word) (markOf word') (s.toList ++ ':' :: rest) text') :
    ∃ s' rest', IsScheme s' ∧ text' = s'.toList ++ ':' :: rest' ∧
      Rewrites (markOf word) (markOf word') rest rest' ∧
        isSupportedScheme (String.ofList (s'.toList.map Char.toLower)) =
          isSupportedScheme (String.ofList (s.toList.map Char.toLower)) := by
  have hcolon : ∀ c ∈ s.toList, (c == ':') = false := by
    intro c hc
    have hmark := hs.isSchemeChar c hc
    rw [beq_eq_false_iff_ne]
    rintro rfl
    exact absurd hmark (by decide)
  have hwords : ∀ word ∈ schemeWords, ∀ c ∈ word, (c == ':') = false :=
    forall_mem_schemeWords.2 ⟨Text.forall_mem_of_all (by decide), Text.forall_mem_of_all (by decide)⟩
  have hspan : Text.spanUntil (· == ':') (s.toList ++ ':' :: rest) = (s.toList, ':' :: rest) :=
    Text.spanUntil_append_cons hcolon rfl
  have hwhole : (Text.spanUntil (· == ':') text').1 ++ (Text.spanUntil (· == ':') text').2 = text' :=
    List.takeWhile_append_dropWhile
  obtain ⟨ds, hds⟩ := markOf_starts hw
  rcases h.spanUntil rfl rfl (hwords word hw) (hwords word' hw') rfl with
    ⟨hsame, hrest⟩ | ⟨front, after, after', hafter, hold, hnew⟩
  · rw [hspan] at hsame hrest
    obtain ⟨rest', hrest', hrewrites⟩ := hrest.of_cons ⟨'p', ds, hds, by decide⟩
    refine ⟨s, rest', hs, ?_, hrewrites, rfl⟩
    rw [← hwhole, ← hsame, hrest']
  · rw [hspan] at hold
    obtain ⟨hscheme, hslashes⟩ := Prod.mk.inj hold
    injection hslashes with _ hslashes
    rw [← String.ofList_toList (s := s), hscheme] at hs
    refine ⟨String.ofList (front ++ word'), '/' :: '/' :: after', isScheme_append hw' hs, ?_, ?_, ?_⟩
    · rw [← hwhole, hnew, String.toList_ofList]
      rfl
    · rw [hslashes]
      exact hafter.prepend ['/', '/']
    · rw [String.toList_ofList, hscheme]
      exact isSupportedScheme_append hw' hw front

/-- An authority stays as it is, or another word stands at its end. -/
theorem authority_of_rewrites (hw : word ∈ schemeWords) (hw' : word' ∈ schemeWords)
    (h : Rewrites (markOf word) (markOf word') text text') :
    (Text.spanUntil Url.endsAuthority text).1 = (Text.spanUntil Url.endsAuthority text').1 ∨
      ∃ front, (Text.spanUntil Url.endsAuthority text).1 = front ++ (word ++ [':']) ∧
        (Text.spanUntil Url.endsAuthority text').1 = front ++ (word' ++ [':']) := by
  have hwords : ∀ word ∈ schemeWords, ∀ c ∈ word ++ [':'], Url.endsAuthority c = false :=
    forall_mem_schemeWords.2 ⟨Text.forall_mem_of_all (by decide), Text.forall_mem_of_all (by decide)⟩
  have hmark (word : List Char) : markOf word = (word ++ [':']) ++ '/' :: ['/'] := by simp [markOf]
  rcases h.spanUntil (hmark word) (hmark word') (hwords word hw) (hwords word' hw') rfl with
    ⟨hsame, -⟩ | ⟨front, after, after', -, hold, hnew⟩
  · exact .inl hsame
  · exact .inr ⟨front, by rw [hold], by rw [hnew]⟩

/-! ## Servers -/

/-- The URL is in order, its scheme is supported, and it has a host and a port that is read. -/
structure Reaches (u : Url) : Prop where
  checked : Url.checkAuthority u.authority = .ok ()
  scheme : isSupportedScheme u.scheme = true
  host : u.host?.isSome = true
  port : ∃ port, u.port = .ok port

/-- What a URL reaches is said by its scheme and its authority. -/
theorem Reaches.congr (h : Reaches u) (hscheme : isSupportedScheme v.scheme = isSupportedScheme u.scheme)
    (hauthority : v.authority = u.authority) : Reaches v where
  checked := by
    rw [hauthority]
    exact h.checked
  scheme := hscheme.trans h.scheme
  host := by
    rw [Url.isSome_host?_iff, Url.hostAndPort_congr hauthority]
    exact Url.isSome_host?_iff.1 h.host
  port := by
    rw [Url.port_congr (Url.hostAndPort_congr hauthority)]
    exact h.port

theorem Reaches.ending {front e e' : List Char} (h : Reaches u) (he : IsEnding e) (he' : IsEnding e')
    (hu : u.authority = front ++ e) (hv : v.authority = front ++ e')
    (hscheme : isSupportedScheme v.scheme = isSupportedScheme u.scheme) : Reaches v := by
  obtain ⟨port, hport⟩ := h.port
  rcases Url.hostAndPort_ending front with ⟨digits, hall⟩ | ⟨present, hall⟩
  · exact absurd hport (Url.port_of_ending he (hall u e he hu) port)
  · have hhost : v.hostAndPort.1 ≠ [] :=
      (hall v e' he' hv).2.2 ((hall u e he hu).2.1 (Url.isSome_host?_iff.1 h.host))
    refine ⟨?_, hscheme.trans h.scheme, Url.isSome_host?_iff.2 hhost, none, ?_⟩
    · rw [hv, Url.checkAuthority_ending he' he, ← hu]
      exact h.checked
    · exact Url.port_of_nil (hall v e' he' hv).1

theorem Reaches.of_rewrites (hw : word ∈ schemeWords) (hw' : word' ∈ schemeWords)
    (h : Rewrites (markOf word) (markOf word') text text') (hreaches : Reaches (ofChars text)) :
    Reaches (ofChars text') := by
  have hne : (Url.cutScheme text).1 ≠ "" := by
    intro hempty
    have hscheme := hreaches.scheme
    change isSupportedScheme (Url.cutScheme text).1 = true at hscheme
    rw [hempty] at hscheme
    exact absurd hscheme (by decide)
  obtain ⟨s, rest, hs, rfl, hcut⟩ := Url.exists_of_cutScheme hne
  obtain ⟨s', rest', hs', rfl, hrest, hsupported⟩ := scheme_of_rewrites hw hw' hs h
  have hauthority := Url.authority_ne_nil hreaches.host
  unfold ofChars at hauthority
  rw [Url.cutScheme_append hs] at hauthority
  obtain ⟨after, rfl⟩ := Url.exists_slashes hauthority
  obtain ⟨ds, hds⟩ := markOf_starts hw
  obtain ⟨rest₁, rfl, hrest₁⟩ := hrest.of_cons ⟨'p', ds, hds, by decide⟩
  obtain ⟨after', rfl, hafter⟩ := hrest₁.of_cons ⟨'p', ds, hds, by decide⟩
  have hold := Url.ofChars_slashes hs after
  have hnew := Url.ofChars_slashes hs' after'
  have hscheme : isSupportedScheme (ofChars (s'.toList ++ ':' :: '/' :: '/' :: after')).scheme =
      isSupportedScheme (ofChars (s.toList ++ ':' :: '/' :: '/' :: after)).scheme := by
    rw [hold.1, hnew.1, hsupported]
  rcases authority_of_rewrites hw hw' hafter with hsame | ⟨front, hfront, hfront'⟩
  · refine hreaches.congr hscheme ?_
    rw [hold.2, hnew.2, hsame]
  · exact hreaches.ending (isEnding_of_mem hw) (isEnding_of_mem hw') (hold.2.trans hfront)
      (hnew.2.trans hfront') hscheme

/-- The URL without its driver reaches a server exactly if the URL does. -/
theorem reaches_withoutDriver_iff (text : String) :
    Reaches (ofChars (cleaned (withoutDriver text))) ↔ Reaches (ofChars (cleaned text)) :=
  ⟨Reaches.of_rewrites (by decide) (by decide) (rewrites_cleaned text).symm,
    Reaches.of_rewrites (by decide) (by decide) (rewrites_cleaned text)⟩

end QueryPlans.Target
