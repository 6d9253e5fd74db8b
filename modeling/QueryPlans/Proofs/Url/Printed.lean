import QueryPlans.Proofs.Url.Hosts
import QueryPlans.Proofs.Url.Literals
import QueryPlans.Url.Normal

/-!
# URLs in normal form, taken apart

A URL that was read is written in normal form, and what is written is taken apart again.  Its authority is
the one that was read, and its port is a number or is left out.

* `Authority.Sound`, `NormalUrl.Sound` — no part has a mark that would end it.

Principal results: `read_sound` — every URL that was read is so; `Sound.port` — the port of its written
form is its port.
-/

namespace QueryPlans

open Url (HostWritten InName IsLiteral IsSafe IsScheme Stays endsAuthority greatestPort isDropped ofChars
  portText)

variable {c : Char} {keep : Char → Bool} {part cs : List Char} {a : Authority} {u : NormalUrl}

theorem Url.stays_of_isLiteral (h : IsLiteral c) : Stays c := by
  rcases h with h | rfl | rfl
  · exact Url.stays_of_isSafe (.inl h.isUnreserved)
  · decide
  · decide

/-! ## Sound parts -/

/-- No part of the authority has a mark that would end it, and the port is not too large. -/
structure Authority.Sound (a : Authority) : Prop where
  user : ∀ c ∈ a.user.toList, Stays c
  password : ∀ c ∈ a.password.toList, Stays c
  host : HostWritten a.host
  port : ∀ n ∈ a.port, n ≤ greatestPort

namespace NormalUrl

/-- What stands behind the path. -/
def behindPath (u : NormalUrl) : String :=
  u.query.elim "" ("?" ++ ·) ++ u.fragment.elim "" ("#" ++ ·)

/-- What stands behind the authority. -/
def tail (u : NormalUrl) : String := u.path ++ u.behindPath

/-- The scheme is one, the parts of the authority are sound, and without an authority nothing looks like
one. -/
structure Sound (u : NormalUrl) : Prop where
  scheme : IsScheme u.scheme
  authority : ∀ a ∈ u.authority, a.Sound
  rooted : u.authority.isSome = true → u.path = "" ∨ ∃ rest, u.path.toList = '/' :: rest
  bare : u.authority = none → ∀ after, u.path.toList ≠ '/' :: '/' :: after
  tail : ∀ c ∈ u.tail.toList, isDropped c = false

/-! ## Reading -/

theorem mem_escaped (h : c ∈ (escaped keep part).toList) : (c ∈ part ∧ keep c = true) ∨ IsSafe c := by
  unfold escaped Url.escape at h
  rw [String.toList_ofList, String.toList_ofList, List.mem_flatMap] at h
  obtain ⟨d, hd, hc⟩ := h
  unfold Url.escapeChar at hc
  split at hc
  · rename_i hkept
    rw [List.mem_singleton] at hc
    subst hc
    exact .inl ⟨hd, hkept⟩
  · obtain ⟨b, hb, hmem⟩ := List.mem_flatMap.1 hc
    exact .inr (Url.safe_of_mem_escapeByte hmem (Url.lt_of_mem_utf8Bytes hb))

/-- Escaped texts have no characters that are dropped. -/
theorem isDropped_of_mem_escaped (hkeep : ∀ c, keep c = true → Url.isPlain c = true)
    (h : c ∈ (escaped keep part).toList) : isDropped c = false := by
  rcases mem_escaped h with ⟨-, hkept⟩ | hsafe
  · exact Url.isDropped_of_isPlain (hkeep c hkept)
  · exact (Url.stays_of_isSafe hsafe).2

theorem isPlain_of_keptInFragment (h : keptInFragment c = true) : Url.isPlain c = true :=
  (Bool.and_eq_true_iff.1 h).1

theorem isPlain_of_keptInPath (h : keptInPath c = true) : Url.isPlain c = true :=
  isPlain_of_keptInFragment (Bool.and_eq_true_iff.1 h).1

theorem isPlain_of_keptInQuery (h : keptInQuery c = true) : Url.isPlain c = true :=
  (Bool.and_eq_true_iff.1 h).1

theorem stays_of_keptInUserInfo (h : keptInUserInfo c = true) : Stays c := by
  have hpath := (Bool.and_eq_true_iff.1 h).1
  refine Url.stays_of_isPlain (isPlain_of_keptInPath hpath) ?_
  rw [← Bool.not_eq_true]
  intro hend
  simp only [Url.endsAuthority, Bool.or_eq_true, beq_iff_eq] at hend
  rcases hend with (rfl | rfl) | rfl
  all_goals exact absurd h (by decide)

theorem stays_of_mem_userInfo (h : c ∈ (escaped keptInUserInfo part).toList) : Stays c := by
  rcases mem_escaped h with ⟨-, hkept⟩ | hsafe
  · exact stays_of_keptInUserInfo hkept
  · exact Url.stays_of_isSafe hsafe

theorem readUserInfo_stays (info : Option (List Char)) :
    (∀ c ∈ (readUserInfo info).1.toList, Stays c) ∧ ∀ c ∈ (readUserInfo info).2.toList, Stays c := by
  cases info with
  | none => simp [readUserInfo]
  | some info => exact ⟨fun c => stays_of_mem_userInfo, fun c => stays_of_mem_userInfo⟩

theorem readHost_written {host : String} (h : readHost part = .ok host) : HostWritten host := by
  unfold readHost at h
  split at h
  · split at h
    · split at h
      · injection h with h
        refine .inr ⟨_, h.symm, fun c hc => ?_⟩
        have hliteral := Url.literal_of_ipv6Text hc
        exact ⟨Url.stays_of_isLiteral hliteral, hliteral.ne (by decide), hliteral.ne (by decide)⟩
      · cases h
    · cases h
  split at h
  · cases h
  rename_i hallowed
  injection h with h
  subst h
  refine .inl fun c hc => ?_
  rcases mem_escaped hc with ⟨hmem, hkept⟩ | hsafe
  · have hfree : isForbiddenInHost c = false := by
      simp only [Bool.not_eq_true, List.any_eq_false] at hallowed
      simpa using hallowed c hmem
    have hne {mark : Char} (hmark : isForbiddenInHost mark = true) : c ≠ mark := by
      rintro rfl
      rw [hmark] at hfree
      cases hfree
    refine ⟨Url.stays_of_isPlain hkept ?_, hne (by decide), hne (by decide), hne (by decide)⟩
    rw [← Bool.not_eq_true]
    intro hend
    simp only [Url.endsAuthority, Bool.or_eq_true, beq_iff_eq] at hend
    rcases hend with (rfl | rfl) | rfl
    all_goals exact absurd rfl (hne (by decide))
  · exact Url.inName_of_isSafe hsafe

theorem readPort_le {port : Option Nat} {extra : List Char} (h : readPort part = .ok (port, extra)) :
    ∀ n ∈ port, n ≤ greatestPort := by
  unfold readPort at h
  split at h
  · dsimp only at h
    split at h
    · cases h
    split at h
    · cases h
    rename_i hsmall
    injection h with h
    obtain ⟨rfl, -⟩ := Prod.mk.inj h
    intro n hn
    split at hn
    · cases hn
    · cases hn
      exact Nat.not_lt.1 hsmall
  · injection h with h
    obtain ⟨rfl, -⟩ := Prod.mk.inj h
    intro n hn
    cases hn

theorem readAuthority_sound {web : Bool} {rest extra : List Char}
    (h : readAuthority web part rest = .ok (a, extra)) : a.Sound := by
  unfold readAuthority at h
  simp only [bind, Except.bind, throw, throwThe, MonadExceptOf.throw, pure, Except.pure] at h
  split at h
  · cases h
  split at h
  · cases h
  split at h
  · cases h
  rename_i host hhost
  split at h
  · cases h
  split at h
  · cases h
  rename_i port hport
  split at h
  · cases h
  cases h
  have hinfo := readUserInfo_stays (Text.cutLast '@' part).1
  exact ⟨hinfo.1, hinfo.2, readHost_written hhost, readPort_le hport⟩

/-! ### Paths -/

theorem resolveDots_subset (before segments : List String) :
    ∀ s ∈ resolveDots before segments, s = "" ∨ s ∈ before ∨ s ∈ segments := by
  induction segments generalizing before with
  | nil =>
    intro s hs
    exact .inr (.inl (List.mem_reverse.1 hs))
  | cons segment rest ih =>
    intro s hs
    have hdrop : ∀ t ∈ before.drop 1, t ∈ before := fun t => List.mem_of_mem_drop
    unfold resolveDots at hs
    split_ifs at hs
    all_goals
      have hcases := ih _ s hs
      grind

theorem isDropped_of_mem_joined {pieces : List String}
    (h : ∀ piece ∈ pieces, ∀ c ∈ piece.toList, isDropped c = false) :
    ∀ c ∈ (Text.joined "/" pieces).toList, isDropped c = false := by
  induction pieces with
  | nil =>
    intro c hc
    simp at hc
  | cons first rest ih =>
    cases rest with
    | nil => exact h first List.mem_cons_self
    | cons second rest =>
      intro c hc
      rw [Text.joined_cons_cons, String.toList_append, String.toList_append, List.mem_append,
        List.mem_append] at hc
      rcases hc with (hfirst | hslash) | hrest
      · exact h first List.mem_cons_self c hfirst
      · rw [List.mem_singleton.1 hslash]
        rfl
      · exact ih (fun piece hpiece => h piece (List.mem_cons_of_mem _ hpiece)) c hrest

theorem readPath_rooted (path : List Char) :
    readPath path = "" ∨ ∃ rest, (readPath path).toList = '/' :: rest := by
  unfold readPath
  split
  · exact .inl rfl
  · right
    rw [String.toList_append]
    exact ⟨_, rfl⟩

theorem isDropped_of_mem_readPath {path : List Char} : ∀ c ∈ (readPath path).toList, isDropped c = false := by
  unfold readPath
  split
  · intro c hc
    cases hc
  intro c hc
  rw [String.toList_append, List.mem_append] at hc
  rcases hc with hslash | hrest
  · rw [List.mem_singleton.1 hslash]
    rfl
  refine isDropped_of_mem_joined (fun segment hsegment => ?_) c hrest
  rcases resolveDots_subset _ _ segment hsegment with rfl | hnone | hmem
  · intro c hc
    cases hc
  · cases hnone
  · obtain ⟨piece, -, rfl⟩ := List.mem_map.1 hmem
    exact fun c => isDropped_of_mem_escaped fun c => isPlain_of_keptInPath

/-- A path without an authority that looks like one was written so. -/
theorem slashes_of_escaped {after : List Char} (h : (escaped keptInHost part).toList = '/' :: '/' :: after) :
    ∃ rest, part = '/' :: '/' :: rest := by
  have hslash {d : Char} {ds rest : List Char}
      (h : Url.escapeChar keptInHost d ++ ds = '/' :: rest) : d = '/' ∧ ds = rest := by
    unfold Url.escapeChar at h
    split at h
    · obtain ⟨rfl, rfl⟩ := List.cons.inj h
      exact ⟨rfl, rfl⟩
    -- the text of an escape starts with a percent sign
    · obtain ⟨b, bytes, hbytes⟩ := Url.exists_utf8Bytes d
      rw [hbytes] at h
      injection h with hd
      exact absurd hd (by decide)
  unfold escaped Url.escape at h
  rw [String.toList_ofList, String.toList_ofList] at h
  cases part with
  | nil => cases h
  | cons c part =>
    rw [List.flatMap_cons] at h
    obtain ⟨hfirst, hrest⟩ := hslash h
    cases part with
    | nil => cases hrest
    | cons d part =>
      rw [List.flatMap_cons] at hrest
      obtain ⟨hsecond, -⟩ := hslash hrest
      exact ⟨part, by rw [hfirst, hsecond]⟩

theorem cutTail_prefix (rest : List Char) : (cutTail rest).1 <+: rest :=
  Text.cut_prefix.trans Text.cut_prefix

/-! ### The whole -/

theorem isScheme_toLower {s : String} (h : IsScheme s) :
    IsScheme (String.ofList (s.toList.map Char.toLower)) := by
  have hascii {c : Char} (hc : Url.isSchemeChar c = true) : c.toNat < 0x80 := by
    simp only [Url.isSchemeChar, Bool.or_eq_true, beq_iff_eq, Url.isAlphanum_iff, Url.isAlpha_iff,
      Url.isUpper_iff, Url.isLower_iff, Url.isDigit_iff] at hc
    rcases hc with (((h | h) | rfl) | rfl) | rfl
    · omega
    · omega
    all_goals decide
  have hall : ∀ n < 0x80, (Url.isSchemeChar (Char.ofNat n) = true →
      Url.isSchemeChar (Char.ofNat n).toLower = true) ∧
        ((Char.ofNat n).isAlpha = true → (Char.ofNat n).toLower.isAlpha = true) := by decide
  have hlower {c : Char} (hc : Url.isSchemeChar c = true) := hall c.toNat (hascii hc)
  simp only [Char.ofNat_toNat] at hlower
  have hchars := h.isSchemeChar
  obtain ⟨c, cs, htext, hletter, hrest⟩ := h
  refine ⟨c.toLower, cs.map Char.toLower, by simp [htext], ?_, ?_⟩
  · exact (hlower (hchars c (by simp [htext]))).2 hletter
  · intro d hd
    obtain ⟨b, hb, rfl⟩ := List.mem_map.1 hd
    exact (hlower (hrest b hb)).1 (hrest b hb)

/-- What a URL that was read is made of. -/
theorem exists_of_read {text : String} (h : read text = .ok u) :
    (∃ s, IsScheme s ∧ u.scheme = String.ofList (s.toList.map Char.toLower)) ∧
      ((∃ web part rest a extra front, readAuthority web part rest = .ok (a, extra) ∧
          u.authority = some a ∧ u.path = readPath front) ∨
        (u.authority = none ∧ ∃ rest, (∀ after, rest ≠ '/' :: '/' :: after) ∧
          u.path = escaped keptInHost (cutTail rest).1)) ∧
      ∃ query fragment : Option (List Char), u.query = query.map (escaped keptInQuery) ∧
        u.fragment = fragment.map (escaped keptInFragment) := by
  unfold read at h
  simp only [bind, Except.bind, throw, throwThe, MonadExceptOf.throw, pure, Except.pure] at h
  split at h
  · cases h
  split at h
  · cases h
  rename_i hne
  obtain ⟨s, after, hs, -, hcut⟩ := Url.exists_of_cutScheme hne
  rw [hcut] at h
  split at h
  · split at h
    · cases h
    rename_i hauthority
    cases h
    exact ⟨⟨s, hs, rfl⟩, .inl ⟨_, _, _, _, _, _, hauthority, rfl, rfl⟩, _, _, rfl, rfl⟩
  · rename_i hparts
    cases h
    refine ⟨⟨s, hs, rfl⟩, .inr ⟨rfl, after, ?_, rfl⟩, _, _, rfl, rfl⟩
    rintro rest rfl
    split at hparts <;> cases hparts

/-- No part of a URL that was read has a mark that would end it. -/
theorem read_sound {text : String} (h : read text = .ok u) : u.Sound := by
  obtain ⟨⟨s, hs, hscheme⟩, hfront, query, fragment, hquery, hfragment⟩ := exists_of_read h
  have hpath : ∀ c ∈ u.path.toList, isDropped c = false := by
    rcases hfront with ⟨_, _, _, _, _, front, -, -, hpath⟩ | ⟨-, rest, -, hpath⟩
    · rw [hpath]
      exact isDropped_of_mem_readPath
    · rw [hpath]
      exact fun c => isDropped_of_mem_escaped fun c hc => hc
  refine ⟨hscheme ▸ isScheme_toLower hs, ?_, ?_, ?_, ?_⟩
  · intro a ha
    rcases hfront with ⟨_, _, _, b, _, _, hread, hb, -⟩ | ⟨hnone, -⟩
    · rw [hb] at ha
      cases ha
      exact readAuthority_sound hread
    · rw [hnone] at ha
      cases ha
  · intro hsome
    rcases hfront with ⟨_, _, _, _, _, front, -, -, hpath⟩ | ⟨hnone, -⟩
    · rw [hpath]
      exact readPath_rooted front
    · rw [hnone] at hsome
      cases hsome
  · intro hnone after hslashes
    rcases hfront with ⟨_, _, _, _, _, _, -, hsome, -⟩ | ⟨-, rest, hrest, hpath⟩
    · rw [hnone] at hsome
      cases hsome
    rw [hpath] at hslashes
    obtain ⟨front, hfront⟩ := slashes_of_escaped hslashes
    obtain ⟨behind, hbehind⟩ := cutTail_prefix rest
    rw [hfront] at hbehind
    exact hrest _ hbehind.symm
  · intro c hc
    have hmark : ∀ c ∈ "?".toList ++ "#".toList, isDropped c = false :=
      Text.forall_mem_of_all (by decide)
    rw [tail, behindPath, hquery, hfragment] at hc
    simp only [String.toList_append, List.mem_append] at hc
    rcases hc with hc | hc | hc
    · exact hpath c hc
    · cases query with
      | none => cases hc
      | some query =>
        simp only [Option.map_some, Option.elim_some, String.toList_append, List.mem_append] at hc
        rcases hc with hc | hc
        · exact hmark c (List.mem_append_left _ hc)
        · exact isDropped_of_mem_escaped (fun c => isPlain_of_keptInQuery) hc
    · cases fragment with
      | none => cases hc
      | some fragment =>
        simp only [Option.map_some, Option.elim_some, String.toList_append, List.mem_append] at hc
        rcases hc with hc | hc
        · exact hmark c (List.mem_append_right _ hc)
        · exact isDropped_of_mem_escaped (fun c => isPlain_of_keptInFragment) hc

end NormalUrl

/-! ## Taking apart again -/

/-- User information as it is written, with the mark behind it. -/
def Authority.infoText (a : Authority) : String :=
  if a.user = "" ∧ a.password = "" then ""
  else a.user ++ (if a.password = "" then "" else ":" ++ a.password) ++ "@"

theorem Authority.text_eq (a : Authority) : a.text = a.infoText ++ a.host ++ portText a.port := rfl

namespace Authority.Sound

theorem stays_info (h : a.Sound) : ∀ c ∈ a.infoText.toList, Stays c := by
  intro c hc
  unfold Authority.infoText at hc
  split at hc
  · cases hc
  have hmark : ∀ c ∈ ":".toList ++ "@".toList, Stays c := Text.forall_mem_of_all (by decide)
  simp only [String.toList_append, List.mem_append] at hc
  rcases hc with (huser | hpassword) | hat
  · exact h.user c huser
  · split at hpassword
    · cases hpassword
    rw [String.toList_append, List.mem_append] at hpassword
    rcases hpassword with hcolon | hpassword
    · exact hmark c (List.mem_append_left _ hcolon)
    · exact h.password c hpassword
  · exact hmark c (List.mem_append_right _ hat)

theorem stays (h : a.Sound) : ∀ c ∈ a.text.toList, Stays c := by
  intro c hc
  rw [Authority.text_eq, String.toList_append, String.toList_append, List.mem_append,
    List.mem_append] at hc
  rcases hc with (hinfo | hhost) | hport
  · exact h.stays_info c hinfo
  · exact h.host.stays c hhost
  · exact Url.stays_of_mem_portText hport

/-- Host and port stand behind the last `@`. -/
theorem hostPart (h : a.Sound) :
    Url.hostPart a.text.toList = a.host.toList ++ (portText a.port).toList := by
  have hat : '@' ∉ a.host.toList ++ (portText a.port).toList := by
    rw [List.mem_append, not_or]
    exact ⟨h.host.notMem, Url.notMem_portText (by decide) (by decide)⟩
  unfold Url.hostPart
  rw [Authority.text_eq, String.toList_append, String.toList_append, List.append_assoc]
  unfold Authority.infoText
  split
  · exact Text.cutLast_append_of_notMem hat []
  · rw [String.toList_append, List.append_assoc]
    exact congrArg Prod.snd (Text.cutLast_append_cons hat)

theorem port_eq (h : a.Sound) {parts : Url} (hparts : parts.authority = a.text.toList) :
    parts.port = .ok a.port :=
  Url.port_of_written h.host (hparts ▸ h.hostPart) h.port

end Authority.Sound

namespace NormalUrl

theorem text_toList (u : NormalUrl) : u.text.toList =
    u.scheme.toList ++ ':' :: ((u.authority.elim "" fun a => "//" ++ a.text).toList ++ u.tail.toList) := by
  simp [text, tail, behindPath]

theorem Sound.cleaned (h : u.Sound) : Url.cleaned u.text = u.text.toList := by
  have hscheme := h.scheme.isSchemeChar
  obtain ⟨c, cs, htext, hletter, -⟩ := h.scheme
  refine Url.cleaned_eq_self ?_ fun d hd => ?_
  · rw [text_toList, htext]
    exact ⟨c, _, rfl, hletter⟩
  · rw [text_toList, List.mem_append, List.mem_cons, List.mem_append] at hd
    rcases hd with hd | rfl | hd | hd
    · exact Url.isDropped_eq_false (p := (Url.isSchemeChar · = true)) (hscheme d hd) (by decide)
        (by decide) (by decide)
    · decide
    · cases ha : u.authority with
      | none =>
        rw [ha] at hd
        cases hd
      | some a =>
        rw [ha, Option.elim_some, String.toList_append, List.mem_append] at hd
        rcases hd with hd | hd
        · have hslash : ∀ d ∈ "//".toList, isDropped d = false := Text.forall_mem_of_all (by decide)
          exact hslash d hd
        · exact ((h.authority a ha).stays d hd).2
    · exact h.tail d hd

theorem mark_of_behindPath (u : NormalUrl) : ∀ c ∈ u.behindPath.toList.head?, c = '?' ∨ c = '#' := by
  intro c hc
  unfold behindPath at hc
  cases hquery : u.query with
  | some query =>
    simp [hquery] at hc
    exact .inl hc.symm
  | none =>
    cases hfragment : u.fragment with
    | some fragment =>
      simp [hquery, hfragment] at hc
      exact .inr hc.symm
    | none => simp [hquery, hfragment] at hc

/-- What stands behind an authority begins with a mark that ends it. -/
theorem Sound.head_tail (h : u.Sound) (hsome : u.authority.isSome = true) :
    ∀ c ∈ u.tail.toList.head?, endsAuthority c = true := by
  intro c hc
  rw [NormalUrl.tail, String.toList_append] at hc
  rcases h.rooted hsome with hpath | ⟨rest, hpath⟩
  · rw [hpath, String.toList_empty, List.nil_append] at hc
    rcases mark_of_behindPath u c hc with rfl | rfl <;> rfl
  · rw [hpath, List.cons_append, List.head?_cons, Option.mem_some_iff] at hc
    rw [← hc]
    rfl

/-- Without an authority nothing looks like one. -/
theorem Sound.tail_ne (h : u.Sound) (hnone : u.authority = none) (after : List Char) :
    u.tail.toList ≠ '/' :: '/' :: after := by
  have hpath := h.bare hnone
  have hmark : ∀ rest, u.behindPath.toList ≠ '/' :: rest := by
    intro rest hslash
    rcases mark_of_behindPath u '/' (by rw [hslash]; rfl) with hc | hc
    all_goals exact absurd hc (by decide)
  intro hslashes
  rw [NormalUrl.tail, String.toList_append] at hslashes
  match hchars : u.path.toList with
  | [] =>
    rw [hchars] at hslashes
    exact hmark _ hslashes
  | [c] =>
    rw [hchars] at hslashes
    exact hmark _ (List.cons.inj hslashes).2
  | c :: d :: rest =>
    rw [hchars] at hslashes
    obtain ⟨rfl, hrest⟩ := List.cons.inj hslashes
    obtain ⟨rfl, -⟩ := List.cons.inj hrest
    exact hpath rest hchars

/-- The port of the written form is the port. -/
theorem Sound.port (h : u.Sound) :
    (ofChars (Url.cleaned u.text)).port = .ok (u.authority.bind Authority.port) := by
  rw [h.cleaned, text_toList]
  cases ha : u.authority with
  | none =>
    have hnil : (ofChars (u.scheme.toList ++ ':' :: u.tail.toList)).authority = [] := by
      by_contra hne
      unfold ofChars at hne
      rw [Url.cutScheme_append h.scheme] at hne
      obtain ⟨after, hafter⟩ := Url.exists_slashes hne
      exact h.tail_ne ha after hafter
    refine Url.port_of_nil ?_
    unfold Url.hostAndPort
    rw [Option.elim_none, String.toList_empty, List.nil_append, hnil]
    rfl
  | some a =>
    have hauthority := h.authority a ha
    have htext : ("//" ++ a.text).toList ++ u.tail.toList =
        '/' :: '/' :: (a.text.toList ++ u.tail.toList) := by simp
    refine hauthority.port_eq ?_
    rw [Option.elim_some, htext, Url.ofChars_append h.scheme (fun c hc => (hauthority.stays c hc).1)
      (h.head_tail (by rw [ha]; rfl))]

end NormalUrl

end QueryPlans
