import Mathlib.Data.List.Basic
import QueryPlans.Proofs.Text.Pieces
import QueryPlans.Proofs.Url.Escapes
import QueryPlans.Url.Address

/-!
# Characters of internet addresses

An internet address has no marks of a URL but colons: it is made of digits, colons and points.

* `IsHex`, `IsLiteral` — a hexadecimal digit; a character of an address.

Principal results: `digit_or_point_of_ipv4?`, `literal_of_ipv6?` — the characters of an address that is read;
`literal_of_ipv6Text` — those of one that is written.
-/

namespace QueryPlans.Url

variable {c : Char} {text piece : List Char} {pieces : List (List Char)} {n : Nat} {ns : List Nat}

/-- A hexadecimal digit in either case. -/
def IsHex (c : Char) : Prop := (Text.hexDigitValue? c).isSome = true

instance (c : Char) : Decidable (IsHex c) := inferInstanceAs (Decidable (_ = true))

/-- A character of an address. -/
def IsLiteral (c : Char) : Prop := IsHex c ∨ c = ':' ∨ c = '.'

instance (c : Char) : Decidable (IsLiteral c) := inferInstanceAs (Decidable (_ ∨ _))

theorem IsLiteral.ne {mark : Char} (h : IsLiteral c) (hmark : ¬ IsLiteral mark) : c ≠ mark := by
  rintro rfl
  exact hmark h

theorem IsHex.bounds (h : IsHex c) :
    (0x30 ≤ c.toNat ∧ c.toNat ≤ 0x39) ∨ (0x41 ≤ c.toNat ∧ c.toNat ≤ 0x46) ∨
      (0x61 ≤ c.toNat ∧ c.toNat ≤ 0x66) := by
  unfold IsHex Text.hexDigitValue? at h
  simp only [Bool.and_eq_true, decide_eq_true_eq] at h
  split at h
  · exact .inl ‹_›
  split at h
  · exact .inr (.inl ‹_›)
  split at h
  · exact .inr (.inr ‹_›)
  · cases h

theorem isHex_of_isDigit (h : c.isDigit = true) : IsHex c := by
  rw [isDigit_iff] at h
  simp [IsHex, Text.hexDigitValue?, h]

theorem IsHex.isUnreserved (h : IsHex c) : isUnreserved c = true := by
  have halpha : c.isAlphanum = true := by
    rw [isAlphanum_iff, isAlpha_iff, isUpper_iff, isLower_iff, isDigit_iff]
    have hbounds := h.bounds
    omega
  simp [Url.isUnreserved, halpha]

/-! ## Reading -/

/-- Where every item of a list is read, each of them is. -/
theorem exists_of_mapM {α β : Type} {f : α → Option β} {as : List α} {bs : List β}
    (h : as.mapM f = some bs) : ∀ a ∈ as, ∃ b, f a = some b := by
  induction as generalizing bs with
  | nil =>
    intro a ha
    cases ha
  | cons a as ih =>
    rw [List.mapM_cons] at h
    obtain ⟨b, hb, hrest⟩ := Option.bind_eq_some_iff.1 h
    obtain ⟨bs', hbs, -⟩ := Option.bind_eq_some_iff.1 hrest
    intro d hd
    rcases List.mem_cons.1 hd with rfl | hd
    · exact ⟨b, hb⟩
    · exact ih hbs d hd

theorem isDigit_of_octet? (h : octet? text = some n) : ∀ c ∈ text, c.isDigit = true := by
  unfold octet? at h
  split at h
  · cases h
  rename_i hshape
  simp only [Bool.or_eq_true, not_or, Bool.not_eq_true, Bool.not_eq_false'] at hshape
  exact List.all_eq_true.1 hshape.2

theorem digit_or_point_of_ipv4? (h : ipv4? text = some ns) :
    ∀ c ∈ text, c.isDigit = true ∨ c = '.' := by
  unfold ipv4? at h
  split at h
  · rename_i first second third last hpieces
    intro c hc
    rcases Text.mem_of_splitOn '.' hc with rfl | ⟨piece, hpiece, hmem⟩
    · exact .inr rfl
    · rw [hpieces] at hpiece
      obtain ⟨n, hn⟩ := exists_of_mapM h piece hpiece
      exact .inl (isDigit_of_octet? hn c hmem)
  · cases h

/-- A text with a colon is no address of four numbers. -/
theorem ipv4?_of_colon (h : ':' ∈ text) : ipv4? text = none := by
  rw [Option.eq_none_iff_forall_ne_some]
  intro ns hread
  exact absurd (digit_or_point_of_ipv4? hread ':' h) (by decide)

theorem hex_of_group? (h : group? text = some n) : ∀ c ∈ text, IsHex c := by
  unfold group? at h
  split at h
  · cases h
  obtain ⟨values, hvalues, -⟩ := Option.map_eq_some_iff.1 h
  intro c hc
  obtain ⟨v, hv⟩ := exists_of_mapM hvalues c hc
  simp [IsHex, hv]

theorem hex_of_groups (h : pieces.mapM group? = some ns) : ∀ piece ∈ pieces, ∀ c ∈ piece, IsHex c := by
  intro piece hpiece
  obtain ⟨n, hn⟩ := exists_of_mapM h piece hpiece
  exact hex_of_group? hn

theorem hex_of_groupsBeside? {outer : Option (List Char)} (houter : ∀ piece, pieces = [piece] → outer = piece)
    (h : groupsBeside? pieces outer = some ns) : ∀ piece ∈ pieces, ∀ c ∈ piece, IsHex c := by
  unfold groupsBeside? at h
  split at h
  · rename_i hempty
    split at h
    · rename_i hlength
      obtain ⟨piece, rfl⟩ := List.length_eq_one_iff.1 hlength
      have hpiece : piece = [] := Option.some.inj ((houter piece rfl).symm.trans hempty)
      simp [hpiece]
    · cases h
  · exact hex_of_groups h

/-- The pieces of an address are those that are read as groups, but for numbers in the last one. -/
theorem piece_of_ipv6Parts? (h : ipv6Parts? text = some pieces) :
    ∀ piece ∈ Text.splitOn ':' text, piece ∈ pieces ∨ ∃ ns, ipv4? piece = some ns := by
  unfold ipv6Parts? at h
  intro piece hpiece
  dsimp only at h
  split at h
  · cases h
  rename_i last hlast
  split at h
  · obtain ⟨ns, hns, hgroups⟩ := Option.bind_eq_some_iff.1 h
    rw [← List.dropLast_append_getLast? last hlast, List.mem_append, List.mem_singleton] at hpiece
    rcases hpiece with hfirst | rfl
    · left
      split at hgroups
      · injection hgroups with hgroups
        rw [← hgroups]
        exact List.mem_append_left _ hfirst
      · cases hgroups
    · exact .inr ⟨ns, hns⟩
  · injection h with h
    exact .inl (h ▸ hpiece)

/-- A gap between groups leaves those in front of it and those behind it. -/
theorem piece_beside_gap {i : Nat} (h : ((pieces.drop 1).dropLast).findIdx? (·.isEmpty) = some i) :
    ∀ piece ∈ pieces, piece ∈ pieces.take (i + 1) ∨ piece = [] ∨ piece ∈ pieces.drop (i + 2) := by
  obtain ⟨hi, hempty, -⟩ := List.findIdx?_eq_some_iff_getElem.1 h
  have hlength : i + 1 < pieces.length := by
    rw [List.length_dropLast, List.length_drop] at hi
    omega
  have hgap : pieces[i + 1] = [] := by
    rw [List.isEmpty_iff, List.getElem_dropLast, List.getElem_drop] at hempty
    simpa only [Nat.add_comm 1 i] using hempty
  intro piece hpiece
  rw [← List.take_append_drop (i + 1) pieces, List.mem_append, List.drop_eq_getElem_cons hlength,
    List.mem_cons, hgap] at hpiece
  exact hpiece

theorem literal_of_ipv6? (h : ipv6? text = some ns) : ∀ c ∈ text, IsLiteral c := by
  unfold ipv6? at h
  simp only [Option.bind_eq_bind, Option.bind_none, Option.pure_def] at h
  split at h
  · cases h
  obtain ⟨pieces, hpieces, h⟩ := Option.bind_eq_some_iff.1 h
  have hhex : ∀ piece ∈ pieces, ∀ c ∈ piece, IsHex c := by
    split at h
    · cases h
    split at h
    · split at h
      · exact hex_of_groups h
      · cases h
    rename_i i hgap
    split at h
    · cases h
    obtain ⟨high, hhigh, h⟩ := Option.bind_eq_some_iff.1 h
    obtain ⟨low, hlow, -⟩ := Option.bind_eq_some_iff.1 h
    intro piece hpiece
    rcases piece_beside_gap hgap piece hpiece with hbefore | rfl | hafter
    · refine hex_of_groupsBeside? (fun only honly => ?_) hhigh piece hbefore
      rw [honly]
      rfl
    · intro c hc
      cases hc
    · refine hex_of_groupsBeside? (fun only honly => ?_) hlow piece hafter
      rw [honly]
      rfl
  intro c hc
  rcases Text.mem_of_splitOn ':' hc with rfl | ⟨piece, hpiece, hmem⟩
  · exact .inr (.inl rfl)
  rcases piece_of_ipv6Parts? hpieces piece hpiece with hgroup | ⟨numbers, hnumbers⟩
  · exact .inl (hhex piece hgroup c hmem)
  · rcases digit_or_point_of_ipv4? hnumbers c hmem with hdigit | rfl
    · exact .inl (isHex_of_isDigit hdigit)
    · exact .inr (.inr rfl)

/-! ## Writing -/

theorem hex_of_toDigits (h : c ∈ Nat.toDigits 16 n) : IsHex c := by
  have hall : ∀ d < 16, IsHex d.digitChar := by decide
  induction n using Nat.strongRecOn with
  | ind n ih =>
    rw [Nat.toDigits_eq_if (by decide)] at h
    split at h
    · rename_i hsmall
      rw [List.mem_singleton.1 h]
      exact hall n hsmall
    · rename_i hlarge
      rcases List.mem_append.1 h with hfirst | hlast
      · exact ih (n / 16) (by omega) hfirst
      · rw [List.mem_singleton.1 hlast]
        exact hall _ (Nat.mod_lt n (by decide))

theorem literal_of_joined {pieces : List String} (h : ∀ piece ∈ pieces, ∀ c ∈ piece.toList, IsHex c) :
    ∀ c ∈ (Text.joined ":" pieces).toList, IsLiteral c := by
  induction pieces with
  | nil =>
    intro c hc
    simp at hc
  | cons first rest ih =>
    cases rest with
    | nil => exact fun c hc => .inl (h first List.mem_cons_self c hc)
    | cons second rest =>
      intro c hc
      rw [Text.joined_cons_cons, String.toList_append, String.toList_append, List.mem_append,
        List.mem_append] at hc
      rcases hc with (hfirst | hcolon) | hrest
      · exact .inl (h first List.mem_cons_self c hfirst)
      · exact .inr (.inl (List.mem_singleton.1 hcolon))
      · exact ih (fun piece hpiece => h piece (List.mem_cons_of_mem _ hpiece)) c hrest

theorem literal_of_ipv6Text (h : c ∈ (ipv6Text ns).toList) : IsLiteral c := by
  have hgroups (gs : List Nat) :
      ∀ c ∈ (Text.joined ":" (gs.map fun g => String.ofList (Nat.toDigits 16 g))).toList, IsLiteral c := by
    apply literal_of_joined
    intro piece hpiece c hc
    obtain ⟨g, -, rfl⟩ := List.mem_map.1 hpiece
    rw [String.toList_ofList] at hc
    exact hex_of_toDigits hc
  unfold ipv6Text at h
  dsimp only at h
  split at h
  · exact hgroups ns c h
  · rw [String.toList_append, String.toList_append, List.mem_append, List.mem_append] at h
    rcases h with (hstart | hgap) | hend
    · exact hgroups _ c hstart
    · have hcolons : ∀ c ∈ "::".toList, IsLiteral c := Text.forall_mem_of_all (by decide)
      exact hcolons c hgap
    · exact hgroups _ c hend

end QueryPlans.Url
