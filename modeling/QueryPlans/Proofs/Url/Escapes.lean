import Mathlib.Data.List.Basic
import QueryPlans.Url.Percent

/-!
# Escaped texts, read back

A text whose characters were escaped, except for some that are kept, is read back as it was: the escapes
give the bytes of the characters, and these the characters.

* `utf8Bytes_eq` — the bytes of a character are those of its UTF-8 form.
* `escapeByByte`, `escape_eq_escapeByByte` — to escape a text is to escape it byte by byte.

Principal results: `decodeFrom_utf8Bytes`, `unescapedBytes_escapeChar` — one character; `unescape_escape` —
a whole text; `safe_of_mem_escape` — which characters an escaped text has.
-/

namespace QueryPlans.Url

variable {c : Char} {b : Nat} {bytes : List Nat} {rest : List Char} {keep : Char → Bool} {s : String}

/-! ## Letters and digits -/

theorem isUpper_iff : c.isUpper = true ↔ 0x41 ≤ c.toNat ∧ c.toNat ≤ 0x5A := by
  change decide ('A'.val ≤ c.val ∧ c.val ≤ 'Z'.val) = true ↔ _
  rw [decide_eq_true_eq]
  rfl

theorem isLower_iff : c.isLower = true ↔ 0x61 ≤ c.toNat ∧ c.toNat ≤ 0x7A := by
  change (decide ('a'.val ≤ c.val) && decide (c.val ≤ 'z'.val)) = true ↔ _
  rw [Bool.and_eq_true, decide_eq_true_eq, decide_eq_true_eq]
  rfl

theorem isDigit_iff : c.isDigit = true ↔ 0x30 ≤ c.toNat ∧ c.toNat ≤ 0x39 := by
  change (decide ('0'.val ≤ c.val) && decide (c.val ≤ '9'.val)) = true ↔ _
  rw [Bool.and_eq_true, decide_eq_true_eq, decide_eq_true_eq]
  rfl

theorem isAlpha_iff : c.isAlpha = true ↔ c.isUpper = true ∨ c.isLower = true := by
  change (c.isUpper || c.isLower) = true ↔ _
  rw [Bool.or_eq_true]

theorem isAlphanum_iff : c.isAlphanum = true ↔ c.isAlpha = true ∨ c.isDigit = true := by
  change (c.isAlpha || c.isDigit) = true ↔ _
  rw [Bool.or_eq_true]

/-! ## Bytes of a character -/

/-- A character is a code point below the surrogates or above them. -/
theorem toNat_valid (c : Char) : c.toNat < 0xD800 ∨ 0xDFFF < c.toNat ∧ c.toNat < 0x110000 := c.valid

/-- The bytes of a character are those of its UTF-8 form. -/
theorem utf8Bytes_eq (c : Char) : utf8Bytes c = (String.utf8EncodeChar c).map UInt8.toNat := by
  have hvalid := toNat_valid c
  have hval : c.val.toNat = c.toNat := rfl
  have hle (limit : Nat) : c.toNat ≤ limit ↔ c.toNat < limit + 1 := Nat.lt_succ_iff.symm
  unfold utf8Bytes String.utf8EncodeChar
  simp only [hval, hle, Nat.reduceAdd]
  split_ifs
  all_goals
    simp only [List.map_cons, List.map_nil, UInt8.toNat_ofNat', List.cons.injEq, and_true]
    omega

/-! ## Bytes that are read -/

/-- The last byte of a character. -/
theorem decodeFrom_last {low high value : Nat} (hlow : low ≤ b) (hhigh : b ≤ high) :
    decodeFrom (some ⟨0, low, high, value⟩) (b :: bytes) =
      Char.ofNat (value * 0x40 + b % 0x40) :: decodeFrom none bytes := by
  simp only [decodeFrom, takeByte, hlow, hhigh, and_self, ↓reduceIte]
  rfl

/-- A byte of a character that has more. -/
theorem decodeFrom_inner {more low high value : Nat} (hlow : low ≤ b) (hhigh : b ≤ high) :
    decodeFrom (some ⟨more + 1, low, high, value⟩) (b :: bytes) =
      decodeFrom (some ⟨more, 0x80, 0xBF, value * 0x40 + b % 0x40⟩) bytes := by
  simp only [decodeFrom, takeByte, hlow, hhigh, and_self, ↓reduceIte]
  rfl

/-- The first byte of a character that has more. -/
theorem decodeFrom_first {p : Pending} (h : startByte b = ([], some p)) :
    decodeFrom none (b :: bytes) = decodeFrom (some p) bytes := by
  simp only [decodeFrom, takeByte, h]
  rfl

variable {n : Nat}

theorem startByte_two (hmin : 0x80 ≤ n) (hmax : n < 0x800) :
    startByte (0xC0 + n / 0x40) = ([], some ⟨0, 0x80, 0xBF, n / 0x40⟩) := by
  have hlong : ¬ 0xC0 + n / 0x40 < 0x80 := by omega
  have hlead : 0xC2 ≤ 0xC0 + n / 0x40 ∧ 0xC0 + n / 0x40 ≤ 0xDF := by omega
  unfold startByte
  rw [if_neg hlong, if_pos hlead, Nat.add_sub_cancel_left]

/-- The first of three bytes. What it allows for the second one leaves out shorter characters and the
surrogates. -/
theorem startByte_three (hmin : 0x800 ≤ n) (hmax : n < 0x10000) (hvalid : n < 0xD800 ∨ 0xDFFF < n) :
    ∃ low high, startByte (0xE0 + n / 0x1000) = ([], some ⟨1, low, high, n / 0x1000⟩) ∧
      low ≤ 0x80 + n / 0x40 % 0x40 ∧ 0x80 + n / 0x40 % 0x40 ≤ high := by
  have hlong : ¬ 0xE0 + n / 0x1000 < 0x80 := by omega
  have hthree : ¬ (0xC2 ≤ 0xE0 + n / 0x1000 ∧ 0xE0 + n / 0x1000 ≤ 0xDF) := by omega
  unfold startByte
  rw [if_neg hlong, if_neg hthree]
  split_ifs with hfirst hsurrogate hinner
  · have hzero : n / 0x1000 = 0 := by omega
    exact ⟨_, _, by rw [hzero], by omega, by omega⟩
  · have hvalue : n / 0x1000 = 0xD := by omega
    exact ⟨_, _, by rw [hvalue], by omega, by omega⟩
  · exact ⟨_, _, by rw [Nat.add_sub_cancel_left], by omega, by omega⟩
  all_goals omega

/-- The first of four bytes. What it allows for the second one leaves out shorter characters and
numbers that are too large. -/
theorem startByte_four (hmin : 0x10000 ≤ n) (hmax : n < 0x110000) :
    ∃ low high, startByte (0xF0 + n / 0x40000) = ([], some ⟨2, low, high, n / 0x40000⟩) ∧
      low ≤ 0x80 + n / 0x1000 % 0x40 ∧ 0x80 + n / 0x1000 % 0x40 ≤ high := by
  unfold startByte
  split_ifs with _ _ _ _ _ hfirst hlast hinner
  · omega
  · omega
  · omega
  · omega
  · omega
  · have hzero : n / 0x40000 = 0 := by omega
    exact ⟨_, _, by rw [hzero], by omega, by omega⟩
  · have hvalue : n / 0x40000 = 4 := by omega
    exact ⟨_, _, by rw [hvalue], by omega, by omega⟩
  · exact ⟨_, _, by rw [Nat.add_sub_cancel_left], by omega, by omega⟩
  · omega

/-- The bytes of a character are read as the character. -/
theorem decodeFrom_utf8Bytes (c : Char) (bytes : List Nat) :
    decodeFrom none (utf8Bytes c ++ bytes) = c :: decodeFrom none bytes := by
  have hvalid := toNat_valid c
  have hchar {value : Nat} (h : value = c.toNat) : Char.ofNat value = c := by
    rw [h, Char.ofNat_toNat]
  unfold utf8Bytes
  simp only
  split_ifs with hone htwo hthree
  · simp only [List.cons_append, List.nil_append, decodeFrom, takeByte, startByte, hone, ↓reduceIte,
      Char.ofNat_toNat]
  · rw [List.cons_append, decodeFrom_first (startByte_two (by omega) htwo), List.cons_append,
      decodeFrom_last (by omega) (by omega), List.nil_append, hchar (by omega)]
  · obtain ⟨low, high, hstart, hlow, hhigh⟩ := startByte_three (by omega) hthree (by omega)
    rw [List.cons_append, decodeFrom_first hstart, List.cons_append, decodeFrom_inner hlow hhigh,
      List.cons_append, decodeFrom_last (by omega) (by omega), List.nil_append, hchar (by omega)]
  · obtain ⟨low, high, hstart, hlow, hhigh⟩ := startByte_four (n := c.toNat) (by omega) (by omega)
    rw [List.cons_append, decodeFrom_first hstart, List.cons_append, decodeFrom_inner hlow hhigh,
      List.cons_append, decodeFrom_inner (by omega) (by omega), List.cons_append,
      decodeFrom_last (by omega) (by omega), List.nil_append, hchar (by omega)]

theorem decodeUtf8_flatMap (cs : List Char) : decodeUtf8 (cs.flatMap utf8Bytes) = cs := by
  unfold decodeUtf8
  induction cs with
  | nil => rfl
  | cons c cs ih => rw [List.flatMap_cons, decodeFrom_utf8Bytes, ih]

/-! ## Escapes that are read -/

theorem hexDigitValue?_escape (h : n < 16) : Text.hexDigitValue? (Text.hexDigit n).toUpper = some n := by
  have hall : ∀ n < 16, Text.hexDigitValue? (Text.hexDigit n).toUpper = some n := by decide
  exact hall n h

theorem unescapedBytes_escapeByte (h : b < 0x100) :
    unescapedBytes (escapeByte b ++ rest) = b :: unescapedBytes rest := by
  have hhigh := hexDigitValue?_escape (show b / 16 < 16 by omega)
  have hlow := hexDigitValue?_escape (show b % 16 < 16 by omega)
  have hbyte : 16 * (b / 16) + b % 16 = b := Nat.div_add_mod b 16
  simp only [escapeByte, List.cons_append, List.nil_append, unescapedBytes, hhigh, hlow, hbyte]

theorem lt_of_mem_utf8Bytes (h : b ∈ utf8Bytes c) : b < 0x100 := by
  rw [utf8Bytes_eq, List.mem_map] at h
  obtain ⟨byte, -, rfl⟩ := h
  exact byte.toNat_lt

theorem exists_utf8Bytes (c : Char) : ∃ b bytes, utf8Bytes c = b :: bytes := by
  unfold utf8Bytes
  dsimp only
  split_ifs <;> exact ⟨_, _, rfl⟩

theorem unescapedBytes_escapedBytes (h : ∀ b ∈ bytes, b < 0x100) :
    unescapedBytes (bytes.flatMap escapeByte ++ rest) = bytes ++ unescapedBytes rest := by
  induction bytes with
  | nil => rfl
  | cons b bytes ih =>
    rw [List.flatMap_cons, List.append_assoc, unescapedBytes_escapeByte (h b List.mem_cons_self),
      ih fun d hd => h d (List.mem_cons_of_mem _ hd)]
    rfl

/-- An escaped character gives its bytes, unless percent signs are kept. -/
theorem unescapedBytes_escapeChar (hkeep : keep '%' = false) :
    unescapedBytes (escapeChar keep c ++ rest) = utf8Bytes c ++ unescapedBytes rest := by
  unfold escapeChar
  split
  · rename_i hkept
    have hne : c ≠ '%' := by
      rintro rfl
      rw [hkeep] at hkept
      cases hkept
    rw [List.cons_append, List.nil_append, unescapedBytes.eq_def]
    split
    · contradiction
    · rename_i heq
      injection heq with hc _
      exact absurd hc hne
    · rename_i heq
      cases heq
      rfl
  · exact unescapedBytes_escapedBytes fun b hb => lt_of_mem_utf8Bytes hb

/-- A text that was escaped is read back, unless percent signs are kept. -/
theorem unescape_escape (hkeep : keep '%' = false) (s : String) : unescape (escape keep s) = s := by
  have hbytes (cs : List Char) : unescapedBytes (cs.flatMap (escapeChar keep)) = cs.flatMap utf8Bytes := by
    induction cs with
    | nil => rfl
    | cons c cs ih => rw [List.flatMap_cons, unescapedBytes_escapeChar hkeep, ih, List.flatMap_cons]
  unfold unescape escape
  rw [String.toList_ofList, hbytes, decodeUtf8_flatMap, String.ofList_toList]

/-! ## Escaped texts -/

/-- A character of an escaped text: one that needs no escape, or the percent sign of an escape. -/
def IsSafe (c : Char) : Prop := isUnreserved c = true ∨ c = '%'

theorem safe_of_mem_escapeByte (h : c ∈ escapeByte b) (hb : b < 0x100) : IsSafe c := by
  have hdigit : ∀ n < 16, isUnreserved (Text.hexDigit n).toUpper = true := by decide
  simp only [escapeByte, List.mem_cons, List.not_mem_nil, or_false] at h
  rcases h with rfl | rfl | rfl
  · exact .inr rfl
  · exact .inl (hdigit _ (by omega))
  · exact .inl (hdigit _ (by omega))

theorem safe_of_mem_escape (h : c ∈ (escape isUnreserved s).toList) : IsSafe c := by
  unfold escape at h
  rw [String.toList_ofList, List.mem_flatMap] at h
  obtain ⟨d, -, hc⟩ := h
  unfold escapeChar at hc
  split at hc
  · rename_i hkept
    rw [List.mem_singleton] at hc
    subst hc
    exact .inl hkept
  · obtain ⟨b, hb, hmem⟩ := List.mem_flatMap.1 hc
    exact safe_of_mem_escapeByte hmem (lt_of_mem_utf8Bytes hb)

theorem escape_ne_empty (hkeep : keep '%' = false) (h : s ≠ "") : escape keep s ≠ "" := by
  intro hempty
  have hread := unescape_escape hkeep s
  rw [hempty] at hread
  exact h hread.symm

/-- An escaped text is at least as long as the text. -/
theorem length_le_flatMap_escapeChar (keep : Char → Bool) (cs : List Char) :
    cs.length ≤ (cs.flatMap (escapeChar keep)).length := by
  induction cs with
  | nil => exact Nat.le_refl _
  | cons c cs ih =>
    have hchar : 1 ≤ (escapeChar keep c).length := by
      unfold escapeChar
      split
      · exact Nat.le_refl _
      · obtain ⟨b, bytes, hbytes⟩ := exists_utf8Bytes c
        simp [hbytes, escapeByte]
    rw [List.flatMap_cons, List.length_append, List.length_cons]
    omega

/-- Only a text whose characters are all kept is its own escaped form. -/
theorem escape_eq_self_iff : escape keep s = s ↔ ∀ c ∈ s.toList, keep c = true := by
  have hchars (cs : List Char) : cs.flatMap (escapeChar keep) = cs ↔ ∀ c ∈ cs, keep c = true := by
    induction cs with
    | nil => simp
    | cons c cs ih =>
      rw [List.flatMap_cons, List.forall_mem_cons, ← ih]
      by_cases hc : keep c = true
      · simp [escapeChar, hc]
      · have hlength := length_le_flatMap_escapeChar keep cs
        obtain ⟨b, bytes, hbytes⟩ := exists_utf8Bytes c
        have hlong : 3 ≤ (escapeChar keep c).length := by simp [escapeChar, hc, hbytes, escapeByte]
        refine iff_of_false (fun h => ?_) fun h => hc h.1
        have hsame := congrArg List.length h
        rw [List.length_append, List.length_cons] at hsame
        omega
  rw [← hchars, ← String.toList_inj]
  unfold escape
  rw [String.toList_ofList]

/-! ### Byte by byte -/

theorem lt_of_isUnreserved (h : isUnreserved c = true) : c.toNat < 0x80 := by
  simp only [isUnreserved, Bool.or_eq_true, beq_iff_eq, isAlphanum_iff, isAlpha_iff, isUpper_iff,
    isLower_iff, isDigit_iff] at h
  rcases h with (((((h | h) | h) | rfl) | rfl) | rfl) | rfl
  · omega
  · omega
  · omega
  all_goals decide

/-- A byte as it is, or its percent escape. -/
def escapeIfNeeded (b : Nat) : List Char :=
  if isUnreserved (Char.ofNat b) then [Char.ofNat b] else escapeByte b

/-- The UTF-8 form of a text, with percent escapes for the bytes that need one. -/
def escapeByByte (s : String) : String :=
  String.ofList (s.toUTF8.data.toList.flatMap fun b => escapeIfNeeded b.toNat)

theorem toNat_ofNat_of_lt (h : b < 0x100) : (Char.ofNat b).toNat = b := by
  have hvalid : b.isValidChar := .inl (by omega)
  unfold Char.ofNat
  rw [dif_pos hvalid]
  rfl

theorem escapeIfNeeded_of_le (hmin : 0x80 ≤ b) (hmax : b < 0x100) : escapeIfNeeded b = escapeByte b := by
  have hreserved : ¬ isUnreserved (Char.ofNat b) = true := by
    intro h
    have hlt := lt_of_isUnreserved h
    rw [toNat_ofNat_of_lt hmax] at hlt
    omega
  unfold escapeIfNeeded
  rw [if_neg hreserved]

theorem escapeChar_eq (c : Char) : escapeChar isUnreserved c = (utf8Bytes c).flatMap escapeIfNeeded := by
  by_cases hone : c.toNat < 0x80
  · have hbytes : utf8Bytes c = [c.toNat] := by
      unfold utf8Bytes
      rw [if_pos hone]
    unfold escapeChar escapeIfNeeded
    simp only [hbytes, List.flatMap_cons, List.flatMap_nil, List.append_nil, Char.ofNat_toNat]
  · have hreserved : ¬ isUnreserved c = true := fun h => hone (lt_of_isUnreserved h)
    have hmin : ∀ b ∈ utf8Bytes c, 0x80 ≤ b := by
      intro b hb
      unfold utf8Bytes at hb
      simp only [hone, ↓reduceIte] at hb
      split_ifs at hb
      all_goals
        simp only [List.mem_cons, List.not_mem_nil, or_false] at hb
        omega
    unfold escapeChar
    rw [if_neg hreserved]
    refine List.flatMap_congr fun b hb => ?_
    exact (escapeIfNeeded_of_le (hmin b hb) (lt_of_mem_utf8Bytes hb)).symm

/-- To escape a text is to escape it byte by byte. -/
theorem escape_eq_escapeByByte (s : String) : escape isUnreserved s = escapeByByte s := by
  have hbytes : s.toUTF8.data.toList = s.toList.flatMap String.utf8EncodeChar := by
    have htext : s.toByteArray = s.toList.utf8Encode := by
      rw [← String.toByteArray_ofList, String.ofList_toList]
    rw [String.toUTF8_eq_toByteArray, htext, List.utf8Encode, List.data_toByteArray]
  have hchar (c : Char) : (String.utf8EncodeChar c).flatMap (fun b => escapeIfNeeded b.toNat) =
      escapeChar isUnreserved c := by
    rw [escapeChar_eq, utf8Bytes_eq, List.flatMap_map]
  unfold escape escapeByByte
  rw [hbytes, List.flatMap_assoc]
  simp only [hchar]

end QueryPlans.Url
