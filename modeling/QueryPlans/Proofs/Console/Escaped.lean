import Mathlib.Data.List.TakeWhile
import QueryPlans.Console.Markup

/-!
# Escaped texts

An escaped text is shown as the text itself, but for one backslash: where the text ends in a single one, two
are shown.  So texts that are shown alike are equal, but for this.

* `Markup.EndsInBackslash` — the text ends in a single backslash.
* `Markup.LooksLike` — the texts are equal, but that one has a second backslash at its end.

Principal results: `plainFrom_escapeFrom` — tags are escaped so that the text comes back;
`plain_escape_of_ends`, `plain_escape_of_not_ends` — what is shown of an escaped text; `escape_eq_iff` — which
texts are escaped alike.
-/

namespace QueryPlans.Markup

variable {cs ds rest : List Char} {c : Char} {s t : String}

/-! ## One character after the other -/

theorem escapeFrom_backslash (n : Nat) (rest : List Char) :
    escapeFrom n ('\\' :: rest) = '\\' :: escapeFrom (n + 1) rest := rfl

theorem escapeFrom_tag (h : opensTag rest = true) (n : Nat) :
    escapeFrom n ('[' :: rest) = List.replicate (n + 1) '\\' ++ '[' :: escapeFrom 0 rest := by
  rw [escapeFrom, if_neg (by decide), if_pos ⟨rfl, h⟩]

theorem escapeFrom_ordinary (hc : c ≠ '\\') (h : ¬ (c = '[' ∧ opensTag rest = true)) (n : Nat) :
    escapeFrom n (c :: rest) = c :: escapeFrom 0 rest := by
  rw [escapeFrom, if_neg hc, if_neg h]

/-- A character of a text is a backslash, the bracket of a tag, or an ordinary one. -/
theorem char_cases (c : Char) (rest : List Char) :
    c = '\\' ∨ (c = '[' ∧ opensTag rest = true) ∨
      (c ≠ '\\' ∧ ¬ (c = '[' ∧ opensTag rest = true)) := by
  by_cases hc : c = '\\'
  · exact .inl hc
  · by_cases htag : c = '[' ∧ opensTag rest = true
    · exact .inr (.inl htag)
    · exact .inr (.inr ⟨hc, htag⟩)

/-! ## Tags in escaped texts -/

/-- A bracket of a tag. -/
def isBracket (c : Char) : Bool := c == '[' || c == ']'

/-- A tag opens where its first letter is right, and the next bracket closes it. -/
theorem opensTag_cons (c : Char) (rest : List Char) :
    opensTag (c :: rest) = (startsTag c && rest.find? isBracket == some ']') := by
  have hnext : rest.find? isBracket = (Text.spanUntil isBracket rest).2.head? :=
    rest.find?_eq_head?_dropWhile_not isBracket
  rw [hnext]
  cases hstart : startsTag c with
  | false => simp [opensTag, tagInside?, hstart]
  | true =>
    unfold opensTag tagInside?
    simp only [hstart, ↓reduceIte, Bool.true_and]
    split
    · rename_i inside after hspan
      have hclosed : (Text.spanUntil isBracket rest).2 = ']' :: after := congrArg Prod.snd hspan
      rw [hclosed]
      rfl
    · rename_i hspan
      cases hnext : (Text.spanUntil isBracket rest).2 with
      | nil => rfl
      | cons d after =>
        have hother : d ≠ ']' := by
          rintro rfl
          exact hspan _ after (Prod.ext rfl hnext)
        simp [hother]

/-- Escaping puts nothing but backslashes into a text, so that its next bracket stays the same. -/
theorem find?_isBracket_escapeFrom (n : Nat) (cs : List Char) :
    (escapeFrom n cs).find? isBracket = cs.find? isBracket := by
  induction cs generalizing n with
  | nil => rfl
  | cons c rest ih =>
    rcases char_cases c rest with rfl | ⟨rfl, htag⟩ | ⟨hc, htag⟩
    · rw [escapeFrom_backslash]
      exact ih (n + 1)
    · rw [escapeFrom_tag htag, List.find?_append, List.find?_replicate]
      rfl
    · rw [escapeFrom_ordinary hc htag, List.find?_cons, List.find?_cons, ih]

/-- A tag opens in the escaped text where one opens in the text. -/
theorem opensTag_escapeFrom (n : Nat) (cs : List Char) : opensTag (escapeFrom n cs) = opensTag cs := by
  cases cs with
  | nil => rfl
  | cons c rest =>
    rcases char_cases c rest with rfl | ⟨rfl, htag⟩ | ⟨hc, htag⟩
    · rfl
    · rw [escapeFrom_tag htag]
      rfl
    · rw [escapeFrom_ordinary hc htag, opensTag_cons, opensTag_cons, find?_isBracket_escapeFrom]

/-! ## The text that comes back -/

theorem plainFrom_backslash (n : Nat) (rest : List Char) :
    plainFrom n 0 ('\\' :: rest) = plainFrom (n + 1) 0 rest := rfl

theorem plainFrom_backslashes (n m : Nat) (rest : List Char) :
    plainFrom n 0 (List.replicate m '\\' ++ rest) = plainFrom (n + m) 0 rest := by
  induction m generalizing n with
  | zero => rfl
  | succ m ih =>
    rw [List.replicate_succ, List.cons_append, plainFrom_backslash, ih]
    congr 1
    omega

/-- A tag behind an odd number of backslashes is ordinary text. -/
theorem plainFrom_escapedTag (h : opensTag rest = true) (n : Nat) :
    plainFrom (2 * n + 1) 0 ('[' :: rest) = List.replicate n '\\' ++ '[' :: plainFrom 0 0 rest := by
  obtain ⟨⟨inside, after⟩, hinside⟩ := Option.isSome_iff_exists.1 h
  have hodd : (2 * n + 1) % 2 = 1 := by omega
  have hhalf : (2 * n + 1) / 2 = n := by omega
  conv => lhs; unfold plainFrom
  rw [if_neg (by decide)]
  simp only [hinside, hodd, hhalf, ↓reduceIte]

/-- Ordinary text is shown as it is. -/
theorem plainFrom_ordinary (hc : c ≠ '\\') (h : ¬ (c = '[' ∧ opensTag rest = true)) (n : Nat) :
    plainFrom n 0 (c :: rest) = List.replicate n '\\' ++ c :: plainFrom 0 0 rest := by
  rw [plainFrom, if_neg hc]
  intro inside after hinside htag
  exact h ⟨htag, Option.isSome_iff_exists.2 ⟨_, hinside⟩⟩

/-- The text comes back from its escaped form. The backslashes that are held back are those right before. -/
theorem plainFrom_escapeFrom (n : Nat) (cs : List Char) :
    plainFrom n 0 (escapeFrom n cs) = List.replicate n '\\' ++ cs := by
  induction cs generalizing n with
  | nil => rw [escapeFrom, plainFrom, List.append_nil]
  | cons c rest ih =>
    rcases char_cases c rest with rfl | ⟨rfl, htag⟩ | ⟨hc, htag⟩
    · rw [escapeFrom_backslash, plainFrom_backslash, ih, List.replicate_succ', List.append_assoc]
      rfl
    · rw [escapeFrom_tag htag, plainFrom_backslashes, ← Nat.add_assoc, ← Nat.two_mul,
        plainFrom_escapedTag (by rw [opensTag_escapeFrom, htag]), ih]
      rfl
    · rw [escapeFrom_ordinary hc htag, plainFrom_ordinary hc (by rwa [opensTag_escapeFrom]), ih]
      rfl

theorem escapeFrom_inj (h : escapeFrom 0 cs = escapeFrom 0 ds) : cs = ds := by
  have hplain := congrArg (plainFrom 0 0) h
  rwa [plainFrom_escapeFrom, plainFrom_escapeFrom] at hplain

/-! ## Backslashes at the end -/

theorem opensTag_concat_backslash (cs : List Char) : opensTag (cs ++ ['\\']) = opensTag cs := by
  cases cs with
  | nil => rfl
  | cons c rest =>
    rw [List.cons_append, opensTag_cons, opensTag_cons, List.find?_append]
    cases rest.find? isBracket <;> rfl

/-- A backslash at the end stays one. -/
theorem escapeFrom_concat_backslash (n : Nat) (cs : List Char) :
    escapeFrom n (cs ++ ['\\']) = escapeFrom n cs ++ ['\\'] := by
  induction cs generalizing n with
  | nil => rfl
  | cons c rest ih =>
    rw [List.cons_append]
    rcases char_cases c rest with rfl | ⟨rfl, htag⟩ | ⟨hc, htag⟩
    · rw [escapeFrom_backslash, escapeFrom_backslash, ih]
      rfl
    · rw [escapeFrom_tag htag, escapeFrom_tag (by rw [opensTag_concat_backslash, htag]), ih]
      simp
    · rw [escapeFrom_ordinary hc htag, escapeFrom_ordinary hc (by rwa [opensTag_concat_backslash]), ih]
      rfl

/-- Escaping leaves the last character in its place. -/
theorem getLast?_escapeFrom (n : Nat) (cs : List Char) : (escapeFrom n cs).getLast? = cs.getLast? := by
  induction cs generalizing n with
  | nil => rfl
  | cons c rest ih =>
    rcases char_cases c rest with rfl | ⟨rfl, htag⟩ | ⟨hc, htag⟩
    · rw [escapeFrom_backslash, List.getLast?_cons, List.getLast?_cons, ih]
    · rw [escapeFrom_tag htag, List.getLast?_append, List.getLast?_cons, List.getLast?_cons, ih]
      rfl
    · rw [escapeFrom_ordinary hc htag, List.getLast?_cons, List.getLast?_cons, ih]

/-- There is a single backslash at the end. -/
def EndsInBackslash (cs : List Char) : Prop :=
  ∃ front, cs = front ++ ['\\'] ∧ front.getLast? ≠ some '\\'

theorem closeBackslash_of_ends (h : EndsInBackslash cs) : closeBackslash cs = cs ++ ['\\'] := by
  obtain ⟨front, rfl, hlast⟩ := h
  rw [← List.head?_reverse] at hlast
  unfold closeBackslash
  rw [List.reverse_append]
  cases hfront : front.reverse with
  | nil => rfl
  | cons d before =>
    rw [hfront] at hlast
    have hd : d ≠ '\\' := fun heq => hlast (congrArg some heq)
    simp [hd]

theorem closeBackslash_of_not_ends (h : ¬ EndsInBackslash cs) : closeBackslash cs = cs := by
  unfold closeBackslash
  split
  · rfl
  · rename_i before hsingle hreverse
    refine absurd ⟨before.reverse, ?_, ?_⟩ h
    · rw [← List.reverse_reverse cs, hreverse, List.reverse_cons]
    · rw [List.getLast?_reverse]
      intro hhead
      obtain ⟨rest, rfl⟩ := List.head?_eq_some_iff.1 hhead
      exact hsingle rest rfl
  · rfl

/-- A text ends in a single backslash if its escaped form does. -/
theorem endsInBackslash_escapeFrom (n : Nat) (cs : List Char) :
    EndsInBackslash (escapeFrom n cs) ↔ EndsInBackslash cs := by
  constructor
  · rintro ⟨front, hfront, hlast⟩
    have hend : cs.getLast? = some '\\' := by
      rw [← getLast?_escapeFrom n, hfront]
      simp
    obtain ⟨before, rfl⟩ := List.getLast?_eq_some_iff.1 hend
    rw [escapeFrom_concat_backslash] at hfront
    rw [← (List.append_inj' hfront rfl).1, getLast?_escapeFrom] at hlast
    exact ⟨before, rfl, hlast⟩
  · rintro ⟨front, rfl, hlast⟩
    refine ⟨escapeFrom n front, escapeFrom_concat_backslash n front, ?_⟩
    rwa [getLast?_escapeFrom]

/-! ## Texts that are escaped alike -/

theorem toList_escape (s : String) : (escape s).toList = closeBackslash (escapeFrom 0 s.toList) :=
  String.toList_ofList

theorem toList_escape_of_ends (h : EndsInBackslash s.toList) :
    (escape s).toList = escapeFrom 0 (s.toList ++ ['\\']) := by
  rw [toList_escape, closeBackslash_of_ends ((endsInBackslash_escapeFrom 0 _).2 h),
    escapeFrom_concat_backslash]

theorem toList_escape_of_not_ends (h : ¬ EndsInBackslash s.toList) :
    (escape s).toList = escapeFrom 0 s.toList := by
  rw [toList_escape, closeBackslash_of_not_ends (mt (endsInBackslash_escapeFrom 0 _).1 h)]

/-- The texts are equal, but that one of them may have a second backslash at its end. -/
def LooksLike (s t : String) : Prop :=
  s = t ∨ (EndsInBackslash s.toList ∧ t = s ++ "\\") ∨ (EndsInBackslash t.toList ∧ s = t ++ "\\")

theorem toList_append_backslash (s : String) : (s ++ "\\").toList = s.toList ++ ['\\'] :=
  String.toList_append

/-- A text that ends in no backslash looks like itself alone. -/
theorem LooksLike.eq (h : LooksLike s t) (ht : t.toList.getLast? ≠ some '\\') : s = t := by
  rcases h with rfl | ⟨-, rfl⟩ | ⟨⟨front, hfront, -⟩, -⟩
  · rfl
  · rw [toList_append_backslash] at ht
    exact absurd List.getLast?_concat ht
  · rw [hfront] at ht
    exact absurd List.getLast?_concat ht

/-- A second backslash makes no difference. -/
theorem escape_append_backslash (h : EndsInBackslash s.toList) : escape (s ++ "\\") = escape s := by
  have hdouble : ¬ EndsInBackslash (s ++ "\\").toList := by
    obtain ⟨before, hbefore, -⟩ := h
    rw [toList_append_backslash]
    rintro ⟨front, hfront, hlast⟩
    rw [← (List.append_inj' hfront rfl).1, hbefore] at hlast
    exact hlast List.getLast?_concat
  refine String.toList_inj.1 ?_
  rw [toList_escape_of_not_ends hdouble, toList_escape_of_ends h, toList_append_backslash]

/-- **Texts are escaped alike if they are equal, but for a second backslash at the end.** -/
theorem escape_eq_iff : escape s = escape t ↔ LooksLike s t := by
  constructor
  · intro h
    have hlists := congrArg String.toList h
    by_cases hs : EndsInBackslash s.toList <;> by_cases ht : EndsInBackslash t.toList
    · rw [toList_escape_of_ends hs, toList_escape_of_ends ht] at hlists
      exact .inl (String.toList_inj.1 (List.append_cancel_right (escapeFrom_inj hlists)))
    · rw [toList_escape_of_ends hs, toList_escape_of_not_ends ht, ← toList_append_backslash] at hlists
      exact .inr (.inl ⟨hs, (String.toList_inj.1 (escapeFrom_inj hlists)).symm⟩)
    · rw [toList_escape_of_not_ends hs, toList_escape_of_ends ht, ← toList_append_backslash] at hlists
      exact .inr (.inr ⟨ht, String.toList_inj.1 (escapeFrom_inj hlists)⟩)
    · rw [toList_escape_of_not_ends hs, toList_escape_of_not_ends ht] at hlists
      exact .inl (String.toList_inj.1 (escapeFrom_inj hlists))
  · rintro (rfl | ⟨hs, rfl⟩ | ⟨ht, rfl⟩)
    · rfl
    · exact (escape_append_backslash hs).symm
    · exact escape_append_backslash ht

/-- An escaped text is shown as it is, but that a single backslash at its end is doubled. -/
theorem plain_escape_of_not_ends (h : ¬ EndsInBackslash s.toList) : plain (escape s) = s := by
  unfold plain
  rw [toList_escape_of_not_ends h, plainFrom_escapeFrom]
  exact String.ofList_toList

theorem plain_escape_of_ends (h : EndsInBackslash s.toList) : plain (escape s) = s ++ "\\" := by
  unfold plain
  rw [toList_escape_of_ends h, plainFrom_escapeFrom]
  refine String.toList_inj.1 ?_
  rw [String.toList_ofList, toList_append_backslash]
  rfl

end QueryPlans.Markup
