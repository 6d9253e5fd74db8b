import QueryPlans.Proofs.Json.Scanned

/-!
# Scalars of a decoded text

The words, numbers and strings in a decoded value are those that are written in the text.

* `NumberParts.integer`, `NumberParts.double` — what a number stands for.
* `Json.ScalarText` — the text of a scalar, and its value.
* `Json.Every` — every scalar in a value has a property.

Principal results: `NumberParts.number_eq_ok` — a number is read as an integer, or as a double;
`decode_every` — what holds of every scalar that is written in a text holds of every scalar in its value.
-/

namespace QueryPlans.Json

variable {P : Json → Prop} {text cs rest : List Char} {v : Json} {depth fuel : Nat}

/-! ## Numbers -/

namespace NumberParts

/-- The integer, if neither a fraction nor an exponent is written. -/
def integer (p : NumberParts) : Int := Double.signed (p.sign == ['-']) (digitsValue p.whole)

/-- The digits of the number, those of its fraction included. -/
def digits (p : NumberParts) : Nat := digitsValue (p.whole ++ p.fraction.tail)

/-- The power of ten that the digits are multiplied by. -/
def scale (p : NumberParts) : Int := p.power.getD 0 - p.fraction.tail.length

def double (p : NumberParts) : Double := Double.ofDecimal (p.sign == ['-']) p.digits p.scale

/-- A number is read as an integer, if it has few enough digits, or as a double. -/
theorem number_eq_ok {p : NumberParts} (h : p.number = .ok v) :
    (p.IsInteger ∧ p.whole.length ≤ Numeral.digitLimit ∧ v = .int p.integer) ∨
      (¬ p.IsInteger ∧ v = .float p.double) := by
  unfold number numberOfParts at h
  split at h
  · rename_i hinteger
    split at h
    · cases h
    · rename_i hlength
      cases h
      exact .inl ⟨p.isInteger_iff.2 hinteger, Nat.le_of_not_lt hlength, rfl⟩
  · rename_i hdecimal
    cases h
    exact .inr ⟨fun hinteger => hdecimal (p.isInteger_iff.1 hinteger), rfl⟩

end NumberParts

/-! ## Scalars -/

/-- The text of a scalar. It does not matter here which string is written between the quotes. -/
inductive ScalarText : List Char → Json → Prop
  | word {cs : List Char} {v : Json} (h : (cs, v) ∈ words) : ScalarText cs v
  | number {v : Json} (p : NumberParts) (h : p.number = .ok v) : ScalarText p.text v
  | string {body : List Char} (h : StringBody body) (s : String) :
      ScalarText ('"' :: (body ++ ['"'])) (.str s)

/-- The value of a word is null, a truth value, or a double that is no number. -/
theorem value_of_mem_words (h : (cs, v) ∈ words) :
    v = .null ∨ (∃ b, v = .bool b) ∨ v = .float .nan ∨ ∃ negative, v = .float (.infinity negative) := by
  rw [words_eq] at h
  simp only [List.mem_cons, Prod.mk.injEq, List.not_mem_nil, or_false] at h
  rcases h with ⟨-, rfl⟩ | ⟨-, rfl⟩ | ⟨-, rfl⟩ | ⟨-, rfl⟩ | ⟨-, rfl⟩ | ⟨-, rfl⟩ <;> simp

/-- A scalar is neither a list nor an object. -/
theorem ScalarText.ne_container (h : ScalarText cs v) :
    (∀ items, v ≠ .arr items) ∧ ∀ fields, v ≠ .obj fields := by
  cases h with
  | word hmem =>
    rcases value_of_mem_words hmem with rfl | ⟨b, rfl⟩ | rfl | ⟨negative, rfl⟩ <;> exact ⟨nofun, nofun⟩
  | number p hnumber =>
    rcases p.number_eq_ok hnumber with ⟨-, -, rfl⟩ | ⟨-, rfl⟩ <;> exact ⟨nofun, nofun⟩
  | string => exact ⟨nofun, nofun⟩

/-- Every scalar in the value has the property. -/
inductive Every (P : Json → Prop) : Json → Prop
  | scalar {v : Json} (h : P v) : Every P v
  | arr {items : List Json} (h : ∀ v ∈ items, Every P v) : Every P (arr items)
  | obj {fields : Fields} (h : ∀ f ∈ fields, Every P f.2) : Every P (obj fields)

theorem Fields.put_every {fields : Fields} (name : String) (hv : v.Every P)
    (h : ∀ f ∈ fields, Every P f.2) : ∀ f ∈ Fields.put name v fields, Every P f.2 := by
  induction fields with
  | nil =>
    intro f hf
    rw [List.mem_singleton.1 hf]
    exact hv
  | cons g fields ih =>
    obtain ⟨hfirst, hrest⟩ := List.forall_mem_cons.1 h
    unfold Fields.put
    split
    · exact List.forall_mem_cons.2 ⟨hv, hrest⟩
    · exact List.forall_mem_cons.2 ⟨hfirst, ih hrest⟩

/-- A field that is found is one of the fields. -/
theorem Fields.mem_of_get? {fields : Fields} {name : String} (h : fields.get? name = some v) :
    (name, v) ∈ fields := by
  induction fields with
  | nil => cases h
  | cons f fields ih =>
    unfold Fields.get? at h
    split at h
    · rename_i hname
      cases h
      rw [← hname]
      exact List.mem_cons_self
    · exact List.mem_cons_of_mem _ (ih h)

/-! ## What a scan leaves -/

theorem skipBlanks_suffix (cs : List Char) : skipBlanks cs <:+ cs := List.dropWhile_suffix _

theorem Scanned.suffix {part : Part} {closing : List Char}
    (h : Scanned part depth closing cs (.ok (v, rest))) : rest <:+ cs := by
  cases h with
  | @taken text _ _ hwritten hsplit =>
    rw [hsplit, ← List.append_assoc]
    exact List.suffix_append _ _

theorem scanString_suffix {s : String} (h : scanString cs = .ok (s, rest)) :
    ∃ body, StringBody body ∧ cs = body ++ '"' :: rest := by
  rcases scanString_cases cs with ⟨reason, remaining, hmalformed⟩ | ⟨s', body, rest', htaken, hbody⟩
  · cases h.symm.trans hmalformed
  · cases h.symm.trans htaken
    exact ⟨body, hbody⟩

/-- A piece at the start of what is left of a text is in the text. -/
theorem isInfix_of_suffix (h : cs ++ rest <:+ text) : cs <:+: text :=
  (List.prefix_append cs rest).isInfix.trans h.isInfix

/-! ## Scanned values -/

/-- What is scanned with so much fuel from the end of the text on has the property in every scalar, if
what was scanned before it has. -/
structure ScansEvery (P : Json → Prop) (text : List Char) (fuel : Nat) : Prop where
  value : ∀ {depth cs rest v}, cs <:+ text → scanValue depth fuel cs = .ok (v, rest) → v.Every P
  items : ∀ {depth before cs rest v}, cs <:+ text → (∀ w ∈ before, Every P w) →
    scanItems depth fuel before cs = .ok (v, rest) → v.Every P
  fields : ∀ {depth before cs rest v}, cs <:+ text → (∀ f ∈ before, Every P f.2) →
    scanFields depth fuel before cs = .ok (v, rest) → v.Every P

/-- Each scalar that is written in the text has the property. -/
def EveryWritten (P : Json → Prop) (text : List Char) : Prop :=
  ∀ {cs v}, cs <:+: text → ScalarText cs v → P v

theorem EveryWritten.number (hP : EveryWritten P text) (hcs : cs <:+ text)
    (h : scanNumber cs = .ok (v, rest)) : P v := by
  rcases scanNumber_split cs with ⟨reason, remaining, hmalformed⟩ | ⟨p, after, rfl, hscan, -⟩
  · cases h.symm.trans hmalformed
  · rw [hscan] at h
    cases hnumber : p.number with
    | error e =>
      rw [hnumber] at h
      cases h
    | ok w =>
      rw [hnumber] at h
      cases h
      exact hP (isInfix_of_suffix hcs) (.number p hnumber)

theorem ScansEvery.succ_value (hP : EveryWritten P text) (h : ScansEvery P text fuel)
    (hcs : cs <:+ text) (hscan : scanValue depth (fuel + 1) cs = .ok (v, rest)) : v.Every P := by
  unfold scanValue at hscan
  split at hscan
  · rename_i tail
    cases hstring : scanString tail with
    | error e =>
      rw [hstring] at hscan
      cases hscan
    | ok r =>
      rw [hstring] at hscan
      cases hscan
      obtain ⟨body, hbody, rfl⟩ := scanString_suffix hstring
      have hpiece : '"' :: (body ++ ['"']) ++ r.2 <:+ text := by simpa using hcs
      exact .scalar (hP (isInfix_of_suffix hpiece) (.string hbody _))
  · rename_i tail
    have htail := ((skipBlanks_suffix tail).trans (List.suffix_cons _ _)).trans hcs
    split at hscan
    · cases hscan
    split at hscan
    · cases hscan
      exact .obj fun _ hf => absurd hf List.not_mem_nil
    · exact h.fields htail (fun _ hf => absurd hf List.not_mem_nil) hscan
  · rename_i tail
    have htail := ((skipBlanks_suffix tail).trans (List.suffix_cons _ _)).trans hcs
    split at hscan
    · cases hscan
    split at hscan
    · cases hscan
      exact .arr fun _ hw => absurd hw List.not_mem_nil
    · exact h.items htail (fun _ hw => absurd hw List.not_mem_nil) hscan
  · split at hscan
    · rename_i r hword
      cases hscan
      obtain ⟨word, hmem, rfl⟩ := scanWord?_taken hword
      exact .scalar (hP (isInfix_of_suffix hcs) (.word hmem))
    · exact .scalar (hP.number hcs hscan)

/-- After a comma and blanks the scan goes on in the text. -/
theorem suffix_of_skipBlanks {after : List Char} {c : Char} (hrest : rest <:+ text)
    (h : skipBlanks rest = c :: after) : skipBlanks after <:+ text := by
  have hafter : after <:+ skipBlanks rest := h ▸ List.suffix_cons c after
  exact (skipBlanks_suffix after).trans (hafter.trans ((skipBlanks_suffix rest).trans hrest))

theorem ScansEvery.succ_items {before : List Json} (h : ScansEvery P text fuel) (hcs : cs <:+ text)
    (hbefore : ∀ w ∈ before, Every P w) (hscan : scanItems depth (fuel + 1) before cs = .ok (v, rest)) :
    v.Every P := by
  have hsuffix := (scansTo fuel).value depth cs
  unfold scanItems at hscan
  split at hscan
  · cases hscan
  rename_i item afterItem hitem
  rw [hitem] at hsuffix
  have hitems : ∀ w ∈ item :: before, Every P w := List.forall_mem_cons.2 ⟨h.value hcs hitem, hbefore⟩
  split at hscan
  · cases hscan
    exact .arr fun w hw => hitems w (List.mem_reverse.1 hw)
  · rename_i hafter
    exact h.items (suffix_of_skipBlanks (hsuffix.suffix.trans hcs) hafter) hitems hscan
  · cases hscan

theorem ScansEvery.succ_fields {before : Fields} (h : ScansEvery P text fuel) (hcs : cs <:+ text)
    (hbefore : ∀ f ∈ before, Every P f.2) (hscan : scanFields depth (fuel + 1) before cs = .ok (v, rest)) :
    v.Every P := by
  unfold scanFields at hscan
  split at hscan
  · rename_i tail
    split at hscan
    · cases hscan
    rename_i name afterName hname
    obtain ⟨body, -, rfl⟩ := scanString_suffix hname
    have hnamed : afterName <:+ text := by
      refine List.IsSuffix.trans ⟨'"' :: (body ++ ['"']), ?_⟩ hcs
      simp
    split at hscan
    · rename_i tail hcolon
      have hinner := suffix_of_skipBlanks hnamed hcolon
      have hsuffix := (scansTo fuel).value depth (skipBlanks tail)
      split at hscan
      · cases hscan
      rename_i value afterValue hvalue
      rw [hvalue] at hsuffix
      have hfields := Fields.put_every name (h.value hinner hvalue) hbefore
      simp only at hscan
      split at hscan
      · cases hscan
        exact .obj hfields
      · rename_i hafter
        exact h.fields (suffix_of_skipBlanks (hsuffix.suffix.trans hinner) hafter) hfields hscan
      · cases hscan
    · cases hscan
  · cases hscan

theorem scansEvery (hP : EveryWritten P text) (fuel : Nat) : ScansEvery P text fuel := by
  induction fuel with
  | zero =>
    -- Without fuel nothing is scanned.
    exact ⟨fun _ h => (by cases h), fun _ _ h => (by cases h), fun _ _ h => (by cases h)⟩
  | succ fuel ih => exact ⟨ih.succ_value hP, ih.succ_items, ih.succ_fields⟩

/-- The value of a text is scanned from its first character that is not blank. -/
theorem exists_scanValue_of_decode {text : String} (h : decode text depth = .ok v) :
    ∃ fuel rest, scanValue depth fuel (skipBlanks text.toList) = .ok (v, rest) := by
  unfold decode at h
  simp only at h
  split at h
  · rename_i value hscan
    cases h
    unfold scanText at hscan
    split at hscan
    · cases hscan
    simp only at hscan
    split at hscan
    · cases hscan
    rename_i hvalue
    split at hscan
    · cases hscan
      exact ⟨_, _, hvalue⟩
    · cases hscan
  · cases h
  · cases h

/-- What holds of every scalar that is written in a text holds of every scalar in its value. -/
theorem decode_every {text : String} (hP : EveryWritten P text.toList)
    (h : decode text depth = .ok v) :
    v.Every P := by
  obtain ⟨fuel, rest, hscan⟩ := exists_scanValue_of_decode h
  exact (scansEvery hP fuel).value (skipBlanks_suffix _) hscan

end QueryPlans.Json
