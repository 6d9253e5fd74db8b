import QueryPlans.Proofs.Json.Grammar

/-!
# Texts of JSON are read

* `Json.Takes` — a scanner gets as far as the rest of the text, unless the text exceeds a limit.
* `Json.Ends` — what may stand after a value.

Principal results: `Written.scanned` — each part of a JSON text is scanned to its end, whatever follows;
`decode_object` — the text of an object has an object for its value.
-/

namespace QueryPlans.Json

variable {cs rest : List Char}

/-- The scanner gets as far as the rest, unless the text exceeds a limit. -/
def Takes {α : Type} (scan : Scan α) (rest : List Char) : Prop :=
  (∃ a, scan = .ok (a, rest)) ∨ ∃ l, scan = .error (.exceeded l)

/-- The text does not start with such a character. -/
def StopsAt (p : Char → Bool) (rest : List Char) : Prop := ∀ c tail, rest = c :: tail → p c = false

/-- What may stand after a value: nothing, or a blank, a comma or the end of a list or an object. -/
def Ends (rest : List Char) : Prop :=
  ∀ c tail, rest = c :: tail → isBlank c = true ∨ c = ',' ∨ c = ']' ∨ c = '}'

/-! ## Strings -/

theorem scanUnits_append (opening : Nat) (h : StringBody cs) (units : List Nat)
    (rest : List Char) : ∃ us, scanUnits opening units (cs ++ '"' :: rest) = .ok (us, rest) := by
  induction h generalizing units with
  | nil => exact ⟨units.reverse, rfl⟩
  | @plain c cs hquote hbackslash hcontrol _ ih =>
    rw [List.cons_append, scanUnits, if_neg (by omega)]
    · exact ih _
    · exact fun hc => hquote hc
    · exact fun hc _ => hbackslash hc
    · exact fun _ _ _ _ _ _ hc _ => hbackslash hc
    · exact fun _ _ hc _ => hbackslash hc
  | @escape c cs hc _ ih =>
    have hu : c ≠ 'u' := by
      rintro rfl
      exact absurd hc (by decide)
    obtain ⟨e, he⟩ : ∃ e, simpleEscape? c = some e := by
      simp only [List.mem_cons, List.not_mem_nil, or_false] at hc
      rcases hc with rfl | rfl | rfl | rfl | rfl | rfl | rfl | rfl <;> exact ⟨_, rfl⟩
    rw [List.cons_append, List.cons_append, scanUnits, if_neg hu, he]
    · exact ih _
    · exact fun _ _ _ _ _ _ hc _ => hu hc
  | @unicode a b c d cs hex _ ih =>
    obtain ⟨u, hquad⟩ := Option.isSome_iff_exists.1 hex
    obtain ⟨next, tail, htail⟩ : ∃ next tail, cs ++ '"' :: rest = next :: tail := by
      cases cs <;> exact ⟨_, _, rfl⟩
    have hlater := ih (u :: units)
    simp only [List.cons_append]
    rw [htail] at hlater ⊢
    rw [scanUnits, hquad]
    exact hlater

theorem scanString_append (h : StringBody cs) (rest : List Char) :
    ∃ text, scanString (cs ++ '"' :: rest) = .ok (text, rest) := by
  obtain ⟨us, hus⟩ := scanUnits_append ((cs ++ '"' :: rest).length + 1) h [] rest
  unfold scanString
  rw [hus]
  exact ⟨_, rfl⟩

/-! ## Numbers -/

theorem spanDigits_append {ds : List Char} (hds : ∀ c ∈ ds, c.isDigit = true)
    (hrest : StopsAt Char.isDigit rest) : spanDigits (ds ++ rest) = (ds, rest) := by
  have hstop : rest.takeWhile Char.isDigit = [] ∧ rest.dropWhile Char.isDigit = rest := by
    cases rest with
    | nil => exact ⟨rfl, rfl⟩
    | cons c tail => simp [hrest c tail rfl]
  unfold spanDigits
  rw [List.takeWhile_append_of_pos hds, List.dropWhile_append_of_pos hds, hstop.1, hstop.2,
    List.append_nil]

theorem Digits.exists_cons {ds : List Char} (h : Digits ds) :
    ∃ d tail, ds = d :: tail ∧ d.isDigit = true := by
  obtain ⟨hne, hdigit⟩ := h
  cases ds with
  | nil => exact absurd rfl hne
  | cons d tail => exact ⟨d, tail, rfl, hdigit d (by simp)⟩

theorem WholePart.exists_cons {ds : List Char} (h : WholePart ds) :
    ∃ d tail, ds = d :: tail ∧ d.isDigit = true := by
  rcases h with rfl | ⟨hdigits, -⟩
  · exact ⟨'0', [], rfl, by decide⟩
  · exact hdigits.exists_cons

theorem scanWhole?_append {ds : List Char} (h : WholePart ds) (hrest : StopsAt Char.isDigit rest) :
    scanWhole? (ds ++ rest) = some (ds, rest) := by
  rcases h with rfl | ⟨hdigits, hzero⟩
  · rfl
  · obtain ⟨d, tail, rfl, hd⟩ := hdigits.exists_cons
    have hne : d ≠ '0' := fun hd => hzero (by rw [hd]; rfl)
    rw [List.cons_append, scanWhole?, if_pos hd, ← List.cons_append,
      spanDigits_append hdigits.isDigit hrest]
    exact hne

theorem scanFraction_append (h : FractionPart cs) (hrest : StopsAt Char.isDigit rest)
    (hpoint : StopsAt (· == '.') rest) : ∃ ds, scanFraction (cs ++ rest) = (ds, rest) := by
  rcases h with rfl | ⟨ds, rfl, hdigits⟩
  · refine ⟨[], ?_⟩
    rw [List.nil_append, scanFraction]
    intro tail heq
    exact absurd (hpoint _ _ heq) (by decide)
  · refine ⟨ds, ?_⟩
    obtain ⟨d, tail, rfl, -⟩ := hdigits.exists_cons
    rw [List.cons_append, scanFraction, spanDigits_append hdigits.isDigit hrest]

/-- The mark of an exponent. -/
def isMark (c : Char) : Bool := c == 'e' || c == 'E'

theorem cutSign_append {sign ds : List Char} (hsign : sign = [] ∨ sign = ['+'] ∨ sign = ['-'])
    (hdigits : Digits ds) (rest : List Char) :
    ∃ negative, Numeral.cutSign (sign ++ ds ++ rest) = (negative, ds ++ rest) := by
  rcases hsign with rfl | rfl | rfl
  · obtain ⟨d, tail, rfl, hd⟩ := hdigits.exists_cons
    refine ⟨false, ?_⟩
    rw [List.nil_append, List.cons_append, Numeral.cutSign]
    · intro cs heq
      rw [(List.cons.inj heq).1] at hd
      exact absurd hd (by decide)
    · intro cs heq
      rw [(List.cons.inj heq).1] at hd
      exact absurd hd (by decide)
  · exact ⟨false, rfl⟩
  · exact ⟨true, rfl⟩

theorem scanExponent_append (h : ExponentPart cs) (hrest : StopsAt Char.isDigit rest)
    (hmark : StopsAt isMark rest) : ∃ e, scanExponent (cs ++ rest) = (e, rest) := by
  rcases h with rfl | ⟨mark, sign, ds, rfl, hm, hsign, hdigits⟩
  · refine ⟨none, ?_⟩
    rw [List.nil_append]
    cases rest with
    | nil => rfl
    | cons c tail =>
      have hc := hmark c tail rfl
      rw [scanExponent, if_neg (by simpa [isMark] using hc)]
  · obtain ⟨negative, hcut⟩ := cutSign_append hsign hdigits rest
    rw [List.cons_append, scanExponent, if_pos (by simpa using hm), hcut]
    simp only [spanDigits_append hdigits.isDigit hrest]
    obtain ⟨d, tail, rfl, -⟩ := hdigits.exists_cons
    exact ⟨_, rfl⟩

/-- What stands after a value continues no number. -/
theorem Ends.stopsAt (h : Ends rest) : StopsAt Char.isDigit rest ∧ StopsAt (· == '.') rest ∧
    StopsAt isMark rest := by
  have hclass : ∀ c : Char, isBlank c = true ∨ c = ',' ∨ c = ']' ∨ c = '}' →
      c.isDigit = false ∧ (c == '.') = false ∧ isMark c = false := by
    intro c hc
    have hmem : c ∈ [' ', '\t', '\n', '\r', ',', ']', '}'] := by
      simpa [isBlank, or_assoc] using hc
    simp only [List.mem_cons, List.not_mem_nil, or_false] at hmem
    rcases hmem with rfl | rfl | rfl | rfl | rfl | rfl | rfl <;> decide
  exact ⟨fun c tail heq => (hclass c (h c tail heq)).1,
    fun c tail heq => (hclass c (h c tail heq)).2.1,
    fun c tail heq => (hclass c (h c tail heq)).2.2⟩

theorem StopsAt.append {p : Char → Bool} (hcs : StopsAt p cs) (hrest : StopsAt p rest) :
    StopsAt p (cs ++ rest) := by
  intro c tail heq
  cases cs with
  | nil => exact hrest c tail heq
  | cons d ds =>
    obtain ⟨rfl, -⟩ := List.cons.inj heq
    exact hcs d ds rfl

theorem FractionPart.stopsAt (h : FractionPart cs) : StopsAt Char.isDigit cs := by
  intro c tail heq
  rcases h with rfl | ⟨ds, rfl, -⟩
  · cases heq
  · rw [← (List.cons.inj heq).1]
    decide

theorem ExponentPart.stopsAt (h : ExponentPart cs) :
    StopsAt Char.isDigit cs ∧ StopsAt (· == '.') cs := by
  rcases h with rfl | ⟨mark, sign, ds, rfl, hmark, -, -⟩
  · exact ⟨fun _ _ heq => (nomatch heq), fun _ _ heq => (nomatch heq)⟩
  · constructor
    all_goals
      intro c tail heq
      obtain ⟨rfl, -⟩ := List.cons.inj heq
      rcases hmark with rfl | rfl <;> decide

theorem takes_numberOfParts (negative : Bool) (whole fraction : List Char) (e : Option Int)
    (rest : List Char) :
    Takes ((numberOfParts negative whole fraction e).map fun v => (v, rest)) rest := by
  unfold numberOfParts
  split
  · split
    · exact .inr ⟨_, rfl⟩
    · exact .inl ⟨_, rfl⟩
  · exact .inl ⟨_, rfl⟩

/-- A number is put together from the parts that are scanned one after the other. -/
theorem scanNumber_parts {sign whole tail after ds : List Char} {e : Option Int}
    (hsign : sign = [] ∨ sign = ['-']) (hwhole : WholePart whole) (htail : StopsAt Char.isDigit tail)
    (hfraction : scanFraction tail = (ds, after)) (hexponent : scanExponent after = (e, rest)) :
    scanNumber (sign ++ (whole ++ tail)) =
      (numberOfParts (sign == ['-']) whole ds e).map fun v => (v, rest) := by
  have hscan := scanWhole?_append hwhole htail
  rcases hsign with rfl | rfl
  · obtain ⟨d, ds', rfl, hd⟩ := hwhole.exists_cons
    unfold scanNumber
    split
    rename_i negative body hbody
    split at hbody
    · rename_i heq
      obtain ⟨rfl, -⟩ := List.cons.inj heq
      exact absurd hd (by decide)
    · cases hbody
      simp only [List.nil_append, hscan, hfraction, hexponent]
      rfl
  · unfold scanNumber
    simp only [List.singleton_append, hscan, hfraction, hexponent]
    rfl

/-- A number is scanned to its end, unless it is an integer with too many digits. -/
theorem scanNumber_append (h : NumberText cs) (hrest : Ends rest) :
    Takes (scanNumber (cs ++ rest)) rest := by
  obtain ⟨hdigit, hpoint, hmark⟩ := hrest.stopsAt
  cases h with
  | @mk sign whole fraction exponent hsign hwhole hfraction hexponent =>
    obtain ⟨e, he⟩ := scanExponent_append hexponent hdigit hmark
    obtain ⟨f, hf⟩ := scanFraction_append hfraction (hexponent.stopsAt.1.append hdigit)
      (hexponent.stopsAt.2.append hpoint)
    have htail := hfraction.stopsAt.append (hexponent.stopsAt.1.append hdigit)
    have htext : sign ++ whole ++ fraction ++ exponent ++ rest =
        sign ++ (whole ++ (fraction ++ (exponent ++ rest))) := by
      simp only [List.append_assoc]
    rw [htext, scanNumber_parts hsign hwhole htail hf he]
    exact takes_numberOfParts _ _ _ _ _

/-! ## Words -/

theorem words_eq : words =
    [(['n', 'u', 'l', 'l'], .null), (['t', 'r', 'u', 'e'], .bool true),
      (['f', 'a', 'l', 's', 'e'], .bool false), (['N', 'a', 'N'], .float .nan),
      (['I', 'n', 'f', 'i', 'n', 'i', 't', 'y'], .float (.infinity false)),
      (['-', 'I', 'n', 'f', 'i', 'n', 'i', 't', 'y'], .float (.infinity true))] := by
  simp [words]

theorem scanWord?_append {v : Json} (h : (cs, v) ∈ words) (rest : List Char) :
    scanWord? (cs ++ rest) = some (v, rest) := by
  unfold scanWord?
  rw [words_eq] at h ⊢
  simp only [List.mem_cons, Prod.mk.injEq, List.not_mem_nil, or_false] at h
  rcases h with ⟨rfl, rfl⟩ | ⟨rfl, rfl⟩ | ⟨rfl, rfl⟩ | ⟨rfl, rfl⟩ | ⟨rfl, rfl⟩ | ⟨rfl, rfl⟩ <;> rfl

/-- No number starts as a word does. -/
theorem scanWord?_number (h : NumberText cs) (rest : List Char) : scanWord? (cs ++ rest) = none := by
  obtain ⟨hsign, hwhole, -, -⟩ := h
  obtain ⟨d, tail, rfl, hd⟩ := hwhole.exists_cons
  have hne : ∀ c ∈ ['n', 't', 'f', 'N', 'I', '-'], c ≠ d := by
    rintro c hc rfl
    simp only [List.mem_cons, List.not_mem_nil, or_false] at hc
    rcases hc with rfl | rfl | rfl | rfl | rfl | rfl <;> exact absurd hd (by decide)
  simp only [List.mem_cons, List.not_mem_nil, or_false, forall_eq_or_imp, forall_eq] at hne
  unfold scanWord?
  rw [words_eq]
  rcases hsign with rfl | rfl <;> simp [hne]

/-! ## Blanks -/

theorem skipBlanks_append {b : List Char} (hb : Blanks b) (rest : List Char) :
    skipBlanks (b ++ rest) = skipBlanks rest :=
  List.dropWhile_append_of_pos hb

theorem skipBlanks_of_stopsAt (h : StopsAt isBlank rest) : skipBlanks rest = rest := by
  unfold skipBlanks
  cases rest with
  | nil => rfl
  | cons c tail => rw [List.dropWhile_cons_of_neg (by simp [h c tail rfl])]

theorem Ends.blanks_append {b : List Char} (hb : Blanks b) (hrest : Ends rest) :
    Ends (b ++ rest) := by
  intro c tail heq
  cases b with
  | nil => exact hrest c tail heq
  | cons d ds =>
    obtain ⟨rfl, -⟩ := List.cons.inj heq
    exact .inl (hb d (by simp))

/-- The text starts neither with a blank nor with the end of a list or an object. -/
def Starts (cs : List Char) : Prop :=
  ∃ c tail, cs = c :: tail ∧ isBlank c = false ∧ c ≠ ']' ∧ c ≠ '}'

theorem Starts.append (h : Starts cs) (rest : List Char) : Starts (cs ++ rest) := by
  obtain ⟨c, tail, rfl, hc⟩ := h
  exact ⟨c, tail ++ rest, rfl, hc⟩

theorem Starts.skipBlanks_append {b : List Char} (h : Starts cs) (hb : Blanks b) :
    skipBlanks (b ++ cs) = cs := by
  rw [Json.skipBlanks_append hb]
  refine skipBlanks_of_stopsAt fun c tail heq => ?_
  obtain ⟨d, tail', rfl, hd, -⟩ := h
  rw [← (List.cons.inj heq).1]
  exact hd

theorem starts_of_isDigit {d : Char} (h : d.isDigit = true) (tail : List Char) :
    Starts (d :: tail) := by
  refine ⟨d, tail, rfl, ?_, ?_, ?_⟩
  · rw [← Bool.not_eq_true]
    intro hblank
    simp only [isBlank, Bool.or_eq_true, beq_iff_eq, or_assoc] at hblank
    rcases hblank with rfl | rfl | rfl | rfl <;> exact absurd h (by decide)
  · rintro rfl
    exact absurd h (by decide)
  · rintro rfl
    exact absurd h (by decide)

/-- A number starts with a digit or a sign. -/
theorem NumberText.exists_cons (h : NumberText cs) :
    ∃ c tail, cs = c :: tail ∧ c ≠ '"' ∧ c ≠ '{' ∧ c ≠ '[' := by
  obtain ⟨hsign, hwhole, -, -⟩ := h
  rcases hsign with rfl | rfl
  · obtain ⟨d, tail, rfl, hd⟩ := hwhole.exists_cons
    refine ⟨d, _, rfl, ?_, ?_, ?_⟩ <;> rintro rfl <;> exact absurd hd (by decide)
  · exact ⟨'-', _, rfl, by decide⟩

theorem NumberText.starts (h : NumberText cs) : Starts cs := by
  obtain ⟨hsign, hwhole, -, -⟩ := h
  rcases hsign with rfl | rfl
  · obtain ⟨d, tail, rfl, hd⟩ := hwhole.exists_cons
    exact ((starts_of_isDigit hd tail).append _).append _
  · exact ⟨'-', _, rfl, by decide⟩

theorem Written.starts {part : Part} (h : Written part cs) : Starts cs := by
  induction h with
  | word h =>
    rw [words_eq] at h
    simp only [List.mem_cons, Prod.mk.injEq, List.not_mem_nil, or_false] at h
    rcases h with ⟨rfl, -⟩ | ⟨rfl, -⟩ | ⟨rfl, -⟩ | ⟨rfl, -⟩ | ⟨rfl, -⟩ | ⟨rfl, -⟩ <;>
      exact ⟨_, _, rfl, by decide⟩
  | number h => exact h.starts
  | string _ => exact ⟨'"', _, rfl, by decide⟩
  | emptyList _ => exact ⟨'[', _, rfl, by decide⟩
  | list _ _ _ => exact ⟨'[', _, rfl, by decide⟩
  | object _ ih => exact ih
  | emptyObject _ => exact ⟨'{', _, rfl, by decide⟩
  | fields _ _ _ => exact ⟨'{', _, rfl, by decide⟩
  | item _ _ ih => exact ih.append _
  | lastItem _ ih => exact ih
  | moreItems _ _ _ ih _ => exact ih.append _
  | field _ _ _ _ _ _ => exact ⟨'"', _, rfl, by decide⟩
  | lastField _ ih => exact ih
  | moreFields _ _ _ ih _ => exact ih.append _

end QueryPlans.Json
