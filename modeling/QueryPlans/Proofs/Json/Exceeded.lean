import QueryPlans.Proofs.Json.Scanned

/-!
# Texts that exceed a limit

* `Json.Exceeds` — a text comes to a value that exceeds a limit before it is malformed.

Principal results: `scanValue_integer` — the value of an integer, or its number of digits;
`Leading.stops` — a scan stops at a value that exceeds a limit and stands where a value may stand;
`exists_exceeded_iff` — this is the only way to exceed one.
-/

namespace QueryPlans.Json

variable {cs rest sign whole : List Char} {depth fuel n : Nat} {l : Limit} {part : Part}

/-! ## Integers -/

theorem EndsInteger.scanFraction (h : EndsInteger rest) : scanFraction rest = ([], rest) := by
  obtain ⟨fraction, after, hscan, hsplit, hpart, -⟩ := scanFraction_split rest
  obtain rfl := h.fraction fraction after hsplit hpart
  rw [hscan, hsplit]
  rfl

theorem EndsInteger.scanExponent (h : EndsInteger rest) : scanExponent rest = (none, rest) := by
  obtain ⟨exponent, e, after, hscan, hsplit, hpart, -⟩ := scanExponent_split rest
  obtain rfl := h.exponent exponent after hsplit hpart.exponentPart
  rw [hscan, hpart.eq_none_iff.2 rfl, hsplit]
  rfl

/-- An integer is scanned to its end; it has a value, or too many digits. -/
theorem scanValue_integer (hsign : sign = [] ∨ sign = ['-']) (hwhole : WholePart whole)
    (hrest : EndsInteger rest) (depth fuel : Nat) :
    scanValue depth (fuel + 1) (sign ++ (whole ++ rest)) =
      if Numeral.digitLimit < whole.length then .error (.exceeded (.digits whole.length))
      else .ok (.int (Double.signed (sign == ['-']) (digitsValue whole)), rest) := by
  have hnumber : NumberText (sign ++ whole ++ [] ++ []) := .mk hsign hwhole (.inl rfl) (.inl rfl)
  have hstop := lacks_digits_iff.1 hrest.digits
  have hscan := scanNumber_parts hsign hwhole hstop hrest.scanFraction hrest.scanExponent
  have hvalue := scanValue_number hnumber depth fuel rest
  simp only [List.append_nil, List.append_assoc] at hvalue
  rw [hvalue, hscan]
  unfold numberOfParts
  rw [if_pos ⟨rfl, rfl⟩]
  split <;> rfl

theorem OverlongInteger.starts (h : OverlongInteger n cs) : Starts cs := by
  cases h with
  | @mk sign whole rest hsign hwhole =>
    have hnumber := NumberText.mk hsign hwhole (.inl rfl) (.inl rfl)
    have hstarts := hnumber.starts.append rest
    simpa only [List.append_nil, List.append_assoc] using hstarts

/-- What ends a value ends an integer. -/
theorem Ends.endsInteger (h : Ends rest) : EndsInteger rest := by
  obtain ⟨hdigit, hpoint, hmark⟩ := h.stopsAt
  refine ⟨lacks_digits_iff.2 hdigit, ?_, ?_⟩
  · intro start more heq hpart
    rcases hpart with rfl | ⟨ds, rfl, -⟩
    · rfl
    · exact absurd (hpoint _ _ heq) (by decide)
  · intro start more heq hpart
    rcases hpart with rfl | ⟨mark, sign, ds, rfl, hm, -⟩
    · rfl
    · exact absurd (hmark _ _ heq) (by rcases hm with rfl | rfl <;> decide)

/-! ## Texts up to a value that exceeds a limit -/

theorem Exceeding.starts (h : Exceeding depth l cs) : Starts cs := by
  cases h with
  | integer hinteger => exact hinteger.starts
  | list rest => exact ⟨'[', rest, rfl, by decide⟩
  | object rest => exact ⟨'{', rest, rfl, by decide⟩

/-- The scan for a value stops where the value exceeds a limit. -/
theorem Exceeding.scanValue (h : Exceeding depth l cs) (fuel : Nat) :
    scanValue depth (fuel + 1) cs = .error (.exceeded l) := by
  cases h with
  | integer hinteger =>
    obtain ⟨hsign, hwhole, hlong, hrest⟩ := hinteger
    rw [scanValue_integer hsign hwhole hrest, if_pos hlong]
  | list rest => rfl
  | object rest => rfl

/-- The scan for such a part, with room for so many lists and objects, stops at a limit. -/
def Part.Stops : Part → (depth : Nat) → List Char → Prop
  | value, depth, cs => ∀ fuel, 2 * cs.length ≤ fuel → ∃ l, scanValue depth fuel cs = .error (.exceeded l)
  | items, depth, cs => ∀ fuel before, 2 * cs.length < fuel →
      ∃ l, scanItems depth fuel before cs = .error (.exceeded l)
  | fields, depth, cs => ∀ fuel before, 2 * cs.length < fuel →
      ∃ l, scanFields depth fuel before cs = .error (.exceeded l)
  | _, _, _ => False

theorem Leading.starts {around : Nat} {value : List Char} (h : Leading part around cs)
    (hvalue : Starts value) : Starts (cs ++ value) := by
  induction h with
  | value => exact hvalue
  | list => exact ⟨'[', _, rfl, by decide⟩
  | object => exact ⟨'{', _, rfl, by decide⟩
  | item _ ih => exact ih
  | laterItem hitem => exact (hitem.starts.append _).append _
  | field => exact ⟨'"', _, rfl, by decide⟩
  | laterField hfield => exact (hfield.starts.append _).append _

/-- A scan of items, or of fields, starts with the first character that is not blank. -/
theorem stops_list {b items : List Char} (hb : Blanks b) (hstarts : Starts items)
    (h : Part.Stops .items depth items) : Part.Stops .value (depth + 1) ('[' :: (b ++ items)) := by
  intro fuel hfuel
  simp only [List.length_cons, List.length_append] at hfuel
  obtain ⟨fuel, rfl⟩ : ∃ n, fuel = n + 1 := ⟨fuel - 1, by omega⟩
  rw [scanValue]
  simp only [hstarts.skipBlanks_append hb]
  obtain ⟨c, tail, rfl, -, hc, -⟩ := hstarts
  split
  · rename_i heq
    exact absurd (List.cons.inj heq).1 hc
  · exact h fuel [] (by omega)

theorem stops_object {b fields : List Char} (hb : Blanks b) (hstarts : Starts fields)
    (h : Part.Stops .fields depth fields) : Part.Stops .value (depth + 1) ('{' :: (b ++ fields)) := by
  intro fuel hfuel
  simp only [List.length_cons, List.length_append] at hfuel
  obtain ⟨fuel, rfl⟩ : ∃ n, fuel = n + 1 := ⟨fuel - 1, by omega⟩
  rw [scanValue]
  simp only [hstarts.skipBlanks_append hb]
  obtain ⟨c, tail, rfl, -, -, hc⟩ := hstarts
  split
  · rename_i heq
    exact absurd (List.cons.inj heq).1 hc
  · exact h fuel [] (by omega)

theorem stops_item (h : Part.Stops .value depth cs) : Part.Stops .items depth cs := by
  intro fuel before hfuel
  obtain ⟨fuel, rfl⟩ : ∃ n, fuel = n + 1 := ⟨fuel - 1, by omega⟩
  obtain ⟨l, hl⟩ := h fuel (by omega)
  rw [scanItems, hl]
  exact ⟨l, rfl⟩

theorem stops_laterItem {item b items : List Char} (hitem : Written .item item) (hb : Blanks b)
    (hstarts : Starts items) (h : Part.Stops .items depth items) :
    Part.Stops .items depth (item ++ ',' :: (b ++ items)) := by
  intro fuel before hfuel
  simp only [List.length_cons, List.length_append] at hfuel
  obtain ⟨fuel, rfl⟩ : ∃ n, fuel = n + 1 := ⟨fuel - 1, by omega⟩
  obtain ⟨hends, hstop⟩ := ends_cons (c := ',') (by simp) (b ++ items)
  rw [scanItems]
  rcases hitem.isScanned depth fuel _ (by omega) hends hstop with ⟨v, after, hv, hafter⟩ | ⟨l, hl⟩
  · rw [hv]
    simp only [hafter, hstarts.skipBlanks_append hb]
    exact h fuel (v :: before) (by omega)
  · rw [hl]
    exact ⟨l, rfl⟩

theorem stops_field {name b₁ b₂ v : List Char} (hname : StringBody name) (hb₁ : Blanks b₁)
    (hb₂ : Blanks b₂) (hstarts : Starts v) (h : Part.Stops .value depth v) :
    Part.Stops .fields depth ('"' :: (name ++ '"' :: (b₁ ++ ':' :: (b₂ ++ v)))) := by
  intro fuel before hfuel
  simp only [List.length_cons, List.length_append] at hfuel
  obtain ⟨fuel, rfl⟩ : ∃ n, fuel = n + 1 := ⟨fuel - 1, by omega⟩
  obtain ⟨text, htext⟩ := scanString_append hname (b₁ ++ ':' :: (b₂ ++ v))
  have hcolon : skipBlanks (b₁ ++ ':' :: (b₂ ++ v)) = ':' :: (b₂ ++ v) := by
    rw [skipBlanks_append hb₁]
    rfl
  obtain ⟨l, hl⟩ := h fuel (by omega)
  rw [scanFields, htext]
  simp only [hcolon, hstarts.skipBlanks_append hb₂, hl]
  exact ⟨l, rfl⟩

theorem stops_laterField {field b fields : List Char} (hfield : Written .field field) (hb : Blanks b)
    (hstarts : Starts fields) (h : Part.Stops .fields depth fields) :
    Part.Stops .fields depth (field ++ ',' :: (b ++ fields)) := by
  intro fuel before hfuel
  simp only [List.length_cons, List.length_append] at hfuel
  obtain ⟨fuel, rfl⟩ : ∃ n, fuel = n + 1 := ⟨fuel - 1, by omega⟩
  obtain ⟨hends, hstop⟩ := ends_cons (c := ',') (by simp) (b ++ fields)
  rcases hfield.isScanned depth fuel before _ (by omega) hends hstop with ⟨first, -, hmore⟩ | hexceeded
  · rw [hmore _ rfl, hstarts.skipBlanks_append hb]
    exact h fuel first (by omega)
  · exact hexceeded

/-- A scan stops at a value that exceeds a limit and stands where a value may stand, if not at another
before it. -/
theorem Leading.stops {around : Nat} {value : List Char} (h : Leading part around cs)
    (hvalue : Exceeding depth l value) : part.Stops (depth + around) (cs ++ value) := by
  induction h with
  | value =>
    intro fuel hfuel
    obtain ⟨c, tail, hsplit, -⟩ := hvalue.starts
    rw [List.nil_append] at hfuel ⊢
    obtain ⟨fuel, rfl⟩ : ∃ n, fuel = n + 1 := by
      rw [hsplit, List.length_cons] at hfuel
      exact ⟨fuel - 1, by omega⟩
    exact ⟨l, hvalue.scanValue fuel⟩
  | list hb h ih =>
    rw [List.cons_append, List.append_assoc]
    exact stops_list hb (h.starts hvalue.starts) ih
  | object hb h ih =>
    rw [List.cons_append, List.append_assoc]
    exact stops_object hb (h.starts hvalue.starts) ih
  | item _ ih => exact stops_item ih
  | laterItem hitem hb h ih =>
    rw [List.append_assoc, List.cons_append, List.append_assoc]
    exact stops_laterItem hitem hb (h.starts hvalue.starts) ih
  | field hname hb₁ hb₂ h ih =>
    have hstops := stops_field hname hb₁ hb₂ (h.starts hvalue.starts) ih
    simpa only [List.cons_append, List.append_assoc] using hstops
  | laterField hfield hb h ih =>
    rw [List.append_assoc, List.cons_append, List.append_assoc]
    exact stops_laterField hfield hb (h.starts hvalue.starts) ih

/-! ## Whole texts -/

/-- After blanks, the text comes to a value that exceeds the limit, if `depth` lists and objects may be
open at once. -/
def Exceeds (depth : Nat) (l : Limit) (text : List Char) : Prop :=
  ∃ b cs, text = b ++ cs ∧ Blanks b ∧ ExceedsIn .value depth l cs

/-- No byte order mark stands before the value. -/
theorem Exceeds.head?_ne (h : Exceeds depth l cs) : cs.head? ≠ some '\uFEFF' := by
  obtain ⟨b, body, rfl, hb, hbody⟩ := h
  cases b with
  | cons c b =>
    have hblank := hb c List.mem_cons_self
    rintro ⟨⟩
    exact absurd hblank (by decide)
  | nil =>
    obtain ⟨hbefore, -, hvalue⟩ := hbody
    cases hbefore with
    | list => exact fun hmark => nomatch hmark
    | object => exact fun hmark => nomatch hmark
    | value =>
      cases hvalue with
      | list => exact fun hmark => nomatch hmark
      | object => exact fun hmark => nomatch hmark
      | integer hinteger =>
        obtain ⟨hsign, hwhole, -, -⟩ := hinteger
        obtain ⟨d, tail, rfl, hd⟩ := hwhole.exists_cons
        rcases hsign with rfl | rfl
        · rintro ⟨⟩
          exact absurd hd (by decide)
        · exact fun hmark => nomatch hmark

theorem scanText_of_exceeds (h : Exceeds depth l cs) :
    ∃ l', scanText cs depth = .error (.exceeded l') := by
  have hmark := h.head?_ne
  obtain ⟨b, body, rfl, hb, hbody⟩ := h
  obtain ⟨hbefore, hdepth, hvalue⟩ := hbody
  have hstarts := hbefore.starts hvalue.starts
  have hstops := hbefore.stops hvalue
  rw [Nat.add_comm, hdepth] at hstops
  obtain ⟨l', hl'⟩ := hstops _ (Nat.le_add_right _ 2)
  unfold scanText
  rw [if_neg hmark]
  simp only [hstarts.skipBlanks_append hb, hl']
  exact ⟨l', rfl⟩

theorem exceeds_of_scanText (h : scanText cs depth = .error (.exceeded l)) : Exceeds depth l cs := by
  unfold scanText at h
  split at h
  · cases h
  obtain ⟨b, body, hb, hskip, rfl⟩ := exists_blanks cs
  simp only [hskip] at h
  have hscanned := (scansTo (2 * body.length + 2)).value depth body
  generalize scanValue depth (2 * body.length + 2) body = r at h hscanned
  cases hscanned with
  | malformed => cases h
  | exceeded hexceeds =>
    cases h
    exact ⟨b, body, rfl, hb, hexceeds⟩
  | taken v hv hsplit =>
    simp only at h
    split at h
    · cases h
    · cases h

theorem decode_eq_exceeded_iff {text : String} :
    decode text depth = .error (.exceeded l) ↔ scanText text.toList depth = .error (.exceeded l) := by
  unfold decode
  simp only
  generalize scanText text.toList depth = r
  cases r with
  | ok v => simp
  | error e => cases e <;> simp

/-- The limit that is reported is one that such a value exceeds. -/
theorem exceeds_of_decode {text : String} (h : decode text depth = .error (.exceeded l)) :
    Exceeds depth l text.toList :=
  exceeds_of_scanText (decode_eq_exceeded_iff.1 h)

/-- **Texts that exceed a limit.** The value of a text is given up for a limit exactly if there is a value
that exceeds one where a value may stand, behind the start of a text of JSON. -/
theorem exists_exceeded_iff {text : String} :
    (∃ l, decode text depth = .error (.exceeded l)) ↔ ∃ l, Exceeds depth l text.toList := by
  constructor
  · rintro ⟨l, h⟩
    exact ⟨l, exceeds_of_decode h⟩
  · rintro ⟨l, h⟩
    obtain ⟨l', hl'⟩ := scanText_of_exceeds h
    exact ⟨l', decode_eq_exceeded_iff.2 hl'⟩

end QueryPlans.Json
