import QueryPlans.Proofs.Json.Scan

/-!
# JSON texts have values

* `Part.IsScanned` — how the scanners take a part of a JSON text, whatever follows.

Principal results: `Written.isScanned` — they take every part to its end; `decode_object` — the text of
an object has an object for its value, unless it exceeds a limit.
-/

namespace QueryPlans.Json

variable {cs : List Char}

/-- The scanner takes an object, up to the rest, unless the text exceeds a limit. -/
def TakesObject (scan : Scan Json) (rest : List Char) : Prop :=
  (∃ fields, scan = .ok (.obj fields, rest)) ∨ ∃ l, scan = .error (.exceeded l)

theorem TakesObject.takes {scan : Scan Json} {rest : List Char} (h : TakesObject scan rest) :
    Takes scan rest :=
  h.imp_left fun ⟨fields, hfields⟩ => ⟨.obj fields, hfields⟩

/-- The scanner takes the part to its end, or stops where the text exceeds a limit. -/
def Part.IsScanned : Part → List Char → Prop
  | value, cs | object, cs => ∀ depth fuel rest, 2 * cs.length ≤ fuel → Ends rest →
      Takes (scanValue depth fuel (cs ++ rest)) rest
  | item, cs => ∀ depth fuel rest, 2 * cs.length ≤ fuel → Ends rest → StopsAt isBlank rest →
      (∃ v after, scanValue depth fuel (cs ++ rest) = .ok (v, after) ∧ skipBlanks after = rest) ∨
        ∃ l, scanValue depth fuel (cs ++ rest) = .error (.exceeded l)
  | items, cs => ∀ depth fuel before rest, 2 * cs.length < fuel →
      Takes (scanItems depth fuel before (cs ++ ']' :: rest)) rest
  | field, cs => ∀ depth fuel before rest, 2 * cs.length ≤ fuel → Ends rest → StopsAt isBlank rest →
      (∃ fields : Fields,
        (∀ after, rest = '}' :: after →
          scanFields depth (fuel + 1) before (cs ++ rest) = .ok (.obj fields, after)) ∧
        ∀ after, rest = ',' :: after →
          scanFields depth (fuel + 1) before (cs ++ rest) = scanFields depth fuel fields (skipBlanks after)) ∨
      ∃ l, scanFields depth (fuel + 1) before (cs ++ rest) = .error (.exceeded l)
  | fields, cs => ∀ depth fuel before rest, 2 * cs.length < fuel →
      TakesObject (scanFields depth fuel before (cs ++ '}' :: rest)) rest

/-! ## Values -/

/-- A text that is no string, list or object is a word or a number. -/
theorem scanValue_plain {c : Char} (hquote : c ≠ '"') (hbrace : c ≠ '{') (hbracket : c ≠ '[')
    (depth fuel : Nat) (tail : List Char) :
    scanValue depth (fuel + 1) (c :: tail) =
      match scanWord? (c :: tail) with
      | some r => .ok r
      | none => scanNumber (c :: tail) := by
  unfold scanValue
  split
  · rename_i heq
    exact absurd (List.cons.inj heq).1 hquote
  · rename_i heq
    exact absurd (List.cons.inj heq).1 hbrace
  · rename_i heq
    exact absurd (List.cons.inj heq).1 hbracket
  · rfl

theorem scanned_word {v : Json} (h : (cs, v) ∈ words) : Part.IsScanned .value cs := by
  intro depth fuel rest hfuel _
  obtain ⟨c, tail, rfl, -⟩ := (Written.word h).starts
  obtain ⟨fuel, rfl⟩ : ∃ n, fuel = n + 1 := ⟨fuel - 1, by rw [List.length_cons] at hfuel; omega⟩
  have hword := scanWord?_append h rest
  have hplain : c ≠ '"' ∧ c ≠ '{' ∧ c ≠ '[' := by
    rw [words_eq] at h
    simp only [List.mem_cons, Prod.mk.injEq, List.cons.injEq, List.not_mem_nil, or_false] at h
    rcases h with ⟨⟨rfl, -⟩, -⟩ | ⟨⟨rfl, -⟩, -⟩ | ⟨⟨rfl, -⟩, -⟩ | ⟨⟨rfl, -⟩, -⟩ | ⟨⟨rfl, -⟩, -⟩ |
      ⟨⟨rfl, -⟩, -⟩ <;> decide
  rw [List.cons_append] at hword ⊢
  rw [scanValue_plain hplain.1 hplain.2.1 hplain.2.2, hword]
  exact .inl ⟨v, rfl⟩

/-- A value that starts as a number does is scanned as one. -/
theorem scanValue_number (h : NumberText cs) (depth fuel : Nat) (rest : List Char) :
    scanValue depth (fuel + 1) (cs ++ rest) = scanNumber (cs ++ rest) := by
  have hword := scanWord?_number h rest
  obtain ⟨c, tail, rfl, hplain⟩ := h.exists_cons
  rw [List.cons_append] at hword ⊢
  rw [scanValue_plain hplain.1 hplain.2.1 hplain.2.2, hword]

theorem scanned_number (h : NumberText cs) : Part.IsScanned .value cs := by
  intro depth fuel rest hfuel hrest
  obtain ⟨fuel, rfl⟩ : ∃ n, fuel = n + 1 := by
    obtain ⟨c, tail, rfl, -⟩ := h.exists_cons
    rw [List.length_cons] at hfuel
    exact ⟨fuel - 1, by omega⟩
  rw [scanValue_number h]
  exact scanNumber_append h hrest

theorem scanned_string {body : List Char} (h : StringBody body) :
    Part.IsScanned .value ('"' :: (body ++ ['"'])) := by
  intro depth fuel rest hfuel _
  obtain ⟨fuel, rfl⟩ : ∃ n, fuel = n + 1 := ⟨fuel - 1, by rw [List.length_cons] at hfuel; omega⟩
  obtain ⟨text, htext⟩ := scanString_append h rest
  refine .inl ⟨.str text, ?_⟩
  rw [List.cons_append, List.append_assoc, List.singleton_append, scanValue, htext]
  rfl

theorem scanned_emptyList {b : List Char} (hb : Blanks b) :
    Part.IsScanned .value ('[' :: (b ++ [']'])) := by
  intro depth fuel rest hfuel _
  obtain ⟨fuel, rfl⟩ : ∃ n, fuel = n + 1 := ⟨fuel - 1, by rw [List.length_cons] at hfuel; omega⟩
  rw [List.cons_append, List.append_assoc, List.singleton_append]
  cases depth with
  | zero => exact .inr ⟨.list, rfl⟩
  | succ depth =>
    refine .inl ⟨.arr [], ?_⟩
    rw [scanValue]
    simp only [skipBlanks_append hb]
    rfl

theorem scanned_list {b items : List Char} (hb : Blanks b) (hstarts : Starts items)
    (h : Part.IsScanned .items items) : Part.IsScanned .value ('[' :: (b ++ items ++ [']'])) := by
  intro depth fuel rest hfuel _
  simp only [List.length_cons, List.length_append] at hfuel
  obtain ⟨fuel, rfl⟩ : ∃ n, fuel = n + 1 := ⟨fuel - 1, by omega⟩
  have hskip := (hstarts.append (']' :: rest)).skipBlanks_append hb
  rw [List.cons_append, List.append_assoc, List.append_assoc, List.singleton_append]
  cases depth with
  | zero => exact .inr ⟨.list, rfl⟩
  | succ depth =>
    have hitems := h depth fuel [] rest (by omega)
    obtain ⟨c, tail, rfl, -, hc, -⟩ := hstarts
    rw [scanValue]
    simp only [hskip]
    rw [List.cons_append] at hitems ⊢
    split
    · rename_i heq
      exact absurd (List.cons.inj heq).1 hc
    · exact hitems

/-! ## Objects -/

theorem scanned_emptyObject {b : List Char} (hb : Blanks b) (depth : Nat) {fuel : Nat}
    (hfuel : 0 < fuel) (rest : List Char) :
    TakesObject (scanValue depth fuel ('{' :: (b ++ ['}']) ++ rest)) rest := by
  obtain ⟨fuel, rfl⟩ : ∃ n, fuel = n + 1 := ⟨fuel - 1, by omega⟩
  rw [List.cons_append, List.append_assoc, List.singleton_append]
  cases depth with
  | zero => exact .inr ⟨.object, rfl⟩
  | succ depth =>
    refine .inl ⟨[], ?_⟩
    rw [scanValue]
    simp only [skipBlanks_append hb]
    rfl

theorem scanned_object {b fields : List Char} (hb : Blanks b) (hstarts : Starts fields)
    (h : Part.IsScanned .fields fields) (depth : Nat) {fuel : Nat} (rest : List Char)
    (hfuel : 2 * ('{' :: (b ++ fields ++ ['}'])).length ≤ fuel) :
    TakesObject (scanValue depth fuel ('{' :: (b ++ fields ++ ['}']) ++ rest)) rest := by
  simp only [List.length_cons, List.length_append] at hfuel
  obtain ⟨fuel, rfl⟩ : ∃ n, fuel = n + 1 := ⟨fuel - 1, by omega⟩
  have hskip := (hstarts.append ('}' :: rest)).skipBlanks_append hb
  rw [List.cons_append, List.append_assoc, List.append_assoc, List.singleton_append]
  cases depth with
  | zero => exact .inr ⟨.object, rfl⟩
  | succ depth =>
    have hfields := h depth fuel [] rest (by omega)
    obtain ⟨c, tail, rfl, -, -, hc⟩ := hstarts
    rw [scanValue]
    simp only [hskip]
    rw [List.cons_append] at hfields ⊢
    split
    · rename_i heq
      exact absurd (List.cons.inj heq).1 hc
    · exact hfields

/-! ## Items and fields -/

theorem scanned_item {v b : List Char} (hv : Part.IsScanned .value v) (hb : Blanks b) :
    Part.IsScanned .item (v ++ b) := by
  intro depth fuel rest hfuel hrest hstop
  rw [List.length_append] at hfuel
  rw [List.append_assoc]
  rcases hv depth fuel (b ++ rest) (by omega) (hrest.blanks_append hb) with ⟨a, ha⟩ | htoo
  · refine .inl ⟨a, b ++ rest, ha, ?_⟩
    rw [skipBlanks_append hb, skipBlanks_of_stopsAt hstop]
  · exact .inr htoo

/-- A closing bracket or brace, or a comma, may stand after a value, and is no blank. -/
theorem ends_cons {c : Char} (hc : c = ',' ∨ c = ']' ∨ c = '}') (rest : List Char) :
    Ends (c :: rest) ∧ StopsAt isBlank (c :: rest) := by
  constructor
  · intro d tail heq
    obtain ⟨rfl, -⟩ := List.cons.inj heq
    exact .inr hc
  · intro d tail heq
    obtain ⟨rfl, -⟩ := List.cons.inj heq
    rcases hc with rfl | rfl | rfl <;> decide

theorem scanned_lastItem (h : Part.IsScanned .item cs) : Part.IsScanned .items cs := by
  intro depth fuel before rest hfuel
  obtain ⟨fuel, rfl⟩ : ∃ n, fuel = n + 1 := ⟨fuel - 1, by omega⟩
  obtain ⟨hends, hstop⟩ := ends_cons (c := ']') (by simp) rest
  rw [scanItems]
  rcases h depth fuel (']' :: rest) (by omega) hends hstop with ⟨v, after, hv, hafter⟩ | ⟨n, hn⟩
  · refine .inl ⟨.arr (v :: before).reverse, ?_⟩
    rw [hv]
    simp only [hafter]
  · refine .inr ⟨n, ?_⟩
    rw [hn]

theorem scanned_moreItems {b items : List Char} (h : Part.IsScanned .item cs) (hb : Blanks b)
    (hstarts : Starts items) (hs : Part.IsScanned .items items) :
    Part.IsScanned .items (cs ++ ',' :: (b ++ items)) := by
  intro depth fuel before rest hfuel
  simp only [List.length_cons, List.length_append] at hfuel
  obtain ⟨fuel, rfl⟩ : ∃ n, fuel = n + 1 := ⟨fuel - 1, by omega⟩
  obtain ⟨hends, hstop⟩ := ends_cons (c := ',') (by simp) (b ++ (items ++ ']' :: rest))
  rw [List.append_assoc, List.cons_append, List.append_assoc, scanItems]
  rcases h depth fuel _ (by omega) hends hstop with ⟨v, after, hv, hafter⟩ | ⟨n, hn⟩
  · rw [hv]
    simp only [hafter, (hstarts.append (']' :: rest)).skipBlanks_append hb]
    exact hs depth fuel (v :: before) rest (by omega)
  · refine .inr ⟨n, ?_⟩
    rw [hn]

theorem scanned_field {name b₁ b₂ v b₃ : List Char} (hname : StringBody name) (hb₁ : Blanks b₁)
    (hb₂ : Blanks b₂) (hstarts : Starts v) (hv : Part.IsScanned .value v) (hb₃ : Blanks b₃) :
    Part.IsScanned .field ('"' :: (name ++ '"' :: (b₁ ++ ':' :: (b₂ ++ v ++ b₃)))) := by
  intro depth fuel before rest hfuel hrest hstop
  simp only [List.length_cons, List.length_append] at hfuel
  obtain ⟨text, htext⟩ := scanString_append hname (b₁ ++ ':' :: (b₂ ++ (v ++ (b₃ ++ rest))))
  have hcolon : skipBlanks (b₁ ++ ':' :: (b₂ ++ (v ++ (b₃ ++ rest)))) =
      ':' :: (b₂ ++ (v ++ (b₃ ++ rest))) := by
    rw [skipBlanks_append hb₁]
    rfl
  have hvalue := (hstarts.append (b₃ ++ rest)).skipBlanks_append hb₂
  have hshape : '"' :: (name ++ '"' :: (b₁ ++ ':' :: (b₂ ++ v ++ b₃))) ++ rest =
      '"' :: (name ++ '"' :: (b₁ ++ ':' :: (b₂ ++ (v ++ (b₃ ++ rest))))) := by
    simp only [List.cons_append, List.append_assoc]
  rw [hshape, scanFields, htext]
  simp only [hcolon, hvalue]
  rcases scanned_item hv hb₃ depth fuel rest (by rw [List.length_append]; omega) hrest hstop with
    ⟨a, after, ha, hafter⟩ | ⟨n, hn⟩
  · rw [List.append_assoc] at ha
    rw [ha]
    refine .inl ⟨before.put text a, ?_, ?_⟩
    · rintro tail rfl
      simp only [hafter]
    · rintro tail rfl
      simp only [hafter]
  · rw [List.append_assoc] at hn
    rw [hn]
    exact .inr ⟨n, rfl⟩

theorem scanned_lastField (h : Part.IsScanned .field cs) : Part.IsScanned .fields cs := by
  intro depth fuel before rest hfuel
  obtain ⟨fuel, rfl⟩ : ∃ n, fuel = n + 1 := ⟨fuel - 1, by omega⟩
  obtain ⟨hends, hstop⟩ := ends_cons (c := '}') (by simp) rest
  rcases h depth fuel before _ (by omega) hends hstop with ⟨fields, hlast, -⟩ | htoo
  · exact .inl ⟨fields, hlast rest rfl⟩
  · exact .inr htoo

theorem scanned_moreFields {b fields : List Char} (h : Part.IsScanned .field cs) (hb : Blanks b)
    (hstarts : Starts fields) (hs : Part.IsScanned .fields fields) :
    Part.IsScanned .fields (cs ++ ',' :: (b ++ fields)) := by
  intro depth fuel before rest hfuel
  simp only [List.length_cons, List.length_append] at hfuel
  obtain ⟨fuel, rfl⟩ : ∃ n, fuel = n + 1 := ⟨fuel - 1, by omega⟩
  obtain ⟨hends, hstop⟩ := ends_cons (c := ',') (by simp) (b ++ (fields ++ '}' :: rest))
  rw [List.append_assoc, List.cons_append, List.append_assoc]
  rcases h depth fuel before _ (by omega) hends hstop with ⟨first, -, hmore⟩ | htoo
  · rw [hmore _ rfl, (hstarts.append ('}' :: rest)).skipBlanks_append hb]
    exact hs depth fuel first rest (by omega)
  · exact .inr htoo

/-- Every part of a JSON text is scanned to its end. -/
theorem Written.isScanned {part : Part} (h : Written part cs) : part.IsScanned cs := by
  induction h with
  | word h => exact scanned_word h
  | number h => exact scanned_number h
  | string h => exact scanned_string h
  | emptyList hb => exact scanned_emptyList hb
  | list hb h ih => exact scanned_list hb h.starts ih
  | object _ ih => exact ih
  | emptyObject hb =>
    intro depth fuel rest hfuel _
    rw [List.length_cons] at hfuel
    exact (scanned_emptyObject hb depth (by omega) rest).takes
  | fields hb h ih =>
    intro depth fuel rest hfuel _
    exact (scanned_object hb h.starts ih depth rest hfuel).takes
  | item _ hb ih => exact scanned_item ih hb
  | lastItem _ ih => exact scanned_lastItem ih
  | moreItems _ hb hs ih ihs => exact scanned_moreItems ih hb hs.starts ihs
  | field hname hb₁ hb₂ hv hb₃ ih => exact scanned_field hname hb₁ hb₂ hv.starts ih hb₃
  | lastField _ ih => exact scanned_lastField ih
  | moreFields _ hb hs ih ihs => exact scanned_moreFields ih hb hs.starts ihs

/-! ## Whole texts -/

theorem scanValue_object (h : Written .object cs) (depth : Nat) {fuel : Nat}
    (hfuel : 2 * cs.length ≤ fuel) (rest : List Char) :
    TakesObject (scanValue depth fuel (cs ++ rest)) rest := by
  cases h with
  | emptyObject hb =>
    rw [List.length_cons] at hfuel
    exact scanned_emptyObject hb depth (by omega) rest
  | fields hb h => exact scanned_object hb h.starts h.isScanned depth rest hfuel

theorem scanText_object (h : Written .object cs) (depth : Nat) :
    (∃ fields, scanText cs depth = .ok (.obj fields)) ∨ ∃ l, scanText cs depth = .error (.exceeded l) := by
  have hskip := h.starts.skipBlanks_append (b := []) (by simp [Blanks])
  have hmark : cs.head? ≠ some '\uFEFF' := by
    obtain ⟨inner, rfl, -⟩ := h.braces
    rw [List.head?_cons]
    decide
  have hfuel : 2 * cs.length ≤ 2 * cs.length + 2 := by omega
  have hscan := scanValue_object h depth hfuel []
  rw [List.append_nil] at hscan
  rw [List.nil_append] at hskip
  unfold scanText
  rw [if_neg hmark]
  simp only [hskip]
  rcases hscan with ⟨fields, hfields⟩ | ⟨l, hl⟩
  · rw [hfields]
    exact .inl ⟨fields, rfl⟩
  · rw [hl]
    exact .inr ⟨l, rfl⟩

/-- The text of an object has an object for its value, unless it exceeds a limit. -/
theorem decode_object {text : String} (h : Written .object text.toList) (depth : Nat) :
    (∃ fields, decode text depth = .ok (.obj fields)) ∨ ∃ l, decode text depth = .error (.exceeded l) := by
  unfold decode
  rcases scanText_object h depth with ⟨fields, hfields⟩ | ⟨l, hl⟩
  · simp only [hfields]
    exact .inl ⟨fields, rfl⟩
  · simp only [hl]
    exact .inr ⟨l, rfl⟩

end QueryPlans.Json
