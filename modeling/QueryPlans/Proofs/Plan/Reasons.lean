import QueryPlans.Proofs.Json.Integers
import QueryPlans.Proofs.Json.Exceeded
import QueryPlans.Proofs.Plan.Bare

/-!
# Replies without a plan, and why

A reply comes to a plan, or to an error of the plan with one of two reasons: no object was found in it, or
what was found is no plan.  A reply that exceeds a limit ends with neither reason: an integer has too many
digits to be read, or values are nested too deep to be read, or to be written in the issues.

* `Plan.found` — the text of an object in a reply that may be missing.
* `Plan.longPage` — the text of a plan for a page whose number is a power of ten.
* `Plan.Explained` — a reply comes to a plan, or to an error of the plan with the reason that fits.
* `Plan.TooMuch` — a reply exceeds a limit.

Principal results: `readReply_longPage` — how long the number of a page may be;
`replies_are_explained_iff` — which replies end without a reason; `long_page_is_unexplained` — a page whose
number is too long.
-/

namespace QueryPlans.Plan

variable {reply : Option String} {host : Host}

/-! ## What is found -/

/-- The text of an object in a reply that may be missing, or the empty text. -/
def found (reply : Option String) : String := objectText (reply.getD "")

theorem readReply_of_found (h : found reply ≠ "") (host : Host) :
    readReply reply host = ofText (found reply) host := by
  unfold found at h
  unfold readReply read
  simp only [h, ↓reduceIte]
  rfl

theorem readReply_of_not_found (h : found reply = "") (host : Host) :
    readReply reply host = .error (.noObject (reply.getD "")) := by
  unfold found at h
  unfold readReply read
  simp only [h, ↓reduceIte]

/-- Nothing is decoded from the empty text. -/
theorem decode_empty (depth : Nat) :
    ∃ reason position, Json.decode "" depth = .error (.malformed reason position) :=
  ⟨_, _, rfl⟩

/-! ## Long page numbers -/

/-- A one and so many zeros. -/
def powerDigits (k : Nat) : List Char := '1' :: List.replicate k '0'

theorem powerDigits_digits (k : Nat) : Json.Digits (powerDigits k) := by
  refine ⟨List.cons_ne_nil _ _, fun c hc => ?_⟩
  rcases List.mem_cons.1 hc with rfl | hzero
  · rfl
  · rw [List.eq_of_mem_replicate hzero]
    rfl

theorem powerDigits_whole (k : Nat) : Json.WholePart (powerDigits k) :=
  .inr ⟨powerDigits_digits k, by simp [powerDigits]⟩

theorem powerDigits_value (k : Nat) : Json.digitsValue (powerDigits k) = 10 ^ k := by
  unfold Json.digitsValue powerDigits
  induction k with
  | zero => rfl
  | succ k ih =>
    have hzero : '0'.toNat - 0x30 = 0 := rfl
    rw [List.replicate_succ', ← List.cons_append, List.map_append, List.map_singleton,
      Numeral.ofDigits_concat, ih, hzero, Nat.pow_succ, Nat.add_zero, Nat.mul_comm]

/-- The text of a plan up to its page number. -/
def untilPage : List Char :=
  ['{', '"', 't', 'a', 'b', 'l', 'e', 's', '"', ':', '"', 't', '"', ',', '"', 'p', 'a', 'g', 'e', '"', ':']

def longPageChars (k : Nat) : List Char := untilPage ++ (powerDigits k ++ ['}'])

/-- A plan for a page whose number is a power of ten. -/
def longPage (k : Nat) : String := String.ofList (longPageChars k)

/-- The fields of such a plan. -/
def longPageFields (n : Int) : Json.Fields := [("tables", .str "t"), ("page", .int n)]

/-- The page number is scanned after the name of its field. -/
theorem scanValue_untilPage (depth fuel : Nat) (d : Char) (cs : List Char) :
    Json.scanValue (depth + 1) (fuel + 8) (untilPage ++ d :: cs) =
      match Json.scanValue depth (fuel + 5) (Json.skipBlanks (d :: cs)) with
      | .error e => .error e
      | .ok (v, rest) =>
        match Json.skipBlanks rest with
        | '}' :: after => .ok (.obj [("tables", .str "t"), ("page", v)], after)
        | ',' :: after =>
          Json.scanFields depth (fuel + 5) [("tables", .str "t"), ("page", v)] (Json.skipBlanks after)
        | other => Json.fail .expectingComma other := by
  rfl

theorem scanValue_longPage (depth fuel k : Nat) :
    Json.scanValue (depth + 1) (fuel + 8) (longPageChars k) =
      if Numeral.digitLimit < k + 1 then .error (.exceeded (.digits (k + 1)))
      else .ok (.obj (longPageFields (10 ^ k : Nat)), []) := by
  have hends := (Json.ends_cons (c := '}') (by simp) []).1.endsInteger
  have hscan := Json.scanValue_integer (.inl rfl) (powerDigits_whole k) hends depth (fuel + 4)
  have hlength : (powerDigits k).length = k + 1 := by simp [powerDigits]
  rw [hlength, powerDigits_value, List.nil_append] at hscan
  have hdigits : powerDigits k ++ ['}'] = '1' :: (List.replicate k '0' ++ ['}']) := rfl
  have hskip (cs : List Char) : Json.skipBlanks ('1' :: cs) = '1' :: cs := rfl
  unfold longPageChars
  rw [hdigits, scanValue_untilPage, hskip, ← hdigits, hscan]
  by_cases hlong : Numeral.digitLimit < k + 1
  · simp only [hlong, ↓reduceIte]
  · simp only [hlong, ↓reduceIte]
    rfl

theorem scanText_longPage (k depth : Nat) :
    Json.scanText (longPageChars k) (depth + 1) =
      if Numeral.digitLimit < k + 1 then .error (.exceeded (.digits (k + 1)))
      else .ok (.obj (longPageFields (10 ^ k : Nat))) := by
  have hskip : Json.skipBlanks (longPageChars k) = longPageChars k := rfl
  have hmark : (longPageChars k).head? ≠ some '\uFEFF' := by
    change some '{' ≠ some '\uFEFF'
    decide
  obtain ⟨fuel, hfuel⟩ : ∃ fuel, 2 * (longPageChars k).length + 2 = fuel + 8 := by
    refine ⟨2 * (longPageChars k).length - 6, ?_⟩
    have hlength : untilPage.length ≤ (longPageChars k).length := by
      simp [longPageChars]
    have huntil : 8 ≤ untilPage.length := by decide
    omega
  unfold Json.scanText
  rw [if_neg hmark]
  simp only [hskip, hfuel, scanValue_longPage]
  by_cases hlong : Numeral.digitLimit < k + 1
  · simp only [hlong, ↓reduceIte]
  · simp only [hlong, ↓reduceIte]
    rfl

/-- A page number is read if it has few enough digits, and there is room for the object around it. -/
theorem decode_longPage (k : Nat) {depth : Nat} (hroom : 0 < depth) :
    Json.decode (longPage k) depth =
      if Numeral.digitLimit < k + 1 then .error (.exceeded (.digits (k + 1)))
      else .ok (.obj (longPageFields (10 ^ k : Nat))) := by
  obtain ⟨depth, rfl⟩ : ∃ n, depth = n + 1 := ⟨depth - 1, by omega⟩
  unfold Json.decode longPage
  simp only [String.toList_ofList, scanText_longPage]
  by_cases hlong : Numeral.digitLimit < k + 1
  · simp only [hlong, ↓reduceIte]
  · simp only [hlong, ↓reduceIte]

theorem longPage_written (k : Nat) : Json.Written .object (longPageChars k) := by
  have hnone : Json.Blanks [] := by simp [Json.Blanks]
  have htable : Json.StringBody ['t'] := stringBody_of_plain (by decide)
  have htables : Json.StringBody ['t', 'a', 'b', 'l', 'e', 's'] := stringBody_of_plain (by decide)
  have hpage : Json.StringBody ['p', 'a', 'g', 'e'] := stringBody_of_plain (by decide)
  have hnumber := Json.NumberText.mk (.inl rfl) (powerDigits_whole k) (.inl rfl) (.inl rfl)
  have hfirst := Json.Written.field htables hnone hnone (.string htable) hnone
  have hlast := Json.Written.field hpage hnone hnone (.number hnumber) hnone
  have hobject := Json.Written.fields hnone (.moreFields hfirst hnone (.lastField hlast))
  unfold longPageChars untilPage
  simpa only [List.append_nil, List.nil_append, List.append_assoc, List.cons_append] using hobject

/-- Such a reply is an object and nothing else. -/
theorem found_longPage (k : Nat) : found (some (longPage k)) = longPage k := by
  obtain ⟨inner, hbraces, hinner⟩ := (longPage_written k).braces
  have hnoticks : '`' ∉ longPageChars k := by
    intro hmem
    rcases List.mem_append.1 hmem with hfront | hback
    · exact absurd hfront (by decide)
    rcases List.mem_append.1 hback with hdigit | hend
    · exact absurd ((powerDigits_digits k).isDigit _ hdigit) (by decide)
    · exact absurd hend (by decide)
  have hfence : ¬ fence <:+: longPageChars k := fun h => hnoticks (h.subset (by decide))
  have hnil : '`' ∉ ([] : List Char) := List.not_mem_nil
  have hchars := objectChars_bare hbraces hinner hfence hnil hnil List.not_mem_nil
  rw [List.nil_append, List.append_nil] at hchars
  change String.ofList (objectChars (longPage k).toList) = longPage k
  unfold longPage
  rw [String.toList_ofList, hchars]

/-- The plan of such a reply, if the page number can be read. -/
def farPage (k : Nat) : Plan :=
  { empty with tables := ["t"], page := (10 ^ k : Nat), given := [.tables, .page] }

theorem ofFields_longPage (k : Nat) : ofFields (longPageFields (10 ^ k : Nat)) = .valid (farPage k) := by
  have hpositive : positiveOr defaultPage (10 ^ k : Nat) = (10 ^ k : Nat) := by
    unfold positiveOr
    rw [if_pos (Int.natCast_pos.2 (Nat.pow_pos (by decide)))]
  have hread (n : Int) : ofFields (longPageFields n) =
      .valid { empty with tables := ["t"], page := positiveOr defaultPage n, given := [.tables, .page] } :=
    rfl
  rw [hread, hpositive]
  rfl

/-- No value without a literal is among the fields. -/
theorem not_writesTooDeep_longPage (host : Host) (n : Int) :
    ¬ WritesTooDeep host.depths (longPageFields n) := by
  rintro ⟨v, hv, -⟩
  exact absurd hv (List.not_mem_nil (a := v))

/-- A page number is read if it has few enough digits, and there is room for the object around it. -/
theorem readReply_longPage (k : Nat) (hroom : 0 < host.depths.read) :
    readReply (some (longPage k)) host =
      if Numeral.digitLimit < k + 1 then .error (.exceeded (.digits (k + 1))) else .ok (farPage k) := by
  have hne : found (some (longPage k)) ≠ "" := by
    rw [found_longPage]
    intro h
    have hlength := congrArg (fun text => text.toList.length) h
    simp [longPage, longPageChars, powerDigits] at hlength
  have hdecode := decode_longPage k hroom
  rw [readReply_of_found hne, found_longPage]
  by_cases hlong : Numeral.digitLimit < k + 1
  · rw [if_pos hlong] at hdecode ⊢
    exact ofText_of_exceeded hdecode
  · rw [if_neg hlong] at hdecode ⊢
    rw [ofText_of_flat hdecode (not_writesTooDeep_longPage host _), ofFields_longPage]

theorem read_longPage {k : Nat} (h : k < Numeral.digitLimit) (hroom : 0 < host.depths.read) :
    read (longPage k) host = .ok (farPage k) := by
  have hread := readReply_longPage k hroom
  rw [if_neg (Nat.not_lt.2 h)] at hread
  exact hread

/-! ## Reasons -/

/-- The reply comes to a plan, or to an error of the plan whose reason says whether an object was found. -/
inductive Explained (reply : Option String) (host : Host) : Prop
  | plan (p : Plan) (hread : readReply reply host = .ok p) (hfound : found reply ≠ "")
  | noObject (e : ReadError) (hread : readReply reply host = .error e) (hnone : found reply = "")
      (hreason : e.toPlanError? = some (.parse noObjectReason (reply.getD "") none))
  | malformed (e : ReadError) (detail : Option String) (hread : readReply reply host = .error e)
      (hfound : found reply ≠ "")
      (hreason : e.toPlanError? = some (.parse malformedReason (found reply) detail))

/-- The text that was found exceeds a limit: where a value may stand in it, there is an integer with too
many digits, or a list or an object with too many around it; or an issue with its fields would write out
a value that is nested too deep for that. -/
inductive TooMuch (reply : Option String) (host : Host) : Json.Limit → Prop
  | read {l : Json.Limit} (h : Json.Exceeds host.depths.read l (found reply).toList) : TooMuch reply host l
  | written {fields : Json.Fields}
      (hdecode : Json.decode (found reply) host.depths.read = .ok (.obj fields))
      (hdeep : WritesTooDeep host.depths fields) : TooMuch reply host .written

/-- Something was found in a reply that exceeds a limit. -/
theorem TooMuch.found_ne {l : Json.Limit} (h : TooMuch reply host l) : found reply ≠ "" := by
  intro hnone
  obtain ⟨reason, position, hempty⟩ := decode_empty host.depths.read
  cases h with
  | read hexceeds =>
    obtain ⟨l', hl'⟩ := Json.exists_exceeded_iff.2 ⟨l, hexceeds⟩
    rw [hnone, hempty] at hl'
    cases hl'
  | written hdecode =>
    rw [hnone, hempty] at hdecode
    cases hdecode

/-- A reply that exceeds a limit ends there. -/
theorem TooMuch.readReply {l : Json.Limit} (h : TooMuch reply host l) :
    ∃ l', readReply reply host = .error (.exceeded l') := by
  rw [readReply_of_found h.found_ne]
  cases h with
  | read hexceeds =>
    obtain ⟨l', hl'⟩ := Json.exists_exceeded_iff.2 ⟨l, hexceeds⟩
    exact ⟨l', ofText_of_exceeded hl'⟩
  | written hdecode hdeep => exact ⟨.written, ofText_of_deep hdecode hdeep⟩

/-- A reply that ends at a limit exceeds it; every other is explained. -/
theorem explained_or_tooMuch (reply : Option String) (host : Host) :
    Explained reply host ∨
      ∃ l, readReply reply host = .error (.exceeded l) ∧ TooMuch reply host l := by
  by_cases hnone : found reply = ""
  · exact .inl (.noObject _ (readReply_of_not_found hnone host) hnone rfl)
  have hread := readReply_of_found hnone host
  have htext := textRead (found reply) host
  generalize ofText (found reply) host = r at hread htext
  cases htext with
  | plan => exact .inl (.plan _ hread hnone)
  | undecodable | notAnObject | invalid => exact .inl (.malformed _ _ hread hnone rfl)
  | exceeded hdecode => exact .inr ⟨_, hread, .read (Json.exceeds_of_decode hdecode)⟩
  | unwritten hdecode hdeep => exact .inr ⟨_, hread, .written hdecode hdeep⟩

/-- There is no reason for a reply that exceeds a limit. -/
theorem TooMuch.not_explained {l : Json.Limit} (h : TooMuch reply host l) :
    ¬ Explained reply host := by
  obtain ⟨l', hread⟩ := h.readReply
  intro hexplained
  cases hexplained with
  | plan p hplan => cases hread.symm.trans hplan
  | noObject e _ hnone => exact h.found_ne hnone
  | malformed e detail herror _ hreason =>
    obtain rfl := Except.error.inj (hread.symm.trans herror)
    cases hreason

/-- **Reasons of failed replies.** A reply comes to a plan, or to an error of the plan with the reason that
fits, exactly if the text that was found exceeds no limit: in it there is neither an integer with too many
digits where a value may stand, nor a list or an object with too many around it, and no issue with its
fields writes out a value that is nested too deep for that. Otherwise the reply ends at such a limit, which
is no error of the plan. -/
theorem replies_are_explained_iff (reply : Option String) (host : Host) :
    (Explained reply host ↔ ¬ ∃ l, TooMuch reply host l) ∧
    (¬ Explained reply host → ∃ l, readReply reply host = .error (.exceeded l) ∧
      TooMuch reply host l) := by
  have hcases := explained_or_tooMuch reply host
  refine ⟨⟨fun h ⟨l, hl⟩ => hl.not_explained h, fun h => ?_⟩, fun h => hcases.resolve_left h⟩
  rcases hcases with hexplained | ⟨l, -, hl⟩
  · exact hexplained
  · exact absurd ⟨l, hl⟩ h

/-- Where only an object may be open, the list of tables in it is nested too deep. -/
example : (match readReply (some "\x7b\"tables\": [\"t\"]\x7d") { depths := { read := 1 } } with
    | .error (.exceeded l) => some l
    | _ => none) = some .list := by decide +kernel

/-- **A reply without a reason.** A page number with one digit too many is no error of the plan. -/
theorem long_page_is_unexplained :
    readReply (some (longPage 4300)) = .error (.exceeded (.digits 4301)) ∧
      ¬ Explained (some (longPage 4300)) {} := by
  have hdecode : Json.decode (found (some (longPage 4300))) = .error (.exceeded (.digits 4301)) := by
    rw [found_longPage, decode_longPage 4300 (by decide), if_pos (by decide)]
  have hlimit : TooMuch (some (longPage 4300)) {} (.digits 4301) := .read (Json.exceeds_of_decode hdecode)
  refine ⟨?_, hlimit.not_explained⟩
  rw [readReply_longPage 4300 (by decide), if_pos (by decide)]

end QueryPlans.Plan
