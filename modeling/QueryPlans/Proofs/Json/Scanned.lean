import QueryPlans.Proofs.Json.Values

/-!
# What a scan comes to

A scanner takes a text of the grammar off the front, or it stops because the text is malformed, or at a
value that exceeds a limit: an integer with too many digits to be read, or a list or an object with too
many around it.  Such a value stands where a value may stand: what is before it is the start of a text of
the grammar.

* `Json.Leading` — the start of a text of JSON, up to a value inside of it.
* `Json.OverlongInteger` — an integer with too many digits, and what follows it.
* `Json.Exceeding` — a value that exceeds a limit; `Json.ExceedsIn` — one inside of a text of JSON.
* `Json.Scanned` — what a scan comes to.
* `Json.NumberParts` — the text of a number, part by part.

Principal results: `scanNumber_split` — a scan for a number takes its parts; `scanNumber_scanned`,
`scansTo` — scans for numbers, values, items and fields come to nothing else.
-/

namespace QueryPlans.Json

variable {cs rest : List Char} {v : Json} {depth fuel n : Nat}

/-! ## Values that exceed a limit -/

/-- The start of a text of JSON, up to a value inside of it that has so many lists and objects around
it. -/
inductive Leading : Part → Nat → List Char → Prop
  | value : Leading .value 0 []
  | list {around : Nat} {b cs : List Char} (hb : Blanks b) (h : Leading .items around cs) :
      Leading .value (around + 1) ('[' :: (b ++ cs))
  | object {around : Nat} {b cs : List Char} (hb : Blanks b) (h : Leading .fields around cs) :
      Leading .value (around + 1) ('{' :: (b ++ cs))
  | item {around : Nat} {cs : List Char} (h : Leading .value around cs) : Leading .items around cs
  | laterItem {around : Nat} {item b cs : List Char} (hitem : Written .item item) (hb : Blanks b)
      (h : Leading .items around cs) : Leading .items around (item ++ ',' :: (b ++ cs))
  | field {around : Nat} {name b₁ b₂ cs : List Char} (hname : StringBody name) (hb₁ : Blanks b₁)
      (hb₂ : Blanks b₂) (h : Leading .value around cs) :
      Leading .fields around ('"' :: (name ++ '"' :: (b₁ ++ ':' :: (b₂ ++ cs))))
  | laterField {around : Nat} {field b cs : List Char} (hfield : Written .field field) (hb : Blanks b)
      (h : Leading .fields around cs) : Leading .fields around (field ++ ',' :: (b ++ cs))

/-- The text does not start with such a part, unless this is empty. -/
def Lacks (p : List Char → Prop) (cs : List Char) : Prop :=
  ∀ start more, cs = start ++ more → p start → start = []

/-- What may stand after an integer: no more digits, and neither a fraction nor an exponent. -/
structure EndsInteger (rest : List Char) : Prop where
  digits : Lacks Digits rest
  fraction : Lacks FractionPart rest
  exponent : Lacks ExponentPart rest

/-- An integer with so many digits, too many to be read, and what follows it. -/
inductive OverlongInteger : Nat → List Char → Prop
  | mk {sign whole rest : List Char} (hsign : sign = [] ∨ sign = ['-']) (hwhole : WholePart whole)
      (hlong : Numeral.digitLimit < whole.length) (hrest : EndsInteger rest) :
      OverlongInteger whole.length (sign ++ (whole ++ rest))

/-- A value that exceeds the limit where room is left for so many lists and objects around each other, and
what follows it. -/
inductive Exceeding : (room : Nat) → Limit → List Char → Prop
  | integer {room n : Nat} {cs : List Char} (h : OverlongInteger n cs) : Exceeding room (.digits n) cs
  | list (rest : List Char) : Exceeding 0 .list ('[' :: rest)
  | object (rest : List Char) : Exceeding 0 .object ('{' :: rest)

/-- In a text of the part stands a value that exceeds the limit, if `depth` lists and objects may be open
at once.  What follows the value may be anything. -/
inductive ExceedsIn (part : Part) (depth : Nat) (l : Limit) : List Char → Prop
  | mk {around room : Nat} {before value : List Char} (hbefore : Leading part around before)
      (hdepth : around + room = depth) (hvalue : Exceeding room l value) :
      ExceedsIn part depth l (before ++ value)

/-- What a scan for the part, with `closing` behind it, comes to. -/
inductive Scanned (part : Part) (depth : Nat) (closing cs : List Char) : Scan Json → Prop
  | malformed (reason : Reason) (remaining : Nat) :
      Scanned part depth closing cs (.error (.malformed reason remaining))
  | exceeded {l : Limit} (h : ExceedsIn part depth l cs) :
      Scanned part depth closing cs (.error (.exceeded l))
  | taken {text rest : List Char} (v : Json) (h : Written part text)
      (hsplit : cs = text ++ (closing ++ rest)) : Scanned part depth closing cs (.ok (v, rest))

/-! ## Numbers -/

theorem lacks_digits_iff : Lacks Digits cs ↔ StopsAt Char.isDigit cs := by
  constructor
  · intro h c tail heq
    rw [← Bool.not_eq_true]
    intro hdigit
    have hdigits : Digits [c] := ⟨List.cons_ne_nil _ _, fun d hd => by rwa [List.mem_singleton.1 hd]⟩
    exact hdigits.ne_nil (h [c] tail heq hdigits)
  · intro h start more heq hdigits
    obtain ⟨d, tail, rfl, hd⟩ := hdigits.exists_cons
    exact absurd hd (by rw [h d _ heq]; decide)

/-- The digits at the start of a text are a run that no digit follows. -/
theorem spanDigits_cases (cs : List Char) :
    (spanDigits cs = ([], cs) ∧ Lacks Digits cs) ∨
      ∃ ds rest, spanDigits cs = (ds, rest) ∧ Digits ds ∧ Lacks Digits rest ∧ cs = ds ++ rest := by
  have hsplit : cs.takeWhile Char.isDigit ++ cs.dropWhile Char.isDigit = cs :=
    List.takeWhile_append_dropWhile
  have hstop : Lacks Digits (cs.dropWhile Char.isDigit) := by
    refine lacks_digits_iff.2 fun c tail heq => ?_
    have hhead := List.head?_dropWhile_not Char.isDigit cs
    rw [heq] at hhead
    simpa using hhead
  unfold spanDigits
  cases hds : cs.takeWhile Char.isDigit with
  | nil =>
    rw [hds, List.nil_append] at hsplit
    rw [hsplit] at hstop ⊢
    exact .inl ⟨rfl, hstop⟩
  | cons d ds =>
    have hdigits : Digits (d :: ds) := by
      refine ⟨List.cons_ne_nil _ _, fun c hc => ?_⟩
      rw [← hds] at hc
      exact List.all_eq_true.1 List.all_takeWhile c hc
    rw [hds] at hsplit
    exact .inr ⟨d :: ds, _, rfl, hdigits, hstop, hsplit.symm⟩

theorem WholePart.digits {whole : List Char} (h : WholePart whole) : Digits whole := by
  rcases h with rfl | ⟨hdigits, -⟩
  · refine ⟨List.cons_ne_nil _ _, fun c hc => ?_⟩
    rw [List.mem_singleton.1 hc]
    rfl
  · exact hdigits

/-- A zero is taken alone; only then may more digits follow. -/
theorem scanWhole?_cases (cs : List Char) :
    scanWhole? cs = none ∨ ∃ whole rest, scanWhole? cs = some (whole, rest) ∧ WholePart whole ∧
      (1 < whole.length → Lacks Digits rest) ∧ cs = whole ++ rest := by
  unfold scanWhole?
  split
  · rename_i rest
    exact .inr ⟨['0'], rest, rfl, .inl rfl, fun h => absurd h (by decide), rfl⟩
  · rename_i c tail hzero
    split
    · rename_i hc
      rcases spanDigits_cases (c :: tail) with ⟨-, hlacks⟩ | ⟨ds, rest, hspan, hdigits, hlacks, hsplit⟩
      · exact absurd hc (by rw [lacks_digits_iff.1 hlacks c tail rfl]; decide)
      · refine .inr ⟨ds, rest, by rw [hspan], .inr ⟨hdigits, ?_⟩, fun _ => hlacks, hsplit⟩
        obtain ⟨d, ds, rfl, -⟩ := hdigits.exists_cons
        intro hd
        exact hzero ((List.cons.inj hsplit).1.trans (Option.some.inj hd))
    · exact .inl rfl
  · exact .inl rfl

/-- The digits that are scanned after a point are those of the fraction, if there is one. -/
theorem scanFraction_split (cs : List Char) :
    ∃ fraction rest, scanFraction cs = (fraction.tail, rest) ∧ cs = fraction ++ rest ∧
      FractionPart fraction ∧ (fraction = [] → Lacks FractionPart cs) := by
  unfold scanFraction
  split
  · rename_i tail
    rcases spanDigits_cases tail with ⟨hspan, hlacks⟩ | ⟨ds, rest, hspan, hdigits, -, hsplit⟩
    · rw [hspan]
      refine ⟨[], _, rfl, rfl, .inl rfl, fun _ start more heq hpart => ?_⟩
      rcases hpart with rfl | ⟨ds, rfl, hdigits⟩
      · rfl
      · have hnone := hlacks ds more (List.cons.inj heq).2 hdigits
        exact absurd hnone hdigits.ne_nil
    · rw [hspan, hsplit]
      obtain ⟨d, ds', hds, -⟩ := hdigits.exists_cons
      refine ⟨'.' :: ds, rest, ?_, rfl, .inr ⟨ds, rfl, hdigits⟩, fun h => nomatch h⟩
      rw [hds]
      rfl
  · rename_i hpoint
    refine ⟨[], cs, rfl, rfl, .inl rfl, fun _ start more heq hpart => ?_⟩
    rcases hpart with rfl | ⟨ds, rfl, -⟩
    · rfl
    · exact absurd heq (hpoint _)

/-- A fraction has digits. -/
theorem FractionPart.tail_eq_nil_iff {fraction : List Char} (h : FractionPart fraction) :
    fraction.tail = [] ↔ fraction = [] := by
  rcases h with rfl | ⟨ds, rfl, hdigits⟩
  · exact Iff.rfl
  · exact iff_of_false hdigits.ne_nil (List.cons_ne_nil _ _)

theorem cutSign_cases (cs : List Char) :
    ∃ sign rest, (sign = [] ∨ sign = ['+'] ∨ sign = ['-']) ∧
      Numeral.cutSign cs = (sign == ['-'], rest) ∧ cs = sign ++ rest := by
  unfold Numeral.cutSign
  split
  · exact ⟨['-'], _, by simp, rfl, rfl⟩
  · exact ⟨['+'], _, by simp, rfl, rfl⟩
  · exact ⟨[], _, by simp, rfl, rfl⟩

/-- The power of ten that an exponent stands for, if there is one. -/
inductive ExponentOf : List Char → Option Int → Prop
  | none : ExponentOf [] none
  | some {mark : Char} {sign ds : List Char} (hmark : mark = 'e' ∨ mark = 'E')
      (hsign : sign = [] ∨ sign = ['+'] ∨ sign = ['-']) (hds : Digits ds) :
      ExponentOf (mark :: (sign ++ ds)) (some (Double.signed (sign == ['-']) (digitsValue ds)))

theorem ExponentOf.exponentPart {exponent : List Char} {e : Option Int} (h : ExponentOf exponent e) :
    ExponentPart exponent := by
  cases h with
  | none => exact .inl rfl
  | some hmark hsign hds => exact .inr ⟨_, _, _, rfl, hmark, hsign, hds⟩

theorem ExponentOf.eq_none_iff {exponent : List Char} {e : Option Int} (h : ExponentOf exponent e) :
    e = .none ↔ exponent = [] := by
  cases h with
  | none => exact iff_of_true rfl rfl
  | some => exact iff_of_false (by simp) (List.cons_ne_nil _ _)

/-- An exponent is scanned as a number, if there is one. -/
theorem scanExponent_split (cs : List Char) :
    ∃ exponent e rest, scanExponent cs = (e, rest) ∧ cs = exponent ++ rest ∧ ExponentOf exponent e ∧
      (exponent = [] → Lacks ExponentPart cs) := by
  unfold scanExponent
  split
  · rename_i mark tail
    split
    · rename_i hmark
      obtain ⟨sign, body, hsign, hcut, hbody⟩ := cutSign_cases tail
      rw [hcut]
      rcases spanDigits_cases body with ⟨hspan, hlacks⟩ | ⟨ds, rest, hspan, hdigits, -, hsplit⟩
      · simp only [hspan]
        refine ⟨[], none, _, rfl, rfl, .none, fun _ start more heq hpart => ?_⟩
        rcases hpart with rfl | ⟨mark', sign', ds, rfl, -, hsign', hdigits⟩
        · rfl
        · obtain ⟨negative', hcut'⟩ := cutSign_append hsign' hdigits more
          rw [List.cons_append] at heq
          rw [(List.cons.inj heq).2, hcut'] at hcut
          have hnone := hlacks ds more (Prod.mk.inj hcut).2.symm hdigits
          exact absurd hnone hdigits.ne_nil
      · simp only [hspan]
        obtain ⟨d, ds', hds, -⟩ := hdigits.exists_cons
        refine ⟨mark :: (sign ++ ds), some (Double.signed (sign == ['-']) (digitsValue ds)), rest,
          by rw [hds], ?_, .some (by simpa using hmark) hsign hdigits, fun h => nomatch h⟩
        rw [hbody, hsplit, List.cons_append, List.append_assoc]
    · rename_i hmark
      refine ⟨[], none, _, rfl, rfl, .none, fun _ start more heq hpart => ?_⟩
      rcases hpart with rfl | ⟨mark', sign', ds, rfl, hmark', -⟩
      · rfl
      · rw [(List.cons.inj heq).1] at hmark
        exact absurd hmark' (by simpa using hmark)
  · refine ⟨[], none, [], rfl, rfl, .none, fun _ start more heq hpart => ?_⟩
    exact (List.append_eq_nil_iff.1 heq.symm).1

/-- The parts of the text of a number. -/
structure NumberParts where
  sign : List Char
  whole : List Char
  fraction : List Char
  exponent : List Char
  power : Option Int
  sign_eq : sign = [] ∨ sign = ['-']
  wholePart : WholePart whole
  fractionPart : FractionPart fraction
  exponentOf : ExponentOf exponent power

namespace NumberParts

def text (p : NumberParts) : List Char := p.sign ++ p.whole ++ p.fraction ++ p.exponent

/-- The number, unless it is an integer with too many digits. -/
def number (p : NumberParts) : Except ScanError Json :=
  numberOfParts (p.sign == ['-']) p.whole p.fraction.tail p.power

/-- Neither a fraction nor an exponent is written. -/
def IsInteger (p : NumberParts) : Prop := p.fraction = [] ∧ p.exponent = []

theorem numberText (p : NumberParts) : NumberText p.text :=
  .mk p.sign_eq p.wholePart p.fractionPart p.exponentOf.exponentPart

/-- The scanner tells an integer by what it scanned. -/
theorem isInteger_iff (p : NumberParts) : p.IsInteger ↔ p.fraction.tail = [] ∧ p.power = none := by
  rw [p.fractionPart.tail_eq_nil_iff, p.exponentOf.eq_none_iff]
  rfl

end NumberParts

/-- A scan for a number takes its parts one after the other. If these are an integer of more than one
digit, then the text does not go on as a number. -/
theorem scanNumber_split (cs : List Char) :
    (∃ reason remaining, scanNumber cs = .error (.malformed reason remaining)) ∨
      ∃ (p : NumberParts) (rest : List Char), cs = p.text ++ rest ∧
        scanNumber cs = p.number.map (fun v => (v, rest)) ∧
        (p.IsInteger → 1 < p.whole.length → EndsInteger rest) := by
  unfold scanNumber
  split
  rename_i negative body hbody
  obtain ⟨sign, hsign, hnegative, rfl⟩ :
      ∃ sign, (sign = [] ∨ sign = ['-']) ∧ negative = (sign == ['-']) ∧ cs = sign ++ body := by
    split at hbody
    · cases hbody
      exact ⟨['-'], .inr rfl, rfl, rfl⟩
    · cases hbody
      exact ⟨[], .inl rfl, rfl, rfl⟩
  rcases scanWhole?_cases body with hnone | ⟨whole, tail, hscan, hwhole, hlacks, rfl⟩
  · rw [hnone]
    exact .inl ⟨_, _, rfl⟩
  obtain ⟨fraction, after, hscanf, rfl, hfraction, hnofraction⟩ := scanFraction_split tail
  obtain ⟨exponent, e, rest, hscane, rfl, hexponent, hnoexponent⟩ := scanExponent_split after
  refine .inr ⟨⟨sign, whole, fraction, exponent, e, hsign, hwhole, hfraction, hexponent⟩, rest, ?_, ?_, ?_⟩
  · simp only [NumberParts.text, List.append_assoc]
  · simp only [hscan, hscanf, hscane, hnegative]
    rfl
  · rintro ⟨rfl, rfl⟩ hmany
    exact ⟨hlacks hmany, hnofraction rfl, hnoexponent rfl⟩

/-- A value that exceeds a limit is a value in a text of JSON. -/
theorem Exceeding.exceedsIn {l : Limit} (h : Exceeding depth l cs) : ExceedsIn .value depth l cs := by
  change ExceedsIn .value depth l ([] ++ cs)
  exact .mk .value (Nat.zero_add depth) h

/-- A scan for a number comes to an integer with too many digits only where one stands. -/
theorem scanNumber_scanned (depth : Nat) (cs : List Char) :
    Scanned .value depth [] cs (scanNumber cs) := by
  rcases scanNumber_split cs with ⟨reason, remaining, hscan⟩ | ⟨p, rest, rfl, hscan, hends⟩
  · rw [hscan]
    exact .malformed reason remaining
  rw [hscan]
  have hnumber : Written .value p.text := .number p.numberText
  unfold NumberParts.number numberOfParts
  split
  · rename_i hscanned
    have hinteger := p.isInteger_iff.2 hscanned
    split
    · rename_i hlong
      have hrest := hends hinteger (Nat.lt_trans (by decide) hlong)
      have htext : p.text ++ rest = p.sign ++ (p.whole ++ rest) := by
        simp [NumberParts.text, hinteger.1, hinteger.2]
      rw [htext]
      exact .exceeded (Exceeding.integer (.mk p.sign_eq p.wholePart hlong hrest)).exceedsIn
    · exact .taken _ hnumber rfl
  · exact .taken _ hnumber rfl

theorem scanWord?_taken (h : scanWord? cs = some (v, rest)) :
    ∃ word, (word, v) ∈ words ∧ cs = word ++ rest := by
  obtain ⟨⟨word, value⟩, hmem, hfound⟩ := List.exists_of_findSome?_eq_some h
  simp only at hfound
  split at hfound
  · rename_i hprefix
    cases hfound
    have happend := List.prefix_iff_eq_append.1 (List.isPrefixOf_iff_prefix.1 hprefix)
    exact ⟨word, hmem, happend.symm⟩
  · cases hfound

/-! ## Strings -/

theorem mem_of_simpleEscape {e c : Char} (h : simpleEscape? e = some c) :
    e ∈ ['"', '\\', '/', 'b', 'f', 'n', 'r', 't'] := by
  unfold simpleEscape? at h
  split at h
  any_goals decide
  cases h

/-- A scan from inside a string comes to its closing quote, or the text is malformed. -/
theorem scanUnits_cases (opening : Nat) (units : List Nat) (cs : List Char) :
    (∃ reason remaining, scanUnits opening units cs = .error (.malformed reason remaining)) ∨
      ∃ us body rest, scanUnits opening units cs = .ok (us, rest) ∧ StringBody body ∧
        cs = body ++ '"' :: rest := by
  fun_induction scanUnits opening units cs with
  | case2 units rest => exact .inr ⟨units.reverse, [], rest, rfl, .nil, rfl⟩
  | case1 | case3 | case5 | case6 | case8 | case9 => exact .inl ⟨_, _, rfl⟩
  | case4 units a b c d next tail u hquad ih =>
    refine ih.imp_right ?_
    rintro ⟨us, body, rest, hscan, hbody, hsplit⟩
    refine ⟨us, '\\' :: 'u' :: a :: b :: c :: d :: body, rest, hscan, ?_, ?_⟩
    · exact .unicode (by rw [hquad]; rfl) hbody
    · rw [hsplit]
      rfl
  | case7 units e tail hquads hu c hescape ih =>
    refine ih.imp_right ?_
    rintro ⟨us, body, rest, hscan, hbody, rfl⟩
    exact ⟨us, '\\' :: e :: body, rest, hscan, .escape (mem_of_simpleEscape hescape) hbody, rfl⟩
  | case10 units c tail hquote hend hquads hescape hcontrol ih =>
    refine ih.imp_right ?_
    rintro ⟨us, body, rest, hscan, hbody, rfl⟩
    -- A backslash has been taken by the cases before, with what it escapes.
    have hbackslash : c ≠ '\\' := by
      intro hc
      cases body with
      | nil => exact hescape _ _ hc rfl
      | cons d body => exact hescape _ _ hc rfl
    exact ⟨us, c :: body, rest, hscan, .plain hquote hbackslash (Nat.le_of_not_lt hcontrol) hbody, rfl⟩

theorem scanString_cases (cs : List Char) :
    (∃ reason remaining, scanString cs = .error (.malformed reason remaining)) ∨
      ∃ text body rest, scanString cs = .ok (text, rest) ∧ StringBody body ∧ cs = body ++ '"' :: rest := by
  unfold scanString
  rcases scanUnits_cases (cs.length + 1) [] cs with ⟨reason, remaining, h⟩ | ⟨us, body, rest, h, hbody⟩
  · rw [h]
    exact .inl ⟨reason, remaining, rfl⟩
  · rw [h]
    exact .inr ⟨_, body, rest, rfl, hbody⟩

/-! ## Parts -/

/-- What is skipped are blanks. -/
theorem exists_blanks (cs : List Char) : ∃ b inner, Blanks b ∧ skipBlanks cs = inner ∧ cs = b ++ inner :=
  ⟨cs.takeWhile isBlank, _, fun _ hc => List.all_eq_true.1 List.all_takeWhile _ hc, rfl,
    List.takeWhile_append_dropWhile.symm⟩

/-- What a scan comes to inside of a part, it comes to in the whole part, which may open a list or an
object around it. -/
theorem Scanned.inside {inner outer : Part} {closing : List Char} {r : Scan Json} (opened : Nat)
    (front back : List Char)
    (hbefore : ∀ {around cs}, Leading inner around cs → Leading outer (around + opened) (front ++ cs))
    (hwritten : ∀ {cs}, Written inner cs → Written outer (front ++ cs ++ back))
    (h : Scanned inner depth (back ++ closing) cs r) :
    Scanned outer (depth + opened) closing (front ++ cs) r := by
  cases h with
  | malformed reason remaining => exact .malformed reason remaining
  | exceeded h =>
    obtain ⟨hleading, hdepth, hvalue⟩ := h
    rw [← List.append_assoc]
    exact .exceeded (.mk (hbefore hleading) (by omega) hvalue)
  | taken v htext hsplit =>
    refine .taken v (hwritten htext) ?_
    simp only [hsplit, List.append_assoc]

theorem Scanned.list {b items : List Char} {r : Scan Json} (hb : Blanks b)
    (h : Scanned .items depth [']'] items r) : Scanned .value (depth + 1) [] ('[' :: (b ++ items)) r :=
  .inside 1 ('[' :: b) [']'] (.list hb) (.list hb) h

theorem Scanned.object {b fields : List Char} {r : Scan Json} (hb : Blanks b)
    (h : Scanned .fields depth ['}'] fields r) :
    Scanned .value (depth + 1) [] ('{' :: (b ++ fields)) r :=
  .inside 1 ('{' :: b) ['}'] (.object hb) (fun hfields => .object (.fields hb hfields)) h

theorem Scanned.moreItems {item b items : List Char} {r : Scan Json} (hitem : Written .item item)
    (hb : Blanks b) (h : Scanned .items depth [']'] items r) :
    Scanned .items depth [']'] (item ++ ',' :: (b ++ items)) r := by
  have hassoc (cs : List Char) : item ++ ',' :: (b ++ cs) = item ++ ',' :: b ++ cs := by simp
  rw [hassoc]
  refine .inside 0 _ [] (fun hbefore => ?_) (fun hitems => ?_) h
  · rw [← hassoc]
    exact .laterItem hitem hb hbefore
  · rw [List.append_nil, ← hassoc]
    exact .moreItems hitem hb hitems

theorem Scanned.moreFields {field b fields : List Char} {r : Scan Json} (hfield : Written .field field)
    (hb : Blanks b) (h : Scanned .fields depth ['}'] fields r) :
    Scanned .fields depth ['}'] (field ++ ',' :: (b ++ fields)) r := by
  have hassoc (cs : List Char) : field ++ ',' :: (b ++ cs) = field ++ ',' :: b ++ cs := by simp
  rw [hassoc]
  refine .inside 0 _ [] (fun hbefore => ?_) (fun hfields => ?_) h
  · rw [← hassoc]
    exact .laterField hfield hb hbefore
  · rw [List.append_nil, ← hassoc]
    exact .moreFields hfield hb hfields

/-- What scans with so much fuel come to. -/
structure ScansTo (fuel : Nat) : Prop where
  value (depth : Nat) (cs : List Char) : Scanned .value depth [] cs (scanValue depth fuel cs)
  items (depth : Nat) (before : List Json) (cs : List Char) :
    Scanned .items depth [']'] cs (scanItems depth fuel before cs)
  fields (depth : Nat) (before : Fields) (cs : List Char) :
    Scanned .fields depth ['}'] cs (scanFields depth fuel before cs)

theorem ScansTo.succ_value (h : ScansTo fuel) (depth : Nat) (cs : List Char) :
    Scanned .value depth [] cs (scanValue depth (fuel + 1) cs) := by
  unfold scanValue
  split
  · rename_i tail
    rcases scanString_cases tail with ⟨reason, remaining, hscan⟩ | ⟨text, body, rest, hscan, hbody, rfl⟩
    · rw [hscan]
      exact .malformed reason remaining
    · rw [hscan]
      exact .taken _ (.string hbody) (by simp)
  · rename_i tail
    cases depth with
    | zero => exact .exceeded (Exceeding.object tail).exceedsIn
    | succ depth =>
      obtain ⟨b, inner, hb, hskip, rfl⟩ := exists_blanks tail
      simp only [hskip]
      split
      · exact .taken _ (.object (.emptyObject hb)) (by simp)
      · exact .object hb (h.fields depth [] inner)
  · rename_i tail
    cases depth with
    | zero => exact .exceeded (Exceeding.list tail).exceedsIn
    | succ depth =>
      obtain ⟨b, inner, hb, hskip, rfl⟩ := exists_blanks tail
      simp only [hskip]
      split
      · exact .taken _ (.emptyList hb) (by simp)
      · exact .list hb (h.items depth [] inner)
  · split
    · rename_i r hword
      obtain ⟨v, rest⟩ := r
      obtain ⟨word, hmem, rfl⟩ := scanWord?_taken hword
      exact .taken v (.word hmem) rfl
    · exact scanNumber_scanned depth cs

theorem ScansTo.succ_items (h : ScansTo fuel) (depth : Nat) (before : List Json) (cs : List Char) :
    Scanned .items depth [']'] cs (scanItems depth (fuel + 1) before cs) := by
  have hvalue := h.value depth cs
  unfold scanItems
  generalize scanValue depth fuel cs = r at hvalue
  cases hvalue with
  | malformed reason remaining => exact .malformed reason remaining
  | exceeded h =>
    obtain ⟨hbefore, hdepth, hexceeding⟩ := h
    exact .exceeded (.mk (.item hbefore) hdepth hexceeding)
  | @taken text rest v hwritten hsplit =>
    obtain ⟨b, inner, hb, hskip, rfl⟩ := exists_blanks rest
    have hitem := Written.item hwritten hb
    simp only [hskip]
    split
    · exact .taken _ (.lastItem hitem) (by simp [hsplit])
    · rename_i after
      obtain ⟨b', inner, hb', hskip', rfl⟩ := exists_blanks after
      have hmore := Scanned.moreItems hitem hb' (h.items depth (v :: before) inner)
      rw [hskip', hsplit]
      simpa only [List.nil_append, List.append_assoc] using hmore
    · exact .malformed _ _

theorem ScansTo.succ_fields (h : ScansTo fuel) (depth : Nat) (before : Fields) (cs : List Char) :
    Scanned .fields depth ['}'] cs (scanFields depth (fuel + 1) before cs) := by
  unfold scanFields
  split
  · rename_i tail
    rcases scanString_cases tail with ⟨reason, remaining, hscan⟩ | ⟨key, name, rest, hscan, hname, rfl⟩
    · rw [hscan]
      exact .malformed reason remaining
    rw [hscan]
    obtain ⟨b₁, inner, hb₁, hskip, rfl⟩ := exists_blanks rest
    simp only [hskip]
    split
    · rename_i tail
      obtain ⟨b₂, inner, hb₂, hskip₂, rfl⟩ := exists_blanks tail
      have hvalue := h.value depth inner
      rw [hskip₂]
      generalize scanValue depth fuel inner = r at hvalue
      cases hvalue with
      | malformed reason remaining => exact .malformed reason remaining
      | exceeded h =>
        obtain ⟨hbefore, hdepth, hexceeding⟩ := h
        have hfield := ExceedsIn.mk (.field hname hb₁ hb₂ hbefore) hdepth hexceeding
        simp only [List.append_assoc, List.cons_append] at hfield
        exact .exceeded hfield
      | @taken text rest v hwritten hsplit =>
        obtain ⟨b₃, inner, hb₃, hskip₃, rfl⟩ := exists_blanks rest
        have hfield := Written.field hname hb₁ hb₂ hwritten hb₃
        simp only [hskip₃]
        split
        · exact .taken _ (.lastField hfield) (by simp [hsplit])
        · rename_i after
          obtain ⟨b, inner, hb, hskip', rfl⟩ := exists_blanks after
          have hmore := Scanned.moreFields hfield hb (h.fields depth (before.put key v) inner)
          rw [hskip', hsplit]
          simpa only [List.nil_append, List.append_assoc, List.cons_append] using hmore
        · exact .malformed _ _
    · exact .malformed _ _
  · exact .malformed _ _

theorem scansTo (fuel : Nat) : ScansTo fuel := by
  induction fuel with
  | zero =>
    -- Without fuel every text counts as malformed.
    exact ⟨fun _ _ => .malformed _ _, fun _ _ _ => .malformed _ _, fun _ _ _ => .malformed _ _⟩
  | succ fuel ih => exact ⟨ih.succ_value, ih.succ_items, ih.succ_fields⟩

end QueryPlans.Json
