import Mathlib.Data.List.TakeWhile
import QueryPlans.Plan.Literal
import QueryPlans.Proofs.Json.Grammar
import QueryPlans.Proofs.Number.Written

/-!
# Numbers as constants

An integer, or a double that is a number, is written as a numeric constant: digits, perhaps with a minus
sign, a fraction and an exponent.  The other doubles are written as words.

* `UnsignedConstant`, `NumericConstant` — the texts of numbers without and with a sign.
* `IntegerText` — the texts of an integer.

Principal results: `text_integer` — the text of an integer has its value; `write_numeric_iff` — which
doubles are written as numeric constants.
-/

namespace QueryPlans

open Json (Digits FractionPart)

variable {cs digits : List Char} {n : Nat} {point : Int}

/-- The exponent of a constant, if there is one. -/
def ConstantExponent (cs : List Char) : Prop :=
  cs = [] ∨ ∃ sign ds, cs = 'e' :: (sign ++ ds) ∧ (sign = [] ∨ sign = ['+'] ∨ sign = ['-']) ∧ Digits ds

/-- Digits, perhaps with a fraction and an exponent. -/
inductive UnsignedConstant : List Char → Prop
  | mk {whole fraction exponent : List Char} (hwhole : Digits whole) (hfraction : FractionPart fraction)
      (hexponent : ConstantExponent exponent) : UnsignedConstant (whole ++ (fraction ++ exponent))

/-- A numeric constant: perhaps a minus sign, digits, perhaps a fraction and an exponent. -/
inductive NumericConstant : List Char → Prop
  | plain {cs : List Char} (h : UnsignedConstant cs) : NumericConstant cs
  | minus {cs : List Char} (h : UnsignedConstant cs) : NumericConstant ('-' :: cs)

/-- A text of the integer: digits with its value, perhaps after a minus sign. -/
inductive IntegerText : List Char → Int → Prop
  | mk {sign ds : List Char} (hsign : sign = [] ∨ sign = ['-']) (hds : Digits ds) :
      IntegerText (sign ++ ds) (Double.signed (sign == ['-']) (Json.digitsValue ds))

theorem UnsignedConstant.exists_cons (h : UnsignedConstant cs) :
    ∃ c tail, cs = c :: tail ∧ c.isDigit = true := by
  obtain ⟨hwhole, -, -⟩ := h
  rename_i whole fraction exponent
  cases whole with
  | nil => exact absurd rfl hwhole.ne_nil
  | cons c whole => exact ⟨c, _, rfl, hwhole.isDigit c List.mem_cons_self⟩

/-! ## Integers -/

theorem digits_toDigits (n : Nat) : Digits (Nat.toDigits 10 n) :=
  ⟨Nat.toDigits_ne_nil, fun _ hc => Nat.isDigit_of_mem_toDigits (by decide) (by decide) hc⟩

theorem digits_zero : Digits ['0'] := digits_toDigits 0

theorem digitsValue_toDigits (n : Nat) : Json.digitsValue (Nat.toDigits 10 n) = n :=
  Numeral.ofDigits_toDigits n

theorem unsigned_of_digits (h : Digits digits) : UnsignedConstant digits := by
  have hconstant := UnsignedConstant.mk h (.inl rfl) (.inl rfl)
  simpa using hconstant

/-- A text of an integer is a numeric constant. -/
theorem IntegerText.numeric {n : Int} (h : IntegerText cs n) : NumericConstant cs := by
  obtain ⟨hsign, hds⟩ := h
  rcases hsign with rfl | rfl
  · exact .plain (unsigned_of_digits hds)
  · exact .minus (unsigned_of_digits hds)

/-- An integer is written with the digits of its value. -/
theorem text_integer (n : Int) : IntegerText (Numeral.text n).toList n := by
  have hdigits := digits_toDigits n.natAbs
  unfold Numeral.text
  rw [String.toList_append, Nat.toList_repr]
  split
  · rename_i hn
    have hvalue : Double.signed (['-'] == ['-']) (Json.digitsValue (Nat.toDigits 10 n.natAbs)) = n := by
      rw [digitsValue_toDigits]
      change -(n.natAbs : Int) = n
      omega
    have hinteger := IntegerText.mk (.inr rfl) hdigits
    rwa [hvalue] at hinteger
  · rename_i hn
    have hvalue : Double.signed ([] == ['-']) (Json.digitsValue (Nat.toDigits 10 n.natAbs)) = n := by
      rw [digitsValue_toDigits]
      change (n.natAbs : Int) = n
      omega
    have hinteger := IntegerText.mk (.inl rfl) hdigits
    rwa [hvalue] at hinteger

/-! ## The layout of a double -/

namespace Double

theorem constantExponent_exponentDigits (x : Int) : ConstantExponent ('e' :: exponentDigits x) := by
  have hdigits := digits_toDigits x.natAbs
  have hpadded : Digits ('0' :: Nat.toDigits 10 x.natAbs) := by
    refine ⟨List.cons_ne_nil _ _, fun c hc => ?_⟩
    rcases List.mem_cons.1 hc with rfl | hc
    · rfl
    · exact hdigits.isDigit c hc
  have hall : Digits (if (Nat.toDigits 10 x.natAbs).length < 2 then '0' :: Nat.toDigits 10 x.natAbs
      else Nat.toDigits 10 x.natAbs) := by
    split
    · exact hpadded
    · exact hdigits
  refine .inr ⟨[if x < 0 then '-' else '+'], _, rfl, ?_, hall⟩
  split
  · exact .inr (.inr rfl)
  · exact .inr (.inl rfl)

/-- Digits are laid out as a constant; no digits at all only where a zero can stand for them. -/
theorem layOut_unsigned (h : ∀ c ∈ digits, c.isDigit = true) (hne : digits ≠ [] ∨ point = 1) :
    UnsignedConstant (layOut digits point) := by
  have hzeros (k : Nat) : ∀ c ∈ List.replicate k '0', c.isDigit = true := fun c hc => by
    rw [List.eq_of_mem_replicate hc]
    rfl
  unfold layOut
  simp only
  split
  · split
    · rename_i hpoint
      -- All digits stand after the point.
      have hdigits : digits ≠ [] := hne.resolve_right (by omega)
      have hfraction : Digits (List.replicate (-point).toNat '0' ++ digits) :=
        ⟨by simp [hdigits], fun c hc => (List.mem_append.1 hc).elim (hzeros _ c) (h c)⟩
      have hconstant := UnsignedConstant.mk digits_zero (.inr ⟨_, rfl, hfraction⟩) (.inl rfl)
      simpa using hconstant
    · rename_i hpoint
      have hwhole : Digits (digits.take point.toNat ++
          List.replicate (point.toNat - digits.length) '0') := by
        refine ⟨fun hnil => ?_, fun c hc => ?_⟩
        · have hlength := congrArg List.length hnil
          simp only [List.length_append, List.length_take, List.length_replicate, List.length_nil] at hlength
          omega
        · exact (List.mem_append.1 hc).elim (fun hc => h c (List.mem_of_mem_take hc)) (hzeros _ c)
      have hfraction : Digits (if digits.drop point.toNat = [] then ['0']
          else digits.drop point.toNat) := by
        split
        · exact digits_zero
        · rename_i hrest
          exact ⟨hrest, fun c hc => h c (List.mem_of_mem_drop hc)⟩
      have hconstant := UnsignedConstant.mk hwhole (.inr ⟨_, rfl, hfraction⟩) (.inl rfl)
      simpa using hconstant
  · rename_i hfar
    cases digits with
    | nil =>
      have hone : point = 1 := hne.resolve_left (fun h => h rfl)
      omega
    | cons d rest =>
      have hfirst : Digits [d] := ⟨by simp, fun c hc => by
        rw [List.mem_singleton.1 hc]
        exact h d List.mem_cons_self⟩
      have hfraction : FractionPart (if rest = [] then [] else '.' :: rest) := by
        split
        · exact .inl rfl
        · rename_i hrest
          exact .inr ⟨rest, rfl, hrest, fun c hc => h c (List.mem_cons_of_mem _ hc)⟩
      exact .mk hfirst hfraction (constantExponent_exponentDigits _)

/-! ## The digits of a double -/

theorem dropTrailingZeros_subset : dropTrailingZeros digits ⊆ digits := by
  intro c hc
  unfold dropTrailingZeros at hc
  rw [List.mem_reverse] at hc
  exact List.mem_reverse.1 ((List.dropWhile_sublist _).subset hc)

/-- A positive number has a digit that is no zero. -/
theorem dropTrailingZeros_ne_nil (hn : 0 < n) : dropTrailingZeros (Nat.toDigits 10 n) ≠ [] := by
  intro hnil
  have hzero : ∀ c ∈ Nat.toDigits 10 n, c = '0' := by
    unfold dropTrailingZeros at hnil
    rw [List.reverse_eq_nil_iff, List.dropWhile_eq_nil_iff] at hnil
    intro c hc
    simpa using hnil c (List.mem_reverse.2 hc)
  have hvalue (ds : List Char) (h : ∀ c ∈ ds, c = '0') : Nat.ofDigitChars 10 ds 0 = 0 := by
    induction ds with
    | nil => rfl
    | cons c ds ih =>
      rw [h c List.mem_cons_self]
      exact ih fun d hd => h d (List.mem_cons_of_mem _ hd)
  have hn' : Nat.ofDigitChars 10 (Nat.toDigits 10 n) 0 = n :=
    Nat.ofDigitChars_toDigits (by decide) (by decide)
  rw [hvalue _ hzero] at hn'
  omega

theorem magnitude_num_pos {m : Nat} (hm : 0 < m) (e : Int) : 0 < (magnitude m e).1 := by
  cases e with
  | ofNat k => exact Nat.mul_pos hm (Nat.pow_pos (by decide))
  | negSucc k => exact hm

variable {i : Interval} {m : Nat} {e : Int}

/-- Zero does not round to a positive double. -/
theorem contains_zero {den : Nat} (hlow : 0 < i.low) (hunit : 0 < i.unitNum) (hden : 0 < den) :
    i.contains 0 den = false := by
  have hpos : 0 < i.low * i.unitNum * den := Nat.mul_pos (Nat.mul_pos hlow hunit) hden
  unfold Interval.contains
  simp only [Nat.zero_mul]
  split
  · simp; omega
  · simp

/-- The digits on a grid are those of a positive number. -/
theorem choose?_pos {g : Int} {d : Nat} (hlow : 0 < i.low) (hunit : 0 < i.unitNum)
    (h : (i.neighbours g).choose? = some d) : 0 < d := by
  have hbelow : (i.neighbours g).below = 0 → (i.neighbours g).belowFits = false := by
    intro hzero
    unfold Interval.neighbours at hzero ⊢
    cases g with
    | ofNat k =>
      simp only at hzero ⊢
      rw [hzero, Nat.zero_mul]
      exact contains_zero hlow hunit Nat.one_pos
    | negSucc k =>
      simp only at hzero ⊢
      rw [hzero, Nat.zero_mul]
      exact contains_zero hlow hunit (Nat.pow_pos (by decide))
  rcases Nat.eq_zero_or_pos (i.neighbours g).below with hzero | hpos
  · unfold Interval.Neighbours.choose? at h
    rw [hbelow hzero] at h
    cases habove : (i.neighbours g).aboveFits with
    | false =>
      rw [habove] at h
      cases h
    | true =>
      rw [habove] at h
      cases h
      omega
  · unfold Interval.Neighbours.choose? at h
    split at h
    · cases h
    · cases h; exact hpos
    · cases h; omega
    · split at h
      · cases h; exact hpos
      · cases h; omega
      · cases h
        split
        · exact hpos
        · omega

/-- A search ends with the digits of a positive number, or with a bare zero. -/
theorem searchFrom_pos (hlow : 0 < i.low) (hunit : 0 < i.unitNum) (tries count : Nat) :
    0 < (i.searchFrom point tries count).1 ∨ i.searchFrom point tries count = (0, 0) := by
  induction tries generalizing count with
  | zero => exact .inr rfl
  | succ tries ih =>
    unfold Interval.searchFrom
    simp only
    split
    · rename_i d hd
      exact .inl (choose?_pos hlow hunit hd)
    · exact ih (count + 1)

theorem shortest_pos (hm : 0 < m) : 0 < (shortest m e).1 ∨ shortest m e = (0, 0) := by
  have hunit : 0 < (magnitude 1 (e - 2)).1 := magnitude_num_pos Nat.one_pos _
  have hlow : 0 < (Interval.ofDouble m e).low := by
    unfold Interval.ofDouble
    simp only
    split <;> omega
  exact searchFrom_pos hlow hunit 17 1

/-- The text of a finite double is a constant. -/
theorem magnitudeText_unsigned (m : Nat) (e : Int) : UnsignedConstant (magnitudeText m e) := by
  unfold magnitudeText
  split
  · exact .mk digits_zero (.inr ⟨_, rfl, digits_zero⟩) (.inl rfl)
  rename_i hm
  simp only
  refine layOut_unsigned (fun c hc => ?_) ?_
  · exact (digits_toDigits _).isDigit c (dropTrailingZeros_subset hc)
  · rcases shortest_pos (Nat.pos_of_ne_zero hm) with hpos | hzero
    · exact .inl (dropTrailingZeros_ne_nil hpos)
    · rw [hzero]
      exact .inr rfl

/-! ## Doubles -/

/-- The double is a number. -/
def IsFinite (x : Double) : Prop := ∃ negative m e, x = finite negative m e

theorem not_isFinite_nan : ¬ nan.IsFinite := fun ⟨_, _, _, h⟩ => nomatch h

theorem not_isFinite_infinity (negative : Bool) : ¬ (infinity negative).IsFinite :=
  fun ⟨_, _, _, h⟩ => nomatch h

/-- A numeric constant starts with a digit, after its sign. -/
theorem not_numeric_of_letter (c : Char) (tail : List Char) (hletter : c.isDigit = false) (hc : c ≠ '-') :
    ¬ NumericConstant (c :: tail) ∧ ¬ NumericConstant ('-' :: c :: tail) := by
  have hunsigned (d : Char) (rest : List Char) (hd : d.isDigit = false) :
      ¬ UnsignedConstant (d :: rest) := by
    intro h
    obtain ⟨d', rest', heq, hdigit⟩ := h.exists_cons
    rw [← (List.cons.inj heq).1, hd] at hdigit
    cases hdigit
  constructor
  · intro h
    cases h with
    | plain h => exact hunsigned c tail hletter h
    | minus h => exact hc rfl
  · intro h
    cases h with
    | plain h => exact hunsigned '-' _ rfl h
    | minus h => exact hunsigned c tail hletter h

/-- The doubles that are written as numeric constants are those that are numbers; the others are written
as words. -/
theorem write_numeric_iff (x : Double) : NumericConstant (x.write shortStyle).toList ↔ x.IsFinite := by
  cases x with
  | nan =>
    have hword := (not_numeric_of_letter 'n' ['a', 'n'] rfl (by decide)).1
    exact iff_of_false hword not_isFinite_nan
  | infinity negative =>
    have hword := not_numeric_of_letter 'i' ['n', 'f'] rfl (by decide)
    refine iff_of_false ?_ (not_isFinite_infinity negative)
    cases negative
    · exact hword.1
    · exact hword.2
  | finite negative m e =>
    refine iff_of_true ?_ ⟨negative, m, e, rfl⟩
    have hmagnitude := magnitudeText_unsigned m e
    unfold write
    rw [String.toList_append, String.toList_ofList]
    cases negative
    · exact .plain hmagnitude
    · exact .minus hmagnitude

end Double

end QueryPlans
