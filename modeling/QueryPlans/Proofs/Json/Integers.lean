import Mathlib.Algebra.Group.Nat.Defs
import Mathlib.Data.List.Induction
import QueryPlans.Proofs.Json.Scalars
import QueryPlans.Proofs.Number.Written
import QueryPlans.Proofs.Plan.Fields

/-!
# Integers that were read

An integer is only read if it has few enough digits, and then it can be written again.  So the page and
the page size of a plan that was read can be named.

* `Json.Writable` — every integer in a value, at any depth, can be written.

Principal results: `Numeral.ofDigits_lt` — a number is bounded by its digits; `Json.decode_writable` — the
integers of a decoded text can be written; `Reader.integer_writable` — so can an integer that is read
from one of its values; `Plan.read_writable` — the page and the page size of a plan in a reply.
-/

namespace QueryPlans

/-! ## Digits -/

namespace Numeral

theorem ofDigits_concat (ds : List Nat) (d : Nat) : ofDigits (ds ++ [d]) = 10 * ofDigits ds + d := by
  unfold ofDigits
  rw [List.foldl_append]
  rfl

/-- A number is less than ten to the number of its digits. -/
theorem ofDigits_lt {ds : List Nat} (h : ∀ d ∈ ds, d ≤ 9) : ofDigits ds < 10 ^ ds.length := by
  induction ds using List.reverseRecOn with
  | nil => exact Nat.zero_lt_one
  | append_singleton ds d ih =>
    have hrest := ih fun d' hd' => h d' (List.mem_append_left _ hd')
    have hlast := h d (List.mem_append_right _ List.mem_cons_self)
    rw [ofDigits_concat, List.length_append, List.length_singleton, Nat.pow_succ]
    omega

/-- Zeros in front do not count. -/
theorem ofDigits_dropWhile (ds : List Nat) : ofDigits (ds.dropWhile (· == 0)) = ofDigits ds := by
  induction ds with
  | nil => rfl
  | cons d ds ih =>
    rw [List.dropWhile_cons]
    split
    · rename_i hzero
      rw [ih, beq_iff_eq.1 hzero]
      rfl
    · rfl

theorem natAbs_signed (negative : Bool) (n : Nat) : (Double.signed negative n).natAbs = n := by
  cases negative <;> simp [Double.signed]

/-- A number with few enough digits can be written. -/
theorem isWritable_signed {negative : Bool} {n length : Nat} (hn : n < 10 ^ length)
    (hlength : length ≤ digitLimit) : IsWritable (Double.signed negative n) := by
  unfold IsWritable
  rw [natAbs_signed]
  exact Nat.lt_of_lt_of_le hn (pow_le_pow hlength)

/-- The digits that are read come from characters of the text. -/
theorem exists_of_mem_readDigits {value : Char → Option Nat} {cs : List Char} {ds : List Nat}
    (h : readDigits? value cs = some ds) {d : Nat} (hd : d ∈ ds) : ∃ c, value c = some d := by
  induction cs using readDigits?.induct generalizing ds with
  | case1 => cases h
  | case2 c =>
    obtain ⟨d', hvalue, rfl⟩ := Option.map_eq_some_iff.1 h
    rw [List.mem_singleton.1 hd]
    exact ⟨c, hvalue⟩
  | case3 c rest ih =>
    obtain ⟨d', hvalue, hrest⟩ := Option.bind_eq_some_iff.1 h
    obtain ⟨tail, htail, rfl⟩ := Option.map_eq_some_iff.1 hrest
    rcases List.mem_cons.1 hd with rfl | hlater
    · exact ⟨c, hvalue⟩
    · exact ih htail hlater
  | case4 c next rest hnext ih =>
    rw [readDigits?] at h
    · obtain ⟨d', hvalue, hrest⟩ := Option.bind_eq_some_iff.1 h
      obtain ⟨tail, htail, rfl⟩ := Option.map_eq_some_iff.1 hrest
      rcases List.mem_cons.1 hd with rfl | hlater
      · exact ⟨c, hvalue⟩
      · exact ih htail hlater
    · exact hnext

theorem asciiDigitValue?_le {c : Char} {d : Nat} (h : Text.asciiDigitValue? c = some d) : d ≤ 9 := by
  unfold Text.asciiDigitValue? at h
  simp only [Bool.and_eq_true, decide_eq_true_eq] at h
  split at h
  · rename_i hbounds
    cases h
    omega
  · cases h

/-- An integer that is read from a text can be written. -/
theorem readLenient?_writable {s : String} {n : Int} (h : readLenient? s = .ok n) : IsWritable n := by
  unfold readLenient? at h
  simp only at h
  split at h
  · cases h
  rename_i ds hdigits
  rcases ite_eq_iff.1 h with ⟨-, h⟩ | ⟨-, h⟩
  · cases h
  rcases ite_eq_iff.1 h with ⟨-, h⟩ | ⟨hlength, h⟩
  · cases h
  obtain rfl := Except.ok.inj h
  rw [← ofDigits_dropWhile]
  refine isWritable_signed (ofDigits_lt fun d hd => ?_) (Nat.le_of_not_lt hlength)
  obtain ⟨c, hvalue⟩ := exists_of_mem_readDigits hdigits ((List.dropWhile_sublist _).subset hd)
  exact asciiDigitValue?_le hvalue

end Numeral

/-! ## Decoded values -/

namespace Json

open Numeral (IsWritable)

/-- Every integer in the value can be written. -/
inductive Writable : Json → Prop
  | null : Writable null
  | bool (b : Bool) : Writable (bool b)
  | int (n : Int) (h : IsWritable n) : Writable (int n)
  | float (x : Double) : Writable (float x)
  | str (s : String) : Writable (str s)
  | arr (items : List Json) (h : ∀ v ∈ items, Writable v) : Writable (arr items)
  | obj (fields : Fields) (h : ∀ f ∈ fields, Writable f.2) : Writable (obj fields)

variable {cs : List Char} {v : Json}

theorem digitsValue_lt {ds : List Char} (h : ∀ c ∈ ds, c.isDigit = true) :
    digitsValue ds < 10 ^ ds.length := by
  unfold digitsValue
  rw [← List.length_map (f := fun c : Char => c.toNat - 0x30)]
  refine Numeral.ofDigits_lt fun d hd => ?_
  obtain ⟨c, hc, rfl⟩ := List.mem_map.1 hd
  have hdigit := h c hc
  simp only [Char.isDigit, Bool.and_eq_true, decide_eq_true_eq] at hdigit
  have hle : c.toNat ≤ 57 := hdigit.2
  omega

theorem NumberParts.writable {p : NumberParts} (h : p.number = .ok v) : v.Writable := by
  rcases p.number_eq_ok h with ⟨-, hlength, rfl⟩ | ⟨-, rfl⟩
  · exact .int _ (Numeral.isWritable_signed (digitsValue_lt p.wholePart.digits.isDigit) hlength)
  · exact .float _

theorem ScalarText.writable (h : ScalarText cs v) : v.Writable := by
  cases h with
  | word hmem =>
    rcases value_of_mem_words hmem with rfl | ⟨b, rfl⟩ | rfl | ⟨negative, rfl⟩
    · exact .null
    · exact .bool b
    · exact .float _
    · exact .float _
  | number p h => exact NumberParts.writable h
  | string _ s => exact .str s

theorem Every.writable (h : v.Every Writable) : v.Writable := by
  induction h with
  | scalar h => exact h
  | arr _ ih => exact .arr _ ih
  | obj _ ih => exact .obj _ ih

/-- Every integer of a decoded text can be written. -/
theorem decode_writable {text : String} {depth : Nat} (h : decode text depth = .ok v) : v.Writable :=
  (decode_every (fun _ hscalar => hscalar.writable) h).writable

end Json

/-! ## Plans -/

open Numeral (IsWritable)

/-- An integer that is read from a value can be written, if those in the value can. -/
theorem Reader.integer_writable {v : Json} {n : Int} (hv : v.Writable)
    (h : Reader.integer v = .valid n) : IsWritable n := by
  cases hv with
  | null => cases h
  | bool b =>
    cases h
    cases b <;> exact Numeral.isWritable_of_lt (by decide)
  | int m hm =>
    cases h
    exact hm
  | float x =>
    unfold Reader.integer at h
    simp only at h
    split at h
    · cases h
    rename_i m _
    rcases ite_eq_iff.1 h with ⟨-, h⟩ | ⟨-, h⟩
    · cases h
    rcases ite_eq_iff.1 h with ⟨-, h⟩ | ⟨hbound, h⟩
    · cases h
    obtain rfl := Checked.valid.inj h
    have hsmall : integerBound < 10 ^ 19 := by decide +kernel
    exact Numeral.isWritable_of_lt (Nat.lt_trans (Nat.lt_of_not_le hbound) hsmall)
  | str s =>
    unfold Reader.integer at h
    simp only at h
    split at h
    · rename_i m hread
      obtain rfl := Checked.valid.inj h
      exact Numeral.readLenient?_writable hread
    · cases h
    · cases h
  | arr items hitems => cases h
  | obj fields hfields => cases h

namespace Plan

/-- A page or a page size from a value with writable integers can be written. -/
theorem optional_readPositive_writable {fields : Json.Fields} {name : String} {default n : Int}
    (hfields : ∀ f ∈ fields, f.2.Writable) (hdefault : IsWritable default)
    (h : Reader.optional fields name default (readPositive default) = .valid n) : IsWritable n := by
  unfold Reader.optional at h
  split at h
  · rename_i v hv
    have hread := Checked.under_eq_valid_iff.1 h
    have hnormal : (nullTo (.int default) v).Writable := by
      unfold nullTo
      split
      · exact .int _ hdefault
      · exact hfields _ (Json.Fields.mem_of_get? hv)
    unfold readPositive at hread
    cases hint : Reader.integer (nullTo (.int default) v) with
    | invalid issues =>
      rw [hint] at hread
      cases hread
    | valid m =>
      rw [hint] at hread
      obtain rfl := Checked.valid.inj hread
      unfold positiveOr
      split
      · exact Reader.integer_writable hnormal hint
      · exact hdefault
  · cases h
    exact hdefault

/-- The fields of a reply with a plan, whose integers can be written. -/
theorem exists_fields_of_read {reply : String} {host : Host} {p : Plan}
    (h : read reply host = .ok p) :
    ∃ fields : Json.Fields, (∀ f ∈ fields, f.2.Writable) ∧ p.ReadFrom fields := by
  obtain ⟨fields, hdecode, hread⟩ := exists_decoded_of_read h
  cases Json.decode_writable hdecode with
  | obj _ hfields => exact ⟨fields, hfields, hread⟩

/-- The page and the page size of a plan in a reply can be written. -/
theorem read_writable {reply : String} {host : Host} {p : Plan}
    (h : read reply host = .ok p) :
    IsWritable p.page ∧ IsWritable p.limit := by
  obtain ⟨fields, hfields, hread⟩ := exists_fields_of_read h
  have hpage : IsWritable defaultPage := Numeral.isWritable_of_lt (by decide)
  have hlimit : IsWritable defaultLimit := Numeral.isWritable_of_lt (by decide)
  exact ⟨optional_readPositive_writable hfields hpage hread.page,
    optional_readPositive_writable hfields hlimit hread.limit⟩

end Plan

end QueryPlans
