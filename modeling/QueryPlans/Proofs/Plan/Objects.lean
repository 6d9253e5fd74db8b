import QueryPlans.Proofs.Plan.Spans
import QueryPlans.Proofs.Text.Pieces

/-!
# Objects by their grammar

What the scan for braces looks for, as a grammar.  An object is made of items between braces; an item is a
character that is no mark, a string, or an object again.  A string is made of pieces between quotes; a
piece is a character, or a backslash with the character after it.

* `Plan.IsPiece`, `Plan.IsQuoted` — the pieces of a string, and strings.
* `Plan.IsItem`, `Plan.IsObject` — the items of an object, and objects.
* `Plan.Cuts` — a text cut into what stands before its first opening brace, an object, and the rest.

Principal results: `isObject_iff` — objects are balanced text between braces; `IsObject.eq_of_append` — of
the objects that a text starts with there is one at most; `object_found_iff` — the scan finds exactly the
object of a cut, and a text has one cut at most.
-/

namespace QueryPlans.Plan

/-- A piece of a string. -/
inductive IsPiece : List Char → Prop
  | plain {c : Char} (hquote : c ≠ '"') (hbackslash : c ≠ '\\') : IsPiece [c]
  | escaped (c : Char) : IsPiece ['\\', c]

/-- A string: pieces between quotes. -/
inductive IsQuoted : List Char → Prop
  | quotes {pieces : List (List Char)} (h : ∀ piece ∈ pieces, IsPiece piece) :
      IsQuoted ('"' :: (pieces.flatten ++ ['"']))

mutual

/-- An object: items between braces. -/
inductive IsObject : List Char → Prop
  | braces {items : List (List Char)} (h : ∀ item ∈ items, IsItem item) :
      IsObject ('{' :: (items.flatten ++ ['}']))

/-- What an object is made of: a character that is no mark, a string, or an object. -/
inductive IsItem : List Char → Prop
  | plain {c : Char} (hc : ¬ IsMark c) : IsItem [c]
  | quoted {item : List Char} (h : IsQuoted item) : IsItem item
  | object {item : List Char} (h : IsObject item) : IsItem item

end

variable {cs s s' text : List Char}

/-! ## Strings -/

theorem quotedBody_flatten {pieces : List (List Char)} (h : ∀ piece ∈ pieces, IsPiece piece) :
    QuotedBody pieces.flatten := by
  induction pieces with
  | nil => exact .nil
  | cons piece pieces ih =>
    have hrest := ih fun other hother => h other (List.mem_cons_of_mem _ hother)
    cases h piece List.mem_cons_self with
    | plain hquote hbackslash => exact .plain hquote hbackslash hrest
    | escaped c => exact .escaped hrest

theorem QuotedBody.exists_pieces (h : QuotedBody cs) :
    ∃ pieces : List (List Char), (∀ piece ∈ pieces, IsPiece piece) ∧ cs = pieces.flatten := by
  induction h with
  | nil => exact ⟨[], by simp, rfl⟩
  | plain hquote hbackslash _ ih =>
    obtain ⟨pieces, hpieces, rfl⟩ := ih
    exact ⟨[_] :: pieces, List.forall_mem_cons.2 ⟨.plain hquote hbackslash, hpieces⟩, rfl⟩
  | escaped _ ih =>
    obtain ⟨pieces, hpieces, rfl⟩ := ih
    exact ⟨['\\', _] :: pieces, List.forall_mem_cons.2 ⟨.escaped _, hpieces⟩, rfl⟩

theorem isQuoted_iff : IsQuoted s ↔ ∃ body, QuotedBody body ∧ s = '"' :: (body ++ ['"']) := by
  constructor
  · rintro ⟨h⟩
    exact ⟨_, quotedBody_flatten h, rfl⟩
  · rintro ⟨body, hbody, rfl⟩
    obtain ⟨pieces, hpieces, rfl⟩ := hbody.exists_pieces
    exact .quotes hpieces

/-! ## Objects -/

theorem balanced_flatten {items : List (List Char)} (h : ∀ item ∈ items, Balanced item) :
    Balanced items.flatten := by
  induction items with
  | nil => exact .nil
  | cons item items ih =>
    obtain ⟨hitem, hitems⟩ := List.forall_mem_cons.1 h
    exact hitem.append (ih hitems)

mutual

theorem IsObject.exists_inner {s : List Char} :
    IsObject s → ∃ inner, Balanced inner ∧ s = '{' :: (inner ++ ['}'])
  | .braces h => ⟨_, balanced_flatten fun item hitem => (h item hitem).balanced, rfl⟩

theorem IsItem.balanced {s : List Char} : IsItem s → Balanced s
  | .plain hc => .plain hc .nil
  | .quoted h => by
    obtain ⟨body, hbody, rfl⟩ := isQuoted_iff.1 h
    exact .quoted hbody .nil
  | .object h => by
    obtain ⟨inner, hinner, rfl⟩ := h.exists_inner
    exact .braces hinner .nil

end

theorem Balanced.exists_items (h : Balanced cs) :
    ∃ items : List (List Char), (∀ item ∈ items, IsItem item) ∧ cs = items.flatten := by
  induction h with
  | nil => exact ⟨[], by simp, rfl⟩
  | plain hc _ ih =>
    obtain ⟨items, hitems, rfl⟩ := ih
    exact ⟨[_] :: items, List.forall_mem_cons.2 ⟨.plain hc, hitems⟩, rfl⟩
  | quoted hbody _ ih =>
    obtain ⟨items, hitems, rfl⟩ := ih
    have hstring := isQuoted_iff.2 ⟨_, hbody, rfl⟩
    exact ⟨_ :: items, List.forall_mem_cons.2 ⟨.quoted hstring, hitems⟩, by simp⟩
  | braces _ _ ihInner ihRest =>
    obtain ⟨inner, hinner, rfl⟩ := ihInner
    obtain ⟨items, hitems, rfl⟩ := ihRest
    exact ⟨_ :: items, List.forall_mem_cons.2 ⟨.object (.braces hinner), hitems⟩, by simp⟩

/-- Objects are balanced text between braces. -/
theorem isObject_iff : IsObject s ↔ ∃ inner, Balanced inner ∧ s = '{' :: (inner ++ ['}']) := by
  constructor
  · exact IsObject.exists_inner
  · rintro ⟨inner, hinner, rfl⟩
    obtain ⟨items, hitems, rfl⟩ := hinner.exists_items
    exact .braces hitems

/-- Of the objects that a text starts with there is one at most. -/
theorem IsObject.eq_of_append {rest rest' : List Char} (hs : IsObject s) (hs' : IsObject s')
    (h : s ++ rest = s' ++ rest') : s = s' := by
  obtain ⟨inner, hinner, rfl⟩ := hs.exists_inner
  obtain ⟨inner', hinner', rfl⟩ := hs'.exists_inner
  have htail : inner ++ '}' :: rest = inner' ++ '}' :: rest' := by simpa using h
  have htaken := takeBalanced?_object hinner rest
  rw [htail, takeBalanced?_object hinner' rest'] at htaken
  rw [Option.some.inj htaken]

/-! ## Cuts -/

/-- The text, cut into what stands before its first opening brace, an object, and the rest. -/
structure Cuts (text before object after : List Char) : Prop where
  noBrace : '{' ∉ before
  isObject : IsObject object
  text_eq : text = before ++ object ++ after

/-- A text has one cut at most. -/
theorem Cuts.unique {before object after before' object' after' : List Char}
    (h : Cuts text before object after) (h' : Cuts text before' object' after') :
    before = before' ∧ object = object' ∧ after = after' := by
  have hbefore : before = before' := by
    obtain ⟨inner, -, rfl⟩ := h.isObject.exists_inner
    obtain ⟨inner', -, rfl⟩ := h'.isObject.exists_inner
    have hcut : Text.cut '{' (before ++ '{' :: (inner ++ ['}'] ++ after)) =
        (before, some (inner ++ ['}'] ++ after)) := Text.cut_append_cons h.noBrace
    have hcut' : Text.cut '{' (before' ++ '{' :: (inner' ++ ['}'] ++ after')) =
        (before', some (inner' ++ ['}'] ++ after')) := Text.cut_append_cons h'.noBrace
    have htext : before ++ '{' :: (inner ++ ['}'] ++ after) =
        before' ++ '{' :: (inner' ++ ['}'] ++ after') := by
      simpa using h.text_eq.symm.trans h'.text_eq
    rw [htext, hcut'] at hcut
    exact (congrArg Prod.fst hcut).symm
  subst hbefore
  have htail : object ++ after = object' ++ after' := by
    have htext := h.text_eq.symm.trans h'.text_eq
    rw [List.append_assoc, List.append_assoc] at htext
    exact List.append_cancel_left htext
  obtain rfl := h.isObject.eq_of_append h'.isObject htail
  exact ⟨rfl, rfl, List.append_cancel_left htail⟩

/-- The object of a cut is the first span between braces. -/
theorem isFirstSpan_iff : IsFirstSpan text s ↔ ∃ before after, Cuts text before s after := by
  constructor
  · rintro ⟨before, inner, after, hbefore, hinner, rfl, rfl⟩
    exact ⟨before, after, hbefore, isObject_iff.2 ⟨inner, hinner, rfl⟩, by simp⟩
  · rintro ⟨before, after, hbefore, hobject, rfl⟩
    obtain ⟨inner, hinner, rfl⟩ := hobject.exists_inner
    exact ⟨before, inner, after, hbefore, hinner, by simp, rfl⟩

/-- **Objects are found by their grammar.** The scan for braces gives an object exactly if it is the one of
a cut of the text, and nothing exactly if the text has no cut.  It has one at most. -/
theorem object_found_iff (text : List Char) :
    (∀ object, balancedObject? text = some object ↔
      ∃ before after, Cuts text before object after) ∧
    (balancedObject? text = none ↔ ∀ before object after, ¬ Cuts text before object after) ∧
    (∀ before object after before' object' after', Cuts text before object after →
      Cuts text before' object' after' → before = before' ∧ object = object' ∧ after = after') := by
  refine ⟨fun object => ?_, ?_, fun _ _ _ _ _ _ => Cuts.unique⟩
  · rw [balancedObject?_eq_some_iff, isFirstSpan_iff]
  · rw [balancedObject?_eq_none_iff]
    constructor
    · intro hnone before object after hcut
      exact hnone object (isFirstSpan_iff.2 ⟨before, after, hcut⟩)
    · intro hnone object hspan
      obtain ⟨before, after, hcut⟩ := isFirstSpan_iff.1 hspan
      exact hnone before object after hcut

/-- A lone quote, an object that holds a string of marks and another object, and a brace that is not
closed. -/
def quotedMarks : String := "a \" \x7b\"\x7b\\\"\x7d\": \x7b\x7d\x7d \x7b"

/-- Marks in a string, and those before and after the object, do no harm. -/
theorem quotedMarks_cut :
    Cuts quotedMarks.toList "a \" ".toList "\x7b\"\x7b\\\"\x7d\": \x7b\x7d\x7d".toList " \x7b".toList ∧
    ∀ before object after, Cuts quotedMarks.toList before object after →
      object = "\x7b\"\x7b\\\"\x7d\": \x7b\x7d\x7d".toList := by
  obtain ⟨hfound, -, hunique⟩ := object_found_iff quotedMarks.toList
  obtain ⟨_, _, hcut⟩ := (hfound "\x7b\"\x7b\\\"\x7d\": \x7b\x7d\x7d".toList).1 (by decide +kernel)
  refine ⟨⟨by decide +kernel, hcut.isObject, by decide +kernel⟩, fun before object after hother => ?_⟩
  exact (hunique _ _ _ _ _ _ hother hcut).2.1

end QueryPlans.Plan
