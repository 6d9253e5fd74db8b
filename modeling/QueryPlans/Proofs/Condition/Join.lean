import QueryPlans.Proofs.Condition.Read
import QueryPlans.Text.Search

/-!
# Texts of conditions with AND between them

Each pass of the reading goes on after a text that is complete as it went on at its start, so that the
whole is read part by part.

* `Condition.conjunction` — what stands between two texts.

Principal results: `alternatives?_conjunction` — the alternatives of two texts with `AND` between them
are joined; `alternatives?_joined` — so are those of any number of texts.
-/

namespace QueryPlans.Condition

/-- What stands between two texts. -/
def conjunction : String := "\n  AND "

/-! ## Tokens -/

/-- A line break ends what was read before it. -/
theorem step?_lineBreak {mode : Mode} {ts : List Token} (h : finish? mode = some ts) :
    step? mode '\n' = some (ts, .between none) := by
  cases mode with
  | between last =>
    cases h
    have hcomment : startsComment last '\n' = false := by simp [startsComment]
    rw [step?, hcomment]
    rfl
  | word text =>
    cases h
    rfl
  | quoted quote text => cases h

/-- A text that is complete is read as if it stood alone, if a line break follows. -/
theorem tokens?_lineBreak {mode : Mode} {cs rest : List Char} {ts ts' : List Token}
    (h : tokens? mode cs = some ts) (hrest : tokens? (.between none) rest = some ts') :
    tokens? mode (cs ++ '\n' :: rest) = some (ts ++ ts') := by
  induction cs generalizing mode ts with
  | nil =>
    rw [tokens?] at h
    rw [List.nil_append, tokens?, step?_lineBreak h]
    simp [hrest]
  | cons c cs ih =>
    rw [tokens?] at h
    obtain ⟨⟨first, next⟩, hstep, hmap⟩ := Option.bind_eq_some_iff.1 h
    obtain ⟨later, hlater, rfl⟩ := Option.map_eq_some_iff.1 hmap
    rw [List.cons_append, tokens?, hstep]
    simp [ih hlater]

theorem tokens?_and {rest : List Char} {ts : List Token}
    (h : tokens? (.between none) rest = some ts) :
    tokens? (.between none) (' ' :: ' ' :: 'A' :: 'N' :: 'D' :: ' ' :: rest) =
      some (.word ['A', 'N', 'D'] :: ts) := by
  simp [tokens?, step?, enter?, Token.ofWord, startsComment, isBlank, isWordChar, h]

theorem tokens?_conjunction {cs ds : List Char} {ts us : List Token}
    (hcs : tokens? (.between none) cs = some ts) (hds : tokens? (.between none) ds = some us) :
    tokens? (.between none) (cs ++ conjunction.toList ++ ds) =
      some (ts ++ .word ['A', 'N', 'D'] :: us) := by
  have hchars : conjunction.toList = ['\n', ' ', ' ', 'A', 'N', 'D', ' '] := by decide
  rw [hchars, List.append_assoc]
  exact tokens?_lineBreak hcs (tokens?_and hds)

/-! ## Items -/

/-- What is open, put over what was open before. -/
def putOver : List (Bracket × List Item) → List Item → List (Bracket × List Item) × List Item →
    List (Bracket × List Item) × List Item
  | [], inner, below => (below.1, inner ++ below.2)
  | (b, next) :: outer, inner, below =>
    let r := putOver outer next below
    ((b, r.2) :: r.1, inner)

theorem putOver_cons (outer : List (Bracket × List Item)) (i : Item) (inner : List Item)
    (below : List (Bracket × List Item) × List Item) :
    putOver outer (i :: inner) below =
      ((putOver outer inner below).1, i :: (putOver outer inner below).2) := by
  cases outer <;> rfl

theorem items?_opening (b : Bracket) (outer : List (Bracket × List Item)) (inner : List Item)
    (ts : List Token) : items? outer inner (.opening b :: ts) = items? ((b, inner) :: outer) [] ts := by
  cases outer <;> rfl

theorem items?_token {t : Token} (hopening : ∀ b, t ≠ .opening b) (hclosing : ∀ b, t ≠ .closing b)
    (outer : List (Bracket × List Item)) (inner : List Item) (ts : List Token) :
    items? outer inner (t :: ts) = items? outer (.token t :: inner) ts := by
  cases t with
  | opening b => exact absurd rfl (hopening b)
  | closing b => exact absurd rfl (hclosing b)
  | word text => cases outer <;> rfl
  | quoted text => cases outer <;> rfl
  | symbol c => cases outer <;> rfl

/-- What is complete is read over anything that is open. -/
theorem items?_putOver {outer : List (Bracket × List Item)} {inner : List Item} {ts : List Token}
    {items : List Item} (h : items? outer inner ts = some items) (rest : List Token)
    (below : List (Bracket × List Item) × List Item) :
    items? (putOver outer inner below).1 (putOver outer inner below).2 (ts ++ rest) =
      items? below.1 (items.reverse ++ below.2) rest := by
  induction ts generalizing outer inner with
  | nil =>
    cases outer with
    | nil =>
      cases h
      rw [List.reverse_reverse]
      rfl
    | cons next outer => cases h
  | cons t ts ih =>
    rw [List.cons_append]
    cases t with
    | opening b =>
      rw [items?_opening] at h ⊢
      exact ih h
    | closing b =>
      cases outer with
      | nil => cases h
      | cons next outer =>
        obtain ⟨b', before⟩ := next
        change (if b' = b then _ else none) = _ at h
        change (if b' = b then _ else none) = _
        split at h
        · rename_i hb
          have hnext := ih h
          rw [putOver_cons] at hnext
          rw [if_pos hb]
          exact hnext
        · cases h
    | word text | quoted text | symbol c =>
      rw [items?_token (by simp) (by simp)] at h ⊢
      have hnext := ih h
      rw [putOver_cons] at hnext
      exact hnext

theorem items?_conjunction {ts us : List Token} {is js : List Item} {t : Token}
    (hts : items? [] [] ts = some is) (hus : items? [] [] us = some js)
    (hopening : ∀ b, t ≠ .opening b) (hclosing : ∀ b, t ≠ .closing b) :
    items? [] [] (ts ++ t :: us) = some (is ++ .token t :: js) := by
  have hfirst := items?_putOver hts (t :: us) ([], [])
  have hsecond := items?_putOver hus [] ([], .token t :: is.reverse)
  change items? [] [] (ts ++ t :: us) = _ at hfirst
  change items? [] (.token t :: is.reverse) (us ++ []) = _ at hsecond
  rw [hfirst, items?_token hopening hclosing, List.append_nil, ← List.append_nil us, hsecond]
  simp [items?]

/-! ## Pieces -/

/-- Items that are complete are read as if they stood alone. -/
theorem pieces?_append {pending : Bool} {is js : List Item} {ps qs : List Piece}
    (his : pieces? pending is = some ps) (hjs : pieces? false js = some qs) :
    pieces? pending (is ++ js) = some (ps ++ qs) := by
  induction is generalizing pending ps with
  | nil =>
    rw [pieces?] at his
    split at his
    · cases his
    · rename_i hpending
      cases his
      rw [Bool.not_eq_true] at hpending
      rw [hpending]
      exact hjs
  | cons i is ih =>
    rw [pieces?] at his
    obtain ⟨⟨p, next⟩, hp, hmap⟩ := Option.bind_eq_some_iff.1 his
    obtain ⟨later, hlater, rfl⟩ := Option.map_eq_some_iff.1 hmap
    rw [List.cons_append, pieces?, hp]
    simp [ih hlater]

theorem pieces?_conjunction {is js : List Item} {ps qs : List Piece}
    (his : pieces? false is = some ps) (hjs : pieces? false js = some qs) :
    pieces? false (is ++ .token (.word ['A', 'N', 'D']) :: js) = some (ps ++ .and :: qs) := by
  refine pieces?_append his ?_
  have hkeyword : piece? false (.token (.word ['A', 'N', 'D'])) = some (.and, false) := by decide
  rw [pieces?, hkeyword]
  simp [hjs]

/-! ## Alternatives -/

/-- The operator between two texts joins their alternatives. -/
theorem split_and (ps qs : List Piece) : split (ps ++ .and :: qs) = (split ps).join (split qs) := by
  induction ps with
  | nil => rfl
  | cons p ps ih =>
    cases p with
    | or =>
      change Chain.cons (.one []) (split (ps ++ .and :: qs)) = _
      rw [ih]
      rfl
    | and =>
      change (split (ps ++ .and :: qs)).mapHead (.cons []) = ((split ps).mapHead (.cons [])).join _
      rw [ih, Chain.join_mapHead fun t u => rfl]
    | not t =>
      change (split (ps ++ .and :: qs)).mapHead _ = ((split ps).mapHead _).join _
      rw [ih, Chain.join_mapHead fun t u => Chain.append_mapHead _ t u]
    | item i =>
      change (split (ps ++ .and :: qs)).mapHead _ = ((split ps).mapHead _).join _
      rw [ih, Chain.join_mapHead fun t u => Chain.append_mapHead _ t u]

/-- The alternatives of two texts with `AND` between them are joined. -/
theorem alternatives?_conjunction {s t : String} {as bs : Chain (Chain (Condition Atom))}
    (hs : alternatives? s = some as) (ht : alternatives? t = some bs) :
    alternatives? (s ++ conjunction ++ t) = some (as.join bs) := by
  unfold alternatives? at hs ht ⊢
  simp only [Option.bind_eq_some_iff] at hs ht
  obtain ⟨ps, ⟨is, ⟨ts, hts, his⟩, hps⟩, has⟩ := hs
  obtain ⟨qs, ⟨js, ⟨us, hus, hjs⟩, hqs⟩, hbs⟩ := ht
  have htokens := tokens?_conjunction hts hus
  have hitems := items?_conjunction his hjs (t := .word ['A', 'N', 'D']) (by simp) (by simp)
  have hpieces := pieces?_conjunction hps hqs
  rw [String.toList_append, String.toList_append, htokens]
  simp only [Option.bind_some, hitems, hpieces]
  unfold alternativesOf? at has hbs ⊢
  rw [split_and]
  exact Chain.traverse_join has hbs

/-- The alternatives of texts with `AND` between them are joined. -/
theorem alternatives?_joined {text : String} {texts : List String}
    {fs : Chain (Chain (Chain (Condition Atom)))}
    (h : (text :: texts).map alternatives? = fs.toList.map some) :
    alternatives? (Text.joined conjunction (text :: texts)) = some (joinAll fs) := by
  induction texts generalizing text fs with
  | nil =>
    cases fs with
    | one as => simpa [Chain.toList, joinAll] using h
    | cons as fs => cases fs <;> simp [Chain.toList] at h
  | cons next texts ih =>
    cases fs with
    | one as => simp [Chain.toList] at h
    | cons as fs =>
      rw [Chain.toList, List.map_cons, List.map_cons (l := fs.toList), List.cons.injEq] at h
      rw [Text.joined_cons_cons, joinAll]
      exact alternatives?_conjunction h.1 (ih h.2)

end QueryPlans.Condition
