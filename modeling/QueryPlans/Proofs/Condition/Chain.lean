/-!
# Chains

* `Chain` — a list with at least one entry.
* `Chain.join` — two chains of chains, joined at the ends that meet.
* `Chain.traverse` — every entry changed, unless one of them cannot be.

Principal result: `traverse_join` — to change all entries and to join come to the same in either order.
-/

namespace QueryPlans

/-- A list with at least one entry. -/
inductive Chain (α : Type) where
  | one (a : α)
  | cons (a : α) (rest : Chain α)
  deriving DecidableEq, Repr

namespace Chain

variable {α β : Type}

/-- The entries. -/
def toList : Chain α → List α
  | one a => [a]
  | cons a rest => a :: rest.toList

/-- One chain after another. -/
def append : Chain α → Chain α → Chain α
  | one a, bs => cons a bs
  | cons a rest, bs => cons a (rest.append bs)

/-- Change the first entry. -/
def mapHead (f : α → α) : Chain α → Chain α
  | one a => one (f a)
  | cons a rest => cons (f a) rest

/-- Change every entry, unless one of them cannot be changed. -/
def traverse (f : α → Option β) : Chain α → Option (Chain β)
  | one a => (f a).map one
  | cons a rest => (f a).bind fun b => (rest.traverse f).map (cons b)

/-- Two chains of chains: the last of the first continues with the first of the second. -/
def join : Chain (Chain α) → Chain (Chain α) → Chain (Chain α)
  | one t, us => us.mapHead t.append
  | cons t ts, us => cons t (join ts us)

@[simp] theorem toList_append (as bs : Chain α) : (as.append bs).toList = as.toList ++ bs.toList := by
  induction as with
  | one a => rfl
  | cons a rest ih => rw [append, toList, toList, ih, List.cons_append]

theorem length_toList_pos (as : Chain α) : 0 < as.toList.length := by
  cases as <;> simp [toList]

theorem append_mapHead (f : α → α) (as bs : Chain α) :
    (as.mapHead f).append bs = (as.append bs).mapHead f := by
  cases as <;> rfl

/-- What changes the first entry of the whole changes that of the first part. -/
theorem join_mapHead {f : Chain α → Chain α} (hf : ∀ t u : Chain α, (f t).append u = f (t.append u))
    (ts us : Chain (Chain α)) : (ts.mapHead f).join us = (ts.join us).mapHead f := by
  cases ts with
  | cons t ts => rfl
  | one t =>
    cases us with
    | one u => simp only [mapHead, join, hf]
    | cons u us => simp only [mapHead, join, hf]

theorem traverse_one_eq_some {f : α → Option β} {a : α} {bs : Chain β}
    (h : (one a).traverse f = some bs) : ∃ b, f a = some b ∧ bs = one b := by
  obtain ⟨b, hb, rfl⟩ := Option.map_eq_some_iff.1 h
  exact ⟨b, hb, rfl⟩

theorem traverse_cons_eq_some {f : α → Option β} {a : α} {rest : Chain α} {bs : Chain β}
    (h : (cons a rest).traverse f = some bs) :
    ∃ b bs', f a = some b ∧ rest.traverse f = some bs' ∧ bs = cons b bs' := by
  obtain ⟨b, hb, hrest⟩ := Option.bind_eq_some_iff.1 h
  obtain ⟨bs', hbs, rfl⟩ := Option.map_eq_some_iff.1 hrest
  exact ⟨b, bs', hb, hbs, rfl⟩

theorem traverse_append {f : α → Option β} {as as' : Chain α} {bs bs' : Chain β}
    (h : as.traverse f = some bs) (h' : as'.traverse f = some bs') :
    (as.append as').traverse f = some (bs.append bs') := by
  induction as generalizing bs with
  | one a =>
    obtain ⟨b, hb, rfl⟩ := traverse_one_eq_some h
    simp [append, traverse, hb, h']
  | cons a rest ih =>
    obtain ⟨b, bs, hb, hrest, rfl⟩ := traverse_cons_eq_some h
    simp [append, traverse, hb, ih hrest]

theorem traverse_join {f : α → Option β} {ts us : Chain (Chain α)} {ts' us' : Chain (Chain β)}
    (h : ts.traverse (traverse f) = some ts') (h' : us.traverse (traverse f) = some us') :
    (ts.join us).traverse (traverse f) = some (ts'.join us') := by
  induction ts generalizing ts' with
  | one t =>
    obtain ⟨t', ht, rfl⟩ := traverse_one_eq_some h
    cases us with
    | one u =>
      obtain ⟨u', hu, rfl⟩ := traverse_one_eq_some h'
      simp [join, mapHead, traverse, traverse_append ht hu]
    | cons u us =>
      obtain ⟨u', us', hu, hus, rfl⟩ := traverse_cons_eq_some h'
      simp [join, mapHead, traverse, traverse_append ht hu, hus]
  | cons t ts ih =>
    obtain ⟨t', ts', ht, hts, rfl⟩ := traverse_cons_eq_some h
    simp [join, traverse, ht, ih hts]

end Chain

end QueryPlans
