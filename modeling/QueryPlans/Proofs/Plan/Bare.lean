import QueryPlans.Proofs.Plan.Wrapping

/-!
# Objects that stand alone

A reply may be a JSON object and nothing else.  Code fences are looked for all the same, and also in its
strings.  So the object is taken whole unless its strings hold a block that would be taken from prose.

* `Plan.IsBlock` — the text between an opening mark and the next fence.
* `Plan.Hides` — a text holds a block that is taken in place of it.

Principal results: `objectChars_eq_iff` — an object is taken whole exactly if no block hides it;
`bare_taken_whole_iff` — then the reply reads as the object, and otherwise as a shorter piece of it;
`bare_loses_tables` — so a plan may be read from one of its own strings.
-/

namespace QueryPlans.Plan

variable {opener text inner block : List Char}

/-! ## Blocks -/

/-- The text between the first opening mark and the next fence after it. -/
def IsBlock (opener text inner : List Char) : Prop :=
  ∃ before rest after, Text.FirstAt opener text before rest ∧ Text.FirstAt fence rest inner after

theorem fence_ne_nil : fence ≠ [] := List.cons_ne_nil _ _

theorem jsonFence_ne_nil : jsonFence ≠ [] := List.cons_ne_nil _ _

theorem fencedBlock?_eq_bind (opener text : List Char) :
    fencedBlock? opener text = (Text.find? opener text).bind fun opened =>
      (Text.find? fence opened.2).map fun closed => Text.trim Text.isBlank closed.1 := by
  unfold fencedBlock?
  cases Text.find? opener text with
  | none => rfl
  | some opened =>
    obtain ⟨before, rest⟩ := opened
    simp only [Option.bind_some]
    cases Text.find? fence rest with
    | none => rfl
    | some closed => rfl

theorem fencedBlock?_eq_some_iff (hne : opener ≠ []) :
    fencedBlock? opener text = some block ↔
      ∃ inner, IsBlock opener text inner ∧ Text.trim Text.isBlank inner = block := by
  rw [fencedBlock?_eq_bind, Option.bind_eq_some_iff]
  constructor
  · rintro ⟨⟨before, rest⟩, hopen, hmap⟩
    obtain ⟨⟨inner, after⟩, hclose, hblock⟩ := Option.map_eq_some_iff.1 hmap
    exact ⟨inner, ⟨before, rest, after, (Text.find?_eq_some_iff hne).1 hopen,
      (Text.find?_eq_some_iff fence_ne_nil).1 hclose⟩, hblock⟩
  · rintro ⟨inner, ⟨before, rest, after, hopen, hclose⟩, hblock⟩
    refine ⟨(before, rest), (Text.find?_eq_some_iff hne).2 hopen, Option.map_eq_some_iff.2 ?_⟩
    exact ⟨(inner, after), (Text.find?_eq_some_iff fence_ne_nil).2 hclose, hblock⟩

theorem fencedBlock?_eq_none_iff (hne : opener ≠ []) :
    fencedBlock? opener text = none ↔ ∀ inner, ¬ IsBlock opener text inner := by
  rw [Option.eq_none_iff_forall_not_mem]
  constructor
  · intro h inner hinner
    exact h _ ((fencedBlock?_eq_some_iff hne).2 ⟨inner, hinner, rfl⟩)
  · intro h block hblock
    obtain ⟨inner, hinner, -⟩ := (fencedBlock?_eq_some_iff hne).1 hblock
    exact h inner hinner

/-- There is a block as soon as a fence stands somewhere after an opening mark. -/
theorem exists_isBlock_iff (hne : opener ≠ []) :
    (∃ inner, IsBlock opener text inner) ↔
      ∃ before inner after, text = before ++ opener ++ (inner ++ fence ++ after) := by
  constructor
  · rintro ⟨inner, before, rest, after, hopen, hclose⟩
    exact ⟨before, inner, after, by rw [hopen.split, hclose.split]⟩
  · rintro ⟨before, inner, after, hsplit⟩
    obtain ⟨first, rest, hopen, hsuffix⟩ := Text.exists_firstAt hne hsplit
    have hfence : fence <:+: rest :=
      (List.IsInfix.trans ⟨inner, after, rfl⟩ hsuffix.isInfix)
    obtain ⟨inner', after', hrest⟩ := hfence
    obtain ⟨inner'', after'', hclose, -⟩ := Text.exists_firstAt fence_ne_nil hrest.symm
    exact ⟨inner'', first, rest, after'', hopen, hclose⟩

theorem IsBlock.split (h : IsBlock opener text inner) :
    ∃ before after, text = before ++ opener ++ (inner ++ fence ++ after) := by
  obtain ⟨before, rest, after, hopen, hclose⟩ := h
  exact ⟨before, after, by rw [hopen.split, hclose.split]⟩

/-- What is taken from a block is a shorter piece of the text. -/
theorem IsBlock.trim_infix (h : IsBlock opener text inner) :
    Text.trim Text.isBlank inner <:+: text ∧
      (Text.trim Text.isBlank inner).length < text.length := by
  obtain ⟨before, after, hsplit⟩ := h.split
  have hinner : inner <:+: text := ⟨before ++ opener, fence ++ after, by simp [hsplit]⟩
  have htrim := Text.trim_infix Text.isBlank inner
  have hlength := congrArg List.length hsplit
  simp only [List.length_append] at hlength
  have hfence : 0 < fence.length := by decide
  have hle := htrim.length_le
  exact ⟨htrim.trans hinner, by omega⟩

/-- A block takes the place of the text that holds it: one that is opened as JSON, or, if there is
none, one that starts with a brace. -/
inductive Hides (text : List Char) : Prop
  | json (before inner after : List Char)
      (h : text = before ++ jsonFence ++ (inner ++ fence ++ after))
  | brace (inner : List Char) (h : IsBlock fence text inner)
      (hbrace : (Text.trim Text.isBlank inner).head? = some '{')

/-- The block that takes the place of the text. -/
def hidingBlock? (text : List Char) : Option (List Char) :=
  (fencedBlock? jsonFence text).or ((fencedBlock? fence text).filter (·.head? == some '{'))

theorem objectChars_eq (text : List Char) :
    objectChars text = (hidingBlock? text).getD ((balancedObject? text).getD []) := by
  unfold objectChars hidingBlock?
  cases fencedBlock? jsonFence text with
  | some block => rfl
  | none => cases (fencedBlock? fence text).filter (·.head? == some '{') <;> rfl

/-- A block that takes the place of the text is a shorter piece of it. -/
theorem shorter_of_hidingBlock (h : hidingBlock? text = some block) :
    block <:+: text ∧ block.length < text.length := by
  have hblock : ∃ opener ≠ [], fencedBlock? opener text = some block := by
    rcases Option.or_eq_some_iff.1 h with hjson | ⟨-, hbrace⟩
    · exact ⟨jsonFence, jsonFence_ne_nil, hjson⟩
    · exact ⟨fence, fence_ne_nil, (Option.filter_eq_some_iff.1 hbrace).1⟩
  obtain ⟨opener, hne, hblock⟩ := hblock
  obtain ⟨inner, hinner, rfl⟩ := (fencedBlock?_eq_some_iff hne).1 hblock
  exact hinner.trim_infix

theorem hides_iff : Hides text ↔ ∃ block, hidingBlock? text = some block := by
  constructor
  · rintro (⟨before, inner, after, hsplit⟩ | ⟨inner, hinner, hbrace⟩)
    · obtain ⟨inner', hinner⟩ := (exists_isBlock_iff jsonFence_ne_nil).2 ⟨before, inner, after, hsplit⟩
      have hblock := (fencedBlock?_eq_some_iff jsonFence_ne_nil).2 ⟨inner', hinner, rfl⟩
      exact ⟨_, Option.or_eq_some_iff.2 (.inl hblock)⟩
    · have hblock := (fencedBlock?_eq_some_iff fence_ne_nil).2 ⟨inner, hinner, rfl⟩
      unfold hidingBlock?
      rw [hblock, Option.filter_some, hbrace]
      cases fencedBlock? jsonFence text with
      | none => exact ⟨_, rfl⟩
      | some block => exact ⟨_, rfl⟩
  · rintro ⟨block, h⟩
    rcases Option.or_eq_some_iff.1 h with hjson | ⟨-, hbrace⟩
    · obtain ⟨inner, hinner, -⟩ := (fencedBlock?_eq_some_iff jsonFence_ne_nil).1 hjson
      obtain ⟨before, after, hsplit⟩ := hinner.split
      exact .json before inner after hsplit
    · obtain ⟨hblock, hhead⟩ := Option.filter_eq_some_iff.1 hbrace
      obtain ⟨inner, hinner, rfl⟩ := (fencedBlock?_eq_some_iff fence_ne_nil).1 hblock
      exact .brace inner hinner (by simpa using hhead)

/-- It takes two marks, of three backticks each. -/
theorem Hides.six_le_count (h : Hides text) : 6 ≤ text.count '`' := by
  have hmarks : jsonFence.count '`' = 3 ∧ fence.count '`' = 3 := by decide
  obtain ⟨opener, hopener, before, inner, after, rfl⟩ : ∃ opener, opener.count '`' = 3 ∧
      ∃ before inner after, text = before ++ opener ++ (inner ++ fence ++ after) := by
    cases h with
    | json before inner after hsplit => exact ⟨jsonFence, hmarks.1, before, inner, after, hsplit⟩
    | brace inner hinner _ =>
      obtain ⟨before, after, hsplit⟩ := hinner.split
      exact ⟨fence, hmarks.2, before, inner, after, hsplit⟩
  simp only [List.count_append]
  omega

instance (text : List Char) : Decidable (Hides text) :=
  decidable_of_iff ((hidingBlock? text).isSome = true) (by rw [Option.isSome_iff_exists, hides_iff])

/-! ## Objects -/

/-- **Objects that stand alone.** An object is taken whole exactly if its strings hold no block that
takes its place. -/
theorem objectChars_eq_iff (hobject : text = '{' :: (inner ++ ['}'])) (hinner : Balanced inner) :
    objectChars text = text ↔ ¬ Hides text := by
  rw [objectChars_eq]
  cases hblock : hidingBlock? text with
  | none =>
    have hwhole : balancedObject? text = some text := by
      rw [hobject]
      exact balancedObject?_eq (List.not_mem_nil) hinner []
    refine iff_of_true (by rw [hwhole]; rfl) fun hhides => ?_
    obtain ⟨block, hsome⟩ := hides_iff.1 hhides
    rw [hblock] at hsome
    cases hsome
  | some block =>
    have hshort := (shorter_of_hidingBlock hblock).2
    refine iff_of_false (fun heq => ?_) (not_not_intro (hides_iff.2 ⟨block, hblock⟩))
    rw [Option.getD_some] at heq
    rw [heq] at hshort
    exact absurd hshort (Nat.lt_irrefl _)

/-- **Replies that are an object.** Such a reply is taken whole exactly if the strings of the object
hold no block that takes its place; this takes at least six backticks. Then it reads as the object: this
is decoded and its fields are validated. Otherwise only a shorter piece of it is taken. -/
theorem bare_taken_whole_iff (object : String) (hobject : Json.Written .object object.toList)
    (host : Host) :
    (objectText object = object ↔ ¬ Hides object.toList) ∧
    (object.toList.count '`' < 6 → ¬ Hides object.toList) ∧
    (¬ Hides object.toList → read object host = ofText object host) ∧
    ((∃ l, Json.decode object host.depths.read = .error (.exceeded l) ∧
      ofText object host = .error (.exceeded l)) ∨
      ∃ fields, Json.decode object host.depths.read = .ok (.obj fields) ∧
        ((WritesTooDeep host.depths fields ∧ ofText object host = .error (.exceeded .written)) ∨
          (∃ p, ofFields fields = .valid p ∧ ofText object host = .ok p) ∨
          ∃ issues, ofFields fields = .invalid issues ∧
            ofText object host = .error (.invalid object issues (host.reports.text modelName (.obj fields) issues)))) ∧
    (Hides object.toList → (objectText object).toList <:+: object.toList ∧
      (objectText object).toList.length < object.toList.length) := by
  obtain ⟨inner, hbraces, hinner⟩ := hobject.braces
  have hchars := objectChars_eq_iff hbraces hinner
  have hne : object ≠ "" := by
    rintro rfl
    cases hbraces
  refine ⟨?_, fun hfew hhides => ?_, fun hbare => ?_, ofText_object hobject host, fun hhides => ?_⟩
  · rw [← hchars]
    constructor
    · intro h
      have htext := congrArg String.toList h
      unfold objectText at htext
      rwa [String.toList_ofList] at htext
    · intro h
      unfold objectText
      rw [h, String.ofList_toList]
  · have hsix := hhides.six_le_count
    omega
  · exact read_of_objectChars hne (hchars.2 hbare) host
  · obtain ⟨block, hblock⟩ := hides_iff.1 hhides
    unfold objectText
    rw [String.toList_ofList, objectChars_eq, hblock]
    exact shorter_of_hidingBlock hblock

/-! ## Descriptions with fences -/

/-- The character stands in a string as it is. -/
def isPlain (c : Char) : Bool := c != '"' && c != '\\' && decide (0x20 ≤ c.toNat)

theorem stringBody_of_plain {cs : List Char} (h : cs.all isPlain = true) : Json.StringBody cs := by
  induction cs with
  | nil => exact .nil
  | cons c cs ih =>
    rw [List.all_cons, Bool.and_eq_true] at h
    obtain ⟨hplain, hcs⟩ := h
    unfold isPlain at hplain
    simp only [Bool.and_eq_true, bne_iff_ne, decide_eq_true_eq] at hplain
    obtain ⟨⟨hquote, hbackslash⟩, hcontrol⟩ := hplain
    exact .plain hquote hbackslash hcontrol (ih hcs)

/-- A plan for a table with a description. -/
def described (description : String) : String :=
  "\x7b\"tables\": [\"t\"], \"description\": \"" ++ description ++ "\"\x7d"

theorem described_written {description : String} (h : description.toList.all isPlain = true) :
    Json.Written .object (described description).toList := by
  have hnone : Json.Blanks [] := by simp [Json.Blanks]
  have hone : Json.Blanks [' '] := by simp [Json.Blanks, Json.isBlank]
  have hname : Json.StringBody ['t', 'a', 'b', 'l', 'e', 's'] := stringBody_of_plain (by decide)
  have hother : Json.StringBody ['d', 'e', 's', 'c', 'r', 'i', 'p', 't', 'i', 'o', 'n'] :=
    stringBody_of_plain (by decide)
  have htable : Json.StringBody ['t'] := stringBody_of_plain (by decide)
  have hlist : Json.Written .value _ := .list hnone (.lastItem (.item (.string htable) hnone))
  have htables := Json.Written.field hname hnone hone hlist hnone
  have hlast := Json.Written.field hother hnone hone (.string (stringBody_of_plain h)) hnone
  have hobject := Json.Written.fields hnone (.moreFields htables hone (.lastField hlast))
  have hstart : "\x7b\"tables\": [\"t\"], \"description\": \"".toList =
      ['{', '"', 't', 'a', 'b', 'l', 'e', 's', '"', ':', ' ', '[', '"', 't', '"', ']', ',', ' ',
        '"', 'd', 'e', 's', 'c', 'r', 'i', 'p', 't', 'i', 'o', 'n', '"', ':', ' ', '"'] := by
    decide +kernel
  have hend : "\"\x7d".toList = ['"', '}'] := by decide +kernel
  unfold described
  rw [String.toList_append, String.toList_append, hstart, hend]
  simpa only [List.cons_append, List.nil_append, List.append_assoc] using hobject

/-- A statement in the description, in a block of its own, does no harm. -/
theorem bare_taken_whole_sql :
    objectText (described "```sql SELECT 1```") = described "```sql SELECT 1```" ∧
      read (described "```sql SELECT 1```") = ofText (described "```sql SELECT 1```") := by
  have hobject : Json.Written .object (described "```sql SELECT 1```").toList :=
    described_written (by decide +kernel)
  have hbare : ¬ Hides (described "```sql SELECT 1```").toList := by decide +kernel
  obtain ⟨hwhole, -, hread, -⟩ := bare_taken_whole_iff _ hobject {}
  exact ⟨hwhole.2 hbare, hread hbare⟩

/-- **A plan from a description.** A block of JSON in the description is taken in place of the object:
the plan has no tables. -/
theorem bare_loses_tables :
    Json.Written .object (described "```json \x7b\x7d ```").toList ∧
      objectText (described "```json \x7b\x7d ```") = "\x7b\x7d" ∧
      (read (described "```json \x7b\x7d ```")).toOption.map Plan.tables = some [] ∧
      (ofText (described "```json \x7b\x7d ```")).toOption.map Plan.tables = some ["t"] := by
  have hobject : Json.Written .object (described "```json \x7b\x7d ```").toList :=
    described_written (by decide +kernel)
  exact ⟨hobject, by decide +kernel, by decide +kernel, by decide +kernel⟩

end QueryPlans.Plan
