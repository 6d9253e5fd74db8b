import Mathlib.Logic.ExistsUnique
import QueryPlans.Proofs.Plan.Bare
import QueryPlans.Proofs.Plan.Spans

/-!
# The order in which a reply is searched

The object of a reply is looked for in three places, one after the other: the first block of JSON, the
first block that starts an object, the first span between braces.  Blocks follow one another: a fence
opens a block, the next fence closes it, and the search for the next block goes on behind that.

* `Plan.blocks` — the contents of the blocks of a text.
* `Plan.Ordered` — what the text has in the first of these places that has anything;
  `Plan.orderedChars` computes it.
* `Plan.OpensAt` — a fence of the text opens a block.
* `Plan.MarkOpens` — so does the fence of the first mark of JSON.

Principal results: `find?_blocks_of_mark` — a mark that opens a block is the first block of JSON;
`order_followed_iff` — when the object is taken from the place that comes first;
`second_block_is_missed` — an object in the second block may be passed over.
-/

namespace QueryPlans.Plan

variable {text before rest inner after taken content : List Char}

/-! ## Blocks -/

/-- The content of the first block, and the text after it. -/
def firstBlock? (text : List Char) : Option (List Char × List Char) :=
  (Text.find? fence text).bind fun opened => Text.find? fence opened.2

theorem firstBlock?_eq_some_iff : firstBlock? text = some (inner, after) ↔
    ∃ before rest, Text.FirstAt fence text before rest ∧ Text.FirstAt fence rest inner after := by
  unfold firstBlock?
  rw [Option.bind_eq_some_iff]
  constructor
  · rintro ⟨⟨before, rest⟩, hopen, hclose⟩
    exact ⟨before, rest, (Text.find?_eq_some_iff fence_ne_nil).1 hopen,
      (Text.find?_eq_some_iff fence_ne_nil).1 hclose⟩
  · rintro ⟨before, rest, hopen, hclose⟩
    exact ⟨(before, rest), (Text.find?_eq_some_iff fence_ne_nil).2 hopen,
      (Text.find?_eq_some_iff fence_ne_nil).2 hclose⟩

/-- What a block takes of a text. -/
theorem split_of_firstBlock (h : firstBlock? text = some (inner, after)) :
    ∃ before, text = before ++ fence ++ (inner ++ fence ++ after) := by
  obtain ⟨before, rest, hopen, hclose⟩ := firstBlock?_eq_some_iff.1 h
  exact ⟨before, by rw [hopen.split, hclose.split]⟩

theorem length_lt_of_firstBlock (h : firstBlock? text = some (inner, after)) :
    after.length < text.length := by
  obtain ⟨before, hsplit⟩ := split_of_firstBlock h
  have hlength := congrArg List.length hsplit
  have hfence : fence.length = 3 := rfl
  simp only [List.length_append] at hlength
  omega

/-- The contents of the blocks of a text, from left to right: a fence opens a block, the next one closes
it, and the next block is looked for in the text after that. -/
def blocks (text : List Char) : List (List Char) :=
  match h : firstBlock? text with
  | none => []
  | some (inner, after) =>
    have := length_lt_of_firstBlock h
    inner :: blocks after
termination_by text.length

theorem blocks_eq_nil (h : firstBlock? text = none) : blocks text = [] := by
  unfold blocks
  split
  · rfl
  · rename_i heq
    rw [h] at heq
    cases heq

theorem blocks_eq_cons (h : firstBlock? text = some (inner, after)) :
    blocks text = inner :: blocks after := by
  rw [blocks]
  split
  · rename_i heq
    rw [h] at heq
    cases heq
  · rename_i heq
    rw [h] at heq
    cases heq
    rfl

/-- A block stands in the text between two fences. -/
theorem split_of_mem_blocks (h : inner ∈ blocks text) :
    ∃ before after, text = before ++ fence ++ (inner ++ fence ++ after) := by
  induction text using blocks.induct with
  | case1 text hnone =>
    rw [blocks_eq_nil hnone] at h
    cases h
  | case2 text first rest hfirst _ ih =>
    obtain ⟨before, hsplit⟩ := split_of_firstBlock hfirst
    rw [blocks_eq_cons hfirst] at h
    rcases List.mem_cons.1 h with rfl | hlater
    · exact ⟨before, rest, hsplit⟩
    · obtain ⟨before', after, hrest⟩ := ih hlater
      exact ⟨before ++ fence ++ (first ++ fence ++ before'), after, by simp [hsplit, hrest]⟩

theorem fencedBlock?_fence (text : List Char) :
    fencedBlock? fence text = (blocks text).head?.map (Text.trim Text.isBlank) := by
  have hfirst : fencedBlock? fence text =
      (firstBlock? text).map fun block => Text.trim Text.isBlank block.1 := by
    rw [fencedBlock?_eq_bind]
    unfold firstBlock?
    rw [Option.map_bind]
    rfl
  rw [hfirst]
  cases hblock : firstBlock? text with
  | none => rw [blocks_eq_nil hblock]; rfl
  | some block => rw [blocks_eq_cons hblock]; rfl

/-! ## Blocks without backticks -/

theorem firstAt_fence (h : '`' ∉ before) (rest : List Char) :
    Text.FirstAt fence (before ++ fence ++ rest) before rest := by
  apply (Text.find?_eq_some_iff fence_ne_nil).1
  rw [List.append_assoc, Text.find?_append_of_notMem rfl h, Text.find?_pattern_append fence_ne_nil]
  simp

theorem blocks_of_notMem (h : '`' ∉ text) : blocks text = [] := by
  have hnone : Text.find? fence text = none := by
    apply Text.find?_eq_none
    intro hoccurs
    exact h (hoccurs.subset List.mem_cons_self)
  apply blocks_eq_nil
  unfold firstBlock?
  rw [hnone]
  rfl

/-- Between fences that are the only backticks, every second piece is a block. -/
theorem blocks_append (hbefore : '`' ∉ before) (hinner : '`' ∉ inner) (after : List Char) :
    blocks (before ++ fence ++ (inner ++ fence ++ after)) = inner :: blocks after :=
  blocks_eq_cons (firstBlock?_eq_some_iff.2
    ⟨before, _, firstAt_fence hbefore _, firstAt_fence hinner after⟩)

/-- A reply of two blocks. -/
def twoBlocks (first second : String) : String := "```" ++ first ++ "```\n```" ++ second ++ "```"

theorem blocks_twoBlocks {first second : String} (hfirst : '`' ∉ first.toList)
    (hsecond : '`' ∉ second.toList) :
    blocks (twoBlocks first second).toList = [first.toList, second.toList] := by
  have hfence : "```".toList = fence := by decide +kernel
  have hnext : "```\n```".toList = fence ++ (['\n'] ++ fence) := by decide +kernel
  have hsplit : (twoBlocks first second).toList =
      [] ++ fence ++ (first.toList ++ fence ++ (['\n'] ++ fence ++ (second.toList ++ fence ++ []))) := by
    simp [twoBlocks, hfence, hnext]
  have hempty : '`' ∉ ([] : List Char) := List.not_mem_nil
  have hline : '`' ∉ ['\n'] := by decide
  rw [hsplit, blocks_append hempty hfirst, blocks_append hline hsecond, blocks_of_notMem hempty]

/-! ## The three places -/

/-- The word after the fence that opens a block of JSON. -/
def jsonWord : List Char := ['j', 's', 'o', 'n']

/-- The block was opened as JSON. -/
def isJson (inner : List Char) : Bool := jsonWord.isPrefixOf inner

/-- The trimmed block starts with a brace. -/
def startsObject (inner : List Char) : Bool := (Text.trim Text.isBlank inner).head? == some '{'

/-- What the text has in the first place that has anything: the first block of JSON, the first block
that starts an object, the first span between braces; or nothing. -/
inductive Ordered (text : List Char) : List Char → Prop
  | json {content : List Char} (h : (blocks text).find? isJson = some (jsonWord ++ content)) :
      Ordered text (Text.trim Text.isBlank content)
  | object {inner : List Char} (hjson : (blocks text).find? isJson = none)
      (h : (blocks text).find? startsObject = some inner) :
      Ordered text (Text.trim Text.isBlank inner)
  | span {span : List Char} (hjson : (blocks text).find? isJson = none)
      (hobject : (blocks text).find? startsObject = none) (h : IsFirstSpan text span) :
      Ordered text span
  | nothing (hjson : (blocks text).find? isJson = none)
      (hobject : (blocks text).find? startsObject = none)
      (hspan : ∀ span, ¬ IsFirstSpan text span) : Ordered text []

/-- The text that the order takes. -/
def orderedChars (text : List Char) : List Char :=
  match (blocks text).find? isJson with
  | some inner => Text.trim Text.isBlank (inner.drop jsonWord.length)
  | none =>
    match (blocks text).find? startsObject with
    | some inner => Text.trim Text.isBlank inner
    | none => (balancedObject? text).getD []

theorem ordered_iff : Ordered text taken ↔ taken = orderedChars text := by
  unfold orderedChars
  constructor
  · intro h
    cases h with
    | json h => rw [h]; rfl
    | object hjson h => rw [hjson, h]
    | span hjson hobject h => rw [hjson, hobject, balancedObject?_eq_some_iff.2 h]; rfl
    | nothing hjson hobject hspan =>
      rw [hjson, hobject, balancedObject?_eq_none_iff.2 hspan]
      rfl
  · rintro rfl
    cases hjson : (blocks text).find? isJson with
    | some inner =>
      obtain ⟨content, rfl⟩ := List.isPrefixOf_iff_prefix.1 (List.find?_some hjson)
      simpa using Ordered.json hjson
    | none =>
      cases hobject : (blocks text).find? startsObject with
      | some inner => exact .object hjson hobject
      | none =>
        cases hspan : balancedObject? text with
        | some span => exact .span hjson hobject (balancedObject?_eq_some_iff.1 hspan)
        | none => exact .nothing hjson hobject (balancedObject?_eq_none_iff.1 hspan)

/-! ## Marks of JSON -/

/-- The fence after `before` opens a block of the text. -/
inductive OpensAt : (text before : List Char) → Prop
  | first {text before rest : List Char} (h : Text.FirstAt fence text before rest) :
      OpensAt text before
  | later {text before inner after before' rest : List Char} (hopen : Text.FirstAt fence text before rest)
      (hclose : Text.FirstAt fence rest inner after) (h : OpensAt after before') :
      OpensAt text (before ++ fence ++ inner ++ fence ++ before')

/-- The first mark of JSON in the text opens a block. -/
def MarkOpens (text : List Char) : Prop :=
  ∃ before rest, Text.FirstAt jsonFence text before rest ∧ OpensAt text before

/-- The next fence behind the word that marks JSON. -/
theorem firstAt_fence_jsonWord (h : Text.FirstAt fence rest content after) :
    Text.FirstAt fence (jsonWord ++ rest) (jsonWord ++ content) after := by
  have hword : '`' ∉ jsonWord := by decide
  have hfind := (Text.find?_eq_some_iff fence_ne_nil).2 h
  apply (Text.find?_eq_some_iff fence_ne_nil).1
  rw [Text.find?_append_of_notMem rfl hword, hfind]
  rfl

/-- A mark of JSON that opens a block opens the first block of JSON. -/
theorem find?_blocks_of_mark (hopens : OpensAt text before)
    (hmark : Text.FirstAt jsonFence text before rest) (hclose : Text.FirstAt fence rest content after) :
    (blocks text).find? isJson = some (jsonWord ++ content) := by
  induction hopens with
  | @first text before rest' hopen =>
    have hsplit : before ++ fence ++ rest' = before ++ fence ++ (jsonWord ++ rest) := by
      rw [← hopen.split, hmark.split]
      simp [jsonFence, jsonWord]
    obtain rfl : rest' = jsonWord ++ rest := List.append_cancel_left hsplit
    have hblock := firstBlock?_eq_some_iff.2 ⟨before, _, hopen, firstAt_fence_jsonWord hclose⟩
    rw [blocks_eq_cons hblock]
    exact List.find?_cons_of_pos (List.isPrefixOf_iff_prefix.2 ⟨content, rfl⟩)
  | @later text before inner after' before' rest' hopen hinner _ ih =>
    have hblock := firstBlock?_eq_some_iff.2 ⟨before, rest', hopen, hinner⟩
    have hsplit : text = before ++ fence ++ inner ++ fence ++ after' := by
      rw [hopen.split, hinner.split]
      simp
    -- an earlier block of JSON would have an earlier mark
    have hother : ¬ isJson inner = true := by
      intro hjson
      obtain ⟨inner', rfl⟩ := List.isPrefixOf_iff_prefix.1 hjson
      have hearly : text = before ++ jsonFence ++ (inner' ++ fence ++ after') := by
        rw [hsplit]
        simp [jsonFence, jsonWord]
      have hle := hmark.length_le hearly
      have hfence : fence.length = 3 := rfl
      simp only [List.length_append] at hle
      omega
    rw [blocks_eq_cons hblock, List.find?_cons_of_neg hother]
    rw [hsplit] at hmark
    exact ih hmark.of_append

/-- Where no mark of JSON is closed, there is no block of JSON. -/
theorem find?_blocks_eq_none (hjson : ∀ content, ¬ IsBlock jsonFence text content) :
    (blocks text).find? isJson = none := by
  rw [List.find?_eq_none]
  intro inner hinner hmark
  obtain ⟨content, rfl⟩ := List.isPrefixOf_iff_prefix.1 hmark
  obtain ⟨before, after, hsplit⟩ := split_of_mem_blocks hinner
  have hclosed : ∃ before content after, text = before ++ jsonFence ++ (content ++ fence ++ after) :=
    ⟨before, content, after, by simp [hsplit, jsonFence, jsonWord]⟩
  obtain ⟨content', hblock⟩ := (exists_isBlock_iff jsonFence_ne_nil).2 hclosed
  exact hjson content' hblock

/-! ## What is taken -/

/-- A closed mark of JSON is taken before all else. -/
theorem objectChars_of_json (h : IsBlock jsonFence text content) :
    objectChars text = Text.trim Text.isBlank content := by
  have hblock := (fencedBlock?_eq_some_iff jsonFence_ne_nil).2 ⟨content, h, rfl⟩
  unfold objectChars
  rw [hblock]

/-- Without one, the first block is taken if it starts an object, and else the first span. -/
theorem objectChars_of_blocks (hjson : ∀ content, ¬ IsBlock jsonFence text content) :
    objectChars text = (((blocks text).head?.filter startsObject).map (Text.trim Text.isBlank)).getD
      ((balancedObject? text).getD []) := by
  have hnone := (fencedBlock?_eq_none_iff jsonFence_ne_nil).2 hjson
  unfold objectChars
  rw [hnone, fencedBlock?_fence]
  cases (blocks text).head? with
  | none => rfl
  | some first =>
    have hbrace : ((Text.trim Text.isBlank first).head? == some '{') = startsObject first := rfl
    rw [Option.map_some, Option.filter_some, Option.filter_some, hbrace]
    cases startsObject first <;> rfl

/-- A block that starts an object is found by its braces exactly if it is the first span. -/
theorem trim_eq_span_iff (hstarts : startsObject inner = true) :
    (balancedObject? text).getD [] = Text.trim Text.isBlank inner ↔
      IsFirstSpan text (Text.trim Text.isBlank inner) := by
  have hbrace : (Text.trim Text.isBlank inner).head? = some '{' := by
    simpa [startsObject] using hstarts
  rw [← balancedObject?_eq_some_iff]
  cases hspan : balancedObject? text with
  | none =>
    refine iff_of_false (fun hempty => ?_) (by simp)
    rw [Option.getD_none] at hempty
    rw [← hempty] at hbrace
    cases hbrace
  | some span => simp

/-- Without a closed mark of JSON, the order is followed exactly if the first block that starts an object
is the first block of all, or the first span. -/
theorem ordered_objectChars_iff (hjson : ∀ content, ¬ IsBlock jsonFence text content) :
    Ordered text (objectChars text) ↔
      ∀ inner, (blocks text).find? startsObject = some inner →
        (blocks text).head? = some inner ∨ IsFirstSpan text (Text.trim Text.isBlank inner) := by
  have hnone := find?_blocks_eq_none hjson
  rw [ordered_iff, objectChars_of_blocks hjson]
  unfold orderedChars
  rw [hnone]
  cases hobject : (blocks text).find? startsObject with
  | none =>
    have hfirst : (blocks text).head?.filter startsObject = none := by
      rw [Option.filter_eq_none_iff]
      intro first hhead
      have hmem : first ∈ blocks text := List.mem_of_mem_head? hhead
      exact List.find?_eq_none.1 hobject first hmem
    rw [hfirst]
    exact iff_of_true rfl fun inner h => nomatch h
  | some inner =>
    have hstarts : startsObject inner = true := List.find?_some hobject
    have hall : (∀ other, some inner = some other →
        (blocks text).head? = some other ∨ IsFirstSpan text (Text.trim Text.isBlank other)) ↔
        ((blocks text).head? = some inner ∨ IsFirstSpan text (Text.trim Text.isBlank inner)) := by
      simp
    rw [hall]
    cases hblocks : blocks text with
    | nil =>
      rw [hblocks] at hobject
      cases hobject
    | cons first rest =>
      rw [hblocks] at hobject
      by_cases hfirst : startsObject first = true
      · rw [List.find?_cons_of_pos hfirst] at hobject
        cases hobject
        rw [List.head?_cons, Option.filter_some, if_pos hfirst]
        exact iff_of_true rfl (.inl rfl)
      · have hne : first ≠ inner := by
          rintro rfl
          exact hfirst hstarts
        rw [List.head?_cons, Option.filter_some, if_neg hfirst]
        simpa [hne] using trim_eq_span_iff hstarts

/-- **The order of the search.** Of the text in a reply the order takes one piece.  A closed mark of JSON
is taken first, which is the order if it opens a block.  Without one, the order is followed exactly if the
first block that starts an object is the first block of all, or the first span between braces. -/
theorem order_followed_iff (reply : String) :
    (∃! taken, Ordered reply.toList taken) ∧
    (∀ content, IsBlock jsonFence reply.toList content →
      (objectText reply).toList = Text.trim Text.isBlank content ∧
      (MarkOpens reply.toList → Ordered reply.toList (objectText reply).toList)) ∧
    ((∀ content, ¬ IsBlock jsonFence reply.toList content) →
      (Ordered reply.toList (objectText reply).toList ↔
        ∀ inner, (blocks reply.toList).find? startsObject = some inner →
          (blocks reply.toList).head? = some inner ∨
            IsFirstSpan reply.toList (Text.trim Text.isBlank inner))) := by
  have hchars : (objectText reply).toList = objectChars reply.toList := String.toList_ofList
  rw [hchars]
  refine ⟨⟨_, ordered_iff.2 rfl, fun other h => ordered_iff.1 h⟩, fun content hblock => ?_,
    ordered_objectChars_iff⟩
  have htaken := objectChars_of_json hblock
  refine ⟨htaken, fun hopens => ?_⟩
  obtain ⟨before, rest, hmark, hopens⟩ := hopens
  obtain ⟨before', rest', after, hmark', hclose⟩ := hblock
  obtain ⟨rfl, rfl⟩ := hmark.unique jsonFence_ne_nil hmark'
  rw [htaken]
  exact .json (find?_blocks_of_mark hopens hmark hclose)

/-- A plan for a table, on a line of its own. -/
def planBlock : String := "\n\x7b\"tables\": [\"t\"]\x7d\n"

/-- A statement without braces before the object does no harm. -/
theorem order_followed_sql :
    Ordered (twoBlocks "sql\nSELECT 1\n" planBlock).toList
      (objectText (twoBlocks "sql\nSELECT 1\n" planBlock)).toList := by
  have hblocks : blocks (twoBlocks "sql\nSELECT 1\n" planBlock).toList =
      ["sql\nSELECT 1\n".toList, planBlock.toList] :=
    blocks_twoBlocks (by decide +kernel) (by decide +kernel)
  have hjson : fencedBlock? jsonFence (twoBlocks "sql\nSELECT 1\n" planBlock).toList = none := by
    decide +kernel
  have hfirst : ["sql\nSELECT 1\n".toList, planBlock.toList].find? startsObject =
      some planBlock.toList := by decide +kernel
  have hspan : balancedObject? (twoBlocks "sql\nSELECT 1\n" planBlock).toList =
      some (Text.trim Text.isBlank planBlock.toList) := by decide +kernel
  obtain ⟨-, -, horder⟩ := order_followed_iff (twoBlocks "sql\nSELECT 1\n" planBlock)
  apply (horder ((fencedBlock?_eq_none_iff jsonFence_ne_nil).1 hjson)).2
  intro inner hinner
  rw [hblocks, hfirst] at hinner
  cases hinner
  exact .inr (balancedObject?_eq_some_iff.1 hspan)

/-- **An object in the second block.** A statement with braces before it is searched first, and no plan
for the table is read. -/
theorem second_block_is_missed :
    Ordered (twoBlocks "sql\nSELECT '\x7b\x7d'\n" planBlock).toList
      "\x7b\"tables\": [\"t\"]\x7d".toList ∧
    ¬ Ordered (twoBlocks "sql\nSELECT '\x7b\x7d'\n" planBlock).toList
      (objectText (twoBlocks "sql\nSELECT '\x7b\x7d'\n" planBlock)).toList ∧
    objectText (twoBlocks "sql\nSELECT '\x7b\x7d'\n" planBlock) = "\x7b\x7d" ∧
    (read (twoBlocks "sql\nSELECT '\x7b\x7d'\n" planBlock)).toOption.map Plan.tables = some [] ∧
    (ofText "\x7b\"tables\": [\"t\"]\x7d").toOption.map Plan.tables = some ["t"] := by
  have hblocks : blocks (twoBlocks "sql\nSELECT '\x7b\x7d'\n" planBlock).toList =
      ["sql\nSELECT '\x7b\x7d'\n".toList, planBlock.toList] :=
    blocks_twoBlocks (by decide +kernel) (by decide +kernel)
  have hordered : orderedChars (twoBlocks "sql\nSELECT '\x7b\x7d'\n" planBlock).toList =
      "\x7b\"tables\": [\"t\"]\x7d".toList := by
    unfold orderedChars
    rw [hblocks]
    decide +kernel
  have htaken : objectText (twoBlocks "sql\nSELECT '\x7b\x7d'\n" planBlock) = "\x7b\x7d" := by
    decide +kernel
  refine ⟨ordered_iff.2 hordered.symm, fun h => ?_, htaken, by decide +kernel, by decide +kernel⟩
  have heq := ordered_iff.1 h
  rw [htaken, hordered] at heq
  exact absurd heq (by decide +kernel)

end QueryPlans.Plan
