import QueryPlans.Proofs.Json.Values
import QueryPlans.Proofs.Plan.Fields
import QueryPlans.Proofs.Text.Search

/-!
# Objects wrapped in a reply

A JSON object is found in a reply whether it stands in a code fence or in bare prose, whatever braces
and quotes stand around it and in its strings.

* `Plan.objectChars_jsonFence`, `Plan.objectChars_fence` — an object in a block, opened as JSON or
  not, with prose around the block.
* `Plan.objectChars_bare` — an object in prose without a block.

Principal results: `ofText_object` — an object is decoded, and its fields are validated;
`read_wrapped` — a reply around it reads as the object alone.
-/

namespace QueryPlans.Plan

variable {object pre post : List Char}

/-! ## Blocks -/

theorem fence_prefix_jsonFence : fence <+: jsonFence := List.prefix_append _ _

theorem fencedBlock?_eq_none {opener text : List Char} (h : ¬ opener <:+: text) :
    fencedBlock? opener text = none := by
  unfold fencedBlock?
  rw [Text.find?_eq_none h]

/-- What is passed over in the search for the opening mark is of no account. -/
theorem fencedBlock?_of_find? {opener text rest : List Char}
    {f : List Char × List Char → List Char}
    (h : Text.find? opener text = (Text.find? opener rest).map fun r => (f r, r.2)) :
    fencedBlock? opener text = fencedBlock? opener rest := by
  unfold fencedBlock?
  rw [h]
  cases Text.find? opener rest with
  | none => rfl
  | some r => rfl

/-- The first mark that closes a block is found at the start of a line. -/
theorem find?_fence_line (hobject : ¬ fence <:+: object) (rest : List Char) :
    Text.find? fence ('\n' :: (object ++ '\n' :: (fence ++ rest))) =
      some ('\n' :: (object ++ ['\n']), rest) := by
  have hnil : ¬ fence <:+: [] := by decide
  have hfirst := Text.find?_append_separator (c := '\n') (by decide) (by decide) hnil
    (object ++ '\n' :: (fence ++ rest))
  rw [List.nil_append] at hfirst
  rw [hfirst, Text.find?_append_separator (by decide) (by decide) hobject,
    Text.find?_pattern_append (by decide)]
  rfl

theorem trim_lines {inner : List Char} (hobject : object = '{' :: (inner ++ ['}'])) :
    Text.trim Text.isBlank ('\n' :: (object ++ ['\n'])) = object := by
  have hbreak : ∀ c ∈ ['\n'], Text.isBlank c = true := by
    intro c hc
    rw [List.mem_singleton.1 hc]
    rfl
  rw [hobject]
  exact Text.trim_between ['\n'] ['\n'] hbreak hbreak rfl rfl

/-- A block that is opened on a line of its own holds the object. -/
theorem fencedBlock?_opened {opener inner : List Char} (hopener : opener ≠ [])
    (hobject : object = '{' :: (inner ++ ['}'])) (hfence : ¬ fence <:+: object)
    (rest : List Char) :
    fencedBlock? opener (opener ++ '\n' :: (object ++ '\n' :: (fence ++ rest))) = some object := by
  unfold fencedBlock?
  rw [Text.find?_pattern_append hopener]
  simp only [find?_fence_line hfence, trim_lines hobject]

/-- The mark that closes a block opens none of JSON, whatever follows it. -/
theorem fencedBlock?_closing (hpost : '`' ∉ post) : fencedBlock? jsonFence (fence ++ post) = none := by
  unfold fencedBlock?
  cases hfind : Text.find? jsonFence (fence ++ post) with
  | none => rfl
  | some r =>
    obtain ⟨before, after⟩ := r
    -- All backticks of the text are in the mark that was found.
    have hcount := congrArg (List.count '`') (Text.find?_sound hfind)
    simp only [List.count_append] at hcount
    have hmarks : List.count '`' fence = 3 ∧ List.count '`' jsonFence = 3 := by decide
    have hnone : List.count '`' post = 0 := List.count_eq_zero.2 hpost
    have hafter : '`' ∉ after := by
      rw [← List.count_eq_zero]
      omega
    have hclosed : Text.find? fence after = none := by
      refine Text.find?_eq_none fun h => hafter ?_
      exact h.subset (by decide)
    simp only [hclosed]

/-! ## Objects -/

theorem objectChars_jsonFence {inner : List Char} (hobject : object = '{' :: (inner ++ ['}']))
    (hfence : ¬ fence <:+: object) (hpre : '`' ∉ pre) (post : List Char) :
    objectChars (pre ++ (jsonFence ++ '\n' :: (object ++ '\n' :: (fence ++ post)))) = object := by
  have hblock : fencedBlock? jsonFence
      (pre ++ (jsonFence ++ '\n' :: (object ++ '\n' :: (fence ++ post)))) = some object := by
    rw [fencedBlock?_of_find? (Text.find?_append_of_notMem rfl hpre _)]
    exact fencedBlock?_opened (by decide) hobject hfence post
  unfold objectChars
  rw [hblock]

theorem objectChars_fence {inner : List Char} (hobject : object = '{' :: (inner ++ ['}']))
    (hfence : ¬ fence <:+: object) (hpre : '`' ∉ pre) (hpost : '`' ∉ post) :
    objectChars (pre ++ (fence ++ '\n' :: (object ++ '\n' :: (fence ++ post)))) = object := by
  have hjson : fencedBlock? jsonFence
      (pre ++ (fence ++ '\n' :: (object ++ '\n' :: (fence ++ post)))) = none := by
    have hopening : ¬ jsonFence <:+: fence := by decide
    have hinside : ¬ jsonFence <:+: object := fun h =>
      hfence (fence_prefix_jsonFence.isInfix.trans h)
    rw [fencedBlock?_of_find? (Text.find?_append_of_notMem rfl hpre _),
      fencedBlock?_of_find? (Text.find?_append_separator (c := '\n') (by decide) (by decide)
        hopening _),
      fencedBlock?_of_find? (Text.find?_append_separator (c := '\n') (by decide) (by decide)
        hinside _)]
    exact fencedBlock?_closing hpost
  have hblock : fencedBlock? fence
      (pre ++ (fence ++ '\n' :: (object ++ '\n' :: (fence ++ post)))) = some object := by
    rw [fencedBlock?_of_find? (Text.find?_append_of_notMem rfl hpre _)]
    exact fencedBlock?_opened (by decide) hobject hfence post
  unfold objectChars
  rw [hjson, hblock, hobject]
  rfl

theorem objectChars_bare {inner : List Char} (hobject : object = '{' :: (inner ++ ['}']))
    (hinner : Balanced inner) (hfence : ¬ fence <:+: object) (hpre : '`' ∉ pre) (hpost : '`' ∉ post)
    (hbrace : '{' ∉ pre) : objectChars (pre ++ (object ++ post)) = object := by
  have hnone : ¬ fence <:+: pre ++ (object ++ post) := by
    intro h
    rw [hobject] at h hfence
    rw [List.cons_append, List.append_assoc, List.cons_append] at h
    rcases Text.infix_separator _ (by decide) h with h | h
    · exact hpre (h.subset (by decide))
    rcases Text.infix_separator _ (by decide) h with h | h
    · exact hfence (List.infix_cons (List.infix_append_of_infix_left h))
    · exact hpost (h.subset (by decide))
  have hjson : ¬ jsonFence <:+: pre ++ (object ++ post) := fun h =>
    hnone (fence_prefix_jsonFence.isInfix.trans h)
  unfold objectChars
  rw [fencedBlock?_eq_none hjson, fencedBlock?_eq_none hnone, hobject, List.cons_append,
    List.append_assoc, List.singleton_append]
  simp only [Option.filter_none, balancedObject?_eq hbrace hinner, Option.getD_some]

/-! ## Replies -/

/-- A reply is read as the object that is found in it. -/
theorem read_of_objectChars {reply text : String} (hne : text ≠ "")
    (h : objectChars reply.toList = text.toList) (host : Host) :
    read reply host = ofText text host := by
  have htext : objectText reply = text := by
    unfold objectText
    rw [h, String.ofList_toList]
  unfold read
  simp only [htext, hne, ↓reduceIte]

/-- An error of the plan holds the text that was read. -/
theorem ofText_raw {text : String} {host : Host} {e : ReadError} {err : PlanError}
    (h : ofText text host = .error e) (herr : e.toPlanError? = some err) :
    ∃ detail, err = .parse malformedReason text detail := by
  have htext := textRead text host
  rw [h] at htext
  cases htext with
  | undecodable | notAnObject | invalid =>
    cases herr
    exact ⟨_, rfl⟩
  | exceeded | unwritten => cases herr

/-- To read the text of an object is to decode it and to validate its fields, unless it exceeds a
limit. -/
theorem ofText_object {object : String} (h : Json.Written .object object.toList) (host : Host) :
    (∃ l, Json.decode object host.depths.read = .error (.exceeded l) ∧
      ofText object host = .error (.exceeded l)) ∨
      ∃ fields, Json.decode object host.depths.read = .ok (.obj fields) ∧
        ((WritesTooDeep host.depths fields ∧ ofText object host = .error (.exceeded .written)) ∨
          (∃ p, ofFields fields = .valid p ∧ ofText object host = .ok p) ∨
          ∃ issues, ofFields fields = .invalid issues ∧
            ofText object host = .error (.invalid object issues (host.reports.text modelName (.obj fields) issues))) := by
  have hobject := Json.decode_object h host.depths.read
  have htext := textRead object host
  generalize ofText object host = r at htext
  cases htext with
  | exceeded hdecode => exact .inl ⟨_, hdecode, rfl⟩
  | unwritten hdecode hdeep => exact .inr ⟨_, hdecode, .inl ⟨hdeep, rfl⟩⟩
  | invalid hdecode _ hread => exact .inr ⟨_, hdecode, .inr (.inr ⟨_, hread, rfl⟩)⟩
  | plan hdecode _ hread => exact .inr ⟨_, hdecode, .inr (.inl ⟨_, hread, rfl⟩)⟩
  | undecodable hdecode =>
    rw [hdecode] at hobject
    rcases hobject with ⟨fields, hfields⟩ | ⟨l, hl⟩
    · cases hfields
    · cases hl
  | notAnObject hdecode hnone =>
    rw [hdecode] at hobject
    rcases hobject with ⟨fields, hfields⟩ | ⟨l, hl⟩
    · exact absurd (Except.ok.inj hfields) (hnone fields)
    · cases hl

/-- **Wrapping does not matter.** A reply with a JSON object in a block, with prose around it, reads
as the object alone; so does one without a block, if no brace stands before the object. The object
alone is decoded and its fields are validated. An error of the plan holds the text of the object. -/
theorem read_wrapped (object pre post : String) (hobject : Json.Written .object object.toList)
    (hfence : ¬ fence <:+: object.toList) (hpre : '`' ∉ pre.toList) (hpost : '`' ∉ post.toList)
    (host : Host) :
    read (pre ++ "```json\n" ++ object ++ "\n```" ++ post) host = ofText object host ∧
    read (pre ++ "```\n" ++ object ++ "\n```" ++ post) host = ofText object host ∧
    ('{' ∉ pre.toList → read (pre ++ object ++ post) host = ofText object host) ∧
    ((∃ l, Json.decode object host.depths.read = .error (.exceeded l) ∧
      ofText object host = .error (.exceeded l)) ∨
      ∃ fields, Json.decode object host.depths.read = .ok (.obj fields) ∧
        ((WritesTooDeep host.depths fields ∧ ofText object host = .error (.exceeded .written)) ∨
          (∃ p, ofFields fields = .valid p ∧ ofText object host = .ok p) ∨
          ∃ issues, ofFields fields = .invalid issues ∧
            ofText object host = .error (.invalid object issues (host.reports.text modelName (.obj fields) issues)))) ∧
    (∀ e err, ofText object host = .error e → e.toPlanError? = some err →
      ∃ detail, err = .parse malformedReason object detail) := by
  obtain ⟨inner, hbraces, hinner⟩ := hobject.braces
  have hne : object ≠ "" := by
    rintro rfl
    cases hbraces
  refine ⟨?_, ?_, fun hbrace => ?_, ofText_object hobject host, fun e err h herr => ofText_raw h herr⟩
  · refine read_of_objectChars hne ?_ host
    have hchars := objectChars_jsonFence hbraces hfence hpre post.toList
    simpa [jsonFence, fence] using hchars
  · refine read_of_objectChars hne ?_ host
    have hchars := objectChars_fence hbraces hfence hpre hpost
    simpa [fence] using hchars
  · refine read_of_objectChars hne ?_ host
    have hchars := objectChars_bare hbraces hinner hfence hpre hpost hbrace
    simpa using hchars

/-- An object with a brace in a string, with a brace and a quote around it. -/
theorem read_wrapped_brace :
    read ("Use \x7b\" so:" ++ "```json\n" ++ "\x7b\"a\": \"\x7d\"\x7d" ++ "\n```" ++ " \x7b") =
        ofText "\x7b\"a\": \"\x7d\"\x7d" ∧
      read ("Use \" so:" ++ "\x7b\"a\": \"\x7d\"\x7d" ++ " \x7b") =
        ofText "\x7b\"a\": \"\x7d\"\x7d" := by
  have hname : Json.StringBody ['a'] := .plain (by decide) (by decide) (by decide) .nil
  have hvalue : Json.StringBody ['}'] := .plain (by decide) (by decide) (by decide) .nil
  have hnone : Json.Blanks [] := by simp [Json.Blanks]
  have hone : Json.Blanks [' '] := by simp [Json.Blanks, Json.isBlank]
  have hobject : Json.Written .object "\x7b\"a\": \"\x7d\"\x7d".toList := by
    have hfield := Json.Written.field hname hnone hone (.string hvalue) hnone
    have hchars : "\x7b\"a\": \"\x7d\"\x7d".toList =
        ['{', '"', 'a', '"', ':', ' ', '"', '}', '"', '}'] := by
      decide +kernel
    rw [hchars]
    exact .fields hnone (.lastField hfield)
  have hfence : ¬ fence <:+: "\x7b\"a\": \"\x7d\"\x7d".toList := by decide +kernel
  have hpost : '`' ∉ " \x7b".toList := by decide +kernel
  obtain ⟨hjson, -⟩ :=
    read_wrapped _ "Use \x7b\" so:" " \x7b" hobject hfence (by decide +kernel) hpost {}
  obtain ⟨-, -, hbare, -⟩ :=
    read_wrapped _ "Use \" so:" " \x7b" hobject hfence (by decide +kernel) hpost {}
  exact ⟨hjson, hbare (by decide +kernel)⟩

end QueryPlans.Plan
