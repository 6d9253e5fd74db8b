import QueryPlans.Proofs.Url.Parts

/-!
# Hosts and ports

A host is a name without marks, or stands in brackets.  Behind the last `@` of an authority it keeps apart from
the port behind it.

* `Stays`, `InName` — a character of an authority, and of a host without brackets.
* `HostWritten` — how a host is written.
* `portText` — how a port is written.

Principal results: `hostAndPort_of_written` — host and port are read as they are written; `port_of_written` —
the number of the port.
-/

namespace QueryPlans.Url

variable {c : Char} {host : String} {port : Option Nat} {u : Url}

/-- A character that neither ends an authority nor is dropped. -/
def Stays (c : Char) : Prop := endsAuthority c = false ∧ isDropped c = false

instance (c : Char) : Decidable (Stays c) := inferInstanceAs (Decidable (_ ∧ _))

/-- A character of a host without brackets. -/
def InName (c : Char) : Prop := Stays c ∧ c ≠ '@' ∧ c ≠ ':' ∧ c ≠ '['

theorem stays_of_inAuthority (h : InAuthority c) : Stays c :=
  ⟨h.endsAuthority, isDropped_eq_false h (by decide) (by decide) (by decide)⟩

theorem stays_of_isSafe (h : IsSafe c) : Stays c := stays_of_inAuthority (.inl h)

theorem inName_of_isSafe (h : IsSafe c) : InName c :=
  ⟨stays_of_isSafe h, h.ne (by decide), h.ne (by decide), h.ne (by decide)⟩

theorem isDropped_of_isPlain (h : isPlain c = true) : isDropped c = false :=
  isDropped_eq_false (p := (isPlain · = true)) h (by decide) (by decide) (by decide)

theorem stays_of_isPlain (h : isPlain c = true) (hend : endsAuthority c = false) : Stays c :=
  ⟨hend, isDropped_of_isPlain h⟩

/-- A name without marks, or a text in brackets. -/
def HostWritten (host : String) : Prop :=
  (∀ c ∈ host.toList, InName c) ∨
    ∃ address, host = "[" ++ address ++ "]" ∧ ∀ c ∈ address.toList, Stays c ∧ c ≠ '@' ∧ c ≠ ']'

/-- The written form of a port. -/
def portText (port : Option Nat) : String := port.elim "" fun n => ":" ++ Nat.repr n

theorem isSafe_or_colon_of_mem_portText (h : c ∈ (portText port).toList) : IsSafe c ∨ c = ':' := by
  cases port with
  | none => cases h
  | some n =>
    rw [portText, Option.elim_some, String.toList_append, List.mem_append] at h
    rcases h with hcolon | hdigit
    · exact .inr (List.mem_singleton.1 hcolon)
    · rw [Nat.toList_repr] at hdigit
      exact .inl (isSafe_of_mem_toDigits hdigit)

/-- A port is written without the marks of a host. -/
theorem notMem_portText {mark : Char} (hmark : ¬ IsSafe mark) (hcolon : mark ≠ ':') :
    mark ∉ (portText port).toList := by
  intro hmem
  rcases isSafe_or_colon_of_mem_portText hmem with hsafe | rfl
  · exact hmark hsafe
  · exact hcolon rfl

theorem stays_of_mem_portText (h : c ∈ (portText port).toList) : Stays c := by
  rcases isSafe_or_colon_of_mem_portText h with hsafe | rfl
  · exact stays_of_isSafe hsafe
  · decide

/-- What stands behind the colon of a written port. -/
theorem cut_portText (port : Option Nat) :
    Text.cut ':' (portText port).toList = ([], port.map (Nat.toDigits 10)) := by
  cases port with
  | none => rfl
  | some n =>
    have htext : (portText (some n)).toList = [] ++ ':' :: Nat.toDigits 10 n := by
      simp [portText, Nat.toList_repr]
    rw [htext, Text.cut_append_cons (by simp)]
    rfl

namespace HostWritten

theorem notMem (h : HostWritten host) : '@' ∉ host.toList := by
  intro hmem
  rcases h with h | ⟨address, rfl, h⟩
  · exact (h '@' hmem).2.1 rfl
  · simp only [String.toList_append, List.mem_append] at hmem
    rcases hmem with (hopen | hmem) | hclose
    · exact absurd hopen (by decide)
    · exact (h '@' hmem).2.1 rfl
    · exact absurd hclose (by decide)

theorem stays (h : HostWritten host) : ∀ c ∈ host.toList, Stays c := by
  intro c hc
  rcases h with h | ⟨address, rfl, h⟩
  · exact (h c hc).1
  · have hmark : ∀ c ∈ "[".toList ++ "]".toList, Stays c := Text.forall_mem_of_all (by decide)
    simp only [String.toList_append, List.mem_append] at hc
    rcases hc with (hopen | hc) | hclose
    · exact hmark c (List.mem_append_left _ hopen)
    · exact (h c hc).1
    · exact hmark c (List.mem_append_right _ hclose)

end HostWritten

/-- Host and port stand behind the last `@`. -/
theorem hostPart_of_written (h : HostWritten host) (port : Option Nat) (before : List Char) :
    Text.cutLast '@' (before ++ '@' :: (host.toList ++ (portText port).toList)) =
      (some before, host.toList ++ (portText port).toList) := by
  apply Text.cutLast_append_cons
  rw [List.mem_append, not_or]
  exact ⟨h.notMem, notMem_portText (by decide) (by decide)⟩

/-- A host keeps apart from the port behind it, and is read without its brackets. -/
theorem hostAndPort_of_written (h : HostWritten host)
    (hu : hostPart u.authority = host.toList ++ (portText port).toList) :
    u.hostAndPort.2 = port.elim [] (Nat.toDigits 10) ∧
      (u.hostAndPort.1 = host.toList ∨ host.toList = '[' :: (u.hostAndPort.1 ++ [']'])) := by
  unfold hostAndPort
  rw [hu]
  have hport : (Text.cut ':' (portText port).toList).2.getD [] = port.elim [] (Nat.toDigits 10) := by
    rw [cut_portText]
    cases port <;> rfl
  rcases h with h | ⟨address, rfl, h⟩
  · have hbracket : '[' ∉ host.toList ++ (portText port).toList := by
      rw [List.mem_append, not_or]
      exact ⟨fun hmem => (h _ hmem).2.2.2 rfl, notMem_portText (by decide) (by decide)⟩
    have hcolon : ':' ∉ host.toList := fun hmem => (h _ hmem).2.2.1 rfl
    simp only [Text.cut_of_notMem hbracket, Text.cut_append_of_notMem hcolon]
    refine ⟨hport, .inl ?_⟩
    rw [cut_portText, List.append_nil]
  · have htext : ("[" ++ address ++ "]").toList ++ (portText port).toList =
        [] ++ '[' :: (address.toList ++ ']' :: (portText port).toList) := by simp
    have hclose : ']' ∉ address.toList := fun hmem => (h _ hmem).2.2 rfl
    rw [htext, Text.cut_append_cons (by simp)]
    simp only [Text.cut_append_cons hclose, Option.getD_some]
    exact ⟨hport, .inr (by simp)⟩

/-- The port is read as it is written. -/
theorem port_of_written (h : HostWritten host)
    (hu : hostPart u.authority = host.toList ++ (portText port).toList) (hmax : ∀ n ∈ port, n ≤ greatestPort) :
    u.port = .ok port := by
  have hdigits := (hostAndPort_of_written h hu).1
  cases port with
  | none => exact port_of_nil hdigits
  | some n => exact port_of_digits hdigits (hmax n rfl)

end QueryPlans.Url
