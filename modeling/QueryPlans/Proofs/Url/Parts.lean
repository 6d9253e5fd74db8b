import QueryPlans.Proofs.Number.Written
import QueryPlans.Proofs.Text.Pieces
import QueryPlans.Proofs.Url.Escapes
import QueryPlans.Url.Basic

/-!
# URLs put together

A URL that is put together from parts without marks is taken apart into the same parts.

* `Url.cleaned`, `Url.ofChars` — the two steps in which any text is taken apart; `split_eq_ok_iff`.
* `Url.Written` — the parts of a URL as they are written, and `Written.text`.
* `Url.Written.Plain` — no part has a mark that would end it.

Principal results: `split_text` — the text is cut into scheme, authority and path; `user?_of_plain`,
`password?_of_plain`, `host?_of_plain`, `port_of_plain` — the authority is cut into its parts.
-/

namespace QueryPlans

/-! ## Lower case -/

namespace Text

/-- An ASCII character that is no capital letter. -/
def IsSmall (c : Char) : Prop := c.toNat < 0x80 ∧ ¬ (0x41 ≤ c.toNat ∧ c.toNat ≤ 0x5A)

theorem lowerFrom_eq_self {before cs : List Char} (h : ∀ c ∈ cs, IsSmall c) :
    lowerFrom before cs = cs := by
  induction cs generalizing before with
  | nil => rfl
  | cons c cs ih =>
    obtain ⟨hascii, hsmall⟩ := h c List.mem_cons_self
    have hsigma : ¬ c.toNat = 0x3A3 := by omega
    have hrest : lowerFrom (c :: before) cs = cs := ih fun d hd => h d (List.mem_cons_of_mem _ hd)
    simp [lowerFrom, lowerChar, hsigma, hascii, hsmall, hrest]

/-- A text without capital letters is in lower case. -/
theorem lower_eq_self {s : String} (h : ∀ c ∈ s.toList, IsSmall c) : lower s = s := by
  unfold lower
  rw [lowerFrom_eq_self h, String.ofList_toList]

end Text

namespace Url

variable {c d : Char} {s : String} {rest : List Char}

/-! ## Any text -/

/-- A text without controls and spaces in front of it, and without tabs and line ends. -/
def cleaned (text : String) : List Char :=
  (Text.trimStart isLeading text.toList).filter (!isDropped ·)

/-- Scheme, authority and path, whatever the authority may hold. -/
def ofChars (cs : List Char) : Url :=
  let (scheme, rest) := cutScheme cs
  let (authority, rest) := cutAuthority rest
  { scheme, authority, path := String.ofList (Text.spanUntil endsPath rest).1 }

/-- A text is taken apart if its authority is in order. -/
theorem split_eq_ok_iff {text : String} {u : Url} :
    split text = .ok u ↔ checkAuthority u.authority = .ok () ∧ u = ofChars (cleaned text) := by
  have hsplit : split text =
      (checkAuthority (ofChars (cleaned text)).authority).map fun _ => ofChars (cleaned text) := by
    unfold split
    show (checkAuthority (ofChars (cleaned text)).authority >>= fun _ => _) = _
    cases checkAuthority (ofChars (cleaned text)).authority <;> rfl
  rw [hsplit]
  constructor
  · intro h
    cases hcheck : checkAuthority (ofChars (cleaned text)).authority with
    | error e =>
      rw [hcheck] at h
      cases h
    | ok _ =>
      rw [hcheck] at h
      cases h
      exact ⟨hcheck, rfl⟩
  · rintro ⟨hcheck, rfl⟩
    rw [hcheck]
    rfl

/-- A scheme: a letter, and then letters, digits and the marks of a scheme. -/
def IsScheme (s : String) : Prop :=
  ∃ c cs, s.toList = c :: cs ∧ c.isAlpha = true ∧ ∀ d ∈ cs, isSchemeChar d = true

theorem IsScheme.isSchemeChar (h : IsScheme s) : ∀ c ∈ s.toList, isSchemeChar c = true := by
  obtain ⟨c, cs, htext, hletter, hrest⟩ := h
  intro d hd
  rw [htext] at hd
  rcases List.mem_cons.1 hd with rfl | hd
  · simp [Url.isSchemeChar, isAlphanum_iff, hletter]
  · exact hrest d hd

theorem isDropped_eq_false {p : Char → Prop} (hc : p c) (htab : ¬ p '\t') (hreturn : ¬ p '\r')
    (hline : ¬ p '\n') : isDropped c = false := by
  rw [← Bool.not_eq_true]
  intro h
  simp only [isDropped, Bool.or_eq_true, beq_iff_eq] at h
  rcases h with (rfl | rfl) | rfl
  · exact htab hc
  · exact hreturn hc
  · exact hline hc

theorem isLeading_eq_false (h : c.isAlpha = true) : isLeading c = false := by
  rw [isAlpha_iff, isUpper_iff, isLower_iff] at h
  have hletter : 0x20 < c.toNat := by omega
  simpa [isLeading] using hletter

/-- A scheme is found only where it stands. -/
theorem exists_of_cutScheme {cs : List Char} (h : (cutScheme cs).1 ≠ "") :
    ∃ s rest, IsScheme s ∧ cs = s.toList ++ ':' :: rest ∧
      cutScheme cs = (String.ofList (s.toList.map Char.toLower), rest) := by
  unfold cutScheme at h ⊢
  split at h
  · rename_i c ds rest hcut
    split at h
    · rename_i hscheme
      obtain ⟨hletter, hrest⟩ := Bool.and_eq_true_iff.1 hscheme
      refine ⟨String.ofList (c :: ds), rest, ⟨c, ds, by simp, hletter, List.all_eq_true.1 hrest⟩, ?_, ?_⟩
      · rw [String.toList_ofList]
        exact Text.eq_of_cut hcut
      · simp [hscheme]
    · exact absurd rfl h
  · exact absurd rfl h

theorem cutScheme_append (h : IsScheme s) :
    cutScheme (s.toList ++ ':' :: rest) = (String.ofList (s.toList.map Char.toLower), rest) := by
  have hcolon : ':' ∉ s.toList := by
    intro hmem
    have hmark := h.isSchemeChar ':' hmem
    exact absurd hmark (by decide)
  obtain ⟨c, cs, htext, hletter, hrest⟩ := h
  have hall : cs.all isSchemeChar = true := List.all_eq_true.2 hrest
  unfold cutScheme
  rw [Text.cut_append_cons hcolon, htext]
  simp [hletter, hall]

/-- A text that starts with a letter, and has no tabs and line ends, is taken as it is. -/
theorem cleaned_eq_self {text : String} (hstart : ∃ c cs, text.toList = c :: cs ∧ c.isAlpha = true)
    (h : ∀ d ∈ text.toList, isDropped d = false) : cleaned text = text.toList := by
  obtain ⟨c, cs, htext, hc⟩ := hstart
  have htrim : Text.trimStart isLeading text.toList = text.toList := by
    rw [htext]
    exact List.dropWhile_cons_of_neg (by simp [isLeading_eq_false hc])
  unfold cleaned
  rw [htrim]
  exact List.filter_eq_self.2 fun d hd => by simp [h d hd]

/-- An authority that is there stands behind two slashes. -/
theorem exists_slashes (h : (cutAuthority rest).1 ≠ []) : ∃ after, rest = '/' :: '/' :: after := by
  unfold cutAuthority at h
  split at h
  · exact ⟨_, rfl⟩
  · exact absurd rfl h

/-- Behind a scheme and two slashes stands the authority. -/
theorem ofChars_slashes (h : IsScheme s) (after : List Char) :
    (ofChars (s.toList ++ ':' :: '/' :: '/' :: after)).scheme =
        String.ofList (s.toList.map Char.toLower) ∧
      (ofChars (s.toList ++ ':' :: '/' :: '/' :: after)).authority =
        (Text.spanUntil endsAuthority after).1 := by
  unfold ofChars
  rw [cutScheme_append h]
  exact ⟨rfl, rfl⟩

/-- A scheme, two slashes, an authority, and what a mark begins that ends the authority. -/
theorem ofChars_append {authority tail : List Char} (hscheme : IsScheme s)
    (hauthority : ∀ c ∈ authority, endsAuthority c = false)
    (htail : ∀ c ∈ tail.head?, endsAuthority c = true) :
    ofChars (s.toList ++ ':' :: '/' :: '/' :: (authority ++ tail)) =
      ⟨String.ofList (s.toList.map Char.toLower), authority,
        String.ofList (Text.spanUntil endsPath tail).1⟩ := by
  have hcut : Text.spanUntil endsAuthority (authority ++ tail) = (authority, tail) := by
    cases tail with
    | nil =>
      rw [List.append_nil]
      exact Text.spanUntil_eq_self hauthority
    | cons c tail => exact Text.spanUntil_append_cons hauthority (htail c rfl)
  unfold ofChars
  rw [cutScheme_append hscheme]
  simp only [cutAuthority, hcut]

/-! ## Characters of a part -/

instance (c : Char) : Decidable (IsSafe c) := inferInstanceAs (Decidable (_ ∨ _))

theorem IsSafe.ne (h : IsSafe c) (hd : ¬ IsSafe d) : c ≠ d := by
  rintro rfl
  exact hd h

theorem IsSafe.lt (h : IsSafe c) : c.toNat < 0x80 := by
  rcases h with h | rfl
  · exact lt_of_isUnreserved h
  · decide

theorem isSafe_of_mem_toDigits {n : Nat} (h : c ∈ Nat.toDigits 10 n) : IsSafe c := by
  have hdigit := Nat.isDigit_of_mem_toDigits (by decide) (by decide) h
  exact .inl (by simp [Url.isUnreserved, Url.isAlphanum_iff, hdigit])

/-- Texts of safe characters. -/
def SafeText (s : String) : Prop := ∀ c ∈ s.toList, IsSafe c

theorem SafeText.notMem (h : SafeText s) (hd : ¬ IsSafe d) : d ∉ s.toList := fun hmem =>
  hd (h d hmem)

/-- The parts of a URL as they are written. -/
structure Written where
  scheme : String
  user : String
  password : String
  host : String
  port : String
  path : String

/-- User, password, host and port with the marks between them. -/
def Written.authority (w : Written) : String :=
  w.user ++ ":" ++ w.password ++ "@" ++ w.host ++ ":" ++ w.port

def Written.text (w : Written) : String := w.scheme ++ "://" ++ w.authority ++ w.path

/-- No part has a mark that would end it. -/
structure Written.Plain (w : Written) : Prop where
  scheme : IsScheme w.scheme
  user : SafeText w.user
  password : SafeText w.password
  host : SafeText w.host
  port : SafeText w.port
  rooted : ∃ rest, w.path.toList = '/' :: rest
  path : ∀ c ∈ w.path.toList, endsPath c = false ∧ isDropped c = false

/-- What the text is cut into; the scheme is put in lower case. -/
def Written.url (w : Written) : Url :=
  ⟨String.ofList (w.scheme.toList.map Char.toLower), w.authority.toList, w.path⟩

/-! ## Scheme, authority and path -/

/-- A character of an authority without brackets, and whose compatibility form is itself. -/
def InAuthority (c : Char) : Prop := IsSafe c ∨ c = ':' ∨ c = '@'

instance (c : Char) : Decidable (InAuthority c) := inferInstanceAs (Decidable (_ ∨ _))

theorem InAuthority.isUnsafe (h : InAuthority c) : isUnsafe c = false := by
  have hascii : c.toNat < 0x80 := by
    rcases h with h | rfl | rfl
    · exact h.lt
    all_goals decide
  simp only [Url.isUnsafe, List.contains_eq_mem, List.mem_cons, List.not_mem_nil, or_false,
    decide_eq_false_iff_not]
  omega

theorem InAuthority.endsAuthority (h : InAuthority c) : endsAuthority c = false := by
  rw [← Bool.not_eq_true]
  intro hend
  simp only [Url.endsAuthority, Bool.or_eq_true, beq_iff_eq] at hend
  rcases hend with (rfl | rfl) | rfl
  all_goals exact absurd h (by decide)

theorem checkAuthority_eq_ok_iff {authority : List Char} :
    checkAuthority authority = .ok () ↔
      ('[' ∈ authority ↔ ']' ∈ authority) ∧
        ('[' ∈ authority → checkAddress (bracketed authority) = .ok ()) ∧
          ∀ c ∈ authority, isUnsafe c = false := by
  have hsafe : (∀ c ∈ authority, isUnsafe c = false) ↔ authority.any isUnsafe = false := by
    simp
  rw [hsafe]
  unfold checkAuthority
  by_cases hopened : '[' ∈ authority <;> by_cases hclosed : ']' ∈ authority <;>
    cases hany : authority.any isUnsafe <;> cases hcheck : checkAddress (bracketed authority) <;>
      simp [hopened, hclosed, bind, Except.bind, pure, Except.pure, throw, throwThe, MonadExceptOf.throw]

theorem checkAuthority_eq_ok {authority : List Char} (h : ∀ c ∈ authority, InAuthority c) :
    checkAuthority authority = .ok () := by
  have hbracket (mark : Char) (hmark : ¬ InAuthority mark) : authority.contains mark = false := by
    simpa using fun hmem => hmark (h mark hmem)
  have hsafe : authority.any isUnsafe = false := by
    simpa using fun c hc => (h c hc).isUnsafe
  unfold checkAuthority
  rw [hbracket '[' (by decide), hbracket ']' (by decide), hsafe]
  rfl

variable {w : Written}

theorem Written.Plain.inAuthority (h : w.Plain) : ∀ c ∈ w.authority.toList, InAuthority c := by
  intro c hc
  simp only [Written.authority, String.toList_append, List.mem_append] at hc
  have hcolon : ∀ c ∈ ":".toList, c = ':' := by simp
  have hat : ∀ c ∈ "@".toList, c = '@' := by simp
  rcases hc with (((((hc | hc) | hc) | hc) | hc) | hc) | hc
  · exact .inl (h.user c hc)
  · exact .inr (.inl (hcolon c hc))
  · exact .inl (h.password c hc)
  · exact .inr (.inr (hat c hc))
  · exact .inl (h.host c hc)
  · exact .inr (.inl (hcolon c hc))
  · exact .inl (h.port c hc)

theorem Written.Plain.not_dropped (h : w.Plain) : ∀ c ∈ w.text.toList, isDropped c = false := by
  intro c hc
  simp only [Written.text, String.toList_append, List.mem_append] at hc
  have hmark : ∀ c ∈ "://".toList, isDropped c = false := by simp [isDropped]
  rcases hc with ((hc | hc) | hc) | hc
  · exact isDropped_eq_false (p := (isSchemeChar · = true)) (h.scheme.isSchemeChar c hc) (by decide)
      (by decide) (by decide)
  · exact hmark c hc
  · exact isDropped_eq_false (h.inAuthority c hc) (by decide) (by decide) (by decide)
  · exact (h.path c hc).2

/-- The text is cut into the parts that it was put together from. -/
theorem split_text (h : w.Plain) : split w.text = .ok w.url := by
  obtain ⟨path, hpath⟩ := h.rooted
  have htext : w.text.toList =
      w.scheme.toList ++ ':' :: '/' :: '/' :: (w.authority.toList ++ w.path.toList) := by
    simp [Written.text]
  have hclean : cleaned w.text = w.text.toList := by
    obtain ⟨c, cs, hscheme, hletter, -⟩ := h.scheme
    refine cleaned_eq_self ?_ h.not_dropped
    rw [htext, hscheme]
    exact ⟨c, _, rfl, hletter⟩
  have hend : Text.spanUntil endsPath w.path.toList = (w.path.toList, []) :=
    Text.spanUntil_eq_self fun c hc => (h.path c hc).1
  have hslash : ∀ c ∈ w.path.toList.head?, endsAuthority c = true := by
    rw [hpath]
    rintro c ⟨⟩
    rfl
  rw [split_eq_ok_iff, hclean, htext,
    ofChars_append h.scheme (fun c hc => (h.inAuthority c hc).endsAuthority) hslash, hend,
    String.ofList_toList]
  exact ⟨checkAuthority_eq_ok h.inAuthority, rfl⟩

/-! ## The authority -/

theorem userInfo_hostPart_of_plain (h : w.Plain) :
    Text.cutLast '@' w.authority.toList =
      (some (w.user.toList ++ ':' :: w.password.toList), w.host.toList ++ ':' :: w.port.toList) := by
  have htext : w.authority.toList = (w.user.toList ++ ':' :: w.password.toList) ++
      '@' :: (w.host.toList ++ ':' :: w.port.toList) := by
    simp [Written.authority]
  have hat : '@' ∉ w.host.toList ++ ':' :: w.port.toList := by
    simp only [List.mem_append, List.mem_cons, not_or]
    exact ⟨h.host.notMem (by decide), by decide, h.port.notMem (by decide)⟩
  rw [htext, Text.cutLast_append_cons hat]

theorem user?_of_plain (h : w.Plain) : w.url.user? = some w.user := by
  unfold user? userInfo? Written.url
  rw [userInfo_hostPart_of_plain h]
  simp only [Option.map_some]
  rw [Text.cut_append_cons (h.user.notMem (by decide)), String.ofList_toList]

theorem password?_of_plain (h : w.Plain) : w.url.password? = some w.password := by
  unfold password? userInfo? Written.url
  rw [userInfo_hostPart_of_plain h]
  simp only [Option.bind_some]
  rw [Text.cut_append_cons (h.user.notMem (by decide)), Option.map_some, String.ofList_toList]

theorem hostAndPort_of_plain (h : w.Plain) : w.url.hostAndPort = (w.host.toList, w.port.toList) := by
  have hbracket : '[' ∉ w.host.toList ++ ':' :: w.port.toList := by
    simp only [List.mem_append, List.mem_cons, not_or]
    exact ⟨h.host.notMem (by decide), by decide, h.port.notMem (by decide)⟩
  have hcolon : ':' ∉ w.host.toList := h.host.notMem (by decide)
  unfold hostAndPort hostPart Written.url
  rw [userInfo_hostPart_of_plain h]
  simp only [Text.cut_of_notMem hbracket, Text.cut_append_cons hcolon, Option.getD_some]

/-- A host without capital letters and escapes. -/
theorem host?_of_plain (h : w.Plain) (hne : w.host ≠ "")
    (hsmall : ∀ c ∈ w.host.toList, Text.IsSmall c ∧ c ≠ '%') : w.url.host? = some w.host := by
  have hzone : Text.spanUntil (· == '%') w.host.toList = (w.host.toList, []) :=
    Text.spanUntil_eq_self fun c hc => by simpa using (hsmall c hc).2
  unfold host?
  rw [hostAndPort_of_plain h]
  split
  · rename_i hnil
    exact absurd (String.toList_inj.1 hnil) hne
  · simp only [hzone, String.ofList_toList, String.ofList_nil, String.append_empty]
    rw [Text.lower_eq_self fun c hc => (hsmall c hc).1]

theorem port_of_nil {u : Url} (h : u.hostAndPort.2 = []) : u.port = .ok none := by
  unfold Url.port
  rw [h]

/-- A port in decimal. -/
theorem port_of_digits {u : Url} {port : Nat} (h : u.hostAndPort.2 = Nat.toDigits 10 port)
    (hmax : port ≤ greatestPort) : u.port = .ok (some port) := by
  have hdigits : (Nat.toDigits 10 port).all Char.isDigit = true :=
    List.all_eq_true.2 fun c hc => Nat.isDigit_of_mem_toDigits (by decide) (by decide) hc
  have hlength : (Nat.toDigits 10 port).length ≤ Numeral.digitLimit := by
    have hshort : (Nat.toDigits 10 port).length ≤ 5 :=
      (Nat.length_toDigits_le_iff (by decide) (by decide)).2 (Nat.lt_of_le_of_lt hmax (by decide))
    exact Nat.le_trans hshort (by decide)
  have hvalue := Numeral.ofDigits_toDigits port
  unfold Url.port
  rw [h]
  split
  · rename_i hnil
    exact absurd hnil Nat.toDigits_ne_nil
  · rw [hdigits, if_neg (by decide), if_neg (Nat.not_lt.2 hlength)]
    simp only [hvalue, hmax, ↓reduceIte]

theorem port_of_plain (h : w.Plain) {port : Nat} (hport : w.port = Nat.repr port)
    (hmax : port ≤ greatestPort) : w.url.port = .ok (some port) := by
  refine port_of_digits ?_ hmax
  rw [hostAndPort_of_plain h, hport]
  exact Nat.toList_repr

end Url

end QueryPlans
