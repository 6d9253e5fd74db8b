import QueryPlans.Database.Target
import QueryPlans.Proofs.Url.Parts

/-!
# Addresses of databases

A connector is made for the URL of a database.  User and password are escaped there, so that they may hold
any characters, marks of a URL and the name of the driver among them; the connector has them as they were.

* `Target.IsHostName`, `Target.IsPlainName` — names that stand in a URL as they are.
* `Target.Limits.Free` — no option has the name of something that a URL tells.

Principal results: `withoutDriver_eq_self`, `withoutDriver_driver` — the driver is taken out of the scheme
and nowhere else; `ofUrl_of_split` — the target of a URL that is taken apart; `ofUrl_text` — that of one that
is put together from parts; `ofUrl_account` — the parts of a target, carried by its URL.
-/

namespace QueryPlans.Target

open Url (Written escapeByByte greatestPort)

variable {limits : Limits} {text rest : String} {w : Written} {port : Nat}

/-! ## The driver -/

theorem not_infix_of_no_plus {cs : List Char} (h : '+' ∉ cs) :
    ¬ "postgresql+asyncpg://".toList <:+: cs := by
  intro hpart
  have hplus : '+' ∈ "postgresql+asyncpg://".toList := by decide
  exact h (hpart.subset hplus)

theorem withoutDriver_eq_self (h : '+' ∉ text.toList) : withoutDriver text = text := by
  unfold withoutDriver
  rw [Text.replaceAll_eq_self (not_infix_of_no_plus h), String.ofList_toList]

/-- The usual driver is taken out of the scheme, and nothing else is changed. -/
theorem withoutDriver_driver (h : '+' ∉ rest.toList) :
    withoutDriver ("postgresql+asyncpg://" ++ rest) = "postgresql://" ++ rest := by
  have hpattern : "postgresql+asyncpg://".toList ≠ [] := by decide
  unfold withoutDriver
  rw [String.toList_append, Text.replaceAll_pattern_append hpattern,
    Text.replaceAll_eq_self (not_infix_of_no_plus h), ← String.toList_append, String.ofList_toList]

/-- What comes after the scheme has no plus sign, if the path has none. -/
theorem no_plus_of_plain (h : w.Plain) (hpath : '+' ∉ w.path.toList) :
    '+' ∉ (w.authority ++ w.path).toList := by
  rw [String.toList_append, List.mem_append, not_or]
  exact ⟨fun hmem => absurd (h.inAuthority _ hmem) (by decide), hpath⟩

/-- A URL whose scheme names no driver stays as it is. -/
theorem withoutDriver_text (h : w.Plain) (hscheme : '+' ∉ w.scheme.toList) (hpath : '+' ∉ w.path.toList) :
    withoutDriver w.text = w.text := by
  apply withoutDriver_eq_self
  have hrest := no_plus_of_plain h hpath
  have hmark : '+' ∉ "://".toList := by decide
  simp only [Written.text, String.toList_append, List.mem_append, not_or] at hrest ⊢
  exact ⟨⟨⟨hscheme, hmark⟩, hrest.1⟩, hrest.2⟩

/-- The scheme of a URL with the usual driver becomes the bare one. -/
theorem withoutDriver_driver_text (h : w.Plain) (hscheme : w.scheme = "postgresql")
    (hpath : '+' ∉ w.path.toList) :
    withoutDriver { w with scheme := "postgresql+asyncpg" }.text = w.text := by
  have hdriver : { w with scheme := "postgresql+asyncpg" }.text =
      "postgresql+asyncpg://" ++ (w.authority ++ w.path) := by
    simp only [Written.text, Written.authority, String.append_assoc]
    rfl
  have hbare : w.text = "postgresql://" ++ (w.authority ++ w.path) := by
    simp only [Written.text, hscheme, String.append_assoc]
    rfl
  rw [hdriver, hbare, withoutDriver_driver (no_plus_of_plain h hpath)]

/-! ## Parts of a target -/

/-- No option has the name of something that a URL tells. -/
def Limits.Free (limits : Limits) : Prop := ∀ name ∈ limits.options.names, name ∉ urlName :: partNames

theorem Limits.Free.taken?_eq_none (h : limits.Free) {names : List String} (hsub : names ⊆ urlName :: partNames) :
    limits.taken? names = none := by
  unfold Limits.taken?
  rw [List.find?_eq_none]
  intro name hname htaken
  rw [List.contains_iff_mem] at htaken
  exact h name hname (hsub htaken)

/-- The target of a URL that is taken apart, with a host, a scheme that is supported and a port. -/
theorem ofUrl_of_split {u : Url} {host : String} {number : Option Nat} (hfree : limits.Free)
    (hsplit : Url.split (withoutDriver text) = .ok u) (hhost : u.host? = some host)
    (hscheme : isSupportedScheme u.scheme = true) (hport : u.port = .ok number) :
    ofUrl text limits = .ok {
      host
      port := portOrDefault number
      database := databaseOfPath u.path
      user := unescapedOr defaultName u.user?
      password := unescapedOr "" u.password?
      schemaName := limits.schemaName
      poolSize := limits.poolSize
      timeout := limits.timeout
      options := limits.options } := by
  have hurl : limits.taken? [urlName] = none := hfree.taken?_eq_none (by simp)
  have hparts : limits.taken? partNames = none := hfree.taken?_eq_none (List.subset_cons_self _ _)
  have hcut : splitUrl text = .ok u := by
    unfold splitUrl
    rw [hsplit]
    rfl
  unfold ofUrl
  simp only [hurl, hparts, hcut, bind, Except.bind, hhost, hscheme, hport, Except.mapError]
  rfl

/-- The target of a URL that is put together from parts. -/
theorem ofUrl_text (hfree : limits.Free) (hplain : w.Plain) (htext : withoutDriver text = w.text)
    (hscheme : isSupportedScheme w.url.scheme = true) (hhost : w.url.host? = some w.host)
    (hport : w.url.port = .ok (some port)) :
    ofUrl text limits = .ok {
      host := w.host
      port := portOrDefault (some port)
      database := databaseOfPath w.path
      user := unescapedOr defaultName (some w.user)
      password := unescapedOr "" (some w.password)
      schemaName := limits.schemaName
      poolSize := limits.poolSize
      timeout := limits.timeout
      options := limits.options } := by
  have hsplit : Url.split (withoutDriver text) = .ok w.url := by
    rw [htext]
    exact Url.split_text hplain
  rw [ofUrl_of_split hfree hsplit hhost hscheme hport, Url.user?_of_plain hplain,
    Url.password?_of_plain hplain]
  rfl

/-! ## Accounts -/

variable {c : Char} {user password host database : String}

/-- A host name in lower case: letters, digits, hyphens and points. -/
def IsHostName (host : String) : Prop :=
  host ≠ "" ∧ ∀ c ∈ host.toList, (c.isLower || c.isDigit || c == '-' || c == '.') = true

/-- A name that needs no escape in a path: letters, digits, underscores and hyphens. Letters of other
scripts stand there as they are. -/
def IsPlainName (name : String) : Prop :=
  name ≠ "" ∧ ∀ c ∈ name.toList, (c.isAlphanum || c == '_' || c == '-' || 0x80 ≤ c.toNat) = true

instance (host : String) : Decidable (IsHostName host) :=
  decidable_of_iff (host ≠ "" ∧ host.toList.all (fun c => c.isLower || c.isDigit || c == '-' || c == '.'))
    (and_congr_right fun _ => List.all_eq_true)

instance (name : String) : Decidable (IsPlainName name) :=
  decidable_of_iff
    (name ≠ "" ∧ name.toList.all (fun c => c.isAlphanum || c == '_' || c == '-' || 0x80 ≤ c.toNat))
    (and_congr_right fun _ => List.all_eq_true)

theorem IsHostName.safe (h : IsHostName host) : Url.SafeText host := by
  intro c hc
  have hchar := h.2 c hc
  simp only [Bool.or_eq_true, beq_iff_eq] at hchar
  refine .inl ?_
  rcases hchar with ((hlower | hdigit) | rfl) | rfl
  · simp [Url.isUnreserved, Url.isAlphanum_iff, Url.isAlpha_iff, hlower]
  · simp [Url.isUnreserved, Url.isAlphanum_iff, hdigit]
  all_goals decide

theorem isSmall_of_isLower (h : c.isLower = true) : Text.IsSmall c := by
  rw [Url.isLower_iff] at h
  unfold Text.IsSmall
  omega

theorem isSmall_of_isDigit (h : c.isDigit = true) : Text.IsSmall c := by
  rw [Url.isDigit_iff] at h
  unfold Text.IsSmall
  omega

theorem IsHostName.small (h : IsHostName host) : ∀ c ∈ host.toList, Text.IsSmall c ∧ c ≠ '%' := by
  intro c hc
  have hchar := h.2 c hc
  have hpercent : c ≠ '%' := by
    rintro rfl
    exact absurd hchar (by decide)
  refine ⟨?_, hpercent⟩
  simp only [Bool.or_eq_true, beq_iff_eq] at hchar
  rcases hchar with ((hlower | hdigit) | rfl) | rfl
  · exact isSmall_of_isLower hlower
  · exact isSmall_of_isDigit hdigit
  · exact ⟨by decide, by decide⟩
  · exact ⟨by decide, by decide⟩

/-- A plain name has none of the marks that its class leaves out. -/
theorem IsPlainName.notMem {mark : Char} (h : IsPlainName database)
    (hmark : (mark.isAlphanum || mark == '_' || mark == '-' || 0x80 ≤ mark.toNat) = false) :
    mark ∉ database.toList := by
  intro hmem
  have hchar := h.2 mark hmem
  rw [hmark] at hchar
  cases hchar

theorem IsPlainName.path (h : IsPlainName database) :
    ∀ c ∈ ("/" ++ database).toList, Url.endsPath c = false ∧ Url.isDropped c = false := by
  intro c hc
  rw [String.toList_append, List.mem_append] at hc
  rcases hc with hslash | hname
  · rw [List.mem_singleton.1 hslash]
    exact ⟨rfl, rfl⟩
  · refine ⟨?_, Url.isDropped_eq_false (p := (· ∈ database.toList)) hname (h.notMem (by decide))
      (h.notMem (by decide)) (h.notMem (by decide))⟩
    rw [← Bool.not_eq_true]
    intro hend
    simp only [Url.endsPath, Bool.or_eq_true, beq_iff_eq] at hend
    rcases hend with rfl | rfl
    · exact h.notMem (by decide) hname
    · exact h.notMem (by decide) hname

theorem IsPlainName.databaseOfPath (h : IsPlainName database) :
    databaseOfPath ("/" ++ database) = database := by
  have hdrop : ("/" ++ database).toList.dropWhile (· == '/') = database.toList := by
    rw [String.toList_append]
    show database.toList.dropWhile (· == '/') = database.toList
    rw [List.dropWhile_eq_self_iff]
    intro hpos hslash
    have hmem : '/' ∈ database.toList := by
      rw [← beq_iff_eq.1 hslash]
      exact List.getElem_mem hpos
    exact h.notMem (by decide) hmem
  unfold Target.databaseOfPath
  rw [hdrop, String.ofList_toList]
  exact if_neg h.1

variable {scheme bare : String}

theorem isScheme_of_mem (h : bare ∈ ["postgres", "postgresql"]) : Url.IsScheme bare := by
  simp only [List.mem_cons, List.not_mem_nil, or_false] at h
  rcases h with rfl | rfl
  · exact ⟨'p', "ostgres".toList, rfl, by decide, List.all_eq_true.1 (by decide)⟩
  · exact ⟨'p', "ostgresql".toList, rfl, by decide, List.all_eq_true.1 (by decide)⟩

/-- The parts of the URL of a database, with user and password escaped. -/
def written (scheme user password host : String) (port : Nat) (database : String) : Written :=
  ⟨scheme, escapeByByte user, escapeByByte password, host, Nat.repr port, "/" ++ database⟩

theorem safe_escapeByByte (s : String) : Url.SafeText (escapeByByte s) := by
  intro c hc
  rw [← Url.escape_eq_escapeByByte] at hc
  exact Url.safe_of_mem_escape hc

theorem safe_repr (port : Nat) : Url.SafeText (Nat.repr port) := by
  intro c hc
  rw [Nat.toList_repr] at hc
  exact Url.isSafe_of_mem_toDigits hc

theorem written_plain (hscheme : Url.IsScheme scheme) (hhost : IsHostName host)
    (hdatabase : IsPlainName database) : (written scheme user password host port database).Plain where
  scheme := hscheme
  user := safe_escapeByByte user
  password := safe_escapeByByte password
  host := hhost.safe
  port := safe_repr port
  rooted := ⟨database.toList, String.toList_append⟩
  path := hdatabase.path

theorem isSupportedScheme_written (h : bare ∈ ["postgres", "postgresql"]) :
    isSupportedScheme (written bare user password host port database).url.scheme = true := by
  have hall : ∀ bare ∈ ["postgres", "postgresql"],
      isSupportedScheme (String.ofList (bare.toList.map Char.toLower)) = true := by decide
  exact hall bare h

/-- The usual driver is dropped, and the other schemes have none. -/
theorem withoutDriver_written (hscheme : scheme ∈ ["postgres", "postgresql", "postgresql+asyncpg"])
    (hhost : IsHostName host) (hdatabase : IsPlainName database) :
    ∃ bare ∈ ["postgres", "postgresql"],
      withoutDriver (written scheme user password host port database).text =
        (written bare user password host port database).text := by
  have hplus : '+' ∉ ("/" ++ database).toList := by
    rw [String.toList_append, List.mem_append, not_or]
    exact ⟨by decide, hdatabase.notMem (by decide)⟩
  have hplain {bare : String} (h : bare ∈ ["postgres", "postgresql"]) :
      (written bare user password host port database).Plain :=
    written_plain (isScheme_of_mem h) hhost hdatabase
  have hpostgres : "postgres" ∈ ["postgres", "postgresql"] := by decide
  have hpostgresql : "postgresql" ∈ ["postgres", "postgresql"] := by decide
  simp only [List.mem_cons, List.not_mem_nil, or_false] at hscheme
  rcases hscheme with rfl | rfl | rfl
  · have hbare : '+' ∉ "postgres".toList := by decide
    exact ⟨_, hpostgres, withoutDriver_text (hplain hpostgres) hbare hplus⟩
  · have hbare : '+' ∉ "postgresql".toList := by decide
    exact ⟨_, hpostgresql, withoutDriver_text (hplain hpostgresql) hbare hplus⟩
  · have hdriver := withoutDriver_driver_text (hplain hpostgresql) rfl hplus
    exact ⟨_, hpostgresql, hdriver⟩

theorem unescapedOr_escapeByByte {default : String} (h : user = "" → default = "") :
    unescapedOr default (some (escapeByByte user)) = user := by
  have hkeep : Url.isUnreserved '%' = false := by decide
  unfold unescapedOr
  simp only [← Url.escape_eq_escapeByByte]
  split
  · rename_i hempty
    by_cases huser : user = ""
    · rw [huser, h huser]
    · exact absurd hempty (Url.escape_ne_empty hkeep huser)
  · exact Url.unescape_escape hkeep user

/-- **Accounts are carried faithfully.** A connector for the URL of a database, with any user and password
that were escaped byte by byte, has exactly these, and the host, port and database of the URL. -/
theorem ofUrl_account (scheme user password host database : String) (port : Nat) (limits : Limits)
    (hscheme : scheme ∈ ["postgres", "postgresql", "postgresql+asyncpg"]) (huser : user ≠ "")
    (hhost : IsHostName host) (hport : 1 ≤ port ∧ port ≤ 65535) (hdatabase : IsPlainName database)
    (hfree : limits.Free) :
    ofUrl (scheme ++ "://" ++ escapeByByte user ++ ":" ++ escapeByByte password ++ "@" ++ host ++ ":" ++
        Nat.repr port ++ "/" ++ database) limits =
      .ok {
        host
        port := port
        database
        user
        password
        schemaName := limits.schemaName
        poolSize := limits.poolSize
        timeout := limits.timeout
        options := limits.options } := by
  have htext (scheme : String) : scheme ++ "://" ++ escapeByByte user ++ ":" ++ escapeByByte password ++
      "@" ++ host ++ ":" ++ Nat.repr port ++ "/" ++ database =
        (written scheme user password host port database).text := by
    simp only [written, Written.text, Written.authority, String.append_assoc]
  obtain ⟨bare, hbare, hdriver⟩ : ∃ bare ∈ ["postgres", "postgresql"],
      withoutDriver (written scheme user password host port database).text =
        (written bare user password host port database).text :=
    withoutDriver_written hscheme hhost hdatabase
  have hplain : (written bare user password host port database).Plain :=
    written_plain (isScheme_of_mem hbare) hhost hdatabase
  have hname := Url.host?_of_plain hplain hhost.1 hhost.small
  have hnumber := Url.port_of_plain hplain rfl hport.2
  rw [htext, ofUrl_text hfree hplain hdriver (isSupportedScheme_written hbare) hname hnumber]
  have huser : unescapedOr defaultName (some (escapeByByte user)) = user :=
    unescapedOr_escapeByByte fun h => absurd h huser
  have hpassword : unescapedOr "" (some (escapeByByte password)) = password :=
    unescapedOr_escapeByByte fun _ => rfl
  have hport : portOrDefault (some port) = port := by
    cases port with
    | zero => omega
    | succ n => rfl
  simp only [written, huser, hpassword, hport, hdatabase.databaseOfPath]

/-- A password that holds the name of the driver, in a URL that names it too. -/
theorem driver_in_password :
    ofUrl ("postgresql+asyncpg://" ++ "r%C3%A9my%40hq:postgresql%2Basyncpg%3A%2F%2F%251" ++
        "@db.example.org:6543/orders-2_b") {} =
      .ok {
        host := "db.example.org"
        port := 6543
        database := "orders-2_b"
        user := "rémy@hq"
        password := "postgresql+asyncpg://%1" } := by
  have h := ofUrl_account "postgresql+asyncpg" "rémy@hq" "postgresql+asyncpg://%1" "db.example.org"
    "orders-2_b" 6543 {} (by decide) (by decide) (by decide) (by decide) (by decide) (by
      intro name hname
      cases hname)
  have huser : escapeByByte "rémy@hq" = "r%C3%A9my%40hq" := by
    rw [← Url.escape_eq_escapeByByte]
    decide
  have hpassword : escapeByByte "postgresql+asyncpg://%1" =
      "postgresql%2Basyncpg%3A%2F%2F%251" := by
    rw [← Url.escape_eq_escapeByByte]
    decide
  rw [huser, hpassword] at h
  exact h

end QueryPlans.Target
