import QueryPlans.Proofs.Database.Addresses
import QueryPlans.Proofs.Plan.Fields
import QueryPlans.Proofs.Url.Driver
import QueryPlans.Proofs.Url.Printed
import QueryPlans.Settings.Database

/-!
# URLs that are accepted

The settings check a URL as it is written, and a connector is made for the URL without its driver.  Both accept
the same URLs, as long as the port can be read.

* `Target.NamesServer` — what the settings check of a text.
* `Target.PortReads` — the port of a text is a number, or is left out.

Principal results: `exists_ofUrl_iff` — a target is made exactly for URLs that reach a server;
`checkUrl_eq_valid_iff` — the check of the settings; `accepted_alike` — the check and the target agree on
every text, and settings with a URL always have a target.
-/

namespace QueryPlans

open Url (ofChars cleaned)

namespace Target

variable {text : String} {limits : Limits}

/-- The text is taken apart, its scheme is supported, and it has a host. -/
def NamesServer (text : String) : Prop :=
  ∃ u, Url.split text = .ok u ∧ isSupportedScheme u.scheme = true ∧ u.host?.isSome = true

/-- The port of a text that is taken apart is a number, or is left out. -/
def PortReads (text : String) : Prop := ∀ u, Url.split text = .ok u → ∃ number, u.port = .ok number

theorem reaches_iff : Reaches (ofChars (cleaned text)) ↔ NamesServer text ∧ PortReads text := by
  constructor
  · intro h
    have hsplit : Url.split text = .ok (ofChars (cleaned text)) := Url.split_eq_ok_iff.2 ⟨h.checked, rfl⟩
    refine ⟨⟨_, hsplit, h.scheme, h.host⟩, fun u hu => ?_⟩
    obtain rfl : u = ofChars (cleaned text) := (Url.split_eq_ok_iff.1 hu).2
    exact h.port
  · rintro ⟨⟨u, hu, hscheme, hhost⟩, hport⟩
    obtain ⟨number, hnumber⟩ := hport u hu
    obtain ⟨hchecked, rfl⟩ := Url.split_eq_ok_iff.1 hu
    exact ⟨hchecked, hscheme, hhost, number, hnumber⟩

/-- A target is made only where the text without its driver is in order. -/
theorem reaches_of_ofUrl {t : Target} (h : ofUrl text limits = .ok t) :
    Reaches (ofChars (cleaned (withoutDriver text))) := by
  unfold ofUrl splitUrl at h
  simp only [bind, Except.bind, throw, throwThe, MonadExceptOf.throw, pure, Except.pure] at h
  split at h
  · cases h
  split at h
  · cases h
  rename_i u hsplit
  split at h
  · cases h
  rename_i host hhost
  split at h
  · cases h
  rename_i hscheme
  split at h
  · cases h
  rename_i number hport
  have hurl : Url.split (withoutDriver text) = .ok u := by
    cases hcut : Url.split (withoutDriver text) with
    | error e =>
      rw [hcut] at hsplit
      cases hsplit
    | ok v =>
      rw [hcut] at hsplit
      cases hsplit
      rfl
  have hread : ∃ number, u.port = .ok number := by
    cases hnumber : u.port with
    | error e =>
      rw [hnumber] at hport
      cases hport
    | ok n => exact ⟨n, rfl⟩
  obtain ⟨hchecked, rfl⟩ := Url.split_eq_ok_iff.1 hurl
  refine ⟨hchecked, ?_, ?_, hread⟩
  · simpa using hscheme
  · rw [hhost]
    rfl

/-- A target is made exactly for a URL that reaches a server. -/
theorem exists_ofUrl_iff (hfree : limits.Free) :
    (∃ t, ofUrl text limits = .ok t) ↔ Reaches (ofChars (cleaned text)) := by
  rw [← reaches_withoutDriver_iff text]
  constructor
  · rintro ⟨t, ht⟩
    exact reaches_of_ofUrl ht
  · intro h
    obtain ⟨number, hport⟩ := h.port
    obtain ⟨host, hhost⟩ := Option.isSome_iff_exists.1 h.host
    have hsplit := Url.split_eq_ok_iff.2 ⟨h.checked, rfl⟩
    exact ⟨_, ofUrl_of_split hfree hsplit hhost h.scheme hport⟩

end Target

namespace DatabaseSettings

open Target (NamesServer PortReads Limits Reaches)

variable {u v : NormalUrl} {fields : Json.Fields} {settings : DatabaseSettings}

theorem eq_of_checkUrl (h : checkUrl u = .valid v) : v = u ∧ NamesServer u.text := by
  unfold checkUrl at h
  split at h
  · cases h
  rename_i parts hparts
  split at h
  · cases h
  rename_i hscheme
  split at h
  · cases h
  rename_i hhost
  cases h
  refine ⟨rfl, parts, hparts, ?_, ?_⟩
  · simpa using hscheme
  · exact Option.isSome_iff_ne_none.2 (by simpa using hhost)

/-- The settings take a URL whose written form names a server. -/
theorem checkUrl_eq_valid_iff : checkUrl u = .valid u ↔ NamesServer u.text := by
  constructor
  · intro h
    exact (eq_of_checkUrl h).2
  · rintro ⟨parts, hparts, hscheme, hhost⟩
    obtain ⟨host, hsome⟩ := Option.isSome_iff_exists.1 hhost
    unfold checkUrl
    simp [hparts, hscheme, hsome]

/-- The port of the written form is always read. -/
theorem portReads_of_read {text : String} (h : NormalUrl.read text = .ok u) : PortReads u.text := by
  intro parts hparts
  obtain ⟨-, rfl⟩ := Url.split_eq_ok_iff.1 hparts
  exact ⟨_, (NormalUrl.read_sound h).port⟩

theorem exists_read_of_readUrl {j : Json} (h : readUrl j = .valid (some u)) :
    ∃ text, NormalUrl.read text = .ok u ∧ checkUrl u = .valid u := by
  have hcheck : (readNormalUrl j).andThen checkUrl = .valid u := by
    unfold readUrl at h
    split at h
    · cases h
    · cases h
    · obtain ⟨v, hv, hsome⟩ := Checked.map_eq_valid_iff.1 h
      cases hsome
      exact hv
  obtain ⟨v, hv, hvalid⟩ := Checked.andThen_eq_valid_iff.1 hcheck
  obtain ⟨rfl, -⟩ := eq_of_checkUrl hvalid
  unfold readNormalUrl at hv
  split at hv
  · split at hv
    · rename_i hread
      cases hv
      exact ⟨_, hread, hvalid⟩
    · cases hv
  · cases hv

/-- The URL of settings is one that was read and checked. -/
theorem exists_read_of_ofFields (h : ofFields fields = .valid settings) (hu : settings.url = some u) :
    ∃ text, NormalUrl.read text = .ok u ∧ checkUrl u = .valid u := by
  unfold ofFields at h
  simp only [Checked.ap_eq_valid_iff, Checked.map_eq_valid_iff] at h
  obtain ⟨_, _, ⟨_, _, ⟨_, _, ⟨url, hurl, rfl⟩, -, rfl⟩, -, rfl⟩, -, rfl⟩ := h
  rcases Reader.optional_eq_valid hurl with rfl | ⟨j, hj⟩
  · cases hu
  · cases hu
    exact exists_read_of_readUrl hj

/-- **Settings and targets accept the same URLs.** The check of the settings passes on a text exactly if a
target is made for it, as long as the port of the text can be read. Settings with a URL always have a
target. -/
theorem accepted_alike :
    (∀ (text : String) (limits : Limits), limits.Free → PortReads text →
      (NamesServer text ↔ ∃ t, Target.ofUrl text limits = .ok t)) ∧
    (∀ u : NormalUrl, checkUrl u = .valid u ↔ NamesServer u.text) ∧
    ∀ (fields : Json.Fields) (settings : DatabaseSettings) (u : NormalUrl),
      ofFields fields = .valid settings → settings.url = some u → ∃ t, settings.target = .ok t := by
  have hagree (text : String) (limits : Limits) (hfree : limits.Free) (hport : PortReads text) :
      NamesServer text ↔ ∃ t, Target.ofUrl text limits = .ok t := by
    rw [Target.exists_ofUrl_iff hfree, Target.reaches_iff]
    exact (and_iff_left hport).symm
  refine ⟨hagree, fun u => checkUrl_eq_valid_iff, ?_⟩
  intro fields settings u hfields hurl
  obtain ⟨text, hread, hvalid⟩ := exists_read_of_ofFields hfields hurl
  have hserver := checkUrl_eq_valid_iff.1 hvalid
  unfold target
  rw [hurl]
  refine (hagree u.text _ ?_ (portReads_of_read hread)).1 hserver
  intro name hname
  cases hname

/-- A scheme with two drivers, of which the last one is dropped before a target is made; and settings with a
scheme in capital letters. -/
theorem accepted_with_drivers :
    (∃ t, Target.ofUrl "postgres+postgresql+asyncpg://db.internal:5433/sales" {} = .ok t) ∧
      ∃ settings t, ofFields [("url", .str "POSTGRESQL+psycopg://app@db.internal")] = .valid settings ∧
        settings.target = .ok t := by
  obtain ⟨hagree, -, hsettings⟩ := accepted_alike
  constructor
  · have hserver : NamesServer "postgres+postgresql+asyncpg://db.internal:5433/sales" :=
      ⟨_, rfl, by decide, by decide⟩
    refine (hagree _ {} ?_ ?_).1 hserver
    · intro name hname
      cases hname
    · intro u hu
      cases hu
      exact ⟨_, rfl⟩
  · obtain ⟨settings, u, hfields, hurl⟩ : ∃ settings u,
        ofFields [("url", .str "POSTGRESQL+psycopg://app@db.internal")] = .valid settings ∧
          settings.url = some u := ⟨_, _, rfl, rfl⟩
    obtain ⟨t, ht⟩ := hsettings _ settings u hfields hurl
    exact ⟨settings, t, hfields, ht⟩

end DatabaseSettings

end QueryPlans
