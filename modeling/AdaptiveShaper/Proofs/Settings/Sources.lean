import AdaptiveShaper.Proofs.Settings.Checks
import AdaptiveShaper.Settings.Load
import Mathlib.Logic.ExistsUnique

/-!
# Where settings come from

Each setting takes its value from the last source that gives it, whatever the sources say about
other settings. `Settings.Merges` says this of all settings, and there is one record of settings of
which it holds. Only these merged settings are checked.
-/

namespace AdaptiveShaper

/-- The settings that have a value. That commands are only logged is no value but a request, which
no later source can take back. -/
inductive Setting where
  | uplinkInterface
  | downlinkInterface
  | maxUploadKbit
  | maxDownloadKbit
  | rateFloorKbit
  | minRtt
  | maxRtt
  | initialRtt
  | backoffFraction
  | cubicConstant
  | splitGsoThresholdKbit
  | windowCapacity
  | tickInterval
  | failureThreshold
  | applyTimeout
  | ingestQueueCapacity
  | tcProgram
  | metricsAddress
  deriving DecidableEq

/-- The value of a setting. -/
inductive Datum where
  | text (s : String)
  | rate (x : Float)
  | span (d : Span)
  | count (n : Nat)
  | address (a : Option SocketAddress)

/-- A whole number of milliseconds. -/
def Datum.millis (n : Nat) : Datum := .span (.ofMillis n)

namespace Settings

def value (s : Settings) : Setting → Datum
  | .uplinkInterface => .text s.interfaces.uplink
  | .downlinkInterface => .text s.interfaces.downlink
  | .maxUploadKbit => .rate s.rate.maxUploadKbit
  | .maxDownloadKbit => .rate s.rate.maxDownloadKbit
  | .rateFloorKbit => .rate s.rate.rateFloorKbit
  | .minRtt => .span s.rate.minRtt
  | .maxRtt => .span s.rate.maxRtt
  | .initialRtt => .span s.rate.initialRtt
  | .backoffFraction => .rate s.rate.backoffFraction
  | .cubicConstant => .rate s.rate.cubicConstant
  | .splitGsoThresholdKbit => .rate s.rate.splitGsoThresholdKbit
  | .windowCapacity => .count s.windowCapacity
  | .tickInterval => .span s.tickInterval
  | .failureThreshold => .count s.failureThreshold
  | .applyTimeout => .span s.applyTimeout
  | .ingestQueueCapacity => .count s.ingestQueueCapacity
  | .tcProgram => .text s.tcProgram
  | .metricsAddress => .address s.metricsAddress

/-- Settings are told apart by their values and by whether commands are only logged. -/
theorem eq_of_value_eq {s t : Settings} (h : ∀ k, s.value k = t.value k)
    (hdry : s.dryRun = t.dryRun) : s = t := by
  obtain ⟨⟨_, _⟩, ⟨_, _, _, _, _, _, _, _, _⟩, _, _, _, _, _, _, _, _⟩ := s
  obtain ⟨⟨_, _⟩, ⟨_, _, _, _, _, _, _, _, _⟩, _, _, _, _, _, _, _, _⟩ := t
  cases h .uplinkInterface
  cases h .downlinkInterface
  cases h .maxUploadKbit
  cases h .maxDownloadKbit
  cases h .rateFloorKbit
  cases h .minRtt
  cases h .maxRtt
  cases h .initialRtt
  cases h .backoffFraction
  cases h .cubicConstant
  cases h .splitGsoThresholdKbit
  cases h .windowCapacity
  cases h .tickInterval
  cases h .failureThreshold
  cases h .applyTimeout
  cases h .ingestQueueCapacity
  cases h .tcProgram
  cases h .metricsAddress
  cases hdry
  rfl

end Settings

/-! ## Overrides -/

namespace Overrides

/-- The value that is given for a setting, if there is one. -/
def given (o : Overrides) : Setting → Option Datum
  | .uplinkInterface => o.uplinkInterface.map .text
  | .downlinkInterface => o.downlinkInterface.map .text
  | .maxUploadKbit => o.maxUploadKbit.map .rate
  | .maxDownloadKbit => o.maxDownloadKbit.map .rate
  | .rateFloorKbit => o.rateFloorKbit.map .rate
  | .minRtt => o.minRttMs.map .millis
  | .maxRtt => o.maxRttMs.map .millis
  | .initialRtt => o.initialRttMs.map .millis
  | .backoffFraction => o.backoffFraction.map .rate
  | .cubicConstant => o.cubicConstant.map .rate
  | .splitGsoThresholdKbit => o.splitGsoThresholdKbit.map .rate
  | .windowCapacity => o.windowCapacity.map .count
  | .tickInterval => o.tickIntervalMs.map .millis
  | .failureThreshold => o.failureThreshold.map .count
  | .applyTimeout => o.applyTimeoutMs.map .millis
  | .ingestQueueCapacity => o.ingestQueueCapacity.map .count
  | .tcProgram => o.tcProgram.map .text
  | .metricsAddress => o.metricsAddress.map fun a => .address (some a)

theorem given_none (k : Setting) : none.given k = .none := by cases k <;> rfl

theorem span_millisOr (ms : Option Nat) (d : Span) :
    Datum.span (millisOr ms d) = (ms.map .millis).getD (.span d) := by
  cases ms <;> rfl

theorem address_orElse (a b : Option SocketAddress) :
    Datum.address (a.orElse fun _ => b) = (a.map fun x => .address (some x)).getD (.address b) := by
  cases a <;> rfl

/-- A setting keeps its value unless it is given, and no other setting matters. -/
theorem value_apply (o : Overrides) (s : Settings) (k : Setting) :
    (o.apply s).value k = (o.given k).getD (s.value k) := by
  cases k with
  | minRtt => exact span_millisOr _ _
  | maxRtt => exact span_millisOr _ _
  | initialRtt => exact span_millisOr _ _
  | tickInterval => exact span_millisOr _ _
  | applyTimeout => exact span_millisOr _ _
  | metricsAddress => exact address_orElse _ _
  | _ => exact (Option.getD_map _ _ _).symm

/-- Overrides that give what the settings `s` say, times in whole milliseconds. -/
def ofSettings (s : Settings) : Overrides where
  uplinkInterface := some s.interfaces.uplink
  downlinkInterface := some s.interfaces.downlink
  maxUploadKbit := some s.rate.maxUploadKbit
  maxDownloadKbit := some s.rate.maxDownloadKbit
  rateFloorKbit := some s.rate.rateFloorKbit
  minRttMs := some s.rate.minRtt.millis
  maxRttMs := some s.rate.maxRtt.millis
  initialRttMs := some s.rate.initialRtt.millis
  backoffFraction := some s.rate.backoffFraction
  cubicConstant := some s.rate.cubicConstant
  splitGsoThresholdKbit := some s.rate.splitGsoThresholdKbit
  windowCapacity := some s.windowCapacity
  tickIntervalMs := some s.tickInterval.millis
  failureThreshold := some s.failureThreshold
  applyTimeoutMs := some s.applyTimeout.millis
  ingestQueueCapacity := some s.ingestQueueCapacity
  tcProgram := some s.tcProgram
  dryRun := s.dryRun
  metricsAddress := s.metricsAddress

theorem apply_standard (s : Settings) : (ofSettings .standard).apply s =
    { Settings.standard with dryRun := s.dryRun || false, metricsAddress := s.metricsAddress } := by
  refine Settings.eq_of_value_eq (fun k => ?_) rfl
  cases k <;> rfl

/-- Whatever was set before, the standard values are accepted in its place. -/
theorem validate_apply_standard (s : Settings) :
    ((ofSettings .standard).apply s).validate = .ok () := by
  have hstandard : Settings.standard.Valid := Settings.standard.validate_eq_ok_iff.mp rfl
  rw [apply_standard, Settings.validate_eq_ok_iff]
  exact { hstandard with }

/-- Overrides that give a window without places, and nothing else. -/
def noWindow : Overrides := { none with windowCapacity := some 0 }

theorem given_noWindow {k : Setting} (h : k ≠ .windowCapacity) : noWindow.given k = .none := by
  cases k <;> first | rfl | exact absurd rfl h

theorem validate_apply_noWindow_ne (s : Settings) : (noWindow.apply s).validate ≠ .ok () := fun h =>
  absurd ((noWindow.apply s).validate_eq_ok_iff.mp h).windowCapacity_pos (Nat.lt_irrefl 0)

end Overrides

/-! ## Merging -/

namespace Settings

/-- Every setting has the value of the last source that gives it, and commands are only logged if
one of the sources asks for it. -/
structure Merges (file overrides : Overrides) (s : Settings) : Prop where
  value_eq : ∀ k, s.value k = ((overrides.given k).or (file.given k)).getD (standard.value k)
  dryRun_iff : s.dryRun = true ↔ file.dryRun = true ∨ overrides.dryRun = true

variable {file overrides : Overrides} {s t : Settings}

theorem merges_apply (file overrides : Overrides) :
    (overrides.apply (file.apply .standard)).Merges file overrides where
  value_eq k := by
    rw [Overrides.value_apply, Overrides.value_apply]
    cases overrides.given k <;> rfl
  dryRun_iff := by
    change (false || file.dryRun || overrides.dryRun) = true ↔ _
    rw [Bool.false_or, Bool.or_eq_true]

theorem Merges.unique (hs : s.Merges file overrides) (ht : t.Merges file overrides) : s = t := by
  refine eq_of_value_eq (fun k => ?_) ?_
  · rw [hs.value_eq, ht.value_eq]
  · rw [Bool.eq_iff_iff, hs.dryRun_iff, ht.dryRun_iff]

theorem Merges.eq_apply (h : s.Merges file overrides) :
    s = overrides.apply (file.apply .standard) :=
  h.unique (merges_apply file overrides)

/-- An edit of the file is worth the same as overrides. -/
theorem Merges.of_edited (h : s.Merges file overrides) {edited : Overrides}
    (hgiven : ∀ k, edited.given k = (overrides.given k).or (file.given k))
    (hdry : edited.dryRun = (file.dryRun || overrides.dryRun)) : s.Merges edited .none where
  value_eq k := by
    rw [h.value_eq, hgiven, Overrides.given_none, Option.none_or]
  dryRun_iff := by
    rw [h.dryRun_iff, hdry, Bool.or_eq_true]
    simp [Overrides.none]

end Settings

/-! ## Settings files -/

namespace Setting

/-- The key of a setting in a settings file. -/
def key : Setting → String
  | .uplinkInterface => "uplink-interface"
  | .downlinkInterface => "downlink-interface"
  | .maxUploadKbit => "max-upload-kbit"
  | .maxDownloadKbit => "max-download-kbit"
  | .rateFloorKbit => "rate-floor-kbit"
  | .minRtt => "min-rtt-ms"
  | .maxRtt => "max-rtt-ms"
  | .initialRtt => "initial-rtt-ms"
  | .backoffFraction => "backoff-fraction"
  | .cubicConstant => "cubic-c"
  | .splitGsoThresholdKbit => "split-gso-threshold-kbit"
  | .windowCapacity => "window-capacity"
  | .tickInterval => "tick-interval-ms"
  | .failureThreshold => "failure-threshold"
  | .applyTimeout => "apply-timeout-ms"
  | .ingestQueueCapacity => "ingest-queue-capacity"
  | .tcProgram => "tc-binary"
  | .metricsAddress => "metrics-address"

open SettingsFile

/-- Reads the value of a setting, if it is one of its kind. -/
def datum? (k : Setting) (v : Toml.Value) : Option Datum :=
  match k with
  | .uplinkInterface | .downlinkInterface | .tcProgram => (text? v).map .text
  | .maxUploadKbit | .maxDownloadKbit | .rateFloorKbit | .backoffFraction | .cubicConstant
  | .splitGsoThresholdKbit => (rate? v).map .rate
  | .minRtt | .maxRtt | .initialRtt | .tickInterval | .applyTimeout =>
    (count? 0x1_0000_0000_0000_0000 v).map .millis
  | .windowCapacity | .ingestQueueCapacity => (count? 0x1_0000_0000_0000_0000 v).map .count
  | .failureThreshold => (count? 0x1_0000_0000 v).map .count
  | .metricsAddress => (address? v).map fun a => .address (some a)

end Setting

namespace SettingsFile

open Toml (Table Value)

theorem read?_map {α β : Type} (t : Table) (convert : Value → Option α) (f : α → β) (key : String) :
    read? t (fun v => (convert v).map f) key = (read? t convert key).map (Option.map f) := by
  unfold read?
  split
  · rfl
  · simp only [Option.map_map]
    rfl
  · rfl

/-- What a document gives: the value behind the key of each setting, if the key is there. -/
structure Delivers (t : Table) (file : Overrides) : Prop where
  given : ∀ k : Setting, read? t k.datum? k.key = some (file.given k)
  dryRun : ∃ asked, read? t switch? "dry-run" = some asked ∧ file.dryRun = asked.getD false

/-- Whether every key that names a setting has a value of its kind. -/
structure WellTyped (t : Table) : Prop where
  given : ∀ k : Setting, (read? t k.datum? k.key).isSome = true
  dryRun : (read? t switch? "dry-run").isSome = true

theorem delivers_of_ofTable? {t : Table} {file : Overrides} (h : ofTable? t = some file) :
    Delivers t file := by
  -- one read after the other, each of which must have succeeded
  obtain ⟨_, h₁, h⟩ := Option.bind_eq_some_iff.mp h
  obtain ⟨_, h₂, h⟩ := Option.bind_eq_some_iff.mp h
  obtain ⟨_, h₃, h⟩ := Option.bind_eq_some_iff.mp h
  obtain ⟨_, h₄, h⟩ := Option.bind_eq_some_iff.mp h
  obtain ⟨_, h₅, h⟩ := Option.bind_eq_some_iff.mp h
  obtain ⟨_, h₆, h⟩ := Option.bind_eq_some_iff.mp h
  obtain ⟨_, h₇, h⟩ := Option.bind_eq_some_iff.mp h
  obtain ⟨_, h₈, h⟩ := Option.bind_eq_some_iff.mp h
  obtain ⟨_, h₉, h⟩ := Option.bind_eq_some_iff.mp h
  obtain ⟨_, h₁₀, h⟩ := Option.bind_eq_some_iff.mp h
  obtain ⟨_, h₁₁, h⟩ := Option.bind_eq_some_iff.mp h
  obtain ⟨_, h₁₂, h⟩ := Option.bind_eq_some_iff.mp h
  obtain ⟨_, h₁₃, h⟩ := Option.bind_eq_some_iff.mp h
  obtain ⟨_, h₁₄, h⟩ := Option.bind_eq_some_iff.mp h
  obtain ⟨_, h₁₅, h⟩ := Option.bind_eq_some_iff.mp h
  obtain ⟨_, h₁₆, h⟩ := Option.bind_eq_some_iff.mp h
  obtain ⟨_, h₁₇, h⟩ := Option.bind_eq_some_iff.mp h
  obtain ⟨_, h₁₈, h⟩ := Option.bind_eq_some_iff.mp h
  obtain ⟨_, h₁₉, h⟩ := Option.bind_eq_some_iff.mp h
  cases h
  refine ⟨fun k => ?_, ⟨_, h₁₈, rfl⟩⟩
  cases k <;> refine (read?_map t _ _ _).trans ?_ <;> simp only [Setting.key, *] <;> rfl

theorem exists_read? {α β : Type} {t : Table} {convert : Value → Option α} {f : α → β}
    {key : String} (h : (read? t (fun v => (convert v).map f) key).isSome = true) :
    ∃ a, read? t convert key = some a := by
  rw [read?_map, Option.isSome_map] at h
  exact Option.isSome_iff_exists.mp h

theorem exists_ofTable? {t : Table} (h : WellTyped t) : ∃ file, ofTable? t = some file := by
  obtain ⟨_, h₁⟩ := exists_read? (h.given .uplinkInterface)
  obtain ⟨_, h₂⟩ := exists_read? (h.given .downlinkInterface)
  obtain ⟨_, h₃⟩ := exists_read? (h.given .maxUploadKbit)
  obtain ⟨_, h₄⟩ := exists_read? (h.given .maxDownloadKbit)
  obtain ⟨_, h₅⟩ := exists_read? (h.given .rateFloorKbit)
  obtain ⟨_, h₆⟩ := exists_read? (h.given .minRtt)
  obtain ⟨_, h₇⟩ := exists_read? (h.given .maxRtt)
  obtain ⟨_, h₈⟩ := exists_read? (h.given .initialRtt)
  obtain ⟨_, h₉⟩ := exists_read? (h.given .backoffFraction)
  obtain ⟨_, h₁₀⟩ := exists_read? (h.given .cubicConstant)
  obtain ⟨_, h₁₁⟩ := exists_read? (h.given .splitGsoThresholdKbit)
  obtain ⟨_, h₁₂⟩ := exists_read? (h.given .windowCapacity)
  obtain ⟨_, h₁₃⟩ := exists_read? (h.given .tickInterval)
  obtain ⟨_, h₁₄⟩ := exists_read? (h.given .failureThreshold)
  obtain ⟨_, h₁₅⟩ := exists_read? (h.given .applyTimeout)
  obtain ⟨_, h₁₆⟩ := exists_read? (h.given .ingestQueueCapacity)
  obtain ⟨_, h₁₇⟩ := exists_read? (h.given .tcProgram)
  obtain ⟨_, h₁₈⟩ := exists_read? (h.given .metricsAddress)
  obtain ⟨_, h₁₉⟩ := Option.isSome_iff_exists.mp h.dryRun
  simp only [Setting.key] at *
  simp only [ofTable?, *]
  exact ⟨_, rfl⟩

variable {read : String → Except ReadFault String}

/-- What a settings file gives that can be read: nothing without a file. -/
inductive Gives (read : String → Except ReadFault String) : Option String → Overrides → Prop
  | nothing : Gives read none .none
  | document {path text : String} {t : Table} {file : Overrides} (hread : read path = .ok text)
      (hdocument : Toml.document? text = some t) (hdelivers : Delivers t file) :
      Gives read (some path) file

theorem gives_of_load {path : Option String} {file : Overrides}
    (h : loadOptional read path = .ok file) : Gives read path file := by
  cases path with
  | none =>
    cases h
    exact .nothing
  | some path =>
    simp only [loadOptional, load, ofText?] at h
    split at h
    · cases h
    · next text hread =>
      cases hdocument : Toml.document? text with
      | none =>
        rw [hdocument] at h
        cases h
      | some t =>
        rw [hdocument, Option.bind_eq_bind, Option.bind_some] at h
        split at h
        · cases h
        · next given htable =>
          cases h
          exact .document hread hdocument (delivers_of_ofTable? htable)

theorem exists_load {path text : String} {t : Table} (hread : read path = .ok text)
    (hdocument : Toml.document? text = some t) (h : WellTyped t) :
    ∃ file, loadOptional read (some path) = .ok file := by
  obtain ⟨file, hfile⟩ := exists_ofTable? h
  refine ⟨file, ?_⟩
  simp only [loadOptional, load, ofText?, hread, hdocument, Option.bind_eq_bind, Option.bind_some,
    hfile]

end SettingsFile

/-! ## Loading -/

theorem Span.nanos_ofMillis {n : Nat} (h : n < 0x1_0000_0000_0000_0000) :
    (ofMillis n).nanos = n * 1_000_000 := by
  rw [ofMillis, nanos_ofNanos, maxNanos]
  omega

namespace Settings

variable {read : String → Except ReadFault String} {path : Option String} {o : Overrides}

/-- What loading makes of a file that can be read: the merged settings, if they are accepted. -/
theorem load_of_file {file : Overrides} (h : SettingsFile.loadOptional read path = .ok file)
    {s : Settings} (hs : s.Merges file o) :
    load read path o = (s.validate.mapError .invalid).map fun _ => s := by
  let merged := o.apply (file.apply .standard)
  rw [load, h, hs.eq_apply]
  change (merged.validate.mapError LoadError.invalid >>= fun _ => pure merged) = _
  cases merged.validate <;> rfl

theorem load_eq_ok_iff {s : Settings} : load read path o = .ok s ↔
    ∃ file, SettingsFile.loadOptional read path = .ok file ∧ s.Merges file o ∧
      s.validate = .ok () := by
  constructor
  · intro h
    cases hfile : SettingsFile.loadOptional read path with
    | error e =>
      rw [load, hfile] at h
      cases h
    | ok file =>
      have hmerged := merges_apply file o
      rw [load_of_file hfile hmerged] at h
      cases hvalidate : (o.apply (file.apply .standard)).validate with
      | error fault =>
        rw [hvalidate] at h
        cases h
      | ok u =>
        rw [hvalidate] at h
        cases h
        exact ⟨file, rfl, hmerged, hvalidate⟩
  · rintro ⟨file, hfile, hmerges, hvalidate⟩
    rw [load_of_file hfile hmerges, hvalidate]
    rfl

/-- Loading gives settings exactly if the file can be read and the merged settings are accepted, and
then it gives those: every setting has the value of the overrides, else of the file, else the
standard one, whatever is given for other settings. A file gives the values behind the keys of the
settings, times in whole milliseconds. A value in the file and the same value among the overrides
are worth the same; there is no file that overrides could not mend, and none that a single one of
them could not spoil. -/
theorem merges_load (read : String → Except ReadFault String) (path : Option String)
    (o : Overrides) :
    (∀ s, load read path o = .ok s ↔
      ∃ file, SettingsFile.loadOptional read path = .ok file ∧ s.Merges file o ∧
        s.validate = .ok ()) ∧
      (∀ file, ∃! s, Merges file o s) ∧
      (∀ (file file' o' : Overrides) (s s' : Settings) (k : Setting),
        s.Merges file o → s'.Merges file' o' → o.given k = o'.given k →
        file.given k = file'.given k → s.value k = s'.value k) ∧
      (∀ file, SettingsFile.loadOptional read path = .ok file →
        SettingsFile.Gives read path file) ∧
      (∀ p text t, path = some p → read p = .ok text → Toml.document? text = some t →
        SettingsFile.WellTyped t → ∃ file, SettingsFile.loadOptional read path = .ok file) ∧
      (∀ n, n < 0x1_0000_0000_0000_0000 → (Span.ofMillis n).nanos = n * 1_000_000) ∧
      (∀ (file edited : Overrides) (s : Settings), s.Merges file o →
        (∀ k, edited.given k = (o.given k).or (file.given k)) →
        edited.dryRun = (file.dryRun || o.dryRun) → s.Merges edited .none) ∧
      ∀ file, SettingsFile.loadOptional read path = .ok file →
        (∃ mend s, load read path mend = .ok s) ∧
        ∃ (spoil : Overrides) (k : Setting), (∀ j, j ≠ k → spoil.given j = none) ∧
          ∀ s, load read path spoil ≠ .ok s := by
  refine ⟨fun s => load_eq_ok_iff, fun file => ?_, ?_, fun file => SettingsFile.gives_of_load, ?_,
    fun n => Span.nanos_ofMillis, fun file edited s h => h.of_edited, fun file hfile => ⟨?_, ?_⟩⟩
  · exact ⟨_, merges_apply file o, fun s hs => hs.eq_apply⟩
  · intro file file' o' s s' k hs hs' hoverride hgiven
    rw [hs.value_eq, hs'.value_eq, hoverride, hgiven]
  · rintro p text t rfl hread hdocument htyped
    exact SettingsFile.exists_load hread hdocument htyped
  · exact ⟨_, _, load_eq_ok_iff.mpr ⟨file, hfile, merges_apply file _,
      Overrides.validate_apply_standard _⟩⟩
  · refine ⟨.noWindow, .windowCapacity, fun j => Overrides.given_noWindow, fun s hs => ?_⟩
    obtain ⟨other, _, hmerges, hvalidate⟩ := load_eq_ok_iff.mp hs
    rw [hmerges.eq_apply] at hvalidate
    exact Overrides.validate_apply_noWindow_ne _ hvalidate

example : (load (fun _ => .ok "window-capacity = 0") (some "a") .none).isOk = false := by
  decide +kernel

example : (load (fun _ => .ok "window-capacity = 0") (some "a")
    { Overrides.none with windowCapacity := some 64 }).isOk = true := by decide +kernel

end Settings
end AdaptiveShaper
