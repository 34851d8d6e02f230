import Cutover.Proofs.EscapedMarkup
import Cutover.Proofs.SettingsPrecedence

/-!
# How loading settings fails

Loading settings ends in settings or in a fault that the program foresees, and the command that runs the
service shows such a fault and fails.  There are two exceptions, which end the command in the middle: a mapping
whose keys are not all texts, and three faults of a document that its reader does not tell by a failure of its
own.  Main statement: `CommandLine.bad_settings_reported_iff`.

What a file was read to decides between the exceptions and the rest before any value is checked
(`Settings.endsForeseen_loadContent_iff`), and bad values are always foreseen (`Settings.endsForeseen_settle`).
That the command can show every wording is a fact about escaped text (`Markup.exists_show_styled`).
-/

namespace Cutover

namespace Settings

variable {environment : Environment} {options : Fields} {path : String} {content : Content}
  {source : Option (String × Except FileFault Content)} {fault : LoadFault}

/-- A file was read that holds a mapping with a key that is no text. -/
def ReadForeignKey (source : Option (String × Except FileFault Content)) : Prop :=
  ∃ path content members, source = some (path, .ok content) ∧ content.fields path = .ok members ∧
    content.hasForeignKey = true

/-- A file could not be read, and the reader of documents has not told so by a failure of its own. -/
def ReadStrayFault (source : Option (String × Except FileFault Content)) : Prop :=
  ∃ path fault, source = some (path, .error fault) ∧
    fault ∈ [FileFault.yaml .word, .yaml .form, .yaml .noDigits]

/-- Loading ends in settings, or in a fault that the program foresees. -/
def EndsForeseen (result : Except LoadFault Settings) : Prop :=
  (∃ s, result = .ok s) ∨ ∃ fault, result = .error fault ∧ fault.isForeseen = true

theorem endsForeseen_error : EndsForeseen (.error fault) ↔ fault.isForeseen = true := by
  simp [EndsForeseen]

/-- The faults of files that the program does not foresee. -/
theorem isForeseen_unreadable {fault : FileFault} : (LoadFault.unreadable path fault).isForeseen = true ↔
    fault ∉ [FileFault.yaml .word, .yaml .form, .yaml .noDigits] := by
  cases fault with
  | yaml fault => cases fault <;> simp [LoadFault.isForeseen]
  | absent | directory | unsupported | bytes | json => simp [LoadFault.isForeseen]

/-- What a file holds is a mapping, or nothing, or it is refused with a fault that tells so. -/
theorem fields_eq_error {reason : LoadFault} (h : content.fields path = .error reason) :
    reason = .notMapping path := by
  unfold Content.fields at h
  split at h
  case h_1 => cases h
  case h_2 => cases h
  case h_3 => exact (Except.error.inj h).symm

/-- Bad values are foreseen. -/
theorem endsForeseen_settle (environment : Environment) (file options : Fields) :
    EndsForeseen (settle environment file options) := by
  cases hresult : settle environment file options with
  | ok s => exact Or.inl ⟨s, rfl⟩
  | error fault =>
    rw [endsForeseen_error, eq_invalid_of_settle hresult]
    rfl

/-- A key that is no text ends the loading before any value is checked. -/
theorem loadContent_of_foreignKey (h : ReadForeignKey source) (environment : Environment)
    (options : Fields) : loadContent environment options source = .error .foreignKey := by
  obtain ⟨path, content, members, rfl, hfields, hkeys⟩ := h
  rw [loadContent, hfields, hkeys]
  rfl

/-- Loading ends as foreseen but for the two exceptions. -/
theorem endsForeseen_loadContent_iff : EndsForeseen (loadContent environment options source) ↔
    ¬ ReadForeignKey source ∧ ¬ ReadStrayFault source := by
  constructor
  · intro h
    refine ⟨fun hkey => ?_, ?_⟩
    · rw [loadContent_of_foreignKey hkey, endsForeseen_error] at h
      cases h
    · rintro ⟨path, fault, rfl, hstray⟩
      rw [loadContent, endsForeseen_error, isForeseen_unreadable] at h
      exact h hstray
  · rintro ⟨hkey, hstray⟩
    rcases source with _ | ⟨path, fault | content⟩
    · exact endsForeseen_settle _ _ _
    · rw [loadContent, endsForeseen_error, isForeseen_unreadable]
      exact fun hmem => hstray ⟨path, fault, rfl, hmem⟩
    · cases hfields : content.fields path with
      | error reason =>
        rw [loadContent, hfields, fields_eq_error hfields]
        exact endsForeseen_error.mpr rfl
      | ok members =>
        have hkeys : content.hasForeignKey = false := by
          rw [← Bool.not_eq_true]
          exact fun h => hkey ⟨path, content, members, rfl, hfields, h⟩
        rw [loadContent, hfields, hkeys]
        exact endsForeseen_settle _ _ _

end Settings

namespace CommandLine

/-- The line that tells of a fault can be shown whatever its wording is, and the command fails with it. -/
theorem exists_refusal (message : String) : ∃ text, refusal message = ⟨text, .ok 1⟩ := by
  obtain ⟨shown, hshown⟩ :=
    @Markup.exists_show_styled "red" "Configuration error: " (by decide +kernel) (by decide +kernel) message
  refine ⟨shown, ?_⟩
  rw [refusal, showLines, hshown]
  simp [showLines]

/-- **Bad settings are reported, with two exceptions.**  Whatever the environment, the options and the outcome
of reading a file are, loading ends in settings or in a fault that the program foresees if and only if the
file was not read to a mapping with a key that is no text, and its reader has not failed in one of three
unforeseen ways.  Such a key ends the loading with a fault of its own, whatever else there is.  The command
that runs the service starts nothing if there are no settings: it shows the wording of a fault that is foreseen
and fails, and any other fault ends it in the middle. -/
theorem bad_settings_reported_iff (environment : Settings.Environment) :
    (∀ options source, Settings.EndsForeseen (Settings.loadContent environment options source) ↔
      ¬ Settings.ReadForeignKey source ∧ ¬ Settings.ReadStrayFault source) ∧
    (∀ options source, Settings.ReadForeignKey source →
      Settings.loadContent environment options source = .error .foreignKey) ∧
    ∀ (find : String → Settings.Entry) (options : ServeOptions) (fault : Settings.LoadFault),
      Settings.load find environment options.config options.fields = .error fault →
      (fault.isForeseen = true → ∃ text, refusal fault.message = ⟨text, .ok 1⟩ ∧
        serve find environment options = ⟨refusal fault.message, none⟩) ∧
      (fault.isForeseen = false →
        serve find environment options = ⟨⟨"", .error (.settings fault)⟩, none⟩) := by
  refine ⟨fun options source => Settings.endsForeseen_loadContent_iff,
    fun options source h => Settings.loadContent_of_foreignKey h environment options, ?_⟩
  intro find options fault hload
  refine ⟨fun hforeseen => ?_, fun hstray => ?_⟩
  · obtain ⟨text, htext⟩ := exists_refusal fault.message
    refine ⟨text, htext, ?_⟩
    simp only [serve, hload, hforeseen, if_true]
  · simp only [serve, hload, hstray, Bool.false_eq_true, if_false]

/-- A port that is too large is reported. -/
theorem bad_settings_reported_iff_of_large_port :
    ∃ text, serve (fun _ => .file ("port: 70000\n".toList.map Char.toNat)) []
        { config := some "config.yaml" } = ⟨⟨text, .ok 1⟩, none⟩ ∧
      ⟨text, .ok 1⟩ = refusal "Invalid configuration: 1 validation error for ControlPlaneConfig" := by
  have hload : Settings.load (fun _ => .file ("port: 70000\n".toList.map Char.toNat)) []
      (some "config.yaml") (ServeOptions.fields { config := some "config.yaml" }) =
      .error (.invalid [⟨[.member "port"], .tooLarge 65535⟩]) := by
    decide +kernel
  obtain ⟨_, _, hserve⟩ := bad_settings_reported_iff []
  obtain ⟨text, htext, hserving⟩ := (hserve _ { config := some "config.yaml" } _ hload).1 rfl
  have hmessage : (Settings.LoadFault.invalid [⟨[.member "port"], .tooLarge 65535⟩]).message =
      "Invalid configuration: 1 validation error for ControlPlaneConfig" := by
    decide +kernel
  rw [hmessage] at htext hserving
  refine ⟨text, ?_, htext.symm⟩
  rw [hserving, htext]

/-- A file of settings has a key that is a number.  Loading fails in a way that is not foreseen, and the
command that runs the service does not report it. -/
theorem foreign_key_not_reported :
    Settings.load (fun _ => .file ("port: 8080\n1: 2\n".toList.map Char.toNat)) []
        (some "config.yaml") (ServeOptions.fields { config := some "config.yaml" }) =
      .error .foreignKey ∧
    Settings.LoadFault.foreignKey.isForeseen = false ∧
    serve (fun _ => .file ("port: 8080\n1: 2\n".toList.map Char.toNat)) []
        { config := some "config.yaml" } = ⟨⟨"", .error (.settings .foreignKey)⟩, none⟩ := by
  have hload : Settings.load (fun _ => .file ("port: 8080\n1: 2\n".toList.map Char.toNat)) []
      (some "config.yaml") (ServeOptions.fields { config := some "config.yaml" }) =
      .error .foreignKey := by
    decide +kernel
  refine ⟨hload, rfl, ?_⟩
  simp only [serve, hload]
  rfl

end CommandLine

end Cutover
