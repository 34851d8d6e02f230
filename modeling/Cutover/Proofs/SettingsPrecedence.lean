import Cutover.Settings.Loading
import Mathlib.Data.List.Basic

/-!
# Only effective values count

The settings that result from a file, the environment and the options given depend on the effective value of
each setting alone.  Main statement: `Settings.load_by_effective_values`.

The checks of the settings are independent of one another.  So they pass together exactly if each passes by
itself, and then each setting is what the check of its own value gives (`Settings.check_eq_ok_iff`); and if
they do not pass, the faults are those of the single values, one setting after another
(`Settings.faults_check`).  Merging gives each setting its effective value (`Settings.get?_merge`), so what
holds of the fields that are checked holds of the effective values.
-/

namespace Cutover

namespace Checked

variable {α β : Type} {a : Checked α} {value : Json}

/-- The faults that a check has found. -/
def faults : Checked α → List Fault
  | .ok _ => []
  | .faulty faults => faults

/-- A check whose value does not count. -/
def forget (a : Checked α) : Checked Unit :=
  a.map fun _ => ()

/-- The check of a value that may be missing, with a usual value in its place. -/
def orUsual (check : Json → Checked α) (usual : α) : Option Json → Checked α
  | none => .ok usual
  | some value => check value

@[simp] theorem faults_ok (x : α) : (ok x).faults = [] := rfl

@[simp] theorem faults_and (f : Checked (α → β)) (a : Checked α) :
    (f.and a).faults = f.faults ++ a.faults := by
  cases f <;> cases a <;> simp [Checked.and, faults]

@[simp] theorem faults_forget (a : Checked α) : a.forget.faults = a.faults := by
  cases a <;> rfl

theorem faults_under_congr {place : Place} {b : Checked β} (h : a.faults = b.faults) :
    (a.under place).faults = (b.under place).faults := by
  cases a <;> cases b <;> simp_all [under, faults]

theorem forget_eq_ok_iff : a.forget = ok () ↔ ∃ x, a = ok x := by
  cases a <;> simp [forget, Checked.map]

/-- A missing value passes, and any other passes if its check does. -/
theorem exists_orUsual_iff {check : Json → Checked α} {usual : α} {value? : Option Json} :
    (∃ x, orUsual check usual value? = ok x) ↔
      ∀ value, value? = some value → (check value).forget = ok () := by
  cases value? <;> simp [orUsual, forget_eq_ok_iff]

/-- A field that may be left out is checked by its value, and its faults lie under its name. -/
theorem optionalField_eq (check : Json → Checked α) (usual : α) (fields : Fields) (name : String) :
    optionalField check usual fields (name, name) =
      (orUsual check usual (fields.get? name)).under (.member name) := by
  unfold optionalField given? given? given?
  cases fields.get? name <;> rfl

/-- An integer that passes is within the bounds. -/
theorem bounds_of_integerWithin {least greatest n : Int} (h : integerWithin least greatest value = ok n) :
    least ≤ n ∧ n ≤ greatest := by
  unfold integerWithin at h
  cases hinteger : integer value with
  | faulty faults =>
    rw [hinteger] at h
    cases h
  | ok m =>
    rw [hinteger] at h
    change (if m < least then _ else _) = _ at h
    split at h
    case isTrue => cases h
    case isFalse hsmall =>
      split at h
      case isTrue => cases h
      case isFalse hlarge =>
        cases h
        exact ⟨Int.not_lt.mp hsmall, Int.not_lt.mp hlarge⟩

end Checked

namespace Settings

open Text

variable {value? : String → Option Json} {fields : Fields} {s : Settings} {find : String → Entry}
  {environment : Environment} {path : Option String} {file options : Fields} {fault : LoadFault}

/-- The names of the settings. -/
def fieldNames : List String :=
  ["host", "port", "log_level", "log_file", "audit_log_file", "structured_logging", "engine"]

/-- Check a value for the setting with a name. -/
def checkValue (name : String) (value : Json) : Checked Unit :=
  match name with
  | "host" => (Checked.text value).forget
  | "port" => (Checked.integerWithin 1 65535 value).forget
  | "log_level" => (checkLevel value).forget
  | "structured_logging" => (Checked.flag value).forget
  | _ => (Checked.optionalText value).forget

/-- The faults of the values that are there, one setting after another, each under the name of its
setting. -/
def valueFaults (value? : String → Option Json) : List Fault :=
  fieldNames.flatMap fun name =>
    ((Checked.orUsual (checkValue name) () (value? name)).under (.member name)).faults

/-- Each setting is what the check of its value gives, or its usual value if it has none. -/
structure Follows (s : Settings) (value? : String → Option Json) : Prop where
  host : Checked.orUsual Checked.text usualHost (value? "host") = .ok s.host
  port : Checked.orUsual (Checked.integerWithin 1 65535) usualPort (value? "port") = .ok s.port
  logLevel : Checked.orUsual checkLevel .info (value? "log_level") = .ok s.logLevel
  logFile : Checked.orUsual Checked.optionalText none (value? "log_file") = .ok s.logFile
  auditFile : Checked.orUsual Checked.optionalText none (value? "audit_log_file") = .ok s.auditFile
  structuredLog : Checked.orUsual Checked.flag false (value? "structured_logging") = .ok s.structuredLog
  engine : Checked.orUsual Checked.optionalText none (value? "engine") = .ok s.engine

/-- What a file gives the settings: nothing if no file is named or it is empty, and otherwise its members if
it holds a mapping whose keys are all texts. -/
inductive FileGives (find : String → Entry) : Option String → Fields → Prop
  | unnamed : FileGives find none []
  | empty {path : String} {content : Content} (hread : File.read path (find path) = .ok content)
      (hvalue : content.value = .null) : FileGives find (some path) []
  | mapping {path : String} {content : Content} {members : Fields}
      (hread : File.read path (find path) = .ok content) (hvalue : content.value = .obj members)
      (hkeys : content.hasForeignKey = false) : FileGives find (some path) members

/-! ### The checks of all settings -/

/-- The checks of all settings pass if each of them does. -/
theorem check_eq_ok_iff : check fields = .ok s ↔ s.Follows fields.get? := by
  unfold check
  simp only [Checked.and_eq_ok_iff, Checked.optionalField_eq, Checked.under_eq_ok_iff, Checked.ok.injEq]
  constructor
  · rintro ⟨_, engine, ⟨_, structuredLog, ⟨_, auditFile, ⟨_, logFile, ⟨_, logLevel, ⟨_, port, ⟨_, host,
      rfl, hhost, rfl⟩, hport, rfl⟩, hlogLevel, rfl⟩, hlogFile, rfl⟩, hauditFile, rfl⟩, hstructuredLog,
      rfl⟩, hengine, rfl⟩
    exact ⟨hhost, hport, hlogLevel, hlogFile, hauditFile, hstructuredLog, hengine⟩
  · intro h
    exact ⟨_, _, ⟨_, _, ⟨_, _, ⟨_, _, ⟨_, _, ⟨_, _, ⟨_, _, rfl, h.host, rfl⟩, h.port, rfl⟩, h.logLevel,
      rfl⟩, h.logFile, rfl⟩, h.auditFile, rfl⟩, h.structuredLog, rfl⟩, h.engine, rfl⟩

/-- The faults of a field are those of its value. -/
theorem faults_optionalField {α : Type} (check : Json → Checked α) (usual : α) (name : String)
    (h : ∀ value, checkValue name value = (check value).forget) :
    (Checked.optionalField check usual fields (name, name)).faults =
      ((Checked.orUsual (checkValue name) () (fields.get? name)).under (.member name)).faults := by
  rw [Checked.optionalField_eq]
  apply Checked.faults_under_congr
  cases fields.get? name with
  | none => rfl
  | some value =>
    change (check value).faults = (checkValue name value).faults
    rw [h, Checked.faults_forget]

/-- The faults of all settings are those of the single values. -/
theorem faults_check (fields : Fields) : (check fields).faults = valueFaults fields.get? := by
  unfold check valueFaults fieldNames
  simp only [Checked.faults_and, Checked.faults_ok, List.nil_append, List.flatMap_cons, List.flatMap_nil,
    List.append_nil, List.append_assoc]
  rw [faults_optionalField Checked.text usualHost "host" fun _ => rfl,
    faults_optionalField (Checked.integerWithin 1 65535) usualPort "port" fun _ => rfl,
    faults_optionalField checkLevel .info "log_level" fun _ => rfl,
    faults_optionalField Checked.optionalText none "log_file" fun _ => rfl,
    faults_optionalField Checked.optionalText none "audit_log_file" fun _ => rfl,
    faults_optionalField Checked.flag false "structured_logging" fun _ => rfl,
    faults_optionalField Checked.optionalText none "engine" fun _ => rfl]

/-- Settings follow from values if each value that is there passes its check. -/
theorem exists_follows_iff : (∃ s : Settings, s.Follows value?) ↔
    ∀ name ∈ fieldNames, ∀ value, value? name = some value → checkValue name value = .ok () := by
  unfold fieldNames
  simp only [List.forall_mem_cons]
  constructor
  · rintro ⟨s, h⟩
    exact ⟨Checked.exists_orUsual_iff.mp ⟨_, h.host⟩, Checked.exists_orUsual_iff.mp ⟨_, h.port⟩,
      Checked.exists_orUsual_iff.mp ⟨_, h.logLevel⟩, Checked.exists_orUsual_iff.mp ⟨_, h.logFile⟩,
      Checked.exists_orUsual_iff.mp ⟨_, h.auditFile⟩, Checked.exists_orUsual_iff.mp ⟨_, h.structuredLog⟩,
      Checked.exists_orUsual_iff.mp ⟨_, h.engine⟩, nofun⟩
  · rintro ⟨hhost, hport, hlogLevel, hlogFile, hauditFile, hstructuredLog, hengine, _⟩
    obtain ⟨host, hhost⟩ := Checked.exists_orUsual_iff.mpr hhost
    obtain ⟨port, hport⟩ := Checked.exists_orUsual_iff.mpr hport
    obtain ⟨logLevel, hlogLevel⟩ := Checked.exists_orUsual_iff.mpr hlogLevel
    obtain ⟨logFile, hlogFile⟩ := Checked.exists_orUsual_iff.mpr hlogFile
    obtain ⟨auditFile, hauditFile⟩ := Checked.exists_orUsual_iff.mpr hauditFile
    obtain ⟨structuredLog, hstructuredLog⟩ := Checked.exists_orUsual_iff.mpr hstructuredLog
    obtain ⟨engine, hengine⟩ := Checked.exists_orUsual_iff.mpr hengine
    exact ⟨⟨host, port, logLevel, logFile, auditFile, structuredLog, engine⟩,
      hhost, hport, hlogLevel, hlogFile, hauditFile, hstructuredLog, hengine⟩

/-- Fields are checked alike if they are the same by the names of the settings. -/
theorem check_congr_of_names {a b : Fields} (h : ∀ name ∈ fieldNames, a.get? name = b.get? name) :
    check a = check b := by
  unfold fieldNames at h
  simp only [List.forall_mem_cons] at h
  obtain ⟨hhost, hport, hlogLevel, hlogFile, hauditFile, hstructuredLog, hengine, _⟩ := h
  unfold check
  simp only [Checked.optionalField_eq]
  rw [hhost, hport, hlogLevel, hlogFile, hauditFile, hstructuredLog, hengine]

/-- A level that passes is given by a text, and has this text in upper case as its name. -/
theorem eq_upper_of_checkLevel {value : Json} {level : Log.Level} (h : checkLevel value = .ok level) :
    ∃ name, value = .str name ∧ level.name = upper name := by
  cases value with
  | str name =>
    refine ⟨name, rfl, ?_⟩
    simp only [checkLevel, Checked.text, Checked.bind] at h
    cases hlevel : Log.Level.ofName? (upper name) with
    | none =>
      rw [hlevel] at h
      cases h
    | some found =>
      rw [hlevel] at h
      rw [← Checked.ok.inj h]
      exact Log.Level.name_of_ofName? hlevel
  | _ => cases h

/-- The port is within its bounds whatever the values are. -/
theorem Follows.port_bounds (h : s.Follows value?) : 1 ≤ s.port ∧ s.port ≤ 65535 := by
  have hport := h.port
  cases hvalue : value? "port" with
  | none =>
    rw [hvalue] at hport
    rw [← Checked.ok.inj hport]
    decide
  | some value =>
    rw [hvalue] at hport
    exact Checked.bounds_of_integerWithin hport

/-- The level of the log has the name that is given for it, in upper case. -/
theorem Follows.name_logLevel (h : s.Follows value?) :
    ∃ name, (value? "log_level").getD (.str "INFO") = .str name ∧ s.logLevel.name = upper name := by
  have hlevel := h.logLevel
  cases hvalue : value? "log_level" with
  | none =>
    rw [hvalue] at hlevel
    refine ⟨"INFO", rfl, ?_⟩
    rw [← Checked.ok.inj hlevel]
    decide
  | some value =>
    rw [hvalue] at hlevel
    obtain ⟨name, rfl, hname⟩ := eq_upper_of_checkLevel hlevel
    exact ⟨name, rfl, hname⟩

/-! ### Loading -/

/-- A table of a document has no value but an object. -/
theorem isMapping_of_hasForeignKey {value : Yaml.Value} (h : value.hasForeignKey = true) :
    ∃ members, value.toJson = .obj members := by
  cases value with
  | table entries => exact ⟨_, rfl⟩
  | leaf | foreign | list => cases h

/-- Only a mapping has a key that is no text. -/
theorem isMapping_of_readText {form : Form} {text : String} {content : Content}
    (hread : File.readText form text = .ok content) (hkeys : content.hasForeignKey = true) :
    ∃ members, content.value = .obj members := by
  cases form with
  | json =>
    unfold File.readText at hread
    cases hvalue : Json.read? text with
    | none =>
      rw [hvalue] at hread
      cases hread
    | some value =>
      rw [hvalue] at hread
      cases hread
      cases hkeys
  | yaml =>
    unfold File.readText at hread
    cases hvalue : Yaml.read? text with
    | error fault =>
      rw [hvalue] at hread
      cases hread
    | ok value =>
      rw [hvalue] at hread
      cases hread
      exact isMapping_of_hasForeignKey hkeys

theorem isMapping_of_read {path : String} {entry : Entry} {content : Content}
    (hread : File.read path entry = .ok content) (hkeys : content.hasForeignKey = true) :
    ∃ members, content.value = .obj members := by
  unfold File.read at hread
  split at hread
  case h_1 | h_2 | h_3 => cases hread
  case h_4 =>
    split at hread
    case h_1 => cases hread
    case h_2 => exact isMapping_of_readText hread hkeys

/-- What a file gives is settled with the environment and the options. -/
theorem load_of_fileGives (h : FileGives find path file) :
    load find environment path options = settle environment file options := by
  cases h with
  | unnamed => rfl
  | @empty path content hread hvalue =>
    have hkeys : content.hasForeignKey = false := by
      rw [← Bool.not_eq_true]
      intro hforeign
      obtain ⟨members, hmembers⟩ := isMapping_of_read hread hforeign
      rw [hvalue] at hmembers
      cases hmembers
    have hfields : content.fields path = .ok [] := by
      rw [Content.fields, hvalue]
    rw [load, Option.map_some, hread, loadContent, hfields, hkeys]
    rfl
  | @mapping path content members hread hvalue hkeys =>
    have hfields : content.fields path = .ok file := by
      rw [Content.fields, hvalue]
    rw [load, Option.map_some, hread, loadContent, hfields, hkeys]
    rfl

/-- Settled are the settings that follow from the effective values. -/
theorem settle_eq_ok_iff :
    settle environment file options = .ok s ↔ s.Follows (effective? environment file options) := by
  have hvalues : (merge environment file options).get? = effective? environment file options :=
    funext (get?_merge environment file options)
  rw [← hvalues, ← check_eq_ok_iff, settle]
  cases check (merge environment file options) <;> simp

/-- If nothing is settled, the faults are those of the effective values. -/
theorem eq_invalid_of_settle (h : settle environment file options = .error fault) :
    fault = .invalid (valueFaults (effective? environment file options)) := by
  have hvalues : (merge environment file options).get? = effective? environment file options :=
    funext (get?_merge environment file options)
  rw [← hvalues, ← faults_check]
  unfold settle at h
  cases hcheck : check (merge environment file options) with
  | ok settings =>
    rw [hcheck] at h
    cases h
  | faulty faults =>
    rw [hcheck] at h
    exact (Except.error.inj h).symm

/-- **Only effective values count.**  The effective value of a setting is the option that was given for it,
or else its value in the file, even if that is null, or else what the environment gives it; and if there is
none of these the setting has its usual value.  A file is named that holds nothing or a mapping whose keys
are texts, or no file is named.  Then loading gives exactly the settings that follow from the effective values
one by one, and it does so exactly if each of these values passes the check of its setting; the port is
within its bounds, and the level of the log has one of the five names, the one that is given in any case.
Otherwise loading fails with the faults of the effective values and no others.  So whatever else the file,
the environment and the options hold, the same effective values lead to the same result. -/
theorem load_by_effective_values (h : FileGives find path file) :
    (∀ s, load find environment path options = .ok s ↔
      s.Follows (effective? environment file options)) ∧
    ((∃ s, load find environment path options = .ok s) ↔
      ∀ name ∈ fieldNames, ∀ value, effective? environment file options name = some value →
        checkValue name value = .ok ()) ∧
    (∀ s, load find environment path options = .ok s →
      1 ≤ s.port ∧ s.port ≤ 65535 ∧
        s.logLevel.name ∈ ["DEBUG", "INFO", "WARNING", "ERROR", "CRITICAL"] ∧
        ∃ name, (effective? environment file options "log_level").getD (.str "INFO") = .str name ∧
          s.logLevel.name = upper name) ∧
    (∀ fault, load find environment path options = .error fault →
      fault = .invalid (valueFaults (effective? environment file options))) ∧
    ∀ (find' : String → Entry) (environment' : Environment) (path' : Option String)
      (file' options' : Fields), FileGives find' path' file' →
      (∀ name ∈ fieldNames, effective? environment file options name =
        effective? environment' file' options' name) →
      load find environment path options = load find' environment' path' options' := by
  rw [load_of_fileGives h]
  refine ⟨fun s => settle_eq_ok_iff, ?_, ?_, fun fault => eq_invalid_of_settle, ?_⟩
  · rw [← exists_follows_iff]
    exact exists_congr fun s => settle_eq_ok_iff
  · intro s hs
    have hfollows : s.Follows (effective? environment file options) := settle_eq_ok_iff.mp hs
    obtain ⟨hleast, hgreatest⟩ := hfollows.port_bounds
    exact ⟨hleast, hgreatest, s.logLevel.name_mem, hfollows.name_logLevel⟩
  · intro find' environment' path' file' options' h' hvalues
    rw [load_of_fileGives h', settle, settle]
    have hcheck : check (merge environment file options) = check (merge environment' file' options') := by
      apply check_congr_of_names
      intro name hname
      rw [get?_merge, get?_merge]
      exact hvalues name hname
    rw [hcheck]

/-- The port in one of the files, that of the environment and the level of the other environment are bad, but
none of them counts.  In both files the log file is null, which does count. -/
theorem load_by_effective_values_past_bad_ones :
    ∃ find : String → Entry,
      FileGives find (some "settings.json") [("port", .int 70000), ("log_file", .null)] ∧
      FileGives find (some "other.yaml") [("log_file", .null), ("port", .int 8080)] ∧
      load find
          [("MIGRATION_CONTROL_PORT", "eighty"), ("MIGRATION_CONTROL_HOST", ""),
            ("MIGRATION_CONTROL_LOG_LEVEL", "debug"), ("MIGRATION_CONTROL_LOG_FILE", "cutover.log")]
          (some "settings.json") [("port", .int 8080), ("host", .null)] =
        .ok ⟨"127.0.0.1", 8080, .debug, none, none, false, none⟩ ∧
      load find [("MIGRATION_CONTROL_LOG_LEVEL", "loud")] (some "other.yaml")
          [("log_level", .str "debug")] =
        .ok ⟨"127.0.0.1", 8080, .debug, none, none, false, none⟩ := by
  let find (path : String) : Entry :=
    if path = "settings.json" then
      .file ("\x7b\"port\": 70000, \"log_file\": null\x7d".toList.map Char.toNat)
    else .file ("log_file: ~\nport: 8080\n".toList.map Char.toNat)
  have hsettings : File.read "settings.json" (find "settings.json") =
      .ok ⟨.obj [("port", .int 70000), ("log_file", .null)], false⟩ := by
    decide +kernel
  have hother : File.read "other.yaml" (find "other.yaml") =
      .ok ⟨.obj [("log_file", .null), ("port", .int 8080)], false⟩ := by
    decide +kernel
  have hgives := FileGives.mapping hsettings rfl rfl
  have hgivesOther := FileGives.mapping hother rfl rfl
  obtain ⟨hiff, _, _, _, hsame⟩ := load_by_effective_values hgives
  refine ⟨find, hgives, hgivesOther, (hiff _).mpr ⟨rfl, rfl, rfl, rfl, rfl, rfl, rfl⟩, ?_⟩
  rw [← hsame _ _ _ _ _ hgivesOther]
  · exact (hiff _).mpr ⟨rfl, rfl, rfl, rfl, rfl, rfl, rfl⟩
  · simp only [fieldNames, List.forall_mem_cons]
    exact ⟨rfl, rfl, rfl, rfl, rfl, rfl, rfl, nofun⟩

end Settings

end Cutover
