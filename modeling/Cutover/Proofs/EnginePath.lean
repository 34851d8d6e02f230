import Cutover.Proofs.SettingsFaults

/-!
# Which paths of engines are reported

A path either stands for an engine that takes every signal, or it is reported as bad settings, whatever parts
the program has.  There is one exception: a path that names a part by its place behind another one, with a
point in front.  The import of such a part fails in a way that is not foreseen.  Main statement:
`EngineName.engine_found_or_reported_iff`.

The first colon of a path divides it in one way (`EngineName.engineAt_of_names`), and a path that it does not
divide into two names has not the form of one (`EngineName.engineAt_of_not_names`).  What the path stands for
is then looked up in the part, which ends in an engine only if one is offered there
(`EngineName.engineAt_eq_ok_iff`), and in the unforeseen fault only by the point
(`EngineName.engineAt_eq_relative_iff`).
-/

namespace Cutover

namespace EngineName

/-- The first colon of a path stands between the names of a part and of something in it. -/
structure Names (path part name : String) : Prop where
  text : path.toList = part.toList ++ ':' :: name.toList
  first : ':' ∉ part.toList
  part_ne_empty : part ≠ ""
  name_ne_empty : name ≠ ""

/-- A path names a part by its place behind another one: with a point in front. -/
def IsRelative (path : String) : Prop :=
  ∃ part name, Names path part name ∧ part.toList.head? = some '.'

variable {π ε : Type} {program : Program π ε} {usual engine : ε} {path part name : String}

/-! ### The form of a path -/

theorem Names.span_eq (h : Names path part name) :
    path.toList.span (· != ':') = (part.toList, ':' :: name.toList) := by
  have hpass : ∀ c ∈ part.toList, (c != ':') = true := by
    intro c hc
    rw [bne_iff_ne]
    rintro rfl
    exact h.first hc
  rw [List.span_eq_takeWhile_dropWhile, h.text, List.takeWhile_append_of_pos hpass,
    List.dropWhile_append_of_pos hpass, List.takeWhile_cons_of_neg (by decide),
    List.dropWhile_cons_of_neg (by decide), List.append_nil]

/-- What a path stands for is looked up by its two names. -/
theorem engineAt_of_names (h : Names path part name) : program.engineAt path = program.lookUp part name := by
  have hpart : part.toList ≠ [] := by simpa using h.part_ne_empty
  have hname : name.toList ≠ [] := by simpa using h.name_ne_empty
  unfold Program.engineAt
  rw [h.span_eq]
  split
  case h_1 heq => exact absurd (congrArg Prod.snd heq) (List.cons_ne_nil _ _)
  case h_2 heq => exact absurd (congrArg Prod.fst heq) hpart
  case h_3 heq => exact absurd (List.cons.inj (congrArg Prod.snd heq)).2 hname
  case h_4 heq =>
    obtain ⟨hfst, hsnd⟩ := Prod.mk.inj heq
    obtain ⟨-, hrest⟩ := List.cons.inj hsnd
    rw [← hfst, ← hrest, String.ofList_toList, String.ofList_toList]

/-- A path without two names has not the form of a path. -/
theorem engineAt_of_not_names (h : ¬ ∃ part name, Names path part name) :
    program.engineAt path = .error .badForm := by
  unfold Program.engineAt
  split
  case h_1 => rfl
  case h_2 => rfl
  case h_3 => rfl
  case h_4 part c name hpart hname hspan =>
    rw [List.span_eq_takeWhile_dropWhile, Prod.mk.injEq] at hspan
    obtain ⟨hfirst, hrest⟩ := hspan
    have hfind : path.toList.find? (fun d => !(d != ':')) = some c := by
      rw [List.find?_not_eq_head?_dropWhile, hrest, List.head?_cons]
    have hcolon : c = ':' := by simpa using List.find?_some hfind
    refine absurd ⟨String.ofList part, String.ofList name, ?_, ?_, ?_, ?_⟩ h
    · rw [String.toList_ofList, String.toList_ofList, ← hcolon, ← hrest, ← hfirst,
        List.takeWhile_append_dropWhile]
    · rw [String.toList_ofList, ← hfirst]
      intro hmem
      simpa using List.mem_takeWhile_imp hmem
    · simpa using hpart
    · simpa using hname

/-- All that can come of a path, apart from the fault of its form, comes of looking up its two names. -/
theorem engineAt_eq_iff {result : Except Fault ε} (hresult : result ≠ .error .badForm) :
    program.engineAt path = result ↔
      ∃ part name, Names path part name ∧ program.lookUp part name = result := by
  constructor
  · intro h
    by_cases hform : ∃ part name, Names path part name
    · obtain ⟨part, name, hnames⟩ := hform
      exact ⟨part, name, hnames, (engineAt_of_names hnames).symm.trans h⟩
    · exact absurd (h.symm.trans (engineAt_of_not_names hform)) hresult
  · rintro ⟨part, name, hnames, hlook⟩
    exact (engineAt_of_names hnames).trans hlook

/-! ### What is found in a part -/

/-- An engine is offered under a path: a part that is told in full knows the name as a kind of engine that
leaves no signal open, and the engine is made of this kind. -/
def Offers (program : Program π ε) (path : String) (engine : ε) : Prop :=
  ∃ part name place kind, ∃ complete : kind.unanswered = [],
    Names path part name ∧ part.toList.head? ≠ some '.' ∧ program.find part = .ok place ∧
    program.meaning? place name = some (.engine kind) ∧ engine = kind.make complete

theorem engineIn_eq_ok_iff {place : π} : program.engineIn place name = .ok engine ↔
    ∃ kind, ∃ complete : kind.unanswered = [],
      program.meaning? place name = some (.engine kind) ∧ engine = kind.make complete := by
  unfold Program.engineIn
  cases hmeaning : program.meaning? place name with
  | none => simp
  | some meaning =>
    cases meaning with
    | other => simp
    | engine kind =>
      by_cases complete : kind.unanswered = []
      · simp [complete, eq_comm]
      · simp [complete]

theorem engineIn_ne_relative {place : π} : program.engineIn place name ≠ .error .relative := by
  unfold Program.engineIn
  split
  · simp
  · simp
  · split
    · simp
    · simp

theorem importPart_of_relative (h : part.toList.head? = some '.') :
    program.importPart part = .error .relative :=
  if_pos h

theorem importPart_eq_ok_iff {place : π} : program.importPart part = .ok place ↔
    part.toList.head? ≠ some '.' ∧ program.find part = .ok place := by
  unfold Program.importPart
  by_cases h : part.toList.head? = some '.'
  · simp [h]
  · cases program.find part with
    | ok found => simp [h]
    | error reason => simp [h]

theorem importPart_eq_relative_iff :
    program.importPart part = .error .relative ↔ part.toList.head? = some '.' := by
  refine ⟨fun hfault => ?_, importPart_of_relative⟩
  by_contra h
  unfold Program.importPart at hfault
  rw [if_neg h] at hfault
  split at hfault
  · cases hfault
  · cases hfault

/-- An engine is found under a path exactly if it is offered there. -/
theorem engineAt_eq_ok_iff : program.engineAt path = .ok engine ↔ Offers program path engine := by
  rw [engineAt_eq_iff (by simp)]
  constructor
  · rintro ⟨part, name, hnames, hlook⟩
    unfold Program.lookUp at hlook
    split at hlook
    case h_1 place hpart =>
      obtain ⟨hfull, hfind⟩ := importPart_eq_ok_iff.mp hpart
      obtain ⟨kind, complete, hmeaning, heq⟩ := engineIn_eq_ok_iff.mp hlook
      exact ⟨part, name, place, kind, complete, hnames, hfull, hfind, hmeaning, heq⟩
    case h_2 => cases hlook
  · rintro ⟨part, name, place, kind, complete, hnames, hfull, hfind, hmeaning, heq⟩
    refine ⟨part, name, hnames, ?_⟩
    unfold Program.lookUp
    rw [importPart_eq_ok_iff.mpr ⟨hfull, hfind⟩]
    exact engineIn_eq_ok_iff.mpr ⟨kind, complete, hmeaning, heq⟩

/-- Only a part that is named by its place behind another one leads to the fault that is not foreseen. -/
theorem engineAt_eq_relative_iff : program.engineAt path = .error .relative ↔ IsRelative path := by
  rw [engineAt_eq_iff (by simp)]
  constructor
  · rintro ⟨part, name, hnames, hlook⟩
    refine ⟨part, name, hnames, ?_⟩
    unfold Program.lookUp at hlook
    split at hlook
    case h_1 => exact absurd hlook engineIn_ne_relative
    case h_2 fault hpart =>
      cases hlook
      exact importPart_eq_relative_iff.mp hpart
  · rintro ⟨part, name, hnames, hpoint⟩
    refine ⟨part, name, hnames, ?_⟩
    unfold Program.lookUp
    rw [importPart_of_relative hpoint]

/-! ### What comes of a path -/

/-- A fault is reported as bad settings, in its own words. -/
def IsReported (path : String) (fault : Fault) : Prop :=
  fault.failure? path = some ⟨.configuration (fault.message path), "", []⟩

theorem isReported_iff {fault : Fault} : IsReported path fault ↔ fault ≠ .relative := by
  cases fault <;> simp [IsReported, Fault.failure?]

theorem Names.ne_empty (h : Names path part name) : path ≠ "" := by
  rintro rfl
  have htext := h.text
  simp at htext

theorem load_eq_engineAt (h : path ≠ "") : program.load usual (some path) = program.engineAt path :=
  if_neg h

theorem load_eq_ok_iff : program.load usual (some path) = .ok engine ↔
    path = "" ∧ engine = usual ∨ Offers program path engine := by
  by_cases h : path = ""
  · subst h
    have hnone : ¬ Offers program "" engine := by
      rintro ⟨part, name, place, kind, complete, hnames, _⟩
      exact hnames.ne_empty rfl
    simp [Program.load, hnone, eq_comm]
  · rw [load_eq_engineAt h, engineAt_eq_ok_iff]
    simp [h]

theorem load_eq_relative_iff :
    program.load usual (some path) = .error .relative ↔ IsRelative path := by
  by_cases h : path = ""
  · subst h
    have hnone : ¬ IsRelative "" := by
      rintro ⟨part, name, hnames, _⟩
      exact hnames.ne_empty rfl
    simp [Program.load, hnone]
  · rw [load_eq_engineAt h, engineAt_eq_relative_iff]

/-- A path ends in an engine or is reported, unless it names a part by its place behind another one. -/
theorem ends_iff_not_isRelative :
    ((∃ engine, program.load usual (some path) = .ok engine) ∨
        ∃ fault, program.load usual (some path) = .error fault ∧ IsReported path fault) ↔
      ¬ IsRelative path := by
  have hrelative : program.load usual (some path) = .error .relative ↔ IsRelative path :=
    load_eq_relative_iff
  rw [← hrelative]
  cases program.load usual (some path) with
  | ok engine => simp
  | error fault => simp [isReported_iff]

end EngineName

namespace CommandLine

variable {find : String → Settings.Entry} {environment : Settings.Environment} {options : ServeOptions}
  {settings : Settings} {path : String} {fault : EngineName.Fault}

/-- A fault that is reported is shown by the command that runs the service, which fails with it. -/
theorem serve_of_isReported
    (hsettings : Settings.load find environment options.config options.fields = .ok settings)
    (hengine : settings.engine = some path) (hfault : EngineName.load (some path) = .error fault)
    (hreported : EngineName.IsReported path fault) :
    serve find environment options = ⟨refusal (fault.message path), none⟩ := by
  unfold serve
  simp only [hsettings, hengine, hfault, Option.getD_some]
  rw [hreported]
  rfl

/-- A fault that is not foreseen ends the command in the middle. -/
theorem serve_of_relative
    (hsettings : Settings.load find environment options.config options.fields = .ok settings)
    (hengine : settings.engine = some path) (hfault : EngineName.load (some path) = .error .relative) :
    serve find environment options = ⟨⟨"", .error (.engineName .relative)⟩, none⟩ := by
  unfold serve
  simp only [hsettings, hengine, hfault]
  rfl

end CommandLine

namespace EngineName

variable {π ε : Type}

/-- **Bad paths of engines are reported, with one exception.**  Whatever parts a program has and whatever
names stand for in them, a path leads to the usual engine if it is empty, to an engine that is offered under
it, and to no other.  It ends in an engine or in a fault that is reported as bad settings if and only if it
does not name a part by its place behind another one, and such a path always ends in a fault that is reported
as nothing.  The command that runs the service shows a fault that is reported and fails with it; the other one
ends it in the middle. -/
theorem engine_found_or_reported_iff (program : Program π ε) (usual : ε) (path : String) :
    (∀ engine, program.load usual (some path) = .ok engine ↔
      path = "" ∧ engine = usual ∨ Offers program path engine) ∧
    (((∃ engine, program.load usual (some path) = .ok engine) ∨
        ∃ fault, program.load usual (some path) = .error fault ∧ IsReported path fault) ↔
      ¬ IsRelative path) ∧
    (IsRelative path → program.load usual (some path) = .error .relative ∧
      Fault.relative.failure? path = none) ∧
    ∀ (find : String → Settings.Entry) (environment : Settings.Environment)
      (options : CommandLine.ServeOptions) (settings : Settings),
      Settings.load find environment options.config options.fields = .ok settings →
      settings.engine = some path →
      (∀ fault, EngineName.load (some path) = .error fault → IsReported path fault →
        ∃ text, CommandLine.serve find environment options = ⟨⟨text, .ok 1⟩, none⟩ ∧
          ⟨text, .ok 1⟩ = CommandLine.refusal (fault.message path)) ∧
      (IsRelative path → CommandLine.serve find environment options =
        ⟨⟨"", .error (.engineName .relative)⟩, none⟩) := by
  refine ⟨fun engine => load_eq_ok_iff, ends_iff_not_isRelative,
    fun h => ⟨load_eq_relative_iff.mpr h, rfl⟩, ?_⟩
  intro find environment options settings hsettings hengine
  constructor
  · intro fault hfault hreported
    obtain ⟨text, htext⟩ := CommandLine.exists_refusal (fault.message path)
    refine ⟨text, ?_, htext.symm⟩
    rw [CommandLine.serve_of_isReported hsettings hengine hfault hreported, htext]
  · intro h
    exact CommandLine.serve_of_relative hsettings hengine (load_eq_relative_iff.mpr h)

/-- The kind that all engines have in common is no engine itself, and the command that runs the service
says so. -/
theorem engine_found_or_reported_iff_of_abstract :
    EngineName.load (some "migration_control.engine:ApplyEngine") = .error .abstractEngine ∧
    IsReported "migration_control.engine:ApplyEngine" .abstractEngine ∧
    ¬ IsRelative "migration_control.engine:ApplyEngine" ∧
    ∃ text, CommandLine.serve (fun _ => .nothing) []
        { engine := some "migration_control.engine:ApplyEngine" } = ⟨⟨text, .ok 1⟩, none⟩ ∧
      ⟨text, .ok 1⟩ = CommandLine.refusal
        "'migration_control.engine:ApplyEngine' is an abstract apply engine" := by
  have hload : EngineName.load (some "migration_control.engine:ApplyEngine") = .error .abstractEngine := by
    with_unfolding_all rfl
  have hreported : IsReported "migration_control.engine:ApplyEngine" .abstractEngine := rfl
  obtain ⟨_, hends, _, hserve⟩ :=
    engine_found_or_reported_iff (ofParts catalogue) .logging "migration_control.engine:ApplyEngine"
  obtain ⟨hshown, _⟩ := hserve (fun _ => .nothing) []
    { engine := some "migration_control.engine:ApplyEngine" }
    ⟨"127.0.0.1", 2242, .info, none, none, false, some "migration_control.engine:ApplyEngine"⟩
    (by decide +kernel) rfl
  obtain ⟨text, hserve, htext⟩ := hshown _ hload hreported
  have hmessage : Fault.abstractEngine.message "migration_control.engine:ApplyEngine" =
      "'migration_control.engine:ApplyEngine' is an abstract apply engine" := by
    decide +kernel
  rw [hmessage] at htext
  exact ⟨hload, hreported, hends.mp (.inr ⟨_, hload, hreported⟩), text, hserve, htext⟩

/-- A path with a point in front leads to a fault that is not reported, and the command that runs the service
ends in the middle. -/
theorem relative_engine_not_reported :
    EngineName.load (some ".plugins:Mover") = .error .relative ∧
    ¬ IsReported ".plugins:Mover" .relative ∧
    CommandLine.serve (fun _ => .nothing) [] { engine := some ".plugins:Mover" } =
      ⟨⟨"", .error (.engineName .relative)⟩, none⟩ := by
  have hload : EngineName.load (some ".plugins:Mover") = .error .relative := rfl
  have hsettings : Settings.load (fun _ => .nothing) [] none
      (CommandLine.ServeOptions.fields { engine := some ".plugins:Mover" }) =
      .ok ⟨"127.0.0.1", 2242, .info, none, none, false, some ".plugins:Mover"⟩ := by
    decide +kernel
  exact ⟨hload, fun h => isReported_iff.mp h rfl, CommandLine.serve_of_relative hsettings rfl hload⟩

end EngineName

end Cutover
