import Cutover.Client.InPlace
import Cutover.Proofs.JsonText
import Cutover.Proofs.ServiceRules
import Cutover.Proofs.TimestampText

/-!
# Messages are read back from their wire forms

A message is laid out in columns: the two names of a field and the value that the field is written as.  If
no field has a name of another, then a field is found in the members that have a value under either kind of
names, and one without a value is not found at all (`given?_written`); so each field is read as it was
written (`optionalField_written`, `requiredField_written`), and so is the message.

Main statement: `wire_forms_round_trip`.  The text of a wire form stands for it, so it also tells what
passes between a client and a service: the service is asked for what the client asks for, and the client
reads the response that the service built.
-/

namespace Cutover

open Checked

/-! ### Columns -/

/-- A name in snake case. -/
def snakeCase (name : String) : String :=
  String.ofList (name.toList.flatMap fun c => if c.isUpper then ['_', c.toLower] else [c])

/-- An object with its members renamed. -/
def Json.renamed (rename : String → String) : Json → Json
  | .obj members => .obj (members.map fun member => (rename member.1, member.2))
  | value => value

/-- The two names of a field and the value that it is written as. -/
abbrev Column := (String × String) × Json

/-- Both names of a field. -/
abbrev bothNames (names : String × String) : List String := [names.1, names.2]

/-- No name of one field is a name of the other. -/
abbrev Apart (a b : String × String) : Prop := ∀ name ∈ bothNames a, name ∉ bothNames b

/-- The names of fields: no field has a name of another, and of the two names of a field the first is in
camel case and the second is the first in snake case. -/
structure AreNames (names : List (String × String)) : Prop where
  apart : names.Pairwise Apart
  camel : ∀ name ∈ names, '_' ∉ name.1.toList
  snake : ∀ name ∈ names, snakeCase name.1 = name.2

/-- The members with a value that columns give under the names picked by `pick`. -/
def written (pick : String × String → String) (columns : List Column) : Fields :=
  Fields.given (columns.map fun column => (pick column.1, column.2))

section Given

variable {fields : Fields} {member : String × Json} {names : List String}

theorem given?_eq_none (h : ∀ name ∈ names, fields.get? name = none) : given? fields names = none := by
  induction names with
  | nil => rfl
  | cons name names ih =>
    rw [List.forall_mem_cons] at h
    rw [given?, h.1, ih h.2]

/-- A member of another name is passed over. -/
theorem given?_cons_of_not_mem (h : member.1 ∉ names) :
    given? (member :: fields) names = given? fields names := by
  induction names with
  | nil => rfl
  | cons name names ih =>
    rw [List.mem_cons, not_or] at h
    rw [given?, given?, Fields.get?_cons, if_neg h.1, ih h.2]

/-- The only member of one of the names is found. -/
theorem given?_cons_of_mem (h : ∀ name ∈ names, fields.get? name = none) (hmem : member.1 ∈ names) :
    given? (member :: fields) names = some member := by
  induction names with
  | nil => cases hmem
  | cons name names ih =>
    rw [List.forall_mem_cons] at h
    rw [given?, Fields.get?_cons]
    by_cases hname : member.1 = name
    · rw [if_pos hname, ← hname]
    · rw [if_neg hname, h.1]
      exact ih h.2 ((List.mem_cons.mp hmem).resolve_left hname)

end Given

section Columns

variable {pick : String × String → String} {column : Column} {columns : List Column}

theorem written_cons_null (h : column.2 = .null) :
    written pick (column :: columns) = written pick columns := by
  obtain ⟨name, value⟩ := column
  obtain rfl : value = .null := h
  rfl

theorem written_cons (h : column.2 ≠ .null) :
    written pick (column :: columns) = (pick column.1, column.2) :: written pick columns := by
  obtain ⟨name, value⟩ := column
  cases value <;> first | rfl | exact absurd rfl h

theorem mem_written {member : String × Json} :
    member ∈ written pick columns ↔
      ∃ column ∈ columns, (pick column.1, column.2) = member ∧ column.2 ≠ .null := by
  rw [written, Fields.mem_given, List.mem_map]
  constructor
  · rintro ⟨⟨column, hmem, rfl⟩, hvalue⟩
    exact ⟨column, hmem, rfl, hvalue⟩
  · rintro ⟨column, hmem, rfl, hvalue⟩
    exact ⟨⟨column, hmem, rfl⟩, hvalue⟩

/-- The names of a field that is apart from all columns are not found in what they give. -/
theorem get?_written_of_apart (hpick : ∀ names, pick names ∈ bothNames names)
    (h : ∀ other ∈ columns, Apart column.1 other.1) :
    ∀ name ∈ bothNames column.1, (written pick columns).get? name = none := by
  intro name hname
  rw [Fields.get?, Option.map_eq_none_iff, List.find?_eq_none]
  intro member hmem
  obtain ⟨other, hother, rfl, _⟩ := mem_written.mp hmem
  rw [decide_eq_true_eq]
  rintro rfl
  exact h other hother _ hname (hpick other.1)

/-- A field is found with its value under the name that was picked, and not at all if it has none. -/
theorem given?_written (hpick : ∀ names, pick names ∈ bothNames names)
    (hapart : (columns.map (·.1)).Pairwise Apart) (hmem : column ∈ columns) :
    (column.2 = .null → given? (written pick columns) (bothNames column.1) = none) ∧
      (column.2 ≠ .null →
        given? (written pick columns) (bothNames column.1) = some (pick column.1, column.2)) := by
  induction columns with
  | nil => cases hmem
  | cons head columns ih =>
    rw [List.map_cons, List.pairwise_cons, List.forall_mem_map] at hapart
    obtain rfl | htail := List.mem_cons.mp hmem
    · -- no other column gives a member with a name of the field
      have hrest := get?_written_of_apart hpick hapart.1
      refine ⟨fun hnull => ?_, fun hvalue => ?_⟩
      · rw [written_cons_null hnull, given?_eq_none hrest]
      · rw [written_cons hvalue, given?_cons_of_mem hrest (hpick column.1)]
    · -- the member of an earlier column has no name of the field
      have hskip : given? (written pick (head :: columns)) (bothNames column.1) =
          given? (written pick columns) (bothNames column.1) := by
        by_cases hnull : head.2 = .null
        · rw [written_cons_null hnull]
        · rw [written_cons hnull]
          exact given?_cons_of_not_mem (hapart.1 column htail _ (hpick head.1))
      rw [hskip]
      exact ih hapart.2 htail

variable {α : Type} {check : Json → Checked α} {default x : α}
variable {names : String × String} {value : Json}

/-- A field that may be left out is read as it was written. -/
theorem optionalField_written (hpick : ∀ names, pick names ∈ bothNames names)
    (hapart : (columns.map (·.1)).Pairwise Apart) (hmem : (names, value) ∈ columns)
    (hcheck : check value = .ok x) (hdefault : value ≠ .null ∨ default = x) :
    optionalField check default (written pick columns) names = .ok x := by
  obtain ⟨habsent, hgiven⟩ := given?_written hpick hapart hmem
  by_cases hnull : value = .null
  · simp only [optionalField, habsent hnull, hdefault.resolve_left (not_not_intro hnull)]
  · simp only [optionalField, hgiven hnull, hcheck, under_ok]

/-- A field that must be given is read as it was written. -/
theorem requiredField_written (hpick : ∀ names, pick names ∈ bothNames names)
    (hapart : (columns.map (·.1)).Pairwise Apart) (hmem : (names, value) ∈ columns)
    (hcheck : check value = .ok x) (hvalue : value ≠ .null) :
    requiredField check (written pick columns) names = .ok x := by
  simp only [requiredField, (given?_written hpick hapart hmem).2 hvalue, hcheck, under_ok]

/-- The names in snake case are the second names. -/
theorem renamed_written (h : AreNames (columns.map (·.1))) :
    (Json.obj (written Prod.fst columns)).renamed snakeCase = .obj (written Prod.snd columns) := by
  have hsnake := List.forall_mem_map.mp h.snake
  clear h
  rw [Json.renamed]
  congr 1
  induction columns with
  | nil => rfl
  | cons column columns ih =>
    rw [List.forall_mem_cons] at hsnake
    by_cases hnull : column.2 = .null
    · rw [written_cons_null hnull, written_cons_null hnull, ih hsnake.2]
    · rw [written_cons hnull, written_cons hnull, List.map_cons, hsnake.1, ih hsnake.2]

/-- Columns of plain values make a plain value. -/
theorem isPlain_written (h : AreNames (columns.map (·.1)))
    (hplain : ∀ column ∈ columns, column.2.IsPlain) : (Json.obj (written Prod.fst columns)).IsPlain := by
  refine .obj ?_ fun member hmem => ?_
  · have hnames : (columns.map fun column => column.1.1).Nodup := by
      refine List.pairwise_map.mpr ((List.pairwise_map.mp h.apart).imp fun hapart hsame => ?_)
      exact hapart _ List.mem_cons_self (hsame ▸ List.mem_cons_self)
    have hsub : ((written Prod.fst columns).map (·.1)).Sublist
        (columns.map fun column => column.1.1) := by
      have hfilter : ((written Prod.fst columns).map (·.1)).Sublist
          ((columns.map fun column => (column.1.1, column.2)).map (·.1)) := List.filter_sublist.map _
      rwa [List.map_map] at hfilter
    exact hsub.nodup hnames
  · obtain ⟨column, hcolumn, rfl, _⟩ := mem_written.mp hmem
    exact hplain column hcolumn

end Columns

/-! ### Wire forms -/

/-- A value is the wire form of a message: the members have values and names in camel case, the text of the
value stands for it, and the message is read from it, and from it with its members renamed. -/
structure IsWireForm {M : Type} (check : Json → Checked M) (m : M) (value : Json) : Prop where
  read : check value = .ok m
  read_renamed : check (value.renamed snakeCase) = .ok m
  read_text : Json.read? value.text = some value
  members : ∃ members, value = .obj members ∧
    ∀ member ∈ members, member.2 ≠ .null ∧ '_' ∉ member.1.toList

/-- Columns that are read as a message make a wire form of it. -/
theorem isWireForm_written {M : Type} {check : Json → Checked M} {m : M} {columns : List Column}
    (hnames : AreNames (columns.map (·.1))) (hplain : ∀ column ∈ columns, column.2.IsPlain)
    (hcheck : ∀ pick, (∀ names, pick names ∈ bothNames names) →
      check (.obj (written pick columns)) = .ok m) :
    IsWireForm check m (.obj (written Prod.fst columns)) where
  read := hcheck _ fun _ => List.mem_cons_self
  read_renamed := by
    rw [renamed_written hnames]
    exact hcheck _ fun _ => List.mem_cons_of_mem _ List.mem_cons_self
  read_text := Json.read?_text (isPlain_written hnames hplain)
  members := by
    refine ⟨_, rfl, fun member hmem => ?_⟩
    obtain ⟨column, hcolumn, rfl, hvalue⟩ := mem_written.mp hmem
    exact ⟨hvalue, hnames.camel _ (List.mem_map_of_mem hcolumn)⟩

/-! ### Values of fields -/

theorem flag_bool (b : Bool) : flag (.bool b) = .ok b := rfl

theorem optionalText_ofText? (s : Option String) : optionalText (.ofText? s) = .ok s := by
  cases s <;> rfl

theorem items_str (strings : List String) (index : Nat) :
    items text index (strings.map .str) = .ok strings := by
  induction strings generalizing index with
  | nil => rfl
  | cons s strings ih => rw [List.map_cons, items, ih]; rfl

theorem texts_ofTexts (strings : List String) : texts (.ofTexts strings) = .ok strings :=
  items_str strings 0

theorem textsOrNothing_ofTexts (strings : List String) :
    textsOrNothing (.ofTexts strings) = .ok strings :=
  items_str strings 0

theorem optionalTimestamp_wireText {time : Option Timestamp} (h : ∀ t ∈ time, t.IsWire) :
    optionalTimestamp (.ofText? (time.map (·.wireText))) = .ok time := by
  cases time with
  | none => rfl
  | some t =>
    have hread := (h t rfl).read_wireText
    simp only [Option.map_some, Json.ofText?, optionalTimestamp, timestamp, hread, timestamp.ofReading,
      map_ok]

namespace Json

theorem bool_ne_null {b : Bool} : bool b ≠ .null := nofun

theorem str_ne_null {s : String} : str s ≠ .null := nofun

theorem ofTexts_ne_null {strings : List String} : ofTexts strings ≠ .null := nofun

/-- Only a text that there is not is written as nothing. -/
theorem ofText?_ne_null_or {s : Option String} : ofText? s ≠ .null ∨ none = s := by
  cases s with
  | none => exact .inr rfl
  | some s => exact .inl str_ne_null

theorem isPlain_ofText? (s : Option String) : (ofText? s).IsPlain := by
  cases s with
  | none => exact .null
  | some s => exact .str s

theorem isPlain_ofTexts (strings : List String) : (ofTexts strings).IsPlain :=
  .arr (List.forall_mem_map.mpr fun s _ => .str s)

end Json

/-! ### Messages -/

namespace StartRequest

/-- The columns of a start. -/
def columns (m : StartRequest) : List Column :=
  [(includeNames, .ofTexts m.included), (excludeNames, .ofTexts m.excluded)]

theorem areNames : AreNames [includeNames, excludeNames] := ⟨by decide, by decide, by decide⟩

theorem isWireForm_wire (m : StartRequest) : IsWireForm check m m.wire := by
  have hnames : AreNames (m.columns.map (·.1)) := areNames
  have hplain : ∀ column ∈ m.columns, column.2.IsPlain := by
    simp [columns, Json.isPlain_ofTexts]
  refine isWireForm_written hnames hplain fun pick hpick => ?_
  have hincluded : optionalField textsOrNothing [] (written pick m.columns) includeNames =
      .ok m.included :=
    optionalField_written hpick hnames.apart (by simp [columns])
      (textsOrNothing_ofTexts m.included) (.inl Json.ofTexts_ne_null)
  have hexcluded : optionalField textsOrNothing [] (written pick m.columns) excludeNames =
      .ok m.excluded :=
    optionalField_written hpick hnames.apart (by simp [columns])
      (textsOrNothing_ofTexts m.excluded) (.inl Json.ofTexts_ne_null)
  simp only [check, model, Checked.bind, ofFields, hincluded, hexcluded, map_ok, and_ok]

end StartRequest

/-- A message with a single flag that is false unless it is given. -/
theorem isWireForm_flag {M : Type} {make : Bool → M} {names : String × String} (title : String)
    (h : AreNames [names]) (b : Bool) :
    IsWireForm
      (fun value => (model title value).bind fun fields =>
        (optionalField flag false fields names).map make)
      (make b) (.obj [(names.1, .bool b)]) := by
  let columns : List Column := [(names, .bool b)]
  have hnames : AreNames (columns.map (·.1)) := h
  have hplain : ∀ column ∈ columns, column.2.IsPlain :=
    List.forall_mem_singleton.mpr (.bool b)
  refine isWireForm_written hnames hplain fun pick hpick => ?_
  have hflag : optionalField flag false (written pick columns) names = .ok b :=
    optionalField_written hpick hnames.apart List.mem_cons_self (flag_bool b)
      (.inl Json.bool_ne_null)
  simp only [model, Checked.bind, hflag, map_ok]

theorem ResumeRequest.isWireForm_wire (m : ResumeRequest) : IsWireForm check m m.wire :=
  isWireForm_flag title ⟨by decide, by decide, by decide⟩ m.fromFailure

theorem FinalizeRequest.isWireForm_wire (m : FinalizeRequest) : IsWireForm check m m.wire :=
  isWireForm_flag title ⟨by decide, by decide, by decide⟩ m.ignoreHistoryLost

namespace CommandResponse

/-- The columns of the answer to a command. -/
def columns (m : CommandResponse) : List Column :=
  [(okNames, .bool m.ok), (errorNames, .ofText? m.error), (errorCodeNames, .ofText? m.errorCode),
    (signalErrorNames, .ofText? m.signalError), (supersededNames, .ofText? m.superseded)]

theorem areNames : AreNames [okNames, errorNames, errorCodeNames, signalErrorNames, supersededNames] :=
  ⟨by decide, by decide, by decide⟩

theorem isWireForm_wire (m : CommandResponse) : IsWireForm check m m.wire := by
  have hnames : AreNames (m.columns.map (·.1)) := areNames
  have hplain : ∀ column ∈ m.columns, column.2.IsPlain := by
    simp [columns, Json.IsPlain.bool, Json.isPlain_ofText?]
  refine isWireForm_written hnames hplain fun pick hpick => ?_
  have hok : requiredField flag (written pick m.columns) okNames = .ok m.ok :=
    requiredField_written hpick hnames.apart (by simp [columns]) (flag_bool m.ok) Json.bool_ne_null
  have htext : ∀ names s, (names, .ofText? s) ∈ m.columns →
      optionalField optionalText none (written pick m.columns) names = .ok s := fun names s hmem =>
    optionalField_written hpick hnames.apart hmem (optionalText_ofText? s) Json.ofText?_ne_null_or
  have herror := htext errorNames m.error (by simp [columns])
  have herrorCode := htext errorCodeNames m.errorCode (by simp [columns])
  have hsignalError := htext signalErrorNames m.signalError (by simp [columns])
  have hsuperseded := htext supersededNames m.superseded (by simp [columns])
  simp only [check, model, Checked.bind, hok, herror, herrorCode, hsignalError, hsuperseded, map_ok,
    and_ok]

end CommandResponse

namespace StatusResponse

/-- The columns of the answer to a status request. -/
def columns (m : StatusResponse) : List Column :=
  [(okNames, .bool m.ok), (stateNames, m.state.toJson), (errorNames, .ofText? m.error),
    (historyLostNames, .bool m.historyLost), (includeNames, .ofTexts m.included),
    (excludeNames, .ofTexts m.excluded), (updatedAtNames, .ofText? (m.updatedAt.map (·.wireText)))]

theorem areNames : AreNames [okNames, stateNames, errorNames, historyLostNames, includeNames,
    excludeNames, updatedAtNames] :=
  ⟨by decide, by decide, by decide⟩

theorem isWireForm_wire {m : StatusResponse} (h : ∀ t ∈ m.updatedAt, t.IsWire) :
    IsWireForm check m m.wire := by
  have hnames : AreNames (m.columns.map (·.1)) := areNames
  have hplain : ∀ column ∈ m.columns, column.2.IsPlain := by
    simp [columns, Json.IsPlain.bool, State.toJson, Json.IsPlain.str, Json.isPlain_ofText?,
      Json.isPlain_ofTexts]
  refine isWireForm_written hnames hplain fun pick hpick => ?_
  have hok : optionalField flag true (written pick m.columns) okNames = .ok m.ok :=
    optionalField_written hpick hnames.apart (by simp [columns]) (flag_bool m.ok)
      (.inl Json.bool_ne_null)
  have hstate : requiredField State.check (written pick m.columns) stateNames = .ok m.state :=
    requiredField_written hpick hnames.apart (by simp [columns]) m.state.check_toJson Json.str_ne_null
  have herror : optionalField optionalText none (written pick m.columns) errorNames = .ok m.error :=
    optionalField_written hpick hnames.apart (by simp [columns]) (optionalText_ofText? m.error)
      Json.ofText?_ne_null_or
  have hhistoryLost : optionalField flag false (written pick m.columns) historyLostNames =
      .ok m.historyLost :=
    optionalField_written hpick hnames.apart (by simp [columns]) (flag_bool m.historyLost)
      (.inl Json.bool_ne_null)
  have hincluded : optionalField texts [] (written pick m.columns) includeNames = .ok m.included :=
    optionalField_written hpick hnames.apart (by simp [columns]) (texts_ofTexts m.included)
      (.inl Json.ofTexts_ne_null)
  have hexcluded : optionalField texts [] (written pick m.columns) excludeNames = .ok m.excluded :=
    optionalField_written hpick hnames.apart (by simp [columns]) (texts_ofTexts m.excluded)
      (.inl Json.ofTexts_ne_null)
  have hupdatedAt : optionalField optionalTimestamp none (written pick m.columns) updatedAtNames =
      .ok m.updatedAt := by
    refine optionalField_written hpick hnames.apart (by simp [columns])
      (optionalTimestamp_wireText h) ?_
    -- what is left out is the text of the time, and there is one for every time
    obtain hgiven | habsent := @Json.ofText?_ne_null_or (m.updatedAt.map (·.wireText))
    · exact .inl hgiven
    · exact .inr (Option.map_eq_none_iff.mp habsent.symm).symm
  simp only [check, model, Checked.bind, hok, hstate, herror, hhistoryLost, hincluded, hexcluded,
    hupdatedAt, map_ok, and_ok]

end StatusResponse

/-! ### Between client and service -/

variable {members : Fields} {value payload : Json} {call : Client.Call}

/-- The text of an object begins with a brace, so it has no mark of an encoding in front. -/
theorem text_obj_toList (members : Fields) :
    ∃ cs, (Json.obj members).text.toList = '\x7b' :: cs := by
  rw [Json.text, String.toList_ofList]
  cases members with
  | nil => exact ⟨_, rfl⟩
  | cons member members => exact ⟨_, rfl⟩

theorem text_obj_ne_marked (members : Fields) (rest : List Char) :
    (Json.obj members).text.toList ≠ '\uFEFF' :: rest := by
  obtain ⟨cs, htext⟩ := text_obj_toList members
  rw [htext]
  exact nofun

namespace Service

/-- The text of a payload is announced as data, so the service reads the payload. -/
theorem content_posted (hread : Json.read? (Json.obj members).text = some (.obj members)) :
    (call.posted (.obj members)).content = .value (.obj members) := by
  have hsome : (Json.obj members).text ≠ "" := by
    intro hempty
    obtain ⟨cs, htext⟩ := text_obj_toList members
    rw [hempty] at htext
    cases htext
  have hdata : Request.isData "application/json" = true := by cbv
  simp only [Request.content, Client.Call.posted, if_neg hsome, Option.getD_some, hdata, Bool.not_true,
    Bool.false_eq_true, if_false]
  split
  next heq =>
    split at heq
    next rest hmark => exact absurd hmark (text_obj_ne_marked members rest)
    next => rw [hread] at heq; cases heq; rfl
  next heq =>
    split at heq
    next rest hmark => exact absurd hmark (text_obj_ne_marked members rest)
    next => rw [hread] at heq; cases heq

/-- The service receives the message that was sent. -/
theorem payload_posted {M : Type} {title : String} {read : Fields → Checked M} {m : M}
    (h : IsWireForm (fun value => (model title value).bind read) m value) (default : M) :
    (call.posted value).payload read default = .ok m := by
  obtain ⟨members, rfl, _⟩ := h.members
  have hm : read members = .ok m := h.read
  simp only [Request.payload, content_posted h.read_text, hm, under_ok]

/-- The response that the service builds to a demand for the migration. -/
def built? (r : Rehearsal) (now : Timestamp) : Demand → Option Client.Response
  | .status =>
    match StatusResponse.ofSnapshot r.plane.snapshot with
    | .ok response => some (.status response)
    | .faulty _ => none
  | .command command => (perform r now command).2.map .command
  | _ => none

/-- The reply to a demand for the migration tells the response that was built. -/
theorem meet_of_built {r : Rehearsal} {now : Timestamp} {demand : Demand} {response : Client.Response}
    (h : built? r now demand = some response) : (meet r now demand).2 = .ok response.wire := by
  cases demand with
  | status =>
    rw [built?] at h
    rw [meet, statusReply]
    cases hstatus : StatusResponse.ofSnapshot r.plane.snapshot with
    | ok m => rw [hstatus] at h; cases h; rfl
    | faulty faults => rw [hstatus] at h; cases h
  | command command =>
    rw [built?, Option.map_eq_some_iff] at h
    obtain ⟨m, hm, rfl⟩ := h
    rw [meet]
    cases hperform : perform r now command with
    | mk t response =>
      rw [hperform] at hm
      obtain rfl : response = some m := hm
      rfl
  | health | faulty | wrongMethod | redirect | nowhere => cases h

end Service

namespace Client

/-- A response that has a wire form: its time, if any, is of universal time in the years 1 to 9999. -/
def Response.IsWire : Response → Prop
  | .command _ => True
  | .status response => ∀ t ∈ response.updatedAt, t.IsWire

/-- A response is of the kind with which a call is answered. -/
def Response.IsFor (call : Call) : Response → Prop
  | .command _ => call ≠ .status
  | .status _ => call = .status

namespace Call

/-- The endpoint that a call is sent to. -/
def endpoint : Call → Service.Endpoint
  | .start .. => .start
  | .status => .status
  | .pause => .pause
  | .resume _ => .resume
  | .finalize _ => .finalize

/-- What a call asks of the service, if its arguments make a request. -/
def asked : Call → Checked Service.Demand
  | .start included excluded =>
    (StartRequest.ofFields
      [(includeNames.2, orEmpty included), (excludeNames.2, orEmpty excluded)]).map fun m =>
        .command (.start (m.included.map .str) (m.excluded.map .str))
  | .status => .ok .status
  | .pause => .ok (.command .pause)
  | .resume fromFailure =>
    (ResumeRequest.ofFields [(ResumeRequest.names.2, fromFailure)]).map fun m =>
      .command (.resume m.fromFailure)
  | .finalize ignoreHistoryLost =>
    (FinalizeRequest.ofFields [(FinalizeRequest.names.2, ignoreHistoryLost)]).map fun m =>
      .command (.finalize m.ignoreHistoryLost)

theorem route_posted (call : Call) (payload : Json) :
    (call.posted payload).route = .endpoint call.endpoint := by
  have hpath : call.path = call.endpoint.path := by cases call <;> rfl
  have hmethod : "POST" ∈ call.endpoint.methods := by
    cases call <;> simp [endpoint, Service.Endpoint.methods]
  rw [posted, hpath]
  exact Service.route_of_path hmethod _ _

theorem sent_eq_ok_iff : call.sent = .ok payload ↔ call.request.2 = .ok payload := by
  rw [sent]
  obtain ⟨title, checked⟩ := call.request
  cases checked <;> simp

/-- The service is asked for what the call asks for. -/
theorem demand_posted (h : call.sent = .ok payload) :
    ∃ demand, call.asked = .ok demand ∧ (call.posted payload).demand = demand := by
  rw [sent_eq_ok_iff] at h
  simp only [Service.Request.demand, route_posted]
  cases call with
  | start | resume | finalize =>
    obtain ⟨m, hm, rfl⟩ := map_eq_ok_iff.mp h
    refine ⟨_, by rw [asked, hm, map_ok], ?_⟩
    rw [endpoint, Service.Request.demandAt, Service.payload_posted m.isWireForm_wire]
    rfl
  | status | pause =>
    cases h
    -- a call without arguments sends an object without members
    have hread : Json.read? (Json.obj []).text = some (.obj []) :=
      Json.read?_text (.obj List.nodup_nil (List.forall_mem_nil _))
    refine ⟨_, rfl, ?_⟩
    rw [endpoint, Service.Request.demandAt, Service.Request.payload, Service.content_posted hread]
    rfl

/-- A wire form is read from a body that is its text. -/
theorem readBody?_text {M : Type} {check : Json → Checked M} {m : M} (h : IsWireForm check m value) :
    readBody? value.text = some value := by
  obtain ⟨members, rfl, _⟩ := h.members
  rw [readBody?]
  split
  next rest heq => exact absurd heq (text_obj_ne_marked members rest)
  next => exact h.read_text

/-- The response is read from a reply that tells its wire form. -/
theorem receive_wire {response : Response} (hwire : response.IsWire) (hfor : response.IsFor call)
    (address : Address) : call.receive address (.replied 200 response.wire.text) = .ok response := by
  have hcheck : (call.check response.wire).2 = .ok response ∧
      readBody? response.wire.text = some response.wire := by
    cases response with
    | command m =>
      have hform := m.isWireForm_wire
      refine ⟨?_, readBody?_text hform⟩
      cases call with
      | status => exact absurd rfl hfor
      | start | pause | resume | finalize => simp only [check, Response.wire, hform.read, map_ok]
    | status m =>
      have hform := StatusResponse.isWireForm_wire hwire
      obtain rfl : call = .status := hfor
      refine ⟨?_, readBody?_text hform⟩
      rw [check, Response.wire, hform.read, map_ok]
  cases hcall : call.check response.wire with
  | mk title checked =>
    rw [hcall] at hcheck
    obtain ⟨rfl, hbody⟩ := hcheck
    simp [receive, hbody, hcall]

/-- The response that is built to what a call asks for is of its kind. -/
theorem isFor_of_built {r : Rehearsal} {now : Timestamp} {demand : Service.Demand} {response : Response}
    (hasked : call.asked = .ok demand) (hbuilt : Service.built? r now demand = some response) :
    response.IsFor call := by
  cases call with
  | status =>
    cases hasked
    rw [Service.built?] at hbuilt
    split at hbuilt
    · cases hbuilt
      rfl
    · cases hbuilt
  | start | resume | finalize =>
    obtain ⟨_, _, rfl⟩ := map_eq_ok_iff.mp hasked
    obtain ⟨_, _, rfl⟩ := Option.map_eq_some_iff.mp hbuilt
    exact nofun
  | pause =>
    cases hasked
    obtain ⟨_, _, rfl⟩ := Option.map_eq_some_iff.mp hbuilt
    exact nofun

/-- The client reads the response that the service built. -/
theorem receive_deliverInPlace {r : Rehearsal} {now : Timestamp} {demand : Service.Demand}
    {response : Response} (hasked : call.asked = .ok demand)
    (hdemand : (call.posted payload).demand = demand)
    (hbuilt : Service.built? r now demand = some response) (hwire : response.IsWire)
    (address : Address) :
    call.receive address (call.deliverInPlace now r payload).2 = .ok response := by
  have hreply : (Service.answer r now (call.posted payload)).2 = .ok response.wire := by
    rw [Service.answer_of_route (route_posted call payload), ← Service.meet_of_built hbuilt, ← hdemand,
      Service.Request.demand, route_posted]
  have hdelivery : (call.deliverInPlace now r payload).2 = .replied 200 response.wire.text := by
    simp only [deliverInPlace, hreply]
    rfl
  rw [hdelivery]
  exact receive_wire hwire (isFor_of_built hasked hbuilt) address

end Call
end Client

/-- **Wire forms are read back.**  Every request and every response is read from its wire form, and from
the wire form with its members named in snake case; a time, if there is one, is of universal time in the
years 1 to 9999.  So a request that is sent makes the service do what the client asked for, and the client
reads the response that the service built. -/
theorem wire_forms_round_trip :
    (∀ m : StartRequest, IsWireForm StartRequest.check m m.wire) ∧
    (∀ m : ResumeRequest, IsWireForm ResumeRequest.check m m.wire) ∧
    (∀ m : FinalizeRequest, IsWireForm FinalizeRequest.check m m.wire) ∧
    (∀ m : CommandResponse, IsWireForm CommandResponse.check m m.wire) ∧
    (∀ m : StatusResponse, (∀ t ∈ m.updatedAt, t.IsWire) → IsWireForm StatusResponse.check m m.wire) ∧
    ∀ (call : Client.Call) (payload : Json), call.sent = .ok payload →
      ∃ demand, call.asked = .ok demand ∧ (call.posted payload).demand = demand ∧
        ∀ r now address response, Service.built? r now demand = some response → response.IsWire →
          call.receive address (call.deliverInPlace now r payload).2 = .ok response := by
  refine ⟨StartRequest.isWireForm_wire, ResumeRequest.isWireForm_wire, FinalizeRequest.isWireForm_wire,
    CommandResponse.isWireForm_wire, fun m => StatusResponse.isWireForm_wire, ?_⟩
  intro call payload hsent
  obtain ⟨demand, hasked, hdemand⟩ := Client.Call.demand_posted hsent
  refine ⟨demand, hasked, hdemand, fun r now address response hbuilt hwire => ?_⟩
  exact Client.Call.receive_deliverInPlace hasked hdemand hbuilt hwire address

/-- The status of a migration that has been running for a fraction of a second is read from its members in
snake case, and a resume after a failure is asked for as such. -/
theorem wire_forms_round_trip_of_running :
    (Timestamp.universal 1704067200123456).IsWire ∧
      StatusResponse.check (.obj [("ok", .bool true), ("state", .str "running"),
          ("history_lost", .bool false), ("include_namespaces", .arr [.str "shop.*"]),
          ("exclude_namespaces", .arr []), ("updated_at", .str "2024-01-01T00:00:00.123456Z")]) =
        .ok { state := .running, included := ["shop.*"]
              updatedAt := some (.universal 1704067200123456) } ∧
      (Client.Call.resume (.str "yes")).sent = .ok (.obj [("fromFailure", .bool true)]) ∧
      ((Client.Call.resume (.str "yes")).posted (.obj [("fromFailure", .bool true)])).demand =
        .command (.resume true) := by
  obtain ⟨_, _, _, _, hstatus, hcalls⟩ := wire_forms_round_trip
  have hwire : (Timestamp.universal 1704067200123456).IsWire := ⟨rfl, by decide⟩
  have hform := hstatus
    { state := .running, included := ["shop.*"], updatedAt := some (.universal 1704067200123456) }
    (by rintro _ ⟨⟩; exact hwire)
  have hrenamed : ((StatusResponse.wire { state := .running, included := ["shop.*"]
                                          updatedAt := some (.universal 1704067200123456) }).renamed
        snakeCase) =
      .obj [("ok", .bool true), ("state", .str "running"), ("history_lost", .bool false),
        ("include_namespaces", .arr [.str "shop.*"]), ("exclude_namespaces", .arr []),
        ("updated_at", .str "2024-01-01T00:00:00.123456Z")] := by cbv
  have hsent : (Client.Call.resume (.str "yes")).sent = .ok (.obj [("fromFailure", .bool true)]) := by
    cbv
  obtain ⟨demand, hasked, hdemand, _⟩ := hcalls _ _ hsent
  have hsame : (Client.Call.resume (.str "yes")).asked = .ok (.command (.resume true)) := by cbv
  obtain rfl : Service.Demand.command (.resume true) = demand := Checked.ok.inj (hsame.symm.trans hasked)
  exact ⟨hwire, hrenamed ▸ hform.read_renamed, hsent, hdemand⟩

end Cutover
