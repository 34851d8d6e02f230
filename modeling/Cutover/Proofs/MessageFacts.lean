import Cutover.Log.Setup
import Cutover.Proofs.FloatText
import Mathlib.Data.List.Nodup

/-!
# The facts of a message

A message that is written without an entry of its own is written with what is known of it: its level, its
text, the place it comes from and what the failure that came with it says.  A caller may give it attributes
beside its own, under all names but the reserved ones, and they stand in the same object as the facts.  Main
statement: `Log.Message.facts_in_place_iff`, which tells for every name what stands under it, and exactly
which attributes put a fact out of its place: those named `logger`, `function` or `line`, which prevail over
the fact, and one named `exception` where no failure came with the message.

The attributes are put after the place and before the failure, so of the facts only the failure prevails over
an attribute (`Log.Message.get?_metadata`).  The module is safe because its name is reserved: it is the only
fact that the entry names as the message does.
-/

namespace Cutover

/-! ### Members that are set -/

namespace Fields

variable {fields changes : Fields} {name : String} {value : Json}

/-- Setting a member keeps the names, or adds a new one behind them. -/
theorem names_set (fields : Fields) (name : String) (value : Json) :
    (fields.set name value).map (·.1) =
      if name ∈ fields.map (·.1) then fields.map (·.1) else fields.map (·.1) ++ [name] := by
  induction fields with
  | nil => rfl
  | cons field fields ih =>
    rw [set]
    by_cases hfield : field.1 = name
    · simp [hfield]
    · rw [if_neg hfield, List.map_cons, ih, List.map_cons]
      by_cases hmem : name ∈ fields.map (·.1)
      · rw [if_pos hmem, if_pos (List.mem_cons_of_mem _ hmem)]
      · have hnew : name ∉ field.1 :: fields.map (·.1) := by
          rw [List.mem_cons, not_or]
          exact ⟨Ne.symm hfield, hmem⟩
        rw [if_neg hmem, if_neg hnew, List.cons_append]

theorem nodup_set (h : (fields.map (·.1)).Nodup) (name : String) (value : Json) :
    ((fields.set name value).map (·.1)).Nodup := by
  rw [names_set]
  split
  · exact h
  next hnew =>
    rw [List.nodup_append_comm, List.singleton_append, List.nodup_cons]
    exact ⟨hnew, h⟩

theorem nodup_update (h : (fields.map (·.1)).Nodup) (changes : Fields) :
    ((fields.update changes).map (·.1)).Nodup := by
  induction changes generalizing fields with
  | nil => exact h
  | cons change changes ih => exact ih (nodup_set h change.1 change.2)

/-- What holds of the old members and of the value that is set holds of the new members. -/
theorem forall_mem_set {p : Json → Prop} (h : ∀ field ∈ fields, p field.2) (name : String) (hvalue : p value) :
    ∀ field ∈ fields.set name value, p field.2 := by
  induction fields with
  | nil => exact List.forall_mem_singleton.mpr hvalue
  | cons field fields ih =>
    obtain ⟨hfield, hfields⟩ := List.forall_mem_cons.mp h
    rw [set]
    split
    · exact List.forall_mem_cons.mpr ⟨hvalue, hfields⟩
    · exact List.forall_mem_cons.mpr ⟨hfield, ih hfields⟩

theorem forall_mem_update {p : Json → Prop} (h : ∀ field ∈ fields, p field.2)
    (hchanges : ∀ change ∈ changes, p change.2) : ∀ field ∈ fields.update changes, p field.2 := by
  induction changes generalizing fields with
  | nil => exact h
  | cons change changes ih =>
    obtain ⟨hchange, hchanges⟩ := List.forall_mem_cons.mp hchanges
    exact ih (forall_mem_set h change.1 hchange) hchanges

theorem get?_eq_none (h : name ∉ fields.map (·.1)) : fields.get? name = none := by
  have hfind : fields.find? (·.1 = name) = none := by
    rw [List.find?_eq_none]
    intro field hfield heq
    exact h (decide_eq_true_eq.mp heq ▸ List.mem_map_of_mem hfield)
  rw [get?, hfind]
  rfl

/-- Where every name is given once, the last value given to it is the only one. -/
theorem last?_of_nodup (h : (fields.map (·.1)).Nodup) (name : String) :
    fields.last? name = fields.get? name := by
  induction fields with
  | nil => rfl
  | cons field fields ih =>
    rw [List.map_cons, List.nodup_cons] at h
    rw [last?, List.reverse_cons, get?_append, ← last?, ih h.2, get?_cons, get?_cons, get?_nil]
    split
    next heq => rw [get?_eq_none (heq ▸ h.1), Option.none_or]
    next => rw [Option.or_none]

/-- Members of another name may be left out. -/
theorem get?_filter_ne {other : String} (hne : name ≠ other) (fields : Fields) :
    Fields.get? (fields.filter (·.1 ≠ other)) name = fields.get? name := by
  induction fields with
  | nil => rfl
  | cons field fields ih =>
    by_cases hother : field.1 = other
    · have hname : field.1 ≠ name := fun heq => hne (heq.symm.trans hother)
      rw [List.filter_cons_of_neg (by simp [hother]), ih, get?_cons, if_neg hname]
    · rw [List.filter_cons_of_pos (by simp [hother]), get?_cons, get?_cons, ih]

end Fields

namespace Log.Message

variable {record : Message} {level : Level} {t : Timestamp} {s : String} {attributes : Fields}
  {given : String × Json} {name : String}

/-! ### Attributes of a caller -/

/-- A message with attributes, given one after the other. -/
def withAttributes (message : Message) (attributes : Fields) : Message :=
  attributes.foldl withAttribute message

/-- Attributes that a caller may give a message: each once, and none by a reserved name. -/
structure AreOffered (attributes : Fields) : Prop where
  nodup : (attributes.map (·.1)).Nodup
  free : ∀ given ∈ attributes, given.1 ∉ reservedNames

/-- An attribute that is not reserved is kept beside the message's own. -/
theorem withAttribute_of_free (hfree : given.1 ∉ reservedNames) (hentry : given.1 ≠ "log_entry")
    (message : Message) :
    message.withAttribute given = { message with extras := message.extras.set given.1 given.2 } := by
  obtain ⟨name, value⟩ := given
  have hown : name ∉ ownNames := by
    intro hmem
    exact hfree (List.mem_cons_of_mem _ (List.mem_filter.mpr ⟨hmem, decide_eq_true hentry⟩))
  unfold withAttribute
  dsimp only
  split
  -- the message's own attributes are reserved
  iterate 10 exact absurd (by decide) hown
  rw [if_neg (by simpa using hown)]

/-- Offered attributes are kept beside the message's own, all but the one that could be an entry. -/
theorem withAttributes_of_free (hfree : ∀ given ∈ attributes, given.1 ∉ reservedNames)
    (hbare : record.entry = none) :
    record.withAttributes attributes =
      { record with extras := record.extras.update (attributes.filter (·.1 ≠ "log_entry")) } := by
  induction attributes generalizing record with
  | nil => rfl
  | cons given attributes ih =>
    obtain ⟨hgiven, hrest⟩ := List.forall_mem_cons.mp hfree
    rw [withAttributes, List.foldl_cons, ← withAttributes]
    by_cases hentry : given.1 = "log_entry"
    · have hsame : record.withAttribute given = record := by
        obtain ⟨name, value⟩ := given
        obtain rfl : name = "log_entry" := hentry
        calc record.withAttribute ("log_entry", value) = { record with entry := none } := rfl
          _ = record := by rw [← hbare]
      rw [hsame, ih hrest hbare, List.filter_cons_of_neg (by simp [hentry])]
    · rw [withAttribute_of_free hgiven hentry, ih hrest (by exact hbare),
        List.filter_cons_of_pos (by simp [hentry])]
      rfl

/-! ### The entry of a message -/

/-- The place that a message comes from, under the names that its entry has for it. -/
def location (message : Message) : Fields :=
  [("logger", message.logger), ("module", message.sourceModule), ("function", message.function),
    ("line", message.line)]

/-- The metadata of a message: its place, the attributes that were given to it, and at last what the failure
that came with it says. -/
def metadata (message : Message) : Fields :=
  match message.exception with
  | some shown => (message.location.update message.extras).set "exception" (.str shown)
  | none => message.location.update message.extras

/-- A message of a level that comes with a time and a text, without an entry of its own, and with a failure
only if that can be shown. -/
structure Tells (message : Message) (level : Level) (t : Timestamp) (s : String) : Prop where
  level : message.level = .str level.name
  time : timeOf message.created = .ok t
  text : message.text = .ok s
  entry : message.entry = none
  shown : message.exceptionBroken = false

theorem Tells.toEntry_eq (h : record.Tells level t s) :
    record.toEntry =
      .ok { timestamp := t, level, message := .str s, metadata := .obj record.metadata } := by
  have hlevel : Entry.readLevel record.level = .ok level := by
    rw [h.level, Entry.readLevel, Level.ofName?_name]
  rw [toEntry, h.entry]
  simp only [h.time, hlevel, h.text, h.shown]
  rfl

/-- What stands under a name: the failure comes before an attribute, and an attribute before the place. -/
theorem get?_metadata (message : Message) (name : String) :
    message.metadata.get? name =
      ((if name = "exception" then message.exception.map Json.str else none).or
        (message.extras.last? name)).or (message.location.get? name) := by
  rw [metadata, Option.or_assoc]
  cases message.exception with
  | none => rw [Fields.get?_update, Option.map_none, ite_self, Option.none_or]
  | some shown =>
    rw [Fields.get?_set, Fields.get?_update, Option.map_some]
    by_cases hname : name = "exception"
    · rw [if_pos hname, if_pos hname.symm, Option.some_or]
    · rw [if_neg hname, if_neg (Ne.symm hname), Option.none_or]

/-- The members of the metadata have names of their own. -/
theorem nodup_metadata (message : Message) : (message.metadata.map (·.1)).Nodup := by
  have hplace : (message.location.map (·.1)).Nodup := by
    have hnames : message.location.map (·.1) = ["logger", "module", "function", "line"] := rfl
    rw [hnames]
    decide
  have hfacts := Fields.nodup_update hplace message.extras
  rw [metadata]
  split
  · exact Fields.nodup_set hfacts _ _
  · exact hfacts

/-- The attributes that are offered to a message without others, as they are found afterwards. -/
theorem AreOffered.last?_extras (h : AreOffered attributes) (hentry : record.entry = none)
    (hextras : record.extras = []) (name : String) :
    (record.withAttributes attributes).extras.last? name =
      if name = "log_entry" then none else attributes.get? name := by
  have hnodup : ((attributes.filter (·.1 ≠ "log_entry")).map (·.1)).Nodup :=
    h.nodup.sublist (List.filter_sublist.map _)
  have hextras : (record.withAttributes attributes).extras = attributes.filter (·.1 ≠ "log_entry") := by
    rw [withAttributes_of_free h.free hentry, hextras]
    exact Fields.update_eq_append hnodup
  rw [hextras, Fields.last?_of_nodup hnodup]
  split
  next hname =>
    apply Fields.get?_eq_none
    rw [hname]
    simp
  next hname => exact Fields.get?_filter_ne hname attributes

/-! ### Facts in their places -/

/-- The names under which the metadata of an entry hold the facts of its message. -/
def factNames : List String := ["logger", "module", "function", "line", "exception"]

/-- Metadata that hold the place of a message, and what its failure says exactly if one came with it. -/
structure HoldFacts (metadata : Fields) (message : Message) : Prop where
  location : ∀ fact ∈ message.location, metadata.get? fact.1 = some fact.2
  exception : metadata.get? "exception" = message.exception.map Json.str

/-- Attributes that leave the facts of a message in their places: none tells another place, and none tells
of a failure where there was none. -/
structure LeaveFacts (attributes : Fields) (message : Message) : Prop where
  location : ∀ fact ∈ message.location, ∀ value, attributes.get? fact.1 = some value → value = fact.2
  exception : message.exception = none → attributes.get? "exception" = none

/-- What stands in the metadata once attributes were offered. -/
theorem AreOffered.get?_metadata (h : AreOffered attributes) (hentry : record.entry = none)
    (hextras : record.extras = []) (hname : name ≠ "log_entry") :
    (record.withAttributes attributes).metadata.get? name =
      ((if name = "exception" then record.exception.map Json.str else none).or
        (attributes.get? name)).or (record.location.get? name) := by
  rw [Message.get?_metadata, h.last?_extras hentry hextras, if_neg hname,
    withAttributes_of_free h.free hentry]
  rfl

/-- The place of a message is told by an attribute of its name if there is one. -/
theorem AreOffered.get?_location (h : AreOffered attributes) (hentry : record.entry = none)
    (hextras : record.extras = []) {fact : String × Json} (hfact : fact ∈ record.location) :
    (record.withAttributes attributes).metadata.get? fact.1 =
      some ((attributes.get? fact.1).getD fact.2) := by
  have hplace : record.location.get? fact.1 = some fact.2 ∧ fact.1 ≠ "exception" ∧ fact.1 ≠ "log_entry" := by
    simp only [location, List.mem_cons, List.not_mem_nil, or_false] at hfact
    rcases hfact with rfl | rfl | rfl | rfl <;> exact ⟨rfl, by simp, by simp⟩
  obtain ⟨hplace, hexception, hlog⟩ := hplace
  rw [h.get?_metadata hentry hextras hlog, if_neg hexception, hplace, Option.none_or]
  cases attributes.get? fact.1 <;> rfl

theorem AreOffered.get?_exception (h : AreOffered attributes) (hentry : record.entry = none)
    (hextras : record.extras = []) :
    (record.withAttributes attributes).metadata.get? "exception" =
      (record.exception.map Json.str).or (attributes.get? "exception") := by
  rw [h.get?_metadata hentry hextras (by decide), if_pos rfl]
  exact Option.or_none

/-- The facts of a message are in their places exactly if the attributes leave them there. -/
theorem AreOffered.holdFacts_iff (h : AreOffered attributes) (hentry : record.entry = none)
    (hextras : record.extras = []) :
    HoldFacts (record.withAttributes attributes).metadata record ↔ LeaveFacts attributes record := by
  have hexception := h.get?_exception hentry hextras
  constructor
  · intro hold
    refine ⟨fun fact hfact value hvalue => ?_, fun hnone => ?_⟩
    · have hplace := hold.location fact hfact
      rw [h.get?_location hentry hextras hfact, hvalue] at hplace
      exact Option.some.inj hplace
    · rw [hold.exception, hnone, Option.map_none, Option.none_or] at hexception
      exact hexception.symm
  · intro hleave
    refine ⟨fun fact hfact => ?_, ?_⟩
    · rw [h.get?_location hentry hextras hfact]
      cases hvalue : attributes.get? fact.1 with
      | none => rfl
      | some value => exact congrArg some (hleave.location fact hfact value hvalue)
    · rw [hexception]
      cases hshown : record.exception with
      | none => exact hleave.exception hshown
      | some shown => rfl

/-- An attribute with a name of its own stands under its name, and nothing else does. -/
theorem AreOffered.get?_other (h : AreOffered attributes) (hentry : record.entry = none)
    (hextras : record.extras = []) (hfact : name ∉ factNames) (hown : name ∉ ownNames) :
    (record.withAttributes attributes).metadata.get? name = attributes.get? name := by
  have hlog : name ≠ "log_entry" := fun heq => hown (heq ▸ by decide)
  have hexception : name ≠ "exception" := fun heq => hfact (heq ▸ by decide)
  have hplace : record.location.get? name = none :=
    Fields.get?_eq_none fun hmem => hfact (List.mem_append_left ["exception"] hmem)
  rw [h.get?_metadata hentry hextras hlog, if_neg hexception, hplace, Option.none_or, Option.or_none]

/-! ### What is written -/

/-- Metadata are sound if the place and the attributes are. -/
theorem isSound_metadata {message : Message} (hplace : ∀ fact ∈ message.location, fact.2.IsSound)
    (hextras : ∀ given ∈ message.extras, given.2.IsSound) : (Json.obj message.metadata).IsSound := by
  have hfacts := Fields.forall_mem_update hplace hextras
  refine .obj message.nodup_metadata ?_
  rw [metadata]
  split
  · exact Fields.forall_mem_set hfacts _ (.str _)
  · exact hfacts

theorem isSound_entry (level : Level) (t : Timestamp) (s : String) {metadata : Fields}
    (h : (Json.obj metadata).IsSound) :
    (Entry.toJson { timestamp := t, level, message := .str s, metadata := .obj metadata }).IsSound := by
  refine .obj (by simp [Entry.contents]) ?_
  simp only [Entry.contents, List.forall_mem_cons]
  exact ⟨.str _, .str _, .str _, .str _, .null, .null, .null, h, List.forall_mem_nil _⟩

theorem Tells.withAttributes (h : record.Tells level t s) (hoffered : AreOffered attributes) :
    (record.withAttributes attributes).Tells level t s := by
  rw [withAttributes_of_free hoffered.free h.entry]
  exact ⟨h.level, h.time, h.text, h.entry, h.shown⟩

/-- The metadata of a message with offered attributes are sound if nothing else is given to it. -/
theorem Tells.isSound_withAttributes (h : record.Tells level t s) (hextras : record.extras = [])
    (hoffered : AreOffered attributes) (hsound : ∀ fact ∈ record.location ++ attributes, fact.2.IsSound) :
    (Json.obj (record.withAttributes attributes).metadata).IsSound := by
  obtain ⟨hplace, hgiven⟩ := List.forall_mem_append.mp hsound
  apply isSound_metadata
  · rwa [withAttributes_of_free hoffered.free h.entry]
  · rw [withAttributes_of_free hoffered.free h.entry, hextras]
    exact Fields.forall_mem_update (List.forall_mem_nil _)
      fun given hmem => hgiven given (List.mem_of_mem_filter hmem)

/-- **Facts are in their places.**  A message without an entry of its own, of any level, with or without a
failure, and with any attributes that a caller may give it is written as one line, from which the value that
it holds is read.  The value has the level and the text of the message.  Under metadata an attribute with a
name of its own stands with its value, and under no such name stands anything else; the logger, the function
and the line are those of the message unless an attribute tells another one, and the module is that of the
message always; the exception is what the failure says if one came with the message, and an attribute of that
name otherwise.  So the facts are in their places exactly if no attribute tells another place, and none tells
of an exception where there was no failure. -/
theorem facts_in_place_iff (hrecord : record.Tells level t s) (hextras : record.extras = [])
    (hoffered : AreOffered attributes) :
    ∃ (value : Json) (metadata : Fields),
      (record.withAttributes attributes).structuredLine = .ok value.text ∧
      ((∀ fact ∈ record.location ++ attributes, fact.2.IsSound) → Json.read? value.text = some value) ∧
      value.get? "level" = some (.str level.name) ∧ value.get? "message" = some (.str s) ∧
      value.get? "metadata" = some (.obj metadata) ∧
      (∀ name, name ∉ factNames → name ∉ ownNames → metadata.get? name = attributes.get? name) ∧
      (∀ fact ∈ record.location, metadata.get? fact.1 = some ((attributes.get? fact.1).getD fact.2)) ∧
      metadata.get? "module" = some record.sourceModule ∧
      metadata.get? "exception" = (record.exception.map Json.str).or (attributes.get? "exception") ∧
      (HoldFacts metadata record ↔ LeaveFacts attributes record) := by
  let entry : Entry :=
    { timestamp := t, level, message := .str s,
      metadata := .obj (record.withAttributes attributes).metadata }
  have hentry : (record.withAttributes attributes).toEntry = .ok entry :=
    (hrecord.withAttributes hoffered).toEntry_eq
  have hmodule : attributes.get? "module" = none := by
    apply Fields.get?_eq_none
    intro hmem
    obtain ⟨given, hgiven, hname⟩ := List.mem_map.mp hmem
    exact hoffered.free given hgiven (hname ▸ by decide)
  refine ⟨entry.toJson, (record.withAttributes attributes).metadata, ?_, fun hsound => ?_, rfl, rfl, rfl,
    fun name => hoffered.get?_other hrecord.entry hextras,
    fun fact => hoffered.get?_location hrecord.entry hextras, ?_,
    hoffered.get?_exception hrecord.entry hextras, hoffered.holdFacts_iff hrecord.entry hextras⟩
  · rw [structuredLine, hentry]
    rfl
  · have hmetadata := hrecord.isSound_withAttributes hextras hoffered hsound
    exact (isSound_entry level t s hmetadata).read?_text
  · have hplace : ("module", record.sourceModule) ∈ record.location := by simp [location]
    rw [hoffered.get?_location hrecord.entry hextras hplace, hmodule]
    rfl

/-- A message from the place where changes of state are committed. -/
def committedMessage : Message where
  logger := .str "migration_control.lifecycle"
  level := .str "INFO"
  template := .str "state changed"
  created := .int 1700000000
  sourceModule := .str "controller"
  function := .str "_commit"
  line := .int 157

/-- Attributes that repeat a place, one that tells of another failure than the one that came with the
message, and a time of a tenth of a second leave the facts in their places. -/
theorem facts_in_place_iff_of_repeated :
    ∃ (record : Message) (attributes : Fields) (value : Json) (metadata : Fields),
      record = { committedMessage with exception := some "RuntimeError: boom" } ∧
        attributes =
          [("line", .int 157), ("seconds", .float (.finite false 7205759403792794 (-56))),
            ("exception", .str "none")] ∧
        record.Tells .info ⟨1700000000000000, none⟩ "state changed" ∧ AreOffered attributes ∧
        (record.withAttributes attributes).structuredLine = .ok value.text ∧
        Json.read? value.text = some value ∧ value.get? "metadata" = some (.obj metadata) ∧
        HoldFacts metadata record ∧
        metadata.get? "seconds" = some (.float (.finite false 7205759403792794 (-56))) ∧
        metadata.get? "exception" = some (.str "RuntimeError: boom") := by
  let record : Message := { committedMessage with exception := some "RuntimeError: boom" }
  let attributes : Fields :=
    [("line", .int 157), ("seconds", .float (.finite false 7205759403792794 (-56))), ("exception", .str "none")]
  have htells : record.Tells .info ⟨1700000000000000, none⟩ "state changed" :=
    ⟨rfl, rfl, rfl, rfl, rfl⟩
  have hoffered : AreOffered attributes := ⟨by decide, by decide⟩
  have hleave : LeaveFacts attributes record := by
    refine ⟨?_, nofun⟩
    simp only [location, List.forall_mem_cons]
    exact ⟨nofun, nofun, nofun, fun value hvalue => (Option.some.inj hvalue).symm, List.forall_mem_nil _⟩
  have hsound : ∀ fact ∈ record.location ++ attributes, fact.2.IsSound := by
    have hseconds : Binary64.IsNormal 7205759403792794 (-56) :=
      ⟨by decide, by decide, by decide, by decide, .inr (by decide)⟩
    simp only [location, attributes, List.cons_append, List.nil_append, List.forall_mem_cons]
    exact ⟨.str _, .str _, .str _, .int _, .int _, .float (.finite false hseconds), .str _,
      List.forall_mem_nil _⟩
  obtain ⟨value, metadata, hline, hread, _, _, hmetadata, hother, _, _, hexception, hfacts⟩ :=
    facts_in_place_iff htells rfl hoffered
  exact ⟨record, attributes, value, metadata, rfl, rfl, htells, hoffered, hline, hread hsound, hmetadata,
    hfacts.mpr hleave, hother "seconds" (by decide) (by decide), hexception⟩

/-- An attribute named as a fact takes the place of the line that the message comes from, and another one
tells of a failure that never was. -/
theorem place_told_by_attribute :
    committedMessage.Tells .info ⟨1700000000000000, none⟩ "state changed" ∧
      AreOffered [("line", .int 7), ("exception", .str "none")] ∧
      committedMessage.line = .int 157 ∧ committedMessage.exception = none ∧
      ∃ (line : String) (value : Json),
        (committedMessage.withAttributes [("line", .int 7), ("exception", .str "none")]).structuredLine =
            .ok line ∧
          Json.read? line = some value ∧
          (value.get? "metadata").bind (·.get? "line") = some (.int 7) ∧
          (value.get? "metadata").bind (·.get? "exception") = some (.str "none") := by
  let metadata : Fields :=
    [("logger", .str "migration_control.lifecycle"), ("module", .str "controller"),
      ("function", .str "_commit"), ("line", .int 7), ("exception", .str "none")]
  let entry : Entry :=
    { timestamp := ⟨1700000000000000, none⟩, message := .str "state changed", metadata := .obj metadata }
  have hmetadata : (Json.obj metadata).IsSound := by
    refine .obj (by decide) ?_
    simp only [metadata, List.forall_mem_cons]
    exact ⟨.str _, .str _, .str _, .int _, .str _, List.forall_mem_nil _⟩
  have hread : Json.read? entry.line = some entry.toJson :=
    (isSound_entry .info _ _ hmetadata).read?_text
  exact ⟨⟨rfl, rfl, rfl, rfl, rfl⟩, ⟨by decide, by decide⟩, rfl, rfl, entry.line, entry.toJson, rfl, hread,
    rfl, rfl⟩

end Log.Message
end Cutover
