import Cutover.Number.Binary64

/-!
# Data values

The values that requests, replies, settings and log records are made of: nothing, truth values,
integers of any size, floating point numbers, texts, lists, and objects whose members keep the order in
which they were first given.  Main statements: `Json.isSame_iff`, values are equal if they are the same
part by part, `Fields.get?_set`, a member set is the member read, and `Fields.get?_setDefault`, a default
does not replace a member.
-/

namespace Cutover

/-- A data value. -/
inductive Json where
  | null
  | bool (b : Bool)
  | int (n : Int)
  | float (x : Binary64)
  | str (s : String)
  | arr (items : List Json)
  | obj (members : List (String × Json))
  deriving Repr, Inhabited

/-! ### Equality -/

namespace Json

mutual

/-- Whether two values are the same, part by part. -/
def isSame : Json → Json → Bool
  | .null, .null => true
  | .bool a, .bool b => a = b
  | .int a, .int b => a = b
  | .float x, .float y => x = y
  | .str a, .str b => a = b
  | .arr items, .arr others => areSame items others
  | .obj members, .obj others => haveSame members others
  | _, _ => false

/-- Whether two lists have the same items. -/
def areSame : List Json → List Json → Bool
  | [], [] => true
  | a :: items, b :: others => isSame a b && areSame items others
  | _, _ => false

/-- Whether two objects have the same members. -/
def haveSame : List (String × Json) → List (String × Json) → Bool
  | [], [] => true
  | (name, a) :: members, (other, b) :: others => name = other && isSame a b && haveSame members others
  | _, _ => false

end

mutual

theorem isSame_iff : ∀ a b : Json, a.isSame b = true ↔ a = b
  | .arr items, .arr others => by simp [isSame, areSame_iff items others]
  | .obj members, .obj others => by simp [isSame, haveSame_iff members others]
  | .null, b | .bool _, b | .int _, b | .float _, b | .str _, b => by cases b <;> simp [isSame]
  | .arr _, .null | .arr _, .bool _ | .arr _, .int _ | .arr _, .float _ | .arr _, .str _
  | .arr _, .obj _ => by simp [isSame]
  | .obj _, .null | .obj _, .bool _ | .obj _, .int _ | .obj _, .float _ | .obj _, .str _
  | .obj _, .arr _ => by simp [isSame]

theorem areSame_iff : ∀ items others : List Json, areSame items others = true ↔ items = others
  | [], [] => by simp [areSame]
  | [], _ :: _ | _ :: _, [] => by simp [areSame]
  | a :: items, b :: others => by simp [areSame, isSame_iff a b, areSame_iff items others]

theorem haveSame_iff :
    ∀ members others : List (String × Json), haveSame members others = true ↔ members = others
  | [], [] => by simp [haveSame]
  | [], _ :: _ | _ :: _, [] => by simp [haveSame]
  | (name, a) :: members, (other, b) :: others => by
    simp [haveSame, isSame_iff a b, haveSame_iff members others]

end

instance : DecidableEq Json := fun a b =>
  decidable_of_decidable_of_iff (isSame_iff a b)

end Json

/-- The members of an object, in order. -/
abbrev Fields := List (String × Json)

namespace Fields

/-- The value of the member with a name. -/
def get? (fields : Fields) (name : String) : Option Json :=
  (fields.find? (·.1 = name)).map (·.2)

/-- Whether there is a member with a name. -/
def has (fields : Fields) (name : String) : Bool :=
  fields.any (·.1 = name)

/-- Give a member a value: in its place if there is one, at the end otherwise. -/
def set : Fields → String → Json → Fields
  | [], name, value => [(name, value)]
  | field :: fields, name, value =>
    if field.1 = name then (name, value) :: fields else field :: set fields name value

/-- Give a member a value unless it has one. -/
def setDefault (fields : Fields) (name : String) (value : Json) : Fields :=
  if fields.has name then fields else fields.set name value

/-- Set every member of `changes`, one after the other. -/
def update (fields changes : Fields) : Fields :=
  changes.foldl (fun fields change => fields.set change.1 change.2) fields

/-- The value that was given last to a name. -/
def last? (fields : Fields) (name : String) : Option Json :=
  get? fields.reverse name

@[simp] theorem get?_nil (name : String) : get? [] name = none := rfl

theorem get?_cons (field : String × Json) (fields : Fields) (name : String) :
    get? (field :: fields) name = if field.1 = name then some field.2 else get? fields name := by
  by_cases h : field.1 = name <;> simp [get?, h]

/-- A member that was set is read back; the others are as before. -/
theorem get?_set (fields : Fields) (name other : String) (value : Json) :
    (fields.set name value).get? other = if name = other then some value else fields.get? other := by
  induction fields with
  | nil => simp [set, get?_cons]
  | cons field fields ih =>
    rw [set]
    by_cases h : field.1 = name
    · by_cases ho : name = other <;> simp_all [get?_cons]
    · rw [if_neg h, get?_cons, get?_cons, ih]
      by_cases hf : field.1 = other
      · by_cases ho : name = other
        · exact absurd (hf.trans ho.symm) h
        · simp [hf, ho]
      · simp [hf]

/-- A member of a new name is added at the end. -/
theorem set_eq_append {fields : Fields} {name : String} (h : name ∉ fields.map (·.1))
    (value : Json) : fields.set name value = fields ++ [(name, value)] := by
  induction fields with
  | nil => rfl
  | cons field fields ih =>
    rw [List.map_cons, List.mem_cons, not_or] at h
    rw [set, if_neg (Ne.symm h.1), ih h.2, List.cons_append]

/-- Changes of members that have other names are added at the end. -/
theorem update_eq_append {fields changes : Fields}
    (h : (fields.map (·.1) ++ changes.map (·.1)).Nodup) :
    fields.update changes = fields ++ changes := by
  induction changes generalizing fields with
  | nil => simp [update]
  | cons change changes ih =>
    have hnew : change.1 ∉ fields.map (·.1) := by
      intro hmem
      exact (List.nodup_append.mp h).2.2 _ hmem _ (List.mem_cons_self ..) rfl
    have hset : fields.set change.1 change.2 = fields ++ [change] := set_eq_append hnew change.2
    have hstep : fields.update (change :: changes) = (fields ++ [change]).update changes :=
      congrArg (update · changes) hset
    rw [hstep, ih (by simpa using h), List.append_assoc, List.singleton_append]

theorem get?_append (fields more : Fields) (name : String) :
    get? (fields ++ more) name = (fields.get? name).or (more.get? name) := by
  induction fields with
  | nil => simp
  | cons field fields ih =>
    rw [List.cons_append, get?_cons, get?_cons, ih]
    split <;> simp

/-- Of several changes to a member the last one is read. -/
theorem get?_update (fields changes : Fields) (name : String) :
    (fields.update changes).get? name = (changes.last? name).or (fields.get? name) := by
  induction changes generalizing fields with
  | nil => simp [update, last?]
  | cons change changes ih =>
    have step : fields.update (change :: changes) = (fields.set change.1 change.2).update changes := rfl
    rw [step, ih, get?_set, last?, last?, List.reverse_cons, get?_append, get?_cons, get?_nil,
      Option.or_assoc]
    congr 1
    split <;> simp

theorem has_eq_isSome (fields : Fields) (name : String) :
    fields.has name = (fields.get? name).isSome := by
  induction fields with
  | nil => rfl
  | cons field fields ih =>
    rw [get?_cons]
    by_cases h : field.1 = name
    · simp [has, h]
    · simpa [has, h] using ih

/-- A default is read only where there was no member. -/
theorem get?_setDefault (fields : Fields) (name other : String) (value : Json) :
    (fields.setDefault name value).get? other =
      if name = other then some ((fields.get? name).getD value) else fields.get? other := by
  rw [setDefault, has_eq_isSome]
  by_cases ho : name = other
  · subst ho
    cases h : fields.get? name <;> simp [h, get?_set]
  · cases h : fields.get? name <;> simp [ho, get?_set]

end Fields

namespace Json

/-- Whether a value counts as yes: all values but nothing, no, zeros and what is empty. -/
def isTruthy : Json → Bool
  | .null => false
  | .bool b => b
  | .int n => n != 0
  | .float x => !x.isZero
  | .str s => s != ""
  | .arr items => !items.isEmpty
  | .obj members => !members.isEmpty

/-- A text or nothing. -/
def ofText? : Option String → Json
  | none => .null
  | some s => .str s

/-- A list of texts. -/
def ofTexts (texts : List String) : Json :=
  .arr (texts.map .str)

/-- The members of an object. -/
def fields? : Json → Option Fields
  | .obj members => some members
  | _ => none

/-- The member of an object with a name. -/
def get? (value : Json) (name : String) : Option Json :=
  value.fields?.bind (Fields.get? · name)

end Json

end Cutover
