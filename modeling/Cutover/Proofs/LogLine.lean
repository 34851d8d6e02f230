import Cutover.Log.Message
import Cutover.Proofs.JsonText

/-!
# One entry is one line

An entry of the log is written as one line of printable ASCII that stands for the entry: main statement
`Log.Entry.line_tells_entry`.

Every character outside printable ASCII is written by its number, and everything else that is written is made
of digits, words and punctuation (`Json.isAscii_write`, by recursion over the value).  So a line holds no
break, and the lines of a file are the lines that were written to it (`Text.splitText_linesText`).  That a
line stands for its entry is a case of `Json.read?_text`.
-/

namespace Cutover

/-! ### Lines -/

namespace Text

/-- Whether a character is printable ASCII. -/
def isAscii (c : Char) : Bool :=
  32 ≤ c.toNat && c.toNat < 127

theorem isAscii_of_isDigit {c : Char} (h : Numeral.isDigit c = true) : isAscii c = true := by
  simp only [Numeral.isDigit, isAscii, Bool.and_eq_true, decide_eq_true_eq] at h ⊢
  omega

theorem ne_break_of_isAscii {c : Char} (h : isAscii c = true) : c ≠ '\n' := by
  rintro rfl
  cases h

/-- Lines without breaks of their own are told apart. -/
theorem splitText_linesText {lines : List String} (h : ∀ line ∈ lines, '\n' ∉ line.toList) :
    splitText '\n' (linesText lines) = lines ++ [""] := by
  unfold splitText linesText
  rw [String.toList_ofList]
  induction lines with
  | nil => rfl
  | cons line lines ih =>
    obtain ⟨hline, hlines⟩ := List.forall_mem_cons.mp h
    rw [List.flatMap_cons, List.append_assoc, List.singleton_append, split_append_cons hline, List.map_cons,
      ih hlines, String.ofList_toList, List.cons_append]

/-! ### Only printable ASCII is written -/

/-- A row of characters is printable ASCII. -/
def IsAscii (cs : List Char) : Prop :=
  ∀ c ∈ cs, isAscii c = true

namespace IsAscii

variable {cs ds : List Char}

theorem of_all (h : cs.all isAscii = true) : IsAscii cs := List.all_eq_true.mp h

theorem nil : IsAscii [] := List.forall_mem_nil _

theorem cons {c : Char} (hc : isAscii c = true) (hcs : IsAscii cs) : IsAscii (c :: cs) :=
  List.forall_mem_cons.mpr ⟨hc, hcs⟩

theorem append (hcs : IsAscii cs) (hds : IsAscii ds) : IsAscii (cs ++ ds) :=
  List.forall_mem_append.mpr ⟨hcs, hds⟩

theorem subset (hcs : IsAscii cs) (h : ds ⊆ cs) : IsAscii ds :=
  fun c hc => hcs c (h hc)

theorem replicate {c : Char} (hc : isAscii c = true) (count : Nat) : IsAscii (List.replicate count c) :=
  fun _ hmem => List.eq_of_mem_replicate hmem ▸ hc

theorem of_digits (h : ∀ c ∈ cs, Numeral.isDigit c = true) : IsAscii cs :=
  fun c hc => isAscii_of_isDigit (h c hc)

end IsAscii
end Text

/-! #### Numbers -/

namespace Text.Numeral

theorem isAscii_write (n : Nat) : IsAscii (write n) :=
  .of_digits (write_digits n)

theorem isAscii_writeInt (n : Int) : IsAscii (writeInt n) := by
  cases n with
  | ofNat n => exact isAscii_write n
  | negSucc n => exact .cons rfl (isAscii_write (n + 1))

theorem isAscii_hexDigit {n : Nat} (h : n < 16) : isAscii (hexDigit n) = true :=
  (by decide : ∀ n, n < 16 → isAscii (hexDigit n) = true) n h

theorem isAscii_writeHex (count n : Nat) : IsAscii (writeHex count n) := by
  induction count generalizing n with
  | zero => exact .nil
  | succ count ih =>
    exact (ih _).append (.cons (isAscii_hexDigit (Nat.mod_lt _ (by decide))) .nil)

end Text.Numeral

namespace Binary64

open Text

theorem isAscii_significant (n : Nat) (point : Int) (count : Nat) :
    IsAscii (significant n point count).1 := by
  refine (Numeral.isAscii_write n).subset fun c hc => ?_
  exact List.mem_reverse.mp ((List.dropWhile_sublist _).subset (List.mem_reverse.mp hc))

theorem isAscii_digits (m : Nat) (e : Int) : IsAscii (digits m e).1 := by
  unfold digits
  dsimp only
  generalize hfound : List.findSome? _ _ = found
  cases found with
  | none => exact .of_all rfl
  | some shortest =>
    obtain ⟨i, _, hi⟩ := List.exists_of_findSome?_eq_some hfound
    obtain ⟨n, _, rfl⟩ := Option.map_eq_some_iff.mp hi
    exact isAscii_significant n _ _

theorem isAscii_form (form : Form) {ds : List Char} (hds : IsAscii ds) (point : Int) :
    IsAscii (form.write ds point) := by
  have hzeros (count : Nat) : IsAscii (List.replicate count '0') := .replicate rfl count
  unfold Form.write
  split
  · split
    · exact .cons rfl (.cons rfl ((hzeros _).append hds))
    · dsimp only
      split
      · exact (hds.append (hzeros _)).append (.cons rfl (.cons rfl .nil))
      · exact (hds.subset (List.take_subset _ _)).append (.cons rfl (hds.subset (List.drop_subset _ _)))
  · have hexponent : IsAscii (Numeral.writePadded form.exponentDigits (point - 1).natAbs) :=
      .of_digits (Numeral.writePadded_digits _ _)
    have hsign : isAscii (if point - 1 < 0 then '-' else '+') = true := by
      split
      · rfl
      · rfl
    refine .append ?_ (.cons rfl (.cons hsign hexponent))
    split
    next first second rest =>
      obtain ⟨hfirst, hrest⟩ := List.forall_mem_cons.mp hds
      exact .cons hfirst (.cons rfl hrest)
    next => exact hds

theorem isAscii_write {names : Names} (hinfinity : IsAscii names.infinity.toList)
    (hmissing : IsAscii names.missing.toList) (x : Binary64) : IsAscii (write names x) := by
  have hsign (negative : Bool) : IsAscii (if negative then ['-'] else []) := by
    cases negative with
    | true => exact .cons rfl .nil
    | false => exact .nil
  cases x with
  | nan => exact hmissing
  | infinite negative => exact (hsign negative).append hinfinity
  | finite negative m e =>
    unfold write
    dsimp only
    split
    · exact (hsign negative).append (.cons rfl (.cons rfl (.cons rfl .nil)))
    · exact (hsign negative).append (isAscii_form .plain (isAscii_digits m e) _)

end Binary64

/-! #### Values -/

namespace Json

open Text

theorem isAscii_writeUnit (n : Nat) : IsAscii (writeUnit n) :=
  .cons rfl (.cons rfl (Numeral.isAscii_writeHex 4 n))

theorem isAscii_escape (c : Char) : IsAscii (escape c) := by
  have hletter {letter : Char} (h : isAscii letter = true) : IsAscii ['\\', letter] :=
    .cons rfl (.cons h .nil)
  rw [escape]
  split_ifs with _ _ _ _ _ _ _ hplain
  iterate 7 exact hletter rfl
  · exact .cons hplain .nil
  · exact isAscii_writeUnit _
  · exact (isAscii_writeUnit _).append (isAscii_writeUnit _)

theorem isAscii_writeText (s : String) : IsAscii (writeText s) := by
  refine .cons rfl (.append (fun c hc => ?_) (.cons rfl .nil))
  obtain ⟨other, _, hother⟩ := List.mem_flatMap.mp hc
  exact isAscii_escape other c hother

theorem isAscii_writeLeaf (value : Json) : IsAscii (writeLeaf value) := by
  cases value with
  | null => exact .of_all rfl
  | bool b => cases b <;> exact .of_all rfl
  | int n => exact Numeral.isAscii_writeInt n
  | float x => exact Binary64.isAscii_write (.of_all rfl) (.of_all rfl) x
  | str s => exact isAscii_writeText s
  | arr items => exact .of_all rfl
  | obj members => exact .of_all rfl

mutual

/-- Whatever the value is, its text is printable ASCII. -/
theorem isAscii_write : ∀ value : Json, IsAscii (write value)
  | .null | .bool _ | .int _ | .float _ | .str _ | .arr [] | .obj [] => isAscii_writeLeaf _
  | .arr (item :: items) =>
    .cons rfl (((isAscii_write item).append (isAscii_writeItems items)).append (.cons rfl .nil))
  | .obj ((name, value) :: members) =>
    .cons rfl (((((isAscii_writeText name).append (.cons rfl (.cons rfl .nil))).append
      (isAscii_write value)).append (isAscii_writeMembers members)).append (.cons rfl .nil))

theorem isAscii_writeItems : ∀ items : List Json, IsAscii (writeItems items)
  | [] => .nil
  | item :: items =>
    .append (.append (.cons rfl (.cons rfl .nil)) (isAscii_write item)) (isAscii_writeItems items)

theorem isAscii_writeMembers : ∀ members : List (String × Json), IsAscii (writeMembers members)
  | [] => .nil
  | (name, value) :: members =>
    .append (.append (.append (.append (.cons rfl (.cons rfl .nil)) (isAscii_writeText name))
      (.cons rfl (.cons rfl .nil))) (isAscii_write value)) (isAscii_writeMembers members)

end

theorem isAscii_text (value : Json) : IsAscii value.text.toList := by
  rw [text, String.toList_ofList]
  exact isAscii_write value

end Json

/-! ### Entries -/

namespace Log.Entry

variable {entry : Entry}

theorem not_mem_line (entry : Entry) : '\n' ∉ entry.line.toList :=
  fun hmem => Text.ne_break_of_isAscii (Json.isAscii_text _ _ hmem) rfl

/-- The parts of an entry hold no floating point numbers, and no object in them has two members of one
name. -/
structure IsPlain (entry : Entry) : Prop where
  message : entry.message.IsPlain
  command : entry.command.IsPlain
  state : entry.state.IsPlain
  errorCode : entry.errorCode.IsPlain
  metadata : entry.metadata.IsPlain

theorem IsPlain.toJson (h : entry.IsPlain) : entry.toJson.IsPlain := by
  refine .obj (by simp [contents]) ?_
  simp only [contents, List.forall_mem_cons]
  exact ⟨.str _, .str _, .str _, h.message, h.command, h.state, h.errorCode, h.metadata,
    List.forall_mem_nil _⟩

/-- A message that carries an entry is written as the entry. -/
theorem structuredLine_of_entry {message : Message} (h : message.entry = some entry) :
    message.structuredLine = .ok entry.line := by
  rw [Message.structuredLine, Message.toEntry, h]
  rfl

/-- The lines of entries in a file are told apart. -/
theorem splitText_lines (entries : List Entry) :
    Text.splitText '\n' (Text.linesText (entries.map line)) = entries.map line ++ [""] :=
  Text.splitText_linesText (List.forall_mem_map.mpr fun entry _ => entry.not_mem_line)

/-- **A line tells its entry.**  An entry whose parts are null, truth values, integers, texts of any
characters, lists, and objects without a name used twice, nested in any way, is written as one line of
printable ASCII; the line is read as the value that the entry is; it is also what a message that carries the
entry is written as; and the lines of any entries that are written to a file one after the other are told
apart again. -/
theorem line_tells_entry (h : entry.IsPlain) :
    (∀ c ∈ entry.line.toList, 32 ≤ c.toNat ∧ c.toNat < 127) ∧
    Json.read? entry.line = some entry.toJson ∧
    (∀ message : Message, message.entry = some entry → message.structuredLine = .ok entry.line) ∧
    ∀ before after : List Entry,
      Text.splitText '\n' (Text.linesText ((before ++ entry :: after).map line)) =
        before.map line ++ entry.line :: (after.map line ++ [""]) := by
  refine ⟨fun c hc => ?_, Json.read?_text h.toJson, fun message => structuredLine_of_entry,
    fun before after => ?_⟩
  · have hascii := Json.isAscii_text _ c hc
    simpa [Text.isAscii] using hascii
  · rw [splitText_lines]
    simp

/-- An entry with a quotation mark, a break, a letter with an accent, a backslash and a face in its texts and
names. -/
def escapedEntry : Entry where
  timestamp := .universal 0
  level := .error
  message := .str "\"é\n"
  state := .str "😀"
  metadata := .obj [("a", .arr [.obj [("\\😀", .int (-7))], .null, .bool true])]

/-- They stand in the line by their escapes, and are read from it. -/
theorem line_tells_entry_of_escapes :
    escapedEntry.IsPlain ∧
    escapedEntry.line =
      "\x7b\"timestamp\": \"1970-01-01T00:00:00+00:00\", \"level\": \"ERROR\", " ++
      "\"category\": \"system\", \"message\": \"\\\"\\u00e9\\n\", \"command\": null, " ++
      "\"state\": \"\\ud83d\\ude00\", \"error_code\": null, " ++
      "\"metadata\": \x7b\"a\": [\x7b\"\\\\\\ud83d\\ude00\": -7\x7d, null, true]\x7d\x7d" ∧
    Json.read? escapedEntry.line = some escapedEntry.toJson := by
  have hplain : escapedEntry.IsPlain := by
    refine ⟨.str _, .null, .str _, .null, .obj (by simp) (List.forall_mem_singleton.mpr (.arr ?_))⟩
    simp only [List.forall_mem_cons]
    exact ⟨.obj (by simp) (List.forall_mem_singleton.mpr (.int _)), .null, .bool _, List.forall_mem_nil _⟩
  exact ⟨hplain, by decide +kernel, (line_tells_entry hplain).2.1⟩

end Log.Entry
end Cutover
