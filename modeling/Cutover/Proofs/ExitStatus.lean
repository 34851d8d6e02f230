import Cutover.Proofs.EscapedMarkup
import Cutover.Proofs.WireForm

/-!
# What the exit status of a client command tells

A command that sends a request ends with the exit status 0 or 1.  Main statement:
`CommandLine.exit_status_of_request`, which gives the exact condition of a success, whatever the options of
the command are and whatever comes of its request.

A command that changes the migration succeeds exactly if the response to it is an acceptance, once the line
that tells the address could be shown, which is shown only if it is asked for.  The command that shows the
status succeeds exactly if the response can be shown, and does not look at whether the response tells a
success.

Everything that is shown is escaped or holds no marks, so it can always be shown
(`Markup.exists_show_styled`, `Markup.exists_show_of_not_mem`), but for the address and for the names of
namespaces in the table of the status.
-/

namespace Cutover

/-! ### Text without marks -/

namespace CommandLine.Markup

variable {cs : List Char} {styles : List String} {pending : List Char} {fuel position : Nat}

theorem readMarkBehind?_of_not_mem (h : '[' ∉ cs) : readMarkBehind? cs = none := by
  cases hread : readMarkBehind? cs with
  | none => rfl
  | some read =>
    obtain ⟨count, inside, after⟩ := read
    have hcs := (readMarkBehind?_eq_some hread).2
    rw [hcs] at h
    simp at h

theorem exists_showChars_of_not_mem (h : '[' ∉ cs) :
    ∃ shown, showChars fuel position styles pending cs = .ok shown := by
  induction cs generalizing fuel position pending with
  | nil => exact exists_showChars_nil
  | cons c cs ih =>
    cases fuel with
    | zero => exact ⟨_, rfl⟩
    | succ fuel =>
      rw [showChars_skip (readMarkBehind?_of_not_mem h)]
      exact ih fun hmem => h (List.mem_cons_of_mem _ hmem)

/-- A text without an opening bracket can be shown. -/
theorem exists_show_of_not_mem {s : String} (h : '[' ∉ s.toList) : ∃ shown, show? s = .ok shown := by
  obtain ⟨shown, hshown⟩ := @exists_showChars_of_not_mem _ [] [] s.length 0 h
  unfold show?
  rw [hshown]
  exact ⟨_, rfl⟩

theorem exists_shownText_iff {s : String} :
    (∃ text, shownText s = .ok text) ↔ ∃ shown, show? s = .ok shown := by
  unfold shownText
  cases show? s with
  | ok shown => exact ⟨fun _ => ⟨_, rfl⟩, fun _ => ⟨_, rfl⟩⟩
  | error fault => simp [Except.map]

end CommandLine.Markup

namespace Timestamp

open Text

variable {t : Timestamp}

/-- Whether a character can stand in a reading. -/
def isReadingChar (c : Char) : Bool :=
  Numeral.isDigit c || "-T:.+".toList.contains c

theorem isReadingChar_part (count : Nat) (n : Int) : (part count n).all isReadingChar = true := by
  rw [List.all_eq_true]
  intro c hc
  rw [isReadingChar, Numeral.writePadded_digits count _ c hc, Bool.true_or]

theorem isReadingChar_fractionText (micros : Int) : (fractionText micros).all isReadingChar = true := by
  unfold fractionText
  split
  · rfl
  · rw [List.all_cons, isReadingChar_part]
    rfl

theorem isReadingChar_offsetText (offset : Int) : (offsetText offset).all isReadingChar = true := by
  have hsign : isReadingChar (if offset < 0 then '-' else '+') = true := by
    split
    · rfl
    · rfl
  have hcolon : isReadingChar ':' = true := rfl
  unfold offsetText
  simp only [List.cons_append, List.append_assoc, List.all_cons, List.all_append, hsign, hcolon,
    isReadingChar_part, Bool.true_and]
  split
  · rfl
  · simp only [List.all_cons, List.all_append, hcolon, isReadingChar_part, isReadingChar_fractionText,
      Bool.true_and]

theorem isReadingChar_isoText (t : Timestamp) : t.isoText.toList.all isReadingChar = true := by
  have hhyphen : isReadingChar '-' = true := rfl
  have hcolon : isReadingChar ':' = true := rfl
  have hletter : isReadingChar 'T' = true := rfl
  have hlocal : t.localText.all isReadingChar = true := by
    simp [localText, hhyphen, hcolon, hletter, isReadingChar_part, isReadingChar_fractionText]
  rw [isoText, String.toList_ofList, List.all_append, hlocal, Bool.true_and]
  split
  · rfl
  · exact isReadingChar_offsetText _

theorem not_mem_isoText (t : Timestamp) : '[' ∉ t.isoText.toList := by
  intro hmem
  have hall := isReadingChar_isoText t
  rw [List.all_eq_true] at hall
  exact absurd (hall _ hmem) (by decide)

end Timestamp

/-! ### Answers -/

open Client (Address Trouble Response Delivery)

namespace Client

variable {call : Call} {address : Address} {delivery : Delivery} {response : Response}

/-- Whether a response tells a success. -/
def Response.isOk : Response → Bool
  | .command response => response.ok
  | .status response => response.ok

namespace Call

/-- A request is answered with a response: the reply is one of success, and its body is data that makes the
response. -/
def IsAnswered (call : Call) (delivery : Delivery) (response : Response) : Prop :=
  ∃ code body value, delivery = .replied code body ∧ 200 ≤ code ∧ code < 300 ∧
    readBody? body = some value ∧ (call.check value).2 = .ok response

/-- A response is received exactly if the request is answered with it. -/
theorem receive_eq_ok_iff :
    call.receive address delivery = .ok response ↔ call.IsAnswered delivery response := by
  unfold receive IsAnswered
  cases delivery with
  | undelivered reason => simp
  | replied code body =>
    by_cases hcode : 200 ≤ code ∧ code < 300
    · cases hbody : readBody? body with
      | none => simp [hcode, hbody]
      | some value =>
        cases hcheck : call.check value with
        | mk title checked =>
          cases checked <;> simp [hcode, hbody, hcheck]
    · have hrefused : ¬ (200 ≤ code && code < 300) = true := by simpa using hcode
      simp only [if_neg hrefused]
      constructor
      · intro h
        cases h
      · rintro ⟨_, _, _, heq, hleast, hgreatest, _⟩
        cases heq
        exact absurd ⟨hleast, hgreatest⟩ hcode

/-- The response to a request for the status is a status, and the response to any other request is not. -/
theorem IsAnswered.isFor (h : call.IsAnswered delivery response) : response.IsFor call := by
  obtain ⟨_, _, value, _, _, _, _, hcheck⟩ := h
  cases call with
  | status =>
    obtain ⟨_, _, rfl⟩ := Checked.map_eq_ok_iff.mp hcheck
    rfl
  | start | pause | resume | finalize =>
    obtain ⟨_, _, rfl⟩ := Checked.map_eq_ok_iff.mp hcheck
    exact nofun

end Call
end Client

namespace CommandLine

variable {σ : Type} {invocation : Invocation} {address : Address} {call : Client.Call}
  {delivery : Delivery} {lines : List String} {status : Nat}

/-! ### What is sent -/

theorem orEmpty_ofTexts (texts : List String) : Client.Call.orEmpty (.ofTexts texts) = .ofTexts texts := by
  cases texts <;> rfl

theorem check_ofTexts (included excluded : List String) :
    StartRequest.ofFields [(includeNames.2, .ofTexts included), (excludeNames.2, .ofTexts excluded)] =
      .ok ⟨included, excluded⟩ := by
  have hincluded : Checked.textsOrNothing (.ofTexts included) = .ok included :=
    textsOrNothing_ofTexts included
  have hexcluded : Checked.textsOrNothing (.ofTexts excluded) = .ok excluded :=
    textsOrNothing_ofTexts excluded
  simp [StartRequest.ofFields, Checked.optionalField, Checked.given?, Fields.get?_cons, includeNames,
    excludeNames, hincluded, hexcluded]

/-- The options of a command always make a request. -/
theorem exists_sent (h : invocation.request? = some (address, call)) :
    ∃ payload, call.sent = .ok payload := by
  obtain ⟨verbose, action⟩ := invocation
  cases action with
  | help => cases h
  | version => cases h
  | serve => cases h
  | start place included excluded =>
    cases h
    refine ⟨(StartRequest.mk included excluded).wire, Client.Call.sent_eq_ok_iff.mpr ?_⟩
    simp only [Client.Call.request, orEmpty_ofTexts, check_ofTexts]
    rfl
  | status => cases h; exact ⟨_, rfl⟩
  | pause => cases h; exact ⟨_, rfl⟩
  | resume => cases h; exact ⟨_, rfl⟩
  | finalize => cases h; exact ⟨_, rfl⟩

/-! ### What is shown -/

/-- A line of marked up text can be shown. -/
def IsShown (line : String) : Prop :=
  ∃ text, shownText line = .ok text

theorem isShown_styled_escape {style intro : String} (hstyle : Markup.isStyle style.toList = true)
    (hintro : Markup.isUnmarked intro.toList = true) (s : String) :
    IsShown (styled style (intro ++ Markup.escape s)) :=
  Markup.exists_show_styled hstyle hintro s

theorem isShown_styled {style s : String} (hstyle : Markup.isStyle style.toList = true)
    (hs : Markup.isUnmarked s.toList = true) : IsShown (styled style s) := by
  have hshown := isShown_styled_escape hstyle hs ""
  have hempty : Markup.escape "" = "" := rfl
  rwa [hempty, String.append_empty] at hshown

/-- Lines end with the status they were given if all of them can be shown. -/
theorem exit_showLines (h : ∀ line ∈ lines, IsShown line) :
    (showLines status lines).result = .ok status := by
  induction lines with
  | nil => rfl
  | cons line lines ih =>
    obtain ⟨⟨text, htext⟩, hlines⟩ := List.forall_mem_cons.mp h
    rw [showLines, htext]
    exact ih hlines

/-- Otherwise they end in a fault. -/
theorem exists_fault_showLines (status : Nat) (h : ¬ ∀ line ∈ lines, IsShown line) :
    ∃ fault, (showLines status lines).result = .error (.markup fault) := by
  induction lines with
  | nil => exact absurd (List.forall_mem_nil _) h
  | cons line lines ih =>
    rw [showLines]
    cases htext : shownText line with
    | error fault => exact ⟨fault, rfl⟩
    | ok text =>
      refine ih fun hlines => h (List.forall_mem_cons.mpr ⟨⟨text, htext⟩, hlines⟩)

theorem isShown_scopeLines (included excluded : List String) :
    ∀ line ∈ Invocation.scopeLines included excluded, IsShown line := by
  have hincluded : IsShown (styled "dim" ("Include: " ++ Markup.escape (namesOr "all" included))) :=
    isShown_styled_escape (by decide +kernel) (by decide +kernel) _
  have hexcluded : IsShown (styled "dim" ("Exclude: " ++ Markup.escape (namesOr "none" excluded))) :=
    isShown_styled_escape (by decide +kernel) (by decide +kernel) _
  exact List.forall_mem_cons.mpr ⟨hincluded, List.forall_mem_singleton.mpr hexcluded⟩

/-- Only the line that tells the address may hold marks of its own, and it is shown only if a command that
changes the migration is asked to tell more. -/
theorem isShown_openingLines_iff (h : invocation.request? = some (address, call)) :
    (∀ line ∈ invocation.openingLines, IsShown line) ↔
      (call ≠ .status → invocation.verbose = true → IsShown (Invocation.addressLine address)) := by
  obtain ⟨verbose, action⟩ := invocation
  cases verbose with
  | false => simp [Invocation.openingLines]
  | true =>
    cases action with
    | help => cases h
    | version => cases h
    | serve => cases h
    | start place included excluded =>
      cases h
      have hscope := isShown_scopeLines included excluded
      simp only [Invocation.openingLines, Bool.not_true, Bool.false_eq_true, if_false,
        List.forall_mem_append, List.forall_mem_singleton]
      exact ⟨fun hlines _ _ => hlines.2, fun haddress => ⟨hscope, haddress nofun trivial⟩⟩
    | status => cases h; simp [Invocation.openingLines]
    | pause => cases h; simp [Invocation.openingLines]
    | resume => cases h; simp [Invocation.openingLines]
    | finalize => cases h; simp [Invocation.openingLines]

/-! ### How a command ends -/

theorem isShown_noteLines {intro : String} (hintro : Markup.isUnmarked intro.toList = true)
    (note : Option String) : ∀ line ∈ noteLines intro note, IsShown line := by
  have hmarks : Markup.isUnmarked ("⚠️  " ++ intro ++ ": ").toList = true := by
    have hfirst : Markup.isUnmarked "⚠️  ".toList = true := by decide +kernel
    have hlast : Markup.isUnmarked ": ".toList = true := by decide +kernel
    unfold Markup.isUnmarked at hintro hfirst hlast ⊢
    rw [String.toList_append, String.toList_append, List.all_append, List.all_append, hfirst, hintro, hlast]
    rfl
  unfold noteLines
  split
  · exact List.forall_mem_nil _
  · exact List.forall_mem_nil _
  · exact List.forall_mem_singleton.mpr (isShown_styled_escape (by decide +kernel) hmarks _)

/-- The names of the commands that change the migration. -/
theorem name_mem_of_request (h : invocation.request? = some (address, call)) (hcall : call ≠ .status) :
    invocation.name ∈ ["start", "pause", "resume", "finalize"] := by
  obtain ⟨verbose, action⟩ := invocation
  cases action with
  | help => cases h
  | version => cases h
  | serve => cases h
  | status => cases h; exact absurd rfl hcall
  | start | pause | resume | finalize => simp [Invocation.name]

theorem isUnmarked_accepted : ∀ name ∈ ["start", "pause", "resume", "finalize"],
    Markup.isUnmarked ("✓ " ++ name ++ " accepted").toList = true := by
  decide +kernel

/-- Lines that are shown on a failure end in it, whether they can be shown or not. -/
theorem exit_showLines_one (lines : List String) : (showLines 1 lines).exit = 1 := by
  unfold Ending.exit
  by_cases h : ∀ line ∈ lines, IsShown line
  · rw [exit_showLines h]
  · obtain ⟨fault, hfault⟩ := exists_fault_showLines 1 h
    rw [hfault]

/-- A command that changes the migration ends with success exactly if it was accepted. -/
theorem exit_commandEnding {name : String} (hname : name ∈ ["start", "pause", "resume", "finalize"])
    (response : CommandResponse) : (commandEnding name response).exit = if response.ok then 0 else 1 := by
  unfold commandEnding
  split
  case isTrue =>
    have hlines : ∀ line ∈ styled "green" ("✓ " ++ name ++ " accepted") ::
        noteLines "Transition committed but the apply engine was not signalled" response.signalError ++
        noteLines "Command completed its signal but was overtaken by an engine report"
          response.superseded, IsShown line := by
      rw [List.cons_append, List.forall_mem_cons, List.forall_mem_append]
      exact ⟨isShown_styled (by decide +kernel) (isUnmarked_accepted name hname),
        isShown_noteLines (by decide +kernel) _, isShown_noteLines (by decide +kernel) _⟩
    simp only [Ending.exit, exit_showLines hlines]
  case isFalse => exact exit_showLines_one _

theorem exit_troubleEnding (trouble : Trouble) : (troubleEnding trouble).exit = 1 := by
  cases trouble with
  | connection failure => exact exit_showLines_one _
  | badRequest | unreadReply | badReply => rfl

/-! ### The table of the status -/

/-- The names of namespaces in the table of the status can be shown. -/
def NamesAreShown (response : StatusResponse) : Prop :=
  (∃ shown, Markup.show? (namesOr "all" response.included) = .ok shown) ∧
    ∃ shown, Markup.show? (namesOr "none" response.excluded) = .ok shown

/-- Steps one after the other pass exactly if each of them passes. -/
theorem exists_mapM_ok_iff {α β ε : Type} {f : α → Except ε β} {xs : List α} :
    (∃ ys, xs.mapM f = .ok ys) ↔ ∀ x ∈ xs, ∃ y, f x = .ok y := by
  induction xs with
  | nil => simp [pure, Except.pure]
  | cons x xs ih =>
    rw [List.mapM_cons, List.forall_mem_cons, ← ih]
    cases f x with
    | error e => simp [bind, Except.bind]
    | ok y =>
      cases xs.mapM f with
      | error e => simp [bind, Except.bind]
      | ok ys => simp [bind, Except.bind, pure, Except.pure]

theorem exists_show_errorRows (error : Option String) : ∀ row ∈ (match error with
    | none => []
    | some "" => []
    | some s => [("Error", styled "red" (Markup.escape s))] : List (String × String)),
    ∃ shown, Markup.show? row.2 = .ok shown := by
  split
  · exact List.forall_mem_nil _
  · exact List.forall_mem_nil _
  case h_3 s _ =>
    have hshown : IsShown (styled "red" ("" ++ Markup.escape s)) :=
      isShown_styled_escape (by decide +kernel) rfl s
    rw [String.empty_append] at hshown
    exact List.forall_mem_singleton.mpr (Markup.exists_shownText_iff.mp hshown)

theorem exists_show_timeRows (updatedAt : Option Timestamp) : ∀ row ∈ (match updatedAt with
    | none => []
    | some t => [("Updated", t.isoText)] : List (String × String)),
    ∃ shown, Markup.show? row.2 = .ok shown := by
  cases updatedAt with
  | none => exact List.forall_mem_nil _
  | some t => exact List.forall_mem_singleton.mpr (Markup.exists_show_of_not_mem t.not_mem_isoText)

/-- The rows of the table hold no marks that could be faulty, but for the names of namespaces. -/
theorem forall_statusRows_iff {response : StatusResponse} :
    (∀ row ∈ statusRows response, ∃ shown, Markup.show? row.2 = .ok shown) ↔ NamesAreShown response := by
  have hstate : ∃ shown, Markup.show? response.state.name = .ok shown := by
    refine Markup.exists_show_of_not_mem ?_
    cases response.state <;> decide
  have hlost : ∃ shown,
      Markup.show? (if response.historyLost then styled "red" "yes" else "no") = .ok shown := by
    split
    · exact Markup.exists_shownText_iff.mp (isShown_styled (by decide +kernel) (by decide +kernel))
    · exact Markup.exists_show_of_not_mem (by decide)
  unfold statusRows NamesAreShown
  rw [List.forall_mem_append, List.forall_mem_append]
  constructor
  · rintro ⟨⟨hrows, _⟩, _⟩
    obtain ⟨_, hincluded, hexcluded, _⟩ : _ ∧ _ ∧ _ ∧ _ := by
      simpa only [List.forall_mem_cons] using hrows
    exact ⟨hincluded, hexcluded⟩
  · rintro ⟨hincluded, hexcluded⟩
    refine ⟨⟨?_, exists_show_errorRows _⟩, exists_show_timeRows _⟩
    simp only [List.forall_mem_cons]
    exact ⟨hstate, hincluded, hexcluded, hlost, List.forall_mem_nil _⟩

/-- The table can be shown exactly if the names of namespaces in it can be. -/
theorem exists_statusTable_iff {response : StatusResponse} :
    (∃ text, statusTable response = .ok text) ↔ NamesAreShown response := by
  have hrow (row : String × String) : (∃ shown, (do
      let value ← Markup.show? row.2
      .ok (row.1.toList, value) : Except Markup.Fault Row) = .ok shown) ↔
        ∃ shown, Markup.show? row.2 = .ok shown := by
    cases Markup.show? row.2 with
    | ok value => simp [bind, Except.bind]
    | error fault => simp [bind, Except.bind]
  rw [← forall_statusRows_iff]
  simp only [← hrow, ← exists_mapM_ok_iff]
  unfold statusTable
  constructor
  · rintro ⟨text, htext⟩
    cases hrows : (statusRows response).mapM fun row => (do
        let value ← Markup.show? row.2
        .ok (row.1.toList, value) : Except Markup.Fault Row) with
    | ok rows => exact ⟨rows, rfl⟩
    | error fault =>
      rw [hrows] at htext
      cases htext
  · rintro ⟨rows, hrows⟩
    rw [hrows]
    exact ⟨_, rfl⟩

/-- The command that shows the status ends with success exactly if the status can be shown. -/
theorem exit_statusEnding (form : StatusForm) (response : StatusResponse) :
    (statusEnding form response).exit = 0 ↔ (form = .table → NamesAreShown response) := by
  cases form with
  | data => simp [statusEnding, Ending.exit]
  | table =>
    rw [← exists_statusTable_iff]
    unfold statusEnding
    cases statusTable response with
    | ok text => simp [Ending.exit]
    | error fault => simp [Ending.exit]

theorem exit_statusEnding_le_one (form : StatusForm) (response : StatusResponse) :
    (statusEnding form response).exit ≤ 1 := by
  cases form with
  | data => simp [statusEnding, Ending.exit]
  | table =>
    unfold statusEnding
    cases statusTable response with
    | ok text => simp [Ending.exit]
    | error fault => simp [Ending.exit]

/-! ### The exit status -/

/-- A command succeeds exactly if its request is answered with a response on which it does. -/
theorem exit_closing_iff : (invocation.closing (call.receive address delivery)).exit = 0 ↔
    ∃ response, call.IsAnswered delivery response ∧ (invocation.closing (.ok response)).exit = 0 := by
  constructor
  · intro hexit
    cases hreceive : call.receive address delivery with
    | error trouble =>
      rw [hreceive, Invocation.closing, exit_troubleEnding] at hexit
      cases hexit
    | ok response =>
      rw [hreceive] at hexit
      exact ⟨response, Client.Call.receive_eq_ok_iff.mp hreceive, hexit⟩
  · rintro ⟨response, hanswered, hexit⟩
    rwa [Client.Call.receive_eq_ok_iff.mpr hanswered]

/-- A command that changes the migration succeeds on an acceptance only. -/
theorem exit_closing_command_iff (h : invocation.request? = some (address, call)) (hcall : call ≠ .status)
    {response : Response} (hanswered : call.IsAnswered delivery response) :
    (invocation.closing (.ok response)).exit = 0 ↔ response.isOk = true := by
  cases response with
  | status response => exact absurd hanswered.isFor hcall
  | command response =>
    rw [Invocation.closing, exit_commandEnding (name_mem_of_request h hcall), Client.Response.isOk]
    cases response.ok <;> simp

/-- The command that shows the status succeeds exactly if its request is answered with a status that can be
shown. -/
theorem exit_closing_status_iff {place : Address} {form : StatusForm}
    (haction : invocation.action = .status place form) :
    (invocation.closing (Client.Call.status.receive address delivery)).exit = 0 ↔
      ∃ response, Client.Call.status.IsAnswered delivery (.status response) ∧
        (form = .table → NamesAreShown response) := by
  have hclosing (response : StatusResponse) :
      (invocation.closing (.ok (.status response))).exit = 0 ↔ (form = .table → NamesAreShown response) := by
    rw [← exit_statusEnding]
    simp only [Invocation.closing, haction]
  rw [exit_closing_iff]
  constructor
  · rintro ⟨response, hanswered, hexit⟩
    cases response with
    | command response => exact absurd rfl hanswered.isFor
    | status response => exact ⟨response, hanswered, (hclosing response).mp hexit⟩
  · rintro ⟨response, hanswered, hshown⟩
    exact ⟨.status response, hanswered, (hclosing response).mpr hshown⟩

/-- Whatever comes of a request, the exit status is 0 or 1. -/
theorem exit_closing_le_one (h : invocation.request? = some (address, call)) :
    (invocation.closing (call.receive address delivery)).exit ≤ 1 := by
  cases hreceive : call.receive address delivery with
  | error trouble => rw [Invocation.closing, exit_troubleEnding]
  | ok response =>
    have hanswered := Client.Call.receive_eq_ok_iff.mp hreceive
    cases response with
    | command response =>
      rw [Invocation.closing, exit_commandEnding (name_mem_of_request h hanswered.isFor)]
      split <;> omega
    | status response =>
      simp only [Invocation.closing]
      split
      · exact exit_statusEnding_le_one _ _
      · exact exit_statusEnding_le_one _ _

/-- A command whose opening lines can be shown ends as what comes of its request makes it end; otherwise it
fails before the request is made. -/
theorem exit_conduct (h : invocation.request? = some (address, call)) {payload : Json}
    (hsent : call.sent = .ok payload)
    (deliver : σ → Address → Client.Call → Json → σ × Delivery) (s : σ) :
    ((∀ line ∈ invocation.openingLines, IsShown line) →
      (invocation.conduct deliver s).2.exit =
        (invocation.closing (call.receive address (deliver s address call payload).2)).exit) ∧
    ((¬ ∀ line ∈ invocation.openingLines, IsShown line) → (invocation.conduct deliver s).2.exit = 1) := by
  constructor
  · intro hshown
    have hopening : invocation.opening.result = .ok 0 := exit_showLines hshown
    simp only [Invocation.conduct, hopening, h, hsent]
    rfl
  · intro hshown
    obtain ⟨fault, hfault⟩ := exists_fault_showLines 0 hshown
    have hopening : invocation.opening.result = .error (.markup fault) := hfault
    simp only [Invocation.conduct, hopening, Ending.exit]

/-- **What the exit status of a command tells.**  A command that makes a request of the service ends with 0 or
1, whatever its options are and whatever comes of the request.  One that changes the migration ends with 0
exactly if the line with the address, in case it has to tell it, can be shown, and the reply is one of success
whose body is read as a response that tells a success.  The one that shows the status ends with 0 exactly if
the reply is one of success whose body is read as a response, and the names of namespaces in it can be shown
in case it is shown as a table: it does not look at whether the response tells a success. -/
theorem exit_status_of_request (h : invocation.request? = some (address, call))
    (deliver : σ → Address → Client.Call → Json → σ × Delivery) (s : σ) :
    ∃ payload, call.sent = .ok payload ∧
      (invocation.conduct deliver s).2.exit ≤ 1 ∧
      (call ≠ .status → ((invocation.conduct deliver s).2.exit = 0 ↔
        (invocation.verbose = true → IsShown (Invocation.addressLine address)) ∧
          ∃ response, call.IsAnswered (deliver s address call payload).2 response ∧
            response.isOk = true)) ∧
      ∀ form, invocation.action = .status address form → ((invocation.conduct deliver s).2.exit = 0 ↔
        ∃ response, call.IsAnswered (deliver s address call payload).2 (.status response) ∧
          (form = .table → NamesAreShown response)) := by
  obtain ⟨payload, hsent⟩ := exists_sent h
  -- either the opening lines can be shown and the request decides, or the command fails before it
  obtain ⟨hclosing, hfailure⟩ := exit_conduct h hsent deliver s
  have hopening := isShown_openingLines_iff h
  refine ⟨payload, hsent, ?_, fun hcall => ?_, fun form haction => ?_⟩
  · by_cases hshown : ∀ line ∈ invocation.openingLines, IsShown line
    · rw [hclosing hshown]
      exact exit_closing_le_one h
    · rw [hfailure hshown]
  · by_cases hshown : ∀ line ∈ invocation.openingLines, IsShown line
    · rw [hclosing hshown, exit_closing_iff, and_iff_right (hopening.mp hshown hcall)]
      exact exists_congr fun response => and_congr_right (exit_closing_command_iff h hcall)
    · have haddress : ¬ (invocation.verbose = true → IsShown (Invocation.addressLine address)) :=
        fun haddress => hshown (hopening.mpr fun _ => haddress)
      rw [hfailure hshown]
      simp [haddress]
  · obtain rfl : call = .status := by
      simp only [Invocation.request?, haction] at h
      cases h
      rfl
    rw [hclosing (hopening.mpr fun hcall => absurd rfl hcall)]
    exact exit_closing_status_iff haction

/-- A pause that is accepted ends with success, also if the address is told. -/
theorem exit_status_of_pause :
    (Invocation.mk true (.pause {})).request? = some ({}, .pause) ∧
      ((Invocation.mk true (.pause {})).conduct
        (fun s _ _ _ => (s, .replied 200 "\x7b\"ok\": true\x7d")) ()).2.exit = 0 := by
  have hrequest : (Invocation.mk true (.pause {})).request? = some ({}, .pause) := rfl
  obtain ⟨payload, _, _, hpause, _⟩ := exit_status_of_request hrequest
    (fun s _ _ _ => (s, .replied 200 "\x7b\"ok\": true\x7d")) ()
  have haddress : IsShown (Invocation.addressLine {}) :=
    isShown_styled (by decide +kernel) (by decide +kernel)
  have hanswered : Client.Call.pause.IsAnswered (.replied 200 "\x7b\"ok\": true\x7d")
      (.command { ok := true }) :=
    ⟨200, _, .obj [("ok", .bool true)], rfl, by decide, by decide, by cbv, by cbv⟩
  have hcall : Client.Call.pause ≠ .status := by simp
  exact ⟨hrequest, (hpause hcall).mpr ⟨fun _ => haddress, _, hanswered, rfl⟩⟩

/-- A status that tells a failure is answered with, and the command that shows it ends with success. -/
theorem status_of_failure_succeeds :
    Client.Call.status.IsAnswered (.replied 200 "\x7b\"ok\": false, \"state\": \"idle\"\x7d")
      (.status { ok := false, state := .idle }) ∧
    ((Invocation.mk false (.status {} .table)).conduct
      (fun s _ _ _ => (s, .replied 200 "\x7b\"ok\": false, \"state\": \"idle\"\x7d")) ()).2.exit = 0 := by
  have hanswered : Client.Call.status.IsAnswered
      (.replied 200 "\x7b\"ok\": false, \"state\": \"idle\"\x7d")
      (.status { ok := false, state := .idle }) :=
    ⟨200, _, .obj [("ok", .bool false), ("state", .str "idle")], rfl, by decide, by decide, by cbv, by cbv⟩
  have hnames : NamesAreShown { ok := false, state := .idle } :=
    ⟨Markup.exists_show_of_not_mem (by decide), Markup.exists_show_of_not_mem (by decide)⟩
  refine ⟨hanswered, ?_⟩
  have hrequest : (Invocation.mk false (.status {} .table)).request? = some ({}, .status) := rfl
  rw [(exit_conduct hrequest rfl _ ()).1 (List.forall_mem_nil _)]
  exact (exit_closing_status_iff rfl).mpr ⟨_, hanswered, fun _ => hnames⟩

end CommandLine

end Cutover
