import Cutover.CommandLine.Launch
import Mathlib.Data.List.TakeDrop
import Mathlib.Data.List.TakeWhile

/-!
# Escaped text between marks

A text in which every mark stands for itself can be shown in a style, whatever the text is.  Main statement:
`Markup.exists_show_styled`.

In such a text every mark stands behind an odd number of backslashes, so it switches nothing.  What has to be
seen is that escaping makes no new marks, neither inside the text nor with the mark behind it.  Whether a
mark begins at a bracket depends on the first bracket behind it alone (`Markup.readMark?_eq_none_iff`), and
the backslashes that are put into the text stand in front of opening brackets.
-/

namespace Cutover.CommandLine.Markup

variable {c : Char} {cs inside after : List Char} {count fuel : Nat}

/-- Whether a character is a square bracket. -/
def isBracket (c : Char) : Bool :=
  c = ']' || c = '['

/-- What stands between the brackets of a mark. -/
def IsInside : List Char → Prop
  | [] => False
  | c :: cs => isMarkStart c = true ∧ ∀ d ∈ cs, isBracket d = false

/-! ### Reading a mark -/

theorem readMark?_cons (c : Char) (cs : List Char) : readMark? (c :: cs) =
    if isMarkStart c then
      match cs.dropWhile (!isBracket ·) with
      | ']' :: rest => some (c :: cs.takeWhile (!isBracket ·), rest)
      | _ => none
    else none := by
  have hinside : (fun d : Char => d ≠ ']' && d ≠ '[') = fun d => !isBracket d := by
    funext d
    simp [isBracket]
  unfold readMark?
  simp only [hinside, List.span_eq_takeWhile_dropWhile]
  cases cs.dropWhile (!isBracket ·) with
  | nil => rfl
  | cons d rest =>
    by_cases hd : d = ']'
    · subst hd
      rfl
    · simp [hd]

/-- No mark is read exactly if none may begin there or if the next bracket does not close it. -/
theorem readMark?_eq_none_iff :
    readMark? (c :: cs) = none ↔ (isMarkStart c = true → cs.find? isBracket ≠ some ']') := by
  rw [readMark?_cons, List.find?_eq_head?_dropWhile_not]
  cases isMarkStart c with
  | false => simp
  | true =>
    cases cs.dropWhile (!isBracket ·) with
    | nil => simp
    | cons d rest =>
      by_cases h : d = ']'
      · simp [h]
      · simp [h]

theorem readMark?_eq_some (h : readMark? cs = some (inside, after)) :
    IsInside inside ∧ cs = inside ++ ']' :: after := by
  cases cs with
  | nil => cases h
  | cons c cs =>
    rw [readMark?_cons] at h
    split at h
    case isFalse => cases h
    case isTrue hstart =>
      split at h
      case h_2 => cases h
      case h_1 rest hrest =>
        obtain ⟨rfl, rfl⟩ := Prod.mk.inj (Option.some.inj h)
        refine ⟨⟨hstart, fun d hd => ?_⟩, ?_⟩
        · simpa using List.mem_takeWhile_imp hd
        · rw [List.cons_append, ← hrest, List.takeWhile_append_dropWhile]

theorem readMark?_inside (h : IsInside inside) (after : List Char) :
    readMark? (inside ++ ']' :: after) = some (inside, after) := by
  cases inside with
  | nil => cases h
  | cons c cs =>
    obtain ⟨hstart, hcs⟩ := h
    have hpass : ∀ d ∈ cs, (!isBracket d) = true := fun d hd => by rw [hcs d hd]; rfl
    rw [List.cons_append, readMark?_cons, if_pos hstart, List.dropWhile_append_of_pos hpass,
      List.takeWhile_append_of_pos hpass, List.dropWhile_cons_of_neg (by decide),
      List.takeWhile_cons_of_neg (by decide), List.append_nil]
    rfl

/-! ### Backslashes in front of a mark -/

theorem readMarkBehind?_backslash (cs : List Char) :
    readMarkBehind? ('\\' :: cs) = (readMarkBehind? cs).map fun read => (read.1 + 1, read.2) := by
  unfold readMarkBehind?
  simp only [List.span_eq_takeWhile_dropWhile]
  rw [List.takeWhile_cons_of_pos rfl, List.dropWhile_cons_of_pos rfl]
  split
  case h_1 rest h =>
    rw [Option.map_map]
    rfl
  case h_2 => rfl

theorem readMarkBehind?_bracket (cs : List Char) :
    readMarkBehind? ('[' :: cs) = (readMark? cs).map fun read => (0, read) := rfl

theorem readMarkBehind?_other (h : c ≠ '\\') (hbracket : c ≠ '[') (cs : List Char) :
    readMarkBehind? (c :: cs) = none := by
  have hstop : ¬ (fun d : Char => d == '\\') c = true := by simpa using h
  unfold readMarkBehind?
  simp only [List.span_eq_takeWhile_dropWhile]
  rw [@List.dropWhile_cons_of_neg _ (· == '\\') c cs hstop]
  split
  case h_1 hrest => exact absurd (List.cons.inj hrest).1 hbracket
  case h_2 => rfl

/-- A mark is read behind any number of backslashes. -/
theorem readMarkBehind?_replicate (count : Nat) (cs : List Char) :
    readMarkBehind? (List.replicate count '\\' ++ '[' :: cs) =
      (readMark? cs).map fun read => (count, read) := by
  induction count with
  | zero => rfl
  | succ count ih =>
    rw [List.replicate_succ, List.cons_append, readMarkBehind?_backslash, ih, Option.map_map]
    rfl

/-- What is read is a mark behind backslashes. -/
theorem readMarkBehind?_eq_some (h : readMarkBehind? cs = some (count, inside, after)) :
    IsInside inside ∧ cs = List.replicate count '\\' ++ '[' :: (inside ++ ']' :: after) := by
  induction cs generalizing count with
  | nil => cases h
  | cons c cs ih =>
    by_cases hbackslash : c = '\\'
    · subst hbackslash
      rw [readMarkBehind?_backslash, Option.map_eq_some_iff] at h
      obtain ⟨⟨before, read⟩, hread, heq⟩ := h
      obtain ⟨rfl, rfl⟩ := Prod.mk.inj heq
      obtain ⟨hinside, hcs⟩ := ih hread
      refine ⟨hinside, ?_⟩
      rw [hcs, List.replicate_succ, List.cons_append]
    · by_cases hbracket : c = '['
      · subst hbracket
        rw [readMarkBehind?_bracket, Option.map_eq_some_iff] at h
        obtain ⟨read, hread, heq⟩ := h
        obtain ⟨rfl, rfl⟩ := Prod.mk.inj heq
        obtain ⟨hinside, hcs⟩ := readMark?_eq_some hread
        refine ⟨hinside, ?_⟩
        rw [hcs]
        rfl
      · rw [readMarkBehind?_other hbackslash hbracket] at h
        cases h

/-! ### Escaping -/

/-- A text and its escaped form: the backslashes in front of a mark are doubled and there is one more, and any
other character stands as it is. -/
inductive Escapes : List Char → List Char → Prop
  | nil : Escapes [] []
  | mark {inside after escaped : List Char} (count : Nat) (hinside : IsInside inside)
      (h : Escapes after escaped) :
    Escapes (List.replicate count '\\' ++ '[' :: (inside ++ ']' :: after))
      (List.replicate (2 * count + 1) '\\' ++ '[' :: (inside ++ ']' :: escaped))
  | skip {c : Char} {rest escaped : List Char} (hread : readMarkBehind? (c :: rest) = none)
      (h : Escapes rest escaped) : Escapes (c :: rest) (c :: escaped)

theorem escapes_escapeChars (hfuel : cs.length ≤ fuel) : Escapes cs (escapeChars fuel cs) := by
  fun_induction escapeChars fuel cs with
  | case1 cs =>
    obtain rfl : cs = [] := List.length_eq_zero_iff.mp (Nat.le_zero.mp hfuel)
    exact .nil
  | case2 => exact .nil
  | case3 fuel c rest count inside after hread ih =>
    obtain ⟨hinside, hcs⟩ := readMarkBehind?_eq_some hread
    have hshorter : after.length < (c :: rest).length := by
      rw [hcs]
      simp only [List.length_append, List.length_cons]
      omega
    have hafter : Escapes after (escapeChars fuel after) :=
      ih (Nat.le_of_lt_succ (Nat.lt_of_lt_of_le hshorter hfuel))
    simp only [hread, List.append_assoc, List.cons_append]
    rw [hcs]
    exact .mark count hinside hafter
  | case4 fuel c rest hread ih =>
    simp only [hread]
    exact .skip hread (ih (Nat.le_of_succ_le_succ hfuel))

section Ends

/-! What follows an escaped text is a mark, perhaps behind backslashes: `ends` below. -/

theorem find?_backslashes (count : Nat) (cs : List Char) :
    (List.replicate count '\\' ++ '[' :: cs).find? isBracket = some '[' := by
  have hbackslashes : (List.replicate count '\\').find? isBracket = none := by
    rw [List.find?_eq_none]
    intro d hd
    rw [List.eq_of_mem_replicate hd]
    decide
  rw [List.find?_append, hbackslashes]
  rfl

theorem readMark?_backslashes (count : Nat) (cs : List Char) :
    readMark? (List.replicate count '\\' ++ '[' :: cs) = none := by
  cases count with
  | zero => rfl
  | succ count =>
    rw [List.replicate_succ, List.cons_append, readMark?_eq_none_iff]
    intro hstart
    exact absurd hstart (by decide)

variable {escaped ends tail : List Char}

/-- Escaping keeps which bracket comes first, unless the first one is a closing bracket. -/
theorem Escapes.find?_isBracket (h : Escapes cs escaped) (hends : ends.find? isBracket = some '[')
    (hfirst : cs.find? isBracket ≠ some ']') : (escaped ++ ends).find? isBracket = some '[' := by
  induction h with
  | nil => exact hends
  | mark count =>
    rw [List.append_assoc, List.cons_append]
    exact find?_backslashes _ _
  | @skip c rest escaped _ _ ih =>
    rw [List.find?_cons] at hfirst
    rw [List.cons_append, List.find?_cons]
    cases hc : isBracket c with
    | false =>
      rw [hc] at hfirst
      exact ih hfirst
    | true =>
      rw [hc] at hfirst
      have hnot : c ≠ ']' := fun e => hfirst (congrArg some e)
      have hopening : c = '[' := by simpa [isBracket, hnot] using hc
      rw [hopening]

/-- Escaping makes no mark behind a bracket where there was none. -/
theorem Escapes.readMark?_eq_none (h : Escapes cs escaped) (hends : ends.find? isBracket = some '[')
    (hmark : readMark? ends = none) (hread : readMark? cs = none) :
    readMark? (escaped ++ ends) = none := by
  cases h with
  | nil => exact hmark
  | mark count =>
    rw [List.append_assoc, List.cons_append]
    exact readMark?_backslashes _ _
  | @skip c rest escaped _ hrest =>
    rw [readMark?_eq_none_iff] at hread
    rw [List.cons_append, readMark?_eq_none_iff]
    intro hstart
    have hfirst : (escaped ++ ends).find? isBracket = some '[' :=
      hrest.find?_isBracket hends (hread hstart)
    rw [hfirst]
    decide

/-- Where no mark is read, none is read after escaping either, unless only backslashes are left: then it is
the mark behind the text. -/
theorem Escapes.readMarkBehind?_cases {more : Nat} (h : Escapes cs escaped)
    (hends : ends = List.replicate more '\\' ++ '[' :: tail) (hread : readMarkBehind? cs = none) :
    readMarkBehind? (escaped ++ ends) = none ∨
      ∃ count, escaped ++ ends = List.replicate count '\\' ++ '[' :: tail := by
  have hfirst : ends.find? isBracket = some '[' := by
    rw [hends]
    exact find?_backslashes _ _
  have hmark : readMark? ends = none := by
    rw [hends]
    exact readMark?_backslashes _ _
  induction h with
  | nil => exact Or.inr ⟨more, hends⟩
  | mark count hinside =>
    rw [readMarkBehind?_replicate, readMark?_inside hinside] at hread
    cases hread
  | @skip c rest escaped _ hrest ih =>
    rw [List.cons_append]
    by_cases hbackslash : c = '\\'
    · -- one more backslash in front of no mark, or of the mark behind the text
      subst hbackslash
      rw [readMarkBehind?_backslash, Option.map_eq_none_iff] at hread
      rcases ih hread with hnone | ⟨count, heq⟩
      · left
        rw [readMarkBehind?_backslash, hnone]
        rfl
      · right
        exact ⟨count + 1, congrArg (List.cons '\\') heq⟩
    · left
      by_cases hopening : c = '['
      · -- an opening bracket at which no mark begins: none begins there after escaping
        subst hopening
        rw [readMarkBehind?_bracket, Option.map_eq_none_iff] at hread ⊢
        exact hrest.readMark?_eq_none hfirst hmark hread
      · exact readMarkBehind?_other hbackslash hopening _

end Ends

/-! ### Showing -/

variable {position : Nat} {styles : List String} {pending : List Char}

theorem showChars_skip (h : readMarkBehind? (c :: cs) = none) :
    showChars (fuel + 1) position styles pending (c :: cs) =
      showChars fuel (position + 1) styles (c :: pending) cs := by
  rw [showChars, h]

/-- A mark behind an odd number of backslashes is shown, and any other switches the styles. -/
theorem exists_showChars_mark (left : List String)
    (h : readMarkBehind? cs = some (count, inside, after))
    (hswitch : count % 2 ≠ 1 → switch (position + count) inside styles = .ok left)
    (hafter : ∀ position, ∃ shown,
      showChars fuel position (if count % 2 = 1 then styles else left) [] after = .ok shown) :
    ∃ shown, showChars (fuel + 1) position styles pending cs = .ok shown := by
  obtain ⟨shown, hshown⟩ := hafter (position + count + inside.length + 2)
  cases cs with
  | nil => cases h
  | cons c rest =>
    rw [showChars, h]
    by_cases hodd : count % 2 = 1
    · rw [if_pos hodd] at hshown
      simp only [if_pos hodd, hshown]
      exact ⟨_, rfl⟩
    · rw [if_neg hodd] at hshown
      simp only [if_neg hodd, hswitch hodd]
      exact ⟨_, congrArg (Except.map _) hshown⟩

theorem exists_showChars_nil : ∃ shown, showChars fuel position styles pending [] = .ok shown := by
  cases fuel with
  | zero => exact ⟨_, rfl⟩
  | succ fuel => exact ⟨_, rfl⟩

/-- A mark at the end that switches a style off which is on, whatever the backslashes in front of it. -/
theorem exists_showChars_backslashes (hinside : IsInside inside)
    (hswitch : ∀ position, ∃ left, switch position inside styles = .ok left) :
    ∃ shown, showChars fuel position styles pending
      (List.replicate count '\\' ++ '[' :: (inside ++ [']'])) = .ok shown := by
  cases fuel with
  | zero => exact ⟨_, rfl⟩
  | succ fuel =>
    have hread : readMarkBehind? (List.replicate count '\\' ++ '[' :: (inside ++ [']'])) =
        some (count, inside, []) := by
      rw [readMarkBehind?_replicate, readMark?_inside hinside]
      rfl
    obtain ⟨left, hleft⟩ := hswitch (position + count)
    -- behind an odd number of backslashes the mark is shown instead, and nothing follows it either way
    exact exists_showChars_mark left hread (fun _ => hleft) fun _ => exists_showChars_nil

/-- An escaped text in front of such a mark switches nothing. -/
theorem Escapes.exists_showChars {escaped : List Char} (h : Escapes cs escaped) (hinside : IsInside inside)
    (hswitch : ∀ position, ∃ left, switch position inside styles = .ok left) :
    ∃ shown, showChars fuel position styles pending
      (escaped ++ (List.replicate count '\\' ++ '[' :: (inside ++ [']']))) = .ok shown := by
  induction h generalizing fuel position pending with
  | nil => exact exists_showChars_backslashes hinside hswitch
  | @mark mark after escaped backslashes hmark _ ih =>
    cases fuel with
    | zero => exact ⟨_, rfl⟩
    | succ fuel =>
      -- an odd number of backslashes: the mark is shown, and the styles stay
      have hodd : (2 * backslashes + 1) % 2 = 1 := by omega
      have hread := readMarkBehind?_replicate (2 * backslashes + 1)
        (mark ++ ']' :: (escaped ++ (List.replicate count '\\' ++ '[' :: (inside ++ [']']))))
      rw [readMark?_inside hmark] at hread
      simp only [List.append_assoc, List.cons_append]
      refine exists_showChars_mark styles hread (fun heven => absurd hodd heven) fun position => ?_
      rw [if_pos hodd]
      exact ih
  | @skip c rest escaped hread hrest ih =>
    rcases (Escapes.skip hread hrest).readMarkBehind?_cases rfl hread with hnone | ⟨backslashes, heq⟩
    · cases fuel with
      | zero => exact ⟨_, rfl⟩
      | succ fuel =>
        rw [List.cons_append] at hnone ⊢
        rw [showChars_skip hnone]
        exact ih
    · -- only backslashes are left of the text, and the mark is read behind them
      rw [heq]
      exact exists_showChars_backslashes hinside hswitch

/-- Whether a text has no character with a meaning in marked up text. -/
def isUnmarked (cs : List Char) : Bool :=
  cs.all fun c => c ≠ '\\' && c ≠ '['

/-- A text without such characters can be shown in front of what can be shown. -/
theorem exists_showChars_append {intro : List Char} (hintro : isUnmarked intro = true)
    (h : ∀ fuel position pending, ∃ shown, showChars fuel position styles pending cs = .ok shown) :
    ∃ shown, showChars fuel position styles pending (intro ++ cs) = .ok shown := by
  induction intro generalizing fuel position pending with
  | nil => exact h _ _ _
  | cons c intro ih =>
    rw [isUnmarked, List.all_cons, Bool.and_eq_true, Bool.and_eq_true, decide_eq_true_eq,
      decide_eq_true_eq] at hintro
    obtain ⟨⟨hbackslash, hbracket⟩, hrest⟩ := hintro
    cases fuel with
    | zero => exact ⟨_, rfl⟩
    | succ fuel =>
      rw [List.cons_append, showChars_skip (readMarkBehind?_other hbackslash hbracket _)]
      exact ih hrest

theorem exists_toList_escape (s : String) : ∃ more,
    (escape s).toList = escapeChars s.length s.toList ++ List.replicate more '\\' := by
  unfold escape
  dsimp only
  split
  case h_1 => exact ⟨0, by rw [String.toList_ofList, List.replicate_zero, List.append_nil]⟩
  case h_2 => exact ⟨1, String.toList_ofList⟩
  case h_3 => exact ⟨0, by rw [String.toList_ofList, List.replicate_zero, List.append_nil]⟩

/-- Whether a text is the name of a style in lower-case letters. -/
def isStyle (style : List Char) : Bool :=
  !style.isEmpty && style.all fun c => 'a' ≤ c && c ≤ 'z'

section Style

variable {style : List Char}

theorem forall_letter_of_isStyle (h : isStyle style = true) : ∀ c ∈ style, 'a' ≤ c ∧ c ≤ 'z' := by
  unfold isStyle at h
  rw [Bool.and_eq_true, List.all_eq_true] at h
  intro c hc
  simpa using h.2 c hc

theorem not_isBracket_of_letter (h : 'a' ≤ c ∧ c ≤ 'z') : isBracket c = false := by
  rw [← Bool.not_eq_true]
  intro hbracket
  unfold isBracket at hbracket
  rw [Bool.or_eq_true, decide_eq_true_eq, decide_eq_true_eq] at hbracket
  rcases hbracket with rfl | rfl
  · exact absurd h (by decide)
  · exact absurd h (by decide)

theorem IsInside.of_isStyle (h : isStyle style = true) : IsInside style := by
  have hletters := forall_letter_of_isStyle h
  cases style with
  | nil => cases h
  | cons c style =>
    obtain ⟨hc, hrest⟩ := List.forall_mem_cons.mp hletters
    refine ⟨?_, fun d hd => not_isBracket_of_letter (hrest d hd)⟩
    simp [isMarkStart, hc]

theorem IsInside.off_of_isStyle (h : isStyle style = true) : IsInside ('/' :: style) :=
  ⟨rfl, fun d hd => not_isBracket_of_letter (forall_letter_of_isStyle h d hd)⟩

/-- The name of a style ends where the mark ends. -/
theorem takeWhile_of_isStyle (h : isStyle style = true) : style.takeWhile (· ≠ '=') = style := by
  rw [List.takeWhile_eq_self_iff]
  intro c hc
  rw [decide_eq_true_eq]
  rintro rfl
  exact absurd (forall_letter_of_isStyle h _ hc) (by decide)

theorem switch_style (h : isStyle style = true) :
    switch position style styles = .ok (styleName style :: styles) := by
  have hletters := forall_letter_of_isStyle h
  unfold switch
  simp only [takeWhile_of_isStyle h]
  cases style with
  | nil => cases h
  | cons c style =>
    have hc : c ≠ '/' := by
      rintro rfl
      exact absurd (hletters '/' List.mem_cons_self) (by decide)
    simp [hc]

theorem exists_switch_off (h : isStyle style = true) :
    ∃ left, switch position ('/' :: style) [styleName style] = .ok left := by
  have hname : ('/' :: style).takeWhile (· ≠ '=') = '/' :: style := by
    rw [List.takeWhile_cons_of_pos rfl, takeWhile_of_isStyle h]
  unfold switch
  simp only [hname]
  split
  case isTrue => exact ⟨_, rfl⟩
  case isFalse =>
    rw [if_pos (by simp)]
    exact ⟨_, rfl⟩

/-- What can be shown in a style can be shown behind the mark that switches the style on. -/
theorem exists_showChars_style (h : isStyle style = true)
    (hrest : ∀ fuel position pending, ∃ shown,
      showChars fuel position [styleName style] pending cs = .ok shown) :
    ∃ shown, showChars fuel position [] pending ('[' :: (style ++ ']' :: cs)) = .ok shown := by
  cases fuel with
  | zero => exact ⟨_, rfl⟩
  | succ fuel =>
    have hread : readMarkBehind? ('[' :: (style ++ ']' :: cs)) = some (0, style, cs) := by
      rw [readMarkBehind?_bracket, readMark?_inside (IsInside.of_isStyle h)]
      rfl
    exact exists_showChars_mark _ hread (fun _ => switch_style h) fun _ => hrest _ _ _

/-- **Escaped text can be shown in a style**, whatever the text is and even if it ends in backslashes. -/
theorem exists_show_styled {style intro : String} (hstyle : isStyle style.toList = true)
    (hintro : isUnmarked intro.toList = true) (s : String) :
    ∃ shown, shownText (styled style (intro ++ escape s)) = .ok shown := by
  obtain ⟨more, hescape⟩ := exists_toList_escape s
  have hescapes : Escapes s.toList (escapeChars s.length s.toList) :=
    escapes_escapeChars (Nat.le_of_eq String.length_toList)
  have hclosing : IsInside ('/' :: style.toList) := IsInside.off_of_isStyle hstyle
  have hchars : (styled style (intro ++ escape s)).toList =
      '[' :: (style.toList ++ ']' :: (intro.toList ++ (escapeChars s.length s.toList ++
        (List.replicate more '\\' ++ '[' :: (('/' :: style.toList) ++ [']']))))) := by
    simp [styled, hescape]
  have hshow : ∃ shown, showChars (styled style (intro ++ escape s)).length 0 [] []
      (styled style (intro ++ escape s)).toList = .ok shown := by
    rw [hchars]
    refine exists_showChars_style hstyle fun _ _ _ => ?_
    refine exists_showChars_append hintro fun _ _ _ => ?_
    exact hescapes.exists_showChars hclosing fun _ => exists_switch_off hstyle
  obtain ⟨shown, hshown⟩ := hshow
  unfold shownText show?
  rw [hshown]
  exact ⟨_, rfl⟩

end Style

end Cutover.CommandLine.Markup
