import Fidget.Core.MvmeInitScript.Lines

/-!
# A script as lines

A script's text put together from its lines, and what remains of each line when the comments are
taken out: a line hands on to the next only whether a block comment is open.

Comments may reach over several lines, so the lines of a script cannot be looked at one by one. What
a line needs to know of the lines in front of it is a state: whether a comment is open, and of which
kind.

## Main results

- `stripCommentsFrom_newline_append`: a line is stripped on its own, in the comment state that the
  lines before it leave.
- `splitLines_stripComments`: stripping a script and splitting it into lines can be exchanged.
- `stripComments_layout`: every character stays at its place or becomes a blank, line ends stay, and
  stripping twice is stripping once.
-/

namespace Fidget

namespace MvmeInitScript

/-- The text that has these lines. -/
def joinLines (lines : List Text) : Text := List.intercalate ['\n'] lines

/-- A comment that started with `#` ends with its line. -/
def afterNewline : CommentState → CommentState
  | .line => .code
  | state => state

/-- The state behind a line and its newline. -/
def commentStateAfter (state : CommentState) (line : Text) : CommentState :=
  afterNewline (stripCommentsFrom state line).2

/-- The lines without their comments. -/
def stripLines : CommentState → List Text → List Text
  | _, [] => []
  | state, line :: lines =>
    (stripCommentsFrom state line).1 :: stripLines (commentStateAfter state line) lines

/-- The state behind all the lines. -/
def commentStateAfterLines (state : CommentState) (lines : List Text) : CommentState :=
  lines.foldl commentStateAfter state

/-- The lines behind begin in the state that the lines in front leave. -/
theorem stripLines_append (state : CommentState) (lines lines' : List Text) :
    stripLines state (lines ++ lines') =
      stripLines state lines ++ stripLines (commentStateAfterLines state lines) lines' := by
  induction lines generalizing state with
  | nil => rfl
  | cons line lines ih => exact congrArg _ (ih _)

/-- No line is added or lost. -/
theorem length_stripLines (state : CommentState) (lines : List Text) :
    (stripLines state lines).length = lines.length := by
  induction lines generalizing state with
  | nil => rfl
  | cons line lines ih => exact congrArg Nat.succ (ih _)

/-- A comment mark does not reach across a newline. -/
theorem not_mark_append {c first second : Char} (hsecond : '\n' ≠ second) {line : Text}
    (h : ∀ rest, c = first → line = second :: rest → False) (more : Text) :
    ∀ rest, c = first → line ++ '\n' :: more = second :: rest → False := by
  intro rest hc heq
  cases line with
  | nil => exact hsecond (List.cons.inj heq).1
  | cons d line =>
      obtain ⟨rfl, -⟩ := List.cons.inj heq
      exact h line hc rfl

/-- The text behind a line begins in the state that the line leaves. -/
theorem stripCommentsFrom_newline_append {line : Text} (h : '\n' ∉ line) (state : CommentState)
    (rest : Text) : stripCommentsFrom state (line ++ '\n' :: rest) =
      ((stripCommentsFrom state line).1 ++
          '\n' :: (stripCommentsFrom (commentStateAfter state line) rest).1,
        (stripCommentsFrom (commentStateAfter state line) rest).2) := by
  unfold commentStateAfter
  induction state, line using stripCommentsFrom.induct with
  -- the end of the line: what the newline does depends on the state
  | case1 state =>
      cases state with
      | code => simp [stripCommentsFrom, afterNewline]
      | line => simp [stripCommentsFrom, afterNewline]
      | block => simp [stripCommentsFrom, afterNewline]
  -- the line itself has no newline
  | case2 line text last heq ih => exact absurd List.mem_cons_self h
  | case3 c line hc text last heq ih =>
      rw [List.cons_append, stripCommentsFrom.eq_3 _ _ hc, stripCommentsFrom.eq_3 _ _ hc,
        ih fun hline => h (List.mem_cons_of_mem _ hline)]
      rfl
  | case4 line text last heq ih =>
      rw [List.cons_append, List.cons_append, stripCommentsFrom, stripCommentsFrom,
        ih fun hline => h (List.mem_cons_of_mem _ (List.mem_cons_of_mem _ hline))]
      rfl
  -- a character inside a comment, which no mark ends together with the newline
  | case5 c line hc text last heq ih =>
      rw [List.cons_append, stripCommentsFrom.eq_5 _ _ (not_mark_append (by decide) hc rest),
        stripCommentsFrom.eq_5 _ _ hc, ih fun hline => h (List.mem_cons_of_mem _ hline)]
      rfl
  | case6 line text last heq ih =>
      rw [List.cons_append, stripCommentsFrom, stripCommentsFrom,
        ih fun hline => h (List.mem_cons_of_mem _ hline)]
      rfl
  | case7 line text last heq ih =>
      rw [List.cons_append, List.cons_append, stripCommentsFrom, stripCommentsFrom,
        ih fun hline => h (List.mem_cons_of_mem _ (List.mem_cons_of_mem _ hline))]
      rfl
  -- a character that begins no comment, nor does it together with the newline
  | case8 c line hc hmark text last heq ih =>
      rw [List.cons_append, stripCommentsFrom.eq_8 _ _ hc (not_mark_append (by decide) hmark rest),
        stripCommentsFrom.eq_8 _ _ hc hmark, ih fun hline => h (List.mem_cons_of_mem _ hline)]
      rfl

/-- A line stays one line. -/
theorem newline_notMem_stripCommentsFrom {line : Text} (h : '\n' ∉ line) (state : CommentState) :
    '\n' ∉ (stripCommentsFrom state line).1 := by
  induction state, line using stripCommentsFrom.induct with
  | case1 state => simp [stripCommentsFrom]
  | case2 line text last heq ih => exact absurd List.mem_cons_self h
  | case3 c line hc text last heq ih =>
      rw [stripCommentsFrom.eq_3 _ _ hc]
      simpa using ih fun hline => h (List.mem_cons_of_mem _ hline)
  | case4 line text last heq ih =>
      rw [stripCommentsFrom]
      simpa using ih fun hline => h (List.mem_cons_of_mem _ (List.mem_cons_of_mem _ hline))
  | case5 c line hc text last heq ih =>
      have hne : c ≠ '\n' := fun heq => h (heq ▸ List.mem_cons_self)
      rw [stripCommentsFrom.eq_5 _ _ hc]
      simpa [hne] using ih fun hline => h (List.mem_cons_of_mem _ hline)
  | case6 line text last heq ih =>
      rw [stripCommentsFrom]
      simpa using ih fun hline => h (List.mem_cons_of_mem _ hline)
  | case7 line text last heq ih =>
      rw [stripCommentsFrom]
      simpa using ih fun hline => h (List.mem_cons_of_mem _ (List.mem_cons_of_mem _ hline))
  | case8 c line hc hmark text last heq ih =>
      have hne : '\n' ≠ c := fun heq => h (heq ▸ List.mem_cons_self)
      rw [stripCommentsFrom.eq_8 _ _ hc hmark]
      simpa [hne] using ih fun hline => h (List.mem_cons_of_mem _ hline)

/-- The text of the lines, and whether a comment is left open at its end. -/
theorem stripCommentsFrom_joinLines {lines : List Text} (hlines : lines ≠ [])
    (h : ∀ line ∈ lines, '\n' ∉ line) (state : CommentState) :
    (stripCommentsFrom state (joinLines lines)).1 = joinLines (stripLines state lines) ∧
      ((stripCommentsFrom state (joinLines lines)).2 = .block ↔
        commentStateAfterLines state lines = .block) := by
  induction lines generalizing state with
  | nil => exact absurd rfl hlines
  | cons line lines ih =>
      cases lines with
      | nil =>
          have hjoin : joinLines [line] = line := List.intercalate_singleton
          rw [hjoin]
          refine ⟨List.intercalate_singleton.symm, ?_⟩
          show _ ↔ afterNewline _ = _
          cases (stripCommentsFrom state line).2 <;> simp [afterNewline]
      | cons next lines =>
          have hjoin (line next : Text) (lines : List Text) :
              joinLines (line :: next :: lines) = line ++ '\n' :: joinLines (next :: lines) := by
            simp [joinLines, List.intercalate_cons_cons]
          obtain ⟨htext, hstate⟩ := ih (List.cons_ne_nil _ _)
            (fun line' hline' => h line' (List.mem_cons_of_mem _ hline'))
            (commentStateAfter state line)
          rw [hjoin, stripCommentsFrom_newline_append (h line List.mem_cons_self), htext]
          exact ⟨(hjoin _ _ _).symm, hstate⟩

/-- The lines of a script without its comments. -/
theorem splitLines_stripComments {lines : List Text} (hlines : lines ≠ [])
    (h : ∀ line ∈ lines, '\n' ∉ line) :
    splitLines (stripComments (joinLines lines)).text = stripLines .code lines ∧
      ((stripComments (joinLines lines)).unterminatedBlock = true ↔
        commentStateAfterLines .code lines = .block) := by
  obtain ⟨htext, hstate⟩ := stripCommentsFrom_joinLines hlines h .code
  refine ⟨?_, ?_⟩
  · show splitLines (stripCommentsFrom .code (joinLines lines)).1 = _
    rw [htext]
    apply List.splitOn_intercalate
    · have hstripped : ∀ (state : CommentState) (lines : List Text),
          (∀ line ∈ lines, '\n' ∉ line) → ∀ line ∈ stripLines state lines, '\n' ∉ line := by
        intro state lines
        induction lines generalizing state with
        | nil => intro _ line hline; cases hline
        | cons first lines ih =>
            intro h line hline
            rcases List.mem_cons.mp hline with rfl | hline
            · exact newline_notMem_stripCommentsFrom (h first List.mem_cons_self) state
            · exact ih _ (fun line hline => h line (List.mem_cons_of_mem _ hline)) line hline
      exact hstripped .code lines h
    · intro hnil
      have hlength := length_stripLines .code lines
      rw [hnil] at hlength
      exact hlines (List.length_eq_zero_iff.mp hlength.symm)
  · show decide (_ = CommentState.block) = true ↔ _
    rw [decide_eq_true_eq]
    exact hstate

/-! ### Where the characters stay

Taking comments out replaces characters by blanks and keeps the ends of lines, so that line numbers
and columns are those of the script. -/

/-- A character of a script, and what stands for it once the comments are gone. -/
def KeepsPlace (c d : Char) : Prop := (d = c ∨ d = ' ') ∧ (d = '\n' ↔ c = '\n')

/-- A character that stays. -/
theorem keepsPlace_self (c : Char) : KeepsPlace c c := ⟨.inl rfl, Iff.rfl⟩

/-- A character may become a blank, unless it ends a line. -/
theorem keepsPlace_blank {c : Char} (h : c ≠ '\n') : KeepsPlace c ' ' :=
  ⟨.inr rfl, iff_of_false (by decide) h⟩

/-- Every character stays or becomes a blank. -/
theorem forall₂_stripCommentsFrom (state : CommentState) (text : Text) :
    List.Forall₂ KeepsPlace text (stripCommentsFrom state text).1 := by
  fun_induction stripCommentsFrom state text with
  | case1 state => exact .nil
  -- a line break ends a line comment and stays
  | case2 rest text last heq ih =>
      rw [heq] at ih
      exact .cons (keepsPlace_self _) ih
  | case3 c rest hc text last heq ih =>
      rw [heq] at ih
      exact .cons (keepsPlace_blank hc) ih
  -- the end of a block comment: two blanks
  | case4 rest text last heq ih =>
      rw [heq] at ih
      exact .cons (keepsPlace_blank (by decide)) (.cons (keepsPlace_blank (by decide)) ih)
  -- inside a block comment line breaks stay, everything else becomes a blank
  | case5 c rest hc text last heq ih =>
      rw [heq] at ih
      refine .cons ?_ ih
      split
      next hnewline => exact hnewline ▸ keepsPlace_self _
      next hnewline => exact keepsPlace_blank hnewline
  | case6 rest text last heq ih =>
      rw [heq] at ih
      exact .cons (keepsPlace_blank (by decide)) ih
  -- the start of a block comment: two blanks
  | case7 rest text last heq ih =>
      rw [heq] at ih
      exact .cons (keepsPlace_blank (by decide)) (.cons (keepsPlace_blank (by decide)) ih)
  -- plain code stays as it is
  | case8 c rest hc hblock text last heq ih =>
      rw [heq] at ih
      exact .cons (keepsPlace_self c) ih

/-- What stands first without the comments stood first with them, unless it is a blank. -/
theorem head?_of_stripCommentsFrom {state : CommentState} {text : Text} {c : Char} (hc : c ≠ ' ')
    (h : (stripCommentsFrom state text).1.head? = some c) : text.head? = some c := by
  have hplaces := forall₂_stripCommentsFrom state text
  generalize (stripCommentsFrom state text).1 = stripped at h hplaces
  cases hplaces with
  | nil => exact h
  | cons hplace hrest =>
      rw [List.head?_cons, Option.some.injEq] at h
      subst h
      rcases hplace.1 with hsame | hblank
      · rw [hsame, List.head?_cons]
      · exact absurd hblank hc

/-- A text without comments stays as it is. -/
theorem stripCommentsFrom_stripped (state : CommentState) (text : Text) :
    stripCommentsFrom .code (stripCommentsFrom state text).1 =
      ((stripCommentsFrom state text).1, .code) := by
  have hplain {c : Char} {rest : Text} (hhash : c ≠ '#')
      (hmark : ∀ more, c = '/' → rest = '*' :: more → False)
      (h : stripCommentsFrom .code rest = (rest, .code)) :
      stripCommentsFrom .code (c :: rest) = (c :: rest, .code) := by
    rw [stripCommentsFrom, h]
    · exact hhash
    · exact hmark
  fun_induction stripCommentsFrom state text with
  | case1 state => rfl
  | case2 rest text last heq ih =>
      rw [heq] at ih
      exact hplain (by decide) (fun _ hslash _ => absurd hslash (by decide)) ih
  | case3 c rest hc text last heq ih =>
      rw [heq] at ih
      exact hplain (by decide) (fun _ hslash _ => absurd hslash (by decide)) ih
  | case4 rest text last heq ih =>
      rw [heq] at ih
      exact hplain (by decide) (fun _ hslash _ => absurd hslash (by decide)) (hplain (by decide) (fun _ hslash _ => absurd hslash (by decide)) ih)
  | case5 c rest hc text last heq ih =>
      rw [heq] at ih
      split
      · exact hplain (by decide) (fun _ hslash _ => absurd hslash (by decide)) ih
      · exact hplain (by decide) (fun _ hslash _ => absurd hslash (by decide)) ih
  | case6 rest text last heq ih =>
      rw [heq] at ih
      exact hplain (by decide) (fun _ hslash _ => absurd hslash (by decide)) ih
  | case7 rest text last heq ih =>
      rw [heq] at ih
      exact hplain (by decide) (fun _ hslash _ => absurd hslash (by decide)) (hplain (by decide) (fun _ hslash _ => absurd hslash (by decide)) ih)
  | case8 c rest hc hblock text last heq ih =>
      rw [heq] at ih
      -- A mark that opens a comment now would have opened it before.
      refine hplain hc (fun more hslash hstar => ?_) ih
      have hhead : (stripCommentsFrom .code rest).1.head? = some '*' := by
        rw [heq, hstar]
        rfl
      obtain ⟨more', hrest⟩ :=
        List.head?_eq_some_iff.mp (head?_of_stripCommentsFrom (by decide) hhead)
      exact hblock more' hslash hrest

/-- Taking the comments out leaves every character in its place, or a blank in it, and every newline
a newline, so that lines keep their numbers. What is left has no comments. -/
theorem stripComments_layout (script : Text) :
    List.Forall₂ (fun c d => (d = c ∨ d = ' ') ∧ (d = '\n' ↔ c = '\n')) script
        (stripComments script).text ∧
      stripComments (stripComments script).text =
        { text := (stripComments script).text, unterminatedBlock := false } := by
  constructor
  · exact forall₂_stripCommentsFrom .code script
  · have hstripped := stripCommentsFrom_stripped .code script
    unfold stripComments
    rw [hstripped]
    rfl

end MvmeInitScript

end Fidget
