import Fidget.Core.MvmeInitScript.Values

/-!
# Lines of init scripts

The second part of `core/MvmeInitScript.cpp`: a script without its comments, the lines of it, and
the parts of a line before and after its variables and expressions are expanded.

## Main results

- `stripComments`, `splitLines`: a script as lines without comments.
- `prepareLine`: a line as the parts that are evaluated.
-/

namespace Fidget

namespace MvmeInitScript

/-! ### Comments -/

/-- What the characters belong to. -/
inductive CommentState where
  | code
  | line
  | block
  deriving DecidableEq, Repr

structure CommentStripResult where
  text : Text
  unterminatedBlock : Bool
  deriving DecidableEq, Repr

/-- The text with blanks for comments, and the state at its end. -/
def stripCommentsFrom : CommentState → Text → Text × CommentState
  | state, [] => ([], state)
  | .line, '\n' :: rest =>
    let (text, last) := stripCommentsFrom .code rest
    ('\n' :: text, last)
  | .line, _ :: rest =>
    let (text, last) := stripCommentsFrom .line rest
    (' ' :: text, last)
  | .block, '*' :: '/' :: rest =>
    let (text, last) := stripCommentsFrom .code rest
    (' ' :: ' ' :: text, last)
  | .block, c :: rest =>
    let (text, last) := stripCommentsFrom .block rest
    ((if c = '\n' then '\n' else ' ') :: text, last)
  | .code, '#' :: rest =>
    let (text, last) := stripCommentsFrom .line rest
    (' ' :: text, last)
  | .code, '/' :: '*' :: rest =>
    let (text, last) := stripCommentsFrom .block rest
    (' ' :: ' ' :: text, last)
  | .code, c :: rest =>
    let (text, last) := stripCommentsFrom .code rest
    (c :: text, last)

/-- Comments become blanks, so that every line keeps its number. -/
def stripComments (script : Text) : CommentStripResult :=
  let (text, last) := stripCommentsFrom .code script
  { text, unterminatedBlock := last = .block }

/-- The lines of a text; it has one more than it has newlines. -/
def splitLines (text : Text) : List Text := text.splitOn '\n'

/-! ### Parts -/

/-- The parts, or that a quote was left open. -/
structure AtomicPartsResult where
  success : Bool := false
  parts : List Text := []
  reason : MvmeInitScriptUnresolvedReason := .malformedScript
  deriving DecidableEq, Repr

/-- Where in a line the splitting is. -/
inductive AtomState where
  | plain
  | quoted
  /-- In a `${` or a `$(` with so many of its brackets open. -/
  | reference (opening : Char) (depth : Nat)
  deriving DecidableEq, Repr

/-- A part that is not empty is complete. -/
def flushPart (part : Text) (parts : List Text) : List Text :=
  if part = [] then parts else parts ++ [part]

/-- Blanks separate parts, except in quotes and in expressions. -/
def splitAtomicPartsFrom : AtomState → (part : Text) → (parts : List Text) → Text →
    AtomicPartsResult
  | .plain, part, parts, [] => { success := true, parts := flushPart part parts }
  | .plain, part, parts, '$' :: '{' :: rest =>
    splitAtomicPartsFrom (.reference '{' 1) (part ++ ['$', '{']) parts rest
  | .plain, part, parts, '$' :: '(' :: rest =>
    splitAtomicPartsFrom (.reference '(' 1) (part ++ ['$', '(']) parts rest
  | .plain, part, parts, '"' :: rest => splitAtomicPartsFrom .quoted part parts rest
  | .plain, part, parts, c :: rest =>
    if isSpace c then splitAtomicPartsFrom .plain [] (flushPart part parts) rest
    else splitAtomicPartsFrom .plain (part ++ [c]) parts rest
  | .quoted, _, parts, [] => { parts }
  | .quoted, part, parts, '\\' :: c :: rest => splitAtomicPartsFrom .quoted (part ++ [c]) parts rest
  | .quoted, part, parts, '"' :: rest => splitAtomicPartsFrom .plain part parts rest
  | .quoted, part, parts, c :: rest => splitAtomicPartsFrom .quoted (part ++ [c]) parts rest
  | .reference opening _, _, parts, [] =>
    { parts, reason := if opening = '{' then .undefinedVariable else .unsupportedExpression }
  | .reference opening depth, part, parts, c :: rest =>
    let closing := if opening = '{' then '}' else ')'
    let depth :=
      if opening = '(' && c = opening then depth + 1
      else if c = closing then depth - 1
      else depth
    splitAtomicPartsFrom (if depth = 0 then .plain else .reference opening depth) (part ++ [c])
      parts rest

def splitAtomicParts (line : Text) : AtomicPartsResult := splitAtomicPartsFrom .plain [] [] line

/-! ### Prepared lines -/

/-- The parts, or why there are none. -/
structure PreparedLine where
  success : Bool := false
  parts : List Text := []
  rawParts : List Text := []
  reason : MvmeInitScriptUnresolvedReason := .malformedScript
  deriving DecidableEq, Repr

/-- Every part expanded once; the reason of the first that cannot be. -/
def expandParts (resolver : ValueResolver) (parts : List Text) :
    Except MvmeInitScriptUnresolvedReason (List Text) :=
  parts.mapM fun part =>
    let expanded := resolver.expandAndEvaluateOnce part
    if expanded.success then .ok expanded.text else .error expanded.reason

/-- Every part split again; the reason of the first that cannot be. -/
def resplitParts (parts : List Text) : Except MvmeInitScriptUnresolvedReason (List Text) := do
  let split ← parts.mapM fun part =>
    let split := splitAtomicParts part
    if split.success then .ok split.parts else .error split.reason
  return split.flatten

/-- The command may be written in any case. -/
def lowerFront : List Text → List Text
  | [] => []
  | front :: parts => lower front :: parts

/-- The parts of a line, or the reason why it has none. -/
def preparedParts (line : Text) (resolver : ValueResolver) :
    Except MvmeInitScriptUnresolvedReason (List Text) :=
  let initial := splitAtomicParts line
  if !initial.success || initial.parts = [] then .error initial.reason
  else do
    let expanded ← expandParts resolver initial.parts
    let parts := lowerFront expanded
    let command := parts.headD []
    -- One more pass of splitting and expanding, except for the commands of fixed arity.
    let parts ←
      if command = "set".toList || command = "accu_test".toList
          || command = "accu_test_warn".toList then
        .ok parts
      else do
        let reparsed ← resplitParts parts
        if reparsed = [] then .error .malformedScript
        else
          let expanded ← expandParts resolver reparsed
          .ok (lowerFront expanded)
    if parts.any expansionStart then .error .expansionLimitReached
    else .ok parts

/-- Split, expand, split again, expand again. -/
def prepareLine (line : Text) (resolver : ValueResolver) : PreparedLine :=
  let rawParts := (splitAtomicParts line).parts
  match preparedParts line resolver with
  | .error reason => { rawParts, reason }
  | .ok parts => { success := true, parts, rawParts }

end MvmeInitScript

end Fidget
