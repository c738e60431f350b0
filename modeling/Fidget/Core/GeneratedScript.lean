import Fidget.Core.MvmeInitScript.Values
import Fidget.Core.ScpConfiguration
import Fidget.Lib.NumberText

/-!
# Generated init scripts

What the two exporters write: comments, writes in the long and in the short form, and the waits
between them. A generated script is kept as its lines; its text and the register writes that it
makes are read off them.

## Main results

- `ScriptLine`: the kinds of lines.
- `GeneratedScript.text`, `GeneratedScript.writes`: what is read off a script.
-/

namespace Fidget

open MvmeInitScript NumberText

/-- The lines that the exporters write. -/
inductive ScriptLine where
  | blank
  | comment (text : Text)
  | longWrite (registerOffset value : UInt16)
  /-- The pause after a long write. -/
  | settle
  | shortWrite (registerOffset value : UInt16) (remark : Text)
  deriving DecidableEq, Repr

namespace ScriptLine

/-- Four digits, with the prefix. -/
def hexadecimal16 (value : UInt16) : Text := '0' :: 'x' :: hexadecimal 4 value.toNat

/-- Eight digits, with the prefix. -/
def hexadecimal32 (value : UInt32) : Text := '0' :: 'x' :: hexadecimal 8 value.toNat

/-- The line without its newline. -/
def text : ScriptLine → Text
  | blank => []
  | comment text => text
  | longWrite registerOffset value =>
    "write a32 d16 ".toList ++ hexadecimal16 registerOffset ++ ' ' :: hexadecimal16 value
  | settle => "wait 1ms".toList
  | shortWrite registerOffset value remark =>
    hexadecimal16 registerOffset ++ ' ' :: decimal value.toNat ++ remark

/-- The write to a register of the module that the line is, if it is one. -/
def write? : ScriptLine → Option (UInt16 × UInt16)
  | longWrite registerOffset value => some (registerOffset, value)
  | shortWrite registerOffset value _ => some (registerOffset, value)
  | _ => none

end ScriptLine

/-- A script, line by line. -/
abbrev GeneratedScript := List ScriptLine

namespace GeneratedScript

def text (script : GeneratedScript) : String :=
  String.ofList (script.flatMap fun line => line.text ++ ['\n'])

/-- The register writes of the script, in order. -/
def writes (script : GeneratedScript) : List (UInt16 × UInt16) := script.filterMap ScriptLine.write?

@[simp] theorem writes_nil : writes [] = [] := rfl

@[simp] theorem writes_append (script script' : GeneratedScript) :
    writes (script ++ script') = writes script ++ writes script' := List.filterMap_append

end GeneratedScript

end Fidget
