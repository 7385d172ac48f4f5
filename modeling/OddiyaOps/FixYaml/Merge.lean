import OddiyaOps.Python.Str

/-!
# OddiyaOps.FixYaml.Merge

**The script `fix-yaml.py`**: it splits `application.yml` into Spring profiles on the exact
string `'\n---\n'`, merges the root-level `app:` sections of each profile into one at its end
(`merge_app_sections`), and joins the profiles back.

`merge_app_sections` is a scan over the lines of a profile with five variables: the lines kept
in place (`result`), the bodies of the sections closed so far (`app_sections`, each joined into
one string), the section being read (`current_app`, its header first), whether a section is
open (`in_app`) and the header's indentation (`indent_level`). `Scan.step` is one turn of its
`while` loop and `Scan.finish` the code after it. Reading and writing the files is not
modelled: the script's function on contents is `fixContent`.
-/

namespace OddiyaOps.FixYaml

open OddiyaOps.Python

/-- The variables of the loop of `merge_app_sections`. -/
structure Scan where
  result : List String
  appSections : List String
  currentApp : List String
  inApp : Bool
  indentLevel : Nat
  deriving DecidableEq, Repr

/-- The values before the loop. -/
def Scan.init : Scan := ⟨[], [], [], false, 0⟩

/-- `line.strip() == 'app:' and (not line.startswith(' ') or line[:4] == 'app:')`. -/
def isHeader (line : String) : Bool :=
  pyStrip line = "app:" && (!startsWith line " " || (⟨line.toList.take 4⟩ : String) = "app:")

/-- `line.strip()` is non-empty. -/
def nonBlank (line : String) : Bool := pyStrip line ≠ ""

/-- `' ' * n`. -/
def spaces (n : Nat) : String := ⟨List.replicate n ' '⟩

/-- `app_sections.append('\n'.join(current_app[1:]))`: the open section's body, without its
header. -/
def Scan.closeSection (s : Scan) : List String :=
  s.appSections ++ [pyJoin "\n" s.currentApp.tail]

/-- The loop leaves an open section at
`line.strip() and not line.startswith(' ' * (indent_level + 1)) and line.strip() != ''`. -/
def Scan.leaves (s : Scan) (line : String) : Bool :=
  nonBlank line && !startsWith line (spaces (s.indentLevel + 1)) && nonBlank line

/-- One turn of the loop. -/
def Scan.step (s : Scan) (line : String) : Scan :=
  if isHeader line then
    { s with
      appSections := if s.inApp && !s.currentApp.isEmpty then s.closeSection else s.appSections
      inApp := true
      currentApp := [line]
      indentLevel := line.length - (pyLstrip line).length }
  else if s.inApp then
    if s.leaves line then
      { s with
        appSections := if !s.currentApp.isEmpty then s.closeSection else s.appSections
        inApp := false
        currentApp := []
        result := s.result ++ [line] }
    else { s with currentApp := s.currentApp ++ [line] }
  else { s with result := s.result ++ [line] }

/-- After the loop: close the last section, and put the merged one at the end. -/
def Scan.finish (s : Scan) : String :=
  let appSections := if s.inApp && !s.currentApp.isEmpty then s.closeSection else s.appSections
  let result := if !appSections.isEmpty then
      s.result ++ ["app:\n" ++ pyJoin "\n" appSections]
    else s.result
  pyJoin "\n" result

/-- `merge_app_sections(profile_content)`. -/
def mergeAppSections (profileContent : String) : String :=
  ((pySplit profileContent "\n").foldl Scan.step Scan.init).finish

/-- What the script writes for the content it reads. -/
def fixContent (content : String) : String :=
  pyJoin "\n---\n" ((pySplit content "\n---\n").map mergeAppSections)

end OddiyaOps.FixYaml
