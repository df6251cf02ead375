import CommitCheck.Console.Basic
import CommitCheck.Run.Basic

/-!
# Installations

What is known of the program itself: the version that runs, the version that was
installed, and where it is.  It is shown in a panel, a frame of the usual width
around lines of plain text, with a title in the middle of its upper edge.
-/

namespace CommitCheck

/-! ## Panels -/

namespace Console

/-- The width of a panel. -/
def panelWidth : Nat := 80

/-- The width of the text in a panel: the frame and a space are on either side. -/
def panelTextWidth : Nat := panelWidth - 4

/-- A line filled up with spaces to a number of cells. -/
def padCells (width : Nat) (line : Text) : Text := line ++ List.replicate (width - cells line) ' '

/-- So many characters of the edge. -/
def edge (count : Nat) : Text := List.replicate count '─'

/-- The upper edge with its title. -/
def upperEdge (title : Text) : Text :=
  let label := ' ' :: title ++ [' ']
  let spare := panelWidth - 2 - cells label
  '╭' :: edge (spare / 2) ++ label ++ edge (spare - spare / 2) ++ ['╮']

/-- The lower edge. -/
def lowerEdge : Text := '╰' :: edge (panelWidth - 2) ++ ['╯']

/-- A line of text in its frame. -/
def framed (line : Text) : Text := '│' :: ' ' :: padCells panelTextWidth line ++ [' ', '│']

/-- The text of a panel. -/
def panel (title content : Text) : Text :=
  ofLines (upperEdge title :: (wrap panelTextWidth (content.filter (!isSilent ·))).map framed ++
    [lowerEdge]) ++ ['\n']

end Console

/-! ## The program -/

/-- The program as it is installed. -/
structure Installation where
  /-- The version that runs. -/
  current : Text
  /-- The version that was installed, if it is known. -/
  installed : Option Text
  /-- Where the program is. -/
  place : Text
deriving DecidableEq, Inhabited

namespace Installation

/-- The name of the program. -/
def programName : Text := "git-commit-lint"

/-- The version that was installed, in words. -/
def installedText (i : Installation) : Text := i.installed.getD "unknown"

/-- Whether the version that runs is not the one that was installed. -/
def isMixed (i : Installation) : Bool := i.current != i.installedText

/-- The program and its version in a line. -/
def summary (i : Installation) : Text :=
  programName ++ ' ' :: i.current ++
    (if i.isMixed then " (installed: ".toList ++ i.installedText ++ [')'] else [])

/-- All that is known, in lines. -/
def description (i : Installation) : List Text :=
  [programName, "Current version: ".toList ++ i.current,
    "Installed version: ".toList ++ i.installedText, "Installation path: ".toList ++ i.place] ++
    (if i.isMixed then
      (["", "Version mismatch detected!", "Consider reinstalling: pip install -e ."] : List Text)
    else [])

/-- All that is known is shown in a panel. -/
def showPanel (i : Installation) : Run Unit :=
  Run.record (.printed (Console.panel "Version Information" (i.description.flatMap (· ++ ['\n']))))

end Installation

end CommitCheck
