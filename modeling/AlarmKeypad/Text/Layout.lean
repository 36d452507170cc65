import AlarmKeypad.Text.Blank
/-!
Texts laid out in lines of a width.
-/

namespace AlarmKeypad.Text

/-- Lays words into lines: the first goes on at a column, all others begin at `indent`. A word that
does not fit begins a line. -/
def layWords (width : Nat) (indent : String) : Nat → List (List Char) → List Char
  | _, [] => []
  | column, w :: ws =>
    if column + 1 + w.length ≤ width then
      ' ' :: w ++ layWords width indent (column + 1 + w.length) ws
    else
      '\n' :: indent.toList ++ w ++ layWords width indent (indent.length + w.length) ws

/-- A line laid out behind `head`, which stands in for the indentation. -/
def layLine (width : Nat) (head indent : String) (line : List Char) : String :=
  match Text.splitAll ' ' line with
  | [] => head
  | w :: ws => head ++ String.ofList (w ++ layWords width indent (head.length + w.length) ws)

/-- All lines of a text, `head` in front of the first. -/
def layText (width : Nat) (head indent : String) (s : String) : String :=
  match Text.splitAll '\n' s.toList with
  | [] => ""
  | l :: ls =>
    let lines := layLine width head indent l :: ls.map (layLine width indent indent)
    String.join (lines.map (· ++ "\n"))

/-- A text filled up with blanks. -/
def pad (width : Nat) (s : String) : String :=
  s ++ String.ofList (List.replicate (width - s.length) ' ')

end AlarmKeypad.Text
