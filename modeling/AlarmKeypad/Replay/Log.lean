import AlarmKeypad.Message
import AlarmKeypad.Fault.Replay
import AlarmKeypad.Text.Utf8
/-!
Logs of recorded lines, and cursors that go round them.
-/

namespace AlarmKeypad.Replay

/-- Lines to replay, at least one of them not empty. -/
structure Log where
  lines : List String
  has_content : ∃ l ∈ lines, l ≠ ""

namespace Log

/-- A line without the carriage returns and line feeds at its end. -/
def strip (cs : List Char) : String := String.ofList (Text.dropEndWhile isLineEnd cs)

/-- The log of these lines. An empty line stays and takes up a tick; lines that are all empty are no
log. -/
def ofLines? (lines : List (List Char)) : Option Log :=
  let stripped := lines.map strip
  if h : ∃ l ∈ stripped, l ≠ "" then some ⟨stripped, h⟩ else none

/-- The log in a file. Bytes that are not UTF-8 are replaced. A line feed at the end of the file
makes one more line, which is empty. -/
def load (path : String) : Option (List UInt8) → Except ReplayFault Log
  | none => .error (.logUnreadable path)
  | some bytes => match ofLines? (Text.splitAll '\n' (Text.Utf8.decodeLossy bytes)) with
    | some log => .ok log
    | none => .error (.emptyLog path)

def size (log : Log) : Nat := log.lines.length

theorem size_pos (log : Log) : 0 < log.size := by
  obtain ⟨_, h, _⟩ := log.has_content
  exact List.length_pos_of_mem h

end Log

/-- A position in a log. -/
structure Cursor where
  position : Nat
deriving DecidableEq

namespace Cursor

def start : Cursor := ⟨0⟩

/-- Takes one tick: the line to send, none for an empty one, and the next position, the first after
the last. -/
def advance (c : Cursor) (log : Log) : Option String × Cursor :=
  ((log.lines[c.position]?).filter (· ≠ ""), ⟨(c.position + 1) % log.size⟩)

/-- Takes `n` ticks. -/
def advanceBy (log : Log) : Nat → Cursor → List (Option String) × Cursor
  | 0, c => ([], c)
  | n + 1, c =>
    let (l, c) := c.advance log
    let (ls, c) := advanceBy log n c
    (l :: ls, c)

end Cursor
end AlarmKeypad.Replay
