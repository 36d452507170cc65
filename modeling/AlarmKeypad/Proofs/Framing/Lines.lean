import AlarmKeypad.Framing
import AlarmKeypad.Proofs.Text.Utf8

namespace AlarmKeypad.LineDecoder

/-- The text of a segment: at most `max` bytes, one carriage return at their end left out, that are
UTF-8. -/
def textOf? (max : Nat) (seg : List UInt8) : Option String :=
  if seg.length ≤ max then String.fromUTF8? (dropReturn seg).toByteArray else none

/-- The lines that a line feed ends. -/
def wholeLines (max : Nat) (bs : List UInt8) : List String :=
  (bs.splitOn lineFeed).dropLast.filterMap (textOf? max)

/-- The bytes behind the last line feed. -/
def remainder (bs : List UInt8) : List UInt8 :=
  (bs.splitOn lineFeed).getLast (List.splitOn_ne_nil lineFeed bs)

/-- The line that the end of the stream ends; nothing and a single carriage return are none. -/
def lastLine? (max : Nat) (bs : List UInt8) : Option String :=
  if remainder bs = [] ∨ remainder bs = [carriageReturn] then none else textOf? max (remainder bs)

def lines (max : Nat) (bs : List UInt8) : List String :=
  wholeLines max bs ++ (lastLine? max bs).toList

section
variable {max : Nat} {seg bs rest : List UInt8}

theorem textOf?_eq_none_of_lt (h : max < seg.length) : textOf? max seg = none :=
  if_neg (Nat.not_le_of_lt h)

theorem found_ofBytes (h : seg.length ≤ max) : Found.ofBytes seg =
    match textOf? max seg with
    | some s => .line s
    | none => .notText := by
  have htext : Text.Utf8.decodeString? (dropReturn seg) = textOf? max seg := by
    rw [Text.Utf8.decodeString?_eq_fromUTF8?, textOf?, if_pos h]
  cases hs : textOf? max seg with
  | none => rw [Found.ofBytes, htext, hs]
  | some s => rw [Found.ofBytes, htext, hs]

theorem wholeLines_segment (h : lineFeed ∉ seg) :
    wholeLines max (seg ++ lineFeed :: rest) = (textOf? max seg).toList ++ wholeLines max rest := by
  rw [wholeLines, wholeLines, List.splitOn_append_cons_self_of_not_mem h,
    List.dropLast_cons_of_ne_nil (List.splitOn_ne_nil lineFeed rest), List.filterMap_cons]
  cases textOf? max seg <;> rfl

theorem remainder_segment : remainder (seg ++ lineFeed :: rest) = remainder rest := by
  unfold remainder
  simp only [List.splitOn_append_cons_self]
  exact List.getLast_append_of_ne_nil _ (List.splitOn_ne_nil lineFeed rest)

/-- A line feed parts the lines before it from those behind it. -/
theorem wholeLines_append (bs rest : List UInt8) : wholeLines max (bs ++ lineFeed :: rest) =
    (bs.splitOn lineFeed).filterMap (textOf? max) ++ wholeLines max rest := by
  rw [wholeLines, wholeLines, List.splitOn_append_cons_self,
    List.dropLast_append_of_ne_nil (List.splitOn_ne_nil lineFeed rest), List.filterMap_append]

theorem wholeLines_of_not_mem (h : lineFeed ∉ bs) : wholeLines max bs = [] := by
  rw [wholeLines, List.splitOn_eq_singleton h]
  rfl

theorem remainder_of_not_mem (h : lineFeed ∉ bs) : remainder bs = bs := by
  unfold remainder
  simp only [List.splitOn_eq_singleton h]
  rfl

theorem lastLine?_segment : lastLine? max (seg ++ lineFeed :: rest) = lastLine? max rest := by
  rw [lastLine?, lastLine?, remainder_segment]

theorem lastLine?_nil : lastLine? max [] = none := by
  rw [lastLine?, remainder_of_not_mem (by simp)]
  simp

/-- A segment that is no line makes no difference to any other. -/
theorem lines_segment_of_none (hseg : lineFeed ∉ seg) (h : textOf? max seg = none) :
    lines max (bs ++ lineFeed :: (seg ++ lineFeed :: rest)) =
      lines max (bs ++ lineFeed :: rest) := by
  rw [lines, lines, wholeLines_append bs, wholeLines_append bs, wholeLines_segment hseg, h,
    lastLine?_segment, lastLine?_segment, lastLine?_segment]
  rfl

end

end AlarmKeypad.LineDecoder
