import AlarmKeypad.Fault.Transport
import AlarmKeypad.Text.Utf8
/-!
Lines cut from a stream of bytes.

A line ends with a line feed; one carriage return before it is dropped. A line of more than `max`
bytes, counted with its carriage return, is passed over, and so is one that is not UTF-8.
-/

namespace AlarmKeypad

/-- The longest line that a connection takes, in bytes. -/
def maxLineLength : Nat := 8 * 1024

/-- What is known of the bytes that wait in the buffer. -/
structure LineDecoder where
  /-- The greatest length of a line. -/
  max : Nat
  /-- The bytes at the front in which no line feed was found. -/
  searched : Nat
  /-- Whether the front belongs to a line that is too long. -/
  discarding : Bool
deriving DecidableEq

namespace LineDecoder

def new (max : Nat) : LineDecoder := ⟨max, 0, false⟩

/-- What one look at the buffer gives. -/
inductive Found where
  | line (s : String)
  | tooLong
  | notText
  /-- No line before more bytes come. -/
  | nothing
deriving DecidableEq

def lineFeed : UInt8 := 10

def carriageReturn : UInt8 := 13

/-- The bytes without one carriage return at their end. -/
def dropReturn (bs : List UInt8) : List UInt8 :=
  if bs.getLast? = some carriageReturn then bs.dropLast else bs

/-- The text of a line's bytes. -/
def Found.ofBytes (bs : List UInt8) : Found :=
  match Text.Utf8.decodeString? (dropReturn bs) with
  | some s => .line s
  | none => .notText

/-- The line that is found. -/
def Found.line? : Found → Option String
  | .line s => some s
  | .tooLong | .notText | .nothing => none

/-- The fault in what is found. -/
def Found.fault? (max : Nat) : Found → Option TransportFault
  | .tooLong => some (.lineTooLong max)
  | .notText => some (.io ⟨.invalidData, some "Unable to decode input as UTF8"⟩)
  | .line _ | .nothing => none

/-- The bytes that are looked at: at most one more than a line may have. -/
def window (d : LineDecoder) (buf : List UInt8) : Nat := min (d.max + 1) buf.length

/-- The position of the first line feed in the window behind the searched bytes. -/
def lineEnd? (d : LineDecoder) (buf : List UInt8) : Option Nat :=
  (((buf.take (d.window buf)).drop d.searched).findIdx? (· == lineFeed)).map (d.searched + ·)

theorem lt_length_of_lineEnd? {d : LineDecoder} {buf : List UInt8} {n : Nat}
    (h : d.lineEnd? buf = some n) : n < buf.length := by
  simp only [lineEnd?, Option.map_eq_some_iff] at h
  obtain ⟨i, hi, rfl⟩ := h
  obtain ⟨hlt, _⟩ := List.findIdx?_eq_some_iff_getElem.1 hi
  simp only [List.length_drop, List.length_take] at hlt
  omega

/-- The next line of the buffer, or the first that is passed over; the rest waits. -/
def look (d : LineDecoder) (buf : List UInt8) : Found × LineDecoder × List UInt8 :=
  match h : d.lineEnd? buf with
  | some n =>
    if d.discarding then look { d with searched := 0, discarding := false } (buf.drop (n + 1))
    else (.ofBytes (buf.take n), { d with searched := 0 }, buf.drop (n + 1))
  | none =>
    if d.discarding then
      if _hw : buf.length ≤ d.window buf then (.nothing, { d with searched := 0 }, [])
      else look { d with searched := 0 } (buf.drop (d.window buf))
    else if d.max < buf.length then (.tooLong, { d with discarding := true }, buf)
    else (.nothing, { d with searched := d.window buf }, buf)
termination_by buf.length
decreasing_by
  · have := lt_length_of_lineEnd? h
    simp only [List.length_drop]
    omega
  · simp only [List.length_drop, window] at _hw ⊢
    omega

/-- What is left to read; a line that is too long is found before its bytes go. -/
def weight (d : LineDecoder) (buf : List UInt8) : Nat :=
  2 * buf.length + if d.discarding then 0 else 1

/-- Every look that finds something leaves less to read. -/
theorem weight_look_lt (d : LineDecoder) (buf : List UInt8) (h : (d.look buf).1 ≠ .nothing) :
    weight (d.look buf).2.1 (d.look buf).2.2 < weight d buf := by
  fun_induction look d buf with
  | case1 d buf n hn hd ih =>
    have := lt_length_of_lineEnd? hn
    refine Nat.lt_of_lt_of_le (ih h) ?_
    simp only [weight, hd, List.length_drop]
    grind
  | case2 d buf n hn hd =>
    have := lt_length_of_lineEnd? hn
    simp only [weight, List.length_drop]
    grind
  | case3 => simp at h
  | case4 d buf hn hd hw ih =>
    refine Nat.lt_of_lt_of_le (ih h) ?_
    simp only [weight, hd, List.length_drop, window] at hw ⊢
    grind
  | case5 d buf hn hd hm => simp [weight, hd]
  | case6 => simp at h

/-- The next line of the buffer that is short enough and UTF-8. -/
def decode (d : LineDecoder) (buf : List UInt8) : Option String × LineDecoder × List UInt8 :=
  match _h : d.look buf with
  | (.line s, next) => (some s, next)
  | (.nothing, next) => (none, next)
  | (.tooLong, d', buf') => decode d' buf'
  | (.notText, d', buf') => decode d' buf'
termination_by weight d buf
decreasing_by
  all_goals
    have := weight_look_lt d buf (by simp [_h])
    simpa [_h] using this

/-- A look at a buffer that no more bytes come to: what is left is a line, if it is not empty and
not a single carriage return. -/
def lookLast (d : LineDecoder) (buf : List UInt8) : Found × LineDecoder × List UInt8 :=
  match d.look buf with
  | (.nothing, d', buf') =>
    if buf' = [] ∨ buf' = [carriageReturn] then (.nothing, { d' with searched := 0 }, buf')
    else (.ofBytes buf', { d' with searched := 0 }, [])
  | r => r

theorem weight_look_le (d : LineDecoder) (buf : List UInt8)
    (h : (d.look buf).1 = .nothing) :
    weight (d.look buf).2.1 (d.look buf).2.2 ≤ weight d buf := by
  fun_induction look d buf with
  | case1 d buf n hn hd ih =>
    have := lt_length_of_lineEnd? hn
    refine Nat.le_trans (ih h) ?_
    simp only [weight, hd, List.length_drop]
    grind
  | case2 d buf n hn hd =>
    have := lt_length_of_lineEnd? hn
    simp only [weight, List.length_drop]
    grind
  | case3 => simp [weight]
  | case4 d buf hn hd hw ih =>
    refine Nat.le_trans (ih h) ?_
    simp only [weight, hd, List.length_drop]
    grind
  | case5 d buf hn hd hm => simp at h
  | case6 => simp [weight]

theorem weight_lookLast_lt (d : LineDecoder) (buf : List UInt8)
    (h : (d.lookLast buf).1 ≠ .nothing) :
    weight (d.lookLast buf).2.1 (d.lookLast buf).2.2 < weight d buf := by
  unfold lookLast at h ⊢
  split
  next d' buf' e =>
    have hle := weight_look_le d buf (by rw [e])
    rw [e] at hle
    simp only [e] at h
    split at h
    · simp at h
    · next hb =>
      rw [if_neg hb]
      cases buf' with
      | nil => simp at hb
      | cons b r =>
        simp only [weight, List.length_cons, List.length_nil] at hle ⊢
        omega
  next hn =>
    apply weight_look_lt
    intro hc
    exact hn _ _ (Prod.ext hc rfl)

/-- The next line of a buffer that no more bytes come to. -/
def decodeLast (d : LineDecoder) (buf : List UInt8) : Option String × LineDecoder × List UInt8 :=
  match _h : d.lookLast buf with
  | (.line s, next) => (some s, next)
  | (.nothing, next) => (none, next)
  | (.tooLong, d', buf') => decodeLast d' buf'
  | (.notText, d', buf') => decodeLast d' buf'
termination_by weight d buf
decreasing_by
  all_goals
    have := weight_lookLast_lt d buf (by simp [_h])
    simpa [_h] using this

/-- Whether a fault is one of a single line, which is passed over; any other ends the stream. -/
def passesOver : TransportFault → Bool
  | .lineTooLong _ => true
  | .io f => f.kind = .invalidData
  | _ => false

/-- Looks again after every fault that is passed over. -/
def retry (seek : LineDecoder → List UInt8 → Found × LineDecoder × List UInt8)
    (hseek : ∀ d buf, (seek d buf).1 ≠ .nothing →
      weight (seek d buf).2.1 (seek d buf).2.2 < weight d buf)
    (d : LineDecoder) (buf : List UInt8) :
    Except TransportFault (Option String) × LineDecoder × List UInt8 :=
  match _h : (seek d buf).1.fault? d.max with
  | none => (.ok (seek d buf).1.line?, (seek d buf).2)
  | some f =>
    if passesOver f then retry seek hseek (seek d buf).2.1 (seek d buf).2.2
    else (.error f, (seek d buf).2)
termination_by weight d buf
decreasing_by
  apply hseek
  intro hnothing
  simp [hnothing, Found.fault?] at _h

end LineDecoder

/-- A decoder and the bytes that wait for it. -/
structure LineBuffer where
  decoder : LineDecoder
  bytes : List UInt8
deriving DecidableEq

namespace LineBuffer

def new (max : Nat) : LineBuffer := ⟨.new max, []⟩

def append (b : LineBuffer) (chunk : List UInt8) : LineBuffer := ⟨b.decoder, b.bytes ++ chunk⟩

/-- The next line, if one is complete. -/
def next (b : LineBuffer) : Option String × LineBuffer :=
  let (s, d, bs) := b.decoder.decode b.bytes
  (s, ⟨d, bs⟩)

/-- The next line after the end of the stream. -/
def nextLast (b : LineBuffer) : Option String × LineBuffer :=
  let (s, d, bs) := b.decoder.decodeLast b.bytes
  (s, ⟨d, bs⟩)

/-- The next line, or the fault that ends the stream. -/
def tryNext (b : LineBuffer) : Except TransportFault (Option String) × LineBuffer :=
  let (r, d, bs) := LineDecoder.retry LineDecoder.look LineDecoder.weight_look_lt b.decoder b.bytes
  (r, ⟨d, bs⟩)

/-- The next line after the end of the stream, or the fault that ends it early. -/
def tryNextLast (b : LineBuffer) : Except TransportFault (Option String) × LineBuffer :=
  let (r, d, bs) := LineDecoder.retry LineDecoder.lookLast LineDecoder.weight_lookLast_lt b.decoder
    b.bytes
  (r, ⟨d, bs⟩)

/-- All lines that `read` takes one after the other, at most `fuel`. -/
def readAll (read : LineBuffer → Option String × LineBuffer) :
    Nat → LineBuffer → List String × LineBuffer
  | 0, b => ([], b)
  | fuel + 1, b =>
    match read b with
    | (none, b') => ([], b')
    | (some s, b') =>
      let (ss, b'') := readAll read fuel b'
      (s :: ss, b'')

/-- The complete lines; each takes a byte of the buffer. -/
def drain (b : LineBuffer) : List String × LineBuffer := readAll next (b.bytes.length + 1) b

/-- All lines after the end of the stream. -/
def drainLast (b : LineBuffer) : List String × LineBuffer :=
  readAll nextLast (b.bytes.length + 1) b

end LineBuffer

/-- A line as it goes over a stream: its bytes and a line feed. -/
def encodeLine (s : String) : List UInt8 := Text.Utf8.encodeString s ++ [LineDecoder.lineFeed]

end AlarmKeypad
