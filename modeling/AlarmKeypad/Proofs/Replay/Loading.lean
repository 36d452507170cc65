import AlarmKeypad.Proofs.Replay.Turns
import AlarmKeypad.Proofs.Text.Lossy

namespace AlarmKeypad.Replay

open LineDecoder (lineFeed carriageReturn)
open Text (dropEndWhile)
open Text.Utf8 (decodeLossy)

section
variable {α : Type} [DecidableEq α]

theorem length_splitOn (a : α) (xs : List α) : (xs.splitOn a).length = 1 + xs.count a := by
  induction xs with
  | nil => rfl
  | cons x xs ih =>
    rw [List.splitOn_cons_eq_if_modifyHead]
    by_cases hx : x = a
    · simp [hx, ih, Nat.add_comm, Nat.add_left_comm]
    · simp [hx, ih]

/-- The pieces hold everything but what they are cut at. -/
theorem flatten_splitOn (a : α) (xs : List α) : (xs.splitOn a).flatten = xs.filter (· ≠ a) := by
  induction xs with
  | nil => rfl
  | cons x xs ih =>
    rw [List.splitOn_cons_eq_if_modifyHead]
    obtain ⟨p, ps, hsplit⟩ := List.exists_cons_of_ne_nil (List.splitOn_ne_nil a xs)
    rw [hsplit, List.flatten_cons] at ih
    by_cases hx : x = a
    · simp [hx, hsplit, ih]
    · simp [hx, hsplit, ih]

theorem mem_of_mem_splitOn {a b : α} {xs piece : List α} (hpiece : piece ∈ xs.splitOn a)
    (hb : b ∈ piece) : b ∈ xs ∧ b ≠ a := by
  have hmem := List.mem_flatten_of_mem hpiece hb
  rw [flatten_splitOn] at hmem
  simpa using hmem

theorem exists_mem_splitOn {a b : α} {xs : List α} (hb : b ∈ xs) (hne : b ≠ a) :
    ∃ piece ∈ xs.splitOn a, b ∈ piece := by
  rw [← List.mem_flatten, flatten_splitOn]
  simpa using ⟨hb, hne⟩

end

namespace Log

variable {log : Log} {path : String} {bytes piece : List UInt8}

/-- The line that a piece of a file makes. -/
def ofPiece (piece : List UInt8) : String :=
  String.ofList (dropEndWhile (· == '\r') (decodeLossy piece))

theorem ofPiece_eq (piece : List UInt8) :
    ofPiece piece = String.ofList (decodeLossy (piece.rdropWhile (· == carriageReturn))) :=
  congrArg String.ofList
    (Text.Utf8.dropEndWhile_decodeLossy (x := carriageReturn) (by decide) piece)

theorem lineFeed_not_mem_decodeLossy (h : lineFeed ∉ piece) : '\n' ∉ decodeLossy piece :=
  fun hmem => h (Text.Utf8.mem_of_mem_decodeLossy (by decide) hmem)

/-- In a piece only carriage returns are dropped. -/
theorem strip_decodeLossy (h : lineFeed ∉ piece) : strip (decodeLossy piece) = ofPiece piece := by
  have hsame : ∀ c ∈ decodeLossy piece, isLineEnd c = (c == '\r') := by
    intro c hc
    have hne : c ≠ '\n' := fun heq => lineFeed_not_mem_decodeLossy h (heq ▸ hc)
    simp [isLineEnd, hne]
  rw [strip, Text.dropEndWhile_congr hsame, ofPiece]

theorem ofPiece_eq_empty_iff : ofPiece piece = "" ↔ ∀ b ∈ piece, b = carriageReturn := by
  rw [ofPiece_eq, String.ofList_eq_empty_iff, Text.Utf8.decodeLossy_eq_nil_iff,
    List.rdropWhile_eq_nil_iff]
  simp

theorem ofLines?_eq_some_iff {lines : List (List Char)} :
    ofLines? lines = some log ↔ log.lines = lines.map strip := by
  unfold ofLines?
  dsimp only
  split
  case isTrue =>
    rw [Option.some_inj]
    refine ⟨fun h => h ▸ rfl, fun h => ?_⟩
    obtain ⟨ls, hls⟩ := log
    obtain rfl : ls = lines.map strip := h
    rfl
  case isFalse hnone => exact ⟨nofun, fun h => absurd (h ▸ log.has_content) hnone⟩

theorem lines_pieces (bytes : List UInt8) :
    (Text.splitAll '\n' (decodeLossy bytes)).map strip = (bytes.splitOn lineFeed).map ofPiece := by
  -- the file may be cut before it is read
  have hpieces : (decodeLossy bytes).splitOn '\n' = (bytes.splitOn lineFeed).map decodeLossy :=
    Text.Utf8.splitOn_decodeLossy (x := lineFeed) (by decide) bytes
  rw [Text.splitAll_eq_splitOn, hpieces, List.map_map]
  refine List.map_congr_left fun piece hpiece => strip_decodeLossy fun hmem => ?_
  exact (mem_of_mem_splitOn hpiece hmem).2 rfl

theorem load_eq_ok_iff :
    load path (some bytes) = .ok log ↔ log.lines = (bytes.splitOn lineFeed).map ofPiece := by
  rw [← lines_pieces, ← ofLines?_eq_some_iff, load]
  cases ofLines? (Text.splitAll '\n' (decodeLossy bytes)) with
  | none => simp
  | some log' => simp

/-- A file without a log has nothing to say but that it is empty. -/
theorem load_eq_ok_or (path : String) (bytes : List UInt8) :
    (∃ log, load path (some bytes) = .ok log) ∨
      load path (some bytes) = .error (.emptyLog path) := by
  rw [load]
  cases ofLines? (Text.splitAll '\n' (decodeLossy bytes)) with
  | none => exact .inr rfl
  | some log => exact .inl ⟨log, rfl⟩

/-- A file is a log if it is not made of line ends alone. -/
theorem exists_load_iff : (∃ log, load path (some bytes) = .ok log) ↔
    ∃ b ∈ bytes, b ≠ carriageReturn ∧ b ≠ lineFeed := by
  constructor
  · rintro ⟨log, hlog⟩
    obtain ⟨l, hl, hne⟩ := log.has_content
    rw [load_eq_ok_iff.mp hlog] at hl
    obtain ⟨piece, hpiece, rfl⟩ := List.mem_map.mp hl
    rw [Ne, ofPiece_eq_empty_iff, not_forall] at hne
    obtain ⟨b, hne⟩ := hne
    obtain ⟨hb, hbne⟩ := Classical.not_imp.mp hne
    obtain ⟨hmem, hfeed⟩ := mem_of_mem_splitOn hpiece hb
    exact ⟨b, hmem, hbne, hfeed⟩
  · rintro ⟨b, hb, hreturn, hfeed⟩
    obtain ⟨piece, hpiece, hmem⟩ := exists_mem_splitOn hb hfeed
    have hcontent : ∃ l ∈ (bytes.splitOn lineFeed).map ofPiece, l ≠ "" :=
      ⟨ofPiece piece, List.mem_map_of_mem hpiece, fun hempty =>
        hreturn (ofPiece_eq_empty_iff.mp hempty b hmem)⟩
    exact ⟨⟨_, hcontent⟩, load_eq_ok_iff.mpr rfl⟩

theorem exists_piece (h : load path (some bytes) = .ok log) {l : String} (hl : l ∈ log.lines) :
    ∃ piece, lineFeed ∉ piece ∧ l = ofPiece piece := by
  rw [load_eq_ok_iff.mp h] at hl
  obtain ⟨piece, hpiece, rfl⟩ := List.mem_map.mp hl
  exact ⟨piece, fun hmem => (mem_of_mem_splitOn hpiece hmem).2 rfl, rfl⟩

/-- No line of a log that was loaded has a line feed in it. -/
theorem lineFeed_not_mem (h : load path (some bytes) = .ok log) :
    ∀ l ∈ log.lines, '\n' ∉ l.toList := by
  intro l hl
  obtain ⟨piece, hfeed, rfl⟩ := exists_piece h hl
  rw [ofPiece, String.toList_ofList]
  exact fun hmem =>
    lineFeed_not_mem_decodeLossy hfeed ((Text.dropEndWhile_sublist _ _).subset hmem)

theorem getLast?_ne_return (h : load path (some bytes) = .ok log) :
    ∀ l ∈ log.lines, l.toList.getLast? ≠ some '\r' := by
  intro l hl hlast
  obtain ⟨piece, -, rfl⟩ := exists_piece h hl
  rw [ofPiece, String.toList_ofList] at hlast
  have hkept := Text.dropEndWhile_eq_self_iff.mp
    (Text.dropEndWhile_idempotent (· == '\r') (decodeLossy piece))
  exact absurd (hkept _ hlast) (by decide)

theorem size_of_load (h : load path (some bytes) = .ok log) :
    log.size = 1 + bytes.count lineFeed := by
  rw [size, load_eq_ok_iff.mp h, List.length_map, length_splitOn]

end Log

namespace Cursor

variable {log : Log} {c : Cursor} {u : Nat}

/-- Ticks send the lines of the repeated log, in order. -/
theorem advanceBy_eq (h : c.position = u % log.size) (n : Nat) : advanceBy log n c =
    ((List.range' u n).map fun k => (some (log.line k)).filter (· ≠ ""), ⟨(u + n) % log.size⟩) := by
  induction n generalizing c u with
  | zero =>
    obtain ⟨position⟩ := c
    obtain rfl : position = u % log.size := h
    rfl
  | succ n ih =>
    rw [advanceBy, advance_eq h]
    dsimp only
    rw [ih rfl, List.range'_succ, List.map_cons, Nat.add_right_comm]
    rfl

/-- Every line of a log comes up in one round, wherever it begins. -/
theorem exists_line_eq (log : Log) (u : Nat) {l : String} (hl : l ∈ log.lines) :
    ∃ k ∈ List.range' u log.size, log.line k = l := by
  obtain ⟨j, hj, rfl⟩ := List.mem_iff_getElem.mp hl
  have hlt : j < log.size := hj
  have hround := Nat.mod_lt u log.size_pos
  have hu := Nat.div_add_mod u log.size
  -- so far it is from where the round begins to the next place of the line
  have hsum : u + (j + log.size - u % log.size) = j + log.size * (u / log.size + 1) := by
    rw [Nat.mul_add, Nat.mul_one]
    omega
  have hmod : (u + (j + log.size - u % log.size) % log.size) % log.size = j := by
    rw [Nat.add_mod_mod, hsum, Nat.add_mul_mod_self_left, Nat.mod_eq_of_lt hlt]
  refine ⟨u + (j + log.size - u % log.size) % log.size, ?_, ?_⟩
  · rw [List.mem_range'_1]
    exact ⟨Nat.le_add_right _ _, Nat.add_lt_add_left (Nat.mod_lt _ log.size_pos) _⟩
  · unfold Log.line
    simp only [List.get_eq_getElem, hmod]

/-- The cursors that ticks lead to from the start. -/
theorem position_advanceBy_start (log : Log) (n : Nat) :
    (advanceBy log n start).2.position = n % log.size := by
  rw [advanceBy_eq (c := start) (Nat.zero_mod _).symm, Nat.zero_add]

/-- A cursor that goes once round is back, and has sent a line. -/
theorem round (h : c.position = u % log.size) :
    (advanceBy log log.size c).2 = c ∧ ∃ l, some l ∈ (advanceBy log log.size c).1 := by
  rw [advanceBy_eq h]
  constructor
  · rw [Nat.add_mod_right, ← h]
  · obtain ⟨l, hl, hne⟩ := log.has_content
    obtain ⟨k, hk, rfl⟩ := exists_line_eq log u hl
    exact ⟨log.line k, List.mem_map.mpr ⟨k, hk, by simp [Option.filter_some, hne]⟩⟩

end Cursor

/-- What a file is as a log. It is one unless it is made of line ends alone. Then its lines are the
pieces between its line feeds, without the carriage returns at their ends; and a cursor that goes
once round, from wherever ticks have led it, sends a line and comes back. -/
theorem load_reads (path : String) (bytes : List UInt8) :
    ((∃ log, Log.load path (some bytes) = .ok log) ↔
      ∃ b ∈ bytes, b ≠ carriageReturn ∧ b ≠ lineFeed) ∧
    ((¬∃ b ∈ bytes, b ≠ carriageReturn ∧ b ≠ lineFeed) →
      Log.load path (some bytes) = .error (.emptyLog path)) ∧
    ∀ log, Log.load path (some bytes) = .ok log →
      log.size = 1 + bytes.count lineFeed ∧
      log.lines = (bytes.splitOn lineFeed).map
        (fun p => String.ofList (dropEndWhile (· == '\r') (decodeLossy p))) ∧
      log.lines = (bytes.splitOn lineFeed).map
        (fun p => String.ofList (decodeLossy (p.rdropWhile (· == carriageReturn)))) ∧
      (∀ l ∈ log.lines, '\n' ∉ l.toList ∧ l.toList.getLast? ≠ some '\r') ∧
      ∀ n, let c := (Cursor.advanceBy log n .start).2
        (Cursor.advanceBy log log.size c).2 = c ∧
          ∃ l, some l ∈ (Cursor.advanceBy log log.size c).1 := by
  refine ⟨Log.exists_load_iff, fun hnone => ?_, fun log hlog => ?_⟩
  · exact (Log.load_eq_ok_or path bytes).resolve_left (hnone ∘ Log.exists_load_iff.mp)
  · have hlines := Log.load_eq_ok_iff.mp hlog
    refine ⟨Log.size_of_load hlog, hlines, ?_, fun l hl => ⟨?_, ?_⟩, fun n => ?_⟩
    · exact hlines.trans (List.map_congr_left fun p _ => Log.ofPiece_eq p)
    · exact Log.lineFeed_not_mem hlog l hl
    · exact Log.getLast?_ne_return hlog l hl
    · exact Cursor.round (Cursor.position_advanceBy_start log n)

end AlarmKeypad.Replay
