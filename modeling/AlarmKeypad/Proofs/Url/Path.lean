import AlarmKeypad.Url
import Mathlib.Data.List.DropRight

namespace AlarmKeypad.Url

def isSlash (c : Char) : Bool := c = '/' ∨ c = '\\'

namespace Path

variable {segments pieces : List (List Char)} {piece cs ds name : List Char} {c : Char}

theorem split_eq_splitOnP (cs : List Char) : split true cs = cs.splitOnP isSlash := by
  induction cs with
  | nil => rfl
  | cons c cs ih =>
    obtain ⟨p, ps, hsplit⟩ := List.exists_cons_of_ne_nil (List.splitOnP_ne_nil isSlash cs)
    rw [split, ih, List.splitOnP_cons_eq_if_modifyHead, hsplit]
    simp [isSlash]

theorem split_append_cons (hc : isSlash c) (cs ds : List Char) :
    split true (cs ++ c :: ds) = split true cs ++ split true ds := by
  simp only [split_eq_splitOnP, List.splitOnP_append_cons cs ds hc]

theorem split_of_forall (h : ∀ c ∈ cs, isSlash c = false) : split true cs = [cs] := by
  rw [split_eq_splitOnP, List.splitOnP_eq_singleton h]

/-- The last piece takes all that follows without a slash. -/
theorem exists_split_append (h : ∀ c ∈ ds, isSlash c = false) (cs : List Char) :
    ∃ front last, split true (cs ++ ds) = front ++ [last ++ ds] := by
  induction cs with
  | nil => exact ⟨[], [], split_of_forall h⟩
  | cons c cs ih =>
    obtain ⟨front, last, hsplit⟩ := ih
    rw [split_eq_splitOnP] at hsplit
    rw [List.cons_append, split_eq_splitOnP, List.splitOnP_cons_eq_if_modifyHead, hsplit]
    -- a character in front joins the first piece, which may be the last as well
    by_cases hc : isSlash c
    · exact ⟨[] :: front, last, if_pos hc⟩
    · rw [if_neg hc]
      cases front with
      | nil => exact ⟨[], c :: last, rfl⟩
      | cons p ps => exact ⟨(c :: p) :: ps, last, rfl⟩

/-- The count of segments after one more piece that a slash follows. -/
def descend (n : Nat) (piece : List Char) : Nat :=
  if isDoubleDot piece then n - 1 else if isDot piece then n else n + 1

/-- How many segments are left of pieces that slashes follow. -/
def depth (pieces : List (List Char)) : Nat := pieces.foldl descend 0

theorem length_add (segments : List (List Char)) (piece : List Char) :
    (add false segments piece true).length = descend segments.length piece := by
  unfold add descend
  split_ifs <;> simp_all [shorten]

theorem length_foldl_add (segments pieces : List (List Char)) :
    (pieces.foldl (add false · · true) segments).length = pieces.foldl descend segments.length := by
  induction pieces generalizing segments with
  | nil => rfl
  | cons p ps ih => rw [List.foldl_cons, List.foldl_cons, ih, length_add]

theorem ofPieces_append (segments pieces : List (List Char)) (piece : List Char) :
    ofPieces false segments (pieces ++ [piece]) =
      add false (pieces.foldl (add false · · true) segments) piece false := by
  induction pieces generalizing segments with
  | nil => rfl
  | cons p ps ih =>
    rw [List.cons_append, ofPieces, ih, List.foldl_cons]
    simp

/-- A piece with a colon in it is no dots. -/
theorem colon_mem_plainDots (h : ':' ∈ piece) : ':' ∈ plainDots piece := by
  fun_induction plainDots piece with
  | case1 r ih => simp_all
  | case2 r ih => simp_all
  | case3 c r _ _ ih => simp_all; tauto
  | case4 => exact h

theorem depth_append_ne_zero (h : ':' ∈ piece) (pieces : List (List Char)) :
    depth (pieces ++ [piece]) ≠ 0 := by
  have hdots : ':' ∈ plainDots piece := colon_mem_plainDots h
  have hdot : isDot piece = false := by
    by_contra hdot
    simp_all [isDot]
  have hdouble : isDoubleDot piece = false := by
    by_contra hdouble
    simp_all [isDoubleDot]
  simp [depth, descend, hdot, hdouble]

/-- A colon that no slash follows stays a segment. -/
theorem depth_split_append_ne_zero (hds : ∀ c ∈ ds, isSlash c = false) (h : ':' ∈ ds)
    (cs : List Char) : depth (split true (cs ++ ds)) ≠ 0 := by
  obtain ⟨front, last, hsplit⟩ := exists_split_append hds cs
  rw [hsplit]
  exact depth_append_ne_zero (List.mem_append_right last h) front

theorem text_eq_singleton_iff : text (segments ++ [name]) = '/' :: name ↔ segments = [] := by
  rw [text, List.flatMap_append, List.flatMap_singleton, List.append_left_eq_self]
  cases segments <;> simp

/-- A path is its last segment alone if nothing is left of the pieces in front. -/
theorem absolutePath_eq_iff {port : Nat} (hc : isSlash c)
    (hname : ∀ c ∈ name, isSlash c = false) (hdot : isDot name = false)
    (hdouble : isDoubleDot name = false) (hplain : Percent.encode Percent.path name = name) :
    absolutePath (.special port) (c :: cs ++ '/' :: name) = '/' :: name ↔
      depth (split true cs) = 0 := by
  -- the slash in front makes an empty piece, which is left out
  have hsplit : split true (c :: cs ++ '/' :: name) = [] :: (split true cs ++ [name]) := by
    rw [split_append_cons rfl, ← List.nil_append (c :: cs), split_append_cons hc,
      split_of_forall hname]
    rfl
  have hpath : absolutePath (.special port) (c :: cs ++ '/' :: name) =
      text (ofPieces false [] (split true cs ++ [name])) := by
    obtain ⟨p, ps, hcons⟩ := List.exists_cons_of_ne_nil (List.append_ne_nil_of_right_ne_nil
      (split true cs) (List.cons_ne_nil name []))
    simp only [absolutePath, SchemeKind.isSpecial, hsplit, hcons]
    rfl
  rw [hpath, ofPieces_append, add, if_neg (by simp [hdouble]), if_neg (by simp [hdot])]
  simp only [Bool.false_and, Bool.false_eq_true, if_false, hplain]
  rw [text_eq_singleton_iff, ← List.length_eq_zero_iff, length_foldl_add]
  rfl

end Path
end AlarmKeypad.Url
