import AlarmKeypad.Text.Blank
import Mathlib.Data.List.DropRight

namespace AlarmKeypad.Text

variable {p : Char → Bool} {q : Char} {cs ds es : List Char}

theorem dropEndWhile_append (h : ∀ c ∈ ds, p c = true) :
    dropEndWhile p (cs ++ ds) = dropEndWhile p cs := by
  rw [dropEndWhile, List.reverse_append,
    List.dropWhile_append_of_pos fun c hc => h c (List.mem_reverse.mp hc)]
  rfl

/-- Nothing goes in front of a character that stays. -/
theorem dropEndWhile_append_cons (h : p q = false) (cs ds : List Char) :
    dropEndWhile p (cs ++ q :: ds) = cs ++ q :: dropEndWhile p ds := by
  have hgone : ∀ c ∈ ds.rtakeWhile p, p c = true := fun c hc => List.mem_rtakeWhile_imp hc
  have hsplit : dropEndWhile p ds ++ ds.rtakeWhile p = ds := List.rdropWhile_append_rtakeWhile ..
  have hstays : ∀ hne, ¬p ((cs ++ q :: dropEndWhile p ds).getLast hne) = true := by
    intro hne
    rw [List.getLast_append_of_ne_nil _ (List.cons_ne_nil _ _)]
    by_cases hnil : dropEndWhile p ds = []
    · simp [hnil, h]
    · rw [List.getLast_cons hnil]
      exact List.rdropWhile_last_not p ds hnil
  calc dropEndWhile p (cs ++ q :: ds)
      = dropEndWhile p ((cs ++ q :: dropEndWhile p ds) ++ ds.rtakeWhile p) := by
        rw [List.append_assoc, List.cons_append, hsplit]
    _ = dropEndWhile p (cs ++ q :: dropEndWhile p ds) := dropEndWhile_append hgone
    _ = cs ++ q :: dropEndWhile p ds := List.rdropWhile_eq_self_iff.mpr hstays

theorem dropEndWhile_eq_self_iff : dropEndWhile p cs = cs ↔ ∀ c ∈ cs.getLast?, p c = false := by
  refine List.rdropWhile_eq_self_iff.trans ?_
  rcases List.eq_nil_or_concat cs with rfl | ⟨ds, c, rfl⟩ <;> simp

/-- Only the characters of the text count. -/
theorem dropEndWhile_congr {p' : Char → Bool} (h : ∀ c ∈ cs, p c = p' c) :
    dropEndWhile p cs = dropEndWhile p' cs := by
  have hreverse (ds : List Char) (hds : ∀ c ∈ ds, p c = p' c) :
      ds.dropWhile p = ds.dropWhile p' := by
    induction ds with
    | nil => rfl
    | cons d ds ih =>
      obtain ⟨hd, hds⟩ := List.forall_mem_cons.mp hds
      rw [List.dropWhile_cons, List.dropWhile_cons, hd, ih hds]
  rw [dropEndWhile, dropEndWhile, hreverse _ fun c hc => h c (List.mem_reverse.mp hc)]

/-- What is left has nothing more to lose. -/
theorem dropEndWhile_idempotent (p : Char → Bool) (cs : List Char) :
    dropEndWhile p (dropEndWhile p cs) = dropEndWhile p cs :=
  List.rdropWhile_idempotent p cs

theorem dropEndWhile_sublist (p : Char → Bool) (cs : List Char) :
    (dropEndWhile p cs).Sublist cs :=
  (List.rdropWhile_prefix p cs).sublist

theorem isBlank_of_isDigit {c : Char} (h : c.isDigit = true) : isBlank c = false := by
  have hdigit := Char.isDigit_iff_toNat.mp h
  have h0 : '0'.toNat = 48 := rfl
  have h9 : '9'.toNat = 57 := rfl
  simp [isBlank]
  omega

theorem trim_append_right (h : ∀ c ∈ ds, isBlank c = true) : trim (cs ++ ds) = trim cs := by
  by_cases hcs : ∀ c ∈ cs, isBlank c = true
  · have hall : ∀ c ∈ cs ++ ds, isBlank c = true := List.forall_mem_append.mpr ⟨hcs, h⟩
    rw [trim, trim, trimStart, trimStart, List.dropWhile_eq_nil_iff.mpr hall,
      List.dropWhile_eq_nil_iff.mpr hcs]
  · have hne : cs.dropWhile isBlank ≠ [] := fun hnil => hcs (List.dropWhile_eq_nil_iff.mp hnil)
    rw [trim, trimStart, List.dropWhile_append, if_neg (by simpa using hne)]
    exact dropEndWhile_append h

theorem trim_append_left (h : ∀ c ∈ ds, isBlank c = true) : trim (ds ++ cs) = trim cs := by
  rw [trim, trimStart, List.dropWhile_append_of_pos h]
  rfl

/-- Blanks around a text make no difference. -/
theorem trim_around (hd : ∀ c ∈ ds, isBlank c = true) (he : ∀ c ∈ es, isBlank c = true) :
    trim (ds ++ cs ++ es) = trim cs := by
  rw [trim_append_right he, trim_append_left hd]

theorem trim_eq_self (hfirst : ∀ c ∈ cs.head?, isBlank c = false)
    (hlast : ∀ c ∈ cs.getLast?, isBlank c = false) : trim cs = cs := by
  have hstart : trimStart cs = cs := by
    cases cs with
    | nil => rfl
    | cons c cs => exact List.dropWhile_cons_of_neg (by simp [hfirst c rfl])
  rw [trim, hstart]
  exact dropEndWhile_eq_self_iff.mpr hlast

/-- A text without a blank is left as it is. -/
theorem trim_eq_self_of_forall (h : ∀ c ∈ cs, isBlank c = false) : trim cs = cs :=
  trim_eq_self (fun c hc => h c (List.mem_of_mem_head? hc))
    fun c hc => h c (List.mem_of_mem_getLast? hc)

theorem splitOnce_append (h : q ∉ cs) (rest : List Char) :
    splitOnce q (cs ++ q :: rest) = some (cs, rest) := by
  induction cs with
  | nil => exact if_pos rfl
  | cons c cs ih =>
    obtain ⟨hne, hcs⟩ := List.ne_and_not_mem_of_not_mem_cons h
    rw [List.cons_append, splitOnce, if_neg hne.symm, ih hcs]
    rfl

theorem splitOnce_eq_none_iff : splitOnce q cs = none ↔ q ∉ cs := by
  induction cs with
  | nil => simp [splitOnce]
  | cons c cs ih =>
    by_cases hc : c = q
    · simp [splitOnce, hc]
    · simp [splitOnce, hc, ih, Ne.symm hc]

/-- The two sides are those of the first sign. -/
theorem splitOnce_eq_some_iff :
    splitOnce q cs = some (ds, es) ↔ cs = ds ++ q :: es ∧ q ∉ ds := by
  constructor
  · intro h
    by_cases hq : q ∈ cs
    · obtain ⟨front, back, rfl, hfront⟩ := List.eq_append_cons_of_mem hq
      rw [splitOnce_append hfront] at h
      obtain ⟨rfl, rfl⟩ := Prod.mk.inj (Option.some.inj h)
      exact ⟨rfl, hfront⟩
    · rw [splitOnce_eq_none_iff.mpr hq] at h
      exact nomatch h
  · rintro ⟨rfl, hds⟩
    exact splitOnce_append hds es

end AlarmKeypad.Text
