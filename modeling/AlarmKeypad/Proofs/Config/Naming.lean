import AlarmKeypad.Cli.Argument
import AlarmKeypad.Config.Variable
import AlarmKeypad.Proofs.Config.Field
import AlarmKeypad.Proofs.Text.Case
import AlarmKeypad.Proofs.Text.Lossy

namespace AlarmKeypad

namespace Cli.Argument

def variableNames : List String := globals.filterMap variableName?

example : variableNames = ["AD2KP_PROFILE", "AD2KP_HOST", "AD2KP_TRANSPORT", "AD2KP_PORT",
    "AD2KP_PARTITION", "AD2KP_CODE", "AD2KP_OUTPUT"] := rfl

end Cli.Argument

namespace Variable

open Text (isBlank)

variable {c : Char} {cs : List Char} {name v : String}

/-- A variable of the command line has the path of its argument's name. -/
theorem path?_of_mem_variableNames (h : v ∈ Cli.Argument.variableNames) :
    ∃ k, path? v = some [k] ∧ k ∉ ["", "default_profile", "profiles"] := by
  have hall : ∀ v ∈ Cli.Argument.variableNames, ∃ k ∈ Cli.Argument.globals.filterMap
      Cli.Argument.long?, path? v = some [k] ∧ k ∉ ["", "default_profile", "profiles"] := by
    decide +kernel
  obtain ⟨k, -, hk⟩ := hall v h
  exact ⟨k, hk⟩

/-- The variable that lies over a field of a profile. -/
def ofField (name : String) (f : Profile.Field) : String :=
  "AD2KP_PROFILES__" ++ name ++ "__" ++ f.key

theorem toList_toLower (s : String) : s.toLower.toList = s.toList.map Char.toLower :=
  String.toList_map

/-- A letter or digit is no sign of a path, and no blank. -/
theorem plain_toLower (h : c.isAlphanum = true) :
    c.toLower ≠ '_' ∧ c.toLower ≠ '.' ∧ isBlank c.toLower = false := by
  have hrange : 65 ≤ c.toNat ∧ c.toNat ≤ 90 ∨ 97 ≤ c.toNat ∧ c.toNat ≤ 122 ∨
      48 ≤ c.toNat ∧ c.toNat ≤ 57 := by
    have hbetween {x y : Char} (h : x.val ≤ c.val ∧ c.val ≤ y.val) :
        x.toNat ≤ c.toNat ∧ c.toNat ≤ y.toNat :=
      h.imp UInt32.le_iff_toNat_le.mp UInt32.le_iff_toNat_le.mp
    rcases Bool.or_eq_true_iff.mp h with hletter | hdigit
    · rcases Bool.or_eq_true_iff.mp hletter with hupper | hlower
      · exact .inl (hbetween (of_decide_eq_true hupper))
      · exact .inr (.inl (hbetween
          ((Bool.and_eq_true_iff.mp hlower).imp of_decide_eq_true of_decide_eq_true)))
    · exact .inr (.inr (Char.isDigit_iff_toNat.mp hdigit))
  have hne {x : Char} (hx : c.toLower.toNat ≠ x.toNat) : c.toLower ≠ x := fun heq => hx (heq ▸ rfl)
  have hlower := Text.toNat_toLower c
  have hunderscore : '_'.toNat = 95 := rfl
  have hpoint : '.'.toNat = 46 := rfl
  refine ⟨hne ?_, hne ?_, ?_⟩
  · split_ifs at hlower <;> omega
  · split_ifs at hlower <;> omega
  · rw [Text.isBlank_toLower]
    simp [isBlank]
    omega

theorem pointed_append (h : '_' ∉ cs) (rest : List Char) :
    pointed (cs ++ '_' :: '_' :: rest) = cs ++ '.' :: pointed rest := by
  induction cs with
  | nil => rfl
  | cons c cs ih =>
    obtain ⟨hc, hcs⟩ := List.ne_and_not_mem_of_not_mem_cons h
    rw [List.cons_append, pointed, ih hcs, List.cons_append]
    exact fun _ heq _ => hc heq.symm

theorem key_plain (f : Profile.Field) : pointed f.key.toList = f.key.toList ∧
    '.' ∉ f.key.toList ∧ f.key.toList.any isBlank = false := by
  cases f <;> decide +kernel

theorem toList_toLower_ofField (name : String) (f : Profile.Field) :
    (ofField name f).toLower.toList = mark ++ ("profiles".toList ++ '_' :: '_' ::
      (name.toLower.toList ++ '_' :: '_' :: f.key.toList)) := by
  have happend (s t u v : String) : (s ++ t ++ u ++ v).toList =
      s.toList ++ (t.toList ++ (u.toList ++ v.toList)) := by simp
  have hpieces : (ofField name f).toList = "AD2KP_PROFILES__".toList ++ (name.toList ++
      ("__".toList ++ f.key.toList)) := happend ..
  have hfront : "AD2KP_PROFILES__".toList.map Char.toLower =
      mark ++ ("profiles".toList ++ ['_', '_']) := by decide +kernel
  have hmiddle : "__".toList.map Char.toLower = ['_', '_'] := by decide +kernel
  have hkey : f.key.toList.map Char.toLower = f.key.toList := by cases f <;> decide +kernel
  rw [toList_toLower, hpieces, List.map_append, List.map_append, List.map_append, hfront,
    hmiddle, hkey, ← toList_toLower, List.append_assoc, List.append_assoc]
  rfl

/-- The variable of a field has the path to the field, whatever the case of its letters. -/
theorem path?_ofField {f : Profile.Field} (hname : ∀ c ∈ name.toList, c.isAlphanum = true)
    (hv : v.toLower = (ofField name f).toLower) :
    path? v = some ["profiles", name.toLower, f.key] := by
  obtain ⟨hpointed, hpoint, hkey⟩ := key_plain f
  have hplain : ∀ c ∈ name.toLower.toList, c ≠ '_' ∧ c ≠ '.' ∧ isBlank c = false := by
    intro c hc
    rw [toList_toLower] at hc
    obtain ⟨d, hd, rfl⟩ := List.mem_map.mp hc
    exact plain_toLower (hname d hd)
  have hlower : v.toList.map Char.toLower = mark ++ ("profiles".toList ++ '_' :: '_' ::
      (name.toLower.toList ++ '_' :: '_' :: f.key.toList)) := by
    rw [← toList_toLower, hv, toList_toLower_ofField]
  have hblank : (v.toList.map Char.toLower).any isBlank = false := by
    have hmark : mark.any isBlank = false := by decide +kernel
    have hprofiles : "profiles".toList.any isBlank = false := by decide +kernel
    have hunderscore : isBlank '_' = false := by decide
    have hown : name.toLower.toList.any isBlank = false :=
      List.any_eq_false.mpr fun c hc => Bool.eq_false_iff.mp (hplain c hc).2.2
    rw [hlower]
    simp only [List.any_append, List.any_cons, hmark, hprofiles, hunderscore, hown, hkey,
      Bool.or_false]
  have hwhole : Text.trim (v.toList.map Char.toLower) = v.toList.map Char.toLower :=
    Text.trim_eq_self_of_forall fun c hc => Bool.eq_false_iff.mpr (List.any_eq_false.mp hblank c hc)
  rw [path?, ← Text.trim_map_toLower, hwhole, hlower]
  rw [if_pos ⟨List.isPrefixOf_iff_prefix.mpr (List.prefix_append ..), by simp⟩, List.drop_left,
    pointed_append (by decide), pointed_append fun h => (hplain _ h).1 rfl, hpointed,
    Text.splitAll_eq_splitOn, List.splitOn_append_cons_self_of_not_mem (by decide),
    List.splitOn_append_cons_self_of_not_mem fun h => (hplain _ h).2.1 rfl,
    List.splitOn_eq_singleton hpoint]
  simp only [List.map_cons, List.map_nil, String.ofList_toList]

theorem parts_ofField (hname : name ≠ "") (f : Profile.Field) :
    ∀ k ∈ ["profiles", name.toLower, f.key], k ≠ "" := by
  have hlower : name.toLower ≠ "" := by
    intro h
    have hnil : name.toList.map Char.toLower = [] := by rw [← toList_toLower, h]; rfl
    exact hname (String.toList_eq_nil_iff.mp (List.map_eq_nil_iff.mp hnil))
  have hkey : f.key ≠ "" := by cases f <;> decide
  simp [hlower, hkey]

end Variable
end AlarmKeypad
