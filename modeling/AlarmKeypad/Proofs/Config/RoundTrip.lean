import AlarmKeypad.Proofs.Config.Value
import AlarmKeypad.Proofs.Config.Variable
import AlarmKeypad.Proofs.Text.Utf8
import AlarmKeypad.Proofs.Toml.Statement
import AlarmKeypad.Proofs.Toml.Table

namespace AlarmKeypad

open Toml (Value Statement assignments sectionStatements)
open Toml.Statement (Scans writeHeader writeString writeNatural)

variable {rest : List Char} {ss : List Statement}

namespace Profile

variable {k name : String} {p : Profile}

/-- The numbers of the profile that may be too great for a text are not. -/
def Writable (p : Profile) : Prop :=
  (∀ n ∈ p.heartbeatSeconds.map UInt64.toNat, n ≤ maxWritten) ∧
    ∀ n ∈ p.reconnectMillis.map UInt64.toNat, n ≤ maxWritten

instance (p : Profile) : Decidable p.Writable := inferInstanceAs (Decidable (_ ∧ _))

/-- The line of a number, where there is one. -/
def optionalLine (k : String) (n : Option Nat) : List Char := n.elim [] (writeNatural k)

theorem writeOptional_of_le {n : Option Nat} (h : ∀ m ∈ n, m ≤ maxWritten) :
    writeOptional k n = .ok (optionalLine k n) := by
  cases n with
  | none => rfl
  | some m => exact if_pos (h m rfl)

theorem writeOptional_of_not_le {n : Option Nat} (h : ¬∀ m ∈ n, m ≤ maxWritten) :
    writeOptional k n = .error .serialization := by
  cases n with
  | none => exact absurd (fun _ hm => nomatch hm) h
  | some m => exact if_neg fun hm => h fun _ hx => Option.some.inj hx ▸ hm

def text (name : String) (p : Profile) : List Char :=
  writeHeader ["profiles", name] ++ writeString "host" p.host ++
    writeString "transport" p.transport.name ++
    optionalLine "port" (p.port.map UInt16.toNat) ++
    writeNatural "partition" p.partition.toNat ++ writeNatural "code" p.code.toNat ++
    optionalLine "heartbeat_secs" (p.heartbeatSeconds.map UInt64.toNat) ++
    optionalLine "reconnect_ms" (p.reconnectMillis.map UInt64.toNat)

theorem not_writable_iff : ¬p.Writable ↔ (∃ n ∈ p.heartbeatSeconds, 2 ^ 63 ≤ n.toNat) ∨
    ∃ n ∈ p.reconnectMillis, 2 ^ 63 ≤ n.toNat := by
  have hmany (n : Option UInt64) : (¬∀ m ∈ n.map UInt64.toNat, m ≤ maxWritten) ↔
      ∃ m ∈ n, 2 ^ 63 ≤ m.toNat := by
    cases n with
    | none => simp
    | some m =>
      have hmax : maxWritten = 2 ^ 63 - 1 := by decide
      simp [hmax]
      omega
  rw [Writable, Decidable.not_and_iff_not_or_not, hmany, hmany]

theorem le_maxWritten {n : Nat} (h : n < UInt32.size) : n ≤ maxWritten :=
  Nat.le_trans (Nat.le_of_lt h) (by decide)

theorem port_le_maxWritten (p : Profile) : ∀ n ∈ p.port.map UInt16.toNat, n ≤ maxWritten := by
  rintro n hn
  obtain ⟨port, -, rfl⟩ := Option.map_eq_some_iff.mp hn
  exact le_maxWritten (Nat.lt_trans port.toNat_lt (by decide))

theorem write_eq (name : String) (p : Profile) :
    p.write name = if p.Writable then .ok (p.text name) else .error .serialization := by
  have hport := writeOptional_of_le (k := "port") p.port_le_maxWritten
  by_cases hheartbeat : ∀ n ∈ p.heartbeatSeconds.map UInt64.toNat, n ≤ maxWritten
  · by_cases hreconnect : ∀ n ∈ p.reconnectMillis.map UInt64.toNat, n ≤ maxWritten
    · rw [if_pos ⟨hheartbeat, hreconnect⟩, write, writeOptional_of_le hheartbeat,
        writeOptional_of_le hreconnect, hport]
      rfl
    · rw [if_neg fun h => hreconnect h.2, write, writeOptional_of_le hheartbeat,
        writeOptional_of_not_le hreconnect]
      rfl
  · rw [if_neg fun h => hheartbeat h.1, write, writeOptional_of_not_le hheartbeat]
    rfl

/-- A number that is small enough to be written is an integer of a text. -/
theorem inRange_of_le {n : Nat} (h : n ≤ maxWritten) : Toml.Number.inRange n = true := by
  have hmin : Int64.minValue.toInt ≤ 0 := by decide
  have hmax : Int64.maxValue.toInt = maxWritten := by decide
  rw [Toml.Number.inRange, hmax, Bool.and_eq_true, decide_eq_true_eq, decide_eq_true_eq]
  omega

theorem scans_optionalLine {n : Option Nat} (h : ∀ m ∈ n, m ≤ maxWritten) (hrest : Scans rest ss) :
    Scans (optionalLine k n ++ rest) (assignments (optionalField k n) ++ ss) := by
  cases n with
  | none => exact hrest
  | some m => exact hrest.natural k (inRange_of_le (h m rfl))

/-- The lines of a profile are read as its section. -/
theorem scans_text (name : String) (h : p.Writable) (hrest : Scans rest ss) :
    Scans (p.text name ++ rest) (sectionStatements "profiles" (name, p.fields) ++ ss) := by
  have hrange (n : UInt32) := inRange_of_le (le_maxWritten n.toNat_lt)
  have hreconnect := scans_optionalLine (k := "reconnect_ms") h.2 hrest
  have hheartbeat := scans_optionalLine (k := "heartbeat_secs") h.1 hreconnect
  have hcode := hheartbeat.natural "code" (hrange p.code)
  have hpartition := hcode.natural "partition" (hrange p.partition)
  have hport := scans_optionalLine (k := "port") p.port_le_maxWritten hpartition
  have htransport := hport.string "transport" p.transport.name
  have hhost := htransport.string "host" p.host
  have hheader := hhost.header (List.cons_ne_nil "profiles" [name]) (by simp [Toml.maxDepth])
  simpa [text, sectionStatements, assignments, fields] using hheader

end Profile

namespace Config

def AllWritable (ps : List (String × Profile)) : Prop := ∀ x ∈ ps, x.2.Writable

instance (ps : List (String × Profile)) : Decidable (AllWritable ps) :=
  inferInstanceAs (Decidable (∀ x ∈ ps, _))

theorem allWritable_nil : AllWritable [] := fun _ hx => absurd hx List.not_mem_nil

theorem allWritable_cons {x : String × Profile} {ps : List (String × Profile)} :
    AllWritable (x :: ps) ↔ x.2.Writable ∧ AllWritable ps := List.forall_mem_cons

/-- The tables of profiles, with an empty line between two. -/
def profilesText : List (String × Profile) → List Char
  | [] => writeHeader ["profiles"]
  | [(name, p)] => p.text name
  | (name, p) :: r => p.text name ++ '\n' :: profilesText r

def text (c : Config) : List Char :=
  match c.defaultProfile with
  | none => profilesText c.profiles
  | some name => writeString "default_profile" name ++ '\n' :: profilesText c.profiles

theorem writeProfiles_eq (ps : List (String × Profile)) : writeProfiles ps =
    if AllWritable ps then .ok (profilesText ps) else .error .serialization := by
  induction ps with
  | nil => rfl
  | cons x ps ih =>
    by_cases hx : x.2.Writable
    · cases ps with
      | nil =>
        rw [writeProfiles, Profile.write_eq, if_pos hx,
          if_pos (allWritable_cons.mpr ⟨hx, allWritable_nil⟩), profilesText]
      | cons y ps =>
        rw [writeProfiles, Profile.write_eq, if_pos hx, ih]
        · by_cases hps : AllWritable (y :: ps)
          · rw [if_pos hps, if_pos (allWritable_cons.mpr ⟨hx, hps⟩)]
            rfl
          · rw [if_neg hps, if_neg fun h => hps (allWritable_cons.mp h).2]
            rfl
        · exact List.cons_ne_nil y ps
    · rw [if_neg fun h => hx (allWritable_cons.mp h).1]
      cases ps with
      | nil => rw [writeProfiles, Profile.write_eq, if_neg hx]
      | cons y ps =>
        rw [writeProfiles, Profile.write_eq, if_neg hx]
        · rfl
        · exact List.cons_ne_nil y ps

theorem render_eq (c : Config) :
    c.render = if AllWritable c.profiles then .ok c.text else .error .serialization := by
  unfold render text
  rw [writeProfiles_eq]
  split
  · cases c.defaultProfile <;> rfl
  · rfl

/-- The statements of profiles; a header alone says that there are none. -/
def profileStatements (ps : List (String × Profile)) : List Statement :=
  if ps = [] then [.header ["profiles"]]
  else (ps.map fun x => (x.1, x.2.fields)).flatMap (sectionStatements "profiles")

theorem scans_profilesText_cons {x : String × Profile} {ps : List (String × Profile)}
    (h : AllWritable (x :: ps)) :
    Scans (profilesText (x :: ps))
      (((x :: ps).map fun x => (x.1, x.2.fields)).flatMap (sectionStatements "profiles")) := by
  obtain ⟨hx, hps⟩ := allWritable_cons.mp h
  induction ps generalizing x with
  | nil => simpa [profilesText] using Profile.scans_text x.1 hx Toml.Statement.scans_nil
  | cons y ps ih =>
    obtain ⟨hy, hys⟩ := allWritable_cons.mp hps
    exact Profile.scans_text x.1 hx (ih hps hy hys).blank

theorem scans_profilesText {ps : List (String × Profile)} (h : AllWritable ps) :
    Scans (profilesText ps) (profileStatements ps) := by
  cases ps with
  | nil =>
    exact Toml.Statement.scans_nil.header (List.cons_ne_nil "profiles" []) (by simp [Toml.maxDepth])
  | cons x ps => exact scans_profilesText_cons h

theorem scans_text {c : Config} (h : AllWritable c.profiles) :
    Scans c.text (assignments c.topFields ++ profileStatements c.profiles) := by
  have hprofiles := scans_profilesText h
  unfold text topFields
  cases c.defaultProfile with
  | none => exact hprofiles
  | some name => exact hprofiles.blank.string "default_profile" name

theorem profilesText_head (ps : List (String × Profile)) : ∃ r, profilesText ps = '[' :: r := by
  match ps with
  | [] => exact ⟨_, rfl⟩
  | [_] => exact ⟨_, rfl⟩
  | _ :: _ :: _ => exact ⟨_, rfl⟩

theorem text_head (c : Config) : ∀ x ∈ c.text.head?, x ≠ '\ufeff' := by
  unfold text
  cases c.defaultProfile with
  | none =>
    obtain ⟨r, hr⟩ := profilesText_head c.profiles
    rw [hr]
    exact fun x hx => Option.some.inj hx ▸ by decide
  | some name =>
    dsimp only
    rw [writeString, List.append_assoc, List.append_assoc]
    exact Toml.Key.write_head_ne "default_profile" (by decide) (by decide) _

/-- The text of a configuration has its value. -/
theorem parse?_text {c : Config} (hc : Bindings.InOrder c.profiles)
    (h : AllWritable c.profiles) : Value.parse? c.text = some c.toValue := by
  have htop : (c.topFields.map Prod.fst).Nodup ∧ "profiles" ∉ c.topFields.map Prod.fst := by
    unfold topFields
    cases c.defaultProfile <;> simp
  have hvalue : Toml.sectionsValue c.topFields "profiles"
      (c.profiles.map fun x => (x.1, x.2.fields)) = c.toValue := by
    have hsorted : Bindings.sort (c.profiles.map fun x => (x.1, x.2.toValue)) =
        c.profiles.map fun x => (x.1, x.2.toValue) :=
      Bindings.sort_eq_self (hc.map _)
    rw [toValue, fields, ← hsorted, Toml.sectionsValue, List.map_map]
    rfl
  rw [Value.parse?, (scans_text h).scan c.text_head, Option.bind_some, ← hvalue, profileStatements]
  split
  · rename_i hnil
    rw [hnil]
    exact Toml.ofStatements?_no_sections htop.1 htop.2
  · rename_i hne
    refine Toml.ofStatements?_sections htop.1 htop.2 (by simpa using hne) ?_ fun x hx => ?_
    · rw [List.map_map]
      exact hc.nodup
    · obtain ⟨y, -, rfl⟩ := List.mem_map.mp hx
      exact y.2.nodup_fields

theorem load_eq_ok_iff {file : Option (List UInt8)} {env : Variable.Environment} {c : Config} :
    load file env = .ok c ↔ ∃ e f, Variable.settings? env = some e ∧ fileValue? file = some f ∧
      ofValue? (e.overlay f) = some c := by
  have hread : read? file env = some c ↔ ∃ e f, Variable.settings? env = some e ∧
      fileValue? file = some f ∧ ofValue? (e.overlay f) = some c := by
    simp [read?, Option.bind_eq_some_iff]
  rw [← hread, load]
  cases read? file env <;> simp

theorem fileValue?_encodeString (s : String) :
    fileValue? (some (Text.Utf8.encodeString s)) = Value.parse? s.toList := by
  rw [fileValue?, Text.Utf8.encodeString, Text.Utf8.decode?_encode, Option.bind_some]

theorem ordered_of_fileValue? {file : Option (List UInt8)} {f : Value}
    (h : fileValue? file = some f) : f.Ordered := by
  cases file with
  | none => exact Option.some.inj h ▸ .table .nil (by simp)
  | some bytes =>
    obtain ⟨cs, -, h⟩ := Option.bind_eq_some_iff.mp h
    exact Toml.Value.ordered_of_parse? h

theorem inOrder_of_ofValue? {c : Config} {v : Value} (h : ofValue? v = some c) :
    Bindings.InOrder c.profiles := by
  cases v with
  | table ms => exact inOrder_of_profiles? (ofValue?_table_eq_some_iff.mp h).2
  | _ => cases h

/-- A configuration cannot be written just where the seconds or milliseconds of a profile do not
fit in 63 bits; once written, it loads back under the variables it was loaded under. -/
theorem load_renderString {file : Option (List UInt8)} {env : Variable.Environment} {c : Config}
    (h : load file env = .ok c) :
    ((∃ e, c.renderString = .error e) ↔ ∃ x ∈ c.profiles,
      (∃ n ∈ x.2.heartbeatSeconds, 2 ^ 63 ≤ n.toNat) ∨
      ∃ n ∈ x.2.reconnectMillis, 2 ^ 63 ≤ n.toNat) ∧
    ∀ s, c.renderString = .ok s → load (some (Text.Utf8.encodeString s)) env = .ok c := by
  obtain ⟨e, f, he, hf, hread⟩ := load_eq_ok_iff.mp h
  have hwritten : c.renderString =
      if AllWritable c.profiles then .ok (String.ofList c.text) else .error .serialization := by
    rw [renderString, render_eq]
    split <;> rfl
  refine ⟨?_, fun s hs => ?_⟩
  · have herror : (∃ e, c.renderString = .error e) ↔ ¬AllWritable c.profiles := by
      rw [hwritten]
      split <;> simp [*]
    rw [herror, AllWritable]
    simp only [Classical.not_forall, Profile.not_writable_iff, exists_prop]
  · rw [hwritten] at hs
    split at hs
    · rename_i hall
      obtain rfl := Except.ok.inj hs
      refine load_eq_ok_iff.mpr ⟨e, c.toValue, he, ?_, ofValue?_overlay
        (Variable.ordered_of_settings? he) (ordered_of_fileValue? hf) hread⟩
      rw [fileValue?_encodeString, String.toList_ofList,
        parse?_text (inOrder_of_ofValue? hread) hall]
    · cases hs

/-- The port of a variable is written, and read under the variable again; so is a name that needs
quotes. -/
theorem load_renderString_quoted :
    let file := some (Text.Utf8.encodeString
      "[profiles.home]\nhost = 'ad2.lan'\nport = 80\n[profiles.'\"old\" lab']\nhost = 'a'\n")
    let env := [("AD2KP_PROFILES__HOME__PORT", "8081")]
    let c : Config := ⟨none, [("\"old\" lab", .ofHost "a"),
      ("home", { Profile.ofHost "ad2.lan" with port := some 8081 })]⟩
    load file env = .ok c ∧ ∃ s, c.renderString = .ok s ∧
      load (some (Text.Utf8.encodeString s)) env = .ok c := by
  intro file env c
  have hload : load file env = .ok c := by
    rw [load, read?, fileValue?_encodeString]
    decide +kernel
  have hwritten : c.renderString = .ok
      ("[profiles.'\"old\" lab']\nhost = \"a\"\ntransport = \"websocket\"\n" ++
        "partition = 0\ncode = 0\n\n[profiles.home]\nhost = \"ad2.lan\"\n" ++
        "transport = \"websocket\"\nport = 8081\npartition = 0\ncode = 0\n") := by
    decide +kernel
  exact ⟨hload, _, hwritten, (load_renderString hload).2 _ hwritten⟩

end Config

end AlarmKeypad
