import AlarmKeypad.Connector
import AlarmKeypad.Proofs.Url.Authority
import AlarmKeypad.Proofs.Url.Path
import Mathlib.Data.List.TakeDrop
import Mathlib.Data.List.TakeWhile
import Mathlib.Tactic.MkIffOfInductiveProp
/-!
# The URL of a keypad

The text of a host is put between the scheme and the path as it is, and the whole is then read as a
URL. A character that parts a URL moves its parts. `HostFits` says which hosts leave the others
where they belong: those, and no others, give the URL of the keypad.
-/

namespace AlarmKeypad

namespace Url

variable {scheme cs ds front rest : List Char} {c : Char} {port : Nat} {special : Bool} {u : Url}

/-! ## The parts of a URL with an authority -/

/-- A text without the marks that begin a query and a fragment. -/
def Unmarked (cs : List Char) : Prop := '?' ∉ cs ∧ '#' ∉ cs

instance (cs : List Char) : Decidable (Unmarked cs) := inferInstanceAs (Decidable (_ ∧ _))

theorem unmarked_append : Unmarked (cs ++ ds) ↔ Unmarked cs ∧ Unmarked ds := by
  simp only [Unmarked, List.mem_append]
  tauto

/-- What an authority leaves is a path alone exactly if there is no mark in it. -/
theorem unmarked_iff : Unmarked cs ↔
    queryOf special (splitPath cs).2 = none ∧ fragmentOf (splitPath cs).2 = none := by
  rw [splitPath, List.span_eq_takeWhile_dropWhile]
  cases hrest : cs.dropWhile fun c => c ≠ '?' ∧ c ≠ '#' with
  | nil =>
    have hnone := List.dropWhile_eq_nil_iff.mp hrest
    refine iff_of_true ⟨fun hmem => ?_, fun hmem => ?_⟩ ⟨rfl, rfl⟩
    all_goals exact absurd (hnone _ hmem) (by decide)
  | cons c r =>
    -- what is left begins with the first mark
    have hmem : c ∈ cs := (List.dropWhile_suffix _).subset (hrest ▸ List.mem_cons_self)
    have hmark : c = '?' ∨ c = '#' := by
      have hhead := List.head?_dropWhile_not (fun c => decide (c ≠ '?' ∧ c ≠ '#')) cs
      rw [hrest] at hhead
      by_contra hneither
      exact absurd hhead (by simpa using not_or.mp hneither)
    rcases hmark with rfl | rfl
    · simp [Unmarked, queryOf, hmem]
    · simp [Unmarked, fragmentOf, hmem]

theorem endsAuthority_eq (c : Char) :
    endsAuthority true c = (isSlash c || c == '?' || c == '#') := by
  rw [Bool.eq_iff_iff]
  simp [endsAuthority, isSlash]
  tauto

theorem parseHierarchical_ok (h : parseHierarchical scheme cs = .ok u)
    (hkind : kindOf scheme = .special port) :
    ∃ a, parseAuthority scheme (cs.takeWhile fun c => !endsAuthority true c)
          (cs.dropWhile fun c => !endsAuthority true c).isEmpty = .ok a ∧
      u = assemble scheme a
        (absolutePath (.special port)
          (splitPath (cs.dropWhile fun c => !endsAuthority true c)).1)
        (splitPath (cs.dropWhile fun c => !endsAuthority true c)).2 := by
  unfold parseHierarchical at h
  simp only [hkind, SchemeKind.isSpecial, List.span_eq_takeWhile_dropWhile] at h
  obtain ⟨a, ha, h⟩ := exists_of_bind_eq_ok h
  exact ⟨a, ha, (Except.ok.inj h).symm⟩

/-- A mark ends the authority if it is not behind it anyway. -/
theorem query_fragment_none_iff (h : parseHierarchical scheme cs = .ok u)
    (hkind : kindOf scheme = .special port) :
    u.query = none ∧ u.fragment = none ↔ Unmarked cs := by
  obtain ⟨a, -, rfl⟩ := parseHierarchical_ok h hkind
  refine unmarked_iff.symm.trans ?_
  have hmark (c : Char) (hc : endsAuthority true c = true) :
      c ∉ cs.dropWhile (fun c => !endsAuthority true c) ↔ c ∉ cs := by
    refine not_congr ⟨fun hmem => (List.dropWhile_suffix _).subset hmem, fun hmem => ?_⟩
    rw [← List.takeWhile_append_dropWhile (p := fun c => !endsAuthority true c) (l := cs)] at hmem
    refine (List.mem_append.mp hmem).resolve_left fun hfront => ?_
    simpa [hc] using List.mem_takeWhile_imp hfront
  rw [Unmarked, hmark '?' rfl, hmark '#' rfl, Unmarked]

/-- Without marks the first slash parts authority and path. -/
theorem parseHierarchical_unmarked
    (h : parseHierarchical scheme (front ++ c :: rest) = .ok u)
    (hkind : kindOf scheme = .special port) (hfront : ∀ c ∈ front, isSlash c = false)
    (hc : isSlash c) (hmarks : Unmarked (front ++ c :: rest)) :
    ∃ a, parseAuthority scheme front false = .ok a ∧
      u = assemble scheme a (absolutePath (.special port) (c :: rest)) [] := by
  have hstays : ∀ d ∈ front, (!endsAuthority true d) = true := by
    intro d hd
    have hq : d ≠ '?' := fun heq => hmarks.1 (List.mem_append_left _ (heq ▸ hd))
    have hf : d ≠ '#' := fun heq => hmarks.2 (List.mem_append_left _ (heq ▸ hd))
    simp [endsAuthority_eq, hfront d hd, hq, hf]
  have hends : endsAuthority true c = true := by
    simp [endsAuthority_eq, hc]
  have hauthority :
      ((front ++ c :: rest).takeWhile fun c => !endsAuthority true c) = front := by
    rw [List.takeWhile_append_of_pos hstays]
    simp [hends]
  have hleft :
      ((front ++ c :: rest).dropWhile fun c => !endsAuthority true c) = c :: rest := by
    rw [List.dropWhile_append_of_pos hstays]
    simp [hends]
  have hpath : splitPath (c :: rest) = (c :: rest, []) := by
    have hplain : ∀ d ∈ c :: rest, decide (d ≠ '?' ∧ d ≠ '#') = true := by
      intro d hd
      rw [decide_eq_true_eq]
      exact ⟨fun heq => hmarks.1 (List.mem_append_right _ (heq ▸ hd)),
        fun heq => hmarks.2 (List.mem_append_right _ (heq ▸ hd))⟩
    rw [splitPath, List.span_eq_takeWhile_dropWhile, List.takeWhile_eq_self_iff.mpr hplain,
      List.dropWhile_eq_nil_iff.mpr hplain]
  obtain ⟨a, ha, hu⟩ := parseHierarchical_ok h hkind
  rw [hauthority, hleft] at ha
  rw [hleft, hpath] at hu
  exact ⟨a, ha, hu⟩

/-! ## The text that is read -/

/-- What is left of a text that is cleaned. -/
def kept (cs : List Char) : List Char := cs.filter fun c => c ≠ '\t' ∧ c ≠ '\n' ∧ c ≠ '\r'

/-- A text with neither a space nor a control character at an end is cleaned inside alone. -/
theorem clean_eq_kept {first last : Char} (hfirst : 0x20 < first.toNat) (hlast : 0x20 < last.toNat)
    (cs : List Char) : clean (first :: cs ++ [last]) = kept (first :: cs ++ [last]) := by
  have hstart : (first :: cs ++ [last]).dropWhile (fun c => decide (c.toNat ≤ 0x20)) =
      first :: cs ++ [last] := List.dropWhile_cons_of_neg (by simpa using hfirst)
  have hend : Text.dropEndWhile (fun c => decide (c.toNat ≤ 0x20)) (first :: cs ++ [last]) =
      first :: cs ++ [last] := Text.dropEndWhile_append_cons (by simpa using hlast) ..
  simp only [clean, hstart, hend]
  rfl

theorem kept_append (cs ds : List Char) : kept (cs ++ ds) = kept cs ++ kept ds :=
  List.filter_append ..

/-- The slashes in front of what stands between are taken for those of the scheme. -/
theorem parse_webSocket (cs : List Char) :
    parse ("ws://".toList ++ cs ++ webSocketPath.toList) =
      parseHierarchical "ws".toList ((kept cs ++ webSocketPath.toList).dropWhile isSlash) := by
  have hclean : clean ("ws://".toList ++ cs ++ webSocketPath.toList) =
      'w' :: 's' :: ':' :: '/' :: '/' :: (kept cs ++ webSocketPath.toList) := by
    -- neither end is one that is cut off
    have hends : "ws://".toList ++ cs ++ webSocketPath.toList =
        'w' :: (['s', ':', '/', '/'] ++ cs ++ "/ad2w".toList) ++ ['s'] := by
      simp [webSocketPath]
    rw [hends, clean_eq_kept (by decide) (by decide), ← hends, kept_append, kept_append]
    rfl
  have hscheme (r : List Char) : splitScheme ('w' :: 's' :: ':' :: r) = some ("ws".toList, r) := rfl
  have hkind : kindOf "ws".toList = .special 80 := rfl
  simp only [parse, hclean, hscheme, hkind]
  rfl

/-- The URL of the keypad on a device's web server, at the port given or the scheme's own. -/
structure IsKeypad (port : Option UInt16) (u : Url) : Prop where
  scheme : u.scheme = "ws".toList
  path : u.path = webSocketPath.toList
  query : u.query = none
  fragment : u.fragment = none
  username : u.username = []
  password : u.password = []
  port : u.effectivePort? = some ((port.map UInt16.toNat).getD 80)

end Url

namespace Endpoint

open Url

variable {host : String} {port : Option UInt16} {u : Url}

/-! ## Hosts that fit -/

/-- The text of a host where a URL is read: without tabs and line ends, and without the slashes in
front, which are taken for those behind the scheme. -/
def hostText (host : String) : List Char := (kept host.toList).dropWhile isSlash

/-- What is read as the authority, but for the port. -/
def ahead (host : String) : List Char := (hostText host).takeWhile (!isSlash ·)

/-- What is read as the front of the path, with a slash before it. -/
def behind (host : String) : List Char := (hostText host).dropWhile (!isSlash ·)

/-- An authority that names no user and leads to the port that is asked for. -/
@[mk_iff]
structure AuthorityFits (cs : List Char) (port : Option UInt16) : Prop where
  /-- An at sign makes a user of what stands in front, unless that is nothing or a colon. -/
  user : ∀ w ∈ splitUser cs, w.1 = [] ∨ w.1 = [':']
  /-- A port of the host's own is the scheme's. -/
  ownPort : port = none → ∀ digits ∈ (splitPort false (unnamed cs)).2,
    digits = [] ∨ Text.natural? digits = some 80
  /-- An open bracket takes the port that is asked for as more of the host. -/
  givenPort : bracketOpen false (unnamed cs) = true → port = none ∨ port = some 80

/-- A host that leaves every other part of the URL where it belongs. -/
@[mk_iff]
structure HostFits (host : String) (port : Option UInt16) : Prop where
  named : hostText host ≠ []
  unmarked : Unmarked (hostText host)
  /-- Behind a slash are only segments that dots take back. A port there is a segment. -/
  path : behind host ≠ [] → port = none ∧ Path.depth (Path.split true (behind host).tail) = 0
  authority : AuthorityFits (ahead host) port

instance (cs : List Char) (port : Option UInt16) : Decidable (AuthorityFits cs port) :=
  decidable_of_iff' _ (authorityFits_iff cs port)

instance (host : String) (port : Option UInt16) : Decidable (HostFits host port) :=
  decidable_of_iff' _ (hostFits_iff host port)

/-- The colons of an address in brackets part nothing. -/
example : HostFits "[fd00::7]" (some 8080) := by decide +kernel

/-- Dots take a segment back, but none that ends in a port. -/
example : HostFits "panel/.." none ∧ ¬HostFits "panel/.." (some 8080) := by decide +kernel

/-! ## The text of the URL -/

/-- A port as it is put behind a host. -/
def portText (port : Option UInt16) : List Char :=
  port.elim [] fun p => ':' :: Text.decimal p.toNat

/-- Only colons and digits stand in a port. -/
theorem notMem_portText {c : Char} (hcolon : c ≠ ':') (hdigit : c.isDigit = false)
    (port : Option UInt16) : c ∉ portText port := by
  cases port with
  | none => exact List.not_mem_nil
  | some p =>
    rintro (_ | ⟨_, hmem⟩)
    · exact hcolon rfl
    · exact absurd (Text.isDigit_of_mem_decimal hmem) (by simp [hdigit])

theorem kept_portText (port : Option UInt16) : kept (portText port) = portText port := by
  refine List.filter_eq_self.mpr fun c hc => ?_
  rw [decide_eq_true_eq]
  refine ⟨?_, ?_, ?_⟩
  all_goals
    rintro rfl
    exact notMem_portText (by decide) (by decide) port hc

theorem isSlash_of_mem_portText : ∀ c ∈ portText port, isSlash c = false := by
  intro c hc
  rw [isSlash, decide_eq_false_iff_not]
  rintro (rfl | rfl)
  all_goals exact notMem_portText (by decide) (by decide) port hc

theorem webSocketUrl_eq (host : String) (port : Option UInt16) :
    webSocketUrl host port = parseHierarchical "ws".toList
      ((kept host.toList ++ (portText port ++ webSocketPath.toList)).dropWhile isSlash) := by
  have hauthority : (authority host port).toList = host.toList ++ portText port := by
    cases port with
    | none => exact (List.append_nil _).symm
    | some p => simp [authority, portText, Text.decimalString]
  rw [webSocketUrl, String.toList_append, String.toList_append, hauthority, parse_webSocket,
    kept_append, kept_portText, List.append_assoc]

theorem webSocketUrl_of_named (h : hostText host ≠ []) (port : Option UInt16) :
    webSocketUrl host port = parseHierarchical "ws".toList
      (hostText host ++ (portText port ++ webSocketPath.toList)) := by
  have hleft : (kept host.toList).dropWhile isSlash = hostText host := rfl
  rw [webSocketUrl_eq, List.dropWhile_append, hleft, if_neg (by simpa using h)]

/-- There is no mark behind a host. -/
theorem unmarked_text_iff (cs : List Char) (port : Option UInt16) :
    Unmarked (cs ++ (portText port ++ webSocketPath.toList)) ↔ Unmarked cs := by
  have hport : Unmarked (portText port) :=
    ⟨notMem_portText (by decide) (by decide) port, notMem_portText (by decide) (by decide) port⟩
  have hpath : Unmarked webSocketPath.toList := by decide
  rw [unmarked_append, unmarked_append, and_iff_left ⟨hport, hpath⟩]

/-! ## Where the parts end up -/

/-- A text without a slash is the authority, with the port behind it. -/
theorem parseHierarchical_whole {cs : List Char} (port : Option UInt16)
    (hslash : ∀ c ∈ cs, isSlash c = false) (hmarks : Unmarked cs)
    (h : parseHierarchical "ws".toList (cs ++ (portText port ++ webSocketPath.toList)) = .ok u) :
    ∃ a, parseAuthority "ws".toList (cs ++ portText port) false = .ok a ∧
      u = assemble "ws".toList a webSocketPath.toList [] := by
  rw [← unmarked_text_iff _ port] at hmarks
  have hpath : webSocketPath.toList = '/' :: "ad2ws".toList := rfl
  rw [← List.append_assoc, hpath] at h hmarks
  exact parseHierarchical_unmarked h rfl
    (List.forall_mem_append.mpr ⟨hslash, isSlash_of_mem_portText⟩) rfl hmarks

/-- A host of slashes alone leaves its place to the path or to the port. -/
theorem not_isKeypad_of_unnamed (hnone : hostText host = [])
    (h : webSocketUrl host port = .ok u) : ¬u.IsKeypad port := by
  have hleft : (kept host.toList).dropWhile isSlash = [] := hnone
  rw [webSocketUrl_eq, List.dropWhile_append, hleft, if_pos List.isEmpty_nil] at h
  intro hu
  cases port with
  | none =>
    -- the slash of the path goes with those of the scheme, and the rest of it is the host
    obtain ⟨a, -, rfl⟩ := parseHierarchical_ok h rfl
    have hpath : absolutePath (.special 80) [] = webSocketPath.toList := hu.path
    exact absurd hpath (by decide)
  | some p =>
    -- the authority begins with the colon of the port
    have hat : '@' ∉ Text.decimal p.toNat := fun hmem =>
      notMem_portText (by decide) (by decide) (some p) (List.mem_cons_of_mem ':' hmem)
    have hslash : ∀ c ∈ [], isSlash c = false := fun _ hc => nomatch hc
    have hmarks : Unmarked [] := ⟨List.not_mem_nil, List.not_mem_nil⟩
    obtain ⟨a, ha, -⟩ := parseHierarchical_whole (some p) hslash hmarks h
    exact nomatch ha.symm.trans (parseAuthority_colon rfl hat)

theorem isKeypad_assemble_iff {cs path : List Char} {atEnd : Bool} {a : Authority}
    (ha : parseAuthority "ws".toList (cs ++ portText port) atEnd = .ok a) :
    (assemble "ws".toList a path []).IsKeypad port ↔
      path = webSocketPath.toList ∧ AuthorityFits cs port := by
  have hat : '@' ∉ portText port := notMem_portText (by decide) (by decide) port
  have huser : a.username = [] ∧ a.password = [] ↔ ∀ w ∈ splitUser cs, w.1 = [] ∨ w.1 = [':'] := by
    rw [anonymous_iff ha, splitUser_append hat]
    cases splitUser cs <;> simp
  have hport : (a.port <|> some 80) = some ((port.map UInt16.toNat).getD 80) ↔
      (port = none → ∀ digits ∈ (splitPort false (unnamed cs)).2,
        digits = [] ∨ Text.natural? digits = some 80) ∧
      (bracketOpen false (unnamed cs) = true → port = none ∨ port = some 80) := by
    cases port with
    | none =>
      rw [portText, Option.elim_none, List.append_nil] at ha
      simpa using ownPort_iff ha rfl
    | some p =>
      have hown : p.toNat = (80 : UInt16).toNat ↔ p = 80 := UInt16.toNat_inj
      simpa [← hown] using givenPort_iff ha rfl
  constructor
  · intro h
    obtain ⟨hown, hgiven⟩ := hport.mp h.port
    exact ⟨h.path, huser.mp ⟨h.username, h.password⟩, hown, hgiven⟩
  · rintro ⟨hpath, hfits⟩
    obtain ⟨husername, hpassword⟩ := huser.mpr hfits.user
    exact ⟨rfl, hpath, rfl, rfl, husername, hpassword, hport.mpr ⟨hfits.ownPort, hfits.givenPort⟩⟩

theorem isKeypad_iff_of_whole (hbehind : behind host = []) (hmarks : Unmarked (hostText host))
    (h : parseHierarchical "ws".toList (hostText host ++ (portText port ++ webSocketPath.toList)) =
      .ok u) :
    u.IsKeypad port ↔ AuthorityFits (ahead host) port := by
  have hall := List.dropWhile_eq_nil_iff.mp hbehind
  have hahead : ahead host = hostText host := List.takeWhile_eq_self_iff.mpr hall
  have hslash : ∀ c ∈ hostText host, isSlash c = false := fun c hc => by simpa using hall c hc
  obtain ⟨a, ha, rfl⟩ := parseHierarchical_whole port hslash hmarks h
  rw [isKeypad_assemble_iff ha, hahead]
  exact and_iff_right rfl

/-- A slash in a host ends the authority, and a port behind it is part of the path. -/
theorem isKeypad_iff_of_slash {c : Char} {rest : List Char} (hbehind : behind host = c :: rest)
    (hmarks : Unmarked (hostText host))
    (h : parseHierarchical "ws".toList (hostText host ++ (portText port ++ webSocketPath.toList)) =
      .ok u) :
    u.IsKeypad port ↔
      (port = none ∧ Path.depth (Path.split true rest) = 0) ∧ AuthorityFits (ahead host) port := by
  have hc : isSlash c := by
    have hhead := List.head?_dropWhile_not (!isSlash ·) (hostText host)
    rw [← behind, hbehind] at hhead
    simpa using hhead
  have hahead : ∀ d ∈ ahead host, isSlash d = false := fun d hd => by
    simpa using List.mem_takeWhile_imp hd
  have hcut : hostText host = ahead host ++ c :: rest := by
    rw [← hbehind]
    exact List.takeWhile_append_dropWhile.symm
  rw [← unmarked_text_iff _ port] at hmarks
  rw [hcut, List.append_assoc, List.cons_append, ← List.append_assoc rest] at h hmarks
  obtain ⟨a, ha, rfl⟩ := parseHierarchical_unmarked h rfl hahead hc hmarks
  have hname : ∀ c ∈ "ad2ws".toList, isSlash c = false := by simp [isSlash]
  have hpath : absolutePath (.special 80) (c :: (rest ++ portText port ++ webSocketPath.toList)) =
      webSocketPath.toList ↔ Path.depth (Path.split true (rest ++ portText port)) = 0 :=
    Path.absolutePath_eq_iff hc hname (by decide) (by decide) rfl
  cases port with
  | none =>
    have hport (cs : List Char) : cs ++ portText none = cs := List.append_nil cs
    rw [← hport (ahead host)] at ha
    rw [isKeypad_assemble_iff ha, hpath, hport]
    simp
  | some p =>
    -- the port is the end of a segment that cannot be taken back
    have hcolon : ':' ∈ portText (some p) := List.mem_cons_self
    have hdepth := Path.depth_split_append_ne_zero isSlash_of_mem_portText hcolon rest
    exact iff_of_false (fun hu => hdepth (hpath.mp hu.path))
      fun hfits => absurd hfits.1.1 (Option.some_ne_none p)

/-- The URL made for a host is that of its keypad exactly if the host fits. -/
theorem isKeypad_iff (h : webSocketUrl host port = .ok u) :
    u.IsKeypad port ↔ HostFits host port := by
  by_cases hnamed : hostText host = []
  · exact iff_of_false (not_isKeypad_of_unnamed hnamed h) fun hfits => hfits.named hnamed
  rw [webSocketUrl_of_named hnamed] at h
  by_cases hmarks : Unmarked (hostText host)
  · cases hbehind : behind host with
    | nil =>
      rw [isKeypad_iff_of_whole hbehind hmarks h]
      exact ⟨fun hfits => ⟨hnamed, hmarks, fun hne => absurd hbehind hne, hfits⟩,
        HostFits.authority⟩
    | cons c rest =>
      rw [isKeypad_iff_of_slash hbehind hmarks h]
      have hpath : (behind host ≠ [] →
          port = none ∧ Path.depth (Path.split true (behind host).tail) = 0) ↔
          port = none ∧ Path.depth (Path.split true rest) = 0 := by
        simp [hbehind]
      exact ⟨fun ⟨hdepth, hfits⟩ => ⟨hnamed, hmarks, hpath.mpr hdepth, hfits⟩,
        fun hfits => ⟨hpath.mp hfits.path, hfits.authority⟩⟩
  · refine iff_of_false (fun hu => hmarks ?_) fun hfits => hmarks hfits.unmarked
    exact (unmarked_text_iff _ _).mp ((query_fragment_none_iff h rfl).mp ⟨hu.query, hu.fragment⟩)

/-! ## Hosts in general -/

/-- The characters that may part a URL. -/
def isDelimiter (c : Char) : Bool :=
  isSlash c || c == '?' || c == '#' || c == '@' || c == ':' || c == '['

/-- A text without delimiters fits, at any port. -/
theorem hostFits_of_plain (hplain : ∀ c ∈ host.toList, isDelimiter c = false)
    (hne : kept host.toList ≠ []) (port : Option UInt16) : HostFits host port := by
  have hkept : ∀ c ∈ kept host.toList, isDelimiter c = false :=
    fun c hc => hplain c (List.mem_of_mem_filter hc)
  have hslash : ∀ c ∈ kept host.toList, isSlash c = false := fun c hc => by
    have hc := hkept c hc
    simp only [isDelimiter, Bool.or_eq_false_iff] at hc
    exact hc.1.1.1.1.1
  have hnone {c : Char} (hc : isDelimiter c = true) : c ∉ kept host.toList :=
    fun hmem => absurd (hkept c hmem) (by simp [hc])
  have htext : hostText host = kept host.toList := by
    obtain ⟨c, cs, hcons⟩ := List.exists_cons_of_ne_nil hne
    rw [hostText, hcons, List.dropWhile_cons_of_neg]
    simpa using hslash c (hcons ▸ List.mem_cons_self)
  have hahead : ahead host = kept host.toList := by
    rw [ahead, htext, List.takeWhile_eq_self_iff]
    exact fun c hc => by simp [hslash c hc]
  have hbehind : behind host = [] := by
    rw [behind, htext, List.dropWhile_eq_nil_iff]
    exact fun c hc => by simp [hslash c hc]
  have huser : splitUser (kept host.toList) = none := splitUser_eq_none_iff.mpr (hnone rfl)
  have hunnamed : unnamed (kept host.toList) = kept host.toList := by rw [unnamed, huser]; rfl
  have hport := splitPort_of_notMem (hnone (c := ':') rfl) false
  have hclosed := bracketOpen_of_notMem (hnone (c := '[') rfl)
  have hmarks : Unmarked (hostText host) := htext ▸ ⟨hnone rfl, hnone rfl⟩
  refine ⟨htext ▸ hne, hmarks, fun hne => absurd hbehind hne, ?_⟩
  rw [hahead]
  exact ⟨by simp [huser], by simp [hunnamed, hport], by simp [hunnamed, hclosed]⟩

theorem isKeypad_of_plain (hplain : ∀ c ∈ host.toList, isDelimiter c = false)
    (hne : kept host.toList ≠ []) (h : webSocketUrl host port = .ok u) : u.IsKeypad port :=
  (isKeypad_iff h).mpr (hostFits_of_plain hplain hne port)

/-- A host is refused as an invalid URL, or leads to its keypad exactly if it fits. -/
theorem address_of_host (host : String) (port : Option UInt16) :
    (∃ f, webSocketUrl host port = .error f ∧
      address ⟨.webSocket, host, port⟩ = .error (.ofTransport (.invalidUrl f))) ∨
    ∃ u, webSocketUrl host port = .ok u ∧
      address ⟨.webSocket, host, port⟩ = .ok u.text ∧
      (u.IsKeypad port ↔ HostFits host port) := by
  cases h : webSocketUrl host port with
  | error f => exact .inl ⟨f, rfl, by simp [address, h]⟩
  | ok u => exact .inr ⟨u, rfl, by simp [address, h], isKeypad_iff h⟩

theorem keypad_of_panel :
    ∃ u, webSocketUrl "panel" (some 8080) = .ok u ∧ u.IsKeypad (some 8080) := by
  have hread : (webSocketUrl "panel" (some 8080)).isOk = true := by decide +kernel
  rcases address_of_host "panel" (some 8080) with ⟨f, hf, -⟩ | ⟨u, hu, -, hfits⟩
  · rw [hf] at hread
    exact nomatch hread
  · exact ⟨u, hu, hfits.mpr (by decide +kernel)⟩

/-- A slash behind a host is enough for another path. -/
theorem not_always_isKeypad :
    ¬∀ (host : String) (port : Option UInt16) (u : Url),
      webSocketUrl host port = .ok u → u.IsKeypad port := by
  intro hall
  have hread : (webSocketUrl "panel/" none).toOption.map Url.path = some "//ad2ws".toList := by
    decide +kernel
  cases h : webSocketUrl "panel/" none with
  | error f =>
    rw [h] at hread
    exact nomatch hread
  | ok u =>
    rw [h] at hread
    have hpath := (hall "panel/" none u h).path
    rw [Option.some.inj hread] at hpath
    exact absurd hpath (by decide)

end Endpoint
end AlarmKeypad
