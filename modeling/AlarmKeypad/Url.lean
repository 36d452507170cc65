import AlarmKeypad.Url.Host
import AlarmKeypad.Url.Path
/-!
URLs, read and written by the rules that browsers share.

A text is cut into scheme, user, host, port, path, query and fragment from left to right. Schemes
with a host of their own kind are special: a backslash is a slash for them, and their path is never
empty.
-/

namespace AlarmKeypad

structure Url where
  scheme : List Char
  username : List Char
  password : List Char
  /-- None if there is no authority at all. -/
  host : Option Url.Host
  /-- A port other than the scheme's own. -/
  port : Option Nat
  path : List Char
  query : Option (List Char)
  fragment : Option (List Char)

namespace Url

inductive SchemeKind where
  | file
  /-- A scheme with a host that is an address or a domain, and the port it implies. -/
  | special (port : Nat)
  | other
deriving DecidableEq

def SchemeKind.isSpecial : SchemeKind → Bool
  | file | special _ => true
  | other => false

def kindOf (scheme : List Char) : SchemeKind :=
  match String.ofList scheme with
  | "http" | "ws" => .special 80
  | "https" | "wss" => .special 443
  | "ftp" => .special 21
  | "file" => .file
  | _ => .other

/-- The port that the scheme implies. -/
def schemePort? (scheme : List Char) : Option Nat :=
  match kindOf scheme with
  | .special port => some port
  | .file | .other => none

/-- The port that is used, written or implied. -/
def effectivePort? (u : Url) : Option Nat := u.port <|> schemePort? u.scheme

/-- The text without spaces and control characters at its ends and without tabs and line ends. -/
def clean (cs : List Char) : List Char :=
  let isEdge (c : Char) : Bool := c.toNat ≤ 0x20
  (Text.dropEndWhile isEdge (cs.dropWhile isEdge)).filter fun c => c ≠ '\t' ∧ c ≠ '\n' ∧ c ≠ '\r'

def isSchemeChar (c : Char) : Bool := c.isAlphanum || c == '+' || c == '-' || c == '.'

/-- The scheme in lower case, and what follows its colon. -/
def splitScheme (cs : List Char) : Option (List Char × List Char) :=
  match cs with
  | [] => none
  | c :: _ =>
    if c.isAlpha then
      match cs.span isSchemeChar with
      | (scheme, ':' :: r) => some (scheme.map Char.toLower, r)
      | _ => none
    else none

/-- Whether the authority ends before the character. -/
def endsAuthority (special : Bool) (c : Char) : Bool :=
  c == '/' || c == '?' || c == '#' || (special && c == '\\')

/-- User name and password from what stands before the last at sign. -/
def userOf (cs : List Char) : List Char × List Char :=
  let (name, password) := (Text.splitOnce ':' cs).getD (cs, [])
  (Percent.encode Percent.userInfo name, Percent.encode Percent.userInfo password)

/-- What stands before and after the last at sign of an authority. -/
def splitUser (authority : List Char) : Option (List Char × List Char) :=
  if authority.contains '@' then
    let host := (authority.reverse.takeWhile (· ≠ '@')).reverse
    some (authority.take (authority.length - host.length - 1), host)
  else none

/-- The host and what follows the first colon outside square brackets, if there is one. -/
def splitPort (inside : Bool) : List Char → List Char × Option (List Char)
  | [] => ([], none)
  | c :: r =>
    if c = ':' ∧ ¬inside then ([], some r)
    else
      let inside := if c = '[' then true else if c = ']' then false else inside
      let (h, p) := splitPort inside r
      (c :: h, p)

/-- A port of 16 bits; none if it is empty or the scheme's own. -/
def parsePort (scheme cs : List Char) : Except Fault (Option Nat) :=
  if cs = [] then .ok none
  else match (Text.natural? cs).filter (· < UInt16.size) with
    | none => .error .port
    | some n => .ok (if schemePort? scheme = some n then none else some n)

structure Authority where
  username : List Char
  password : List Char
  host : Option Host
  port : Option Nat

/-- The host of an authority whose user has been read. -/
def hostOf (scheme : List Char) (user : List Char × List Char) (hasUser : Bool) (cs : List Char) :
    Except Fault Authority := do
  let special := (kindOf scheme).isSpecial
  let (hostText, portText) := splitPort false cs
  if hostText = [] ∧ (special ∨ hasUser ∨ portText.isSome) then throw .emptyHost
  let host ← if special then Host.parse hostText else Host.parseOpaque hostText
  let port ← parsePort scheme (portText.getD [])
  return ⟨user.1, user.2, some host, port⟩

/-- An authority; an at sign with nothing around it may only stand at the end of the text. -/
def parseAuthority (scheme cs : List Char) (atEnd : Bool) : Except Fault Authority :=
  match splitUser cs with
  | none => hostOf scheme ([], []) false cs
  | some (user, rest) =>
    let names := userOf user
    if user = [] ∧ rest = [] ∧ ¬atEnd then .error .emptyHost
    else hostOf scheme names (names.1 ≠ [] || names.2 ≠ []) rest

/-- The part before the first of the two characters that end a path. -/
def splitPath (cs : List Char) : List Char × List Char := cs.span fun c => c ≠ '?' ∧ c ≠ '#'

def queryOf (special : Bool) (cs : List Char) : Option (List Char) :=
  match cs with
  | '?' :: r =>
    some (Percent.encode (if special then Percent.specialQuery else Percent.query)
      (r.takeWhile (· ≠ '#')))
  | _ => none

def fragmentOf (cs : List Char) : Option (List Char) :=
  match cs.dropWhile (· ≠ '#') with
  | '#' :: r => some (Percent.encode Percent.fragment r)
  | _ => none

/-- The path after an authority or a slash, with a slash in front. -/
def absolutePath (kind : SchemeKind) (cs : List Char) : List Char :=
  let pieces := match Path.split kind.isSpecial cs with
    | [] :: p :: ps => p :: ps
    | ps => ps
  let segments := Path.ofPieces (kind = .file) [] pieces
  let segments := if kind = .file then
      let kept := segments.dropWhile (· = [])
      if kept = [] then [[]] else kept
    else segments
  Path.text segments

def assemble (scheme : List Char) (a : Authority) (path rest : List Char) : Url :=
  let special := (kindOf scheme).isSpecial
  { scheme
    username := a.username
    password := a.password
    host := a.host
    port := a.port
    path
    query := queryOf special rest
    fragment := fragmentOf rest }

def noAuthority : Authority := ⟨[], [], none, none⟩

/-- A URL with an authority, after the slashes in front of it. -/
def parseHierarchical (scheme cs : List Char) : Except Fault Url := do
  let kind := kindOf scheme
  let (authority, r) := cs.span fun c => !endsAuthority kind.isSpecial c
  let a ← parseAuthority scheme authority r.isEmpty
  let (pathText, rest) := splitPath r
  let path := if kind = .other ∧ pathText = [] then [] else absolutePath kind pathText
  return assemble scheme a path rest

/-- A URL of a file: two slashes in front of the host, which may be empty. -/
def parseFile (scheme cs : List Char) : Except Fault Url := do
  let isSlash (c : Char) : Bool := c == '/' || c == '\\'
  let (hostText, r) := match cs with
    | a :: b :: r =>
      if isSlash a && isSlash b then
        let (h, rest) := r.span fun c => !endsAuthority true c
        if Path.isDrive h then ([], r) else (h, rest)
      else ([], cs)
    | _ => ([], cs)
  let host ← if hostText = [] then pure (Host.domain []) else Host.parse hostText
  let host :=
    if host = .domain ['l', 'o', 'c', 'a', 'l', 'h', 'o', 's', 't'] then .domain [] else host
  let (pathText, rest) := splitPath r
  return assemble scheme ⟨[], [], some host, none⟩ (absolutePath .file pathText) rest

/-- A URL without an authority: a path from the root, or a text that is no path. -/
def parseOther (scheme cs : List Char) : Url :=
  let (pathText, rest) := splitPath cs
  let path := match pathText with
    | '/' :: _ => absolutePath .other pathText
    | _ => Percent.encode Percent.controls pathText
  assemble scheme noAuthority path rest

def parse (text : List Char) : Except Fault Url :=
  match splitScheme (clean text) with
  | none => .error .relative
  | some (scheme, r) =>
    match kindOf scheme with
    | .special _ => parseHierarchical scheme (r.dropWhile fun c => c = '/' ∨ c = '\\')
    | .file => parseFile scheme r
    | .other =>
      match r with
      | '/' :: '/' :: r => parseHierarchical scheme r
      | _ => .ok (parseOther scheme r)

def userText (u : Url) : List Char :=
  if u.username = [] ∧ u.password = [] then []
  else u.username ++ (if u.password = [] then [] else ':' :: u.password) ++ ['@']

/-- The authority with the slashes in front of it; without one, a path that would read as one is set
apart by a dot. -/
def authorityText (u : Url) : List Char :=
  match u.host with
  | some host =>
    ['/', '/'] ++ userText u ++ host.text ++ u.port.elim [] fun p => ':' :: Text.decimal p
  | none => if u.path.take 2 = ['/', '/'] then ['/', '.'] else []

def render (u : Url) : List Char :=
  u.scheme ++ ':' :: authorityText u ++ u.path ++ u.query.elim [] (fun q => '?' :: q) ++
    u.fragment.elim [] fun f => '#' :: f

def text (u : Url) : String := String.ofList u.render

end Url
end AlarmKeypad
