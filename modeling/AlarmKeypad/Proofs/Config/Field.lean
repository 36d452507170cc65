import AlarmKeypad.Proofs.Config.Value

namespace AlarmKeypad.Profile

open Toml (Value)

inductive Field where
  | host | transport | port | partition | code | heartbeat | reconnect
deriving DecidableEq

def Field.key : Field → String
  | host => "host"
  | transport => "transport"
  | port => "port"
  | partition => "partition"
  | code => "code"
  | heartbeat => "heartbeat_secs"
  | reconnect => "reconnect_ms"

/-- The second profile is the first with a value of its own in one field. -/
def SameBut (p : Profile) (f : Field) (q : Profile) : Prop :=
  match f with
  | .host => q = { p with host := q.host }
  | .transport => q = { p with transport := q.transport }
  | .port => q = { p with port := q.port }
  | .partition => q = { p with partition := q.partition }
  | .code => q = { p with code := q.code }
  | .heartbeat => q = { p with heartbeatSeconds := q.heartbeatSeconds }
  | .reconnect => q = { p with reconnectMillis := q.reconnectMillis }

instance (f : Field) (p q : Profile) : Decidable (p.SameBut f q) := by
  cases f <;> exact inferInstanceAs (Decidable (_ = _))

variable {f g : Field} {p q : Profile} {ms ns : List (String × Value)}

theorem SameBut.refl (f : Field) (p : Profile) : p.SameBut f p := by
  cases f <;> rfl

theorem Field.key_ne (h : g ≠ f) : g.key ≠ f.key := by
  intro hkey
  cases f <;> cases g <;> first | exact h rfl | exact absurd hkey (by decide)

theorem sameBut_of_ne (hhost : Field.host ≠ f → q.host = p.host)
    (htransport : Field.transport ≠ f → q.transport = p.transport)
    (hport : Field.port ≠ f → q.port = p.port)
    (hpartition : Field.partition ≠ f → q.partition = p.partition)
    (hcode : Field.code ≠ f → q.code = p.code)
    (hheartbeat : Field.heartbeat ≠ f → q.heartbeatSeconds = p.heartbeatSeconds)
    (hreconnect : Field.reconnect ≠ f → q.reconnectMillis = p.reconnectMillis) :
    p.SameBut f q := by
  cases p
  cases q
  cases f <;> simp_all [SameBut]

/-- Tables that are alike but for one field are read as profiles that are. -/
theorem sameBut_of_lookup (hp : ofValue? (.table ms) = some p) (hq : ofValue? (.table ns) = some q)
    (h : ∀ k, k ≠ f.key → ns.lookup k = ms.lookup k) : p.SameBut f q := by
  obtain ⟨hhost, htransport, hport, hpartition, hcode, hheartbeat, hreconnect⟩ :=
    ofFields?_eq_some_iff.mp hp
  obtain ⟨khost, ktransport, kport, kpartition, kcode, kheartbeat, kreconnect⟩ :=
    ofFields?_eq_some_iff.mp hq
  have hsame {α : Type} {a b : α} (read : Option Value → Option α) (g : Field)
      (ha : read (ms.lookup g.key) = some a) (hb : read (ns.lookup g.key) = some b)
      (hg : g ≠ f) : b = a := by
    rw [h _ (Field.key_ne hg), ha] at hb
    exact (Option.some.inj hb).symm
  exact sameBut_of_ne (hsame (·.bind Value.string?) .host hhost khost)
    (hsame transport? .transport htransport ktransport)
    (hsame (optional? _ _) .port hport kport)
    (hsame counter? .partition hpartition kpartition)
    (hsame counter? .code hcode kcode)
    (hsame (optional? _ _) .heartbeat hheartbeat kheartbeat)
    (hsame (optional? _ _) .reconnect hreconnect kreconnect)

/-- A profile of which one field alone is written has a host and nothing else. -/
theorem of_lookup_none (hq : ofValue? (.table ns) = some q)
    (h : ∀ k, k ≠ f.key → ns.lookup k = none) : f = .host ∧ q = .ofHost q.host := by
  obtain rfl : f = .host := by
    by_contra hf
    have hhost := (ofFields?_eq_some_iff.mp hq).1
    rw [h "host" (Field.key_ne (Ne.symm hf))] at hhost
    cases hhost
  -- it is read as the table of its host is, which leaves all else open
  have hread : ofValue? (.table [("host", .string q.host)]) = some (.ofHost q.host) := rfl
  exact ⟨rfl, sameBut_of_lookup hread hq fun k hk =>
    (h k hk).trans (Bindings.lookup_cons_of_ne hk _ []).symm⟩

end AlarmKeypad.Profile
