import AlarmKeypad.Config.Profile

namespace AlarmKeypad.Profile

variable {p : Profile} {r : Connection}

/-- What is asked of a profile. -/
structure IsUsable (p : Profile) : Prop where
  host : Text.trimString p.host ≠ ""
  port : p.transport = .tcp → p.port ≠ none
  heartbeat : p.heartbeatSeconds ≠ some 0

/-- What a profile describes, with a heartbeat every 15 s and a second before a reconnection where
it says nothing else. -/
def connection (p : Profile) : Connection where
  endpoint := ⟨p.transport, Text.trimString p.host, p.port⟩
  settings :=
    { partition := p.partition
      code := p.code
      pingMask := pingMask
      heartbeat := (p.heartbeatSeconds.map fun s => s.toNat * 1000).getD 15000
      reconnectDelay := (p.reconnectMillis.map UInt64.toNat).getD 1000 }

theorem resolve_eq_ok_iff : p.resolve = .ok r ↔ p.IsUsable ∧ r = p.connection := by
  unfold resolve
  dsimp only
  split
  case isTrue hhost =>
    refine iff_of_false nofun fun h => h.1.host ?_
    exact String.isEmpty_iff.mp hhost
  case isFalse hhost =>
    split
    case isTrue hport =>
      exact iff_of_false nofun fun h => h.1.port hport.1 (Option.isNone_iff_eq_none.mp hport.2)
    case isFalse hport =>
      split
      case isTrue hheartbeat => exact iff_of_false nofun fun h => h.1.heartbeat hheartbeat
      case isFalse hheartbeat =>
        have husable : p.IsUsable :=
          ⟨fun h => hhost (String.isEmpty_iff.mpr h),
            fun ht hp => hport ⟨ht, Option.isNone_iff_eq_none.mpr hp⟩, hheartbeat⟩
        rw [and_iff_right husable, Except.ok.injEq, eq_comm]
        rfl

theorem heartbeat_connection_ne_zero (h : p.IsUsable) : p.connection.settings.heartbeat ≠ 0 := by
  change (p.heartbeatSeconds.map fun s => s.toNat * 1000).getD 15000 ≠ 0
  cases hsecs : p.heartbeatSeconds with
  | none => decide
  | some secs =>
    intro hzero
    have hnat : secs.toNat * 1000 = 0 := hzero
    have htoNat : secs.toNat = 0 := (Nat.mul_eq_zero.mp hnat).resolve_right (by decide)
    have heq : secs = 0 := UInt64.toNat_inj.mp htoNat
    exact h.heartbeat (heq ▸ hsecs)

end AlarmKeypad.Profile
