import AlarmKeypad.Proofs.Framing.Encoding
import AlarmKeypad.Proofs.Session.Queue
import AlarmKeypad.Proofs.Session.Wire

namespace AlarmKeypad.Session

open LineDecoder Text.Utf8

def Event.handed? (c : Nat) : Event → Option String
  | .handed d _ line => if d = c then some line else none
  | _ => none

def linesOn (c : Nat) (h : List Stamped) : List String := collect (Event.handed? c) h

def bytesOn (c : Nat) (h : List Stamped) : List UInt8 := (linesOn c h).flatMap encodeLine

/-- The line that goes over a connection after `past` is this one text to the peer, whatever has
gone before it and follows it. -/
def IsOneLine (c : Nat) (h past : List Stamped) (text : String) : Prop :=
  ∀ rest, readLines (bytesOn c h ++ rest) = readLines (bytesOn c past) ++
    encodeString text ::
      readLines (((linesOn c h).drop ((linesOn c past).length + 1)).flatMap encodeLine ++ rest)

variable {k : KeypadSettings} {h past : List Stamped} {q : Track}

/-- What has gone over a connection is what had gone before, a line and what followed it. -/
theorem linesOn_eq {t c : Nat} {source : Source} {line : String}
    (he : ⟨t, .handed c source line⟩ :: past <:+ h) : linesOn c h =
      linesOn c past ++ line :: (linesOn c h).drop ((linesOn c past).length + 1) := by
  have hone : linesOn c (⟨t, .handed c source line⟩ :: past) = linesOn c past ++ [line] := by
    simp [linesOn, Event.handed?]
  obtain ⟨after, hafter⟩ : linesOn c past ++ [line] <+: linesOn c h :=
    hone ▸ collect_isPrefix he
  rw [← hafter, List.append_assoc, List.drop_append, List.drop_of_length_le (Nat.le_succ _),
    Nat.add_sub_cancel_left]
  rfl

theorem readLines_bytesOn (c : Nat) (h : List Stamped) :
    readLines (bytesOn c h) = (linesOn c h).flatMap fun s => readLines (encodeLine s) := by
  have hnil : readLines [] = [] := congrArg (List.map _) (segments_of_not_mem List.not_mem_nil)
  have hread := readLines_encodeLines (linesOn c h) []
  rwa [List.append_nil, hnil, List.append_nil] at hread

/-- A line that goes over is one text to the peer exactly if its own bytes are. -/
theorem isOneLine_iff {t c : Nat} {source : Source} {line text : String}
    (he : ⟨t, .handed c source line⟩ :: past <:+ h) :
    IsOneLine c h past text ↔ readLines (encodeLine line) = [encodeString text] := by
  have hread (rest : List UInt8) : readLines (bytesOn c h ++ rest) = readLines (bytesOn c past) ++
      (readLines (encodeLine line) ++ readLines
        (((linesOn c h).drop ((linesOn c past).length + 1)).flatMap encodeLine ++ rest)) := by
    conv_lhs => rw [bytesOn, linesOn_eq he]
    rw [readLines_encodeLines, List.flatMap_append, List.flatMap_cons, readLines_bytesOn,
      readLines_encodeLines, List.append_assoc, List.append_assoc]
  constructor
  · intro hone
    have hrest := hone []
    rw [hread, List.append_cancel_left_eq, ← List.singleton_append,
      List.append_cancel_right_eq] at hrest
    exact hrest
  · intro hone rest
    rw [hread, hone]
    rfl

/-- The line of a call is handed over once. -/
theorem Tracks.handover_unique (ht : Tracks k h q) {calls : List (Nat × Call)} {n id : Nat}
    (a : Accounts k calls n h) {e e' : Stamped} {past' : List Stamped} {o o' : Handover}
    (he : e :: past <:+ h) (he' : e' :: past' <:+ h) (ho : e.event.handover? = some o)
    (ho' : e'.event.handover? = some o') (hs : o.source = .call id) (hs' : o'.source = .call id) :
    e = e' ∧ past = past' := by
  have hnodup : ((collect Event.sent? h).map Ticket.call).Nodup :=
    a.once.sublist (ht.sent_sublist.map Ticket.call)
  rw [← collect_map] at hnodup
  refine suffix_unique (a := id) hnodup he he' ?_ ?_
  · rw [Handover.sent ho hs]
    rfl
  · rw [Handover.sent ho' hs']
    rfl

/-- What is put before a command ends no line. -/
theorem endsNoLine_send (command : String) :
    ('\n' ∉ ("!SEND:" ++ command).toList ↔ '\n' ∉ command.toList) ∧
      (("!SEND:" ++ command).toList.getLast? = some '\r' ↔
        command.toList.getLast? = some '\r') := by
  rw [String.toList_append]
  constructor
  · rw [List.mem_append, not_or, and_iff_right (by decide)]
  · cases hcommand : command.toList with
    | nil => decide
    | cons c cs => rw [List.getLast?_append_of_ne_nil _ (List.cons_ne_nil c cs)]

/-- A command that is handed over goes over as it was given, once; to whoever reads the stream of
the connection it is one line, whatever has gone before it and follows it, exactly if no line feed
is in it and no carriage return at its end. -/
theorem command_oneLine_iff (k : KeypadSettings) (ts : List Turn) {t c id : Nat}
    {command line : String}
    (hcalled : Has ((State.init k).run ts).history (.called id (.command command)))
    (hhanded : ⟨t, .handed c (.call id) line⟩ :: past <:+ ((State.init k).run ts).history) :
    let h := ((State.init k).run ts).history
    line = "!SEND:" ++ command ∧
      (∀ e older o, e :: older <:+ h → e.event.handover? = some o → o.source = .call id →
        e = ⟨t, .handed c (.call id) line⟩ ∧ older = past) ∧
      (IsOneLine c h past ("!SEND:" ++ command) ↔
        '\n' ∉ command.toList ∧ command.toList.getLast? ≠ some '\r') := by
  intro h
  obtain ⟨q, ht⟩ := State.run_tracks k ts
  have a := State.run_accounts k ts
  obtain ⟨x, hx, hevent⟩ := List.mem_map.mp hcalled
  obtain ⟨later, older, hsplit⟩ := List.append_of_mem hx
  have hcall : ⟨x.time, .called id (.command command)⟩ :: older <:+ h := by
    rw [← hevent]
    exact ⟨later, hsplit.symm⟩
  obtain ⟨t', r, p, hcall', hline, -⟩ :=
    (ht.checked_of_handover a hhanded (o := ⟨c, .call id, line⟩) rfl rfl)
  have hpast : past <:+ h := (List.suffix_cons _ past).trans hhanded
  obtain ⟨rfl, -⟩ := a.called_unique (hcall'.trans hpast) hcall
  have hrender : line = "!SEND:" ++ command := by
    unfold Request.line? at hline
    dsimp only at hline
    split at hline
    · exact nomatch hline
    · exact (Option.some.inj hline).symm.trans (render_send command)
  refine ⟨hrender, fun e older o he ho hs => ?_, ?_⟩
  · exact ht.handover_unique a he hhanded ho rfl hs rfl
  · obtain ⟨hfeed, hreturn⟩ := endsNoLine_send command
    rw [isOneLine_iff hhanded, hrender, readLines_eq_singleton_iff, hfeed, Ne, hreturn]

/-- A command is sent on the first connection, and another one after it. -/
def sending (command next : String) : List Turn :=
  Turn.begins ++
    [.move (.call (.command command)), .move (.resume 1), .move .act, .move .handed,
      .move (.call (.command next)), .move (.resume 2), .move .act, .move .handed]

set_option maxRecDepth 10000 in
/-- A command that ends no line is one line, with another one behind it that ends two. -/
theorem oneLine_disarm :
    let h := ((State.init .default).run (sending "<DISARM>" "<AWAY>\n!SYNC:9,9")).history
    Has h (.called 1 (.command "<DISARM>")) ∧
      ⟨0, .handed 1 (.call 1) "!SEND:<DISARM>"⟩ :: h.drop 5 <:+ h ∧
      IsOneLine 1 h (h.drop 5) "!SEND:<DISARM>" := by
  intro h
  have hcalled : Has h (.called 1 (.command "<DISARM>")) := by decide +kernel
  have hhanded : ⟨0, .handed 1 (.call 1) "!SEND:<DISARM>"⟩ :: h.drop 5 <:+ h := by decide +kernel
  obtain ⟨-, -, hiff⟩ := command_oneLine_iff .default _ hcalled hhanded
  exact ⟨hcalled, hhanded, hiff.mpr (by decide)⟩

/-- Every command that is handed over is one line to the peer. -/
def OneLineEach (h : List Stamped) : Prop :=
  ∀ t c id command line past, Has h (.called id (.command command)) → command ≠ "" →
    ⟨t, .handed c (.call id) line⟩ :: past <:+ h → IsOneLine c h past ("!SEND:" ++ command)

set_option maxRecDepth 10000 in
/-- A command with a line feed in it is two lines, the second of them a request to synchronize. -/
theorem not_oneLineEach :
    ¬OneLineEach ((State.init .default).run (sending "<DISARM>\n!SYNC:9,9" "<AWAY>")).history := by
  intro hone
  let h := ((State.init .default).run (sending "<DISARM>\n!SYNC:9,9" "<AWAY>")).history
  have hhanded : ⟨0, .handed 1 (.call 1) "!SEND:<DISARM>\n!SYNC:9,9"⟩ :: h.drop 5 <:+ h := by
    decide +kernel
  have hline := hone 0 1 1 "<DISARM>\n!SYNC:9,9" _ _ (by decide +kernel) (by decide) hhanded
  have hread : readLines (encodeLine "!SEND:<DISARM>\n!SYNC:9,9") =
      [encodeString "!SEND:<DISARM>", encodeString "!SYNC:9,9"] := by decide +kernel
  have htwo := hread.symm.trans ((isOneLine_iff hhanded).mp hline)
  exact absurd (congrArg List.length htwo) (by decide)

end AlarmKeypad.Session
