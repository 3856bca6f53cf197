import TurningPoint.Lib.Run
import TurningPoint.Server.Chunks

namespace TurningPoint

variable {s : Server}

def Rpc.Blank (rpc : Rpc) : Prop :=
  (∀ i, (rpc.subs i).active = false) ∧ rpc.cassette = 0xff ∧ rpc.fp = .null

instance : DecidablePred Rpc.Blank := fun rpc =>
  inferInstanceAs (Decidable
    ((∀ i, (rpc.subs i).active = false) ∧ rpc.cassette = 0xff ∧ rpc.fp = .null))

/-- The server with the session whose first message is awaited: the state in which the server was
when that session was made. -/
structure Watched where
  server : Server
  awaited : Option ServerState

def NewSession (s s' : Server) : Prop :=
  s'.outer.sfp.connectState = .connected ∧
    (s.outer.sfp.connectState ≠ .connected ∨ s'.outer.resets ≠ s.outer.resets)

instance (s s' : Server) : Decidable (NewSession s s') :=
  inferInstanceAs (Decidable (_ ∧ (_ ∨ _)))

def freshnessStep (w : Watched) (action : ServerAction) : Watched :=
  let s := serverStep w.server action
  { server := s
    awaited :=
      if NewSession w.server s then some s.outer.state
      else if s.outer.handled.length = w.server.outer.handled.length then w.awaited
      else none }

def FirstMessage (w : Watched) (action : ServerAction) : Prop :=
  w.awaited ≠ none ∧
    (serverStep w.server action).outer.handled.length ≠ w.server.outer.handled.length

instance (w : Watched) (action : ServerAction) : Decidable (FirstMessage w action) :=
  inferInstanceAs (Decidable (_ ∧ _))

/-- The message found a blank record, and what it set up is still there unless the session is lost. -/
structure Handled.Fresh (handled : Handled) : Prop where
  blank : handled.found.Blank
  kept : handled.state = .connected → handled.kept.subs = handled.left.subs ∧
    handled.kept.cassette = handled.left.cassette ∧ handled.kept.fp = handled.left.fp

def StartsFresh (w : Watched) (action : ServerAction) : Prop :=
  FirstMessage w action → ∃ handled, (serverStep w.server action).outer.handled =
    w.server.outer.handled ++ [handled] ∧ handled.Fresh

/-- The session was made while the server had noticed that there was none, and it has noticed since
that there is one. -/
def SessionNoticed (w : Watched) (action : ServerAction) : Prop :=
  FirstMessage w action → w.awaited = some .disconnected ∧ w.server.outer.state = .connected

instance (w : Watched) (action : ServerAction) : Decidable (SessionNoticed w action) :=
  inferInstanceAs (Decidable (_ → _))

theorem Rpc.Blank.setSub (hblank : s.rpc.Blank) {i : Fin rpcSubMax} {sub : RpcSubscription}
    (hsub : sub.active = true → (s.rpc.subs i).active = true) : (setSub i sub s).rpc.Blank := by
  obtain ⟨hinactive, hclosed⟩ := hblank
  refine ⟨fun j => ?_, hclosed⟩
  change (Function.update s.rpc.subs i sub j).active = false
  by_cases hij : j = i
  · rw [hij, Function.update_self]
    rw [hinactive i] at hsub
    exact Bool.eq_false_iff.mpr fun hactive => Bool.false_ne_true (hsub hactive)
  · rw [Function.update_of_ne hij]
    exact hinactive j

def BlankIfConnected (s : Server) : Prop := s.outer.state = .connected → s.rpc.Blank

theorem serverCheckConnection_blank (hs : BlankIfConnected s) :
    BlankIfConnected (serverCheckConnection s) := by
  unfold serverCheckConnection
  dsimp only [chTimeElapsedSince]
  split
  · split
    · exact fun _ => ⟨fun _ => rfl, rfl, rfl⟩
    · exact hs
  · repeat' split
    all_goals first | exact hs | exact fun hstate => by cases hstate

def Untouched (handled : List Handled) (s : Server) : Prop :=
  handled.length < s.outer.handled.length ∨ s.outer.handled = handled ∧ BlankIfConnected s

theorem serves_untouched (handled : List Handled) : Serves (Untouched handled) := by
  have hw : Writes (Untouched handled) := {
    check := fun s hs => by
      rw [Untouched, serverCheckConnection_handled]
      exact hs.imp_right fun ⟨heq, hblank⟩ => ⟨heq, serverCheckConnection_blank hblank⟩
    port := fun _ _ _ _ hs => hs
    clock := fun _ hs => hs
    outBuf := fun _ _ hs => hs
    tx := fun _ _ hs => hs }
  have hpublishes : Publishes serverWritePacket (Untouched handled) := {
    toSends := hw.sends
    motor := fun _ _ hs => hs
    timers := fun _ _ _ hs => hs
    sub := fun i sub s hsub hs => hs.imp_right fun ⟨heq, hblank⟩ =>
      ⟨heq, fun hstate => (hblank hstate).setSub fun hactive => (hsub hactive).1⟩ }
  exact {
    toWrites := hw
    rx := fun _ _ hs => hs
    connectState := fun _ _ hs => hs
    read := fun buf len s _ hs => by
      unfold serverRead
      dsimp only
      split
      · refine .inl ?_
        rw [serverCheckConnection_handled, (beyond_handled _).rpcRecv_keeps _ rfl,
          List.length_append, List.length_singleton]
        exact Nat.lt_succ_of_le (hs.elim Nat.le_of_lt fun h => h.1 ▸ le_rfl)
      · exact hw.check s hs
    loop := fun _ hs => hpublishes.rpcLoop_keeps hs
    timers := fun _ _ hs => hs
    reset := fun _ hs => hs.imp_right fun ⟨heq, _⟩ => ⟨heq, fun hstate => by cases hstate⟩
    motors := fun _ _ hs => hs }

/-- While the first message is awaited of a session that was made from the start, the record is
blank as soon as the server takes itself for connected. -/
def Watched.Ready (w : Watched) : Prop := w.awaited = some .disconnected → BlankIfConnected w.server

theorem freshnessStep_ready (w : Watched) (action : ServerAction) (hw : w.Ready) :
    (freshnessStep w action).Ready := by
  unfold freshnessStep Watched.Ready
  dsimp only
  split
  · intro hstate hconnected
    rw [hconnected] at hstate
    cases hstate
  split
  case isTrue hlen =>
    intro hawaited
    have huntouched : Untouched w.server.outer.handled w.server := .inr ⟨rfl, hw hawaited⟩
    obtain hlt | ⟨-, hblank⟩ :=
      (serves_untouched w.server.outer.handled).serverStep_keeps action huntouched
    · exact absurd hlen hlt.ne'
    · exact hblank
  case isFalse => exact fun hawaited => by cases hawaited

theorem serverCheckConnection_settled (hsettled : Settled s) :
    Settled (serverCheckConnection s) ∧ ((serverCheckConnection s).outer.state = .connected →
      (serverCheckConnection s).rpc = s.rpc) := by
  unfold serverCheckConnection
  split
  case h_1 hstate =>
    split
    case isTrue hconnected =>
      rw [hsettled.mpr ((sfpIsConnected_iff _).mp hconnected)] at hstate
      cases hstate
    case isFalse => exact ⟨hsettled, fun _ => rfl⟩
  case h_2 hstate =>
    dsimp only [chTimeElapsedSince]
    repeat' split
    all_goals first
      | exact ⟨serverReset_settled _, fun hstate => by cases hstate⟩
      | exact ⟨hsettled, fun _ => rfl⟩

theorem beyond_settled : Beyond serverWritePacket Settled := by
  have hw : Writes Settled := {
    check := fun _ hs => (serverCheckConnection_settled hs).1
    port := fun _ _ _ _ hs => hs
    clock := fun _ hs => hs
    outBuf := fun _ _ hs => hs
    tx := fun _ _ hs => hs }
  exact ⟨hw.sends.write, fun _ _ _ hs => hs⟩

def AddsFresh (handled : List Handled) (s : Server) : Prop :=
  s.outer.handled = handled ∨ ∃ e : Handled, s.outer.handled = handled ++ [e] ∧ e.Fresh

theorem frames_addsFresh (handled : List Handled) : Frames (AddsFresh handled) where
  check s hs := by
    rw [AddsFresh, serverCheckConnection_handled]
    exact hs
  port _ _ _ _ hs := hs
  clock _ hs := hs
  outBuf _ _ hs := hs
  tx _ _ hs := hs
  rx _ _ hs := hs
  connectState _ _ hs := hs

theorem serverRead_addsFresh (hsettled : Settled s) (hblank : s.rpc.Blank) (buf : List UInt8)
    (len : Nat) : AddsFresh s.outer.handled (serverRead buf len s) := by
  unfold serverRead
  dsimp only
  split
  · generalize (messageDeserialize (.ping ⟨0⟩) buf len).2 = message
    have hleft := beyond_settled.rpcRecv_keeps message hsettled
    have hkept := (serverCheckConnection_settled hleft).2
    have hhandled := serverCheckConnection_handled (rpcRecv serverWritePacket message s)
    rw [(beyond_handled s.outer.handled).rpcRecv_keeps message rfl] at hhandled
    refine .inr ⟨_, congrArg (· ++ _) hhandled, ?_⟩
    refine ⟨hblank, fun hstate => ?_⟩
    rw [hkept hstate]
    exact ⟨rfl, rfl, rfl⟩
  · exact .inl (serverCheckConnection_handled s)

theorem serverThreadTurn_handled (s : Server) :
    (serverThreadTurn s).outer.handled = s.outer.handled := by
  unfold serverThreadTurn
  dsimp only
  split
  · exact ((beyond_handled _).rpcLoop_keeps rfl).trans (serverCheckConnection_handled s)
  · exact serverCheckConnection_handled s

theorem startsFresh_of_noticed (w : Watched) (action : ServerAction) (hw : w.Ready)
    (hnoticed : SessionNoticed w action) : StartsFresh w action := by
  intro hfirst
  obtain ⟨hawaited, hstate⟩ := hnoticed hfirst
  have hblank := hw hawaited hstate
  have hnew := hfirst.2
  cases action with
  | start | wake | stop | motors => exact absurd rfl hnew
  | turn => exact absurd (congrArg List.length (serverThreadTurn_handled w.server)) hnew
  | octet octet =>
    have hread (rx : SFPreceiver) (hconnected : w.server.outer.sfp.connectState = .connected) :
        AddsFresh w.server.outer.handled (serverRead rx.packet.buf rx.packet.len
          { w.server with outer.sfp.rx := rx }) :=
      serverRead_addsFresh (s := { w.server with outer.sfp.rx := rx })
        (iff_of_true hstate hconnected) hblank _ _
    have hadds : AddsFresh w.server.outer.handled (serverDeliverOctet octet w.server) :=
      (frames_addsFresh _).serverDeliverOctet_keeps octet hread (.inl rfl)
    exact hadds.resolve_left fun heq => hnew (congrArg List.length heq)

theorem startsFresh_run {w : Watched} (hw : w.Ready) {actions : List ServerAction}
    (hnoticed : Lib.Along SessionNoticed freshnessStep w actions) :
    Lib.Along StartsFresh freshnessStep w actions := by
  induction actions generalizing w with
  | nil => trivial
  | cons action actions ih =>
    exact ⟨startsFresh_of_noticed w action hw hnoticed.1,
      ih (freshnessStep_ready w action hw) hnoticed.2⟩

/-- In every run from boot in which each session is noticed before its first message, each starts
with a fresh record. -/
theorem sessions_start_fresh (board : Board) (actions : List ServerAction)
    (hnoticed : Lib.Along SessionNoticed freshnessStep ⟨serverInit board, none⟩ actions) :
    Lib.Along StartsFresh freshnessStep ⟨serverInit board, none⟩ actions :=
  startsFresh_run (fun hawaited => by cases hawaited) hnoticed

theorem sessions_start_fresh_subscribing :
    Lib.Along StartsFresh freshnessStep ⟨serverInit .still, none⟩
      (.start :: subscribing.flatMap iterationActions) :=
  sessions_start_fresh .still _ (by decide +kernel)

/-- Read at once, the frames of a client that connects and subscribes find the record as it was at
boot, and what they set up is gone when `serverRead` returns. -/
theorem subscribing_at_once_not_fresh :
    ¬ Lib.Along StartsFresh freshnessStep ⟨serverInit .still, none⟩
      (.start :: iterationActions subscribing.flatten) := by
  intro halong
  let octets := subscribing.flatten.dropLast
  let actions : List ServerAction := .start :: .wake :: octets.map .octet
  let w := actions.foldl freshnessStep ⟨serverInit .still, none⟩
  have hclose : subscribing.flatten = octets ++ [sfpFlag] := by decide +kernel
  have hsplit : .start :: iterationActions subscribing.flatten =
      actions ++ [.octet sfpFlag, .turn] := by
    rw [iterationActions, hclose, List.map_append, List.cons_append, List.append_assoc]
    rfl
  rw [hsplit, Lib.Along.append] at halong
  obtain ⟨handled, hhandled, hfresh⟩ := halong.2.1 (by decide +kernel)
  have hfound : (w.server.outer.handled ++ [handled]).getLast?.map (fun e => e.found.cassette) =
      some 0 := by
    rw [← hhandled]
    decide +kernel
  have hcassette : handled.found.cassette = 0 := by simpa using hfound
  rw [hfresh.blank.2.1] at hcassette
  exact absurd hcassette (by decide)

end TurningPoint
