import TurningPoint.Lib.Run
import TurningPoint.Rpc.Subscriptions
import TurningPoint.Server.Steady

namespace TurningPoint

variable {c : UInt32} {s : Server}

/-- Nothing is delivered to a connection that was lost and not checked since, and no frame is handled
in one that was made and not checked since. -/
def InStep (s : Server) : ServerAction → Prop
  | .octet octet =>
    (s.outer.state = .connected → s.outer.sfp.connectState = .connected) ∧
      (octet = sfpFlag → s.outer.sfp.rx.frameState = .receiving → Settled s)
  | _ => True

instance InStep.decidable (s : Server) : (action : ServerAction) → Decidable (InStep s action)
  | .octet octet => inferInstanceAs (Decidable (
      (s.outer.state = .connected → s.outer.sfp.connectState = .connected) ∧
        (octet = sfpFlag → s.outer.sfp.rx.frameState = .receiving → Settled s)))
  | .start | .wake | .turn | .stop | .motors _ => .isTrue trivial

def SFPreceiver.quiet (rx : SFPreceiver) (octet : UInt8) : SFPreceiver :=
  if octet = sfpFlag then rx.reset else rx.step octet

theorem serverDeliverOctet_quiet {octet : UInt8}
    (hquiet : octet = sfpFlag → s.outer.sfp.rx.frameState ≠ .receiving) :
    serverDeliverOctet octet s = { s with outer.sfp.rx := s.outer.sfp.rx.quiet octet } := by
  unfold serverDeliverOctet SFPreceiver.quiet
  split
  case isTrue hflag =>
    subst hflag
    have hnot : ¬ (toSfp s).rx.frameState = .receiving := hquiet rfl
    rw [sfpDeliverOctet_flag, if_neg hnot]
    rfl
  case isFalse hne =>
    rw [sfpDeliverOctet_of_ne _ _ hne]
    rfl

def checkedOctet (s : Server) (octet : UInt8) : Server :=
  serverCheckConnection (serverDeliverOctet octet s)

theorem Steady.check_octet (hs : Steady c s) {octet : UInt8} (hin : InStep s (.octet octet)) :
    checkedOctet s octet = checkedOctet (serverCheckConnection s) octet := by
  obtain ⟨hlost, hnew⟩ := hin
  obtain ⟨-, heq⟩ | ⟨hstate, hconnected, heq⟩ | ⟨hstate, hconnected, -⟩ := hs.check_cases
  · rw [heq]
  · have hquiet : octet = sfpFlag → s.outer.sfp.rx.frameState ≠ .receiving := by
      intro hflag hreceiving
      have hboth := (hnew hflag hreceiving).mpr hconnected
      rw [hstate] at hboth
      cases hboth
    have hsession : Steady c (startSession c s) := heq ▸ hs.check
    let rx := s.outer.sfp.rx.quiet octet
    have hlate := ((frames_steady c).rx rx s hs).check_new hstate hconnected
    have hearly := ((frames_steady c).rx rx _ hsession).check_settled (iff_of_true rfl hconnected)
    rw [heq, checkedOctet, checkedOctet, serverDeliverOctet_quiet hquiet,
      serverDeliverOctet_quiet (s := startSession c s) hquiet]
    exact hlate.trans hearly.symm
  · exact absurd (hlost hstate) hconnected

theorem Steady.check_octets (hs : Steady c s) {octets : List UInt8}
    (hin : Lib.Along InStep serverStep s (octets.map .octet)) :
    serverCheckConnection (octets.foldl (fun s octet => serverDeliverOctet octet s) s) =
      octets.foldl checkedOctet (serverCheckConnection s) := by
  induction octets generalizing s with
  | nil => rfl
  | cons octet octets ih =>
    rw [List.foldl_cons, List.foldl_cons, ih (hs.deliverOctet octet) hin.2,
      ← hs.check_octet hin.1]
    rfl

theorem Steady.octets (hs : Steady c s) (octets : List UInt8) :
    Steady c (octets.foldl (fun s octet => serverDeliverOctet octet s) s) :=
  List.foldlRecOn octets _ hs fun _ hs octet _ => hs.deliverOctet octet

theorem Steady.iteration_eq (hs : Steady c s) {chunk : List UInt8}
    (hin : Lib.Along InStep serverStep s (iterationActions chunk)) :
    serverIteration s chunk = chunk.foldl checkedOctet (serverCheckConnection s) := by
  have hoctets : Lib.Along InStep serverStep s (chunk.map .octet) := by
    have hwoken := (Lib.Along.append.mp hin.2).1
    rwa [serverStep, chTimeNow_steady hs.clock] at hwoken
  rw [serverIteration, chTimeNow_steady hs.clock]
  exact (hs.octets chunk).serverThreadTurn_eq.trans (hs.check_octets hoctets)

theorem Steady.checkedOctets (hs : Steady c s) (octets : List UInt8) :
    Steady c (octets.foldl checkedOctet s) :=
  List.foldlRecOn octets _ hs fun _ hs octet _ => (hs.deliverOctet octet).check

theorem Steady.settled_checkedOctets (hs : Steady c s) (hsettled : Settled s)
    (octets : List UInt8) : Settled (octets.foldl checkedOctet s) := by
  induction octets generalizing s with
  | nil => exact hsettled
  | cons octet octets ih =>
    have hoctet := hs.deliverOctet octet
    exact ih hoctet.check hoctet.settled_check

/-- In step, the reads come to what the octets do one at a time. -/
theorem Steady.iterations_eq (hs : Steady c s) (hsettled : Settled s)
    {chunks : List (List UInt8)}
    (hin : Lib.Along InStep serverStep s (chunks.flatMap iterationActions)) :
    chunks.foldl serverIteration s = chunks.flatten.foldl checkedOctet s := by
  induction chunks generalizing s with
  | nil => rfl
  | cons chunk chunks ih =>
    obtain ⟨hfirst, hrest⟩ := Lib.Along.append.mp hin
    rw [← serverIteration_eq] at hrest
    have hchunk := hs.iteration_eq hfirst
    rw [hs.check_settled hsettled] at hchunk
    rw [List.foldl_cons, List.flatten_cons, List.foldl_append, ← hchunk]
    refine ih ?_ ?_ hrest
    · rw [hchunk]
      exact hs.checkedOctets chunk
    · rw [hchunk]
      exact hs.settled_checkedOctets hsettled chunk

def Lasting (slot : RpcSubscription) (i : Fin rpcSubMax) (resets : Nat) (s : Server) : Prop :=
  resets < s.outer.resets ∨
    s.outer.resets = resets ∧ s.outer.state = .connected ∧ s.rpc.subs i = slot

variable {slot : RpcSubscription} {i : Fin rpcSubMax} {resets : Nat}

theorem serverCheckConnection_resets (s : Server) :
    s.outer.resets ≤ (serverCheckConnection s).outer.resets := by
  unfold serverCheckConnection
  dsimp only [chTimeElapsedSince]
  repeat' split
  all_goals first | exact le_rfl | exact Nat.le_succ _

theorem Lasting.check (hs : Lasting slot i resets s) :
    Lasting slot i resets (serverCheckConnection s) := by
  obtain hreset | ⟨rfl, hstate, hslot⟩ := hs
  · exact .inl (hreset.trans_le (serverCheckConnection_resets s))
  · have hreset (s : Server) : s.outer.resets < (serverReset s).outer.resets := Nat.lt_succ_self _
    unfold serverCheckConnection
    rw [hstate]
    dsimp only [chTimeElapsedSince]
    split
    · exact .inl (hreset s)
    split
    · exact .inl (hreset s)
    split
    · exact .inl (hreset s)
    · exact .inr ⟨rfl, hstate, hslot⟩

theorem frames_lasting (slot : RpcSubscription) (i : Fin rpcSubMax) (resets : Nat) :
    Frames (Lasting slot i resets) where
  check _ hs := hs.check
  port _ _ _ _ hs := hs
  clock _ hs := hs
  outBuf _ _ hs := hs
  tx _ _ hs := hs
  rx _ _ hs := hs
  connectState _ _ hs := hs

theorem beyond_resets (resets : Nat) :
    Beyond serverWritePacket (fun s => resets < s.outer.resets) := by
  have hw : Writes (fun s => resets < s.outer.resets) := {
    check := fun s hs => lt_of_lt_of_le hs (serverCheckConnection_resets s)
    port := fun _ _ _ _ hs => hs
    clock := fun _ hs => hs
    outBuf := fun _ _ hs => hs
    tx := fun _ _ hs => hs }
  exact ⟨hw.sends.write, fun _ _ _ hs => hs⟩

theorem rpcSubFind_reqId {rpc : Rpc} {reqId : UInt16} {n : Nat} {j : Fin rpcSubMax}
    (hfind : rpcSubFind rpc reqId true = (n, some j)) : (rpc.subs j).reqId = reqId := by
  have hloop (slots : List (Fin rpcSubMax))
      (hfind : rpcSubFindLoop rpc reqId true slots = (n, some j)) :
      (rpc.subs j).reqId = reqId := by
    induction slots with
    | nil => cases hfind
    | cons k slots ih =>
      rw [rpcSubFindLoop] at hfind
      split at hfind
      case isTrue hk =>
        cases hfind
        exact hk.2
      case isFalse => exact ih hfind
  exact hloop _ hfind

theorem Lasting.setSub_ne {j : Fin rpcSubMax} {sub : RpcSubscription} (hne : i ≠ j)
    (hs : Lasting slot i resets s) : Lasting slot i resets (setSub j sub s) := by
  refine hs.imp_right fun ⟨hresets, hstate, hslot⟩ => ⟨hresets, hstate, ?_⟩
  rw [← hslot]
  exact Function.update_of_ne hne _ _

theorem Lasting.rpcRecv (hactive : slot.active = true) {message : MessageAny}
    (hm : message ≠ .unsubscribe ⟨slot.reqId⟩) (hs : Lasting slot i resets s) :
    Lasting slot i resets (rpcRecv serverWritePacket message s) := by
  obtain hreset | ⟨hresets, hstate, hslot⟩ := id hs
  · exact .inl ((beyond_resets resets).rpcRecv_keeps message hreset)
  have hsends := (frames_lasting slot i resets).sends
  have hreplies : Replies serverWritePacket (Lasting slot i resets) :=
    ⟨hsends, fun _ _ hs => hs, fun _ _ hs => hs, fun _ _ hs => hs, fun _ hs => hs⟩
  have hrecords : Records serverWritePacket (Lasting slot i resets) :=
    ⟨hsends, fun _ _ _ hs => hs, .of_any fun _ _ _ hs => hs⟩
  refine hreplies.rpcRecv_keeps hs ?_ ?_ ?_ ?_ ?_
  · exact fun read _ _ => hreplies.rpcRecvReadMotor_keeps (fun _ _ hs => hs) read hs
  · exact fun read _ _ => hrecords.rpcRecvReadCassette_keeps hrecords.flash read hs
  · exact fun write _ _ => hrecords.rpcRecvWriteCassette_keeps write hs
  · intro m _
    by_cases hfull : s.rpc.Full
    · rw [rpcRecvSubscribe_full serverWritePacket m hfull]
      exact hsends.rpcSendPubError_keeps _ _ hs
    · obtain ⟨j, hinactive, heq⟩ := rpcRecvSubscribe_free serverWritePacket m hfull
      rw [heq]
      refine hs.setSub_ne fun hij => ?_
      rw [← hij, hslot, hactive] at hinactive
      cases hinactive
  · rintro m rfl
    unfold rpcRecvUnsubscribe
    dsimp only
    split
    · exact hsends.rpcSendData_keeps _ _ _ _ _ (hsends.rpcSendPubError_keeps _ _ hs)
    case h_2 j hfind =>
      refine (hsends.rpcSendData_keeps _ _ _ _ _ hs).setSub_ne fun hij => hm ?_
      rw [← hslot, hij, rpcSubFind_reqId hfind]

def Handled.Grants (handled : Handled) (m : MessageSubscribe) : Prop :=
  handled.message = .subscribe m ∧ ¬ handled.found.Full

/-- Of the messages handled since the first `n`, every subscription that was granted and not taken
back lasts. -/
def Remembers (n : Nat) (s : Server) : Prop :=
  ∀ earlier e later m, n ≤ earlier.length → s.outer.handled = earlier ++ e :: later → e.Grants m →
    (∀ e' ∈ later, e'.message ≠ .unsubscribe ⟨m.reqId⟩) → ∃ i, Lasting m.slot i e.resets s

variable {n : Nat}

theorem frames_remembers (n : Nat) : Frames (Remembers n) where
  check s hs earlier e later m hn hhandled hm hlater := by
    rw [serverCheckConnection_handled] at hhandled
    obtain ⟨i, hi⟩ := hs earlier e later m hn hhandled hm hlater
    exact ⟨i, hi.check⟩
  port _ _ _ _ hs := hs
  clock _ hs := hs
  outBuf _ _ hs := hs
  tx _ _ hs := hs
  rx _ _ hs := hs
  connectState _ _ hs := hs

theorem Steady.rpcRecv_grants (hs : Steady c s) (hsettled : Settled s)
    (hstate : s.outer.state = .connected) {m : MessageSubscribe} (hfull : ¬ s.rpc.Full) :
    let left := rpcRecv serverWritePacket (.subscribe m) s
    serverCheckConnection left = left ∧ ∃ i, Lasting m.slot i left.outer.resets left := by
  obtain ⟨i, -, heq⟩ := rpcRecvSubscribe_free serverWritePacket m hfull
  have hleft : rpcRecv serverWritePacket (.subscribe m) s =
      { setSub i m.slot s with rpc.heartbeat := c } := by
    unfold rpcRecv
    dsimp only
    rw [heq, chTimeNow_steady (c := c) (s := setSub i m.slot s) hs.clock]
  intro left
  have hsteady : Steady c left := by
    rw [show left = _ from hleft]
    exact ⟨hs.clock, hs.timestamp, fun hstate => ⟨rfl, (hs.timers hstate).2⟩⟩
  refine ⟨hsteady.check_settled ?_, i, .inr ⟨rfl, ?_, ?_⟩⟩
  all_goals rw [show left = _ from hleft]
  · exact hsettled
  · exact hstate
  · exact Function.update_self _ _ _

theorem Steady.read_remembers (hs : Steady c s) (hsettled : Settled s)
    (hconnected : s.outer.sfp.connectState = .connected) (hr : Remembers n s) (buf : List UInt8)
    (len : Nat) : Remembers n (serverRead buf len s) := by
  unfold serverRead
  dsimp only
  split
  case isFalse => exact (frames_remembers n).check s hr
  case isTrue =>
    generalize (messageDeserialize (.ping ⟨0⟩) buf len).2 = message
    have hhandled := serverCheckConnection_handled (rpcRecv serverWritePacket message s)
    rw [(beyond_handled s.outer.handled).rpcRecv_keeps message rfl] at hhandled
    intro earlier e later m hn hsplit hm hlater
    rw [hhandled] at hsplit
    rcases later.eq_nil_or_concat' with rfl | ⟨later, e', rfl⟩
    · obtain ⟨rfl, he⟩ := List.append_inj' hsplit rfl
      obtain rfl := List.singleton_inj.mp he
      obtain ⟨rfl, hfull⟩ := hm
      obtain ⟨hcheck, hlasting⟩ :=
        hs.rpcRecv_grants hsettled (hsettled.mpr hconnected) (m := m) hfull
      simp only [hcheck]
      exact hlasting
    · have hends : earlier ++ e :: (later ++ [e']) = (earlier ++ e :: later) ++ [e'] := by simp
      obtain ⟨hearlier, he⟩ := List.append_inj' (hsplit.trans hends) rfl
      obtain rfl := List.singleton_inj.mp he
      obtain ⟨i, hi⟩ := hr earlier e later m hn hearlier hm fun e' he' =>
        hlater e' (List.mem_append_left _ he')
      have hmessage := hlater _ (List.mem_append_right _ List.mem_cons_self)
      exact ⟨i, (hi.rpcRecv rfl hmessage).check⟩

theorem Steady.checkedOctet_remembers (hs : Steady c s) (hsettled : Settled s)
    (hr : Remembers n s) (octet : UInt8) : Remembers n (checkedOctet s octet) := by
  refine (frames_remembers n).check _
    ((frames_remembers n).serverDeliverOctet_keeps octet (fun rx hconnected => ?_) hr)
  exact ((frames_steady c).rx rx s hs).read_remembers hsettled hconnected hr _ _

theorem Steady.checkedOctets_remembers (hs : Steady c s) (hsettled : Settled s)
    (hr : Remembers n s) (octets : List UInt8) : Remembers n (octets.foldl checkedOctet s) := by
  induction octets generalizing s with
  | nil => exact hr
  | cons octet octets ih =>
    have hoctet := hs.deliverOctet octet
    exact ih hoctet.check hoctet.settled_check (hs.checkedOctet_remembers hsettled hr octet)

theorem remembers_reset (s : Server) : Remembers s.outer.handled.length (serverReset s) := by
  intro earlier e later m hn hhandled
  have hlen := congrArg List.length hhandled
  rw [List.length_append, List.length_cons] at hlen
  have : s.outer.handled.length = (serverReset s).outer.handled.length := rfl
  omega

/-- Two ways to cut the octets into reads, both in step, end in the same state, with every
subscription that was granted, and neither taken back nor reset, in the table. -/
theorem chunks_agree (c : UInt32) (s : Server) (hclock : s.board.clock = fun _ => c)
    (chunks chunks' : List (List UInt8)) (hflatten : chunks.flatten = chunks'.flatten)
    (hin : Lib.Along InStep serverStep (serverReset s) (chunks.flatMap iterationActions))
    (hin' : Lib.Along InStep serverStep (serverReset s) (chunks'.flatMap iterationActions)) :
    chunks.foldl serverIteration (serverReset s) = chunks'.foldl serverIteration (serverReset s) ∧
      Remembers s.outer.handled.length (chunks.foldl serverIteration (serverReset s)) := by
  have hs := serverReset_steady hclock
  have hsettled := serverReset_settled s
  rw [hs.iterations_eq hsettled hin, hs.iterations_eq hsettled hin', hflatten]
  exact ⟨rfl, hs.checkedOctets_remembers hsettled (remembers_reset s) _⟩

def subscribing : List (List UInt8) :=
  [clientSyn0, clientSyn2, clientMessage 0 (.subscribe clockSubscribe)]

theorem chunks_agree_subscribing :
    let chunks := [clientSyn0.take 2, clientSyn0.drop 2, clientSyn2,
      clientMessage 0 (.subscribe clockSubscribe)]
    subscribing.foldl serverIteration (serverInit .still) =
        chunks.foldl serverIteration (serverInit .still) ∧
      Remembers 0 (subscribing.foldl serverIteration (serverInit .still)) :=
  chunks_agree 0 (.zero .still) rfl subscribing _ (by decide) (by decide +kernel) (by decide +kernel)

/-- Read at once, the frames leave the server without the subscription. -/
theorem chunks_disagree :
    let subs (chunks : List (List UInt8)) :=
      (chunks.foldl serverIteration (serverInit .still)).rpc.subs
    subs subscribing 0 = clockSubscribe.slot ∧ subs [subscribing.flatten] 0 = .empty := by
  decide +kernel

end TurningPoint
