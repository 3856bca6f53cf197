import TurningPoint.Lib.Run
import TurningPoint.Server.Steady
import TurningPoint.Server.Writes
import TurningPoint.Sfp.History

namespace TurningPoint

/-- The action hands over the end of a SYN1 or SYN2 frame, and leaves the connection complete. -/
def CompletesHandshake (s : Server) : ServerAction → Prop
  | .octet octet =>
    octet = sfpFlag ∧ s.outer.sfp.rx.frameState = .receiving ∧
      getFrameType s.outer.sfp.rx.header = .syn ∧
      (getFrameSeq s.outer.sfp.rx.header = sfpSeqSyn1 ∨
        getFrameSeq s.outer.sfp.rx.header = sfpSeqSyn2) ∧
      (serverDeliverOctet octet s).outer.sfp.connectState = .connected
  | _ => False

instance (s : Server) : (action : ServerAction) → Decidable (CompletesHandshake s action)
  | .octet _ => inferInstanceAs (Decidable (_ ∧ _))
  | .start | .wake | .turn | .stop | .motors _ => inferInstanceAs (Decidable False)

def Sanctioned (s : Server) (action : ServerAction) (w : Written) : Prop :=
  (w.sfp.connectState = .connected ∨ w.frameType = some .rtx ∧ CompletesHandshake s action) ∧
    w.resets = s.outer.resets

instance (s : Server) (action : ServerAction) : DecidablePred (Sanctioned s action) :=
  fun _ => inferInstanceAs (Decidable (_ ∧ _))

def Written.Breaks (w : Written) : Prop := ¬ w.BeginsControl ∧ w.Lapses

instance : DecidablePred Written.Breaks := fun _ => inferInstanceAs (Decidable (_ ∧ _))

/-- Since `before` was written, every user frame was begun as it ought to be and `R` holds of the
context and the number of resets, unless the session broke off. -/
structure Since (before : List Written) (ok : Written → Prop) (R : SFPcontext → Nat → Prop)
    (o : Outer) : Prop where
  sound : o.sfp.tx.Sound
  new : ∃ new, o.writes = before ++ new ∧
    ((∃ w ∈ new, w.Breaks) ∨ (∀ w ∈ new, w.BeginsUser → ok w) ∧ R o.sfp o.resets)

def Held (c : SFPconnectstate) (n : Nat) (sfp : SFPcontext) (resets : Nat) : Prop :=
  sfp.connectState = c ∧ resets = n

def Cleared (n : Nat) (sfp : SFPcontext) (resets : Nat) : Prop :=
  resets = n ∨ sfp.tx.seq = sfpInitialSeq ∧ potRingbufferEmpty sfp.tx.history = true

theorem sound_reset (o : Outer) : o.reset.sfp.tx.Sound :=
  ⟨show (0 : UInt8) < 64 by decide, [], .init historyCapacity _⟩

namespace Since

variable {before : List Written} {ok : Written → Prop} {R : SFPcontext → Nat → Prop}

theorem mono {R' : SFPcontext → Nat → Prop} {o : Outer} (hs : Since before ok R o)
    (himp : ∀ sfp resets, R sfp resets → R' sfp resets) : Since before ok R' o := by
  obtain ⟨hsound, new, hwrites, hnew⟩ := hs
  exact ⟨hsound, new, hwrites, hnew.imp_right fun ⟨hok, hR⟩ => ⟨hok, himp _ _ hR⟩⟩

theorem store {o o' : Outer} {R' : SFPcontext → Nat → Prop} (hs : Since before ok R o)
    (hwrites : o'.writes = o.writes) (hsound : o'.sfp.tx.Sound)
    (hR : R o.sfp o.resets → R' o'.sfp o'.resets) : Since before ok R' o' := by
  obtain ⟨-, new, hold, hnew⟩ := hs
  exact ⟨hsound, new, hwrites.trans hold, hnew.imp_right fun ⟨hok, h⟩ => ⟨hok, hR h⟩⟩

theorem write {s : Server} {octets : List UInt8} (hs : Since before ok R s.outer)
    (hok : R s.outer.sfp s.outer.resets → (s.written octets).BeginsUser → ok (s.written octets))
    (hreset : (s.written octets).BeginsControl → ∀ o : Outer, R o.reset.sfp o.reset.resets) :
    Since before ok R (serverWrite octets s).outer := by
  obtain ⟨hsound, new, hwrites, hnew⟩ := hs
  have hmem : s.written octets ∈ new ++ [s.written octets] :=
    List.mem_append_right _ List.mem_cons_self
  have hall (hold : ∀ w ∈ new, w.BeginsUser → ok w)
      (hlast : (s.written octets).BeginsUser → ok (s.written octets)) :
      ∀ w ∈ new ++ [s.written octets], w.BeginsUser → ok w := by
    intro w hw
    obtain hw | hw := List.mem_append.mp hw
    · exact hold w hw
    · rwa [List.mem_singleton.mp hw]
  obtain ⟨hlasts, state, heq⟩ | ⟨hlapses, heq⟩ := serverWrite_outer octets s
  all_goals rw [heq]
  · refine ⟨hsound, new ++ [s.written octets], ?_, ?_⟩
    · rw [← List.append_assoc, ← hwrites]
    · obtain ⟨w, hw, hbreaks⟩ | ⟨hold, hR⟩ := hnew
      · exact .inl ⟨w, List.mem_append_left _ hw, hbreaks⟩
      · exact .inr ⟨hall hold (hok hR), hR⟩
  · refine ⟨sound_reset s.outer, new ++ [s.written octets], ?_, ?_⟩
    · rw [← List.append_assoc, ← hwrites]
    · by_cases hcontrol : (s.written octets).BeginsControl
      · obtain ⟨w, hw, hbreaks⟩ | ⟨hold, hR⟩ := hnew
        · exact .inl ⟨w, List.mem_append_left _ hw, hbreaks⟩
        · exact .inr ⟨hall hold (hok hR), hreset hcontrol s.outer⟩
      · exact .inl ⟨_, hmem, hcontrol, hlapses⟩

variable {cb : Callbacks Rest} {s : Sfp Rest}

theorem frame (hcb : ∀ octets c, cb.write octets c = toSfp (serverWrite octets (ofSfp c)))
    (header : UInt8) (packet : Option SFPpacket)
    (hok : ∀ w, w.frameType = some (getFrameType header) → R w.sfp w.resets → w.BeginsUser → ok w)
    (hbuffer : ∀ crc writebuf sfp resets, R sfp resets →
      R { sfp with tx.crc := crc, tx.writebuf := writebuf } resets)
    (hreset : getFrameType header = .nak ∨ getFrameType header = .syn → ∀ o : Outer,
      R o.reset.sfp o.reset.resets)
    (hempty : s.tx.writebuf = []) (hs : Since before ok R (ofSfp s).outer) :
    Since before ok R (ofSfp (sfpTransmitFrameWithHeader cb header packet s).2).outer := by
  have hstored (crc : UInt16) (writebuf : List UInt8) (c : Sfp Rest)
      (hc : Since before ok R (ofSfp c).outer) :
      Since before ok R (ofSfp { c with tx.crc := crc, tx.writebuf := writebuf }).outer :=
    hc.store rfl (hc.sound.buffer crc writebuf) (hbuffer crc writebuf _ _)
  have hconveys : Conveys cb header s (fun c => Since before ok R (ofSfp c).outer) := by
    refine ⟨fun rest crc => ?_, fun octets c hlater hc => ?_, hstored⟩
    · rw [hcb]
      have htype (s : Server) :
          (s.written (sfpFlag :: sfpStuffing.stuff header ++ rest)).frameType =
            some (getFrameType header) :=
        congrArg (Option.map getFrameType) (begunHeader_first header rest)
      refine (hstored crc _ s hs).write (fun hR => hok _ (htype _) hR) fun hcontrol => hreset ?_
      simpa only [Written.BeginsControl, htype, Option.some.injEq] using hcontrol
    · rw [hcb]
      have htype : ((ofSfp c).written octets).frameType = none :=
        congrArg (Option.map getFrameType) hlater
      refine Since.write (s := ofSfp c) hc (fun _ huser => ?_) fun hcontrol => ?_
      · simp [Written.BeginsUser, htype] at huser
      · simp [Written.BeginsControl, htype] at hcontrol
  exact hconveys.transmitFrame packet hempty

theorem control (hcb : ∀ octets c, cb.write octets c = toSfp (serverWrite octets (ofSfp c)))
    {header : UInt8} (hheader : getFrameType header = .nak ∨ getFrameType header = .syn)
    (hbuffer : ∀ crc writebuf sfp resets, R sfp resets →
      R { sfp with tx.crc := crc, tx.writebuf := writebuf } resets)
    (hreset : ∀ o : Outer, R o.reset.sfp o.reset.resets)
    (hempty : s.tx.writebuf = []) (hs : Since before ok R (ofSfp s).outer) :
    Since before ok R (ofSfp (sfpTransmitControl cb header s)).outer := by
  refine frame hcb header none (fun w htype _ huser => ?_) hbuffer (fun _ => hreset) hempty hs
  unfold Written.BeginsUser at huser
  rw [htype] at huser
  rcases hheader with h | h <;> rw [h] at huser <;> simp at huser

variable {c : SFPconnectstate} {n : Nat}

theorem transmit (hcb : ∀ octets c, cb.write octets c = toSfp (serverWrite octets (ofSfp c)))
    (retransmit : Bool)
    (hok : ∀ w, w.frameType = some (if retransmit then .rtx else .usr) → w.sfp.connectState = c →
      w.resets = n → ok w) (packet : SFPpacket)
    (hempty : s.tx.writebuf = []) (hs : Since before ok (Held c n) (ofSfp s).outer) :
    Since before ok (Held c n) (ofSfp (sfpTransmitFrameImpl cb packet retransmit s).2).outer := by
  have htype : getFrameType (frameHeader s.tx.seq (if retransmit then .rtx else .usr)) =
      if retransmit then .rtx else .usr := getFrameType_frameHeader hs.sound.seq_lt _
  unfold sfpTransmitFrameImpl
  generalize hstored : (if retransmit then s else { s with
    tx.history := potRingbufferPushBack sfpConfigHistoryCapacity s.tx.history packet }) = stored
  have hpushed : Since before ok (Held c n) (ofSfp stored).outer ∧ stored.tx.writebuf = [] := by
    rw [← hstored]
    split
    · exact ⟨hs, hempty⟩
    · exact ⟨hs.store rfl (hs.sound.pushBack packet) id, hempty⟩
  have hframe := frame hcb (frameHeader s.tx.seq (if retransmit then .rtx else .usr)) (some packet)
    (fun w hw hheld _ => hok w (by rwa [htype] at hw) hheld.1 hheld.2)
    (fun _ _ _ _ hheld => hheld) (fun hcontrol => ?_) hpushed.2 hpushed.1
  · exact hframe.store rfl (hframe.sound.number (and_seqMask_lt _)) id
  · rw [htype] at hcontrol
    cases retransmit <;> simp at hcontrol

theorem resend (hcb : ∀ octets c, cb.write octets c = toSfp (serverWrite octets (ofSfp c)))
    (hok : ∀ w, w.frameType = some .rtx → w.sfp.connectState = c → w.resets = n → ok w)
    (hempty : s.tx.writebuf = []) (hs : Since before ok (Held c n) (ofSfp s).outer) :
    Since before ok (Held c n) (ofSfp (sfpTransmitHistory cb s)).outer ∧
      (sfpTransmitHistory cb s).tx.writebuf = [] :=
  List.foldlRecOn (motive := fun s : Sfp Rest =>
    Since before ok (Held c n) (ofSfp s).outer ∧ s.tx.writebuf = []) _ _ ⟨hs, hempty⟩
    fun _ hs _ _ => ⟨transmit hcb true hok _ hs.2 hs.1, rfl⟩

theorem resendFrom (hcb : ∀ octets c, cb.write octets c = toSfp (serverWrite octets (ofSfp c)))
    (hok : ∀ w, w.frameType = some .rtx → w.sfp.connectState = c → w.resets = n → ok w)
    {seq : UInt8} (hseq : seq < 64) (hempty : s.tx.writebuf = [])
    (hs : Since before ok (Held c n) (ofSfp s).outer) :
    Since before ok (Held c n) (ofSfp (sfpTransmitHistoryFromSeq cb seq s)).outer ∧
      (sfpTransmitHistoryFromSeq cb seq s).tx.writebuf = [] := by
  unfold sfpTransmitHistoryFromSeq
  dsimp only
  split
  case isTrue hlt =>
    exact resend hcb hok hempty
      (hs.store rfl ((hs.sound.popHistory (Nat.le_of_lt hlt)).1.number hseq) id)
  case isFalse => exact resend hcb hok hempty (hs.store rfl (hs.sound.number hseq) id)

end Since

def Closed (before : List Written) (ok : Written → Prop) (n : Nat) (o : Outer) : Prop :=
  Since before ok (Cleared n) o ∧ o.sfp.tx.writebuf = []

def Between (before : List Written) (ok : Written → Prop) (c : SFPconnectstate) (n : Nat)
    (o : Outer) : Prop :=
  Since before ok (Held c n) o ∧ o.sfp.tx.writebuf = []

section Step

variable {before : List Written} {ok : Written → Prop} {c : SFPconnectstate} {n : Nat}
  {s : Sfp Rest}

theorem Between.closed {o : Outer} (hs : Between before ok c n o) : Closed before ok n o :=
  ⟨hs.1.mono fun _ _ h => .inl h.2, hs.2⟩

theorem Closed.store {o o' : Outer} (hs : Closed before ok n o) (hwrites : o'.writes = o.writes)
    (htx : o'.sfp.tx = o.sfp.tx) (hresets : o'.resets = o.resets) : Closed before ok n o' := by
  refine ⟨hs.1.store hwrites (htx ▸ hs.1.sound) fun h => ?_, htx ▸ hs.2⟩
  unfold Cleared
  rwa [htx, hresets]

theorem Closed.check {s : Server} (hs : Closed before ok n s.outer) :
    Closed before ok n (serverCheckConnection s).outer := by
  obtain ⟨-, state, heq⟩ | ⟨-, heq⟩ := serverCheckConnection_outer s []
  all_goals rw [heq]
  · exact hs.store rfl rfl rfl
  · exact ⟨hs.1.store rfl (sound_reset s.outer) fun _ => .inr ⟨rfl, rfl⟩, rfl⟩

theorem Closed.control {header : UInt8}
    (hheader : getFrameType header = .nak ∨ getFrameType header = .syn)
    (hs : Closed before ok n (ofSfp s).outer) :
    Closed before ok n (ofSfp (sfpTransmitControl serverCallbacks header s)).outer :=
  ⟨hs.1.control (fun _ _ => rfl) hheader (fun _ _ _ _ h => h) (fun _ => .inr ⟨rfl, rfl⟩) hs.2, rfl⟩

theorem beyond_between (hok : ∀ w, w.sfp.connectState = .connected → w.resets = n → ok w) :
    Beyond serverWritePacket fun s : Server => Between before ok .connected n s.outer := by
  refine ⟨?_, fun _ _ _ hs => hs⟩
  rintro _ packet s ⟨⟩ ⟨hs, hempty⟩
  exact ⟨Since.transmit (s := toSfp s) (fun _ _ => rfl) false (fun w _ => hok w) _ hempty hs, rfl⟩

theorem Between.read {s : Server}
    (hok : ∀ w, w.sfp.connectState = .connected → w.resets = n → ok w) (buf : List UInt8)
    (len : Nat) (hs : Between before ok .connected n s.outer) :
    Closed before ok n (serverRead buf len s).outer := by
  unfold serverRead
  dsimp only
  split
  · have hleft := (beyond_between hok).rpcRecv_keeps
      (messageDeserialize (.ping ⟨0⟩) buf len).2 hs
    have hkept := hleft.closed.check
    exact hkept.store rfl rfl rfl
  · exact hs.closed.check

theorem Between.resendFrom (hok : ∀ w, w.frameType = some .rtx → w.sfp.connectState = c →
      w.resets = n → ok w) {seq : UInt8} (hseq : seq < 64)
    (hs : Between before ok c n (ofSfp s).outer) :
    Between before ok c n (ofSfp (sfpTransmitHistoryFromSeq serverCallbacks seq s)).outer :=
  hs.1.resendFrom (fun _ _ => rfl) hok hseq hs.2

theorem Between.handling
    (hok : ∀ w, w.sfp.connectState = .connected → w.resets = n → ok w)
    (hcompletes : s.rx.Intact → getFrameType s.rx.header = .syn → sfpInitialSeq ∈ s.asked →
      ∀ w, w.frameType = some .rtx → w.resets = n → ok w)
    (hs : Between before ok s.connectState n (ofSfp s).outer) :
    Handling serverCallbacks s fun c => Closed before ok n (ofSfp c).outer := by
  have hrx (rx : SFPreceiver) :
      Between before ok s.connectState n (ofSfp { s with rx := rx }).outer :=
    ⟨hs.1.store rfl hs.1.sound id, hs.2⟩
  refine ⟨fun _ _ hc => hc.store rfl rfl rfl, fun _ _ hc => hc.store rfl rfl rfl,
    fun rx => (hrx rx).closed, fun rx header hheader => (hrx rx).closed.control hheader,
    ?_, ?_, ?_, ?_⟩
  · rintro _ rx ⟨⟩ hconnected
    exact Between.read hok rx.packet.buf rx.packet.len (hconnected ▸ hrx rx)
  · intro hintact rx seq hseq _
    refine ((hrx rx).resendFrom (fun w hw hheld hresets => ?_) (SFPcontext.asked_lt hseq)).closed
    obtain hconnected | ⟨htype, rfl⟩ := SFPcontext.asked_cases hseq
    · exact hok w (hheld.trans hconnected) hresets
    · exact hcompletes hintact htype hseq w hw hresets
  · intro _ _ _ rx
    have hcleared : Closed before ok n
        (ofSfp (sfpClearHistory { s with rx := rx, tx.seq := sfpInitialSeq })).outer :=
      ⟨(hrx rx).1.store rfl (hs.1.sound.number (show sfpInitialSeq < 64 by decide)).clearHistory
        fun h => .inl h.2, hs.2⟩
    exact hcleared.control (by decide)
  · -- The SYN2 in reply may end the session, which leaves nothing to send again.
    intro hintact htype hasked rx hne
    have hsyn2 : Closed before ok n
        (ofSfp (sfpTransmitSYN2 serverCallbacks { s with rx := rx })).outer :=
      (hrx rx).closed.control (by decide)
    have hagain : Between before ok
        (sfpTransmitSYN2 serverCallbacks { s with rx := rx }).connectState n
        (ofSfp (sfpTransmitSYN2 serverCallbacks { s with rx := rx })).outer :=
      ⟨hsyn2.1.store rfl hsyn2.1.sound fun h =>
        ⟨rfl, h.resolve_right fun h => hne h.1.symm⟩, rfl⟩
    exact (hagain.resendFrom (fun w hw _ => hcompletes hintact htype hasked w hw)
      (by decide)).closed

end Step

structure Idle (s : Server) : Prop where
  sound : s.outer.sfp.tx.Sound
  empty : s.outer.sfp.tx.writebuf = []

theorem Idle.between {s : Server} (hs : Idle s) (ok : Written → Prop) :
    Between s.outer.writes ok s.outer.sfp.connectState s.outer.resets s.outer :=
  ⟨⟨hs.sound, [], (List.append_nil _).symm,
    .inr ⟨fun _ hw => absurd hw List.not_mem_nil, rfl, rfl⟩⟩, hs.empty⟩

theorem Idle.deliverOctet {s : Server} (hs : Idle s) (octet : UInt8) :
    Closed s.outer.writes (Sanctioned s (.octet octet)) s.outer.resets
      (serverDeliverOctet octet s).outer := by
  have hbetween := hs.between (Sanctioned s (.octet octet))
  by_cases hframe : octet = sfpFlag ∧ s.outer.sfp.rx.frameState = .receiving
  case neg =>
    obtain ⟨rx, heq⟩ := serverDeliverOctet_rx hframe
    rw [heq]
    exact hbetween.closed.store rfl rfl rfl
  case pos =>
    obtain ⟨rfl, hreceiving⟩ := hframe
    have heq := serverDeliverOctet_flag hreceiving
    have hhandling : Handling serverCallbacks (toSfp s) fun c =>
        Closed s.outer.writes (Sanctioned s (.octet sfpFlag)) s.outer.resets (ofSfp c).outer := by
      refine Between.handling (s := toSfp s) (fun w hw hresets => ⟨.inl hw, hresets⟩) ?_ hbetween
      intro hintact htype hasked w hw hresets
      obtain ⟨hseq, hconnected⟩ := sfpHandleFrame_completes serverCallbacks hintact htype hasked
      refine ⟨.inr ⟨hw, rfl, hreceiving, htype, hseq, ?_⟩, hresets⟩
      rw [heq]
      exact hconnected
    have hhandled := hhandling.handleFrame
    rw [heq]
    exact hhandled.store rfl rfl rfl

theorem serverCheckConnection_connected {s : Server}
    (hstate : (serverCheckConnection s).outer.state = .connected) :
    s.outer.sfp.connectState = .connected ∧
      ∃ state, (serverCheckConnection s).outer = { s.outer with state := state } := by
  obtain ⟨-, heq⟩ | ⟨-, heq⟩ := serverCheckConnection_outer s []
  · refine ⟨?_, heq⟩
    by_contra hconnected
    cases hs : s.outer.state with
    | connected =>
      rw [serverCheckConnection_lost hs hconnected] at hstate
      cases hstate
    | disconnected =>
      have hnot : ¬ sfpIsConnected s.outer.sfp = true :=
        fun h => hconnected ((sfpIsConnected_iff _).mp h)
      unfold serverCheckConnection at hstate
      simp only [hs, if_neg hnot] at hstate
      cases hstate
  · rw [heq] at hstate
    cases hstate

theorem Idle.turn {s : Server} (hs : Idle s) :
    Closed s.outer.writes (Sanctioned s .turn) s.outer.resets (serverThreadTurn s).outer := by
  have hbetween := hs.between (Sanctioned s .turn)
  unfold serverThreadTurn
  dsimp only
  split
  case isFalse => exact hbetween.closed.check
  case isTrue hstate =>
    obtain ⟨hconnected, state, heq⟩ := serverCheckConnection_connected hstate
    rw [hconnected] at hbetween
    have hchecked : Between s.outer.writes (Sanctioned s .turn) .connected s.outer.resets
        (serverCheckConnection s).outer := by
      rw [heq]
      exact ⟨hbetween.1.store rfl hs.sound id, hs.empty⟩
    have hloop := (beyond_between fun w hw hresets => ⟨.inl hw, hresets⟩).rpcLoop_keeps hchecked
    exact hloop.closed

theorem Idle.step {s : Server} (hs : Idle s) (action : ServerAction) :
    Closed s.outer.writes (Sanctioned s action) s.outer.resets (serverStep s action).outer := by
  have hclosed := (hs.between (Sanctioned s action)).closed
  cases action with
  | start => exact hclosed
  | wake => exact hclosed
  | octet octet => exact hs.deliverOctet octet
  | turn => exact hs.turn
  | stop => exact ⟨hclosed.1.store rfl (sound_reset _) fun _ => .inr ⟨rfl, rfl⟩, rfl⟩
  | motors motors => exact hclosed

theorem Closed.idle {before : List Written} {ok : Written → Prop} {n : Nat} {s : Server}
    (hs : Closed before ok n s.outer) : Idle s :=
  ⟨hs.1.sound, hs.2⟩

/-- No call in the course of the action finds, in something else than a control frame, that the
session has lapsed. -/
def Unbroken (s : Server) (action : ServerAction) : Prop :=
  ∀ w ∈ newWrites s (serverStep s action), ¬ w.Breaks

/-- Every user frame that the action begins is begun within the session, before any reset; and a
reset leaves none of the packets of the session it ends. -/
def KeepsSession (s : Server) (action : ServerAction) : Prop :=
  (∀ w ∈ newWrites s (serverStep s action), w.BeginsUser → Sanctioned s action w) ∧
    ((serverStep s action).outer.resets ≠ s.outer.resets →
      potRingbufferEmpty (serverStep s action).outer.sfp.tx.history = true ∧
        (serverStep s action).outer.sfp.tx.writebuf = [])

instance (s : Server) (action : ServerAction) : Decidable (Unbroken s action) :=
  inferInstanceAs (Decidable (∀ w ∈ newWrites s (serverStep s action), ¬ w.Breaks))

instance (s : Server) (action : ServerAction) : Decidable (KeepsSession s action) :=
  inferInstanceAs (Decidable (_ ∧ _))

theorem Idle.keepsSession {s : Server} {action : ServerAction} (hs : Idle s)
    (hunbroken : Unbroken s action) : KeepsSession s action := by
  obtain ⟨⟨-, new, hwrites, hnew⟩, hempty⟩ := hs.step action
  have heq : newWrites s (serverStep s action) = new := by
    rw [newWrites, hwrites, List.drop_left]
  unfold Unbroken at hunbroken
  rw [heq] at hunbroken
  obtain ⟨w, hw, hbreaks⟩ | ⟨hok, hcleared⟩ := hnew
  · exact absurd hbreaks (hunbroken w hw)
  · refine ⟨?_, fun hresets => ⟨(hcleared.resolve_left hresets).2, hempty⟩⟩
    rwa [heq]

theorem idle_init (board : Board) : Idle (serverInit board) :=
  ⟨sound_reset (Server.zero board).outer, rfl⟩

/-- In every run from boot in which no session lapses while a user frame goes out, user frames go
out within a session only. -/
theorem userFrames_inSession (board : Board) (actions : List ServerAction)
    (hunbroken : Lib.Along Unbroken serverStep (serverInit board) actions) :
    Lib.Along KeepsSession serverStep (serverInit board) actions :=
  hunbroken.imp_of_invariant (fun _ _ => Idle.keepsSession)
    (fun _ action hs => (hs.step action).idle) (idle_init board)

def askSubs : List (List UInt8) :=
  [clientSyn0, clientSyn2,
    clientMessage 0 (.read ⟨1, messagesTopicPubsub, messagesTopicPubsubSubtopicAll⟩)]

theorem userFrames_inSession_askSubs :
    Lib.Along KeepsSession serverStep (serverInit .still) (askSubs.flatMap iterationActions) :=
  userFrames_inSession .still _ (by decide +kernel)

def jumpBoard : Board := { Board.still with clock := fun n => if n < 8 then 0 else 6000 }

/-- The session times out behind the first reply, and the other four are begun all the same. -/
theorem not_inSession_askSubs :
    let actions := askSubs.flatMap iterationActions
    ¬ Lib.Along KeepsSession serverStep (serverInit jumpBoard) actions ∧
      (actions.foldl serverStep (serverInit jumpBoard)).outer.writes.map
          (fun w => (w.frameType, w.sfp.connectState, w.resets)) =
        (some .syn, .disconnected, 1) :: (some .usr, .connected, 1) ::
          List.replicate 4 (some .usr, .disconnected, 2) := by
  decide +kernel

end TurningPoint
