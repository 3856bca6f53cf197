import TurningPoint.Lib.Run
import TurningPoint.Sfp.FrameSpec
import TurningPoint.Sfp.Preserve

universe u

namespace TurningPoint

structure Delivery where
  connectState : SFPconnectstate
  header : UInt8
  crc : UInt16
  packet : List UInt8

abbrev Logged (ω : Type u) := Sfp (ω × List Delivery)

variable {ω : Type u}

def Sfp.log (w : Logged ω) : List Delivery := w.user.2

def Sfp.inner (w : Logged ω) : Sfp ω := { w with user := w.user.1 }

def Sfp.logged (s : Sfp ω) (log : List Delivery) : Logged ω := { s with user := (s.user, log) }

def Callbacks.recording (cb : Callbacks ω) : Callbacks (ω × List Delivery) where
  write octets w := (cb.write octets w.inner).logged w.log
  deliver := cb.deliver.map fun deliver buf len w =>
    (deliver buf len w.inner).logged
      (w.log ++ [⟨w.connectState, w.rx.header, w.rx.crc, buf.take len⟩])

/-- The receiver and the state of the connection are not for the callbacks to change. -/
structure Callbacks.Calm (cb : Callbacks ω) : Prop where
  write : ∀ octets s, (cb.write octets s).rx = s.rx ∧
    (cb.write octets s).connectState = s.connectState
  deliver : ∃ deliver, cb.deliver = some deliver ∧ ∀ buf len s,
    (deliver buf len s).rx = s.rx ∧ (deliver buf len s).connectState = s.connectState

inductive SfpCall
  | octet (octet : UInt8)
  | connect
  | write (octets : List UInt8)

def SFPreceiver.hearsSyn0 (rx : SFPreceiver) (octet : UInt8) : Bool :=
  match rx.events octet with
  | [.frame header _] => getFrameType header = .syn ∧ getFrameSeq header = sfpSeqSyn0
  | _ => false

def SFPcontext.restarts (c : SFPcontext) : SfpCall → Bool
  | .octet octet => c.rx.hearsSyn0 octet
  | .connect => true
  | .write _ => false

def sfpCall (cb : Callbacks ω) (s : Sfp ω) : SfpCall → Sfp ω
  | .octet octet => sfpDeliverOctet cb octet s
  | .connect => sfpConnect cb s
  | .write octets => (sfpWritePacket cb octets s).2

/-- A call; the record begins anew with a connection. -/
def sfpRecord (cb : Callbacks ω) (w : Logged ω) (call : SfpCall) : Logged ω :=
  sfpCall cb.recording (if w.restarts call then w.inner.logged [] else w) call

structure Delivery.Fits (d : Delivery) (seq : UInt8) : Prop where
  connected : d.connectState = .connected
  crc_good : d.crc = sfpCrcGood
  type_eq : getFrameType d.header = .usr ∨ getFrameType d.header = .rtx
  seq_eq : getFrameSeq d.header = seq

variable {cb : Callbacks ω} {w w' : Logged ω}

structure Still (w w' : Logged ω) : Prop where
  rx_eq : w'.rx = w.rx
  connectState_eq : w'.connectState = w.connectState
  log_eq : w'.log = w.log

theorem Still.refl (w : Logged ω) : Still w w := ⟨rfl, rfl, rfl⟩

theorem transmits_still (hcb : cb.Calm) (w : Logged ω) : Transmits cb.recording (Still w) where
  write octets w' h := by
    obtain ⟨hrx, hstate⟩ := hcb.write octets w'.inner
    exact ⟨hrx.trans h.rx_eq, hstate.trans h.connectState_eq, h.log_eq⟩
  tx tx w' h := ⟨h.rx_eq, h.connectState_eq, h.log_eq⟩

structure Keeps (w w' : Logged ω) : Prop where
  seq_eq : w'.rx.seq = w.rx.seq
  disconnected : w.connectState = .disconnected → w'.connectState = .disconnected
  log_eq : w'.log = w.log

theorem Still.keeps (h : Still w w') : Keeps w w' :=
  ⟨congrArg SFPreceiver.seq h.rx_eq, h.connectState_eq.trans, h.log_eq⟩

structure TakesNext (w w' : Logged ω) : Prop where
  seq_eq : w'.rx.seq = nextSeq w.rx.seq
  connectState_eq : w'.connectState = w.connectState
  delivery : ∃ d : Delivery, d.Fits w.rx.seq ∧ w'.log = w.log ++ [d]

theorem sfpHandleUSR_outcome (hcb : cb.Calm) (hcrc : w.rx.crc = sfpCrcGood)
    (htype : getFrameType w.rx.header = .usr ∨ getFrameType w.rx.header = .rtx) :
    Still w (sfpHandleUSR cb.recording w) ∨ TakesNext w (sfpHandleUSR cb.recording w) := by
  have hstill := transmits_still hcb w
  unfold sfpHandleUSR
  split
  · exact .inl (hstill.sfpTransmitControl_keeps _ (.refl w))
  · exact .inl (hstill.sfpTransmitControl_keeps _ (.refl w))
  · exact .inl (hstill.sfpTransmitControl_keeps _ (.refl w))
  case h_4 hconnected =>
    split
    · left
      split
      · exact hstill.sfpTransmitControl_keeps _ (.refl w)
      · exact .refl w
    case isFalse hseq =>
      right
      obtain ⟨deliver, hdeliver, hcalm⟩ := hcb.deliver
      simp only [Callbacks.recording, hdeliver, Option.map_some]
      obtain ⟨hrx, hstate⟩ := hcalm w.rx.packet.buf w.rx.packet.len w.inner
      exact ⟨congrArg (fun rx => nextSeq (SFPreceiver.seq rx)) hrx, hstate,
        ⟨w.connectState, w.rx.header, w.rx.crc, w.rx.packet.buf.take w.rx.packet.len⟩,
        ⟨hconnected, hcrc, htype, not_not.mp hseq⟩, rfl⟩

theorem sfpHandleNAK_still (hcb : cb.Calm) : Still w (sfpHandleNAK cb.recording w) := by
  have hstill := transmits_still hcb w
  unfold sfpHandleNAK
  split
  · exact hstill.sfpTransmitControl_keeps _ (.refl w)
  · exact hstill.sfpTransmitControl_keeps _ (.refl w)
  · exact hstill.sfpTransmitControl_keeps _ (.refl w)
  · dsimp only
    split
    · exact hstill.sfpTransmitHistoryFromSeq_keeps _ (.refl w)
    · exact .refl w

theorem sfpHandleSYN0_restarts (hcb : cb.Calm) :
    (sfpHandleSYN0 cb.recording w).rx.seq = sfpInitialSeq ∧
      (sfpHandleSYN0 cb.recording w).log = w.log := by
  have hsent := (transmits_still hcb _).sfpTransmitControl_keeps (frameHeader sfpSeqSyn1 .syn)
    (.refl (sfpClearHistory { sfpResetReceiver w with
      rx.seq := sfpInitialSeq, tx.seq := sfpInitialSeq }))
  exact ⟨congrArg SFPreceiver.seq hsent.rx_eq, hsent.log_eq⟩

theorem sfpHandleSYN1_keeps (hcb : cb.Calm) : Keeps w (sfpHandleSYN1 cb.recording w) := by
  have hstill := transmits_still hcb w
  unfold sfpHandleSYN1
  split
  · exact (hstill.sfpTransmitControl_keeps _ (.refl w)).keeps
  case isFalse hstate =>
    have hsent := hstill.resend_keeps (hstill.sfpTransmitControl_keeps
      (frameHeader sfpSeqSyn2 .syn) (.refl w))
    exact ⟨congrArg SFPreceiver.seq hsent.rx_eq, fun h => absurd h hstate, hsent.log_eq⟩

theorem sfpHandleSYN2_keeps (hcb : cb.Calm) : Keeps w (sfpHandleSYN2 cb.recording w) := by
  have hstill := transmits_still hcb w
  unfold sfpHandleSYN2
  split
  · exact (hstill.sfpTransmitControl_keeps _ (.refl w)).keeps
  case isFalse hstate =>
    split
    · exact (hstill.sfpTransmitControl_keeps _ (.refl w)).keeps
    · have hsent := hstill.resend_keeps (.refl w)
      exact ⟨congrArg SFPreceiver.seq hsent.rx_eq, fun h => absurd h hstate, hsent.log_eq⟩

/-- What one octet can do to connection and record; `syn0` says that it ends a SYN0. -/
inductive Outcome (syn0 : Bool) (w w' : Logged ω) : Prop
  | kept (hsyn0 : syn0 = false) (hkeeps : Keeps w w')
  | delivered (hsyn0 : syn0 = false) (htakes : TakesNext w w')
  | restarted (hsyn0 : syn0 = true) (hseq : w'.rx.seq = sfpInitialSeq) (hlog : w'.log = w.log)

variable {syn0 : Bool}

theorem Outcome.reset (h : Outcome syn0 w w') : Outcome syn0 w (sfpResetReceiver w') := by
  cases h with
  | kept hsyn0 hkeeps => exact .kept hsyn0 ⟨hkeeps.seq_eq, hkeeps.disconnected, hkeeps.log_eq⟩
  | delivered hsyn0 htakes =>
    exact .delivered hsyn0 ⟨htakes.seq_eq, htakes.connectState_eq, htakes.delivery⟩
  | restarted hsyn0 hseq hlog => exact .restarted hsyn0 hseq hlog

theorem Outcome.of_len {len : Nat} (h : Outcome syn0 { w with rx.packet.len := len } w') :
    Outcome syn0 w w' := by
  cases h with
  | kept hsyn0 hkeeps => exact .kept hsyn0 ⟨hkeeps.seq_eq, hkeeps.disconnected, hkeeps.log_eq⟩
  | delivered hsyn0 htakes =>
    exact .delivered hsyn0 ⟨htakes.seq_eq, htakes.connectState_eq, htakes.delivery⟩
  | restarted hsyn0 hseq hlog => exact .restarted hsyn0 hseq hlog

theorem sfpHandleSYN_outcome (hcb : cb.Calm) :
    Outcome (decide (getFrameSeq w.rx.header = sfpSeqSyn0)) w (sfpHandleSYN cb.recording w) := by
  unfold sfpHandleSYN
  dsimp only
  split
  case isTrue h =>
    obtain ⟨hseq, hlog⟩ := sfpHandleSYN0_restarts (w := w) hcb
    exact .restarted (decide_eq_true h) hseq hlog
  case isFalse h =>
    have hplain := decide_eq_false h
    split
    · exact .kept hplain (sfpHandleSYN1_keeps hcb)
    split
    · exact .kept hplain (sfpHandleSYN2_keeps hcb)
    split
    · exact .kept hplain ⟨rfl, fun _ => rfl, rfl⟩
    · exact .kept hplain (Still.refl w).keeps

theorem sfpDispatchFrame_outcome (hcb : cb.Calm) (hcrc : w.rx.crc = sfpCrcGood) :
    Outcome (decide (getFrameType w.rx.header = .syn ∧ getFrameSeq w.rx.header = sfpSeqSyn0)) w
      (sfpDispatchFrame cb.recording w) := by
  have husr (htype : getFrameType w.rx.header = .usr ∨ getFrameType w.rx.header = .rtx) :
      Outcome false w (sfpHandleUSR cb.recording w) :=
    (sfpHandleUSR_outcome hcb hcrc htype).elim (fun h => .kept rfl h.keeps) (.delivered rfl)
  unfold sfpDispatchFrame
  cases htype : getFrameType w.rx.header with
  | usr => exact husr (.inl htype)
  | rtx => exact husr (.inr htype)
  | nak => exact .kept rfl (sfpHandleNAK_still hcb).keeps
  | syn =>
    simp only [true_and]
    exact sfpHandleSYN_outcome hcb

theorem SFPreceiver.crc_of_frame {rx : SFPreceiver} {header : UInt8} {payload : List UInt8}
    (h : rx.verdict = .frame header payload) : rx.crc = sfpCrcGood := by
  unfold verdict at h
  split at h
  · cases h
  case isFalse hgood => exact (not_not.mp (not_or.mp hgood).2).symm

theorem sfpDeliverOctet_outcome (hcb : cb.Calm) (octet : UInt8) (w : Logged ω) :
    Outcome (w.rx.hearsSyn0 octet) w (sfpDeliverOctet cb.recording octet w) := by
  by_cases hflag : octet = sfpFlag
  · subst hflag
    unfold SFPreceiver.hearsSyn0
    match hevents : w.rx.events sfpFlag with
    | [] =>
      rw [sfpDeliverOctet_idle _ hevents]
      exact .kept rfl ⟨rfl, id, rfl⟩
    | [.nak seq] =>
      obtain ⟨hverdict, hdeliver⟩ := sfpDeliverOctet_event cb.recording hevents
      obtain ⟨len, hnak⟩ := sfpHandleFrame_nak cb.recording hverdict
      have hsent : Still { w with rx.packet.len := len }
          (sfpTransmitNAK cb.recording seq { w with rx.packet.len := len }) :=
        (transmits_still hcb _).sfpTransmitControl_keeps _ (.refl _)
      have hout : Outcome false { w with rx.packet.len := len } _ := .kept rfl hsent.keeps
      rw [hdeliver, hnak]
      exact hout.of_len.reset
    | [.frame header payload] =>
      obtain ⟨hverdict, hdeliver⟩ := sfpDeliverOctet_event cb.recording hevents
      obtain ⟨hframe, hheader, -⟩ := sfpHandleFrame_frame cb.recording hverdict
      have hcrc := SFPreceiver.crc_of_frame hverdict
      have hout := sfpDispatchFrame_outcome
        (w := { w with rx.packet.len := w.rx.packet.len - sfpCrcSize }) hcb hcrc
      rw [hdeliver, hframe, ← hheader]
      exact hout.of_len.reset
    | _ :: _ :: _ =>
      unfold SFPreceiver.events at hevents
      split at hevents <;> simp at hevents
  · have hevents : w.rx.events octet = [] := if_neg fun h => hflag h.1
    rw [sfpDeliverOctet_of_ne _ _ hflag, SFPreceiver.hearsSyn0, hevents]
    exact .kept rfl ⟨SFPreceiver.step_seq _ _, id, rfl⟩

/-- What has been recorded is in sequence, and the receiver waits for what comes next. -/
structure InSequence (w : Logged ω) : Prop where
  fits : ∀ n (d : Delivery), w.log[n]? = some d → d.Fits (UInt8.ofNat (n % 64))
  seq_eq : w.rx.seq = UInt8.ofNat (w.log.length % 64)

theorem nextSeq_ofNat (n : Nat) : nextSeq (UInt8.ofNat (n % 64)) = UInt8.ofNat ((n + 1) % 64) := by
  have hnext : ∀ k : Fin 64, nextSeq (UInt8.ofNat k) = UInt8.ofNat ((k + 1) % 64) := by decide
  have hmod : (n % 64 + 1) % 64 = (n + 1) % 64 := by omega
  rw [← hmod]
  exact hnext ⟨n % 64, Nat.mod_lt _ (by decide)⟩

theorem InSequence.nil (hseq : w.rx.seq = sfpInitialSeq) (hlog : w.log = []) : InSequence w where
  fits n d hd := by simp [hlog] at hd
  seq_eq := by rw [hseq, hlog]; rfl

theorem InSequence.keeps (hw : InSequence w) (h : Keeps w w') : InSequence w' where
  fits := h.log_eq ▸ hw.fits
  seq_eq := by rw [h.seq_eq, hw.seq_eq, h.log_eq]

theorem InSequence.takes (hw : InSequence w) (h : TakesNext w w') : InSequence w' := by
  obtain ⟨d, hfits, hlog⟩ := h.delivery
  refine ⟨fun n d' hd' => ?_, ?_⟩
  · rw [hlog, List.getElem?_append] at hd'
    split at hd'
    · exact hw.fits n d' hd'
    case isFalse hlt =>
      rw [List.getElem?_singleton] at hd'
      split at hd'
      case isTrue hn =>
        obtain rfl := Option.some.inj hd'
        obtain rfl : n = w.log.length := by omega
        exact hw.seq_eq ▸ hfits
      · cases hd'
  · rw [h.seq_eq, hw.seq_eq, hlog, List.length_append, nextSeq_ofNat]
    rfl

theorem sfpConnect_seq (hcb : cb.Calm) (w : Logged ω) :
    (sfpConnect cb.recording w).rx.seq = sfpInitialSeq ∧
      (sfpConnect cb.recording w).log = w.log := by
  have hsent := (transmits_still hcb _).sfpTransmitControl_keeps (frameHeader sfpSeqSyn0 .syn)
    (.refl (sfpClearHistory { sfpResetReceiver w with
      rx.seq := sfpInitialSeq, tx.seq := sfpInitialSeq }))
  exact ⟨congrArg SFPreceiver.seq hsent.rx_eq, hsent.log_eq⟩

theorem sfpWritePacket_still (hcb : cb.Calm) (octets : List UInt8) (w : Logged ω) :
    Still w (sfpWritePacket cb.recording octets w).2 :=
  (transmits_still hcb w).sfpWritePacket_keeps octets (.refl w)

theorem sfpRecord_inSequence (hcb : cb.Calm) (call : SfpCall) (hw : InSequence w) :
    InSequence (sfpRecord cb w call) := by
  unfold sfpRecord
  cases call with
  | octet octet =>
    change InSequence (sfpDeliverOctet cb.recording octet
      (if w.rx.hearsSyn0 octet then w.inner.logged [] else w))
    cases hsyn0 : w.rx.hearsSyn0 octet with
    | true =>
      have hout := sfpDeliverOctet_outcome hcb octet (w.inner.logged [])
      cases hout with
      | kept hplain | delivered hplain => exact absurd (hsyn0.symm.trans hplain) (by decide)
      | restarted _ hseq hlog => exact .nil hseq hlog
    | false =>
      have hout := sfpDeliverOctet_outcome hcb octet w
      cases hout with
      | kept _ hkeeps => exact hw.keeps hkeeps
      | delivered _ htakes => exact hw.takes htakes
      | restarted hrestarts => exact absurd (hsyn0.symm.trans hrestarts) (by decide)
  | connect =>
    obtain ⟨hseq, hlog⟩ := sfpConnect_seq hcb (w.inner.logged [])
    exact .nil hseq hlog
  | write octets => exact hw.keeps (sfpWritePacket_still hcb octets w).keeps

theorem sfpRecord_disconnected (hcb : cb.Calm) {call : SfpCall} (hcall : w.restarts call = false)
    (hw : w.connectState = .disconnected) : (sfpRecord cb w call).connectState = .disconnected := by
  unfold sfpRecord
  rw [hcall]
  cases call with
  | octet octet =>
    have hout := sfpDeliverOctet_outcome hcb octet w
    cases hout with
    | kept _ hkeeps => exact hkeeps.disconnected hw
    | delivered _ htakes => exact htakes.connectState_eq.trans hw
    | restarted hrestarts => exact absurd (hcall.symm.trans hrestarts) (by decide)
  | connect => cases hcall
  | write octets => exact (sfpWritePacket_still hcb octets w).connectState_eq.trans hw

theorem sfpDeliverOctet_other {header : UInt8} {payload : List UInt8} (cb : Callbacks ω)
    {s : Sfp ω} (hconnected : s.connectState = .connected)
    (hframe : s.rx.events sfpFlag = [.frame header payload])
    (htype : getFrameType header = .usr ∨ getFrameType header = .rtx)
    (hseq : getFrameSeq header ≠ s.rx.seq) :
    sfpDeliverOctet cb sfpFlag s = sfpResetReceiver
      (if getFrameType header = .usr then
        sfpTransmitNAK cb s.rx.seq { s with rx.packet.len := s.rx.packet.len - sfpCrcSize }
      else s) := by
  obtain ⟨hverdict, hdeliver⟩ := sfpDeliverOctet_event cb hframe
  obtain ⟨hdispatch, rfl, -⟩ := sfpHandleFrame_frame cb hverdict
  rw [hdeliver, hdispatch]
  unfold sfpDispatchFrame sfpHandleUSR
  rcases htype with htype | htype
  · simp only [htype, hconnected, hseq, ne_eq, not_false_iff, if_true]
  · simp only [htype, hconnected, hseq, ne_eq, not_false_iff, if_true, reduceCtorEq, if_false]
    rw [← hconnected]
    rfl

structure Accepting (cb : Callbacks ω) (w : Logged ω) : Prop extends InSequence w where
  disconnected : w.connectState = .disconnected → ∀ calls : List SfpCall,
    Lib.Along (fun w call => w.restarts call = false) (sfpRecord cb) w calls →
      (calls.foldl (sfpRecord cb) w).connectState ≠ .connected
  other_usr : ∀ header payload, w.connectState = .connected →
    w.rx.events sfpFlag = [.frame header payload] → getFrameType header = .usr →
    getFrameSeq header ≠ w.rx.seq →
      sfpDeliverOctet cb.recording sfpFlag w = sfpResetReceiver (sfpTransmitNAK cb.recording
        w.rx.seq { w with rx.packet.len := w.rx.packet.len - sfpCrcSize }) ∧
      (sfpDeliverOctet cb.recording sfpFlag w).log = w.log
  other_rtx : ∀ header payload, w.connectState = .connected →
    w.rx.events sfpFlag = [.frame header payload] → getFrameType header = .rtx →
    getFrameSeq header ≠ w.rx.seq →
      sfpDeliverOctet cb.recording sfpFlag w = sfpResetReceiver w

/-- Whatever octets reach it, the receiver takes the packets in sequence, once each, and only while
connected. -/
theorem receiver_accepts (cb : Callbacks ω) (hcb : cb.Calm) (s : Sfp ω) (calls : List SfpCall) :
    Accepting cb (calls.foldl (sfpRecord cb) ((sfpInit s).logged [])) where
  toInSequence :=
    List.foldlRecOn calls _ (.nil rfl rfl) fun _ hw call _ => sfpRecord_inSequence hcb call hw
  disconnected hdisconnected calls' halong hconnected := by
    have hstep (w : Logged ω) (call : SfpCall) (h : w.connectState = .disconnected)
        (hcall : w.restarts call = false) : (sfpRecord cb w call).connectState = .disconnected :=
      sfpRecord_disconnected hcb hcall h
    have hstays := halong.invariant hstep hdisconnected
    exact absurd (hstays.symm.trans hconnected) (by decide)
  other_usr header payload hconnected hframe htype hseq := by
    have hother := sfpDeliverOctet_other cb.recording hconnected hframe (.inl htype) hseq
    rw [if_pos htype] at hother
    refine ⟨hother, ?_⟩
    rw [hother]
    exact ((transmits_still hcb _).sfpTransmitControl_keeps _ (.refl _)).log_eq
  other_rtx header payload hconnected hframe htype hseq := by
    have hother := sfpDeliverOctet_other cb.recording hconnected hframe (.inr htype) hseq
    rwa [if_neg (by rw [htype]; decide)] at hother

def mute : Callbacks Unit where
  write _ s := s
  deliver := some fun _ _ s => s

theorem mute_calm : mute.Calm := ⟨fun _ _ => ⟨rfl, rfl⟩, _, rfl, fun _ _ _ => ⟨rfl, rfl⟩⟩

def handshakeCalls : List SfpCall :=
  (wireFrame (frameHeader sfpSeqSyn0 .syn) [] ++ wireFrame (frameHeader sfpSeqSyn2 .syn) [] ++
    wireFrame (frameHeader 0 .usr) [1, 2]).map .octet

theorem receiver_accepts_handshake :
    Accepting mute
      (handshakeCalls.foldl (sfpRecord mute) ((sfpInit { SFPcontext.zero with user := () }).logged [])) :=
  receiver_accepts mute mute_calm _ handshakeCalls

example :
    (handshakeCalls.foldl (sfpRecord mute)
      ((sfpInit { SFPcontext.zero with user := () }).logged [])).log.map Delivery.packet =
        [[1, 2]] := by
  decide +kernel

end TurningPoint
