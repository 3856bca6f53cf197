import TurningPoint.Sfp.Acceptance
import TurningPoint.Sfp.Resend

universe u

namespace TurningPoint

structure Accounted (tx : SFPtransmitter) (sent : List (UInt8 × List UInt8)) : Prop where
  writebuf_eq : tx.writebuf = []
  sent_eq : sent = numberedFrom sfpInitialSeq (sent.map Prod.snd)
  seq_eq : tx.seq = nextSeq^[sent.length] sfpInitialSeq
  holds : ∃ packets, tx.history.Holds sfpConfigHistoryCapacity packets ∧
    packets.map SFPpacket.octets <:+ sent.map Prod.snd ∧
    min sfpConfigHistoryCapacity tx.seq.toNat ≤ packets.length

theorem numberedFrom_append {α : Type u} (seq : UInt8) (items items' : List α) :
    numberedFrom seq (items ++ items') =
      numberedFrom seq items ++ numberedFrom (nextSeq^[items.length] seq) items' := by
  induction items generalizing seq with
  | nil => rfl
  | cons item items ih => exact congrArg (List.cons _) (ih (nextSeq seq))

namespace Accounted

variable {tx tx' : SFPtransmitter} {sent : List (UInt8 × List UInt8)}

theorem seq_toNat (h : Accounted tx sent) : tx.seq.toNat = sent.length % 64 := by
  rw [h.seq_eq, nextSeq_iterate_toNat (by decide)]
  exact congrArg (· % 64) (Nat.zero_add _)

theorem seq_lt (h : Accounted tx sent) : tx.seq < 64 := by
  rw [UInt8.lt_iff_toNat_lt, h.seq_toNat]
  exact Nat.mod_lt _ (by decide)

theorem start (hwritebuf : tx.writebuf = []) (hseq : tx.seq = sfpInitialSeq)
    (hholds : tx.history.Holds sfpConfigHistoryCapacity []) : Accounted tx [] where
  writebuf_eq := hwritebuf
  sent_eq := rfl
  seq_eq := hseq
  holds := ⟨[], hholds, List.suffix_rfl, by rw [hseq]; exact Nat.le_refl _⟩

theorem control (h : Accounted tx sent) (hwritebuf : tx'.writebuf = []) (hseq : tx'.seq = tx.seq)
    (hhistory : tx'.history = tx.history) : Accounted tx' sent where
  writebuf_eq := hwritebuf
  sent_eq := h.sent_eq
  seq_eq := hseq.trans h.seq_eq
  holds := by
    rw [hseq, hhistory]
    exact h.holds

theorem write (h : Accounted tx sent) (octets : List UInt8) (hwritebuf : tx'.writebuf = [])
    (hseq : tx'.seq = nextSeq tx.seq)
    (hhistory : tx'.history = potRingbufferPushBack sfpConfigHistoryCapacity tx.history
      ⟨octets, octets.length⟩) :
    Accounted tx' (sent ++ [(tx.seq, octets)]) where
  writebuf_eq := hwritebuf
  sent_eq := by
    rw [List.map_append, numberedFrom_append, ← h.sent_eq, List.length_map, ← h.seq_eq]
    rfl
  seq_eq := by
    rw [hseq, h.seq_eq, List.length_append, List.length_singleton, Function.iterate_succ_apply']
  holds := by
    obtain ⟨packets, hholds, hsuffix, hlength⟩ := h.holds
    have hcapacity : packets.length ≤ 8 := hholds.length_le
    refine ⟨_, hhistory ▸ hholds.pushBack historyCapacity _, ?_, ?_⟩
    · have hkept : (if packets.length = sfpConfigHistoryCapacity then packets.tail
          else packets).map SFPpacket.octets <:+ sent.map Prod.snd := by
        split
        · exact ((List.tail_suffix packets).map _).trans hsuffix
        · exact hsuffix
      obtain ⟨before, hbefore⟩ := hkept
      refine ⟨before, ?_⟩
      rw [List.map_append, ← List.append_assoc, hbefore, List.map_append]
      simp [SFPpacket.octets]
    · have hnext := nextSeq_toNat tx.seq
      rw [hseq, List.length_append, List.length_singleton]
      unfold sfpConfigHistoryCapacity at hlength ⊢
      split
      · rw [List.length_tail]
        omega
      · omega

theorem drop_sent (h : Accounted tx sent) {packets : List (List UInt8)}
    (hsuffix : packets <:+ sent.map Prod.snd) (hcapacity : packets.length ≤ 64) :
    numberedFrom (seqBack tx.seq packets.length) packets =
      sent.drop (sent.length - packets.length) := by
  obtain ⟨before, hbefore⟩ := hsuffix
  have hlength : before.length + packets.length = sent.length := by
    rw [← List.length_append, hbefore, List.length_map]
  have hseq := h.seq_toNat
  have hfirst : seqBack tx.seq packets.length = nextSeq^[before.length] sfpInitialSeq := by
    rw [← UInt8.toNat_inj, seqBack_toNat _ hcapacity, nextSeq_iterate_toNat (by decide)]
    change _ = (0 + before.length) % 64
    omega
  have hsent := h.sent_eq
  rw [← hbefore, numberedFrom_append] at hsent
  have hdrop : sent.length - packets.length = (numberedFrom sfpInitialSeq before).length := by
    rw [length_numberedFrom]
    omega
  rw [hfirst, hdrop, hsent, List.drop_left]

end Accounted

variable {ω : Type u} {cb : Callbacks ω} {wire : ω → List UInt8}

/-- What `sfpHandleSYN1` and `sfpHandleSYN2` do about packets written before. -/
def resendAll (cb : Callbacks ω) (s : Sfp ω) : Sfp ω :=
  if sfpInitialSeq ≠ s.tx.seq then sfpTransmitHistoryFromSeq cb sfpInitialSeq s else s

section Resend

variable {s : Sfp ω} {sent : List (UInt8 × List UInt8)}

/-- As long as the history reaches back to the number 0, the packets from it on go out under the
numbers they had. -/
theorem resendAll_early (hcb : cb.Passes wire (fun _ => True)) (h : Accounted s.tx sent)
    (hearly : s.tx.seq.toNat ≤ sfpConfigHistoryCapacity) :
    (resendAll cb s).tx.seq = s.tx.seq ∧ Accounted (resendAll cb s).tx sent ∧
      ∃ resent, resent <:+ sent ∧
        wire (resendAll cb s).user = wire s.user ++ rtxFrames resent := by
  unfold resendAll
  split
  case isFalse => exact ⟨rfl, h, [], List.nil_suffix, (List.append_nil _).symm⟩
  case isTrue hne =>
    obtain ⟨packets, hholds, hsuffix, hlength⟩ := h.holds
    have hcapacity : packets.length ≤ 8 := hholds.length_le
    have hpos : 1 ≤ s.tx.seq.toNat := by
      rw [ne_eq, ← UInt8.toNat_inj] at hne
      exact Nat.pos_of_ne_zero (Ne.symm hne)
    have hzero : seqBack s.tx.seq s.tx.seq.toNat = sfpInitialSeq := by
      have hlt : s.tx.seq.toNat < 64 := h.seq_lt
      rw [← UInt8.toNat_inj, seqBack_toNat _ hlt.le]
      exact congrArg (· % 64) (Nat.add_sub_cancel_left _ _)
    have hj : s.tx.seq.toNat ≤ packets.length := by omega
    obtain ⟨history, hpopped, hresent, hback⟩ :=
      hcb.transmitHistoryFromSeq_window s hholds h.seq_lt hpos hj trivial
    have hsent := h.drop_sent hsuffix (by rw [List.length_map]; omega)
    rw [List.length_map] at hsent
    rw [hzero, hsent] at hresent
    rw [hzero] at hback
    have hwritebuf : (sfpTransmitHistoryFromSeq cb sfpInitialSeq s).tx.writebuf = [] :=
      hresent.writebuf_eq.trans (ite_eq_right_iff.mpr fun _ => h.writebuf_eq)
    have hhistory : (sfpTransmitHistoryFromSeq cb sfpInitialSeq s).tx.history = history :=
      hresent.history_eq
    have haccounted : Accounted (sfpTransmitHistoryFromSeq cb sfpInitialSeq s).tx sent := by
      refine ⟨hwritebuf, h.sent_eq, hback.trans h.seq_eq, _, hhistory.symm ▸ hpopped, ?_, ?_⟩
      · exact ((List.drop_suffix _ _).map _).trans hsuffix
      · rw [hback, List.length_drop]
        omega
    exact ⟨hback, haccounted, _, (List.drop_suffix _ _).trans (List.drop_suffix _ _),
      emitted_wire hresent.emitted_eq h.writebuf_eq hwritebuf⟩

/-- Otherwise the history goes out under new numbers, from 0 on. -/
theorem resendAll_late (hcb : cb.Passes wire (fun _ => True)) (h : Accounted s.tx sent)
    (hlate : sfpConfigHistoryCapacity < s.tx.seq.toNat) :
    (resendAll cb s).tx.seq ≠ s.tx.seq := by
  obtain ⟨packets, hholds, hsuffix, hlength⟩ := h.holds
  have hcapacity : packets.length ≤ 8 := hholds.length_le
  have hlt : s.tx.seq.toNat < 64 := h.seq_lt
  have hne : sfpInitialSeq ≠ s.tx.seq := by
    rintro heq
    rw [← heq] at hlate
    exact absurd hlate (by decide)
  have hspec := sfpFastforward_spec sfpInitialSeq s.tx.seq packets.length
  have hzero : (sfpInitialSeq : UInt8).toNat = 0 := rfl
  unfold sfpConfigHistoryCapacity at hlength hlate
  have hout : ¬ packets.length > sfpFastforward sfpInitialSeq s.tx.seq packets.length := by
    omega
  unfold resendAll sfpTransmitHistoryFromSeq
  dsimp only
  rw [if_pos hne, hholds.size_eq historyCapacity, if_neg hout]
  have hresent := hcb.transmitHistory { s with tx.seq := sfpInitialSeq } hholds trivial
  intro heq
  rw [hresent.seq_eq, length_numberedFrom, List.length_map, ← UInt8.toNat_inj,
    nextSeq_iterate_toNat (show sfpInitialSeq < 64 by decide)] at heq
  have hpackets : packets.length % 64 = s.tx.seq.toNat :=
    (congrArg (· % 64) (Nat.zero_add _)).symm.trans heq
  omega

theorem control_accounted (hcb : cb.Passes wire (fun _ => True)) (h : Accounted s.tx sent)
    (header : UInt8) :
    Accounted (sfpTransmitControl cb header s).tx sent ∧
      (sfpTransmitControl cb header s).tx.seq = s.tx.seq ∧
      wire (sfpTransmitControl cb header s).user = wire s.user ++ wireFrame header [] := by
  obtain ⟨hframe, hwritebuf⟩ := hcb.transmitFrameWithHeader header none s trivial
  have hseq := congrArg (fun c : SFPcontext => c.tx.seq) hframe.context_eq
  have hhistory := congrArg (fun c : SFPcontext => c.tx.history) hframe.context_eq
  exact ⟨h.control hwritebuf hseq hhistory, hseq,
    emitted_wire hframe.emitted_eq h.writebuf_eq hwritebuf⟩

end Resend

def SFPcontext.Handshakes (c : SFPcontext) : SfpCall → Prop
  | .octet octet => octet = sfpFlag ∧ c.rx.frameState = .receiving ∧ c.rx.Intact ∧
      getFrameType c.rx.header = .syn ∧ c.asked = some sfpInitialSeq
  | .connect | .write _ => False

def SFPcontext.HearsNak (c : SFPcontext) : SfpCall → Prop
  | .octet octet => octet = sfpFlag ∧ c.rx.frameState = .receiving ∧ c.rx.Intact ∧
      getFrameType c.rx.header = .nak
  | .connect | .write _ => False

instance (c : SFPcontext) : DecidablePred c.Handshakes
  | .octet _ => inferInstanceAs (Decidable (_ ∧ _ ∧ _ ∧ _ ∧ _))
  | .connect | .write _ => .isFalse id

instance (c : SFPcontext) : DecidablePred c.HearsNak
  | .octet _ => inferInstanceAs (Decidable (_ ∧ _ ∧ _ ∧ _))
  | .connect | .write _ => .isFalse id

def handshakeReply (header : UInt8) : List UInt8 :=
  if getFrameSeq header = sfpSeqSyn1 then wireFrame (frameHeader sfpSeqSyn2 .syn) [] else []

theorem sfpDeliverOctet_handshake (cb : Callbacks ω) {s : Sfp ω} {octet : UInt8}
    (h : s.Handshakes (.octet octet)) :
    ∃ rx : SFPreceiver, sfpDeliverOctet cb octet s = sfpResetReceiver
      { resendAll cb
          (if getFrameSeq s.rx.header = sfpSeqSyn1 then sfpTransmitSYN2 cb { s with rx := rx }
          else { s with rx := rx }) with connectState := .connected } := by
  obtain ⟨rfl, hreceiving, hintact, htype, hasked⟩ := h
  refine ⟨{ s.rx with packet.len := s.rx.packet.len - sfpCrcSize }, ?_⟩
  rw [sfpDeliverOctet_flag, if_pos hreceiving]
  rw [sfpHandleFrame_syn cb hintact htype]
  refine congrArg sfpResetReceiver ?_
  simp only [SFPcontext.asked, htype] at hasked
  unfold sfpHandleSYN
  dsimp only
  split at hasked
  case isFalse => cases hasked
  case isTrue hcase =>
    rcases hcase with ⟨hseq, hdisconnected⟩ | ⟨hseq, hdisconnected, hsyn0⟩
    · rw [if_pos hseq, hseq, if_neg (by decide), if_pos rfl, sfpHandleSYN1, if_neg hdisconnected]
      rfl
    · rw [hseq, if_neg (by decide), if_neg (by decide), if_pos rfl, sfpHandleSYN2,
        if_neg hdisconnected, if_neg hsyn0]
      rfl

/-- What comes of a packet that is delivered: the user's data change, and packets are written. -/
inductive Script (ω : Type u)
  | done (data : ω)
  | write (data : ω) (octets : List UInt8) (next : ω → Script ω)

/-- The user of a context: what octets on the line do to its data, and what it makes of a packet. -/
structure Endpoint (ω : Type u) where
  put : List UInt8 → ω → ω
  react : List UInt8 → Nat → ω → Script ω

/-- The data of the user, all that has gone out on the line, and the packets written since the
session began, with the numbers under which they first went out. -/
structure Ledger (ω : Type u) where
  data : ω
  line : List UInt8
  sent : List (UInt8 × List UInt8)

namespace Endpoint

variable (e : Endpoint ω)

def transmitCallbacks : Callbacks (Ledger ω) where
  write octets s := { s with
    user.data := e.put octets s.user.data
    user.line := s.user.line ++ octets }
  deliver := none

def writePacket (octets : List UInt8) (s : Sfp (Ledger ω)) : Sfp (Ledger ω) :=
  (sfpWritePacket e.transmitCallbacks octets
    { s with user.sent := s.user.sent ++ [(s.tx.seq, octets)] }).2

def run : Script ω → Sfp (Ledger ω) → Sfp (Ledger ω)
  | .done data, s => { s with user.data := data }
  | .write data octets next, s =>
    let s := e.writePacket octets { s with user.data := data }
    run (next s.user.data) s

def callbacks : Callbacks (Ledger ω) where
  write := e.transmitCallbacks.write
  deliver := some fun buf len s => e.run (e.react buf len s.user.data) s

def call (s : Sfp (Ledger ω)) (call : SfpCall) : Sfp (Ledger ω) :=
  let s := if s.restarts call then { s with user.sent := [] } else s
  match call with
  | .octet octet => sfpDeliverOctet e.callbacks octet s
  | .connect => sfpConnect e.callbacks s
  | .write octets => e.writePacket octets s

/-- A handshake frame leaves the number of the next packet as it is, and what it has sent again are
packets of this session under the numbers they first went out with. -/
def KeepsNumbers (s : Sfp (Ledger ω)) (call : SfpCall) : Prop :=
  s.Handshakes call →
    (e.call s call).tx.seq = s.tx.seq ∧
    ∃ resent, resent <:+ s.user.sent ∧
      (e.call s call).user.line = s.user.line ++ handshakeReply s.rx.header ++ rtxFrames resent

end Endpoint

/-- A handshake frame finds the number of the next packet no further than the history reaches. -/
def ComesEarly (s : Sfp (Ledger ω)) (call : SfpCall) : Prop :=
  s.Handshakes call → s.tx.seq.toNat ≤ sfpConfigHistoryCapacity

instance (s : Sfp (Ledger ω)) : DecidablePred (ComesEarly s) :=
  fun _ => inferInstanceAs (Decidable (_ → _))

def LedgerAccounted (s : Sfp (Ledger ω)) : Prop := Accounted s.tx s.user.sent

section Endpoint

variable (e : Endpoint ω) {s : Sfp (Ledger ω)}

theorem transmitCallbacks_passes : e.transmitCallbacks.Passes Ledger.line (fun _ => True) :=
  ⟨fun _ _ _ => trivial, fun _ _ _ => rfl, fun _ _ _ => rfl⟩

theorem callbacks_passes : e.callbacks.Passes Ledger.line (fun _ => True) :=
  ⟨fun _ _ _ => trivial, fun _ _ _ => rfl, fun _ _ _ => rfl⟩

theorem transmits_sent {cb : Callbacks (Ledger ω)} (hcb : cb.write = e.transmitCallbacks.write)
    (sent : List (UInt8 × List UInt8)) : Transmits cb (fun s => s.user.sent = sent) :=
  ⟨fun _ _ hs => by rw [hcb]; exact hs, fun _ _ hs => hs⟩

theorem writePacket_accounted (h : LedgerAccounted s) (octets : List UInt8) :
    LedgerAccounted (e.writePacket octets s) ∧
      (e.writePacket octets s).user.sent = s.user.sent ++ [(s.tx.seq, octets)] ∧
      (e.writePacket octets s).user.line =
        s.user.line ++ wireFrame (frameHeader s.tx.seq .usr) octets := by
  have hsent : (e.writePacket octets s).user.sent = s.user.sent ++ [(s.tx.seq, octets)] :=
    (transmits_sent e rfl _).sfpWritePacket_keeps octets rfl
  obtain ⟨hframe, hwritebuf⟩ := (transmitCallbacks_passes e).transmitFrameWithHeader
    (frameHeader s.tx.seq .usr) (some ⟨octets, octets.length⟩)
    { s with
      user.sent := s.user.sent ++ [(s.tx.seq, octets)]
      tx.history := potRingbufferPushBack sfpConfigHistoryCapacity s.tx.history
        ⟨octets, octets.length⟩ } trivial
  have hseq := congrArg (fun c : SFPcontext => nextSeq c.tx.seq) hframe.context_eq
  have hhistory := congrArg (fun c : SFPcontext => c.tx.history) hframe.context_eq
  have hline := emitted_wire hframe.emitted_eq h.writebuf_eq hwritebuf
  rw [packetOctets, SFPpacket.octets, List.take_length] at hline
  refine ⟨?_, hsent, hline⟩
  unfold LedgerAccounted
  rw [hsent]
  exact h.write octets hwritebuf hseq hhistory

theorem run_accounted (script : Script ω) (h : LedgerAccounted s) :
    LedgerAccounted (e.run script s) := by
  induction script generalizing s with
  | done data => exact h
  | write data octets next ih =>
    have hwritten := (writePacket_accounted e (s := { s with user.data := data }) h octets).1
    exact ih _ hwritten

theorem control_ledgerAccounted (h : LedgerAccounted s) (header : UInt8) :
    LedgerAccounted (sfpTransmitControl e.callbacks header s) := by
  have htransmits : Transmits e.callbacks (fun s' => s'.user.sent = s.user.sent) :=
    transmits_sent e (show e.callbacks.write = _ from rfl) _
  have hsent := htransmits.sfpTransmitControl_keeps header (s := s) rfl
  unfold LedgerAccounted
  rw [hsent]
  exact (control_accounted (callbacks_passes e) h header).1

theorem restart_accounted {sent : List (UInt8 × List UInt8)} (h : Accounted s.tx sent)
    (hsent : s.user.sent = []) (rx : SFPreceiver) (header : UInt8) :
    LedgerAccounted (sfpTransmitControl e.callbacks header
      (sfpClearHistory { s with rx := rx, tx.seq := sfpInitialSeq })) := by
  refine control_ledgerAccounted e ?_ header
  obtain ⟨packets, hholds, -, -⟩ := h.holds
  have hfuel : packets.length ≤ 2 * sfpConfigHistoryCapacity := hholds.length_le.trans (by decide)
  change Accounted (sfpClearHistory { s with rx := rx, tx.seq := sfpInitialSeq }).tx s.user.sent
  rw [hsent]
  exact .start h.writebuf_eq rfl (hholds.clearHistory hfuel)

theorem handling_accounted (h : LedgerAccounted s) (hasked : s.rx.Intact → s.asked = none)
    (hsyn0 : s.rx.Intact → getFrameType s.rx.header = .syn →
      getFrameSeq s.rx.header ≠ sfpSeqSyn0) :
    Handling e.callbacks s LedgerAccounted where
  rx _ _ h := h
  connectState _ _ h := h
  quiet _ := h
  control rx header _ := control_ledgerAccounted e (s := { s with rx := rx }) h header
  deliver := by
    intro deliver rx hdeliver _
    rw [← Option.some.inj hdeliver]
    exact run_accounted e (s := { s with rx := rx })
      (e.react rx.packet.buf rx.packet.len s.user.data) h
  resend hintact rx seq hseq := by
    rw [hasked hintact] at hseq
    cases hseq
  restart hintact htype hseq := absurd hseq (hsyn0 hintact htype)
  confirm hintact _ hseq := by
    rw [hasked hintact] at hseq
    cases hseq

end Endpoint

theorem SFPreceiver.hearsSyn0_iff {rx : SFPreceiver} {octet : UInt8} :
    rx.hearsSyn0 octet = true ↔ octet = sfpFlag ∧ rx.frameState = .receiving ∧ rx.Intact ∧
      getFrameType rx.header = .syn ∧ getFrameSeq rx.header = sfpSeqSyn0 := by
  unfold hearsSyn0 events verdict Intact
  by_cases hends : octet = sfpFlag ∧ rx.frameState = .receiving
  · rw [if_pos hends]
    by_cases hbad : sfpCrcSize > rx.packet.len ∨ sfpCrcGood ≠ rx.crc
    · rw [if_pos hbad]
      simp only [Bool.false_eq_true, false_iff]
      rintro ⟨-, -, hintact, -⟩
      exact hbad.elim (Nat.not_lt.mpr hintact.1) (absurd hintact.2)
    · rw [if_neg hbad]
      have hintact := not_or.mp hbad
      simp [hends, Nat.not_lt.mp hintact.1, not_not.mp hintact.2]
  · rw [if_neg hends]
    simp only [Bool.false_eq_true, false_iff]
    exact fun h => hends ⟨h.1, h.2.1⟩

theorem SFPcontext.asked_eq_none {c : SFPcontext} {octet : UInt8}
    (hhandshake : ¬ c.Handshakes (.octet octet)) (hnak : ¬ c.HearsNak (.octet octet))
    (hflag : octet = sfpFlag) (hreceiving : c.rx.frameState = .receiving) (hintact : c.rx.Intact) :
    c.asked = none := by
  cases htype : getFrameType c.rx.header with
  | usr | rtx => rw [asked, htype]
  | nak => exact absurd ⟨hflag, hreceiving, hintact, htype⟩ hnak
  | syn =>
    by_contra hasked
    refine hhandshake ⟨hflag, hreceiving, hintact, htype, ?_⟩
    obtain ⟨seq, hseq⟩ := Option.ne_none_iff_exists'.mp hasked
    have hinitial : seq = sfpInitialSeq := by
      unfold asked at hseq
      rw [htype] at hseq
      dsimp only at hseq
      split at hseq
      · exact (Option.some.inj hseq).symm
      · cases hseq
    rw [hseq, hinitial]

section Steps

variable (e : Endpoint ω) {s : Sfp (Ledger ω)}

theorem octet_accounted (h : LedgerAccounted s) {octet : UInt8}
    (hsyn0 : s.rx.hearsSyn0 octet = false)
    (hhandshake : ¬ s.Handshakes (.octet octet)) (hnak : ¬ s.HearsNak (.octet octet)) :
    LedgerAccounted (sfpDeliverOctet e.callbacks octet s) := by
  by_cases hflag : octet = sfpFlag
  · subst hflag
    rw [sfpDeliverOctet_flag]
    change LedgerAccounted
      (if s.rx.frameState = .receiving then sfpHandleFrame e.callbacks s else s)
    split
    case isFalse => exact h
    case isTrue hreceiving =>
      refine (handling_accounted e h ?_ ?_).handleFrame
      · exact SFPcontext.asked_eq_none hhandshake hnak rfl hreceiving
      · intro hintact htype hseq
        have hhears := SFPreceiver.hearsSyn0_iff.mpr ⟨rfl, hreceiving, hintact, htype, hseq⟩
        exact Bool.false_ne_true (hsyn0.symm.trans hhears)
  · rw [sfpDeliverOctet_of_ne _ _ hflag]
    exact h

theorem syn0_accounted {sent : List (UInt8 × List UInt8)} (h : Accounted s.tx sent)
    (hsent : s.user.sent = []) {octet : UInt8} (hsyn0 : s.rx.hearsSyn0 octet = true) :
    LedgerAccounted (sfpDeliverOctet e.callbacks octet s) := by
  obtain ⟨rfl, hreceiving, hintact, htype, hseq⟩ := SFPreceiver.hearsSyn0_iff.mp hsyn0
  rw [sfpDeliverOctet_flag, if_pos hreceiving, sfpHandleFrame_syn _ hintact htype, sfpHandleSYN]
  dsimp only
  rw [if_pos hseq]
  unfold sfpHandleSYN0 sfpTransmitSYN1 sfpResetReceiver
  exact restart_accounted e h hsent _ _

theorem reply_accounted (h : LedgerAccounted s) (header : UInt8) :
    let replied := if getFrameSeq header = sfpSeqSyn1 then sfpTransmitSYN2 e.callbacks s else s
    Accounted replied.tx s.user.sent ∧ replied.user.sent = s.user.sent ∧
      replied.tx.seq = s.tx.seq ∧ replied.user.line = s.user.line ++ handshakeReply header := by
  unfold handshakeReply
  dsimp only
  split
  case isFalse => exact ⟨h, rfl, rfl, (List.append_nil _).symm⟩
  case isTrue =>
    have htransmits : Transmits e.callbacks (fun s' => s'.user.sent = s.user.sent) :=
      transmits_sent e (show e.callbacks.write = _ from rfl) _
    obtain ⟨haccounted, hseq, hline⟩ := control_accounted (callbacks_passes e) h
      (frameHeader sfpSeqSyn2 .syn)
    exact ⟨haccounted, htransmits.sfpTransmitControl_keeps _ rfl, hseq, hline⟩

theorem handshake_outcome (h : LedgerAccounted s) {octet : UInt8}
    (hhandshake : s.Handshakes (.octet octet)) :
    (s.tx.seq.toNat ≤ sfpConfigHistoryCapacity ∧
        (e.call s (.octet octet)).tx.seq = s.tx.seq ∧
        LedgerAccounted (e.call s (.octet octet)) ∧
        ∃ resent, resent <:+ s.user.sent ∧
          (e.call s (.octet octet)).user.line =
            s.user.line ++ handshakeReply s.rx.header ++ rtxFrames resent) ∨
      sfpConfigHistoryCapacity < s.tx.seq.toNat ∧ (e.call s (.octet octet)).tx.seq ≠ s.tx.seq := by
  have hcall : e.call s (.octet octet) = sfpDeliverOctet e.callbacks octet s := by
    obtain ⟨-, -, hintact, htype, hasked⟩ := hhandshake
    obtain ⟨hseq, -⟩ := sfpHandleFrame_completes e.callbacks hintact htype hasked
    have hsyn0 : s.restarts (.octet octet) = false := by
      refine Bool.eq_false_iff.mpr fun hsyn0 => ?_
      have hzero := (SFPreceiver.hearsSyn0_iff.mp hsyn0).2.2.2.2
      rw [hzero] at hseq
      exact absurd hseq (by decide)
    rw [Endpoint.call, hsyn0]
    rfl
  obtain ⟨rx, hdeliver⟩ := sfpDeliverOctet_handshake e.callbacks hhandshake
  rw [hcall, hdeliver]
  obtain ⟨haccounted, hsent, hseq, hline⟩ :=
    reply_accounted e (s := { s with rx := rx }) h s.rx.header
  have hcb := callbacks_passes e
  rcases Nat.lt_or_ge sfpConfigHistoryCapacity s.tx.seq.toNat with hlate | hearly
  · exact .inr ⟨hlate, fun heq => resendAll_late hcb haccounted (hseq ▸ hlate) (heq.trans hseq.symm)⟩
  · left
    obtain ⟨hback, hagain, resent, hsuffix, hwire⟩ :=
      resendAll_early hcb haccounted (hseq ▸ hearly)
    have hkept : (resendAll e.callbacks _).user.sent = s.user.sent :=
      (transmits_sent e (show e.callbacks.write = _ from rfl) _).resend_keeps hsent
    have hstill : LedgerAccounted (resendAll e.callbacks _) := hkept.symm ▸ hagain
    exact ⟨hearly, hback.trans hseq, hstill, resent, hsuffix, hwire.trans (congrArg (· ++ _) hline)⟩

theorem call_accounted (h : LedgerAccounted s) {call : SfpCall} (hhandshake : ¬ s.Handshakes call)
    (hnak : ¬ s.HearsNak call) : LedgerAccounted (e.call s call) := by
  cases call with
  | connect => exact restart_accounted e (s := { s with user.sent := [] }) h rfl _ _
  | write octets => exact (writePacket_accounted e h octets).1
  | octet octet =>
    cases hsyn0 : s.restarts (.octet octet) with
    | true =>
      rw [Endpoint.call, hsyn0]
      exact syn0_accounted e (s := { s with user.sent := [] }) h rfl hsyn0
    | false =>
      rw [Endpoint.call, hsyn0]
      exact octet_accounted e h hsyn0 hhandshake hnak

theorem keepsNumbers_iff (h : LedgerAccounted s) (call : SfpCall) :
    e.KeepsNumbers s call ↔ ComesEarly s call := by
  cases call with
  | connect | write => exact iff_of_true (fun h => h.elim) (fun h => h.elim)
  | octet octet =>
    refine forall_congr' fun hhandshake => ?_
    rcases handshake_outcome e h hhandshake with ⟨hearly, hseq, -, hline⟩ | ⟨hlate, hseq⟩
    · exact iff_of_true ⟨hseq, hline⟩ hearly
    · exact iff_of_false (fun h => hseq h.1) (Nat.not_le.mpr hlate)

theorem early_accounted (h : LedgerAccounted s) {call : SfpCall} (hnak : ¬ s.HearsNak call)
    (hearly : ComesEarly s call) : LedgerAccounted (e.call s call) := by
  by_cases hhandshake : s.Handshakes call
  · cases call with
    | connect | write => exact hhandshake.elim
    | octet octet =>
      rcases handshake_outcome e h hhandshake with ⟨-, -, haccounted, -⟩ | ⟨hlate, -⟩
      · exact haccounted
      · exact absurd (hearly hhandshake) (Nat.not_le.mpr hlate)
  · exact call_accounted e h hhandshake hnak

end Steps

theorem init_accounted (c : SFPcontext) (data : ω) (line : List UInt8) :
    LedgerAccounted (sfpInit ⟨c, ⟨data, line, []⟩⟩) :=
  .start rfl rfl (PotRingbuffer.Holds.init historyCapacity c.tx.history)

/-- In a run without a NAK every handshake frame leaves the numbers of the packets alone exactly if
every one of them comes before more packets have been written than the history holds, or shortly
after the numbers have started over. -/
theorem handshakes_keep_numbers (e : Endpoint ω) (c : SFPcontext) (data : ω) (line : List UInt8)
    (calls : List SfpCall)
    (hnak : Lib.Along (fun s call => ¬ s.HearsNak call) e.call (sfpInit ⟨c, ⟨data, line, []⟩⟩)
      calls) :
    Lib.Along e.KeepsNumbers e.call (sfpInit ⟨c, ⟨data, line, []⟩⟩) calls ↔
      Lib.Along ComesEarly e.call (sfpInit ⟨c, ⟨data, line, []⟩⟩) calls :=
  hnak.congr_while (fun _ call h _ => keepsNumbers_iff e h call)
    (fun _ _ h hnak hearly => early_accounted e h hnak hearly) (init_accounted c data line)

def answering : Endpoint Unit where
  put _ data := data
  react buf len data := .write data (buf.take len) .done

theorem handshakes_keep_numbers_answer :
    Lib.Along answering.KeepsNumbers answering.call (sfpInit ⟨.zero, ⟨(), [], []⟩⟩)
      (handshakeCalls ++ (wireFrame (frameHeader sfpSeqSyn1 .syn) []).map .octet) :=
  (handshakes_keep_numbers answering .zero () [] _ (by decide +kernel)).mpr (by decide +kernel)

/-- After nine packets a SYN1 that comes again finds the first one gone: the others are numbered
from 0 on. -/
theorem not_keeps_numbers_nine :
    ¬ ∀ calls : List SfpCall,
      Lib.Along (fun s call => ¬ s.HearsNak call) answering.call
        (sfpInit ⟨.zero, ⟨(), [], []⟩⟩) calls →
      Lib.Along answering.KeepsNumbers answering.call (sfpInit ⟨.zero, ⟨(), [], []⟩⟩) calls := by
  intro h
  let calls : List SfpCall :=
    (wireFrame (frameHeader sfpSeqSyn0 .syn) [] ++ wireFrame (frameHeader sfpSeqSyn2 .syn) []).map
        .octet ++
      List.replicate 9 (.write [7]) ++
      (sfpFlag :: frameBody (frameHeader sfpSeqSyn1 .syn) []).map .octet
  have hlast := (Lib.Along.append.mp (h (calls ++ [.octet sfpFlag]) (by decide +kernel))).2.1
  have hseq := (hlast (by decide +kernel)).1
  revert hseq
  decide +kernel

end TurningPoint
