import TurningPoint.Messages.Canonical
import TurningPoint.Rpc.Session
import TurningPoint.Sfp.FrameSpec
import TurningPoint.Sfp.PeerLaws

namespace TurningPoint

def portPacket : WritePacket (Sfp Port) :=
  some fun octets h => { h with outer := (sfpWritePacket endpoint octets h.outer).2 }

/-- Two connected ends whose sequence numbers agree, with nothing under way from `x` to `y`. -/
structure Abreast (x y : Sfp Port) : Prop where
  sender : x.connectState = .connected
  receiver : y.connectState = .connected
  seq_eq : x.tx.seq = y.rx.seq
  seq_lt : y.rx.seq < 64
  writebuf : x.tx.writebuf = []
  between : y.rx.Between

/-- The octets that sending the message puts on the line deliver its encoding, once, and the message
can be read from that. -/
def Arrives (m : MessageAny) (h : Host (Sfp Port)) (y : Sfp Port) : Prop :=
  ∃ line, (rpcSend portPacket m h).outer.user.line = h.outer.user.line ++ line ∧
    ∃ packet, (sfpDeliverOctets endpoint line y).user.delivered = y.user.delivered ++ [packet] ∧
      packet = messageOctets m ∧ ReadsAs packet m

theorem frameHeader_usr (seq : UInt8) (h : seq < 64) :
    getFrameSeq (frameHeader seq .usr) = seq ∧ getFrameType (frameHeader seq .usr) = .usr := by
  revert seq
  exact forall_octet (by decide)

theorem frameOctets_length (header : UInt8) (payload : List UInt8) :
    (frameOctets header payload).length = payload.length + sfpCrcSize + 1 := by
  simp [frameOctets, SFPreceiver.length_crcOctets]

theorem frameOctets_good {header : UInt8} {payload : List UInt8}
    (hlen : payload.length + sfpCrcSize ≤ sfpConfigMaxPacketSize) :
    GoodFrame (frameOctets header payload) := by
  refine ⟨?_, ?_, ?_⟩
  · rw [frameOctets_length]
    exact Nat.succ_le_succ (Nat.le_add_left ..)
  · rw [frameOctets_length, Nat.add_comm]
    exact Nat.add_le_add_left hlen 1
  · rw [crcOf, frameOctets, List.foldl_append]
    exact crc_residue _

variable {x y : Sfp Port} {m : MessageAny}

theorem rpcSend_line {h : Host (Sfp Port)} (hwritebuf : h.outer.tx.writebuf = [])
    (hm : messageGetsizeof m ≠ 0) (hsize : messageGetsizeof m ≤ sfpConfigMaxPacketSize) :
    (rpcSend portPacket m h).outer.user.line =
      h.outer.user.line ++ wireFrame (frameHeader h.outer.tx.seq .usr) (messageOctets m) := by
  have hoctets : SFPpacket.octets ⟨messageOctets m, (messageOctets m).length⟩ = messageOctets m :=
    List.take_length
  rw [portPacket, rpcSend_some hm hsize]
  simp only [sfpWritePacket, sfpTransmitUSR, sfpTransmitFrameImpl, Bool.false_eq_true, if_false]
  rw [endpoint_plain.transmitFrameWithHeader_eq, packetOctets, hoctets]
  simp only [Sfp.settled, hwritebuf, Port.put, List.append_nil]

theorem deliver_wireFrame (hy : y.rx.Between) (header : UInt8) (payload : List UInt8) :
    ∃ rx : SFPreceiver, rx.seq = y.rx.seq ∧
      rx.events sfpFlag = frameSpec y.rx.seq (lastFrame (frameOctets header payload)) ∧
      sfpDeliverOctets endpoint (wireFrame header payload) y =
        sfpDeliverOctet endpoint sfpFlag { y with rx := rx } := by
  have hopen : sfpDeliverOctet endpoint sfpFlag y = y := by
    have hnew : y.rx.frameState ≠ .receiving := by
      rw [← hy]
      exact fun hreceiving => by cases hreceiving
    refine (sfpDeliverOctet_flag endpoint y).trans ((congrArg sfpResetReceiver (if_neg hnew)).trans ?_)
    change { y with rx := y.rx.reset } = y
    rw [hy]
  obtain ⟨rx, hseq, -, hevents, hrun⟩ :=
    observe_frame endpoint hy (flag_not_mem_frameBody header payload)
  rw [frameBody, unescape_stuffed] at hevents
  refine ⟨rx, hseq, hevents, ?_⟩
  rw [wireFrame, sfpDeliverOctets, List.cons_append, List.foldl_cons, hopen]
  exact (observe_fst endpoint _ (y, [])).symm.trans (congrArg Prod.fst hrun)

theorem deliver_fits (hj : Abreast x y) {payload : List UInt8}
    (hlen : payload.length + sfpCrcSize ≤ sfpConfigMaxPacketSize) :
    (sfpDeliverOctets endpoint (wireFrame (frameHeader x.tx.seq .usr) payload) y).user.delivered =
      y.user.delivered ++ [payload] := by
  have hgood : GoodFrame (frameOctets (frameHeader x.tx.seq .usr) payload) := frameOctets_good hlen
  have htake : (payload ++ crcOctets (crcOf (frameHeader x.tx.seq .usr :: payload))).take
      ((payload ++ crcOctets (crcOf (frameHeader x.tx.seq .usr :: payload))).length - sfpCrcSize) =
        payload := by
    rw [List.length_append, SFPreceiver.length_crcOctets, Nat.add_sub_cancel, List.take_left]
  obtain ⟨rx, hseq, hevents, hdeliver⟩ :=
    deliver_wireFrame hj.between (frameHeader x.tx.seq .usr) payload
  rw [lastFrame_of_le hgood.2.1, frameOctets, List.cons_append] at hevents
  rw [frameOctets, List.cons_append] at hgood
  rw [frameSpec, if_pos hgood, htake] at hevents
  obtain ⟨hverdict, hflag⟩ := sfpDeliverOctet_event endpoint (s := { y with rx := rx }) hevents
  obtain ⟨hdispatch, hheader, hpayload⟩ :=
    sfpHandleFrame_frame endpoint (s := { y with rx := rx }) hverdict
  obtain ⟨hframeSeq, hframeType⟩ := frameHeader_usr x.tx.seq (hj.seq_eq ▸ hj.seq_lt)
  rw [hdeliver, hflag, hdispatch]
  have hheader : rx.header = frameHeader x.tx.seq .usr := hheader
  have hexpected : ¬ x.tx.seq ≠ rx.seq := not_not.mpr (hj.seq_eq.trans hseq.symm)
  simp only [sfpDispatchFrame, hheader, hframeType, sfpHandleUSR, hj.receiver, hframeSeq, hexpected,
    if_false, endpoint]
  exact congrArg (fun packet => y.user.delivered ++ [packet]) hpayload

theorem deliver_overflows (hj : Abreast x y) {payload : List UInt8}
    (hlt : sfpConfigMaxPacketSize < payload.length + sfpCrcSize)
    (hle : payload.length ≤ sfpConfigMaxPacketSize) (header : UInt8) :
    (sfpDeliverOctets endpoint (wireFrame header payload) y).user.delivered = y.user.delivered := by
  obtain ⟨rx, hseq, hevents, hdeliver⟩ := deliver_wireFrame hj.between header payload
  have hlast : (lastFrame (frameOctets header payload)).length ≤ 1 := by
    have hlen := frameOctets_length header payload
    rw [lastFrame, List.length_drop, hlen]
    change payload.length + 2 + 1 - 258 * ((payload.length + 2 + 1) / 258) ≤ 1
    change 256 < payload.length + 2 at hlt
    change payload.length ≤ 256 at hle
    omega
  rw [hdeliver]
  cases hrest : lastFrame (frameOctets header payload) with
  | nil =>
    rw [hrest] at hevents
    rw [sfpDeliverOctet_idle endpoint (s := { y with rx := rx }) hevents]
    rfl
  | cons octet octets =>
    rw [hrest] at hevents hlast
    have hshort : ¬ GoodFrame (octet :: octets) := fun hgood => by
      have := hgood.1
      omega
    rw [frameSpec, if_neg hshort] at hevents
    obtain ⟨hverdict, hflag⟩ := sfpDeliverOctet_event endpoint (s := { y with rx := rx }) hevents
    obtain ⟨len, hnak⟩ := sfpHandleFrame_nak endpoint (s := { y with rx := rx }) hverdict
    rw [hflag, hnak, sfpTransmitNAK, sfpTransmitControl, endpoint_plain.transmitFrameWithHeader_eq]
    rfl

theorem Abreast.not_arrives {h : Host (Sfp Port)} (hj : Abreast h.outer y) (hm : m.Sized)
    (hsize : messageGetsizeof m ≤ sfpConfigMaxPacketSize)
    (hover : sfpConfigMaxPacketSize < messageGetsizeof m + sfpCrcSize) : ¬ Arrives m h y := by
  rintro ⟨line, hline, packet, hdelivered, -, -⟩
  obtain rfl := List.append_cancel_left
    (hline.symm.trans (rpcSend_line hj.writebuf (messageGetsizeof_ne_zero hm) hsize))
  rw [← messageOctets_length] at hsize hover
  rw [deliver_overflows hj hover hsize] at hdelivered
  exact absurd (congrArg List.length hdelivered) (by simp)

/-- What `rpcSend` accepts arrives exactly if it leaves room for the checksum in the buffer of the
receiver. -/
theorem message_arrives_iff (m : MessageAny) (hm : m.Sized) (h : Host (Sfp Port)) (y : Sfp Port)
    (hj : Abreast h.outer y) (hsize : messageGetsizeof m ≤ sfpConfigMaxPacketSize) :
    Arrives m h y ↔ messageGetsizeof m + sfpCrcSize ≤ sfpConfigMaxPacketSize := by
  constructor
  · intro harrives
    by_contra hover
    exact hj.not_arrives hm hsize (Nat.not_le.mp hover) harrives
  · intro hfits
    rw [← messageOctets_length] at hfits
    exact ⟨_, rpcSend_line hj.writebuf (messageGetsizeof_ne_zero hm) hsize, _,
      deliver_fits hj hfits, rfl, messageOctets_readsAs hm⟩

def Sfp.established : Sfp Port :=
  { SFPcontext.zero with rx.crc := sfpCrcPreset, connectState := .connected, user := ⟨[], [], []⟩ }

theorem Sfp.established_abreast : Abreast established established where
  sender := rfl
  receiver := rfl
  seq_eq := rfl
  seq_lt := by decide
  writebuf := rfl
  between := rfl

theorem message_arrives_iff_ping :
    Arrives (.ping ⟨7⟩) ⟨.connected, .still, .established⟩ .established ↔ 2 + 2 ≤ 256 :=
  message_arrives_iff (.ping ⟨7⟩) trivial ⟨.connected, .still, .established⟩ .established
    Sfp.established_abreast (by decide)

theorem not_arrives_longest :
    let m := MessageAny.data ⟨1, 0, 0, 0, 0, 245, List.replicate 245 0⟩
    m.Sized ∧ messageGetsizeof m ≤ sfpConfigMaxPacketSize ∧
      ¬ Arrives m ⟨.connected, .still, .established⟩ .established :=
  ⟨List.length_replicate, by decide,
    Sfp.established_abreast.not_arrives List.length_replicate (by decide) (by decide)⟩

end TurningPoint
