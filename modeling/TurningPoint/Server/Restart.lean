import TurningPoint.Lib.Window
import TurningPoint.Server.InSession

namespace TurningPoint

/-- The board at a sleep in `serverWrite`, if it comes to that one: so many of its calls have found
room, and octets are left. -/
def boardAtSleep : Nat → List UInt8 → Board → Option Board
  | 0, octets, board => if octets = [] then none else some board
  | n + 1, octets, board =>
    let (wlen, board) := sdAsynchronousWrite octets board
    boardAtSleep n (octets.drop wlen) board

/-- An action comes to its end, or `vexSleep` ends the thread in the course of it: in that call of
`serverWrite`, at that sleep.  The sleep in the loop of `serverThread` comes between two actions. -/
inductive ServerEvent
  | whole (action : ServerAction)
  | ended (action : ServerAction) (call sleep : Nat)

def serverEnded (s : Server) (action : ServerAction) (call sleep : Nat) : Server :=
  match (newWrites s (serverStep s action))[call]? with
  | none => serverStep s action
  | some w =>
    match boardAtSleep sleep w.octets w.board with
    | none => serverStep s action
    | some board =>
      ⟨w.rpc, board, ⟨w.sfp, w.state, s.outer.handled, w.resets,
        s.outer.writes ++ (newWrites s (serverStep s action)).take (call + 1)⟩⟩

def serverEvent (s : Server) : ServerEvent → Server
  | .whole action => serverStep s action
  | .ended action call sleep => serverEnded s action call sleep

namespace Written

def number (w : Written) : UInt8 := getFrameSeq ((begunHeader w.octets).getD 0)

def packet (w : Written) : List UInt8 :=
  (potRingbufferBack sfpConfigHistoryCapacity w.sfp.tx.history).octets

end Written

def usrFrames (writes : List Written) : List Written :=
  writes.filter fun w => w.frameType = some .usr

def NumbersAgree (frames : List Written) : Prop :=
  ∀ i j w w', i < j → j < i + 64 → frames[i]? = some w → frames[j]? = some w' →
    w.resets = w'.resets → w.number = w'.number → w.packet = w'.packet

theorem not_numbersAgree_pair {frames : List Written} {resets : Nat} {number : UInt8}
    {packet packet' : List UInt8}
    (h : frames.map (fun w => (w.resets, w.number, w.packet)) =
      [(resets, number, packet), (resets, number, packet')]) (hne : packet ≠ packet') :
    ¬ NumbersAgree frames := by
  intro hagree
  obtain ⟨w, rest, rfl, hw, hrest⟩ := List.map_eq_cons_iff.mp h
  obtain ⟨w', rest', rfl, hw', -⟩ := List.map_eq_cons_iff.mp hrest
  simp only [Prod.mk.injEq] at hw hw'
  have hpacket := hagree 0 1 w w' (by decide) (by decide) rfl rfl (hw.1.trans hw'.1.symm)
    (hw.2.1.trans hw'.2.1.symm)
  exact hne (hw.2.2.symm.trans (hpacket.trans hw'.2.2))

abbrev Successive : Written → Written → Prop :=
  Lib.Counts Written.resets Written.number nextSeq

theorem Written.number_lt (w : Written) : w.number < 64 := and_seqMask_lt _

theorem NumbersAgree.of_chain {frames : List Written} (h : frames.IsChain Successive) :
    NumbersAgree frames := by
  intro i j w w' hlt hnear hw hw' hresets hnumber
  obtain ⟨k, rfl⟩ : ∃ k, j = i + k := ⟨j - i, by omega⟩
  have hiterate := congrArg UInt8.toNat ((Lib.Counts.iterate h hw hw').2 hresets)
  rw [← hnumber, nextSeq_iterate_toNat w.number_lt] at hiterate
  have hbound : w.number.toNat < 64 := w.number_lt
  omega

/-- Since the first `n` calls the USR frames have been numbered one by one; to the number of the
last one of this session the next number is as `R` says. -/
structure Numbered (n : Nat) (R : UInt8 → UInt8 → Prop) (o : Outer) : Prop where
  sound : o.sfp.tx.Sound
  base : n ≤ o.writes.length
  chain : (usrFrames (o.writes.drop n)).IsChain Successive
  last : ∀ w ∈ (usrFrames (o.writes.drop n)).getLast?, w.resets ≤ o.resets ∧
    (w.resets = o.resets → R o.sfp.tx.seq w.number)

namespace Numbered

variable {n : Nat} {R R' : UInt8 → UInt8 → Prop} {o o' : Outer}

theorem store (hs : Numbered n R o) (hwrites : o'.writes = o.writes)
    (hresets : o'.resets = o.resets) (hsound : o'.sfp.tx.Sound)
    (hR : ∀ number, R o.sfp.tx.seq number → R' o'.sfp.tx.seq number) : Numbered n R' o' := by
  obtain ⟨-, hbase, hchain, hlast⟩ := hs
  rw [← hwrites] at hbase hchain hlast
  rw [← hresets] at hlast
  exact ⟨hsound, hbase, hchain, fun w hw => (hlast w hw).imp_right fun h hw => hR _ (h hw)⟩

theorem reset (hs : Numbered n R o) : Numbered n R' o.reset := by
  refine ⟨sound_reset o, hs.base, hs.chain, fun w hw => ?_⟩
  have hle : w.resets ≤ o.resets := (hs.last w hw).1
  have hreset : o.reset.resets = o.resets + 1 := rfl
  refine ⟨by omega, fun heq => absurd heq (by omega)⟩

theorem usrFrames_concat {writes : List Written} (hbase : n ≤ writes.length) (w : Written) :
    usrFrames ((writes ++ [w]).drop n) = usrFrames (writes.drop n) ++ usrFrames [w] := by
  rw [List.drop_append_of_le_length hbase, usrFrames, List.filter_append]
  rfl

theorem append_other (hs : Numbered n R o) {w : Written} (hw : w.frameType ≠ some .usr) :
    Numbered n R { o with writes := o.writes ++ [w] } := by
  have hnone : usrFrames [w] = [] := by
    simp [usrFrames, hw]
  have hframes := usrFrames_concat hs.base w
  rw [hnone, List.append_nil] at hframes
  refine ⟨hs.sound, ?_, ?_, ?_⟩
  · simpa using Nat.le_succ_of_le hs.base
  · rw [hframes]
    exact hs.chain
  · rw [hframes]
    exact hs.last

theorem append_usr (hs : Numbered n (fun seq number => seq = nextSeq number) o) {w : Written}
    (hw : w.frameType = some .usr) (hresets : w.resets = o.resets)
    (hnumber : w.number = o.sfp.tx.seq) :
    Numbered n (fun seq number => seq = number) { o with writes := o.writes ++ [w] } := by
  have hsingle : usrFrames [w] = [w] := by
    simp [usrFrames, hw]
  have hframes := usrFrames_concat hs.base w
  rw [hsingle] at hframes
  refine ⟨hs.sound, ?_, ?_, ?_⟩
  · simpa using Nat.le_succ_of_le hs.base
  · rw [hframes]
    refine hs.chain.append (.singleton w) fun w' hw' v hv => ?_
    obtain rfl : w = v := by simpa using hv
    obtain ⟨hle, hnext⟩ := hs.last w' hw'
    exact ⟨hresets ▸ hle, fun heq => hnumber.trans (hnext (heq.trans hresets))⟩
  · rw [hframes, List.getLast?_concat]
    rintro v hv
    obtain rfl : w = v := by simpa using hv
    exact ⟨Nat.le_of_eq hresets, fun _ => hnumber.symm⟩

theorem write_other {s : Server} {octets : List UInt8}
    (htype : (s.written octets).frameType ≠ some .usr) (hs : Numbered n R s.outer) :
    Numbered n R (serverWrite octets s).outer := by
  have happend := hs.append_other htype
  obtain ⟨-, state, heq⟩ | ⟨-, heq⟩ := serverWrite_outer octets s
  all_goals rw [heq]
  · exact happend.store rfl rfl happend.sound fun _ h => h
  · exact happend.reset

theorem write_usr {s : Server} {octets : List UInt8}
    (htype : (s.written octets).frameType = some .usr)
    (hnumber : (s.written octets).number = s.outer.sfp.tx.seq)
    (hs : Numbered n (fun seq number => seq = nextSeq number) s.outer) :
    Numbered n (fun seq number => seq = number) (serverWrite octets s).outer := by
  have happend := hs.append_usr htype rfl hnumber
  obtain ⟨-, state, heq⟩ | ⟨-, heq⟩ := serverWrite_outer octets s
  all_goals rw [heq]
  · exact happend.store rfl rfl happend.sound fun _ h => h
  · exact happend.reset

variable {cb : Callbacks Rest} {s : Sfp Rest} {header : UInt8}

theorem conveys (hcb : ∀ octets c, cb.write octets c = toSfp (serverWrite octets (ofSfp c)))
    (hfirst : ∀ rest crc, Numbered n R
      (ofSfp (cb.write (sfpFlag :: sfpStuffing.stuff header ++ rest) { s with
        tx.crc := crc, tx.writebuf := sfpFlag :: sfpStuffing.stuff header ++ rest })).outer) :
    Conveys cb header s (fun c => Numbered n R (ofSfp c).outer) := by
  refine ⟨hfirst, fun octets c hlater hc => ?_, fun crc writebuf c hc => ?_⟩
  · rw [hcb]
    have htype : ((ofSfp c).written octets).frameType = none :=
      congrArg (Option.map getFrameType) hlater
    exact write_other (s := ofSfp c) (by simp [htype]) hc
  · exact hc.store rfl rfl (hc.sound.buffer crc writebuf) fun _ h => h

theorem frame_other (hcb : ∀ octets c, cb.write octets c = toSfp (serverWrite octets (ofSfp c)))
    (htype : getFrameType header ≠ .usr) (packet : Option SFPpacket) (hempty : s.tx.writebuf = [])
    (hs : Numbered n R (ofSfp s).outer) :
    Numbered n R (ofSfp (sfpTransmitFrameWithHeader cb header packet s).2).outer := by
  refine (conveys hcb fun rest crc => ?_).transmitFrame packet hempty
  rw [hcb]
  refine write_other ?_ (hs.store rfl rfl (hs.sound.buffer crc _) fun _ h => h)
  have hfirst := congrArg (Option.map getFrameType) (begunHeader_first header rest)
  exact fun h => htype (Option.some_inj.mp (hfirst.symm.trans h))

theorem frame_usr (hcb : ∀ octets c, cb.write octets c = toSfp (serverWrite octets (ofSfp c)))
    (hs : Numbered n (fun seq number => seq = nextSeq number) (ofSfp s).outer)
    (htype : getFrameType header = .usr) (hnumber : getFrameSeq header = s.tx.seq)
    (packet : Option SFPpacket) (hempty : s.tx.writebuf = []) :
    Numbered n (fun seq number => seq = number)
      (ofSfp (sfpTransmitFrameWithHeader cb header packet s).2).outer := by
  refine (conveys hcb fun rest crc => ?_).transmitFrame packet hempty
  rw [hcb]
  have hfirst := begunHeader_first header rest
  refine write_usr ?_ ?_ (hs.store rfl rfl (hs.sound.buffer crc _) fun _ h => h)
  · exact (congrArg (Option.map getFrameType) hfirst).trans (congrArg some htype)
  · exact (congrArg (fun header => getFrameSeq (header.getD 0)) hfirst).trans hnumber

abbrev Resent (last seq : UInt8) (next number : UInt8) : Prop := last = nextSeq number ∧ next = seq

theorem transmitRTX {last seq : UInt8} (packet : SFPpacket) (hempty : s.tx.writebuf = [])
    (hs : Numbered n (Resent last seq) (ofSfp s).outer) :
    Numbered n (Resent last (nextSeq seq))
      (ofSfp (sfpTransmitRTX serverCallbacks packet s)).outer := by
  have htype : getFrameType (frameHeader s.tx.seq .rtx) = .rtx :=
    getFrameType_frameHeader hs.sound.seq_lt .rtx
  have hframe := frame_other serverCallbacks_write (by rw [htype]; decide) (some packet) hempty hs
  exact hframe.store rfl rfl (hframe.sound.number (and_seqMask_lt _))
    fun _ h => ⟨h.1, congrArg nextSeq h.2⟩

theorem resend {last seq : UInt8} (turns : List Nat)
    (hs : Numbered n (Resent last seq) (ofSfp s).outer) (hempty : s.tx.writebuf = []) :
    let s' := turns.foldl (fun s i => sfpTransmitRTX serverCallbacks
      (potRingbufferAt sfpConfigHistoryCapacity s.tx.history i) s) s
    Numbered n (Resent last (nextSeq^[turns.length] seq)) (ofSfp s').outer ∧
      s'.tx.writebuf = [] := by
  induction turns generalizing s seq with
  | nil => exact ⟨hs, hempty⟩
  | cons i turns ih => exact ih (hs.transmitRTX _ hempty) rfl

theorem transmitHistory {last seq : UInt8} (hs : Numbered n (Resent last seq) (ofSfp s).outer)
    (hempty : s.tx.writebuf = []) :
    Numbered n (Resent last
        (nextSeq^[potRingbufferSize sfpConfigHistoryCapacity s.tx.history] seq))
        (ofSfp (sfpTransmitHistory serverCallbacks s)).outer ∧
      (sfpTransmitHistory serverCallbacks s).tx.writebuf = [] := by
  have hturns := hs.resend
    (List.range (potRingbufferSize sfpConfigHistoryCapacity s.tx.history)) hempty
  rwa [List.length_range] at hturns

end Numbered

def SFPtransmitter.Keeps (tx : SFPtransmitter) (seq : UInt8) : Prop :=
  seq ≠ tx.seq →
    sfpFastforward seq tx.seq (potRingbufferSize sfpConfigHistoryCapacity tx.history) <
      potRingbufferSize sfpConfigHistoryCapacity tx.history

instance (tx : SFPtransmitter) : DecidablePred tx.Keeps :=
  fun _ => inferInstanceAs (Decidable (_ → _))

/-- The frame in the receiver makes the numbers start over: a SYN0, or one that asks for a packet
which the history does not hold. -/
def SFPcontext.Renumbers (s : SFPcontext) : Prop :=
  s.rx.Intact ∧
    (getFrameType s.rx.header = .syn ∧ getFrameSeq s.rx.header = sfpSeqSyn0 ∨
      ∃ seq ∈ s.asked, ¬ s.tx.Keeps seq)

instance : DecidablePred SFPcontext.Renumbers := fun s =>
  inferInstanceAs (Decidable (_ ∧ (_ ∨ ∃ seq ∈ s.asked, ¬ s.tx.Keeps seq)))

def Counted (n : Nat) (o : Outer) : Prop :=
  Numbered n (fun seq number => seq = nextSeq number) o ∧ o.sfp.tx.writebuf = []

section Step

variable {n : Nat} {s : Sfp Rest}

theorem Counted.store {o o' : Outer} (hs : Counted n o) (hwrites : o'.writes = o.writes)
    (htx : o'.sfp.tx = o.sfp.tx) (hresets : o'.resets = o.resets) : Counted n o' :=
  ⟨hs.1.store hwrites hresets (htx ▸ hs.1.sound) (fun _ h => htx ▸ h), htx ▸ hs.2⟩

theorem Counted.check {s : Server} (hs : Counted n s.outer) :
    Counted n (serverCheckConnection s).outer := by
  obtain ⟨-, state, heq⟩ | ⟨-, heq⟩ := serverCheckConnection_outer s []
  all_goals rw [heq]
  · exact hs.store rfl rfl rfl
  · exact ⟨hs.1.reset, rfl⟩

theorem Counted.control {header : UInt8}
    (hheader : getFrameType header = .nak ∨ getFrameType header = .syn)
    (hs : Counted n (ofSfp s).outer) :
    Counted n (ofSfp (sfpTransmitControl serverCallbacks header s)).outer := by
  refine ⟨hs.1.frame_other (fun _ _ => rfl) ?_ none hs.2, rfl⟩
  rcases hheader with h | h <;> rw [h] <;> decide

theorem Counted.writePacket (octets : List UInt8) (hs : Counted n (ofSfp s).outer) :
    Counted n (ofSfp (sfpWritePacket serverTransmitCallbacks octets s).2).outer := by
  have hseq : s.tx.seq < 64 := hs.1.sound.seq_lt
  have hpushed : Numbered n (fun seq number => seq = nextSeq number) (ofSfp { s with
      tx.history := potRingbufferPushBack sfpConfigHistoryCapacity s.tx.history
        ⟨octets, octets.length⟩ }).outer :=
    hs.1.store rfl rfl (hs.1.sound.pushBack ⟨octets, octets.length⟩) fun _ h => h
  have hframe := Numbered.frame_usr serverTransmitCallbacks_write hpushed
    (getFrameType_frameHeader hseq .usr) (getFrameSeq_frameHeader hseq .usr)
    (some ⟨octets, octets.length⟩) hs.2
  exact ⟨hframe.store rfl rfl (hframe.sound.number (and_seqMask_lt _))
    fun _ h => congrArg nextSeq h, rfl⟩

theorem Counted.resendFrom {seq : UInt8} (hseq : seq < 64) (hne : seq ≠ s.tx.seq)
    (hkeeps : s.tx.Keeps seq) (hs : Counted n (ofSfp s).outer) :
    Counted n (ofSfp (sfpTransmitHistoryFromSeq serverCallbacks seq s)).outer := by
  have hwindow := hkeeps hne
  have hsound : s.tx.Sound := hs.1.sound
  obtain ⟨hpopped, hsize⟩ := hsound.popHistory (Nat.le_of_lt hwindow)
  have hstart : Numbered n (Numbered.Resent s.tx.seq seq) (ofSfp { s with
      tx.history := sfpPopHistory (sfpFastforward seq s.tx.seq
        (potRingbufferSize sfpConfigHistoryCapacity s.tx.history)) s.tx.history
      tx.seq := seq }).outer :=
    hs.1.store rfl rfl (hpopped.number hseq) fun _ h => ⟨h, rfl⟩
  obtain ⟨hsent, hempty⟩ := hstart.transmitHistory hs.2
  have hnext : nextSeq^[potRingbufferSize sfpConfigHistoryCapacity (sfpPopHistory
      (sfpFastforward seq s.tx.seq (potRingbufferSize sfpConfigHistoryCapacity s.tx.history))
      s.tx.history)] seq = s.tx.seq := by
    rw [hsize]
    exact nextSeq_iterate_resent hseq hsound.seq_lt hwindow
  unfold sfpTransmitHistoryFromSeq
  dsimp only
  rw [if_pos hwindow]
  exact ⟨hsent.store rfl rfl hsent.sound fun _ h => h.2.trans (hnext.trans h.1), hempty⟩

theorem beyond_counted (n : Nat) :
    Beyond serverWritePacket fun s : Server => Counted n s.outer := by
  refine ⟨?_, fun _ _ _ hs => hs⟩
  rintro _ packet s ⟨⟩ hs
  exact Counted.writePacket (s := toSfp s) packet hs

theorem Counted.read {s : Server} (buf : List UInt8) (len : Nat) (hs : Counted n s.outer) :
    Counted n (serverRead buf len s).outer := by
  unfold serverRead
  dsimp only
  split
  · exact ((beyond_counted n).rpcRecv_keeps _ hs).check.store rfl rfl rfl
  · exact hs.check

theorem sfpTransmitControl_keepsTx (header : UInt8) (hempty : s.tx.writebuf = []) :
    let tx := (sfpTransmitControl serverCallbacks header s).tx
    tx.seq = sfpInitialSeq ∨ tx.seq = s.tx.seq ∧ tx.history = s.tx.history := by
  have hwrite (octets : List UInt8) (c : Sfp Rest)
      (hc : c.tx.seq = sfpInitialSeq ∨ c.tx.seq = s.tx.seq ∧ c.tx.history = s.tx.history) :
      (serverCallbacks.write octets c).tx.seq = sfpInitialSeq ∨
        (serverCallbacks.write octets c).tx.seq = s.tx.seq ∧
          (serverCallbacks.write octets c).tx.history = s.tx.history := by
    change (serverWrite octets (ofSfp c)).outer.sfp.tx.seq = sfpInitialSeq ∨
      (serverWrite octets (ofSfp c)).outer.sfp.tx.seq = s.tx.seq ∧
        (serverWrite octets (ofSfp c)).outer.sfp.tx.history = s.tx.history
    obtain ⟨-, state, heq⟩ | ⟨-, heq⟩ := serverWrite_outer octets (ofSfp c)
    all_goals rw [heq]
    · exact hc
    · exact .inl rfl
  have hconveys : Conveys serverCallbacks header s fun c =>
      c.tx.seq = sfpInitialSeq ∨ c.tx.seq = s.tx.seq ∧ c.tx.history = s.tx.history :=
    ⟨fun _ _ => hwrite _ _ (.inr ⟨rfl, rfl⟩), fun octets c _ hc => hwrite octets c hc,
      fun _ _ _ hc => hc⟩
  exact hconveys.transmitFrame none hempty

theorem Counted.handling (hrenumbers : ¬ s.Renumbers) (hs : Counted n (ofSfp s).outer) :
    Handling serverCallbacks s fun c => Counted n (ofSfp c).outer := by
  have hasked (hintact : s.rx.Intact) : ∀ seq ∈ s.asked, s.tx.Keeps seq := by
    intro seq hseq
    by_contra hlost
    exact hrenumbers ⟨hintact, .inr ⟨seq, hseq, hlost⟩⟩
  have hrx (rx : SFPreceiver) : Counted n (ofSfp { s with rx := rx }).outer := hs.store rfl rfl rfl
  refine ⟨fun _ _ hc => hc.store rfl rfl rfl, fun _ _ hc => hc.store rfl rfl rfl, hrx,
    fun rx header hheader => (hrx rx).control hheader, ?_, ?_, ?_, ?_⟩
  · rintro _ rx ⟨⟩ -
    exact Counted.read rx.packet.buf rx.packet.len (hrx rx)
  · intro hintact rx seq hseq hne
    exact (hrx rx).resendFrom (SFPcontext.asked_lt hseq) hne (hasked hintact seq hseq)
  · exact fun hintact htype hseq => absurd ⟨hintact, .inl ⟨htype, hseq⟩⟩ hrenumbers
  · intro hintact _ hinitial rx hne
    have hsyn2 : Counted n (ofSfp (sfpTransmitSYN2 serverCallbacks { s with rx := rx })).outer :=
      (hrx rx).control (by decide)
    refine hsyn2.resendFrom (by decide) hne ?_
    obtain hreset | ⟨hseq, hhistory⟩ := sfpTransmitControl_keepsTx (s := { s with rx := rx })
      (frameHeader sfpSeqSyn2 .syn) hs.2
    · exact absurd hreset.symm hne
    · have hkept := hasked hintact _ hinitial
      unfold SFPtransmitter.Keeps at hkept ⊢
      rwa [← hseq, ← hhistory] at hkept

end Step

def ServerEvent.Whole : ServerEvent → Prop
  | .whole _ => True
  | .ended .. => False

def Renumbers (s : Server) : ServerEvent → Prop
  | .whole (.octet octet) =>
    octet = sfpFlag ∧ s.outer.sfp.rx.frameState = .receiving ∧ s.outer.sfp.Renumbers
  | _ => False

instance : DecidablePred ServerEvent.Whole
  | .whole _ => inferInstanceAs (Decidable True)
  | .ended .. => inferInstanceAs (Decidable False)

instance (s : Server) : DecidablePred (Renumbers s)
  | .whole (.octet _) => inferInstanceAs (Decidable (_ ∧ _ ∧ _))
  | .whole .start | .whole .wake | .whole .turn | .whole .stop | .whole (.motors _) =>
    inferInstanceAs (Decidable False)
  | .ended .. => inferInstanceAs (Decidable False)

theorem Counted.step {n : Nat} {s : Server} {action : ServerAction}
    (hrenumbers : ¬ Renumbers s (.whole action)) (hs : Counted n s.outer) :
    Counted n (serverStep s action).outer := by
  cases action with
  | start => exact hs
  | wake => exact hs
  | octet octet =>
    by_cases hframe : octet = sfpFlag ∧ s.outer.sfp.rx.frameState = .receiving
    · obtain ⟨rfl, hreceiving⟩ := hframe
      have hhandled := (Counted.handling (s := toSfp s)
        (fun h => hrenumbers ⟨rfl, hreceiving, h⟩) hs).handleFrame
      rw [serverStep, serverDeliverOctet_flag hreceiving]
      exact hhandled.store rfl rfl rfl
    · obtain ⟨rx, heq⟩ := serverDeliverOctet_rx hframe
      rw [serverStep, heq]
      exact hs.store rfl rfl rfl
  | turn =>
    rw [serverStep, serverThreadTurn]
    split
    · exact (beyond_counted n).rpcLoop_keeps hs.check
    · exact hs.check
  | stop => exact ⟨hs.1.reset, rfl⟩
  | motors motors => exact hs

theorem Idle.counted {s : Server} (hs : Idle s) : Counted s.outer.writes.length s.outer := by
  have hnone : usrFrames (s.outer.writes.drop s.outer.writes.length) = [] := by
    rw [List.drop_length]
    rfl
  refine ⟨⟨hs.sound, Nat.le_refl _, ?_, ?_⟩, hs.empty⟩
  · rw [hnone]
    exact .nil
  · rw [hnone]
    exact fun w hw => absurd hw (by simp)

/-- A restart, at any point of a run in which the thread ends between two actions only, finds
nothing in the buffer; and up to the next frame that makes the numbers start over, no number is used
for two packets. -/
theorem restart_numbersAgree (board : Board) (before after : List ServerEvent)
    (hbefore : ∀ event ∈ before, event.Whole)
    (hafter : Lib.Along (fun s event => event.Whole ∧ ¬ Renumbers s event) serverEvent
      (before.foldl serverEvent (serverInit board)) after) :
    (before.foldl serverEvent (serverInit board)).outer.sfp.tx.writebuf = [] ∧
      NumbersAgree (usrFrames (newWrites (before.foldl serverEvent (serverInit board))
        ((before ++ after).foldl serverEvent (serverInit board)))) := by
  have hidle : Idle (before.foldl serverEvent (serverInit board)) := by
    refine List.foldlRecOn before serverEvent (idle_init board) fun s hs event hmem => ?_
    cases event with
    | whole action => exact (Idle.step hs action).idle
    | ended action call sleep => exact (hbefore _ hmem).elim
  rw [List.foldl_append]
  generalize before.foldl serverEvent (serverInit board) = s at hafter hidle ⊢
  have hstep (t : Server) (event : ServerEvent) (ht : Counted s.outer.writes.length t.outer)
      (h : event.Whole ∧ ¬ Renumbers t event) :
      Counted s.outer.writes.length (serverEvent t event).outer := by
    cases event with
    | whole action => exact ht.step h.2
    | ended action call sleep => exact h.1.elim
  have hcounted := Lib.Along.invariant hstep hafter hidle.counted
  exact ⟨hidle.empty, .of_chain hcounted.1.chain⟩

def wholeReads (chunks : List (List UInt8)) : List ServerEvent :=
  (chunks.flatMap iterationActions).map .whole

def connectEvents : List ServerEvent := wholeReads [clientSyn0, clientSyn2]

def clientPing (seq id : UInt8) : List UInt8 := clientMessage seq (.ping ⟨id⟩)

theorem restart_numbersAgree_pings :
    let before := connectEvents ++ wholeReads [clientPing 0 1]
    let after := .whole .start :: wholeReads [clientPing 1 2, clientPing 2 3]
    (before.foldl serverEvent (serverInit .still)).outer.sfp.tx.writebuf = [] ∧
      NumbersAgree (usrFrames (newWrites (before.foldl serverEvent (serverInit .still))
        ((before ++ after).foldl serverEvent (serverInit .still)))) :=
  restart_numbersAgree .still _ _ (by decide +kernel) (by decide +kernel)

/-- The thread ends while the answer to a ping goes out, and starts again. -/
def endedInAnswer : List ServerEvent :=
  ((clientPing 0 1).dropLast.map fun octet => .whole (.octet octet)) ++
    [.ended (.octet sfpFlag) 0 1, .whole .start] ++ wholeReads [clientPing 1 2]

/-- The thread starts again between two pings, and a NAK asks for a packet that was never sent. -/
def askedBeyond : List ServerEvent :=
  wholeReads [clientPing 0 1] ++ [.whole .start] ++
    wholeReads [wireFrame (frameHeader 63 .nak) [], clientPing 1 2]

/-- Either way two answers carry one number; and after the first end the answer that it cut short is
sent once more. -/
theorem not_numbersAgree_pings :
    let s := connectEvents.foldl serverEvent (serverInit .still)
    ¬ NumbersAgree (usrFrames (newWrites s (endedInAnswer.foldl serverEvent s))) ∧
      ¬ NumbersAgree (usrFrames (newWrites s (askedBeyond.foldl serverEvent s))) ∧
      (newWrites s (endedInAnswer.foldl serverEvent s)).map Written.octets =
        [wireFrame 0 [2, 1], wireFrame 0 [2, 1] ++ wireFrame 0 [2, 2]] := by
  intro s
  have hended : (usrFrames (newWrites s (endedInAnswer.foldl serverEvent s))).map
      (fun w => (w.resets, w.number, w.packet)) = [(1, 0, [2, 1]), (1, 0, [2, 2])] := by
    decide +kernel
  have hasked : (usrFrames (newWrites s (askedBeyond.foldl serverEvent s))).map
      (fun w => (w.resets, w.number, w.packet)) = [(1, 0, [2, 1]), (1, 0, [2, 2])] := by
    decide +kernel
  exact ⟨not_numbersAgree_pair hended (by decide), not_numbersAgree_pair hasked (by decide),
    by decide +kernel⟩

end TurningPoint
