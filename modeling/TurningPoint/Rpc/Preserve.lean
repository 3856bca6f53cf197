import TurningPoint.Rpc.Receive

/-! What the functions of `rpc.c` keep.  A predicate that survives `writePacket` and the stores on
the way to it survives every sending, and every function whose own stores it survives too. -/

universe u

namespace TurningPoint

variable {ρ : Type u} {wp : WritePacket ρ} {P : Host ρ → Prop} {h : Host ρ}

structure Sends (wp : WritePacket ρ) (P : Host ρ → Prop) : Prop where
  write : ∀ writePacket packet h, wp = some writePacket → P h → P (writePacket packet h)
  clock : ∀ h, P h → P (chTimeNow h).2
  outBuf : ∀ buf h, P h → P { h with rpc.outBuf := buf }

namespace Sends

theorem rpcSend_keeps (hP : Sends wp P) (message : MessageAny) (hh : P h) :
    P (rpcSend wp message h) := by
  unfold rpcSend
  cases hwp : wp with
  | none => exact hh
  | some writePacket =>
    dsimp only
    split
    · exact hP.write _ _ _ hwp (hP.outBuf _ _ hh)
    · exact hP.outBuf _ _ hh

theorem rpcSendData_keeps (hP : Sends wp P) (reqId : UInt16) (topic subtopic flag : UInt8)
    (value : List UInt8) (hh : P h) : P (rpcSendData wp reqId topic subtopic flag value h) :=
  hP.rpcSend_keeps _ (hP.clock _ hh)

theorem rpcSendPub_keeps (hP : Sends wp P) (sub : RpcSubscription) (value : List UInt8) (hh : P h) :
    P (rpcSendPub wp sub value h) :=
  hP.rpcSendData_keeps _ _ _ _ _ hh

theorem rpcSendPubError_keeps (hP : Sends wp P) (sub : RpcSubscription) (error : UInt8) (hh : P h) :
    P (rpcSendPubError wp sub error h) :=
  hP.rpcSendData_keeps _ _ _ _ _ hh

theorem rpcSendRep_keeps (hP : Sends wp P) (read : MessageRead) (value : List UInt8) (hh : P h) :
    P (rpcSendRep wp read value h) :=
  hP.rpcSendData_keeps _ _ _ _ _ hh

theorem rpcSendRepError_keeps (hP : Sends wp P) (reqId : UInt16) (topic subtopic error : UInt8)
    (hh : P h) : P (rpcSendRepError wp reqId topic subtopic error h) :=
  hP.rpcSendData_keeps _ _ _ _ _ hh

end Sends

structure Flashes (P : Host ρ → Prop) : Prop where
  data : ∀ data nullAccess h, P h →
    P { h with board.flash.data := data, board.nullAccess := nullAccess }
  write : ∀ fp h, P h → P (writeFlash fp h)

theorem Flashes.of_any (hflash : ∀ flash nullAccess h, P h →
    P { h with board.flash := flash, board.nullAccess := nullAccess }) : Flashes P :=
  ⟨fun data nullAccess h => hflash { h.board.flash with data := data } nullAccess h,
    fun _ h => hflash _ h.board.nullAccess h⟩

namespace Flashes

variable (hP : Flashes P)
include hP

theorem loadData_keeps (fp : UserParam) (i : Nat) (hh : P h) : P (loadData fp i h).2 := by
  cases fp with
  | null => exact hP.data h.board.flash.data true h hh
  | params => exact hh

theorem storeData_keeps (fp : UserParam) (i : Nat) (octet : UInt8) (hh : P h) :
    P (storeData fp i octet h) := by
  cases fp with
  | null => exact hP.data h.board.flash.data true h hh
  | params => exact hP.data _ h.board.nullAccess h hh

theorem readFlash_keeps (hh : P h) : P (readFlash h).2 :=
  hP.data _ h.board.nullAccess h hh

theorem cassetteOpenWrite_keeps (index : UInt8) (hh : P h) :
    P (cassetteOpenWrite index h).2 := by
  unfold cassetteOpenWrite
  split
  · exact hh
  · exact hP.storeData_keeps (readFlash h).1 0 0 (hP.readFlash_keeps hh)

theorem cassetteOpenRead_keeps (index : UInt8) (hh : P h) : P (cassetteOpenRead index h).2 := by
  unfold cassetteOpenRead
  have hload := hP.loadData_keeps (readFlash h).1 0 (hP.readFlash_keeps hh)
  dsimp only
  split_ifs
  · exact hh
  · exact hload
  · exact hload

end Flashes

namespace Sends

theorem rpcRecvReadPubsub_keeps (hP : Sends wp P) (read : MessageRead) (hh : P h) :
    P (rpcRecvReadPubsub wp read h) := by
  unfold rpcRecvReadPubsub
  dsimp only
  split_ifs
  · exact hP.rpcSendRep_keeps _ _ hh
  · exact hP.rpcSendRep_keeps _ _ hh
  · exact hP.rpcSendRep_keeps _ _ hh
  · exact hP.rpcSendRep_keeps _ _ hh
  · exact hP.rpcSendRep_keeps _ _ hh
  · exact hP.rpcSendRep_keeps _ _ hh
  · have hlist := hP.rpcSendData_keeps read.reqId read.topic messagesTopicPubsubSubtopicList 0
      (listSubs h.rpc) hh
    exact hP.rpcSendData_keeps _ _ _ _ _ (hP.rpcSendData_keeps _ _ _ _ _
      (hP.rpcSendData_keeps _ _ _ _ _ (hP.rpcSendData_keeps _ _ _ _ _ hlist)))
  · exact hP.rpcSendRepError_keeps _ _ _ _ hh

theorem rpcRecvReadClock_keeps (hP : Sends wp P) (read : MessageRead) (hh : P h) :
    P (rpcRecvReadClock wp read h) := by
  unfold rpcRecvReadClock
  split
  · exact hP.rpcSendRep_keeps _ _ (hP.clock _ hh)
  · exact hP.rpcSendRepError_keeps _ _ _ _ hh

theorem rpcRecvReadMotor_keeps (hP : Sends wp P)
    (hmotor : ∀ motor h, P h → P { h with rpc.motor := motor }) (read : MessageRead) (hh : P h) :
    P (rpcRecvReadMotor wp read h) := by
  unfold rpcRecvReadMotor
  split_ifs
  · exact hP.rpcSendRep_keeps _ _ (hmotor _ _ hh)
  · exact hP.rpcSendRep_keeps _ _ (hmotor _ _ hh)
  · exact hP.rpcSendRepError_keeps _ _ _ _ hh

theorem rpcRecvReadCassette_keeps (hP : Sends wp P) (hflash : Flashes P) (read : MessageRead)
    (hh : P h) : P (rpcRecvReadCassette wp read h) := by
  have hopen := hflash.cassetteOpenRead_keeps read.subtopic hh
  have hload := hflash.loadData_keeps (cassetteOpenRead read.subtopic h).1 0 hopen
  have hcount := hflash.cassetteOpenRead_keeps 0 hh
  have hpeek : P (if h.rpc.fp ≠ .null then loadData .null 0 h else (0, h)).2 := by
    split
    · exact hflash.loadData_keeps .null 0 hh
    · exact hh
  unfold rpcRecvReadCassette
  dsimp only
  split
  · split
    · exact hP.rpcSendRep_keeps _ _ (hflash.write _ _ hh)
    · split
      · exact hP.rpcSendRep_keeps _ _ hopen
      · split
        · exact hP.rpcSendRep_keeps _ _ (hP.rpcSendData_keeps _ _ _ _ _ hload)
        · exact hP.rpcSendRep_keeps _ _ hload
  split
  · exact hP.rpcSendRep_keeps _ _ hpeek
  split
  · exact hP.rpcSendRep_keeps _ _ hcount
  split
  · exact hP.rpcSendRep_keeps _ _ hcount
  split
  · exact hP.rpcSendRep_keeps _ _ hh
  · exact hP.rpcSendRepError_keeps _ _ _ _ hh

end Sends

/-- `P` survives what publication stores in the cache and in the slots, where a slot is at most
emptied or given another topic. -/
structure Publishes (wp : WritePacket ρ) (P : Host ρ → Prop) : Prop extends Sends wp P where
  motor : ∀ motor h, P h → P { h with rpc.motor := motor }
  sub : ∀ i sub h, (sub.active → (h.rpc.subs i).active ∧ sub.reqId = (h.rpc.subs i).reqId) → P h →
    P (setSub i sub h)
  timers : ∀ published sendstats h, P h →
    P { h with rpc.published := published, rpc.sendstats := sendstats }

namespace Publishes

variable (hP : Publishes wp P)
include hP

theorem rpcSubReset_keeps (i : Fin rpcSubMax) (hh : P h) : P (rpcSubReset i h) :=
  hP.sub i .empty h (fun hactive => by cases hactive) hh

theorem retopic_keeps (i : Fin rpcSubMax) (topic subtopic : UInt8) (hh : P h) :
    P (setSub i { h.rpc.subs i with topic := topic, subtopic := subtopic } h) :=
  hP.sub i _ h (fun hactive => ⟨hactive, rfl⟩) hh

theorem rpcPublishClock_keeps (i : Fin rpcSubMax) (hh : P h) : P (rpcPublishClock wp i h) := by
  unfold rpcPublishClock
  dsimp only
  split
  · exact hP.rpcSendPub_keeps _ _ (hP.clock _ hh)
  · exact hP.rpcSubReset_keeps i (hP.rpcSendPubError_keeps _ _ hh)

theorem rpcPublishMotor_keeps (i : Fin rpcSubMax) (hh : P h) : P (rpcPublishMotor wp i h) := by
  unfold rpcPublishMotor
  dsimp only
  split
  · split
    · exact hh
    · exact hP.rpcSendPub_keeps _ _ (hP.motor _ _ hh)
  · split
    · split
      · exact hP.rpcSendPub_keeps _ _ (hP.motor _ _ hh)
      · exact hP.motor _ _ hh
    · exact hP.rpcSubReset_keeps i (hP.rpcSendPubError_keeps _ _ hh)

theorem rpcPublishAll_keeps (i : Fin rpcSubMax) (hh : P h) : P (rpcPublishAll wp i h) := by
  unfold rpcPublishAll
  dsimp only
  split
  · exact hP.retopic_keeps i _ _ (hP.rpcPublishMotor_keeps i (hP.retopic_keeps i _ _
      (hP.rpcPublishClock_keeps i (hP.retopic_keeps i _ _ hh))))
  · exact hP.rpcSubReset_keeps i (hP.rpcSendPubError_keeps _ _ hh)

theorem rpcPublish_keeps (i : Fin rpcSubMax) (hh : P h) : P (rpcPublish wp i h) := by
  unfold rpcPublish
  dsimp only
  split
  · exact hh
  split
  · exact hP.rpcPublishClock_keeps i hh
  split
  · exact hP.rpcPublishMotor_keeps i hh
  split
  · exact hP.rpcPublishAll_keeps i hh
  · exact hP.rpcSubReset_keeps i (hP.rpcSendPubError_keeps _ _ hh)

theorem rpcPublishRound_keeps (hh : P h) : P (rpcPublishRound wp h) := by
  refine List.foldlRecOn _ _ hh fun h hh i _ => ?_
  split
  · exact hP.rpcPublish_keeps i hh
  · exact hh

theorem rpcLoopPublish_keeps (hh : P h) : P (rpcLoopPublish wp h) := by
  unfold rpcLoopPublish
  dsimp only [chTimeElapsedSince]
  split
  · exact hP.timers _ _ _ (hP.clock _ (hP.rpcPublishRound_keeps (hP.clock _ hh)))
  · exact hP.clock _ hh

theorem rpcSendStats_keeps (hh : P h) : P (rpcSendStats wp h) := by
  unfold rpcSendStats
  exact hP.rpcSend_keeps _ (hP.clock _ hh)

theorem rpcLoopStats_keeps (hh : P h) : P (rpcLoopStats wp h) := by
  unfold rpcLoopStats
  dsimp only [chTimeElapsedSince]
  split
  · exact hP.timers _ _ _ (hP.clock _ (hP.rpcSendStats_keeps (hP.clock _ hh)))
  · exact hP.clock _ hh

theorem rpcLoop_keeps (hh : P h) : P (rpcLoop wp h) :=
  hP.rpcLoopStats_keeps (hP.rpcLoopPublish_keeps hh)

end Publishes

theorem rpcRecvInfo_keeps (hipv4 : ∀ ipv4 h, P h → P { h with rpc.ipv4 := ipv4 })
    (info : MessageInfo) (hh : P h) : P (rpcRecvInfo info h) := by
  unfold rpcRecvInfo rpcRecvInfoNetwork
  split_ifs
  · exact hh
  · exact hipv4 _ _ hh
  · exact hh
  · exact hh

section Motors

variable (hmotors : ∀ motors h, P h → P { h with board.motors := motors })
include hmotors

theorem writeMotors_keeps (value : List UInt8) (n : Nat) (hh : P h) : P (writeMotors value n h) := by
  induction n generalizing value h with
  | zero => exact hh
  | succ n ih =>
    rw [writeMotors]
    refine ih _ ?_
    split
    · exact hmotors _ _ hh
    · exact hh

theorem rpcRecvWriteMotor_keeps (write : MessageWrite) (hh : P h) :
    P (rpcRecvWriteMotor write h) := by
  unfold rpcRecvWriteMotor
  split_ifs
  · exact hh
  · exact writeMotors_keeps hmotors _ _ hh
  · exact hh
  · exact hmotors _ _ hh
  · exact hh

end Motors

theorem Flashes.rpcRecvWriteCassette_keeps (hP : Flashes P)
    (hcassette : ∀ cassette fp h, P h → P { h with rpc.cassette := cassette, rpc.fp := fp })
    (write : MessageWrite) (hh : P h) : P (rpcRecvWriteCassette write h) := by
  unfold rpcRecvWriteCassette
  dsimp only
  split_ifs
  all_goals try exact hh
  · exact hcassette _ _ _ (hP.cassetteOpenWrite_keeps _ (hcassette _ _ _ hh))
  · exact hcassette _ _ _ (hP.cassetteOpenWrite_keeps _ (hcassette _ _ _ hh))
  · exact hcassette _ _ _ (hP.write _ _ (hcassette _ _ _ hh))
  · exact hcassette _ _ _ (hP.loadData_keeps _ _ hh)
  · exact hP.write _ _ (hP.storeData_keeps _ _ _
      (hP.storeData_keeps _ _ _ (hP.loadData_keeps _ _ hh)))

structure Replies (wp : WritePacket ρ) (P : Host ρ → Prop) : Prop extends Sends wp P where
  seqId : ∀ seqId h, P h → P { h with rpc.seqId := seqId }
  ipv4 : ∀ ipv4 h, P h → P { h with rpc.ipv4 := ipv4 }
  motors : ∀ motors h, P h → P { h with board.motors := motors }
  heartbeat : ∀ h, P h → P { (chTimeNow h).2 with rpc.heartbeat := (chTimeNow h).1 }

namespace Replies

variable (hP : Replies wp P)
include hP

theorem rpcRecvPing_keeps (ping : MessagePing) (hh : P h) : P (rpcRecvPing wp ping h) :=
  hP.rpcSend_keeps _ (hP.seqId _ _ hh)

end Replies

structure Records (wp : WritePacket ρ) (P : Host ρ → Prop) : Prop extends Sends wp P where
  cassette : ∀ cassette fp h, P h → P { h with rpc.cassette := cassette, rpc.fp := fp }
  flash : Flashes P

theorem Records.rpcRecvWriteCassette_keeps (hP : Records wp P) (write : MessageWrite) (hh : P h) :
    P (rpcRecvWriteCassette write h) :=
  hP.flash.rpcRecvWriteCassette_keeps hP.cassette write hh

theorem Sends.rpcRecvSubscribe_keeps (hP : Sends wp P)
    (hset : ∀ i sub h, P h → P (setSub i sub h)) (subscribe : MessageSubscribe) (hh : P h) :
    P (rpcRecvSubscribe wp subscribe h) := by
  unfold rpcRecvSubscribe
  dsimp only
  split
  · have hsent := hP.rpcSendPubError_keeps
      ⟨true, subscribe.reqId, subscribe.topic, subscribe.subtopic⟩ messagesErrorBadReqId hh
    split
    · exact hP.rpcSendPubError_keeps _ _ hsent
    split
    · exact hset _ _ _ hsent
    · exact hsent
  · split
    · exact hP.rpcSendPubError_keeps _ _ hh
    split
    · exact hset _ _ _ hh
    · exact hh

theorem Sends.rpcRecvUnsubscribe_keeps (hP : Sends wp P)
    (hreset : ∀ i h, P h → P (rpcSubReset i h)) (unsubscribe : MessageUnsubscribe) (hh : P h) :
    P (rpcRecvUnsubscribe wp unsubscribe h) := by
  unfold rpcRecvUnsubscribe
  dsimp only
  split
  · exact hP.rpcSendData_keeps _ _ _ _ _ (hP.rpcSendPubError_keeps _ _ hh)
  · exact hreset _ _ (hP.rpcSendData_keeps _ _ _ _ _ hh)

/-- The dispatch of `rpcRecv`: what is left to show is that `P` survives the handlers that store in
the cache, the cassette and the subscriptions. -/
theorem Replies.rpcRecv_keeps (hP : Replies wp P) {message : MessageAny} (hh : P h)
    (hmotor : ∀ read, message = .read read → read.topic = messagesTopicMotor →
      P (rpcRecvReadMotor wp read h))
    (hread : ∀ read, message = .read read → read.topic = messagesTopicCassette →
      P (rpcRecvReadCassette wp read h))
    (hwrite : ∀ write, message = .write write → write.topic = messagesTopicCassette →
      P (rpcRecvWriteCassette write h))
    (hsubscribe : ∀ m, message = .subscribe m → P (rpcRecvSubscribe wp m h))
    (hunsubscribe : ∀ m, message = .unsubscribe m → P (rpcRecvUnsubscribe wp m h)) :
    P (rpcRecv wp message h) := by
  cases message with
  | message => exact hh
  | pong | data => exact hP.heartbeat _ hh
  | ping ping => exact hP.heartbeat _ (hP.rpcRecvPing_keeps ping hh)
  | info info => exact hP.heartbeat _ (rpcRecvInfo_keeps hP.ipv4 info hh)
  | subscribe m => exact hP.heartbeat _ (hsubscribe m rfl)
  | unsubscribe m => exact hP.heartbeat _ (hunsubscribe m rfl)
  | read read =>
    refine hP.heartbeat _ ?_
    unfold rpcRecvRead
    split_ifs with hpubsub hclock hmotors hcassette
    · exact hP.rpcRecvReadPubsub_keeps read hh
    · exact hP.rpcRecvReadClock_keeps read hh
    · exact hmotor read rfl hmotors
    · exact hread read rfl hcassette
    · exact hP.rpcSendRepError_keeps _ _ _ _ hh
  | write write =>
    refine hP.heartbeat _ ?_
    unfold rpcRecvWrite
    split_ifs with hmotors hcassette
    · exact rpcRecvWriteMotor_keeps hP.motors write hh
    · exact hwrite write rfl hcassette
    · exact hP.rpcSendRepError_keeps _ _ _ _ hh

structure Beyond (wp : WritePacket ρ) (P : Host ρ → Prop) : Prop where
  write : ∀ writePacket packet h, wp = some writePacket → P h → P (writePacket packet h)
  beyond : ∀ rpc board h, P h → P { h with rpc := rpc, board := board }

namespace Beyond

variable (hP : Beyond wp P)
include hP

theorem sends : Sends wp P :=
  ⟨hP.write, fun _ hh => hP.beyond _ _ _ hh, fun _ _ hh => hP.beyond _ _ _ hh⟩

theorem rpcRecv_keeps (message : MessageAny) (hh : P h) : P (rpcRecv wp message h) := by
  have hreplies : Replies wp P :=
    ⟨hP.sends, fun _ _ hh => hP.beyond _ _ _ hh, fun _ _ hh => hP.beyond _ _ _ hh,
      fun _ _ hh => hP.beyond _ _ _ hh, fun h hh => hP.beyond _ _ h hh⟩
  have hrecords : Records wp P :=
    ⟨hP.sends, fun _ _ _ hh => hP.beyond _ _ _ hh, .of_any fun _ _ _ hh => hP.beyond _ _ _ hh⟩
  refine hreplies.rpcRecv_keeps hh ?_ ?_ ?_ ?_ ?_
  · exact fun read _ _ => hreplies.rpcRecvReadMotor_keeps (fun _ _ hh => hP.beyond _ _ _ hh) read hh
  · exact fun read _ _ => hrecords.rpcRecvReadCassette_keeps hrecords.flash read hh
  · exact fun write _ _ => hrecords.rpcRecvWriteCassette_keeps write hh
  · exact fun m _ => hP.sends.rpcRecvSubscribe_keeps (fun _ _ _ hh => hP.beyond _ _ _ hh) m hh
  · exact fun m _ => hP.sends.rpcRecvUnsubscribe_keeps (fun _ _ hh => hP.beyond _ _ _ hh) m hh

theorem rpcLoop_keeps (hh : P h) : P (rpcLoop wp h) := by
  have hpublishes : Publishes wp P :=
    ⟨hP.sends, fun _ _ hh => hP.beyond _ _ _ hh, fun _ _ _ _ hh => hP.beyond _ _ _ hh,
      fun _ _ _ hh => hP.beyond _ _ _ hh⟩
  exact hpublishes.rpcLoop_keeps hh

end Beyond

end TurningPoint
