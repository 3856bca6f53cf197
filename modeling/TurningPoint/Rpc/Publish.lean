import TurningPoint.Rpc.Host

/-! `rpcLoop`: publication to the subscribers and the statistics frame.  A pointer into `rpc->subs`
is the index of the slot. -/

universe u

namespace TurningPoint

variable {ρ : Type u} (wp : WritePacket ρ)

/-- The return value, which every caller discards, is left out. -/
def rpcSend (message : MessageAny) (h : Host ρ) : Host ρ :=
  match wp with
  | none => h
  | some writePacket =>
    let (retval, buf, outlen) := messageSerialize message h.rpc.outBuf sfpConfigMaxPacketSize
    let h := { h with rpc.outBuf := buf }
    if retval = 0 then writePacket (buf.take (outlen.getD 0)) h else h

def rpcSendData (reqId : UInt16) (topic subtopic flag : UInt8) (value : List UInt8) (h : Host ρ) :
    Host ρ :=
  let (elapsed, h) := chTimeElapsedSince h.rpc.timestamp h
  rpcSend wp (.data ⟨reqId, topic, subtopic, flag, elapsed, UInt8.ofNat value.length, value⟩) h

def rpcSendPub (sub : RpcSubscription) (value : List UInt8) : Host ρ → Host ρ :=
  rpcSendData wp sub.reqId sub.topic sub.subtopic messagesDataFlagPub value

def rpcSendPubError (sub : RpcSubscription) (error : UInt8) : Host ρ → Host ρ :=
  rpcSendData wp sub.reqId sub.topic sub.subtopic
    (messagesDataFlagPub ||| messagesDataFlagError ||| messagesDataFlagEnd) [error]

def rpcSendRep (read : MessageRead) (value : List UInt8) : Host ρ → Host ρ :=
  rpcSendData wp read.reqId read.topic read.subtopic messagesDataFlagEnd value

def rpcSendRepError (reqId : UInt16) (topic subtopic error : UInt8) : Host ρ → Host ρ :=
  rpcSendData wp reqId topic subtopic (messagesDataFlagError ||| messagesDataFlagEnd) [error]

def RpcSubscription.empty : RpcSubscription := ⟨false, 0, 0, 0⟩

def setSub (i : Fin rpcSubMax) (sub : RpcSubscription) (h : Host ρ) : Host ρ :=
  { h with rpc.subs := Function.update h.rpc.subs i sub }

def rpcSubReset (i : Fin rpcSubMax) : Host ρ → Host ρ := setSub i .empty

def rpcPublishClock (i : Fin rpcSubMax) (h : Host ρ) : Host ρ :=
  let sub := h.rpc.subs i
  if sub.subtopic = messagesTopicClockSubtopicNow then
    let (now, h) := chTimeNow h
    rpcSendPub wp sub (memory64 (htonll now.toUInt64)) h
  else rpcSubReset i (rpcSendPubError wp sub messagesErrorBadSubtopic h)

def collectMotor (motors : Fin kVexMotorNum → Int8) (always : Bool)
    (acc : List UInt8 × (Fin kVexMotorNum → Int8)) (i : Fin kVexMotorNum) :
    List UInt8 × (Fin kVexMotorNum → Int8) :=
  let value := motors i
  if value = acc.2 i ∧ always = false then acc
  else (acc.1 ++ [UInt8.ofNat i, value.toUInt8], Function.update acc.2 i value)

def collectMotors (motors cache : Fin kVexMotorNum → Int8) (always : Bool) :
    List UInt8 × (Fin kVexMotorNum → Int8) :=
  (List.finRange kVexMotorNum).foldl (collectMotor motors always) ([], cache)

def rpcPublishMotor (i : Fin rpcSubMax) (h : Host ρ) : Host ρ :=
  let sub := h.rpc.subs i
  if hindex : sub.subtopic.toNat < kVexMotorNum then
    let index : Fin kVexMotorNum := ⟨sub.subtopic.toNat, hindex⟩
    let value := vexMotorGet index h
    if value = h.rpc.motor index then h
    else
      rpcSendPub wp sub [value.toUInt8]
        { h with rpc.motor := Function.update h.rpc.motor index value }
  else if sub.subtopic = messagesTopicMotorSubtopicAll then
    let (tmp, motor) := collectMotors h.board.motors h.rpc.motor false
    let h := { h with rpc.motor := motor }
    if tmp.length > 0 then rpcSendPub wp sub tmp h else h
  else rpcSubReset i (rpcSendPubError wp sub messagesErrorBadSubtopic h)

def rpcPublishAll (i : Fin rpcSubMax) (h : Host ρ) : Host ρ :=
  let sub := h.rpc.subs i
  if sub.subtopic = messagesTopicAllSubtopicAll then
    let retopic (topic subtopic : UInt8) (h : Host ρ) : Host ρ :=
      setSub i { h.rpc.subs i with topic := topic, subtopic := subtopic } h
    let h := retopic messagesTopicClock messagesTopicClockSubtopicNow h
    let h := rpcPublishClock wp i h
    let h := retopic messagesTopicMotor messagesTopicMotorSubtopicAll h
    let h := rpcPublishMotor wp i h
    retopic sub.topic sub.subtopic h
  else rpcSubReset i (rpcSendPubError wp sub messagesErrorBadSubtopic h)

def rpcPublish (i : Fin rpcSubMax) (h : Host ρ) : Host ρ :=
  let sub := h.rpc.subs i
  if sub.active = false then h
  else if sub.topic = messagesTopicClock then rpcPublishClock wp i h
  else if sub.topic = messagesTopicMotor then rpcPublishMotor wp i h
  else if sub.topic = messagesTopicAll then rpcPublishAll wp i h
  else rpcSubReset i (rpcSendPubError wp sub messagesErrorBadTopic h)

def rpcPublishRound (h : Host ρ) : Host ρ :=
  (List.finRange rpcSubMax).foldl
    (fun h i => if (h.rpc.subs i).active then rpcPublish wp i h else h) h

def rpcLoopPublish (h : Host ρ) : Host ρ :=
  let (elapsed, h) := chTimeElapsedSince h.rpc.published h
  if elapsed ≥ rpcPubTimeout then
    let h := rpcPublishRound wp h
    let (now, h) := chTimeNow h
    { h with rpc.published := now }
  else h

def rpcSendStats (h : Host ρ) : Host ρ :=
  let (now, h) := chTimeNow h
  let tmp := memory32 (htonl now) ++ memory16 (htons h.board.mainBattery) ++
    memory16 (htons h.board.backupBattery)
  rpcSend wp (.info ⟨messagesTopicRobot, messagesTopicRobotSubtopicSpi, UInt8.ofNat tmp.length, tmp⟩) h

def rpcLoopStats (h : Host ρ) : Host ρ :=
  let (elapsed, h) := chTimeElapsedSince h.rpc.sendstats h
  if elapsed ≥ rpcInfoTimeout then
    let h := rpcSendStats wp h
    let (now, h) := chTimeNow h
    { h with rpc.sendstats := now }
  else h

def rpcLoop (h : Host ρ) : Host ρ := rpcLoopStats wp (rpcLoopPublish wp h)

end TurningPoint
