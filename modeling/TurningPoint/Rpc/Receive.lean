import TurningPoint.Rpc.Publish

universe u

namespace TurningPoint

variable {ρ : Type u} (wp : WritePacket ρ)

/-- The loop of `rpcSubFind` over the slots that remain; `subp` says whether the pointer to return
the slot through is not NULL. -/
def rpcSubFindLoop (rpc : Rpc) (reqId : UInt16) (subp : Bool) :
    List (Fin rpcSubMax) → Nat × Option (Fin rpcSubMax)
  | [] => (0, none)
  | i :: rest =>
    if (rpc.subs i).active ∧ (rpc.subs i).reqId = reqId then
      if subp then (1, some i) else rpcSubFindLoop rpc reqId subp rest
    else rpcSubFindLoop rpc reqId subp rest

def rpcSubFind (rpc : Rpc) (reqId : UInt16) (subp : Bool) : Nat × Option (Fin rpcSubMax) :=
  rpcSubFindLoop rpc reqId subp (List.finRange rpcSubMax)

def rpcSubFree (rpc : Rpc) : Nat × Option (Fin rpcSubMax) :=
  let free := (List.finRange rpcSubMax).filter fun i => !(rpc.subs i).active
  (free.length, free.head?)

def rpcRecvPing (ping : MessagePing) (h : Host ρ) : Host ρ :=
  rpcSend wp (.pong ⟨ping.seqId⟩) { h with rpc.seqId := ping.seqId }

def rpcRecvInfoNetwork (info : MessageInfo) (h : Host ρ) : Host ρ :=
  if info.subtopic = messagesTopicNetworkSubtopicIpv4 then
    if info.len ≠ 4 then h else { h with rpc.ipv4 := octetsFrom info.value 4 }
  else h

def rpcRecvInfo (info : MessageInfo) (h : Host ρ) : Host ρ :=
  if info.topic = messagesTopicNetwork then rpcRecvInfoNetwork info h else h

def listSub (rpc : Rpc) (i : Fin rpcSubMax) : List UInt8 :=
  let sub := rpc.subs i
  if sub.active then UInt8.ofNat i :: memory16 (htons sub.reqId) ++ [sub.topic, sub.subtopic] else []

def listSubs (rpc : Rpc) : List UInt8 := (List.finRange rpcSubMax).flatMap (listSub rpc)

def rpcRecvReadPubsub (read : MessageRead) (h : Host ρ) : Host ρ :=
  if hi : read.subtopic.toNat < rpcSubMax then
    let sub := h.rpc.subs ⟨read.subtopic.toNat, hi⟩
    if sub.active = false then rpcSendRep wp read [] h
    else rpcSendRep wp read (memory16 (htons sub.reqId) ++ [sub.topic, sub.subtopic]) h
  else if read.subtopic = messagesTopicPubsubSubtopicCount then
    rpcSendRep wp read [UInt8.ofNat rpcSubMax - UInt8.ofNat (rpcSubFree h.rpc).1] h
  else if read.subtopic = messagesTopicPubsubSubtopicFree then
    rpcSendRep wp read [UInt8.ofNat (rpcSubFree h.rpc).1] h
  else if read.subtopic = messagesTopicPubsubSubtopicMax then
    rpcSendRep wp read [UInt8.ofNat rpcSubMax] h
  else if read.subtopic = messagesTopicPubsubSubtopicList then
    rpcSendRep wp read (listSubs h.rpc) h
  else if read.subtopic = messagesTopicPubsubSubtopicAll then
    let send (subtopic flag : UInt8) (value : List UInt8) : Host ρ → Host ρ :=
      rpcSendData wp read.reqId read.topic subtopic flag value
    let h := send messagesTopicPubsubSubtopicList 0 (listSubs h.rpc) h
    let h := send messagesTopicPubsubSubtopicCount 0
      [UInt8.ofNat rpcSubMax - UInt8.ofNat (rpcSubFree h.rpc).1] h
    let h := send messagesTopicPubsubSubtopicFree 0 [UInt8.ofNat (rpcSubFree h.rpc).1] h
    let h := send messagesTopicPubsubSubtopicMax 0 [UInt8.ofNat rpcSubMax] h
    send read.subtopic messagesDataFlagEnd [] h
  else rpcSendRepError wp read.reqId read.topic read.subtopic messagesErrorBadSubtopic h

def rpcRecvReadClock (read : MessageRead) (h : Host ρ) : Host ρ :=
  if read.subtopic = messagesTopicClockSubtopicNow then
    let (now, h) := chTimeNow h
    rpcSendRep wp read (memory64 (htonll now.toUInt64)) h
  else rpcSendRepError wp read.reqId read.topic read.subtopic messagesErrorBadSubtopic h

def rpcRecvReadMotor (read : MessageRead) (h : Host ρ) : Host ρ :=
  if hindex : read.subtopic.toNat < kVexMotorNum then
    let index : Fin kVexMotorNum := ⟨read.subtopic.toNat, hindex⟩
    let value := vexMotorGet index h
    let h := { h with rpc.motor := Function.update h.rpc.motor index value }
    rpcSendRep wp read [value.toUInt8] h
  else if read.subtopic = messagesTopicMotorSubtopicAll then
    let (tmp, motor) := collectMotors h.board.motors h.rpc.motor true
    rpcSendRep wp read tmp { h with rpc.motor := motor }
  else rpcSendRepError wp read.reqId read.topic read.subtopic messagesErrorBadSubtopic h

def rpcRecvReadCassette (read : MessageRead) (h : Host ρ) : Host ρ :=
  if read.subtopic < cassetteMax then
    if h.rpc.fp ≠ .null then rpcSendRep wp read [] (writeFlash h.rpc.fp h)
    else
      let (fp, h) := cassetteOpenRead read.subtopic h
      if fp = .null then rpcSendRep wp read [] h
      else
        let (n, h) := loadData fp 0 h
        if 0 < n ∧ n < 32 then
          let h := rpcSendData wp read.reqId read.topic read.subtopic 0
            (octetsFrom (h.board.flash.data.1.drop 1) n.toNat) h
          rpcSendRep wp read (memory32 (htonl n.toUInt32)) h
        else rpcSendRep wp read (memory32 (htonl 0)) h
  else if read.subtopic = messagesTopicCassetteSubtopicOpen then
    -- The local `fp` is NULL here: only the branch above ever sets it.
    let (rlen, h) := if h.rpc.fp ≠ .null then loadData .null 0 h else (0, h)
    let rlen := if rlen > 31 then 0 else rlen
    rpcSendRep wp read (h.rpc.cassette :: memory32 (htonl rlen.toUInt32)) h
  else if read.subtopic = messagesTopicCassetteSubtopicCount then
    let (count, h) := cassetteCount h
    rpcSendRep wp read [count] h
  else if read.subtopic = messagesTopicCassetteSubtopicFree then
    let (free, h) := cassetteFree h
    rpcSendRep wp read [free] h
  else if read.subtopic = messagesTopicCassetteSubtopicMax then rpcSendRep wp read [cassetteMax] h
  else rpcSendRepError wp read.reqId read.topic read.subtopic messagesErrorBadSubtopic h

def rpcRecvRead (read : MessageRead) (h : Host ρ) : Host ρ :=
  if read.topic = messagesTopicPubsub then rpcRecvReadPubsub wp read h
  else if read.topic = messagesTopicClock then rpcRecvReadClock wp read h
  else if read.topic = messagesTopicMotor then rpcRecvReadMotor wp read h
  else if read.topic = messagesTopicCassette then rpcRecvReadCassette wp read h
  else rpcSendRepError wp read.reqId read.topic read.subtopic messagesErrorBadTopic h

def writeMotors (value : List UInt8) : Nat → Host ρ → Host ρ
  | 0, h => h
  | n + 1, h =>
    let index := octetAt value 0
    let h :=
      if hindex : index.toNat < kVexMotorNum then
        vexMotorSet ⟨index.toNat, hindex⟩ (octetAt value 1).toInt8 h
      else h
    writeMotors (value.drop 2) n h

def rpcRecvWriteMotor (write : MessageWrite) (h : Host ρ) : Host ρ :=
  if write.subtopic = messagesTopicMotorSubtopicAll then
    if write.len = 0 ∨ write.len % 2 ≠ 0 then h
    else writeMotors write.value (write.len / 2).toNat h
  else if hindex : write.subtopic.toNat < kVexMotorNum then
    if write.len ≠ 1 then h
    else vexMotorSet ⟨write.subtopic.toNat, hindex⟩ (octetAt write.value 0).toInt8 h
  else h

def rpcRecvWriteCassette (write : MessageWrite) (h : Host ρ) : Host ρ :=
  let index := octetAt write.value 0
  if write.subtopic = messagesTopicCassetteSubtopicOpen then
    if write.len ≠ 1 then h
    else if index ≥ cassetteMax then h
    else if h.rpc.cassette ≠ 0xff then h
    else
      let h := { h with rpc.cassette := index }
      let (fp, h) := cassetteOpenWrite h.rpc.cassette h
      let h := { h with rpc.fp := fp }
      if fp = .null then { h with rpc.cassette := 0xff } else h
  else if write.subtopic = messagesTopicCassetteSubtopicClose then
    if write.len ≠ 1 then h
    else if index ≥ cassetteMax then h
    else if h.rpc.cassette = 0xff ∧ h.rpc.fp = .null then h
    else if h.rpc.cassette ≠ index then h
    else
      let h := { h with rpc.cassette := 0xff }
      let h := writeFlash h.rpc.fp h
      { h with rpc.fp := .null }
  else if write.subtopic = messagesTopicCassetteSubtopicWrite then
    -- A length of 0 passes this test as 2 does.
    if write.len = 1 ∨ write.len > 2 then h
    else if index ≥ cassetteMax then h
    else if h.rpc.cassette = 0xff ∧ h.rpc.fp = .null then h
    else if h.rpc.cassette ≠ index then h
    else
      let (wlen, h) := loadData h.rpc.fp 0 h
      if wlen ≥ 31 then { h with rpc.cassette := 0xff, rpc.fp := .null }
      else
        let h := storeData h.rpc.fp wlen.toNat (octetAt write.value 1) h
        let h := storeData h.rpc.fp 0 (wlen + 1) h
        writeFlash h.rpc.fp h
  else h

def rpcRecvWrite (write : MessageWrite) (h : Host ρ) : Host ρ :=
  if write.topic = messagesTopicMotor then rpcRecvWriteMotor write h
  else if write.topic = messagesTopicCassette then rpcRecvWriteCassette write h
  else rpcSendRepError wp write.reqId write.topic write.subtopic messagesErrorBadTopic h

def rpcRecvSubscribe (subscribe : MessageSubscribe) (h : Host ρ) : Host ρ :=
  let tmp : RpcSubscription := ⟨true, subscribe.reqId, subscribe.topic, subscribe.subtopic⟩
  let h :=
    if (rpcSubFind h.rpc subscribe.reqId false).1 ≠ 0 then
      rpcSendPubError wp tmp messagesErrorBadReqId h
    else h
  let (count, sub) := rpcSubFree h.rpc
  if count = 0 then rpcSendPubError wp tmp messagesErrorSubMax h
  else
    match sub with
    | some i => setSub i tmp h
    | none => h

def rpcRecvUnsubscribe (unsubscribe : MessageUnsubscribe) (h : Host ρ) : Host ρ :=
  let flag := messagesDataFlagPub ||| messagesDataFlagEnd
  let tmp : RpcSubscription :=
    ⟨true, unsubscribe.reqId, messagesTopicAll, messagesTopicAllSubtopicAll⟩
  match rpcSubFind h.rpc unsubscribe.reqId true with
  | (_, none) =>
    let h := rpcSendPubError wp tmp messagesErrorBadReqId h
    rpcSendData wp tmp.reqId tmp.topic tmp.subtopic flag [] h
  | (_, some i) =>
    let sub := h.rpc.subs i
    rpcSubReset i (rpcSendData wp sub.reqId sub.topic sub.subtopic flag [] h)

def rpcRecv (message : MessageAny) (h : Host ρ) : Host ρ :=
  let heartbeat (h : Host ρ) : Host ρ :=
    let (now, h) := chTimeNow h
    { h with rpc.heartbeat := now }
  match message with
  | .ping ping => heartbeat (rpcRecvPing wp ping h)
  | .pong _ => heartbeat h
  | .info info => heartbeat (rpcRecvInfo info h)
  | .data _ => heartbeat h
  | .read read => heartbeat (rpcRecvRead wp read h)
  | .write write => heartbeat (rpcRecvWrite wp write h)
  | .subscribe subscribe => heartbeat (rpcRecvSubscribe wp subscribe h)
  | .unsubscribe unsubscribe => heartbeat (rpcRecvUnsubscribe wp unsubscribe h)
  | .message _ _ => h

end TurningPoint
