import Mathlib.Data.List.Basic

/-! The message formats of `messages.h` and the three functions of `messages.c` that size,
encode and decode them.  A pointer to octets is the list of the octets found from there on. -/

namespace TurningPoint

/-- `p[i]`; an octet beyond the modelled memory reads as zero. -/
def octetAt (p : List UInt8) (i : Nat) : UInt8 := p.getD i 0

def octetsFrom (p : List UInt8) (n : Nat) : List UInt8 := (List.range n).map (octetAt p)

def storeAt (buf : List UInt8) (i : Nat) (src : List UInt8) : List UInt8 :=
  buf.take i ++ src ++ buf.drop (i + src.length)

def bswap16 (n : UInt16) : UInt16 := (n <<< 8) ||| (n >>> 8)

def bswap32 (n : UInt32) : UInt32 :=
  (n <<< 24) ||| ((n &&& (0xff00 : UInt32)) <<< 8) ||| ((n >>> 8) &&& (0xff00 : UInt32)) ||| (n >>> 24)

def bswap64 (n : UInt64) : UInt64 :=
  ((bswap32 n.toUInt32).toUInt64 <<< 32) ||| (bswap32 (n >>> 32).toUInt32).toUInt64

-- `portable_endian.h` on the little-endian target: every conversion is a byte swap.
def htons (n : UInt16) : UInt16 := bswap16 n
def ntohs (n : UInt16) : UInt16 := bswap16 n
def htonl (n : UInt32) : UInt32 := bswap32 n
def ntohl (n : UInt32) : UInt32 := bswap32 n
def htonll (n : UInt64) : UInt64 := bswap64 n

def memory16 (n : UInt16) : List UInt8 := [n.toUInt8, (n >>> 8).toUInt8]

def memory32 (n : UInt32) : List UInt8 :=
  [n.toUInt8, (n >>> 8).toUInt8, (n >>> 16).toUInt8, (n >>> 24).toUInt8]

def memory64 (n : UInt64) : List UInt8 := memory32 n.toUInt32 ++ memory32 (n >>> 32).toUInt32

def load16 (p : List UInt8) : UInt16 :=
  (octetAt p 0).toUInt16 ||| ((octetAt p 1).toUInt16 <<< 8)

def load32 (p : List UInt8) : UInt32 :=
  (octetAt p 0).toUInt32 ||| ((octetAt p 1).toUInt32 <<< 8) |||
    ((octetAt p 2).toUInt32 <<< 16) ||| ((octetAt p 3).toUInt32 <<< 24)

abbrev messagesOpPing : UInt8 := 0x01
abbrev messagesOpPong : UInt8 := 0x02
abbrev messagesOpInfo : UInt8 := 0x03
abbrev messagesOpData : UInt8 := 0x04
abbrev messagesOpRead : UInt8 := 0x05
abbrev messagesOpWrite : UInt8 := 0x06
abbrev messagesOpSubscribe : UInt8 := 0x07
abbrev messagesOpUnsubscribe : UInt8 := 0x08

abbrev messagesDataFlagEnd : UInt8 := 0x01
abbrev messagesDataFlagPub : UInt8 := 0x02
abbrev messagesDataFlagError : UInt8 := 0x04

abbrev messagesErrorBadReqId : UInt8 := 0x01
abbrev messagesErrorBadTopic : UInt8 := 0x02
abbrev messagesErrorBadSubtopic : UInt8 := 0x03
abbrev messagesErrorSubMax : UInt8 := 0x04

abbrev messagesTopicPubsub : UInt8 := 0x00
abbrev messagesTopicPubsubSubtopicCount : UInt8 := 0xfb
abbrev messagesTopicPubsubSubtopicFree : UInt8 := 0xfc
abbrev messagesTopicPubsubSubtopicMax : UInt8 := 0xfd
abbrev messagesTopicPubsubSubtopicList : UInt8 := 0xfe
abbrev messagesTopicPubsubSubtopicAll : UInt8 := 0xff
abbrev messagesTopicClock : UInt8 := 0x01
abbrev messagesTopicClockSubtopicNow : UInt8 := 0x00
abbrev messagesTopicMotor : UInt8 := 0x02
abbrev messagesTopicMotorSubtopicAll : UInt8 := 0xff
abbrev messagesTopicNetwork : UInt8 := 0x04
abbrev messagesTopicNetworkSubtopicIpv4 : UInt8 := 0x00
abbrev messagesTopicRobot : UInt8 := 0x05
abbrev messagesTopicRobotSubtopicSpi : UInt8 := 0x00
abbrev messagesTopicCassette : UInt8 := 0x06
abbrev messagesTopicCassetteSubtopicWrite : UInt8 := 0xf8
abbrev messagesTopicCassetteSubtopicClose : UInt8 := 0xf9
abbrev messagesTopicCassetteSubtopicOpen : UInt8 := 0xfa
abbrev messagesTopicCassetteSubtopicCount : UInt8 := 0xfb
abbrev messagesTopicCassetteSubtopicFree : UInt8 := 0xfc
abbrev messagesTopicCassetteSubtopicMax : UInt8 := 0xfd
abbrev messagesTopicAll : UInt8 := 0xff
abbrev messagesTopicAllSubtopicAll : UInt8 := 0xff

structure MessagePing where
  seqId : UInt8
  deriving DecidableEq

structure MessagePong where
  seqId : UInt8
  deriving DecidableEq

structure MessageInfo where
  topic : UInt8
  subtopic : UInt8
  len : UInt8
  value : List UInt8
  deriving DecidableEq

structure MessageData where
  reqId : UInt16
  topic : UInt8
  subtopic : UInt8
  flag : UInt8
  timestamp : UInt32
  len : UInt8
  value : List UInt8
  deriving DecidableEq

structure MessageRead where
  reqId : UInt16
  topic : UInt8
  subtopic : UInt8
  deriving DecidableEq

structure MessageWrite where
  reqId : UInt16
  topic : UInt8
  subtopic : UInt8
  len : UInt8
  value : List UInt8
  deriving DecidableEq

structure MessageSubscribe where
  reqId : UInt16
  topic : UInt8
  subtopic : UInt8
  deriving DecidableEq

structure MessageUnsubscribe where
  reqId : UInt16
  deriving DecidableEq

def MessagesOp (op : UInt8) : Prop := 1 ≤ op.toNat ∧ op.toNat ≤ 8

instance (op : UInt8) : Decidable (MessagesOp op) := inferInstanceAs (Decidable (_ ∧ _))

/-- The union, with the member that its `op` selects.  `message` is a union whose `op` selects
none of the eight, such as the zeroed one of static storage. -/
inductive MessageAny
  | message (op : UInt8) (h : ¬ MessagesOp op)
  | ping (m : MessagePing)
  | pong (m : MessagePong)
  | info (m : MessageInfo)
  | data (m : MessageData)
  | read (m : MessageRead)
  | write (m : MessageWrite)
  | subscribe (m : MessageSubscribe)
  | unsubscribe (m : MessageUnsubscribe)
  deriving DecidableEq

def messageGetsizeof : MessageAny → Nat
  | .ping _ => 1 + 1
  | .pong _ => 1 + 1
  | .info m => 1 + 1 + 1 + 1 + m.len.toNat
  | .data m => 1 + 2 + 1 + 1 + 1 + 4 + 1 + m.len.toNat
  | .read _ => 1 + 2 + 1 + 1
  | .write m => 1 + 2 + 1 + 1 + 1 + m.len.toNat
  | .subscribe _ => 1 + 2 + 1 + 1
  | .unsubscribe _ => 1 + 2
  | .message _ _ => 0

def messageStores (buf : List UInt8) : MessageAny → List UInt8
  | .ping m => storeAt (storeAt buf 0 [messagesOpPing]) 1 [m.seqId]
  | .pong m => storeAt (storeAt buf 0 [messagesOpPong]) 1 [m.seqId]
  | .info m =>
    let buf := storeAt buf 0 [messagesOpInfo]
    let buf := storeAt buf 1 [m.topic]
    let buf := storeAt buf 2 [m.subtopic]
    let buf := storeAt buf 3 [m.len]
    storeAt buf 4 (octetsFrom m.value m.len.toNat)
  | .data m =>
    let buf := storeAt buf 0 [messagesOpData]
    let buf := storeAt buf 1 (memory16 (htons m.reqId))
    let buf := storeAt buf 3 [m.topic]
    let buf := storeAt buf 4 [m.subtopic]
    let buf := storeAt buf 5 [m.flag]
    let buf := storeAt buf 6 (memory32 (htonl m.timestamp))
    let buf := storeAt buf 10 [m.len]
    storeAt buf 11 (octetsFrom m.value m.len.toNat)
  | .read m =>
    let buf := storeAt buf 0 [messagesOpRead]
    let buf := storeAt buf 1 (memory16 (htons m.reqId))
    let buf := storeAt buf 3 [m.topic]
    storeAt buf 4 [m.subtopic]
  | .write m =>
    let buf := storeAt buf 0 [messagesOpWrite]
    let buf := storeAt buf 1 (memory16 (htons m.reqId))
    let buf := storeAt buf 3 [m.topic]
    let buf := storeAt buf 4 [m.subtopic]
    let buf := storeAt buf 5 [m.len]
    storeAt buf 6 (octetsFrom m.value m.len.toNat)
  | .subscribe m =>
    let buf := storeAt buf 0 [messagesOpSubscribe]
    let buf := storeAt buf 1 (memory16 (htons m.reqId))
    let buf := storeAt buf 3 [m.topic]
    storeAt buf 4 [m.subtopic]
  | .unsubscribe m =>
    let buf := storeAt buf 0 [messagesOpUnsubscribe]
    storeAt buf 1 (memory16 (htons m.reqId))
  | .message _ _ => buf

/-- The return value, the buffer and, when it is reported, `*outlen`. -/
def messageSerialize (m : MessageAny) (buf : List UInt8) (len : Nat) :
    Int × List UInt8 × Option Nat :=
  let mlen := messageGetsizeof m
  if mlen = 0 ∨ mlen > len then (-1, buf, none) else (0, messageStores buf m, some mlen)

/-- The return value and the target union, untouched where the source returns early. -/
def messageDeserialize (m : MessageAny) (buf : List UInt8) (len : Nat) : Int × MessageAny :=
  if len < 2 then (-1, m)
  else
    let op := octetAt buf 0
    if op = messagesOpPing then (0, .ping ⟨octetAt buf 1⟩)
    else if op = messagesOpPong then (0, .pong ⟨octetAt buf 1⟩)
    else if op = messagesOpInfo then
      if len < 4 then (-1, m)
      else
        -- `vlen` is a `uint8_t`: the sum is taken modulo 256.
        let vlen := octetAt buf 3 + 4
        if len < vlen.toNat then (-1, m)
        else (0, .info ⟨octetAt buf 1, octetAt buf 2, octetAt buf 3, buf.drop 4⟩)
    else if op = messagesOpData then
      if len < 11 then (-1, m)
      else
        let vlen := octetAt buf 10 + 11
        if len < vlen.toNat then (-1, m)
        else (0, .data ⟨ntohs (load16 (buf.drop 1)), octetAt buf 3, octetAt buf 4, octetAt buf 5,
          ntohl (load32 (buf.drop 6)), octetAt buf 10, buf.drop 11⟩)
    else if op = messagesOpRead then
      if len < 5 then (-1, m)
      else (0, .read ⟨ntohs (load16 (buf.drop 1)), octetAt buf 3, octetAt buf 4⟩)
    else if op = messagesOpWrite then
      if len < 6 then (-1, m)
      else
        let vlen := octetAt buf 5 + 6
        if len < vlen.toNat then (-1, m)
        else (0, .write ⟨ntohs (load16 (buf.drop 1)), octetAt buf 3, octetAt buf 4, octetAt buf 5,
          buf.drop 6⟩)
    else if op = messagesOpSubscribe then
      if len < 5 then (-1, m)
      else (0, .subscribe ⟨ntohs (load16 (buf.drop 1)), octetAt buf 3, octetAt buf 4⟩)
    else if op = messagesOpUnsubscribe then
      if len < 3 then (-1, m)
      else (0, .unsubscribe ⟨ntohs (load16 (buf.drop 1))⟩)
    else (-1, m)

end TurningPoint
