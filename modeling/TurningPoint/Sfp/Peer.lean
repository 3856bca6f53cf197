import Mathlib.Data.ZMod.Basic
import TurningPoint.Sfp.Receive

/-! One end of a link, seen frame by frame: the protocol that `serial_framing_protocol.c` runs once
octets, escapes, checksums and ring buffer indices are out of sight. -/

namespace TurningPoint

abbrev SeqNum := ZMod 64

structure Frame where
  type : SFPframetype
  seq : SeqNum
  payload : List UInt8

abbrev Frame.syn2 : Frame := ⟨.syn, 2, []⟩

def Frame.Fits (frame : Frame) : Prop :=
  frame.payload.length + sfpCrcSize ≤ sfpConfigMaxPacketSize

instance (frame : Frame) : Decidable frame.Fits := inferInstanceAs (Decidable (_ ≤ _))

def numbered (type : SFPframetype) (seq : SeqNum) : List (List UInt8) → List Frame
  | [] => []
  | payload :: payloads => ⟨type, seq, payload⟩ :: numbered type (seq + 1) payloads

/-- One end of a link.  `line` is what it has put on the line and the other end has not yet taken
off; `sent` is everything it ever put there. -/
structure Peer where
  connectState : SFPconnectstate
  txSeq : SeqNum
  rxSeq : SeqNum
  history : List (List UInt8)
  line : List Frame
  sent : List Frame
  delivered : List (List UInt8)

namespace Peer

def send (frame : Frame) (p : Peer) : Peer :=
  { p with line := p.line ++ [frame], sent := p.sent ++ [frame] }

def control (type : SFPframetype) (seq : SeqNum) : Peer → Peer := send ⟨type, seq, []⟩

def syn0 : Peer → Peer := control .syn 0
def syn1 : Peer → Peer := control .syn 1
def syn2 : Peer → Peer := control .syn 2
def dis : Peer → Peer := control .syn 3
def nak (p : Peer) : Peer := p.control .nak p.rxSeq

def transmit (type : SFPframetype) (payload : List UInt8) (p : Peer) : Peer :=
  { p.send ⟨type, p.txSeq, payload⟩ with txSeq := p.txSeq + 1 }

def remember (payload : List UInt8) (history : List (List UInt8)) : List (List UInt8) :=
  (if history.length = sfpConfigHistoryCapacity then history.tail else history) ++ [payload]

def write (payload : List UInt8) (p : Peer) : Peer :=
  { p with history := remember payload p.history }.transmit .usr payload

def resend (p : Peer) : Peer := p.history.foldl (fun p payload => p.transmit .rtx payload) p

def lag (seq : SeqNum) (p : Peer) : SeqNum := seq - (p.txSeq - p.history.length)

def resendFrom (seq : SeqNum) (p : Peer) : Peer :=
  let history := if (p.lag seq).val < p.history.length then p.history.drop (p.lag seq).val else p.history
  { p with history := history, txSeq := seq }.resend

def restart (p : Peer) : Peer := { p with rxSeq := 0, txSeq := 0, history := [] }

def connect (p : Peer) : Peer := { p.restart.syn0 with connectState := .sentSyn0 }

/-- Once the other end is known to be there, what was written too early goes out again. -/
def establish (p : Peer) : Peer :=
  { if p.txSeq ≠ 0 then p.resendFrom 0 else p with connectState := .connected }

/-- What a frame meets at an end that is not connected: a reminder of how far the handshake is. -/
def remind (p : Peer) : Peer :=
  match p.connectState with
  | .disconnected => p.dis
  | .sentSyn0 => p.syn0
  | .sentSyn1 => p.syn1
  | .connected => p

def handleUSR (frame : Frame) (p : Peer) : Peer :=
  if p.connectState = .connected then
    if frame.seq = p.rxSeq then
      { p with delivered := p.delivered ++ [frame.payload], rxSeq := p.rxSeq + 1 }
    else if frame.type = .usr then p.nak
    else p
  else p.remind

def handleNAK (seq : SeqNum) (p : Peer) : Peer :=
  if p.connectState = .connected then if seq = p.txSeq then p else p.resendFrom seq
  else p.remind

def handleSYN (seq : SeqNum) (p : Peer) : Peer :=
  if seq = 0 then { p.restart.syn1 with connectState := .sentSyn1 }
  else if seq = 1 then if p.connectState = .disconnected then p.dis else p.syn2.establish
  else if seq = 2 then
    if p.connectState = .disconnected ∨ p.connectState = .sentSyn0 then p.remind else p.establish
  else if seq = 3 then { p with connectState := .disconnected }
  else p

def handle (frame : Frame) (p : Peer) : Peer :=
  match frame.type with
  | .usr => p.handleUSR frame
  | .rtx => p.handleUSR frame
  | .nak => p.handleNAK frame.seq
  | .syn => p.handleSYN frame.seq

/-- A frame that overflows the packet buffer is dropped; one octet more than that, and the octet
after the overflow passes for a frame too short to have a checksum. -/
def receive (frame : Frame) (p : Peer) : Peer :=
  if frame.Fits then p.handle frame
  else if frame.payload.length + sfpCrcSize = sfpConfigMaxPacketSize + 1 then p
  else p.nak

end Peer

end TurningPoint
