import TurningPoint.Messages.Serialize
import TurningPoint.Rpc.Preserve

/-! The remote procedure calls on their own: sessions over a `writePacket` that leaves the record
alone, as the one does that keeps the packets in the order they are sent. -/

universe u

namespace TurningPoint

theorem rpcSend_some {ρ : Type u} {writePacket : List UInt8 → Host ρ → Host ρ} {message : MessageAny}
    (hpos : messageGetsizeof message ≠ 0) (hsize : messageGetsizeof message ≤ sfpConfigMaxPacketSize)
    (h : Host ρ) : rpcSend (some writePacket) message h =
      writePacket (messageOctets message)
        { h with rpc.outBuf := messageStores h.rpc.outBuf message } := by
  have hfits : ¬ (messageGetsizeof message = 0 ∨
      messageGetsizeof message > sfpConfigMaxPacketSize) := by omega
  simp only [rpcSend, messageSerialize, hfits, if_false, if_true, Option.getD_some,
    messageStores_take]

theorem data_fits (reqId : UInt16) (topic subtopic flag : UInt8) (timestamp : UInt32)
    {value : List UInt8} (hvalue : value.length ≤ 245) :
    let message : MessageAny :=
      .data ⟨reqId, topic, subtopic, flag, timestamp, UInt8.ofNat value.length, value⟩
    message.Sized ∧ messageGetsizeof message = 11 + value.length := by
  have hlen : (UInt8.ofNat value.length).toNat = value.length :=
    UInt8.toNat_ofNat_of_lt' (by change _ < 256; omega)
  exact ⟨hlen.symm, congrArg (11 + ·) hlen⟩

abbrev Session := Host (List (List UInt8))

def keepPacket : WritePacket (List (List UInt8)) :=
  some fun packet h => { h with outer := h.outer ++ [packet] }

/-- The packet is a DATA message, its time stamp apart. -/
def IsData (packet : List UInt8) (reqId : UInt16) (topic subtopic flag : UInt8)
    (value : List UInt8) : Prop :=
  ∃ timestamp, ReadsAs packet
    (.data ⟨reqId, topic, subtopic, flag, timestamp, UInt8.ofNat value.length, value⟩)

theorem IsData.unique {packet value value' : List UInt8} {reqId reqId' : UInt16}
    {topic subtopic flag topic' subtopic' flag' : UInt8}
    (hd : IsData packet reqId topic subtopic flag value)
    (hd' : IsData packet reqId' topic' subtopic' flag' value') :
    reqId = reqId' ∧ topic = topic' ∧ subtopic = subtopic' ∧ flag = flag' ∧ value = value' := by
  obtain ⟨_, hd⟩ := hd
  obtain ⟨_, hd'⟩ := hd'
  have heq := (hd (.ping ⟨0⟩)).symm.trans (hd' (.ping ⟨0⟩))
  simp only [Prod.mk.injEq, MessageAny.data.injEq, MessageData.mk.injEq] at heq
  obtain ⟨-, hid, htopic, hsubtopic, hflag, -, -, hvalue⟩ := heq
  exact ⟨hid, htopic, hsubtopic, hflag, hvalue⟩

theorem IsData.value_eq {packet value value' : List UInt8} {reqId reqId' : UInt16}
    {topic subtopic flag topic' subtopic' flag' : UInt8}
    (hd : IsData packet reqId topic subtopic flag value)
    (hd' : IsData packet reqId' topic' subtopic' flag' value') : value = value' :=
  (hd.unique hd').2.2.2.2

/-- A `writePacket` that leaves the record alone; `sent` tells from what only it knows which packets
it was called with.  A session that the check in `serverWrite` resets while a packet is written is
not covered. -/
class Posting {ρ : Type u} (wp : WritePacket ρ) where
  write : List UInt8 → Host ρ → Host ρ
  sent : ρ → List (List UInt8)
  wp_eq : wp = some write
  rpc_eq : ∀ packet h, (write packet h).rpc = h.rpc
  sent_eq : ∀ packet h, sent (write packet h).outer = sent h.outer ++ [packet]

/-- It leaves the robot alone too, but for the clock and the serial port. -/
class Aloof {ρ : Type u} (wp : WritePacket ρ) extends Posting wp where
  board_eq : ∀ packet h, (write packet h).board = { h.board with
    clock := (write packet h).board.clock
    room := (write packet h).board.room
    wire := (write packet h).board.wire }

instance : Aloof keepPacket where
  write packet h := { h with outer := h.outer ++ [packet] }
  sent packets := packets
  wp_eq := rfl
  rpc_eq _ _ := rfl
  sent_eq _ _ := rfl
  board_eq _ _ := rfl

section Posting

variable {ρ : Type u} {wp : WritePacket ρ} {P : Host ρ → Prop}

theorem Posting.sends [Posting wp]
    (hP : ∀ buf board outer h, P h → P ⟨{ h.rpc with outBuf := buf }, board, outer⟩) :
    Sends wp P := by
  refine ⟨fun writePacket packet h hwp hh => ?_, fun h => hP h.rpc.outBuf _ _ h,
    fun buf h => hP buf _ _ h⟩
  obtain rfl : write wp = writePacket := Option.some.inj (wp_eq.symm.trans hwp)
  have hsame := hP h.rpc.outBuf (write wp packet h).board (write wp packet h).outer h hh
  rw [show write wp packet h = ⟨h.rpc, _, _⟩ from
    congrArg (Host.mk · (write wp packet h).board (write wp packet h).outer) (rpc_eq packet h)]
  exact hsame

theorem Aloof.sends [Aloof wp]
    (hP : ∀ buf clock room wire outer h, P h →
      P ⟨{ h.rpc with outBuf := buf },
        { h.board with clock := clock, room := room, wire := wire }, outer⟩) : Sends wp P := by
  refine ⟨fun writePacket packet h hwp hh => ?_,
    fun h => hP h.rpc.outBuf _ h.board.room h.board.wire h.outer h,
    fun buf h => hP buf h.board.clock h.board.room h.board.wire h.outer h⟩
  obtain rfl : Posting.write wp = writePacket :=
    Option.some.inj (Posting.wp_eq.symm.trans hwp)
  have hsame : Posting.write wp packet h = ⟨h.rpc, { h.board with
      clock := (Posting.write wp packet h).board.clock
      room := (Posting.write wp packet h).board.room
      wire := (Posting.write wp packet h).board.wire }, (Posting.write wp packet h).outer⟩ :=
    congrArg₂ (Host.mk · · (Posting.write wp packet h).outer) (Posting.rpc_eq packet h)
      (board_eq packet h)
  rw [hsame]
  exact hP h.rpc.outBuf _ _ _ _ h hh

variable [Posting wp] {h h' h'' : Host ρ} {packets packets' : List (List UInt8)}

variable (wp) in
def sent (h : Host ρ) : List (List UInt8) := Posting.sent wp h.outer

variable (wp) in
structure Posted (h : Host ρ) (packets : List (List UInt8)) (h' : Host ρ) : Prop where
  rpc_eq : h'.rpc = { h.rpc with outBuf := h'.rpc.outBuf }
  sent_eq : sent wp h' = sent wp h ++ packets

variable (wp) in
theorem Posted.refl (h : Host ρ) : Posted wp h [] h := ⟨rfl, (List.append_nil _).symm⟩

theorem Posted.trans (hfst : Posted wp h packets h') (hsnd : Posted wp h' packets' h'') :
    Posted wp h (packets ++ packets') h'' := by
  refine ⟨?_, ?_⟩
  · rw [hsnd.rpc_eq, hfst.rpc_eq]
  · rw [hsnd.sent_eq, hfst.sent_eq, List.append_assoc]

theorem Posted.subs_eq (hp : Posted wp h packets h') : h'.rpc.subs = h.rpc.subs := by
  rw [hp.rpc_eq]

theorem Posted.motor_eq (hp : Posted wp h packets h') : h'.rpc.motor = h.rpc.motor := by
  rw [hp.rpc_eq]

theorem Posted.chTimeNow (hp : Posted wp (chTimeNow h).2 packets h') : Posted wp h packets h' :=
  ⟨hp.rpc_eq, hp.sent_eq⟩

variable (wp) in
theorem rpcSend_posted {message : MessageAny} (h : Host ρ)
    (hpos : messageGetsizeof message ≠ 0) (hsize : messageGetsizeof message ≤ sfpConfigMaxPacketSize) :
    Posted wp h [messageOctets message] (rpcSend wp message h) := by
  have hsend : rpcSend wp message h = Posting.write wp (messageOctets message)
      { h with rpc.outBuf := messageStores h.rpc.outBuf message } :=
    (congrArg (rpcSend · message h) Posting.wp_eq).trans (rpcSend_some hpos hsize h)
  rw [hsend]
  exact ⟨by rw [Posting.rpc_eq], Posting.sent_eq _ _⟩

variable (wp) in
theorem rpcSendData_posted (reqId : UInt16) (topic subtopic flag : UInt8) {value : List UInt8}
    (hvalue : value.length ≤ 245) (h : Host ρ) :
    ∃ packet, IsData packet reqId topic subtopic flag value ∧
      Posted wp h [packet] (rpcSendData wp reqId topic subtopic flag value h) := by
  obtain ⟨hsized, hsize⟩ :=
    data_fits reqId topic subtopic flag (h.board.clock 0 - h.rpc.timestamp) hvalue
  refine ⟨_, ⟨_, messageOctets_readsAs hsized⟩, Posted.chTimeNow ?_⟩
  refine rpcSend_posted wp _ (messageGetsizeof_ne_zero hsized) ?_
  rw [hsize]
  exact Nat.add_le_add_left hvalue 11

end Posting

/-- What happens to a session: a message arrives, the loop turns, or time passes and the robot's
motors change. -/
inductive Action
  | recv (message : MessageAny)
  | loop
  | robot (clock : Nat → UInt32) (motors : Fin kVexMotorNum → Int8)

def sessionStep {ρ : Type u} (wp : WritePacket ρ) (h : Host ρ) : Action → Host ρ
  | .recv message => rpcRecv wp message h
  | .loop => rpcLoop wp h
  | .robot clock motors => { h with board.clock := clock, board.motors := motors }

/-- The record as `serverCheckConnection` leaves it when a connection is made. -/
def Rpc.connected : Rpc where
  seqId := 0
  ipv4 := [0, 0, 0, 0]
  motor _ := 0
  cassette := 0xff
  fp := .null
  outBuf := []
  timestamp := 0
  heartbeat := 0
  published := 0
  sendstats := 0
  subs _ := .empty

def Session.fresh : Session := ⟨.connected, .still, []⟩

end TurningPoint
