import TurningPoint.Rpc.Reading

universe u

namespace TurningPoint

def retopic {ρ : Type u} (i : Fin rpcSubMax) (topic subtopic : UInt8) (h : Host ρ) : Host ρ :=
  setSub i { h.rpc.subs i with topic := topic, subtopic := subtopic } h

theorem rpcPublishAll_eq {ρ : Type u} (wp : WritePacket ρ) (i : Fin rpcSubMax) (h : Host ρ) :
    rpcPublishAll wp i h =
      if (h.rpc.subs i).subtopic = messagesTopicAllSubtopicAll then
        retopic i (h.rpc.subs i).topic (h.rpc.subs i).subtopic (rpcPublishMotor wp i
          (retopic i messagesTopicMotor messagesTopicMotorSubtopicAll (rpcPublishClock wp i
            (retopic i messagesTopicClock messagesTopicClockSubtopicNow h))))
      else rpcSubReset i (rpcSendPubError wp (h.rpc.subs i) messagesErrorBadSubtopic h) := rfl

section Recording

variable {ρ : Type u} (writePacket : List UInt8 → Host ρ → Host ρ)

/-- `writePacket` with the packets it is called with beside it. -/
def recording : WritePacket (ρ × List (List UInt8)) :=
  some fun packet h =>
    let h' := writePacket packet ⟨h.rpc, h.board, h.outer.1⟩
    ⟨h'.rpc, h'.board, h'.outer, h.outer.2 ++ [packet]⟩

/-- Every `writePacket` that leaves the record alone can be told its packets by. -/
abbrev Posting.recording (hrpc : ∀ packet h, (writePacket packet h).rpc = h.rpc) :
    Posting (recording writePacket) where
  write packet h :=
    let h' := writePacket packet ⟨h.rpc, h.board, h.outer.1⟩
    ⟨h'.rpc, h'.board, h'.outer, h.outer.2 ++ [packet]⟩
  sent outer := outer.2
  wp_eq := rfl
  rpc_eq packet h := hrpc packet ⟨h.rpc, h.board, h.outer.1⟩
  sent_eq _ _ := rfl

def Host.recorded (h : Host ρ) : Host (ρ × List (List UInt8)) := ⟨h.rpc, h.board, h.outer, []⟩

def Host.forget (h : Host (ρ × List (List UInt8))) : Host ρ := ⟨h.rpc, h.board, h.outer.1⟩

variable (h : Host (ρ × List (List UInt8)))

theorem forget_ite {c : Prop} [Decidable c] {a b : Host (ρ × List (List UInt8))} {a' b' : Host ρ}
    (ha : a.forget = a') (hb : b.forget = b') :
    (if c then a else b).forget = if c then a' else b' := by
  subst ha hb
  exact apply_ite Host.forget c a b

theorem forget_rpcSend (message : MessageAny) :
    (rpcSend (recording writePacket) message h).forget =
      rpcSend (some writePacket) message h.forget :=
  forget_ite rfl rfl

theorem forget_rpcSendData (reqId : UInt16) (topic subtopic flag : UInt8) (value : List UInt8) :
    (rpcSendData (recording writePacket) reqId topic subtopic flag value h).forget =
      rpcSendData (some writePacket) reqId topic subtopic flag value h.forget :=
  forget_rpcSend writePacket _ _

theorem forget_refuse (i : Fin rpcSubMax) (sub : RpcSubscription) (error : UInt8) :
    (rpcSubReset i (rpcSendPubError (recording writePacket) sub error h)).forget =
      rpcSubReset i (rpcSendPubError (some writePacket) sub error h.forget) := by
  have hsend := forget_rpcSendData writePacket h sub.reqId sub.topic sub.subtopic
    (messagesDataFlagPub ||| messagesDataFlagError ||| messagesDataFlagEnd) [error]
  exact congrArg (rpcSubReset i) hsend

theorem forget_rpcPublishClock (i : Fin rpcSubMax) :
    (rpcPublishClock (recording writePacket) i h).forget =
      rpcPublishClock (some writePacket) i h.forget :=
  forget_ite (forget_rpcSendData writePacket _ _ _ _ _ _) (forget_refuse writePacket h i _ _)

theorem forget_rpcPublishMotor (i : Fin rpcSubMax) :
    (rpcPublishMotor (recording writePacket) i h).forget =
      rpcPublishMotor (some writePacket) i h.forget := by
  unfold rpcPublishMotor
  dsimp only
  by_cases hindex : (h.rpc.subs i).subtopic.toNat < kVexMotorNum
  · rw [dif_pos hindex, dif_pos (show (h.forget.rpc.subs i).subtopic.toNat < _ from hindex)]
    exact forget_ite rfl (forget_rpcSendData writePacket _ _ _ _ _ _)
  · rw [dif_neg hindex, dif_neg (show ¬ (h.forget.rpc.subs i).subtopic.toNat < _ from hindex)]
    exact forget_ite (forget_ite (forget_rpcSendData writePacket _ _ _ _ _ _) rfl)
      (forget_refuse writePacket h i _ _)

theorem forget_retopic (i : Fin rpcSubMax) (topic subtopic : UInt8) :
    (retopic i topic subtopic h).forget = retopic i topic subtopic h.forget := rfl

theorem forget_rpcPublishAll (i : Fin rpcSubMax) :
    (rpcPublishAll (recording writePacket) i h).forget =
      rpcPublishAll (some writePacket) i h.forget := by
  rw [rpcPublishAll_eq, rpcPublishAll_eq]
  refine forget_ite ?_ (forget_refuse writePacket h i _ _)
  rw [forget_retopic, forget_rpcPublishMotor, forget_retopic, forget_rpcPublishClock, forget_retopic]
  rfl

theorem forget_rpcPublish (i : Fin rpcSubMax) :
    (rpcPublish (recording writePacket) i h).forget = rpcPublish (some writePacket) i h.forget :=
  forget_ite rfl <| forget_ite (forget_rpcPublishClock writePacket h i) <|
    forget_ite (forget_rpcPublishMotor writePacket h i) <|
      forget_ite (forget_rpcPublishAll writePacket h i) (forget_refuse writePacket h i _ _)

theorem forget_rpcPublishRound :
    (rpcPublishRound (recording writePacket) h).forget =
      rpcPublishRound (some writePacket) h.forget :=
  (List.foldl_hom Host.forget fun h i =>
    (forget_ite (forget_rpcPublish writePacket h i) rfl).symm).symm

theorem forget_rpcLoopPublish :
    (rpcLoopPublish (recording writePacket) h).forget = rpcLoopPublish (some writePacket) h.forget := by
  have hround := forget_rpcPublishRound writePacket (chTimeElapsedSince h.rpc.published h).2
  refine forget_ite ?_ rfl
  exact congrArg (fun h : Host ρ => { (chTimeNow h).2 with rpc.published := (chTimeNow h).1 }) hround

theorem forget_rpcSendStats :
    (rpcSendStats (recording writePacket) h).forget = rpcSendStats (some writePacket) h.forget :=
  forget_rpcSend writePacket _ _

theorem forget_rpcLoop :
    (rpcLoop (recording writePacket) h).forget = rpcLoop (some writePacket) h.forget := by
  rw [rpcLoop, rpcLoop, ← forget_rpcLoopPublish]
  generalize rpcLoopPublish (recording writePacket) h = h
  have hstats := forget_rpcSendStats writePacket (chTimeElapsedSince h.rpc.sendstats h).2
  refine forget_ite ?_ rfl
  exact congrArg (fun h : Host ρ => { (chTimeNow h).2 with rpc.sendstats := (chTimeNow h).1 }) hstats

end Recording

def RpcSubscription.Supported (sub : RpcSubscription) : Prop :=
  sub.topic = messagesTopicClock ∧ sub.subtopic = messagesTopicClockSubtopicNow ∨
    sub.topic = messagesTopicMotor ∧
      (sub.subtopic.toNat < kVexMotorNum ∨ sub.subtopic = messagesTopicMotorSubtopicAll) ∨
    sub.topic = messagesTopicAll ∧ sub.subtopic = messagesTopicAllSubtopicAll

namespace RpcSubscription

variable {sub : RpcSubscription}

instance : Decidable sub.Supported := inferInstanceAs (Decidable (_ ∨ _))

theorem supported_clock (htopic : sub.topic = messagesTopicClock) :
    sub.subtopic = messagesTopicClockSubtopicNow ↔ sub.Supported := by
  simp [Supported, htopic, show messagesTopicClock ≠ messagesTopicMotor by decide,
    show messagesTopicClock ≠ messagesTopicAll by decide]

theorem supported_motor (htopic : sub.topic = messagesTopicMotor) :
    sub.subtopic.toNat < kVexMotorNum ∨ sub.subtopic = messagesTopicMotorSubtopicAll ↔
      sub.Supported := by
  simp [Supported, htopic, show messagesTopicMotor ≠ messagesTopicClock by decide,
    show messagesTopicMotor ≠ messagesTopicAll by decide]

theorem supported_all (htopic : sub.topic = messagesTopicAll) :
    sub.subtopic = messagesTopicAllSubtopicAll ↔ sub.Supported := by
  simp [Supported, htopic, show messagesTopicAll ≠ messagesTopicClock by decide,
    show messagesTopicAll ≠ messagesTopicMotor by decide]

end RpcSubscription

variable {ρ : Type u} {writePacket : List UInt8 → Host ρ → Host ρ}

structure Wrote (h : Host (ρ × List (List UInt8))) (packets : List (List UInt8))
    (h' : Host (ρ × List (List UInt8))) : Prop where
  subs_eq : h'.rpc.subs = h.rpc.subs
  packets_eq : h'.outer.2 = h.outer.2 ++ packets

variable {h h' h'' : Host (ρ × List (List UInt8))} {packets packets' : List (List UInt8)}

theorem Wrote.quiet (hsubs : h'.rpc.subs = h.rpc.subs) (houter : h'.outer = h.outer) :
    Wrote h [] h' :=
  ⟨hsubs, by rw [houter, List.append_nil]⟩

theorem Wrote.trans (hfst : Wrote h packets h') (hsnd : Wrote h' packets' h'') :
    Wrote h (packets ++ packets') h'' :=
  ⟨hsnd.subs_eq.trans hfst.subs_eq,
    by rw [hsnd.packets_eq, hfst.packets_eq, List.append_assoc]⟩

def RpcSubscription.Owns (sub : RpcSubscription) (flag : UInt8) (packet : List UInt8) : Prop :=
  ∃ topic subtopic value, IsData packet sub.reqId topic subtopic flag value

def SlotKept (i : Fin rpcSubMax) (h : Host (ρ × List (List UInt8))) (packets : List (List UInt8))
    (h' : Host (ρ × List (List UInt8))) : Prop :=
  Wrote h packets h' ∧ ∀ packet ∈ packets, (h.rpc.subs i).Owns messagesDataFlagPub packet

def RpcSubscription.GivesUp (sub : RpcSubscription) (packet : List UInt8) : Prop :=
  ∃ error, IsData packet sub.reqId sub.topic sub.subtopic
    (messagesDataFlagPub ||| messagesDataFlagError ||| messagesDataFlagEnd) [error]

def SlotDropped (i : Fin rpcSubMax) (h : Host (ρ × List (List UInt8))) (packets : List (List UInt8))
    (h' : Host (ρ × List (List UInt8))) : Prop :=
  (∃ packet, packets = [packet] ∧ (h.rpc.subs i).GivesUp packet) ∧
    h'.rpc.subs = Function.update h.rpc.subs i .empty ∧ h'.outer.2 = h.outer.2 ++ packets

def Turn (supported : Prop) (i : Fin rpcSubMax) (h : Host (ρ × List (List UInt8)))
    (packets : List (List UInt8)) (h' : Host (ρ × List (List UInt8))) : Prop :=
  (supported → SlotKept i h packets h') ∧ (¬ supported → SlotDropped i h packets h')

theorem SlotKept.turn {i : Fin rpcSubMax} {supported : Prop} (hs : supported)
    (hk : SlotKept i h packets h') : Turn supported i h packets h' :=
  ⟨fun _ => hk, fun hnot => absurd hs hnot⟩

theorem SlotDropped.turn {i : Fin rpcSubMax} {supported : Prop} (hs : ¬ supported)
    (hd : SlotDropped i h packets h') : Turn supported i h packets h' :=
  ⟨fun hyes => absurd hyes hs, fun _ => hd⟩

theorem Turn.congr {i : Fin rpcSubMax} {supported supported' : Prop}
    (ht : Turn supported i h packets h') (hiff : supported ↔ supported') :
    Turn supported' i h packets h' :=
  ⟨fun hs => ht.1 (hiff.mpr hs), fun hs => ht.2 (mt hiff.mp hs)⟩

/-- What a round makes of a slot. -/
structure Rounded (sub sub' : RpcSubscription) (packets : List (List UInt8)) : Prop where
  kept : ¬ sub.active ∨ sub.Supported → sub' = sub
  own : ∀ packet ∈ packets, ∃ flag, sub.Owns flag packet
  idle : ¬ sub.active → packets = []
  plain : sub.Supported → ∀ packet ∈ packets, sub.Owns messagesDataFlagPub packet
  dropped : sub.active → ¬ sub.Supported →
    sub' = .empty ∧ ∃ packet, packets = [packet] ∧ sub.GivesUp packet

section Turn

variable (hrpc : ∀ packet h, (writePacket packet h).rpc = h.rpc) (i : Fin rpcSubMax)
  (h : Host (ρ × List (List UInt8)))
include hrpc

theorem rpcSend_wrote {message : MessageAny}
    (hpos : messageGetsizeof message ≠ 0) (hsize : messageGetsizeof message ≤ sfpConfigMaxPacketSize) :
    Wrote h [messageOctets message] (rpcSend (recording writePacket) message h) := by
  let _ := Posting.recording writePacket hrpc
  have hposted := rpcSend_posted (recording writePacket) h hpos hsize
  exact ⟨hposted.subs_eq, hposted.sent_eq⟩

theorem rpcSendData_wrote (reqId : UInt16) (topic subtopic flag : UInt8) {value : List UInt8}
    (hvalue : value.length ≤ 245) :
    ∃ packet, IsData packet reqId topic subtopic flag value ∧
      Wrote h [packet] (rpcSendData (recording writePacket) reqId topic subtopic flag value h) := by
  let _ := Posting.recording writePacket hrpc
  obtain ⟨packet, hdata, hposted⟩ :=
    rpcSendData_posted (recording writePacket) reqId topic subtopic flag hvalue h
  exact ⟨packet, hdata, hposted.subs_eq, hposted.sent_eq⟩

theorem rpcSendPub_keeps (h' : Host (ρ × List (List UInt8))) (hquiet : Wrote h [] h')
    {value : List UInt8} (hvalue : value.length ≤ 245) :
    ∃ packets, SlotKept i h packets (rpcSendPub (recording writePacket) (h.rpc.subs i) value h') := by
  obtain ⟨packet, hdata, hwrote⟩ := rpcSendData_wrote hrpc h' (h.rpc.subs i).reqId
    (h.rpc.subs i).topic (h.rpc.subs i).subtopic messagesDataFlagPub hvalue
  refine ⟨[packet], hquiet.trans hwrote, ?_⟩
  exact List.forall_mem_singleton.mpr ⟨_, _, _, hdata⟩

theorem refuse_drops (error : UInt8) :
    ∃ packets, SlotDropped i h packets
      (rpcSubReset i (rpcSendPubError (recording writePacket) (h.rpc.subs i) error h)) := by
  obtain ⟨packet, hdata, hwrote⟩ := rpcSendData_wrote hrpc h (h.rpc.subs i).reqId
    (h.rpc.subs i).topic (h.rpc.subs i).subtopic
    (messagesDataFlagPub ||| messagesDataFlagError ||| messagesDataFlagEnd)
    (show [error].length ≤ 245 by simp)
  refine ⟨[packet], ⟨packet, rfl, error, hdata⟩, ?_, hwrote.packets_eq⟩
  exact congrArg (Function.update · i .empty) hwrote.subs_eq

theorem rpcPublishClock_turn :
    ∃ packets, Turn ((h.rpc.subs i).subtopic = messagesTopicClockSubtopicNow) i h packets
      (rpcPublishClock (recording writePacket) i h) := by
  unfold rpcPublishClock
  dsimp only
  split
  case isTrue hnow =>
    obtain ⟨packets, hkeeps⟩ := rpcSendPub_keeps hrpc i h (chTimeNow h).2 (.quiet rfl rfl)
      (show (memory64 (htonll (chTimeNow h).1.toUInt64)).length ≤ 245 from
        Nat.le_of_ble_eq_true rfl)
    exact ⟨packets, hkeeps.turn hnow⟩
  case isFalse hnot =>
    obtain ⟨packets, hdrops⟩ := refuse_drops hrpc i h messagesErrorBadSubtopic
    exact ⟨packets, hdrops.turn hnot⟩

theorem rpcPublishMotor_turn :
    ∃ packets, Turn ((h.rpc.subs i).subtopic.toNat < kVexMotorNum ∨
        (h.rpc.subs i).subtopic = messagesTopicMotorSubtopicAll) i h packets
      (rpcPublishMotor (recording writePacket) i h) := by
  have hnothing (h' : Host (ρ × List (List UInt8))) (hquiet : Wrote h [] h') : SlotKept i h [] h' :=
    ⟨hquiet, List.forall_mem_nil _⟩
  unfold rpcPublishMotor
  dsimp only
  split
  case isTrue hindex =>
    split
    · exact ⟨[], (hnothing h (.quiet rfl rfl)).turn (.inl hindex)⟩
    · let index : Fin kVexMotorNum := ⟨(h.rpc.subs i).subtopic.toNat, hindex⟩
      let value := vexMotorGet index h
      obtain ⟨packets, hkeeps⟩ := rpcSendPub_keeps hrpc i h
        { h with rpc.motor := Function.update h.rpc.motor index value } (.quiet rfl rfl)
        (show [value.toUInt8].length ≤ 245 by simp)
      exact ⟨packets, hkeeps.turn (.inl hindex)⟩
  case isFalse hindex =>
    split
    case isTrue hall =>
      have hlen := collectMotors_length h.board.motors h.rpc.motor false
      generalize collectMotors h.board.motors h.rpc.motor false = collected at hlen ⊢
      obtain ⟨tmp, motor⟩ := collected
      dsimp only
      split
      · obtain ⟨packets, hkeeps⟩ := rpcSendPub_keeps hrpc i h { h with rpc.motor := motor }
          (.quiet rfl rfl) (hlen.trans (by decide))
        exact ⟨packets, hkeeps.turn (.inr hall)⟩
      · exact ⟨[], (hnothing { h with rpc.motor := motor } (.quiet rfl rfl)).turn (.inr hall)⟩
    case isFalse hall =>
      obtain ⟨packets, hdrops⟩ := refuse_drops hrpc i h messagesErrorBadSubtopic
      exact ⟨packets, hdrops.turn (not_or.mpr ⟨hindex, hall⟩)⟩

omit hrpc in
theorem retopic_slot (topic subtopic : UInt8) :
    (retopic i topic subtopic h).rpc.subs i =
      { h.rpc.subs i with topic := topic, subtopic := subtopic } :=
  Function.update_self ..

omit hrpc in
theorem retopic_of_ne (topic subtopic : UInt8) {k : Fin rpcSubMax} (hk : k ≠ i) :
    (retopic i topic subtopic h).rpc.subs k = h.rpc.subs k :=
  Function.update_of_ne hk ..

theorem rpcPublishAll_turn :
    ∃ packets, Turn ((h.rpc.subs i).subtopic = messagesTopicAllSubtopicAll) i h packets
      (rpcPublishAll (recording writePacket) i h) := by
  rw [rpcPublishAll_eq]
  split
  case isTrue hall =>
    let h₁ := retopic i messagesTopicClock messagesTopicClockSubtopicNow h
    obtain ⟨packets₁, hclock, -⟩ := rpcPublishClock_turn hrpc i h₁
    obtain ⟨hwrote₁, hown₁⟩ := hclock (congrArg RpcSubscription.subtopic (retopic_slot i h _ _))
    let h₂ := rpcPublishClock (recording writePacket) i h₁
    let h₃ := retopic i messagesTopicMotor messagesTopicMotorSubtopicAll h₂
    obtain ⟨packets₂, hmotor, -⟩ := rpcPublishMotor_turn hrpc i h₃
    obtain ⟨hwrote₂, hown₂⟩ :=
      hmotor (.inr (congrArg RpcSubscription.subtopic (retopic_slot i h₂ _ _)))
    let h₄ := rpcPublishMotor (recording writePacket) i h₃
    have hslot₁ : h₁.rpc.subs i = { h.rpc.subs i with
        topic := messagesTopicClock, subtopic := messagesTopicClockSubtopicNow } :=
      retopic_slot i h _ _
    have hslot₃ : h₃.rpc.subs i = { h.rpc.subs i with
        topic := messagesTopicMotor, subtopic := messagesTopicMotorSubtopicAll } := by
      rw [show h₃.rpc.subs i = _ from retopic_slot i h₂ _ _, hwrote₁.subs_eq, hslot₁]
    refine ⟨packets₁ ++ packets₂, SlotKept.turn hall ⟨⟨funext fun k => ?_, ?_⟩, ?_⟩⟩
    · by_cases hk : k = i
      · subst hk
        rw [retopic_slot, hwrote₂.subs_eq, hslot₃]
      · rw [retopic_of_ne _ _ _ _ hk, hwrote₂.subs_eq, retopic_of_ne _ _ _ _ hk,
          hwrote₁.subs_eq, retopic_of_ne _ _ _ _ hk]
    · exact hwrote₂.packets_eq.trans (by
        rw [← List.append_assoc]
        exact congrArg (· ++ packets₂) hwrote₁.packets_eq)
    · rw [hslot₁] at hown₁
      rw [hslot₃] at hown₂
      exact List.forall_mem_append.mpr ⟨hown₁, hown₂⟩
  case isFalse hnot =>
    obtain ⟨packets, hdrops⟩ := refuse_drops hrpc i h messagesErrorBadSubtopic
    exact ⟨packets, hdrops.turn hnot⟩

theorem rpcPublish_turn (hactive : (h.rpc.subs i).active = true) :
    ∃ packets, Turn (h.rpc.subs i).Supported i h packets
      (rpcPublish (recording writePacket) i h) := by
  unfold rpcPublish
  dsimp only
  rw [if_neg (by simp [hactive])]
  split
  case isTrue hclock =>
    obtain ⟨packets, hturn⟩ := rpcPublishClock_turn hrpc i h
    exact ⟨packets, hturn.congr (RpcSubscription.supported_clock hclock)⟩
  split
  case isTrue hmotor =>
    obtain ⟨packets, hturn⟩ := rpcPublishMotor_turn hrpc i h
    exact ⟨packets, hturn.congr (RpcSubscription.supported_motor hmotor)⟩
  split
  case isTrue hall =>
    obtain ⟨packets, hturn⟩ := rpcPublishAll_turn hrpc i h
    exact ⟨packets, hturn.congr (RpcSubscription.supported_all hall)⟩
  case isFalse hclock hmotor hall =>
    obtain ⟨packets, hdrops⟩ := refuse_drops hrpc i h messagesErrorBadTopic
    exact ⟨packets, hdrops.turn (by simp [RpcSubscription.Supported, hclock, hmotor, hall])⟩

theorem rpcPublish_rounded :
    ∃ packets, let h' := if (h.rpc.subs i).active then rpcPublish (recording writePacket) i h else h
      Rounded (h.rpc.subs i) (h'.rpc.subs i) packets ∧ h'.outer.2 = h.outer.2 ++ packets ∧
      ∀ k, k ≠ i → h'.rpc.subs k = h.rpc.subs k := by
  by_cases hactive : (h.rpc.subs i).active = true
  · obtain ⟨packets, hturn⟩ := rpcPublish_turn hrpc i h hactive
    rw [if_pos hactive]
    refine ⟨packets, ?_⟩
    by_cases hs : (h.rpc.subs i).Supported
    · obtain ⟨hwrote, hown⟩ := hturn.1 hs
      refine ⟨⟨fun _ => congrFun hwrote.subs_eq i, fun packet hp => ⟨_, hown packet hp⟩,
        fun hidle => absurd hactive hidle, fun _ => hown, fun _ hnot => absurd hs hnot⟩,
        hwrote.packets_eq, fun k _ => congrFun hwrote.subs_eq k⟩
    · obtain ⟨⟨packet, rfl, hgives⟩, hsubs, hpackets⟩ := hturn.2 hs
      refine ⟨⟨fun hkept => ?_, ?_, fun hidle => absurd hactive hidle, fun hyes => absurd hyes hs,
        fun _ _ => ⟨?_, packet, rfl, hgives⟩⟩, hpackets, fun k hk => ?_⟩
      · exact absurd hkept (not_or.mpr ⟨not_not.mpr hactive, hs⟩)
      · obtain ⟨error, hdata⟩ := hgives
        exact List.forall_mem_singleton.mpr ⟨_, _, _, _, hdata⟩
      · rw [hsubs, Function.update_self]
      · rw [hsubs, Function.update_of_ne hk]
  · rw [if_neg hactive]
    exact ⟨[], ⟨fun _ => rfl, List.forall_mem_nil _, fun _ => rfl, fun _ => List.forall_mem_nil _,
      fun hyes => absurd hyes hactive⟩, (List.append_nil _).symm, fun _ _ => rfl⟩

theorem foldl_rpcPublish_rounded {slots : List (Fin rpcSubMax)} (hnodup : slots.Nodup) :
    ∃ sent : Fin rpcSubMax → List (List UInt8),
      let h' := slots.foldl
        (fun h i => if (h.rpc.subs i).active then rpcPublish (recording writePacket) i h else h) h
      h'.outer.2 = h.outer.2 ++ slots.flatMap sent ∧
      ∀ i, (i ∈ slots → Rounded (h.rpc.subs i) (h'.rpc.subs i) (sent i)) ∧
        (i ∉ slots → h'.rpc.subs i = h.rpc.subs i) := by
  induction slots generalizing h with
  | nil =>
    exact ⟨fun _ => [], (List.append_nil _).symm, fun i => ⟨fun hi => absurd hi List.not_mem_nil,
      fun _ => rfl⟩⟩
  | cons slot slots ih =>
    obtain ⟨hslot, hnodup⟩ := List.nodup_cons.mp hnodup
    obtain ⟨packets, hrounded, hpackets, hothers⟩ := rpcPublish_rounded hrpc slot h
    obtain ⟨sent, hsent, hslots⟩ := ih
      (if (h.rpc.subs slot).active then rpcPublish (recording writePacket) slot h else h) hnodup
    have hrest : slots.flatMap (Function.update sent slot packets) = slots.flatMap sent :=
      List.flatMap_congr fun i hi => Function.update_of_ne (ne_of_mem_of_not_mem hi hslot) ..
    refine ⟨Function.update sent slot packets, ?_, fun i => ⟨fun hi => ?_, fun hi => ?_⟩⟩
    · rw [List.foldl_cons, hsent, hpackets, List.flatMap_cons, Function.update_self, hrest,
        List.append_assoc]
    · rw [List.foldl_cons]
      by_cases heq : i = slot
      · subst heq
        rw [Function.update_self, (hslots i).2 hslot]
        exact hrounded
      · rw [Function.update_of_ne heq, ← hothers i heq]
        exact (hslots i).1 ((List.mem_cons.mp hi).resolve_left heq)
    · obtain ⟨hne, hrest⟩ := not_or.mp (mt List.mem_cons.mpr hi)
      rw [List.foldl_cons, (hslots i).2 hrest, hothers i hne]

theorem rpcSendStats_wrote :
    ∃ packet info, ReadsAs packet (.info info) ∧
      Wrote h [packet] (rpcSendStats (recording writePacket) h) := by
  let tmp := memory32 (htonl (chTimeNow h).1) ++ memory16 (htons h.board.mainBattery) ++
    memory16 (htons h.board.backupBattery)
  let info : MessageInfo :=
    ⟨messagesTopicRobot, messagesTopicRobotSubtopicSpi, UInt8.ofNat tmp.length, tmp⟩
  have hsize : messageGetsizeof (.info info) = 12 := rfl
  have hwrote := rpcSend_wrote hrpc (chTimeNow h).2 (hsize.trans_ne (by decide))
    (hsize.trans_le (by decide))
  exact ⟨_, info, messageOctets_readsAs rfl, hwrote.subs_eq, hwrote.packets_eq⟩

theorem rpcLoopStats_wrote :
    ∃ packets, Wrote h packets (rpcLoopStats (recording writePacket) h) ∧
      ∀ packet ∈ packets, ∃ info, ReadsAs packet (.info info) := by
  unfold rpcLoopStats
  dsimp only
  split
  · obtain ⟨packet, info, hreads, hwrote⟩ :=
      rpcSendStats_wrote hrpc (chTimeElapsedSince h.rpc.sendstats h).2
    exact ⟨[packet], ⟨hwrote.subs_eq, hwrote.packets_eq⟩,
      List.forall_mem_singleton.mpr ⟨info, hreads⟩⟩
  · exact ⟨[], .quiet rfl rfl, List.forall_mem_nil _⟩

end Turn

/-- A round drops the slots that ask for what is not published, each with one error, and keeps all
others; what is sent for a slot carries its id. -/
theorem publication_round (hrpc : ∀ packet h, (writePacket packet h).rpc = h.rpc) (h : Host ρ)
    (hdue : h.board.clock 0 - h.rpc.published ≥ rpcPubTimeout) :
    let h' := rpcLoop (some writePacket) h
    let packets := (rpcLoop (recording writePacket) h.recorded).outer.2
    ∃ (sent : Fin rpcSubMax → List (List UInt8)) (stats : List (List UInt8)),
      packets = (List.finRange rpcSubMax).flatMap sent ++ stats ∧
      (∀ packet ∈ stats, ∃ info, ReadsAs packet (.info info)) ∧
      ∀ i, Rounded (h.rpc.subs i) (h'.rpc.subs i) (sent i) := by
  intro h' packets
  have hforget : h' = (rpcLoop (recording writePacket) h.recorded).forget :=
    (forget_rpcLoop writePacket h.recorded).symm
  obtain ⟨sent, hsent, hslots⟩ := foldl_rpcPublish_rounded hrpc
    (chTimeElapsedSince h.rpc.published h.recorded).2 (List.nodup_finRange rpcSubMax)
  obtain ⟨stats, hwrote, hstats⟩ :=
    rpcLoopStats_wrote hrpc (rpcLoopPublish (recording writePacket) h.recorded)
  have hround : Wrote (rpcPublishRound (recording writePacket)
      (chTimeElapsedSince h.rpc.published h.recorded).2) []
      (rpcLoopPublish (recording writePacket) h.recorded) := by
    have heq : rpcLoopPublish (recording writePacket) h.recorded = _ := if_pos hdue
    rw [heq]
    exact .quiet rfl rfl
  have hall := hround.trans hwrote
  refine ⟨sent, stats, ?_, hstats, fun i => ?_⟩
  · rw [show packets = _ from hall.packets_eq]
    exact congrArg (· ++ stats) hsent
  · rw [hforget]
    have hrounded := (hslots i).1 (List.mem_finRange i)
    rw [← rpcPublishRound, ← hall.subs_eq] at hrounded
    exact hrounded

theorem publication_round_pubsub :
    let sub : RpcSubscription := ⟨true, 7, messagesTopicPubsub, messagesTopicPubsubSubtopicAll⟩
    let h : Host Unit := ⟨{ Rpc.connected with subs := Function.update (fun _ => .empty) 3 sub },
      { Board.still with clock := fun _ => 25 }, ()⟩
    (rpcLoop (some fun _ h => h) h).rpc.subs 3 = .empty := by
  intro sub h
  obtain ⟨sent, stats, -, -, hslots⟩ :=
    @publication_round Unit (fun _ h => h) (fun _ _ => rfl) h (by decide)
  exact ((hslots 3).dropped rfl (by decide)).1

end TurningPoint
