import TurningPoint.Rpc.Subscriptions

universe u

namespace TurningPoint

theorem rpcSubFindLoop_cases (rpc : Rpc) (reqId : UInt16) (slots : List (Fin rpcSubMax)) :
    (∃ i ∈ slots, ((rpc.subs i).active = true ∧ (rpc.subs i).reqId = reqId) ∧
      rpcSubFindLoop rpc reqId true slots = (1, some i)) ∨
    (∀ i ∈ slots, ¬ ((rpc.subs i).active = true ∧ (rpc.subs i).reqId = reqId)) ∧
      rpcSubFindLoop rpc reqId true slots = (0, none) := by
  induction slots with
  | nil => exact .inr ⟨List.forall_mem_nil _, rfl⟩
  | cons i slots ih =>
    rw [rpcSubFindLoop]
    by_cases hfound : (rpc.subs i).active = true ∧ (rpc.subs i).reqId = reqId
    · rw [if_pos hfound]
      exact .inl ⟨i, List.mem_cons_self, hfound, rfl⟩
    · rw [if_neg hfound]
      obtain ⟨j, hj, hother⟩ | ⟨hnone, heq⟩ := ih
      · exact .inl ⟨j, List.mem_cons_of_mem i hj, hother⟩
      · exact .inr ⟨List.forall_mem_cons.mpr ⟨hfound, hnone⟩, heq⟩

theorem rpcSubFind_cases (rpc : Rpc) (reqId : UInt16) :
    (∃ i, ((rpc.subs i).active = true ∧ (rpc.subs i).reqId = reqId) ∧
      rpcSubFind rpc reqId true = (1, some i)) ∨
    ¬ rpc.ActiveId reqId ∧ rpcSubFind rpc reqId true = (0, none) := by
  obtain ⟨i, -, hfound⟩ | ⟨hnone, heq⟩ :=
    rpcSubFindLoop_cases rpc reqId (List.finRange rpcSubMax)
  · exact .inl ⟨i, hfound⟩
  · exact .inr ⟨fun ⟨i, hi⟩ => hnone i (List.mem_finRange i) hi, heq⟩

section Handler

variable {ρ : Type u} (wp : WritePacket ρ) (m : MessageUnsubscribe) {h : Host ρ}

theorem rpcRecvUnsubscribe_missing (hmissing : ¬ h.rpc.ActiveId m.reqId) :
    rpcRecvUnsubscribe wp m h =
      rpcSendData wp m.reqId messagesTopicAll messagesTopicAllSubtopicAll
        (messagesDataFlagPub ||| messagesDataFlagEnd) []
        (rpcSendPubError wp ⟨true, m.reqId, messagesTopicAll, messagesTopicAllSubtopicAll⟩
          messagesErrorBadReqId h) := by
  obtain ⟨i, hi, -⟩ | ⟨-, hfind⟩ := rpcSubFind_cases h.rpc m.reqId
  · exact absurd ⟨i, hi⟩ hmissing
  · rw [rpcRecvUnsubscribe, hfind]

theorem rpcRecvUnsubscribe_found (hfound : h.rpc.ActiveId m.reqId) :
    ∃ i, ((h.rpc.subs i).active = true ∧ (h.rpc.subs i).reqId = m.reqId) ∧
      rpcRecvUnsubscribe wp m h =
        rpcSubReset i (rpcSendData wp m.reqId (h.rpc.subs i).topic (h.rpc.subs i).subtopic
          (messagesDataFlagPub ||| messagesDataFlagEnd) [] h) := by
  obtain ⟨i, hi, hfind⟩ | ⟨hmissing, -⟩ := rpcSubFind_cases h.rpc m.reqId
  · refine ⟨i, hi, ?_⟩
    rw [rpcRecvUnsubscribe, hfind, ← hi.2]
  · exact absurd hfound hmissing

end Handler

def Rpc.OneActive (rpc : Rpc) (reqId : UInt16) : Prop :=
  ∃! i, (rpc.subs i).active = true ∧ (rpc.subs i).reqId = reqId

section Posting

variable {ρ : Type u} (wp : WritePacket ρ) [Posting wp]

def ClosedWith (m : MessageUnsubscribe) (flag : UInt8) (h h' : Host ρ) : Prop :=
  ∃ packet topic subtopic value, sent wp h' = sent wp h ++ [packet] ∧
    IsData packet m.reqId topic subtopic flag value ∧
    (flag &&& messagesDataFlagError ≠ 0 → value = [messagesErrorBadReqId])

/-- UNSUBSCRIBE is answered once, with an error if there was nothing to end, and takes effect. -/
structure Unsubscribed (m : MessageUnsubscribe) (h h' : Host ρ) : Prop where
  found : h.rpc.ActiveId m.reqId →
    ClosedWith wp m (messagesDataFlagPub ||| messagesDataFlagEnd) h h'
  missing : ¬ h.rpc.ActiveId m.reqId →
    ClosedWith wp m (messagesDataFlagPub ||| messagesDataFlagError ||| messagesDataFlagEnd) h h'
  gone : ¬ h'.rpc.ActiveId m.reqId
  others : ∀ i, (h.rpc.subs i).reqId ≠ m.reqId → h'.rpc.subs i = h.rpc.subs i

variable (m : MessageUnsubscribe) (h : Host ρ)

theorem rpcRecv_unsubscribe_missing (hmissing : ¬ h.rpc.ActiveId m.reqId) :
    ∃ error packet,
      sent wp (rpcRecv wp (.unsubscribe m) h) = sent wp h ++ [error, packet] := by
  obtain ⟨error, -, herror⟩ := rpcSendData_posted wp m.reqId messagesTopicAll
    messagesTopicAllSubtopicAll
    (messagesDataFlagPub ||| messagesDataFlagError ||| messagesDataFlagEnd)
    (show [messagesErrorBadReqId].length ≤ 245 by decide) h
  obtain ⟨packet, -, hpacket⟩ := rpcSendData_posted wp m.reqId messagesTopicAll
    messagesTopicAllSubtopicAll (messagesDataFlagPub ||| messagesDataFlagEnd)
    (List.length_nil.trans_le (Nat.zero_le 245)) _
  exact ⟨error, packet, (congrArg (sent wp) (rpcRecvUnsubscribe_missing wp m hmissing)).trans
    (herror.trans hpacket).sent_eq⟩

theorem rpcRecv_unsubscribe_found (hfound : h.rpc.ActiveId m.reqId) :
    ∃ i, ((h.rpc.subs i).active = true ∧ (h.rpc.subs i).reqId = m.reqId) ∧
      (∃ packet topic subtopic,
        sent wp (rpcRecv wp (.unsubscribe m) h) = sent wp h ++ [packet] ∧
        IsData packet m.reqId topic subtopic (messagesDataFlagPub ||| messagesDataFlagEnd) []) ∧
      (rpcRecv wp (.unsubscribe m) h).rpc.subs =
        Function.update h.rpc.subs i .empty := by
  obtain ⟨i, hi, heq⟩ := rpcRecvUnsubscribe_found wp m hfound
  obtain ⟨packet, hdata, hposted⟩ := rpcSendData_posted wp m.reqId
    (h.rpc.subs i).topic (h.rpc.subs i).subtopic (messagesDataFlagPub ||| messagesDataFlagEnd)
    (List.length_nil.trans_le (Nat.zero_le 245)) h
  refine ⟨i, hi, ⟨packet, _, _, (congrArg (sent wp) heq).trans hposted.sent_eq, hdata⟩, ?_⟩
  rw [← hposted.subs_eq]
  exact congrArg (fun h : Host ρ => h.rpc.subs) heq

theorem unsubscribed_iff :
    Unsubscribed wp m h (rpcRecv wp (.unsubscribe m) h) ↔ h.rpc.OneActive m.reqId := by
  constructor
  · intro hdone
    by_cases hactive : h.rpc.ActiveId m.reqId
    · obtain ⟨i, hi, -, hsubs⟩ := rpcRecv_unsubscribe_found wp m h hactive
      refine ⟨i, hi, fun j hj => ?_⟩
      by_contra hne
      refine hdone.gone ⟨j, ?_⟩
      rw [hsubs, Function.update_of_ne hne]
      exact hj
    · obtain ⟨error, packet, htwo⟩ := rpcRecv_unsubscribe_missing wp m h hactive
      obtain ⟨packet', -, -, -, hone, -⟩ := hdone.missing hactive
      have := List.append_cancel_left (htwo.symm.trans hone)
      cases this
  · rintro ⟨k, hk, hunique⟩
    have hactive : h.rpc.ActiveId m.reqId := ⟨k, hk⟩
    obtain ⟨i, hi, ⟨packet, topic, subtopic, houter, hdata⟩, hsubs⟩ :=
      rpcRecv_unsubscribe_found wp m h hactive
    refine ⟨fun _ => ⟨packet, topic, subtopic, [], houter, hdata, fun herror => ?_⟩,
      fun hmissing => absurd hactive hmissing, ?_, fun j hj => ?_⟩
    · exact absurd rfl herror
    · rintro ⟨j, hj, hid⟩
      rw [hsubs] at hj hid
      by_cases hji : j = i
      · rw [hji, Function.update_self] at hj
        cases hj
      · rw [Function.update_of_ne hji] at hj hid
        exact hji ((hunique j ⟨hj, hid⟩).trans (hunique i hi).symm)
    · rw [hsubs, Function.update_of_ne]
      rintro rfl
      exact hj hi.2

def WellFormed (h : Host ρ) (action : Action) : Prop :=
  NewId h action ∧ ∀ m, action = .recv (.unsubscribe m) → h.rpc.ActiveId m.reqId

/-- UNSUBSCRIBE does its work exactly where one active slot has the request id, and so all along
every run whose messages work. -/
theorem unsubscribe_once :
    (∀ m, Unsubscribed wp m h (rpcRecv wp (.unsubscribe m) h) ↔ h.rpc.OneActive m.reqId) ∧
    ∀ actions, h.rpc.UniqueIds → Lib.Along WellFormed (sessionStep wp) h actions →
      Lib.Along (fun h action => ∀ m, action = .recv (.unsubscribe m) →
        Unsubscribed wp m h (sessionStep wp h action)) (sessionStep wp) h actions := by
  refine ⟨fun m => unsubscribed_iff wp m h, fun actions hunique halong => ?_⟩
  have hkeeps (h : Host ρ) (action : Action) (hunique : h.rpc.UniqueIds)
      (hwell : WellFormed h action) : (sessionStep wp h action).rpc.UniqueIds :=
    sessionStep_uniqueIds h action hunique hwell.1
  have hanswers (h : Host ρ) (action : Action) (hunique : h.rpc.UniqueIds)
      (hwell : WellFormed h action) (m : MessageUnsubscribe) (hm : action = .recv (.unsubscribe m)) :
      Unsubscribed wp m h (sessionStep wp h action) := by
    subst hm
    obtain ⟨i, hi⟩ := hwell.2 m rfl
    refine (unsubscribed_iff wp m h).mpr ⟨i, hi, fun j hj => ?_⟩
    exact hunique j i hj.1 hi.1 (hj.2.trans hi.2.symm)
  exact halong.imp_while hanswers hkeeps hunique

end Posting

theorem unsubscribe_once_clock :
    let h := rpcRecv keepPacket (.subscribe clockSubscribe) Session.fresh
    Unsubscribed keepPacket ⟨7⟩ h (rpcRecv keepPacket (.unsubscribe ⟨7⟩) h) := by
  intro h
  refine ((unsubscribe_once keepPacket h).1 ⟨7⟩).mpr ⟨0, by decide, ?_⟩
  decide

/-- With no slot to end two frames are sent, and of two slots one stays. -/
theorem not_unsubscribed :
    let h := rpcRecv keepPacket (.subscribe clockSubscribe) Session.fresh
    let h' := rpcRecv keepPacket (.subscribe clockSubscribe) h
    ¬ Unsubscribed keepPacket ⟨7⟩ Session.fresh (rpcRecv keepPacket (.unsubscribe ⟨7⟩) Session.fresh) ∧
    ¬ Unsubscribed keepPacket ⟨7⟩ h' (rpcRecv keepPacket (.unsubscribe ⟨7⟩) h') := by
  intro h h'
  rw [unsubscribed_iff, unsubscribed_iff]
  constructor
  · rintro ⟨i, hi, -⟩
    cases hi.1
  · rintro ⟨i, -, hunique⟩
    have := (hunique 0 (by decide)).trans (hunique 1 (by decide)).symm
    cases this

end TurningPoint
