import TurningPoint.Lib.Run
import TurningPoint.Rpc.Session

universe u

namespace TurningPoint

def Rpc.ActiveId (rpc : Rpc) (reqId : UInt16) : Prop :=
  ∃ i, (rpc.subs i).active = true ∧ (rpc.subs i).reqId = reqId

def Rpc.Full (rpc : Rpc) : Prop := ∀ i, (rpc.subs i).active = true

def Rpc.UniqueIds (rpc : Rpc) : Prop :=
  ∀ i j, (rpc.subs i).active = true → (rpc.subs j).active = true →
    (rpc.subs i).reqId = (rpc.subs j).reqId → i = j

theorem rpcSubFind_null (rpc : Rpc) (reqId : UInt16) : rpcSubFind rpc reqId false = (0, none) := by
  have hloop (slots : List (Fin rpcSubMax)) :
      rpcSubFindLoop rpc reqId false slots = (0, none) := by
    induction slots with
    | nil => rfl
    | cons i slots ih => simp [rpcSubFindLoop, ih]
  exact hloop _

theorem rpcSubFree_count {rpc : Rpc} : (rpcSubFree rpc).1 = 0 ↔ rpc.Full := by
  simp [rpcSubFree, Rpc.Full, List.length_eq_zero_iff, List.filter_eq_nil_iff]

theorem rpcSubFree_inactive {rpc : Rpc} {i : Fin rpcSubMax} (hi : (rpcSubFree rpc).2 = some i) :
    (rpc.subs i).active = false := by
  have hmem := List.mem_of_mem_head? (Option.mem_def.mpr hi)
  simpa using (List.mem_filter.mp hmem).2

theorem rpcSubFree_some {rpc : Rpc} (hfull : ¬ rpc.Full) : ∃ i, (rpcSubFree rpc).2 = some i := by
  rw [← rpcSubFree_count] at hfull
  exact Option.ne_none_iff_exists'.mp fun hnone =>
    hfull (by rw [rpcSubFree, List.head?_eq_none_iff.mp hnone]; rfl)

def MessageSubscribe.slot (m : MessageSubscribe) : RpcSubscription :=
  ⟨true, m.reqId, m.topic, m.subtopic⟩

section Outcome

variable {ρ : Type u} (wp : WritePacket ρ) [Posting wp]

def Refused (m : MessageSubscribe) (error : UInt8) (h h' : Host ρ) : Prop :=
  (∃ packet, sent wp h' = sent wp h ++ [packet] ∧ IsData packet m.reqId m.topic m.subtopic
    (messagesDataFlagPub ||| messagesDataFlagError ||| messagesDataFlagEnd) [error]) ∧
  h'.rpc.subs = h.rpc.subs

def Granted (m : MessageSubscribe) (h h' : Host ρ) : Prop :=
  sent wp h' = sent wp h ∧
    ∃ i, (h.rpc.subs i).active = false ∧ h'.rpc.subs = Function.update h.rpc.subs i m.slot

/-- SUBSCRIBE as on a finite map. -/
structure MapsTo (m : MessageSubscribe) (h h' : Host ρ) : Prop where
  duplicate : h.rpc.ActiveId m.reqId → Refused wp m messagesErrorBadReqId h h'
  full : ¬ h.rpc.ActiveId m.reqId → h.rpc.Full → Refused wp m messagesErrorSubMax h h'
  free : ¬ h.rpc.ActiveId m.reqId → ¬ h.rpc.Full → Granted wp m h h'

end Outcome

section Subscribe

variable {ρ : Type u} (wp : WritePacket ρ) (m : MessageSubscribe) {h : Host ρ}

theorem rpcRecvSubscribe_eq (h : Host ρ) :
    rpcRecvSubscribe wp m h =
      if (rpcSubFree h.rpc).1 = 0 then rpcSendPubError wp m.slot messagesErrorSubMax h
      else match (rpcSubFree h.rpc).2 with
        | some i => setSub i m.slot h
        | none => h := by
  unfold rpcRecvSubscribe
  rw [rpcSubFind_null]
  rfl

theorem rpcRecvSubscribe_full (hfull : h.rpc.Full) :
    rpcRecvSubscribe wp m h = rpcSendPubError wp m.slot messagesErrorSubMax h := by
  rw [rpcRecvSubscribe_eq, if_pos (rpcSubFree_count.mpr hfull)]

theorem rpcRecvSubscribe_free (hfull : ¬ h.rpc.Full) :
    ∃ i, (h.rpc.subs i).active = false ∧ rpcRecvSubscribe wp m h = setSub i m.slot h := by
  obtain ⟨i, hi⟩ := rpcSubFree_some hfull
  exact ⟨i, rpcSubFree_inactive hi,
    by rw [rpcRecvSubscribe_eq, if_neg (mt rpcSubFree_count.mp hfull), hi]⟩

end Subscribe

variable {ρ : Type u} {wp : WritePacket ρ} {h h' : Host ρ} {m : MessageSubscribe}

section Posting

variable [Posting wp]

theorem rpcRecv_subscribe_full (hfull : h.rpc.Full) :
    Refused wp m messagesErrorSubMax h (rpcRecv wp (.subscribe m) h) := by
  have hsent : ∃ packet, IsData packet m.reqId m.topic m.subtopic
      (messagesDataFlagPub ||| messagesDataFlagError ||| messagesDataFlagEnd) [messagesErrorSubMax] ∧
      Posted wp h [packet] (rpcSendPubError wp m.slot messagesErrorSubMax h) :=
    rpcSendData_posted wp _ _ _ _ (show [messagesErrorSubMax].length ≤ 245 by decide) h
  unfold rpcRecv
  dsimp only
  rw [rpcRecvSubscribe_full wp m hfull]
  generalize rpcSendPubError wp m.slot messagesErrorSubMax h = h' at hsent ⊢
  obtain ⟨packet, hdata, hposted⟩ := hsent
  exact ⟨⟨packet, hposted.sent_eq, hdata⟩, hposted.subs_eq⟩

theorem rpcRecv_subscribe_free (hfull : ¬ h.rpc.Full) :
    Granted wp m h (rpcRecv wp (.subscribe m) h) := by
  obtain ⟨i, hinactive, heq⟩ := rpcRecvSubscribe_free wp m hfull
  unfold rpcRecv
  dsimp only
  rw [heq]
  exact ⟨rfl, i, hinactive, rfl⟩

theorem Refused.error_eq {error error' : UInt8} (hr : Refused wp m error h h')
    (hr' : Refused wp m error' h h') : error = error' := by
  obtain ⟨⟨packet, houter, hdata⟩, -⟩ := hr
  obtain ⟨⟨packet', houter', hdata'⟩, -⟩ := hr'
  obtain rfl : packet = packet' := by simpa [houter] using houter'
  simpa using hdata.value_eq hdata'

theorem Granted.not_refused {error : UInt8} (hg : Granted wp m h h') : ¬ Refused wp m error h h' := by
  rintro ⟨⟨packet, houter, -⟩, -⟩
  simp [hg.1] at houter

theorem mapsTo_iff (m : MessageSubscribe) (h : Host ρ) :
    MapsTo wp m h (rpcRecv wp (.subscribe m) h) ↔ ¬ h.rpc.ActiveId m.reqId := by
  constructor
  · intro hmaps hactive
    have hdup := hmaps.duplicate hactive
    by_cases hfull : h.rpc.Full
    · exact absurd (hdup.error_eq (rpcRecv_subscribe_full hfull)) (by decide)
    · exact (rpcRecv_subscribe_free hfull).not_refused hdup
  · intro hnew
    exact ⟨fun hactive => absurd hactive hnew, fun _ => rpcRecv_subscribe_full,
      fun _ => rpcRecv_subscribe_free⟩

def Shrunk (rpc : Rpc) (h : Host ρ) : Prop :=
  ∀ i, (h.rpc.subs i).active = true →
    (rpc.subs i).active = true ∧ (h.rpc.subs i).reqId = (rpc.subs i).reqId

theorem Shrunk.uniqueIds {rpc : Rpc} (hs : Shrunk rpc h) (hu : rpc.UniqueIds) :
    h.rpc.UniqueIds := by
  intro i j hi hj hij
  obtain ⟨hi, hidi⟩ := hs i hi
  obtain ⟨hj, hidj⟩ := hs j hj
  exact hu i j hi hj (hidi ▸ hidj ▸ hij)

theorem sends_shrunk (rpc : Rpc) : Sends wp (Shrunk rpc) :=
  Posting.sends fun _ _ _ _ hh => hh

theorem publishes_shrunk (rpc : Rpc) : Publishes wp (Shrunk rpc) where
  toSends := sends_shrunk rpc
  motor _ _ hh := hh
  timers _ _ _ hh := hh
  sub i sub h hsub hh j hj := by
    by_cases hij : j = i
    · subst hij
      simp only [setSub, Function.update_self] at hj ⊢
      obtain ⟨hactive, hid⟩ := hsub hj
      exact ⟨(hh j hactive).1, hid.trans (hh j hactive).2⟩
    · simp only [setSub, Function.update_of_ne hij] at hj ⊢
      exact hh j hj

theorem replies_shrunk (rpc : Rpc) : Replies wp (Shrunk rpc) :=
  ⟨sends_shrunk rpc, fun _ _ hh => hh, fun _ _ hh => hh, fun _ _ hh => hh, fun _ hh => hh⟩

theorem records_shrunk (rpc : Rpc) : Records wp (Shrunk rpc) :=
  ⟨sends_shrunk rpc, fun _ _ _ hh => hh, .of_any fun _ _ _ hh => hh⟩

theorem rpcRecv_shrunk {rpc : Rpc} {message : MessageAny} (hm : ∀ m, message ≠ .subscribe m)
    (hh : Shrunk rpc h) : Shrunk rpc (rpcRecv wp message h) := by
  have hreplies : Replies wp _ := replies_shrunk rpc
  have hrecords : Records wp _ := records_shrunk rpc
  have hpublishes : Publishes wp _ := publishes_shrunk rpc
  refine hreplies.rpcRecv_keeps hh ?_ ?_ ?_ ?_ ?_
  · exact fun read _ _ => hreplies.rpcRecvReadMotor_keeps (fun _ _ hh => hh) read hh
  · exact fun read _ _ => hrecords.rpcRecvReadCassette_keeps hrecords.flash read hh
  · exact fun write _ _ => hrecords.rpcRecvWriteCassette_keeps write hh
  · exact fun m hsubscribe => absurd hsubscribe (hm m)
  · exact fun m _ => hreplies.rpcRecvUnsubscribe_keeps
      (fun i _ hh => hpublishes.rpcSubReset_keeps i hh) m hh

def NewId (h : Host ρ) (action : Action) : Prop :=
  ∀ m, action = .recv (.subscribe m) → ¬ h.rpc.ActiveId m.reqId

theorem Granted.uniqueIds (hg : Granted wp m h h') (hnew : ¬ h.rpc.ActiveId m.reqId)
    (hu : h.rpc.UniqueIds) : h'.rpc.UniqueIds := by
  obtain ⟨-, k, -, hsubs⟩ := hg
  intro i j hi hj hij
  rw [hsubs] at hi hj hij
  by_cases hik : i = k <;> by_cases hjk : j = k
  · rw [hik, hjk]
  · subst hik
    rw [Function.update_of_ne hjk] at hj hij
    exact absurd ⟨j, hj, by simpa [MessageSubscribe.slot] using hij.symm⟩ hnew
  · subst hjk
    rw [Function.update_of_ne hik] at hi hij
    exact absurd ⟨i, hi, by simpa [MessageSubscribe.slot] using hij⟩ hnew
  · rw [Function.update_of_ne hik] at hi hij
    rw [Function.update_of_ne hjk] at hj hij
    exact hu i j hi hj hij

theorem sessionStep_uniqueIds (h : Host ρ) (action : Action) (hu : h.rpc.UniqueIds)
    (hnew : NewId h action) : (sessionStep wp h action).rpc.UniqueIds := by
  have hself : Shrunk h.rpc h := fun i hi => ⟨hi, rfl⟩
  cases action with
  | robot => exact hu
  | loop => exact ((publishes_shrunk h.rpc).rpcLoop_keeps hself).uniqueIds hu
  | recv message =>
    by_cases hm : ∃ m, message = .subscribe m
    · obtain ⟨m, rfl⟩ := hm
      by_cases hfull : h.rpc.Full
      · intro i j
        rw [sessionStep, (rpcRecv_subscribe_full hfull).2]
        exact hu i j
      · exact (rpcRecv_subscribe_free hfull).uniqueIds (hnew m rfl) hu
    · exact (rpcRecv_shrunk (not_exists.mp hm) hself).uniqueIds hu

/-- The table answers as a finite map exactly where the id is new, and stays one, with no id twice,
in every run in which all are. -/
theorem subscriptions_map (wp : WritePacket ρ) [Posting wp] (h : Host ρ) :
    (∀ m, MapsTo wp m h (rpcRecv wp (.subscribe m) h) ↔ ¬ h.rpc.ActiveId m.reqId) ∧
    ∀ actions, h.rpc.UniqueIds → Lib.Along NewId (sessionStep wp) h actions →
      (actions.foldl (sessionStep wp) h).rpc.UniqueIds :=
  ⟨fun m => mapsTo_iff m h, fun _ hu halong => halong.invariant sessionStep_uniqueIds hu⟩

end Posting

def clockSubscribe : MessageSubscribe := ⟨7, messagesTopicClock, messagesTopicClockSubtopicNow⟩

def motorSubscribe : MessageSubscribe := ⟨8, messagesTopicMotor, messagesTopicMotorSubtopicAll⟩

theorem subscriptions_map_fresh :
    let h := [Action.recv (.subscribe clockSubscribe), .loop,
      .recv (.subscribe motorSubscribe)].foldl (sessionStep keepPacket) Session.fresh
    h.rpc.UniqueIds ∧ h.rpc.ActiveId 7 ∧ h.rpc.ActiveId 8 := by
  refine ⟨(subscriptions_map keepPacket Session.fresh).2 _ (fun i j hi => by cases hi)
    ⟨?_, fun m hm => ?_, ?_, trivial⟩, ⟨0, by decide +kernel, by decide +kernel⟩,
    ⟨1, by decide +kernel, by decide +kernel⟩⟩
  · rintro m - ⟨i, hi, -⟩
    cases hi
  · cases hm
  · rintro m ⟨⟩
    unfold Rpc.ActiveId
    decide +kernel

/-- The second of two equal SUBSCRIBEs is added beside the first, with no word to the client. -/
theorem subscribe_twice :
    let h := rpcRecv keepPacket (.subscribe clockSubscribe) Session.fresh
    let h' := rpcRecv keepPacket (.subscribe clockSubscribe) h
    ¬ MapsTo keepPacket clockSubscribe h h' ∧ ¬ h'.rpc.UniqueIds := by
  constructor
  · rw [mapsTo_iff, not_not]
    exact ⟨0, by decide +kernel, by decide +kernel⟩
  · intro hu
    have hsame := hu 0 1 (by decide +kernel) (by decide +kernel) (by decide +kernel)
    exact absurd hsame (by decide)

end TurningPoint
