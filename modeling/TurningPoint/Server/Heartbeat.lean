import TurningPoint.Messages.Canonical
import TurningPoint.Rpc.Reading
import TurningPoint.Rpc.Subscriptions
import TurningPoint.Server.Survival

namespace TurningPoint

def pubsubReplies (subtopic : UInt8) : Nat :=
  if subtopic = messagesTopicPubsubSubtopicAll then 5 else 1

def cassetteReplies (subtopic : UInt8) (s : Server) : Nat :=
  if subtopic < cassetteMax ∧ s.rpc.fp = .null ∧ (cassetteOpenRead subtopic s).1 ≠ .null then 2 else 1

def readReplies (read : MessageRead) (s : Server) : Nat :=
  if read.topic = messagesTopicPubsub then pubsubReplies read.subtopic
  else if read.topic = messagesTopicCassette then cassetteReplies read.subtopic s
  else 1

def readLead (read : MessageRead) : Nat :=
  if read.topic = messagesTopicClock ∧ read.subtopic = messagesTopicClockSubtopicNow then 1 else 0

def writeReplies (write : MessageWrite) : Nat :=
  if write.topic = messagesTopicMotor ∨ write.topic = messagesTopicCassette then 0 else 1

def subscribeReplies (s : Server) : Nat := if (rpcSubFree s.rpc).1 = 0 then 1 else 0

def unsubscribeReplies (reqId : UInt16) (s : Server) : Nat :=
  if (rpcSubFind s.rpc reqId true).2 = none then 2 else 1

/-- How the clock is read while a message is handled: so often before the first reply, and with each
reply so often before the check behind it, which takes two readings. -/
structure Timing where
  lead : Nat
  replies : Nat
  before : Nat

namespace Timing

def check (t : Timing) (i : Nat) : Nat := t.lead + (t.before + 2) * i + t.before

def refresh (t : Timing) : Nat := t.lead + (t.before + 2) * t.replies

end Timing

def Server.timing (s : Server) : MessageAny → Timing
  | .ping _ => ⟨0, 1, 0⟩
  | .read read => ⟨readLead read, readReplies read s, 1⟩
  | .write write => ⟨0, writeReplies write, 1⟩
  | .subscribe _ => ⟨0, subscribeReplies s, 1⟩
  | .unsubscribe unsubscribe => ⟨0, unsubscribeReplies unsubscribe.reqId s, 1⟩
  | .pong _ | .info _ | .data _ | .message _ _ => ⟨0, 0, 1⟩

/-- The heartbeat is in time for each of the replies, and so is the new one for the last check. -/
def Server.Prompt (s : Server) (message : MessageAny) : Prop :=
  (∀ i < (s.timing message).replies, s.Beats ((s.timing message).check i)) ∧
    s.board.clock ((s.timing message).refresh + 1) - s.board.clock (s.timing message).refresh ≤ 5000

instance (s : Server) (n : Nat) : Decidable (s.Beats n) := inferInstanceAs (Decidable (_ ≤ _))

instance (s : Server) (n : Nat) : Decidable (s.Young n) :=
  inferInstanceAs (Decidable (∀ i < n, _ ≤ _))

instance (s : Server) (message : MessageAny) : Decidable (s.Prompt message) :=
  inferInstanceAs (Decidable (_ ∧ _))

variable {s s' : Server} {n m k lead : Nat} {ok ok' : Prop} {read : MessageRead}

theorem Server.Young.mono (hyoung : s.Young m) (h : n ≤ m) : s.Young n :=
  fun i hi => hyoung i (hi.trans_le h)

theorem Course.imp_iff (h : Course s ok n s') (hok : ok ↔ ok') : Course s ok' n s' := by
  rwa [Course, ← propext hok]

theorem Course.flashes : Flashes (Course s ok n) where
  data _ _ _ h := h.store rfl rfl rfl rfl rfl rfl rfl
  write _ _ h := h.store rfl rfl rfl rfl rfl rfl rfl

def Replied (s : Server) (lead k : Nat) (s' : Server) : Prop :=
  Course s (∀ i < k, s.Beats (lead + 3 * i + 1)) (lead + 3 * k) s'

namespace Replied

theorem rpcSendData (h : Replied s lead k s') (hyoung : s.Young (lead + 3 * (k + 1)))
    (reqId : UInt16) (topic subtopic flag : UInt8) {value : List UInt8} (hvalue : value.length ≤ 241) :
    Replied s lead (k + 1) (rpcSendData serverWritePacket reqId topic subtopic flag value s') :=
  (Course.rpcSendData h hyoung reqId topic subtopic flag hvalue).imp_iff
    (Nat.forall_lt_succ_right (p := fun i => s.Beats (lead + 3 * i + 1))).symm

theorem rep (h : Replied s lead k s') (hyoung : s.Young (lead + 3 * (k + 1))) {value : List UInt8}
    (hvalue : value.length ≤ 241) :
    Replied s lead (k + 1) (rpcSendRep serverWritePacket read value s') :=
  h.rpcSendData hyoung _ _ _ _ hvalue

theorem repError (h : Replied s lead k s') (hyoung : s.Young (lead + 3 * (k + 1)))
    (reqId : UInt16) (topic subtopic error : UInt8) :
    Replied s lead (k + 1) (rpcSendRepError serverWritePacket reqId topic subtopic error s') :=
  h.rpcSendData hyoung _ _ _ _ (show 1 ≤ 241 by decide)

theorem pubError (h : Replied s lead k s') (hyoung : s.Young (lead + 3 * (k + 1)))
    (sub : RpcSubscription) (error : UInt8) :
    Replied s lead (k + 1) (rpcSendPubError serverWritePacket sub error s') :=
  h.rpcSendData hyoung _ _ _ _ (show 1 ≤ 241 by decide)

end Replied

theorem rpcRecvReadPubsub_replied (hs : Replied s 0 0 s)
    (hyoung : s.Young (3 * pubsubReplies read.subtopic)) :
    Replied s 0 (pubsubReplies read.subtopic) (rpcRecvReadPubsub serverWritePacket read s) := by
  have hone (octet : UInt8) : [octet].length ≤ 241 := by simp
  have hlist (rpc : Rpc) : (listSubs rpc).length ≤ 241 := (listSubs_length rpc).trans (by decide)
  by_cases hall : read.subtopic = messagesTopicPubsubSubtopicAll
  · have hlt : ¬ read.subtopic.toNat < rpcSubMax := by
      rw [hall]
      decide
    rw [pubsubReplies, if_pos hall] at hyoung ⊢
    have hyoung (i : Nat) (hi : i < 5) : s.Young (0 + 3 * (i + 1)) := hyoung.mono (by omega)
    rw [rpcRecvReadPubsub, dif_neg hlt, hall, if_neg (by decide), if_neg (by decide),
      if_neg (by decide), if_neg (by decide), if_pos rfl]
    exact ((((hs.rpcSendData (hyoung 0 (by decide)) _ _ _ _ (hlist _)).rpcSendData
      (hyoung 1 (by decide)) _ _ _ _ (hone _)).rpcSendData
      (hyoung 2 (by decide)) _ _ _ _ (hone _)).rpcSendData
      (hyoung 3 (by decide)) _ _ _ _ (hone _)).rpcSendData
      (hyoung 4 (by decide)) _ _ _ _ (Nat.zero_le _)
  · rw [pubsubReplies, if_neg hall] at hyoung ⊢
    unfold rpcRecvReadPubsub
    dsimp only
    split_ifs
    · exact hs.rep hyoung (Nat.zero_le _)
    · exact hs.rep hyoung (by simp [memory16])
    · exact hs.rep hyoung (hone _)
    · exact hs.rep hyoung (hone _)
    · exact hs.rep hyoung (hone _)
    · exact hs.rep hyoung (hlist _)
    · exact hs.repError hyoung _ _ _ _

theorem rpcRecvReadClock_replied (hs : Course s True 0 s) (htopic : read.topic = messagesTopicClock)
    (hyoung : s.Young (readLead read + 3)) :
    Replied s (readLead read) 1 (rpcRecvReadClock serverWritePacket read s) := by
  unfold rpcRecvReadClock readLead at *
  simp only [htopic, true_and] at hyoung ⊢
  split_ifs at hyoung ⊢
  · have hread : Replied s 1 0 (chTimeNow s).2 := hs.chTimeNow.imp_iff (by simp)
    exact hread.rep hyoung (by simp [memory64])
  · have hstart : Replied s 0 0 s := hs.imp_iff (by simp)
    exact hstart.repError hyoung _ _ _ _

theorem rpcRecvReadMotor_replied (hs : Replied s 0 0 s) (hyoung : s.Young 3) :
    Replied s 0 1 (rpcRecvReadMotor serverWritePacket read s) := by
  have hmotor (motor : Fin kVexMotorNum → Int8) : Replied s 0 0 { s with rpc.motor := motor } :=
    Course.store hs rfl rfl rfl rfl rfl rfl rfl
  have hlen := collectMotors_length s.board.motors s.rpc.motor true
  unfold rpcRecvReadMotor
  split_ifs
  · exact (hmotor _).rep hyoung (by simp)
  · revert hlen
    generalize collectMotors s.board.motors s.rpc.motor true = collected
    intro hlen
    exact (hmotor _).rep hyoung (hlen.trans (by decide))
  · exact hs.repError hyoung _ _ _ _

theorem cassetteOpenRead_holds {index : UInt8} (hopened : (cassetteOpenRead index s).1 ≠ .null) :
    0 < (loadData (cassetteOpenRead index s).1 0 (cassetteOpenRead index s).2).1 ∧
      (loadData (cassetteOpenRead index s).1 0 (cassetteOpenRead index s).2).1 < 32 := by
  unfold cassetteOpenRead at hopened ⊢
  split_ifs at hopened ⊢ with hindex
  · exact absurd rfl hopened
  dsimp only at hopened ⊢
  split_ifs at hopened ⊢ with hn
  · exact absurd rfl hopened
  obtain ⟨hpos, hle⟩ := not_or.mp hn
  rw [UInt8.not_lt] at hle
  exact ⟨UInt8.pos_iff_ne_zero.mpr hpos, UInt8.lt_of_le_of_lt hle (by decide)⟩

theorem rpcRecvReadCassette_replied (hs : Replied s 0 0 s)
    (hyoung : s.Young (3 * cassetteReplies read.subtopic s)) :
    Replied s 0 (cassetteReplies read.subtopic s) (rpcRecvReadCassette serverWritePacket read s) := by
  have hflashes : Flashes (Replied s 0 0) := Course.flashes
  have hopened (index : UInt8) : Replied s 0 0 (cassetteOpenRead index s).2 :=
    hflashes.cassetteOpenRead_keeps index hs
  have hone (octet : UInt8) : [octet].length ≤ 241 := by simp
  have hloaded := hflashes.loadData_keeps (cassetteOpenRead read.subtopic s).1 0 (hopened read.subtopic)
  unfold rpcRecvReadCassette
  by_cases htwo : read.subtopic < cassetteMax ∧ s.rpc.fp = .null ∧
      (cassetteOpenRead read.subtopic s).1 ≠ .null
  · rw [cassetteReplies, if_pos htwo] at hyoung ⊢
    obtain ⟨hlt, hfp, hnull⟩ := htwo
    have hn := cassetteOpenRead_holds hnull
    rw [if_pos hlt, if_neg (not_not.mpr hfp)]
    dsimp only
    rw [if_neg hnull]
    generalize loadData (cassetteOpenRead read.subtopic s).1 0
      (cassetteOpenRead read.subtopic s).2 = loaded at hn hloaded ⊢
    rw [if_pos hn]
    have hlen : (octetsFrom (loaded.2.board.flash.data.1.drop 1) loaded.1.toNat).length ≤ 241 := by
      rw [octetsFrom_length]
      have : loaded.1.toNat < 32 := UInt8.lt_iff_toNat_lt.mp hn.2
      omega
    exact (hloaded.rpcSendData (hyoung.mono (by decide)) _ _ _ _ hlen).rep hyoung (by simp [memory32])
  · rw [cassetteReplies, if_neg htwo] at hyoung ⊢
    have hpeek : Replied s 0 0 (if s.rpc.fp ≠ .null then loadData .null 0 s else (0, s)).2 := by
      split
      · exact hflashes.loadData_keeps .null 0 hs
      · exact hs
    dsimp only
    split
    case isTrue hlt =>
      split
      case isTrue => exact (hflashes.write _ _ hs).rep hyoung (Nat.zero_le _)
      case isFalse hfp =>
        have hnull : (cassetteOpenRead read.subtopic s).1 = .null :=
          not_not.mp fun hnull => htwo ⟨hlt, not_not.mp hfp, hnull⟩
        rw [if_pos hnull]
        exact (hopened _).rep hyoung (Nat.zero_le _)
    split
    · exact hpeek.rep hyoung (by simp [memory32])
    split
    · exact (hopened 0).rep hyoung (hone _)
    split
    · exact (hopened 0).rep hyoung (hone _)
    split
    · exact hs.rep hyoung (hone _)
    · exact hs.repError hyoung _ _ _ _

theorem rpcRecvRead_replied (hs : Course s True 0 s)
    (hyoung : s.Young (readLead read + 3 * readReplies read s)) :
    Replied s (readLead read) (readReplies read s) (rpcRecvRead serverWritePacket read s) := by
  have hstart : Replied s 0 0 s := hs.imp_iff (by simp)
  have hpubsub : messagesTopicPubsub ≠ messagesTopicClock := by decide
  have hcassette : messagesTopicCassette ≠ messagesTopicClock := by decide
  unfold readReplies rpcRecvRead at *
  by_cases hclock : read.topic = messagesTopicClock
  · simp only [hclock, hpubsub.symm, hcassette.symm, if_true, if_false] at hyoung ⊢
    exact rpcRecvReadClock_replied hs hclock hyoung
  have hlead : readLead read = 0 := if_neg fun h => hclock h.1
  simp only [hlead, hclock, if_false, Nat.zero_add] at hyoung ⊢
  by_cases hpubsub : read.topic = messagesTopicPubsub
  · rw [if_pos hpubsub] at hyoung ⊢
    rw [if_pos hpubsub]
    exact rpcRecvReadPubsub_replied hstart hyoung
  by_cases hcassette : read.topic = messagesTopicCassette
  · have hmotor : read.topic ≠ messagesTopicMotor := by
      rw [hcassette]
      decide
    rw [if_neg hpubsub, if_pos hcassette] at hyoung ⊢
    rw [if_neg hpubsub, if_neg hmotor, if_pos hcassette]
    exact rpcRecvReadCassette_replied hstart hyoung
  · rw [if_neg hpubsub, if_neg hcassette] at hyoung ⊢
    rw [if_neg hpubsub, if_neg hcassette]
    split
    · exact rpcRecvReadMotor_replied hstart hyoung
    · exact hstart.repError hyoung _ _ _ _

theorem rpcRecvWrite_replied (hs : Replied s 0 0 s) {write : MessageWrite}
    (hyoung : s.Young (3 * writeReplies write)) :
    Replied s 0 (writeReplies write) (rpcRecvWrite serverWritePacket write s) := by
  have hflashes : Flashes (Replied s 0 0) := Course.flashes
  unfold writeReplies rpcRecvWrite at *
  by_cases hmotor : write.topic = messagesTopicMotor
  · rw [if_pos (.inl hmotor), if_pos hmotor]
    exact rpcRecvWriteMotor_keeps (P := Replied s 0 0)
      (fun _ _ h => Course.store h rfl rfl rfl rfl rfl rfl rfl) write hs
  by_cases hcassette : write.topic = messagesTopicCassette
  · rw [if_pos (.inr hcassette), if_neg hmotor, if_pos hcassette]
    exact hflashes.rpcRecvWriteCassette_keeps
      (fun _ _ _ h => Course.store h rfl rfl rfl rfl rfl rfl rfl) write hs
  · rw [if_neg (not_or.mpr ⟨hmotor, hcassette⟩)] at hyoung ⊢
    rw [if_neg hmotor, if_neg hcassette]
    exact hs.repError hyoung _ _ _ _

def Outlived (s : Server) (ok : Prop) (n : Nat) (s' : Server) : Prop :=
  ok ∧ Standing s n s' ∨ ¬ ok ∧ Lost s'

theorem Course.outlived (h : Course s ok n s') : Outlived s ok n s' :=
  h.imp_left fun ⟨hok, halive, _⟩ => ⟨hok, halive.toStanding⟩

theorem Outlived.store (h : Outlived s ok n s') {s'' : Server} (houter : s''.outer = s'.outer)
    (hclock : s''.board.clock = s'.board.clock) (htimestamp : s''.rpc.timestamp = s'.rpc.timestamp) :
    Outlived s ok n s'' := by
  rcases h with ⟨hok, hstanding⟩ | ⟨hok, hlost⟩
  · refine .inl ⟨hok, ?_, ?_, hclock.trans hstanding.clock_eq, htimestamp.trans hstanding.timestamp_eq⟩
    · rw [houter]
      exact hstanding.state_eq
    · rw [houter]
      exact hstanding.connectState_eq
  · exact .inr ⟨hok, by rwa [Lost, houter]⟩

theorem rpcRecvSubscribe_outlived (hs : Replied s 0 0 s) {subscribe : MessageSubscribe}
    (hyoung : s.Young (3 * subscribeReplies s)) :
    Outlived s (∀ i < subscribeReplies s, s.Beats (0 + 3 * i + 1)) (0 + 3 * subscribeReplies s)
      (rpcRecvSubscribe serverWritePacket subscribe s) := by
  unfold rpcRecvSubscribe subscribeReplies at *
  rw [rpcSubFind_null]
  simp only [ne_eq, not_true, if_false]
  split_ifs at hyoung ⊢ with hfull
  · exact (hs.pubError hyoung _ _).outlived
  · have hstart : Outlived s (∀ i < 0, s.Beats (0 + 3 * i + 1)) (0 + 3 * 0) s := Course.outlived hs
    split
    · exact hstart.store rfl rfl rfl
    · exact hstart

theorem rpcRecvUnsubscribe_outlived (hs : Replied s 0 0 s) {unsubscribe : MessageUnsubscribe}
    (hyoung : s.Young (3 * unsubscribeReplies unsubscribe.reqId s)) :
    Outlived s (∀ i < unsubscribeReplies unsubscribe.reqId s, s.Beats (0 + 3 * i + 1))
      (0 + 3 * unsubscribeReplies unsubscribe.reqId s)
      (rpcRecvUnsubscribe serverWritePacket unsubscribe s) := by
  unfold rpcRecvUnsubscribe unsubscribeReplies at *
  generalize rpcSubFind s.rpc unsubscribe.reqId true = found at *
  match found with
  | (_, none) =>
    rw [if_pos rfl] at hyoung ⊢
    have herror := hs.pubError (hyoung.mono (by decide))
      ⟨true, unsubscribe.reqId, messagesTopicAll, messagesTopicAllSubtopicAll⟩ messagesErrorBadReqId
    exact (herror.rpcSendData hyoung _ _ _ _ (Nat.zero_le _)).outlived
  | (_, some i) =>
    rw [if_neg (by simp)] at hyoung ⊢
    exact (hs.rpcSendData hyoung _ _ _ _ (Nat.zero_le _)).outlived.store rfl rfl rfl

def Refreshed (s : Server) (ok : Prop) (n m : Nat) (s' : Server) : Prop :=
  ok ∧ Standing s m s' ∧ s'.rpc.heartbeat = s.board.clock n ∨ ¬ ok ∧ Lost s'

theorem Outlived.refresh (h : Outlived s ok n s') :
    Refreshed s ok n (n + 1) { (chTimeNow s').2 with rpc.heartbeat := (chTimeNow s').1 } := by
  rcases h with ⟨hok, hstanding⟩ | ⟨hok, hlost⟩
  · have hclock : (chTimeNow s').2.board.clock = fun i => s.board.clock (n + 1 + i) := by
      funext i
      change s'.board.clock (i + 1) = _
      rw [hstanding.clock_eq]
      exact congrArg s.board.clock (by omega)
    exact .inl ⟨hok, { hstanding with clock_eq := hclock }, congrFun hstanding.clock_eq 0⟩
  · exact .inr ⟨hok, hlost⟩

theorem rpcRecv_refreshed (hs : Course s True 0 s) {message : MessageAny}
    (hmessage : ∀ op h, message ≠ .message op h) (hyoung : s.Young (s.timing message).refresh) :
    Refreshed s (∀ i < (s.timing message).replies, s.Beats ((s.timing message).check i))
      (s.timing message).refresh ((s.timing message).refresh + 1)
      (rpcRecv serverWritePacket message s) := by
  have hstart : Replied s 0 0 s := hs.imp_iff (by simp)
  have hreplied {lead k : Nat} {s' : Server} (h : Replied s lead k s') :
      Outlived s (∀ i < k, s.Beats ((⟨lead, k, 1⟩ : Timing).check i)) (lead + 3 * k) s' :=
    h.outlived
  cases message with
  | message op h => exact absurd rfl (hmessage op h)
  | pong | data => exact (hreplied hstart).refresh
  | ping ping =>
    have hping : Course s True 0 { s with rpc.seqId := ping.seqId } :=
      hs.store rfl rfl rfl rfl rfl rfl rfl
    have hsent : Course s (True ∧ s.Beats 0) 2 (rpcRecvPing serverWritePacket ping s) :=
      hping.rpcSend hyoung (show 2 ≠ 0 by decide) (show 2 ≤ 252 by decide)
    refine ((hsent.imp_iff ?_).outlived).refresh
    simp [Server.timing, Timing.check]
  | info info =>
    have hinfo := rpcRecvInfo_keeps (P := Replied s 0 0)
      (fun _ _ h => Course.store h rfl rfl rfl rfl rfl rfl rfl) info hstart
    exact (hreplied hinfo).refresh
  | read read => exact (hreplied (rpcRecvRead_replied hs hyoung)).refresh
  | write write =>
    exact (hreplied (rpcRecvWrite_replied hstart (hyoung.mono (Nat.zero_add _).ge))).refresh
  | subscribe subscribe =>
    exact (rpcRecvSubscribe_outlived hstart (hyoung.mono (Nat.zero_add _).ge)).refresh
  | unsubscribe unsubscribe =>
    exact (rpcRecvUnsubscribe_outlived hstart (hyoung.mono (Nat.zero_add _).ge)).refresh

theorem Alive.refl (hstate : s.outer.state = .connected)
    (hconnected : s.outer.sfp.connectState = .connected) : Alive s 0 s where
  state_eq := hstate
  connectState_eq := hconnected
  clock_eq := funext fun i => congrArg s.board.clock (Nat.zero_add i).symm
  timestamp_eq := rfl
  heartbeat_eq := rfl
  subs_eq := rfl

theorem Refreshed.check (h : Refreshed s ok n m s') (hyoung : s.Young (m + 2)) :
    Refreshed s (ok ∧ s.board.clock m - s.board.clock n ≤ 5000) n (m + 2)
      (serverCheckConnection s') := by
  rcases h with ⟨hok, hstanding, hheartbeat⟩ | ⟨hok, hlost⟩
  · have hbeats : s'.Beats 0 ↔ s.board.clock m - s.board.clock n ≤ 5000 := by
      rw [Server.Beats, hstanding.clock_eq, hheartbeat]
      rfl
    have hyoung' : s'.Young 2 := by
      intro i hi
      rw [hstanding.clock_eq, hstanding.timestamp_eq]
      exact hyoung (m + i) (by omega)
    rw [← hbeats]
    rcases (Alive.refl hstanding.state_eq hstanding.connectState_eq).check hyoung' with
      ⟨hinTime, halive, -⟩ | ⟨hlate, hlost⟩
    · refine .inl ⟨⟨hok, hinTime⟩, { halive with clock_eq := ?_, timestamp_eq := ?_ }, ?_⟩
      · rw [halive.clock_eq, hstanding.clock_eq]
        funext i
        exact congrArg s.board.clock (Nat.add_assoc m 2 i).symm
      · exact halive.timestamp_eq.trans hstanding.timestamp_eq
      · exact halive.heartbeat_eq.trans hheartbeat
    · exact .inr ⟨fun h => hlate h.2, hlost⟩
  · exact .inr ⟨fun h => hok h.1, hlost.check⟩

/-- The session is still there, with a heartbeat read off the clock in between. -/
structure Outlasts (s s' : Server) : Prop where
  state_eq : s'.outer.state = .connected
  connectState_eq : s'.outer.sfp.connectState = .connected
  refreshed : ∃ taken i, i < taken ∧ (s'.board.clock = fun j => s.board.clock (taken + j)) ∧
    s'.rpc.heartbeat = s.board.clock i

theorem Refreshed.outlasts_iff (h : Refreshed s ok n m s') (hlt : n < m) : Outlasts s s' ↔ ok := by
  rcases h with ⟨hok, hstanding, hheartbeat⟩ | ⟨hok, hlost⟩
  · refine iff_of_true ⟨hstanding.state_eq, hstanding.connectState_eq, m, n, hlt, ?_, hheartbeat⟩ hok
    exact hstanding.clock_eq
  · refine iff_of_false (fun houtlasts => ?_) hok
    have hstate := houtlasts.state_eq
    rw [hlost.1] at hstate
    cases hstate

structure Server.Hears (s : Server) (message : MessageAny) : Prop where
  receiving : s.outer.sfp.rx.frameState = .receiving
  intact : s.outer.sfp.rx.Intact
  user : getFrameType s.outer.sfp.rx.header = .usr ∨ getFrameType s.outer.sfp.rx.header = .rtx
  inSequence : getFrameSeq s.outer.sfp.rx.header = s.outer.sfp.rx.seq
  accepted : messageDeserialize (.ping ⟨0⟩) s.outer.sfp.rx.packet.buf
    (s.outer.sfp.rx.packet.len - sfpCrcSize) = (0, message)

instance (s : Server) (message : MessageAny) : Decidable (s.Hears message) :=
  decidable_of_iff (_ ∧ _ ∧ _ ∧ _ ∧ _)
    ⟨fun ⟨a, b, c, d, e⟩ => ⟨a, b, c, d, e⟩, fun ⟨a, b, c, d, e⟩ => ⟨a, b, c, d, e⟩⟩

theorem Server.Hears.deliverOctet {message : MessageAny} (hhears : s.Hears message)
    (hconnected : s.outer.sfp.connectState = .connected) :
    ∃ rx rx', serverDeliverOctet sfpFlag s =
      let read := serverRead s.outer.sfp.rx.packet.buf (s.outer.sfp.rx.packet.len - sfpCrcSize)
        { s with outer.sfp.rx := rx }
      { read with outer.sfp.rx := rx' } := by
  have hframe := sfpHandleFrame_user (s := toSfp s) serverCallbacks hhears.intact hhears.user
  have hreset (read : Server) : ∃ rx', ofSfp (sfpResetReceiver
      { toSfp read with rx.seq := nextSeq read.outer.sfp.rx.seq }) =
      { read with outer.sfp.rx := rx' } := ⟨_, rfl⟩
  rw [serverDeliverOctet_flag hhears.receiving, hframe,
    sfpHandleUSR_delivers rfl hconnected hhears.inSequence]
  exact ⟨{ s.outer.sfp.rx with packet.len := s.outer.sfp.rx.packet.len - sfpCrcSize }, hreset _⟩

theorem Server.timing_outer (s : Server) (outer : Outer) (message : MessageAny) :
    Server.timing { s with outer := outer } message = s.timing message := by
  have hopened (index : UInt8) :
      (cassetteOpenRead index { s with outer := outer }).1 = (cassetteOpenRead index s).1 := by
    simp only [cassetteOpenRead, apply_ite Prod.fst]
    rfl
  cases message with
  | read read =>
    simp only [Server.timing, readReplies, cassetteReplies, hopened]
  | _ => rfl

theorem serverRead_refreshed (hs : Course s True 0 s) {message : MessageAny} {buf : List UInt8}
    {len : Nat} (hread : messageDeserialize (.ping ⟨0⟩) buf len = (0, message))
    (hyoung : s.Young ((s.timing message).refresh + 3)) :
    Refreshed s (s.Prompt message) (s.timing message).refresh ((s.timing message).refresh + 3)
      (serverRead buf len s) := by
  have hreceived := rpcRecv_refreshed hs (messageDeserialize_ne_message hread)
    (hyoung.mono (Nat.le_add_right _ _))
  have hchecked := hreceived.check hyoung
  unfold serverRead
  rw [hread]
  exact hchecked.imp (fun h => ⟨h.1, { h.2.1 with }, h.2.2⟩) id

theorem Idle.outlasts_iff (hs : Idle s) {message : MessageAny} (hstate : s.outer.state = .connected)
    (hconnected : s.outer.sfp.connectState = .connected) (hhears : s.Hears message)
    (hyoung : s.Young ((s.timing message).refresh + 3)) :
    Outlasts s (serverDeliverOctet sfpFlag s) ↔ s.Prompt message := by
  obtain ⟨rx, rx', heq⟩ := hhears.deliverOctet hconnected
  let heard : Server := { s with outer.sfp.rx := rx }
  have htiming : heard.timing message = s.timing message := Server.timing_outer s heard.outer message
  have hstart : Course heard True 0 heard := .inl ⟨trivial, .refl hstate hconnected, hs.empty⟩
  have hread := serverRead_refreshed hstart hhears.accepted (by rwa [htiming])
  have hprompt : heard.Prompt message ↔ s.Prompt message := by
    unfold Server.Prompt
    rw [htiming]
    rfl
  rw [← hprompt, ← hread.outlasts_iff (by omega), heq]
  exact ⟨fun h => ⟨h.1, h.2, h.3⟩, fun h => ⟨h.1, h.2, h.3⟩⟩

theorem idle_run (board : Board) (actions : List ServerAction) :
    Idle (actions.foldl serverStep (serverInit board)) :=
  List.foldlRecOn actions serverStep (idle_init board) fun _ hs action _ => (hs.step action).idle

/-- In every run from boot, a session outlasts a message exactly if every reply is out before the
heartbeat of the message before is too old. -/
theorem message_outlasted_iff (board : Board) (actions : List ServerAction) (message : MessageAny) :
    let s := actions.foldl serverStep (serverInit board)
    s.outer.state = .connected → s.outer.sfp.connectState = .connected → s.Hears message →
      s.Young ((s.timing message).refresh + 3) →
      (Outlasts s (serverDeliverOctet sfpFlag s) ↔ s.Prompt message) :=
  fun hstate hconnected hhears hyoung =>
    (idle_run board actions).outlasts_iff hstate hconnected hhears hyoung

def tickingBoard : Board := { Board.still with clock := fun n => 100 * UInt32.ofNat n }

/-- A client connects, stays silent for a number of turns of the loop, each of a second at most, and
then sends the message; the last octet of it is still to come. -/
def silentThen (turns : Nat) (message : MessageAny) : List ServerAction :=
  .start :: (clientSyn0 :: clientSyn2 :: List.replicate turns []).flatMap iterationActions ++
    .wake :: (clientMessage 0 message).dropLast.map .octet

theorem message_outlasted_iff_pong :
    let s := (silentThen 6 (.pong ⟨7⟩)).foldl serverStep (serverInit tickingBoard)
    let s' := (silentThen 1 (.ping ⟨7⟩)).foldl serverStep (serverInit tickingBoard)
    Outlasts s (serverDeliverOctet sfpFlag s) ∧ Outlasts s' (serverDeliverOctet sfpFlag s') := by
  refine ⟨(message_outlasted_iff tickingBoard (silentThen 6 (.pong ⟨7⟩)) (.pong ⟨7⟩) ?_ ?_ ?_
    ?_).mpr ?_, (message_outlasted_iff tickingBoard (silentThen 1 (.ping ⟨7⟩)) (.ping ⟨7⟩) ?_ ?_ ?_
    ?_).mpr ?_⟩
  all_goals decide +kernel

/-- A PING after six turns ends the session. -/
theorem ping_not_outlasted :
    let s := (silentThen 6 (.ping ⟨7⟩)).foldl serverStep (serverInit tickingBoard)
    (s.outer.state = .connected ∧ s.outer.sfp.connectState = .connected ∧ s.Hears (.ping ⟨7⟩) ∧
      s.Young ((s.timing (.ping ⟨7⟩)).refresh + 3)) ∧
      ¬ Outlasts s (serverDeliverOctet sfpFlag s) := by
  refine ⟨by decide +kernel, fun houtlasts => ?_⟩
  exact absurd houtlasts.state_eq (by decide +kernel)

end TurningPoint
