import Mathlib.Data.List.Forall2
import TurningPoint.Rpc.Session

universe u

namespace TurningPoint

structure Reply where
  subtopic : UInt8
  flag : UInt8
  value : List UInt8

namespace Reply

def Has (r : Reply) (flag : UInt8) : Prop := r.flag &&& flag ≠ 0

def message (read : MessageRead) (timestamp : UInt32) (r : Reply) : MessageAny :=
  .data ⟨read.reqId, read.topic, r.subtopic, r.flag, timestamp, UInt8.ofNat r.value.length, r.value⟩

def Fits (read : MessageRead) (r : Reply) : Prop :=
  ∀ timestamp, (r.message read timestamp).Sized ∧
    messageGetsizeof (r.message read timestamp) ≤ sfpConfigMaxPacketSize

def IsPacket (read : MessageRead) (r : Reply) (packet : List UInt8) : Prop :=
  packet.length ≤ sfpConfigMaxPacketSize ∧
    IsData packet read.reqId read.topic r.subtopic r.flag r.value

end Reply

def SupportedPubsub (subtopic : UInt8) : Prop :=
  subtopic.toNat < rpcSubMax ∨ subtopic = messagesTopicPubsubSubtopicCount ∨
    subtopic = messagesTopicPubsubSubtopicFree ∨ subtopic = messagesTopicPubsubSubtopicMax ∨
    subtopic = messagesTopicPubsubSubtopicList ∨ subtopic = messagesTopicPubsubSubtopicAll

def SupportedCassette (subtopic : UInt8) : Prop :=
  subtopic < cassetteMax ∨ subtopic = messagesTopicCassetteSubtopicOpen ∨
    subtopic = messagesTopicCassetteSubtopicCount ∨
    subtopic = messagesTopicCassetteSubtopicFree ∨ subtopic = messagesTopicCassetteSubtopicMax

def Supported (topic subtopic : UInt8) : Prop :=
  topic = messagesTopicPubsub ∧ SupportedPubsub subtopic ∨
    topic = messagesTopicClock ∧ subtopic = messagesTopicClockSubtopicNow ∨
    topic = messagesTopicMotor ∧
      (subtopic.toNat < kVexMotorNum ∨ subtopic = messagesTopicMotorSubtopicAll) ∨
    topic = messagesTopicCassette ∧ SupportedCassette subtopic

/-- The answer ends once, with its last message, and an error is the whole of it. -/
structure ReplyStream (read : MessageRead) (replies : List Reply) : Prop where
  ends : ∃ init last, replies = init ++ [last] ∧ last.Has messagesDataFlagEnd ∧
    ∀ r ∈ init, ¬ r.Has messagesDataFlagEnd
  not_pub : ∀ r ∈ replies, ¬ r.Has messagesDataFlagPub
  error_iff : (∃ r ∈ replies, r.Has messagesDataFlagError) ↔ ¬ Supported read.topic read.subtopic
  error_alone : ∀ r ∈ replies, r.Has messagesDataFlagError → replies = [r]
  fits : ∀ r ∈ replies, r.Fits read

section Answer

variable {ρ : Type u} (wp : WritePacket ρ)

def sendReplies (read : MessageRead) (replies : List Reply) (h : Host ρ) : Host ρ :=
  replies.foldl (fun h r => rpcSendData wp read.reqId read.topic r.subtopic r.flag r.value h) h

/-- The READ is answered: once nothing is left to look up, what remains is to send. -/
def Answered (read : MessageRead) (h h' : Host ρ) : Prop :=
  ∃ replies, ReplyStream read replies ∧
    ∃ h₀ : Host ρ, h₀.outer = h.outer ∧ h' = sendReplies wp read replies h₀

end Answer

variable {ρ : Type u} {wp : WritePacket ρ} {read : MessageRead} {replies : List Reply}
  {h h' : Host ρ}

theorem supported_pubsub (htopic : read.topic = messagesTopicPubsub) :
    Supported read.topic read.subtopic ↔ SupportedPubsub read.subtopic := by
  simp [Supported, htopic, show messagesTopicPubsub ≠ messagesTopicClock by decide,
    show messagesTopicPubsub ≠ messagesTopicMotor by decide,
    show messagesTopicPubsub ≠ messagesTopicCassette by decide]

theorem supported_clock (htopic : read.topic = messagesTopicClock) :
    Supported read.topic read.subtopic ↔ read.subtopic = messagesTopicClockSubtopicNow := by
  simp [Supported, htopic, show messagesTopicClock ≠ messagesTopicPubsub by decide,
    show messagesTopicClock ≠ messagesTopicMotor by decide,
    show messagesTopicClock ≠ messagesTopicCassette by decide]

theorem supported_motor (htopic : read.topic = messagesTopicMotor) :
    Supported read.topic read.subtopic ↔
      read.subtopic.toNat < kVexMotorNum ∨ read.subtopic = messagesTopicMotorSubtopicAll := by
  simp [Supported, htopic, show messagesTopicMotor ≠ messagesTopicPubsub by decide,
    show messagesTopicMotor ≠ messagesTopicClock by decide,
    show messagesTopicMotor ≠ messagesTopicCassette by decide]

theorem supported_cassette (htopic : read.topic = messagesTopicCassette) :
    Supported read.topic read.subtopic ↔ SupportedCassette read.subtopic := by
  simp [Supported, htopic, show messagesTopicCassette ≠ messagesTopicPubsub by decide,
    show messagesTopicCassette ≠ messagesTopicClock by decide,
    show messagesTopicCassette ≠ messagesTopicMotor by decide]

theorem Reply.fits_of_le {r : Reply} (hvalue : r.value.length ≤ 245) : r.Fits read := by
  intro timestamp
  obtain ⟨hsized, hsize⟩ := data_fits read.reqId read.topic r.subtopic r.flag timestamp hvalue
  exact ⟨hsized, hsize.trans_le (Nat.add_le_add_left hvalue 11)⟩

variable (wp) in
theorem Reply.Fits.posted [Posting wp] {r : Reply} (hr : r.Fits read) (h : Host ρ) :
    ∃ packet, r.IsPacket read packet ∧ Posted wp h [packet]
      (rpcSendData wp read.reqId read.topic r.subtopic r.flag r.value h) := by
  obtain ⟨hsized, hsize⟩ := hr (h.board.clock 0 - h.rpc.timestamp)
  refine ⟨messageOctets _, ⟨?_, _, messageOctets_readsAs hsized⟩, Posted.chTimeNow ?_⟩
  · rw [messageOctets_length]
    exact hsize
  · exact rpcSend_posted wp _ (messageGetsizeof_ne_zero hsized) hsize

namespace ReplyStream

theorem rep (hread : Supported read.topic read.subtopic) {value : List UInt8}
    (hvalue : value.length ≤ 245) :
    ReplyStream read [⟨read.subtopic, messagesDataFlagEnd, value⟩] where
  ends := ⟨[], _, rfl, by simp only [Reply.Has]; decide, by simp⟩
  not_pub := by simp only [Reply.Has, List.mem_singleton, forall_eq]; decide
  error_iff := by
    simp only [Reply.Has, List.mem_singleton, exists_eq_left, hread, not_true, iff_false]
    decide
  error_alone := by
    simp only [List.mem_singleton, forall_eq]
    exact fun _ => trivial
  fits := by
    simp only [List.mem_singleton, forall_eq]
    exact Reply.fits_of_le hvalue

theorem error (hread : ¬ Supported read.topic read.subtopic) (error : UInt8) :
    ReplyStream read
      [⟨read.subtopic, messagesDataFlagError ||| messagesDataFlagEnd, [error]⟩] where
  ends := ⟨[], _, rfl, by simp only [Reply.Has]; decide, by simp⟩
  not_pub := by simp only [Reply.Has, List.mem_singleton, forall_eq]; decide
  error_iff := by
    simp only [Reply.Has, List.mem_singleton, exists_eq_left, hread, not_false_iff, iff_true]
    decide
  error_alone := by
    simp only [List.mem_singleton, forall_eq]
    exact fun _ => trivial
  fits := by
    simp only [List.mem_singleton, forall_eq]
    exact Reply.fits_of_le (by simp)

theorem cons (hread : Supported read.topic read.subtopic) (subtopic : UInt8) {value : List UInt8}
    (hvalue : value.length ≤ 245) (hs : ReplyStream read replies) :
    ReplyStream read (⟨subtopic, 0, value⟩ :: replies) := by
  have hplain (flag : UInt8) : ¬ Reply.Has ⟨subtopic, 0, value⟩ flag :=
    not_not.mpr UInt8.zero_and
  have hnone : ¬ ∃ r ∈ replies, r.Has messagesDataFlagError :=
    fun herror => hs.error_iff.mp herror hread
  obtain ⟨init, last, rfl, hlast, hinit⟩ := hs.ends
  refine ⟨⟨_ :: init, last, rfl, hlast, ?_⟩, ?_, ?_, ?_, ?_⟩
  · exact List.forall_mem_cons.mpr ⟨hplain _, hinit⟩
  · exact List.forall_mem_cons.mpr ⟨hplain _, hs.not_pub⟩
  · simp only [List.exists_mem_cons_iff, hplain, hnone, hread, or_self, not_true]
  · refine List.forall_mem_cons.mpr ⟨fun herror => absurd herror (hplain _), ?_⟩
    exact fun r hr herror => absurd ⟨r, hr, herror⟩ hnone
  · exact List.forall_mem_cons.mpr ⟨Reply.fits_of_le hvalue, hs.fits⟩

end ReplyStream

variable (wp) in
theorem sendReplies_posted [Posting wp] (hfits : ∀ r ∈ replies, r.Fits read) (h : Host ρ) :
    ∃ packets, Posted wp h packets (sendReplies wp read replies h) ∧
      List.Forall₂ (Reply.IsPacket read) replies packets := by
  induction replies generalizing h with
  | nil => exact ⟨[], .refl wp h, .nil⟩
  | cons r replies ih =>
    obtain ⟨hr, hreplies⟩ := List.forall_mem_cons.mp hfits
    obtain ⟨packet, hpacket, hposted⟩ := hr.posted wp h
    obtain ⟨packets, hposteds, hpackets⟩ := ih hreplies _
    exact ⟨packet :: packets, hposted.trans hposteds, .cons hpacket hpackets⟩

theorem listSubs_length (rpc : Rpc) : (listSubs rpc).length ≤ 50 := by
  have hsub (i : Fin rpcSubMax) : (listSub rpc i).length ≤ 5 := by
    unfold listSub
    dsimp only
    split
    · rfl
    · exact Nat.zero_le _
  have hslots (slots : List (Fin rpcSubMax)) :
      (slots.flatMap (listSub rpc)).length ≤ 5 * slots.length := by
    induction slots with
    | nil => rfl
    | cons i slots ih =>
      rw [List.flatMap_cons, List.length_append, List.length_cons]
      have := hsub i
      omega
  exact (hslots _).trans_eq (congrArg (5 * ·) (List.length_finRange))

theorem collectMotors_length (motors cache : Fin kVexMotorNum → Int8) (always : Bool) :
    (collectMotors motors cache always).1.length ≤ 20 := by
  have hloop (slots : List (Fin kVexMotorNum)) (acc : List UInt8 × (Fin kVexMotorNum → Int8)) :
      (slots.foldl (collectMotor motors always) acc).1.length ≤
        acc.1.length + 2 * slots.length := by
    induction slots generalizing acc with
    | nil => rfl
    | cons slot slots ih =>
      have hturn : (collectMotor motors always acc slot).1.length ≤ acc.1.length + 2 := by
        unfold collectMotor
        dsimp only
        split
        · exact Nat.le_add_right ..
        · exact (List.length_append ..).le
      have := ih (collectMotor motors always acc slot)
      rw [List.foldl_cons, List.length_cons]
      omega
  exact (hloop _ ([], cache)).trans_eq (congrArg (0 + 2 * ·) (List.length_finRange))

theorem Answered.rep (hread : Supported read.topic read.subtopic) {value : List UInt8}
    (hvalue : value.length ≤ 245) (houter : h'.outer = h.outer) :
    Answered wp read h (rpcSendRep wp read value h') :=
  ⟨_, .rep hread hvalue, h', houter, rfl⟩

theorem Answered.error (hread : ¬ Supported read.topic read.subtopic) (error : UInt8) :
    Answered wp read h
      (rpcSendRepError wp read.reqId read.topic read.subtopic error h) :=
  ⟨_, .error hread error, h, rfl, rfl⟩

theorem rpcSubFree_sent [Posting wp] (reqId : UInt16) (topic subtopic flag : UInt8)
    (value : List UInt8) (h : Host ρ) :
    rpcSubFree (rpcSendData wp reqId topic subtopic flag value h).rpc = rpcSubFree h.rpc := by
  have hsends : Sends wp (fun h' => rpcSubFree h'.rpc = rpcSubFree h.rpc) :=
    Posting.sends fun _ _ _ _ hh => hh
  exact hsends.rpcSendData_keeps _ _ _ _ _ rfl

theorem cassetteOpenRead_outer (index : UInt8) (h : Host ρ) :
    (cassetteOpenRead index h).2.outer = h.outer :=
  Flashes.cassetteOpenRead_keeps (P := fun h' => h'.outer = h.outer)
    (.of_any fun _ _ _ hh => hh) index rfl

variable (h) in
theorem rpcRecvReadPubsub_answered [Posting wp] (htopic : read.topic = messagesTopicPubsub) :
    Answered wp read h (rpcRecvReadPubsub wp read h) := by
  have hsupported := (supported_pubsub htopic).mpr
  unfold rpcRecvReadPubsub
  dsimp only
  split_ifs with hlt hactive hcount hfree hmax hlist hall
  · exact .rep (hsupported (.inl hlt)) (by simp) rfl
  · exact .rep (hsupported (.inl hlt)) (by simp [memory16]) rfl
  · exact .rep (hsupported (.inr (.inl hcount))) (by simp) rfl
  · exact .rep (hsupported (.inr (.inr (.inl hfree)))) (by simp) rfl
  · exact .rep (hsupported (by simp [SupportedPubsub, hmax])) (by simp) rfl
  · exact .rep (hsupported (by simp [SupportedPubsub, hlist]))
      ((listSubs_length _).trans (by decide)) rfl
  · have hread := hsupported (by simp [SupportedPubsub, hall])
    have hone (octet : UInt8) : [octet].length ≤ 245 := by simp
    simp only [rpcSubFree_sent]
    exact ⟨_, .cons hread _ ((listSubs_length h.rpc).trans (by decide))
      (.cons hread _ (hone _) (.cons hread _ (hone _) (.cons hread _ (hone _)
        (.rep hread (List.length_nil.trans_le (Nat.zero_le _)))))), h, rfl, rfl⟩
  · refine .error (fun hread => ?_) _
    have := (supported_pubsub htopic).mp hread
    simp [SupportedPubsub, hlt, hcount, hfree, hmax, hlist, hall] at this

variable (h) in
theorem rpcRecvReadClock_answered (htopic : read.topic = messagesTopicClock) :
    Answered wp read h (rpcRecvReadClock wp read h) := by
  unfold rpcRecvReadClock
  split_ifs with hnow
  · exact .rep ((supported_clock htopic).mpr hnow) (by simp [memory64]) rfl
  · exact .error (mt (supported_clock htopic).mp hnow) _

variable (h) in
theorem rpcRecvReadMotor_answered (htopic : read.topic = messagesTopicMotor) :
    Answered wp read h (rpcRecvReadMotor wp read h) := by
  have hsupported := (supported_motor htopic).mpr
  have hlen := collectMotors_length h.board.motors h.rpc.motor true
  unfold rpcRecvReadMotor
  split_ifs with hindex hall
  · exact .rep (hsupported (.inl hindex)) (by simp) rfl
  · revert hlen
    generalize collectMotors h.board.motors h.rpc.motor true = collected
    intro hlen
    exact .rep (hsupported (.inr hall)) (hlen.trans (by decide)) rfl
  · exact .error (mt (supported_motor htopic).mp (not_or.mpr ⟨hindex, hall⟩)) _

variable (h) in
theorem rpcRecvReadCassette_answered (htopic : read.topic = messagesTopicCassette) :
    Answered wp read h (rpcRecvReadCassette wp read h) := by
  have hsupported := (supported_cassette htopic).mpr
  unfold rpcRecvReadCassette
  dsimp only
  split
  case isTrue hlt =>
    have hread := hsupported (.inl hlt)
    have hopened := cassetteOpenRead_outer read.subtopic h
    have hloaded : (loadData (cassetteOpenRead read.subtopic h).1 0
        (cassetteOpenRead read.subtopic h).2).2.outer = h.outer :=
      Flashes.loadData_keeps (P := fun h' => h'.outer = h.outer)
        (.of_any fun _ _ _ hh => hh) _ 0 hopened
    generalize loadData (cassetteOpenRead read.subtopic h).1 0
      (cassetteOpenRead read.subtopic h).2 = loaded at hloaded ⊢
    split
    · exact .rep hread (Nat.zero_le _) rfl
    split
    · exact .rep hread (Nat.zero_le _) hopened
    split
    case isTrue hn =>
      have hlen : (octetsFrom (loaded.2.board.flash.data.1.drop 1) loaded.1.toNat).length ≤ 245 := by
        rw [octetsFrom_length]
        have : loaded.1.toNat < 32 := UInt8.lt_iff_toNat_lt.mp hn.2
        omega
      have hstream := ReplyStream.cons hread read.subtopic hlen
        (.rep hread ((memory32_length (htonl loaded.1.toUInt32)).trans_le (by decide)))
      exact ⟨_, hstream, loaded.2, hloaded, rfl⟩
    · exact .rep hread (by simp [memory32]) hloaded
  split
  case isTrue hopen =>
    exact .rep (hsupported (.inr (.inl hopen))) (by simp [memory32]) (by split <;> rfl)
  split
  case isTrue hcount =>
    exact .rep (hsupported (.inr (.inr (.inl hcount)))) (by simp) (cassetteOpenRead_outer 0 h)
  split
  case isTrue hfree =>
    exact .rep (hsupported (.inr (.inr (.inr (.inl hfree))))) (by simp) (cassetteOpenRead_outer 0 h)
  split
  case isTrue hmax =>
    exact .rep (hsupported (.inr (.inr (.inr (.inr hmax))))) (by simp) rfl
  case isFalse hlt hopen hcount hfree hmax =>
    refine .error (fun hread => ?_) _
    have := (supported_cassette htopic).mp hread
    simp [SupportedCassette, hlt, hopen, hcount, hfree, hmax] at this

variable (wp read h) in
theorem rpcRecvRead_answered [Posting wp] : Answered wp read h (rpcRecvRead wp read h) := by
  unfold rpcRecvRead
  split_ifs with hpubsub hclock hmotor hcassette
  · exact rpcRecvReadPubsub_answered h hpubsub
  · exact rpcRecvReadClock_answered h hclock
  · exact rpcRecvReadMotor_answered h hmotor
  · exact rpcRecvReadCassette_answered h hcassette
  · exact .error (by simp [Supported, hpubsub, hclock, hmotor, hcassette]) _

/-- A READ is answered with one stream of messages, and each of them is passed on. -/
theorem read_reply_stream (wp : WritePacket ρ) [Posting wp] (h : Host ρ) (read : MessageRead) :
    ∃ replies packets, ReplyStream read replies ∧
      (∃ h₀ : Host ρ, h₀.outer = h.outer ∧
        rpcRecvRead wp read h = sendReplies wp read replies h₀) ∧
      sent wp (rpcRecv wp (.read read) h) = sent wp h ++ packets ∧
      List.Forall₂ (Reply.IsPacket read) replies packets := by
  obtain ⟨replies, hstream, h₀, houter, hsent⟩ := rpcRecvRead_answered wp read h
  obtain ⟨packets, hposted, hpackets⟩ := sendReplies_posted wp hstream.fits h₀
  refine ⟨replies, packets, hstream, ⟨h₀, houter, hsent⟩, ?_, hpackets⟩
  have hheartbeat : sent wp (rpcRecv wp (.read read) h) = sent wp (rpcRecvRead wp read h) := rfl
  rw [hheartbeat, hsent, hposted.sent_eq, sent, sent, houter]

theorem read_reply_stream_all :
    let read : MessageRead := ⟨9, messagesTopicPubsub, messagesTopicPubsubSubtopicAll⟩
    ∃ replies, ReplyStream read replies ∧ replies.length = 5 ∧
      List.Forall₂ (Reply.IsPacket read) replies
        (rpcRecv keepPacket (.read read) Session.fresh).outer := by
  intro read
  obtain ⟨replies, packets, hstream, -, hsent, hpackets⟩ :=
    read_reply_stream keepPacket Session.fresh read
  have houter : (rpcRecv keepPacket (.read read) Session.fresh).outer = packets := hsent
  have hfive : (rpcRecv keepPacket (.read read) Session.fresh).outer.length = 5 := by
    decide +kernel
  exact ⟨replies, hstream, hpackets.length_eq.trans (houter ▸ hfive), houter ▸ hpackets⟩

/-- The block counts only while a cassette is open. -/
structure Undisturbed (h h' : Host ρ) : Prop where
  subs_eq : h'.rpc.subs = h.rpc.subs
  cassette_eq : h'.rpc.cassette = h.rpc.cassette
  fp_eq : h'.rpc.fp = h.rpc.fp
  data_eq : h.rpc.fp ≠ .null → h'.board.flash.data = h.board.flash.data
  ipv4_eq : h'.rpc.ipv4 = h.rpc.ipv4
  motors_eq : h'.board.motors = h.board.motors

def Reloads (read : MessageRead) : Prop :=
  read.topic = messagesTopicCassette ∧
    (read.subtopic = messagesTopicCassetteSubtopicCount ∨
      read.subtopic = messagesTopicCassetteSubtopicFree)

variable (h) in
theorem sends_undisturbed [Aloof wp] : Sends wp (Undisturbed h) :=
  Aloof.sends fun _ _ _ _ _ _ ⟨a, b, c, d, e, f⟩ => ⟨a, b, c, d, e, f⟩

theorem Undisturbed.refl (h : Host ρ) : Undisturbed h h := ⟨rfl, rfl, rfl, fun _ => rfl, rfl, rfl⟩

theorem vexFlashUserParamWrite_data (fp : UserParam) (flash : Flash) :
    (vexFlashUserParamWrite fp flash).2.data = flash.data := by
  unfold vexFlashUserParamWrite
  split
  · rfl
  · split <;> rfl

theorem flashes_undisturbed (hfp : h.rpc.fp = .null) : Flashes (Undisturbed h) :=
  .of_any fun _ _ _ hh =>
    ⟨hh.subs_eq, hh.cassette_eq, hh.fp_eq, fun hopen => absurd hfp hopen, hh.ipv4_eq, hh.motors_eq⟩

theorem cassetteOpenRead_first (h : Host ρ) : (cassetteOpenRead 0 h).2 = (readFlash h).2 := by
  unfold cassetteOpenRead
  rw [if_neg (by decide)]
  dsimp only
  split <;> rfl

variable (wp) in
theorem rpcRecvReadCassette_reloaded [Aloof wp] (hreloads : Reloads read) (h : Host ρ) :
    (rpcRecvReadCassette wp read h).board.flash.data =
      (vexFlashUserParamRead h.board.flash).2.data := by
  let data := (vexFlashUserParamRead h.board.flash).2.data
  have hsends : Sends wp (fun h' => h'.board.flash.data = data) :=
    Aloof.sends fun _ _ _ _ _ _ hh => hh
  have hloaded : (cassetteOpenRead 0 h).2.board.flash.data = data := by
    rw [cassetteOpenRead_first]
    rfl
  unfold rpcRecvReadCassette
  rcases hreloads.2 with hcount | hfree
  · rw [hcount, if_neg (by decide), if_neg (by decide), if_pos rfl]
    exact hsends.rpcSendRep_keeps _ _ hloaded
  · rw [hfree, if_neg (by decide), if_neg (by decide), if_neg (by decide), if_pos rfl]
    exact hsends.rpcSendRep_keeps _ _ hloaded

theorem rpcRecvReadCassette_undisturbed [Aloof wp] (hfp : h.rpc.fp ≠ .null)
    (htopic : read.topic = messagesTopicCassette)
    (hdata : Reloads read →
      (vexFlashUserParamRead h.board.flash).2.data = h.board.flash.data) :
    Undisturbed h (rpcRecvReadCassette wp read h) := by
  have hsends : Sends wp (Undisturbed h) := sends_undisturbed h
  have hloaded (hreloads : Reloads read) : Undisturbed h (cassetteOpenRead 0 h).2 := by
    rw [cassetteOpenRead_first]
    exact ⟨rfl, rfl, rfl, fun _ => hdata hreloads, rfl, rfl⟩
  unfold rpcRecvReadCassette
  dsimp only
  rw [if_pos hfp, if_pos hfp]
  split
  · exact hsends.rpcSendRep_keeps _ _
      ⟨rfl, rfl, rfl, fun _ => vexFlashUserParamWrite_data _ _, rfl, rfl⟩
  split
  · exact hsends.rpcSendRep_keeps _ _ ⟨rfl, rfl, rfl, fun _ => rfl, rfl, rfl⟩
  split
  case isTrue hcount => exact hsends.rpcSendRep_keeps _ _ (hloaded ⟨htopic, .inl hcount⟩)
  split
  case isTrue hfree => exact hsends.rpcSendRep_keeps _ _ (hloaded ⟨htopic, .inr hfree⟩)
  split
  · exact hsends.rpcSendRep_keeps _ _ (.refl h)
  · exact hsends.rpcSendRepError_keeps _ _ _ _ (.refl h)

/-- A READ disturbs nothing, unless it loads the block from flash while a cassette is open and the
two differ. -/
theorem read_undisturbed_iff (wp : WritePacket ρ) [Aloof wp] (h : Host ρ) (read : MessageRead) :
    Undisturbed h (rpcRecv wp (.read read) h) ↔
      (h.rpc.fp ≠ .null → Reloads read →
        (vexFlashUserParamRead h.board.flash).2.data = h.board.flash.data) := by
  have hsends : Sends wp (Undisturbed h) := sends_undisturbed h
  have hheartbeat (h' : Host ρ) (hh : Undisturbed h h') :
      Undisturbed h { (chTimeNow h').2 with rpc.heartbeat := (chTimeNow h').1 } :=
    ⟨hh.subs_eq, hh.cassette_eq, hh.fp_eq, hh.data_eq, hh.ipv4_eq, hh.motors_eq⟩
  constructor
  · intro hundisturbed hfp hreloads
    have hread : rpcRecvRead wp read h = rpcRecvReadCassette wp read h := by
      rw [rpcRecvRead, hreloads.1, if_neg (by decide), if_neg (by decide), if_neg (by decide),
        if_pos rfl]
    rw [← rpcRecvReadCassette_reloaded wp hreloads h, ← hread]
    exact hundisturbed.data_eq hfp
  · intro hdata
    refine hheartbeat _ ?_
    unfold rpcRecvRead
    split_ifs with hpubsub hclock hmotor hcassette
    · exact hsends.rpcRecvReadPubsub_keeps read (.refl h)
    · exact hsends.rpcRecvReadClock_keeps read (.refl h)
    · exact hsends.rpcRecvReadMotor_keeps
        (fun _ _ ⟨a, b, c, d, e, f⟩ => ⟨a, b, c, d, e, f⟩) read (.refl h)
    · by_cases hfp : h.rpc.fp = .null
      · exact hsends.rpcRecvReadCassette_keeps (flashes_undisturbed hfp) read (.refl h)
      · exact rpcRecvReadCassette_undisturbed hfp hcassette (hdata hfp)
    · exact hsends.rpcSendRepError_keeps _ _ _ _ (.refl h)

/-- A cassette is opened, and asking how many are recorded undoes what opening stored. -/
theorem read_disturbs_opened :
    let h := sessionStep keepPacket Session.fresh (.recv (.write
      ⟨1, messagesTopicCassette, messagesTopicCassetteSubtopicOpen, 1, [0]⟩))
    ¬ Undisturbed h (rpcRecv keepPacket
      (.read ⟨2, messagesTopicCassette, messagesTopicCassetteSubtopicCount⟩) h) := by
  intro h hundisturbed
  have hdata := hundisturbed.data_eq (by decide)
  revert hdata
  decide +kernel

end TurningPoint
