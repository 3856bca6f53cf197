import TurningPoint.Rpc.Session

universe u

namespace TurningPoint

def motorPairs : List UInt8 → List (UInt8 × UInt8)
  | index :: value :: rest => (index, value) :: motorPairs rest
  | _ => []

theorem motorPairs_append_pair (index value : UInt8) {octets : List UInt8}
    (heven : octets.length % 2 = 0) :
    motorPairs (octets ++ [index, value]) = motorPairs octets ++ [(index, value)] := by
  induction octets using motorPairs.induct with
  | case1 index value rest ih =>
    simp only [List.length_cons] at heven
    simp [motorPairs, ih (by omega)]
  | case2 octets hshort =>
    match octets with
    | [] => rfl
    | [_] => simp at heven
    | index :: value :: rest => exact absurd rfl (hshort index value rest)

abbrev motorPair (motors : Fin kVexMotorNum → Int8) (i : Fin kVexMotorNum) : UInt8 × UInt8 :=
  (UInt8.ofNat i, (motors i).toUInt8)

theorem motorPair_index {motors motors' : Fin kVexMotorNum → Int8} {i j : Fin kVexMotorNum}
    (h : motorPair motors i = motorPair motors' j) : i = j := by
  have hinj : ∀ i j : Fin kVexMotorNum, UInt8.ofNat i = UInt8.ofNat j → i = j := by decide
  exact hinj i j (congrArg Prod.fst h)

structure Collected (motors cache : Fin kVexMotorNum → Int8) (slots : List (Fin kVexMotorNum))
    (tmp : List UInt8) (r : List UInt8 × (Fin kVexMotorNum → Int8)) : Prop where
  even : r.1.length % 2 = 0
  length_le : r.1.length ≤ tmp.length + 2 * slots.length
  pairs : ∀ i, motorPair motors i ∈ motorPairs r.1 ↔
    motorPair motors i ∈ motorPairs tmp ∨ i ∈ slots ∧ cache i ≠ motors i
  cache_eq : ∀ i, (i ∈ slots → r.2 i = motors i) ∧ (i ∉ slots → r.2 i = cache i)

theorem collectMotor_foldl (motors : Fin kVexMotorNum → Int8) (slots : List (Fin kVexMotorNum))
    (cache : Fin kVexMotorNum → Int8) (tmp : List UInt8) (heven : tmp.length % 2 = 0) :
    Collected motors cache slots tmp (slots.foldl (collectMotor motors false) (tmp, cache)) := by
  induction slots generalizing tmp cache with
  | nil => exact ⟨heven, le_rfl, fun i => by simp, fun i => by simp⟩
  | cons slot slots ih =>
    rw [List.foldl_cons, collectMotor]
    by_cases hslot : motors slot = cache slot
    · rw [if_pos ⟨hslot, rfl⟩]
      obtain ⟨heven, hlength, hpairs, hcache⟩ := ih cache tmp heven
      refine ⟨heven, by rw [List.length_cons]; omega, fun i => ?_, fun i => ?_⟩
      · rw [hpairs]
        grind
      · have := hcache i
        grind
    · rw [if_neg (by simp [hslot])]
      obtain ⟨heven', hlength, hpairs, hcache⟩ := ih (Function.update cache slot (motors slot))
        (tmp ++ [UInt8.ofNat slot, (motors slot).toUInt8]) (by simp; omega)
      refine ⟨heven', ?_, fun i => ?_, fun i => ?_⟩
      · refine le_trans hlength ?_
        simp only [List.length_append, List.length_cons, List.length_nil]
        omega
      · rw [hpairs, motorPairs_append_pair _ _ heven, List.mem_append, List.mem_singleton]
        by_cases hi : i = slot
        · subst hi
          simp [Ne.symm hslot]
        · have hne : motorPair motors i ≠ motorPair motors slot := fun h => hi (motorPair_index h)
          simp only [Function.update_of_ne hi, List.mem_cons, hi, false_or]
          exact ⟨fun h => h.imp_left (·.resolve_right hne), fun h => h.imp_left .inl⟩
      · have := hcache i
        by_cases hi : i = slot
        · subst hi
          simpa [or_imp] using this
        · simpa [hi] using this

theorem collectMotors_collected (motors cache : Fin kVexMotorNum → Int8) :
    (collectMotors motors cache false).1.length ≤ 20 ∧
      (collectMotors motors cache false).2 = motors ∧
      ∀ i, motorPair motors i ∈ motorPairs (collectMotors motors cache false).1 ↔
        cache i ≠ motors i := by
  have hcollected := collectMotor_foldl motors (List.finRange kVexMotorNum) cache [] rfl
  rw [← collectMotors] at hcollected
  refine ⟨?_, funext fun i => ?_, fun i => ?_⟩
  · refine le_of_le_of_eq hcollected.length_le ?_
    rw [List.length_finRange]
    rfl
  · exact (hcollected.cache_eq i).1 (List.mem_finRange i)
  · simpa [motorPairs, List.mem_finRange] using hcollected.pairs i

theorem collectMotors_always (motors cache : Fin kVexMotorNum → Int8) :
    (collectMotors motors cache true).2 = motors := by
  have hloop (slots : List (Fin kVexMotorNum)) (acc : List UInt8 × (Fin kVexMotorNum → Int8))
      (i : Fin kVexMotorNum) : (slots.foldl (collectMotor motors true) acc).2 i =
        if i ∈ slots then motors i else acc.2 i := by
    induction slots generalizing acc with
    | nil => rfl
    | cons slot slots ih =>
      have hturn : (collectMotor motors true acc slot).2 =
          Function.update acc.2 slot (motors slot) :=
        congrArg Prod.snd (if_neg fun hskip => Bool.noConfusion hskip.2)
      rw [List.foldl_cons, ih, hturn]
      by_cases hi : i = slot
      · subst hi
        simp
      · simp [hi]
  rw [collectMotors]
  exact funext fun i => (hloop _ _ i).trans (if_pos (List.mem_finRange i))

/-- The subscription is one that motor `i` is published under. -/
def RpcSubscription.Covers (sub : RpcSubscription) (i : Fin kVexMotorNum) : Prop :=
  sub.active = true ∧
    (sub.topic = messagesTopicMotor ∧
        (sub.subtopic.toNat = i ∨ sub.subtopic = messagesTopicMotorSubtopicAll) ∨
      sub.topic = messagesTopicAll ∧ sub.subtopic = messagesTopicAllSubtopicAll)

instance (sub : RpcSubscription) (i : Fin kVexMotorNum) : Decidable (sub.Covers i) :=
  inferInstanceAs (Decidable (_ ∧ _))

def Carries (packet : List UInt8) (reqId : UInt16) (motors : Fin kVexMotorNum → Int8)
    (i : Fin kVexMotorNum) : Prop :=
  ∃ subtopic value, IsData packet reqId messagesTopicMotor subtopic messagesDataFlagPub value ∧
    (subtopic.toNat = i ∧ value = [(motors i).toUInt8] ∨
      subtopic = messagesTopicMotorSubtopicAll ∧ motorPair motors i ∈ motorPairs value)

theorem IsData.carries_iff {packet value : List UInt8} {reqId reqId' : UInt16}
    {topic subtopic flag : UInt8} {motors : Fin kVexMotorNum → Int8} {i : Fin kVexMotorNum}
    (hd : IsData packet reqId' topic subtopic flag value) :
    Carries packet reqId motors i ↔ reqId = reqId' ∧ topic = messagesTopicMotor ∧
      flag = messagesDataFlagPub ∧ (subtopic.toNat = i ∧ value = [(motors i).toUInt8] ∨
        subtopic = messagesTopicMotorSubtopicAll ∧ motorPair motors i ∈ motorPairs value) := by
  constructor
  · rintro ⟨subtopic', value', hd', hmotor⟩
    obtain ⟨rfl, rfl, rfl, rfl, rfl⟩ := hd.unique hd'
    exact ⟨rfl, rfl, rfl, hmotor⟩
  · rintro ⟨rfl, rfl, rfl, hmotor⟩
    exact ⟨subtopic, value, hd, hmotor⟩

variable {ρ : Type u} {wp : WritePacket ρ} [Aloof wp]

variable (wp) in
/-- From `h` to `h'` motor `i` was published under exactly the ids that `sends i` holds of, the
cache has caught up with exactly the motors that were published, and no slot outside `slots` was
stored to. -/
structure Published (h : Host ρ) (slots : List (Fin rpcSubMax))
    (sends : Fin kVexMotorNum → UInt16 → Prop) (h' : Host ρ) : Prop where
  motors_eq : h'.board.motors = h.board.motors
  packets : ∃ packets, sent wp h' = sent wp h ++ packets ∧
    ∀ i reqId, (∃ packet ∈ packets, Carries packet reqId h.board.motors i) ↔ sends i reqId
  caught : ∀ i reqId, sends i reqId → h'.rpc.motor i = h.board.motors i
  kept : ∀ i, (∀ reqId, ¬ sends i reqId) → h'.rpc.motor i = h.rpc.motor i
  others : ∀ k, k ∉ slots → h'.rpc.subs k = h.rpc.subs k

abbrev noMotor : Fin kVexMotorNum → UInt16 → Prop := fun _ _ => False

variable {h h' h'' : Host ρ} {slots slots' : List (Fin rpcSubMax)}
  {sends sends' : Fin kVexMotorNum → UInt16 → Prop}

theorem Published.trans (hfst : Published wp h slots sends h')
    (hsnd : Published wp h' slots' sends' h'') :
    Published wp h (slots ++ slots') (fun i reqId => sends i reqId ∨ sends' i reqId) h'' := by
  obtain ⟨packets, houter, hpackets⟩ := hfst.packets
  obtain ⟨packets', houter', hpackets'⟩ := hsnd.packets
  rw [hfst.motors_eq] at hpackets'
  refine ⟨hsnd.motors_eq.trans hfst.motors_eq, ⟨packets ++ packets', ?_, fun i reqId => ?_⟩,
    fun i reqId hi => ?_, fun i hi => ?_, fun k hk => ?_⟩
  · rw [houter', houter, List.append_assoc]
  · rw [← hpackets, ← hpackets', ← exists_or]
    exact exists_congr fun packet => by rw [List.mem_append, or_and_right]
  · by_cases hi' : ∃ reqId, sends' i reqId
    · obtain ⟨reqId', hi'⟩ := hi'
      rw [hsnd.caught i reqId' hi', hfst.motors_eq]
    · rw [hsnd.kept i (not_exists.mp hi')]
      exact hfst.caught i reqId (hi.resolve_right (not_exists.mp hi' reqId))
  · rw [hsnd.kept i fun reqId hr => hi reqId (.inr hr), hfst.kept i fun reqId hr => hi reqId (.inl hr)]
  · rw [List.mem_append, not_or] at hk
    rw [hsnd.others k hk.2, hfst.others k hk.1]

theorem Published.congr (hp : Published wp h slots sends h')
    (hs : ∀ i reqId, sends i reqId ↔ sends' i reqId) : Published wp h slots sends' h' := by
  rwa [show sends' = sends from funext fun i => funext fun reqId => propext (hs i reqId).symm]

theorem Published.mono (hp : Published wp h slots sends h') (hslots : slots ⊆ slots') :
    Published wp h slots' sends h' :=
  { hp with others := fun k hk => hp.others k fun hmem => hk (hslots hmem) }

theorem Posted.published {packets : List (List UInt8)} (hp : Posted wp h packets h')
    (hmotors : h'.board.motors = h.board.motors)
    (hnot : ∀ packet ∈ packets, ∀ i reqId, ¬ Carries packet reqId h.board.motors i) :
    Published wp h [] noMotor h' :=
  ⟨hmotors, ⟨packets, hp.sent_eq, fun i reqId =>
      ⟨fun ⟨packet, hmem, hc⟩ => hnot packet hmem i reqId hc, False.elim⟩⟩,
    fun _ _ hi => hi.elim, fun i _ => by rw [hp.rpc_eq], fun k _ => by rw [hp.rpc_eq]⟩

theorem setSub_published (j : Fin rpcSubMax) (sub : RpcSubscription) (h : Host ρ) :
    Published wp h [j] noMotor (setSub j sub h) :=
  ⟨rfl, ⟨[], (List.append_nil _).symm, by simp⟩, fun _ _ hi => hi.elim, fun _ _ => rfl,
    fun k hk => Function.update_of_ne (by simpa using hk) _ _⟩

theorem sends_motors (motors : Fin kVexMotorNum → Int8) :
    Sends wp (fun h => h.board.motors = motors) :=
  Aloof.sends fun _ _ _ _ _ _ hh => hh

theorem rpcSendData_motors (reqId : UInt16) (topic subtopic flag : UInt8) (value : List UInt8)
    (h : Host ρ) :
    (rpcSendData wp reqId topic subtopic flag value h).board.motors = h.board.motors :=
  (sends_motors h.board.motors).rpcSendData_keeps reqId topic subtopic flag value rfl

theorem rpcSendData_published {reqId : UInt16} {topic subtopic flag : UInt8} {value : List UInt8}
    (hother : topic ≠ messagesTopicMotor ∨ flag ≠ messagesDataFlagPub) (hvalue : value.length ≤ 245)
    (h : Host ρ) :
    Published wp h [] noMotor (rpcSendData wp reqId topic subtopic flag value h) := by
  obtain ⟨packet, hdata, hposted⟩ := rpcSendData_posted wp reqId topic subtopic flag hvalue h
  refine hposted.published (rpcSendData_motors _ _ _ _ _ h) fun packet' hmem i reqId' hc => ?_
  rw [List.mem_singleton.mp hmem, hdata.carries_iff] at hc
  exact hother.elim (fun htopic => htopic hc.2.1) fun hflag => hflag hc.2.2.1

theorem rpcSendPubError_published (sub : RpcSubscription) (error : UInt8) (h : Host ρ) :
    Published wp h [] noMotor (rpcSendPubError wp sub error h) :=
  rpcSendData_published (.inr (by decide)) (Nat.le_of_ble_eq_true rfl) h

theorem refuse_published (j : Fin rpcSubMax) (sub : RpcSubscription) (error : UInt8) (h : Host ρ) :
    Published wp h [j] noMotor (rpcSubReset j (rpcSendPubError wp sub error h)) :=
  ((rpcSendPubError_published sub error h).trans (setSub_published j .empty _)).congr (by simp)

theorem quiet_published (hmotors : h'.board.motors = h.board.motors) (houter : h'.outer = h.outer)
    (hmotor : h'.rpc.motor = h.rpc.motor) (hsubs : h'.rpc.subs = h.rpc.subs) :
    Published wp h [] noMotor h' :=
  ⟨hmotors, ⟨[], by rw [sent, sent, houter, List.append_nil], by simp⟩, fun _ _ hi => hi.elim,
    fun i _ => congrFun hmotor i, fun k _ => congrFun hsubs k⟩

variable (wp) in
theorem chTimeNow_published (h : Host ρ) : Published wp h [] noMotor (chTimeNow h).2 :=
  quiet_published rfl rfl rfl rfl

theorem rpcPublishClock_published {j : Fin rpcSubMax}
    (htopic : (h.rpc.subs j).topic = messagesTopicClock) :
    Published wp h [j] noMotor (rpcPublishClock wp j h) := by
  unfold rpcPublishClock
  dsimp only
  split
  · have hsend : Published wp (chTimeNow h).2 [] noMotor
        (rpcSendPub wp (h.rpc.subs j) (memory64 (htonll (chTimeNow h).1.toUInt64))
          (chTimeNow h).2) :=
      rpcSendData_published (.inl (by rw [htopic]; decide)) (Nat.le_of_ble_eq_true rfl) _
    exact (((chTimeNow_published wp h).trans hsend).congr (by simp)).mono (by simp)
  · exact refuse_published j _ _ h

theorem sends_subs (subs : Fin rpcSubMax → RpcSubscription) :
    Sends wp (fun h => h.rpc.subs = subs) :=
  Posting.sends fun _ _ _ _ hh => hh

theorem rpcPublishClock_subs {j : Fin rpcSubMax}
    (hnow : (h.rpc.subs j).subtopic = messagesTopicClockSubtopicNow) :
    (rpcPublishClock wp j h).rpc.subs = h.rpc.subs := by
  unfold rpcPublishClock
  dsimp only
  rw [if_pos hnow]
  exact (sends_subs h.rpc.subs).rpcSendPub_keeps _ _ rfl

def turnSends (sub : RpcSubscription) (h : Host ρ) (i : Fin kVexMotorNum) (reqId : UInt16) : Prop :=
  sub.Covers i ∧ h.rpc.motor i ≠ h.board.motors i ∧ sub.reqId = reqId

variable (wp) in
theorem rpcSendPub_published (motor : Fin kVexMotorNum → Int8) (sent : Fin kVexMotorNum → Prop)
    {sub : RpcSubscription} (htopic : sub.topic = messagesTopicMotor) {value : List UInt8}
    (hvalue : value.length ≤ 245)
    (hsent : ∀ i : Fin kVexMotorNum, (sub.subtopic.toNat = i ∧ value = [(h.board.motors i).toUInt8] ∨
      sub.subtopic = messagesTopicMotorSubtopicAll ∧
        motorPair h.board.motors i ∈ motorPairs value) ↔ sent i)
    (hcaught : ∀ i, sent i → motor i = h.board.motors i)
    (hkept : ∀ i, ¬ sent i → motor i = h.rpc.motor i) :
    Published wp h [] (fun i reqId => sent i ∧ sub.reqId = reqId)
      (rpcSendPub wp sub value { h with rpc.motor := motor }) := by
  obtain ⟨packet, hdata, hposted⟩ := rpcSendData_posted wp sub.reqId sub.topic sub.subtopic
    messagesDataFlagPub hvalue { h with rpc.motor := motor }
  refine ⟨?_, ⟨[packet], hposted.sent_eq, fun i reqId => ?_⟩, fun i reqId hi => ?_, fun i hi => ?_,
    fun k _ => ?_⟩
  · exact rpcSendData_motors _ _ _ _ _ { h with rpc.motor := motor }
  · simp only [List.mem_singleton, exists_eq_left, hdata.carries_iff, htopic, true_and]
    rw [and_comm, ← hsent i, eq_comm (a := reqId)]
  · exact (congrFun hposted.motor_eq i).trans (hcaught i hi.1)
  · exact (congrFun hposted.motor_eq i).trans (hkept i fun hs => hi sub.reqId ⟨hs, rfl⟩)
  · exact congrFun hposted.subs_eq k

theorem RpcSubscription.covers_motor {sub : RpcSubscription} (hactive : sub.active = true)
    (htopic : sub.topic = messagesTopicMotor) (i : Fin kVexMotorNum) :
    sub.Covers i ↔ sub.subtopic.toNat = i ∨ sub.subtopic = messagesTopicMotorSubtopicAll := by
  have hne : ¬ messagesTopicMotor = messagesTopicAll := by decide
  simp only [RpcSubscription.Covers, hactive, htopic, hne, true_and, false_and, or_false]

theorem rpcPublishMotor_published {j : Fin rpcSubMax} (hactive : (h.rpc.subs j).active = true)
    (htopic : (h.rpc.subs j).topic = messagesTopicMotor) :
    Published wp h [j] (turnSends (h.rpc.subs j) h) (rpcPublishMotor wp j h) := by
  have hcovers := RpcSubscription.covers_motor hactive htopic
  unfold rpcPublishMotor turnSends
  dsimp only
  generalize h.rpc.subs j = sub at *
  split
  case isTrue hindex =>
    have hall : sub.subtopic ≠ messagesTopicMotorSubtopicAll := fun hall => by
      rw [hall] at hindex
      exact absurd hindex (by decide)
    have hsingle (i : Fin kVexMotorNum) : sub.Covers i ↔ ⟨sub.subtopic.toNat, hindex⟩ = i := by
      simp [hcovers, hall, Fin.ext_iff]
    split
    case isTrue hsame =>
      refine (((Posted.refl wp h).published rfl (by simp)).mono (by simp)).congr fun i reqId => ?_
      rw [hsingle]
      refine ⟨False.elim, ?_⟩
      rintro ⟨rfl, hne, -⟩
      exact hne hsame.symm
    case isFalse hchanged =>
      let index : Fin kVexMotorNum := ⟨sub.subtopic.toNat, hindex⟩
      have hsend := rpcSendPub_published wp (h := h)
        (Function.update h.rpc.motor index (h.board.motors index)) (fun i => index = i) htopic
        (show [(h.board.motors index).toUInt8].length ≤ 245 from Nat.le_of_ble_eq_true rfl)
        (fun i => ?_) (fun i hi => ?_) (fun i hi => ?_)
      · refine (hsend.mono (by simp)).congr fun i reqId => ?_
        rw [hsingle]
        refine and_congr_right fun hi => (and_iff_right ?_).symm
        subst hi
        exact Ne.symm hchanged
      · rw [or_iff_left (fun hi => hall hi.1)]
        refine ⟨fun hi => Fin.ext hi.1, ?_⟩
        rintro rfl
        exact ⟨rfl, rfl⟩
      · subst hi
        exact Function.update_self _ _ _
      · exact Function.update_of_ne (Ne.symm hi) _ _
  case isFalse hindex =>
    have hcovers (i : Fin kVexMotorNum) :
        sub.Covers i ↔ sub.subtopic = messagesTopicMotorSubtopicAll := by
      rw [hcovers, or_iff_right]
      omega
    split
    case isTrue hall =>
      obtain ⟨hlength, hmotor, hpairs⟩ := collectMotors_collected h.board.motors h.rpc.motor
      generalize collectMotors h.board.motors h.rpc.motor false = r at *
      obtain ⟨tmp, motor⟩ := r
      subst hmotor
      dsimp only
      split
      case isTrue hsome =>
        have hsend := rpcSendPub_published wp (h := h) h.board.motors
          (fun i => h.rpc.motor i ≠ h.board.motors i) htopic (le_trans hlength (by omega))
          (fun i => ?_) (fun i hi => rfl) (fun i hi => (not_not.mp hi).symm)
        · refine (hsend.mono (by simp)).congr fun i reqId => ?_
          rw [hcovers, and_iff_right hall]
        · rw [or_iff_right fun hi => hindex (by rw [hi.1]; exact i.isLt), and_iff_right hall]
          exact hpairs i
      case isFalse hnone =>
        have hsame : h.board.motors = h.rpc.motor := funext fun i => by
          by_contra hne
          have hmem := (hpairs i).mpr (Ne.symm hne)
          rw [List.length_eq_zero_iff.mp (Nat.eq_zero_of_not_pos hnone)] at hmem
          cases hmem
        rw [hsame]
        exact (((Posted.refl wp h).published rfl (by simp)).mono (by simp)).congr (by simp)
    case isFalse hnot =>
      refine (refuse_published j _ _ h).congr fun i reqId => ?_
      simp [hcovers, hnot]

theorem turnSends_congr {sub : RpcSubscription} (hp : Published wp h slots noMotor h')
    (i : Fin kVexMotorNum) (reqId : UInt16) : turnSends sub h' i reqId ↔ turnSends sub h i reqId := by
  rw [turnSends, turnSends, hp.motors_eq, hp.kept i fun _ => not_false]

theorem RpcSubscription.covers_all {sub : RpcSubscription} (hactive : sub.active = true)
    (htopic : sub.topic = messagesTopicAll) (i : Fin kVexMotorNum) :
    sub.Covers i ↔ sub.subtopic = messagesTopicAllSubtopicAll := by
  have hne : ¬ messagesTopicAll = messagesTopicMotor := by decide
  simp only [RpcSubscription.Covers, hactive, htopic, hne, true_and, false_and, false_or]

theorem rpcPublishAll_published {j : Fin rpcSubMax} (hactive : (h.rpc.subs j).active = true)
    (htopic : (h.rpc.subs j).topic = messagesTopicAll) :
    Published wp h [j] (turnSends (h.rpc.subs j) h) (rpcPublishAll wp j h) := by
  have hcovers := RpcSubscription.covers_all hactive htopic
  unfold rpcPublishAll
  dsimp only
  split
  case isTrue hall =>
    let clock : RpcSubscription := { h.rpc.subs j with
      topic := messagesTopicClock, subtopic := messagesTopicClockSubtopicNow }
    let h₁ := setSub j clock h
    let h₂ := rpcPublishClock wp j h₁
    let motor : RpcSubscription := { h₂.rpc.subs j with
      topic := messagesTopicMotor, subtopic := messagesTopicMotorSubtopicAll }
    let h₃ := setSub j motor h₂
    have hslot₁ : h₁.rpc.subs j = clock := Function.update_self _ _ _
    have hslot₂ : h₂.rpc.subs j = clock := by
      rw [rpcPublishClock_subs (congrArg RpcSubscription.subtopic hslot₁), hslot₁]
    have hslot₃ : h₃.rpc.subs j = motor := Function.update_self _ _ _
    have hmotor : motor = { h.rpc.subs j with
        topic := messagesTopicMotor, subtopic := messagesTopicMotorSubtopicAll } := by
      change { h₂.rpc.subs j with
        topic := messagesTopicMotor, subtopic := messagesTopicMotorSubtopicAll } = _
      rw [hslot₂]
    have hclock : Published wp h [j] noMotor h₃ :=
      ((((setSub_published j clock h).trans (rpcPublishClock_published (congrArg
        RpcSubscription.topic hslot₁))).trans (setSub_published j motor h₂)).congr (by simp)).mono
          (by simp)
    have hmotorActive : motor.active = true := by
      rw [hmotor]
      exact hactive
    have hmotors : Published wp h₃ [j] (turnSends (h₃.rpc.subs j) h₃)
        (rpcPublishMotor wp j h₃) :=
      rpcPublishMotor_published (by rw [hslot₃, hmotorActive]) (by rw [hslot₃])
    refine (((hclock.trans hmotors).trans (setSub_published j _ _)).congr fun i reqId => ?_).mono
      (by simp)
    have hmotorCovers : motor.Covers i :=
      (RpcSubscription.covers_motor hmotorActive rfl i).mpr (.inr rfl)
    rw [or_false, false_or, turnSends_congr hclock, hslot₃]
    unfold turnSends
    rw [and_iff_right hmotorCovers, hcovers, and_iff_right hall,
      show motor.reqId = (h.rpc.subs j).reqId by rw [hmotor]]
  case isFalse hnot =>
    refine (refuse_published j _ _ h).congr fun i reqId => ?_
    simp [turnSends, hcovers, hnot]

variable (wp) in
theorem rpcPublish_published (j : Fin rpcSubMax) (h : Host ρ) :
    Published wp h [j] (turnSends (h.rpc.subs j) h) (rpcPublish wp j h) := by
  have hother (hactive : (h.rpc.subs j).active = true)
      (htopic : (h.rpc.subs j).topic ≠ messagesTopicMotor ∧
        (h.rpc.subs j).topic ≠ messagesTopicAll) (i : Fin kVexMotorNum) :
      ¬ (h.rpc.subs j).Covers i := by
    rintro ⟨-, ⟨hmotor, -⟩ | ⟨hall, -⟩⟩
    · exact htopic.1 hmotor
    · exact htopic.2 hall
  unfold rpcPublish
  dsimp only
  split
  case isTrue hinactive =>
    refine (((Posted.refl wp h).published rfl (by simp)).mono (by simp)).congr fun i reqId => ?_
    simp [turnSends, RpcSubscription.Covers, hinactive]
  case isFalse hactive =>
    have hactive := Bool.eq_true_of_not_eq_false hactive
    split
    case isTrue hclock =>
      refine (rpcPublishClock_published hclock).congr fun i reqId => ?_
      exact ⟨False.elim, fun hs => hother hactive (by rw [hclock]; decide) i hs.1⟩
    case isFalse =>
      split
      case isTrue hmotor => exact rpcPublishMotor_published hactive hmotor
      case isFalse hmotor =>
        split
        case isTrue hall => exact rpcPublishAll_published hactive hall
        case isFalse hall =>
          refine (refuse_published j _ _ h).congr fun i reqId => ?_
          exact ⟨False.elim, fun hs => hother hactive ⟨hmotor, hall⟩ i hs.1⟩

/-- What a round over the slots sends: the motors that the cache has not caught up with, each to the
first subscription that covers it. -/
def roundSends (subs : Fin rpcSubMax → RpcSubscription) (slots : List (Fin rpcSubMax)) (h : Host ρ)
    (i : Fin kVexMotorNum) (reqId : UInt16) : Prop :=
  h.rpc.motor i ≠ h.board.motors i ∧
    ∃ j, slots.find? (fun j => decide ((subs j).Covers i)) = some j ∧ (subs j).reqId = reqId

theorem publish_foldl (subs : Fin rpcSubMax → RpcSubscription) {slots : List (Fin rpcSubMax)}
    (hnodup : slots.Nodup) (h : Host ρ) (hsubs : ∀ j ∈ slots, h.rpc.subs j = subs j) :
    Published wp h slots (roundSends subs slots h)
      (slots.foldl (fun h j => if (h.rpc.subs j).active then rpcPublish wp j h else h) h) := by
  induction slots generalizing h with
  | nil => exact ((Posted.refl wp h).published rfl (by simp)).congr (by simp [roundSends])
  | cons j slots ih =>
    obtain ⟨hj, hnodup⟩ := List.nodup_cons.mp hnodup
    have hturn := rpcPublish_published wp j h
    rw [hsubs j List.mem_cons_self] at hturn
    have heq : (if (h.rpc.subs j).active then rpcPublish wp j h else h) =
        rpcPublish wp j h := by
      split
      case isTrue => rfl
      case isFalse hinactive => simp [rpcPublish, hinactive]
    rw [List.foldl_cons, heq]
    have hrest := ih hnodup (rpcPublish wp j h) fun k hk => by
      rw [hturn.others k (by rintro hkj; exact hj (List.mem_singleton.mp hkj ▸ hk))]
      exact hsubs k (List.mem_cons_of_mem _ hk)
    refine (hturn.trans hrest).congr fun i reqId => ?_
    unfold roundSends turnSends
    rw [hturn.motors_eq]
    by_cases hcovers : (subs j).Covers i
    · have hcaught : (rpcPublish wp j h).rpc.motor i = h.board.motors i := by
        by_cases hsame : h.rpc.motor i = h.board.motors i
        · rw [hturn.kept i fun _ hs => hs.2.1 hsame, hsame]
        · exact hturn.caught i _ ⟨hcovers, hsame, rfl⟩
      simp [hcovers, hcaught]
    · have hkept : (rpcPublish wp j h).rpc.motor i = h.rpc.motor i :=
        hturn.kept i fun _ hs => hcovers hs.1
      simp [hcovers, hkept]

theorem rpcPublishRound_published (h : Host ρ) :
    Published wp h (List.finRange rpcSubMax) (roundSends h.rpc.subs (List.finRange rpcSubMax) h)
      (rpcPublishRound wp h) :=
  publish_foldl h.rpc.subs (List.nodup_finRange _) h fun _ _ => rfl

theorem info_not_carries {m : MessageInfo} (hm : m.value.length = m.len.toNat) {reqId : UInt16}
    {motors : Fin kVexMotorNum → Int8} {i : Fin kVexMotorNum} :
    ¬ Carries (messageOctets (.info m)) reqId motors i := by
  rintro ⟨subtopic, value, ⟨timestamp, hread⟩, -⟩
  have heq := (hread (.ping ⟨0⟩)).symm.trans (info_readsAs hm (.ping ⟨0⟩))
  cases congrArg Prod.snd heq

theorem rpcSendStats_published (h : Host ρ) :
    Published wp h [] noMotor (rpcSendStats wp h) := by
  unfold rpcSendStats
  dsimp only
  have hsize (m : MessageInfo) (hlen : m.len = 8) : messageGetsizeof (.info m) = 12 := by
    rw [messageGetsizeof, hlen]
    rfl
  refine ((chTimeNow_published wp h).trans ((rpcSend_posted wp _ (by rw [hsize _ rfl]; decide)
    (by rw [hsize _ rfl]; decide)).published ((sends_motors _).rpcSend_keeps _ rfl)
      fun packet hpacket i reqId => ?_)).congr (by simp)
  rw [List.mem_singleton.mp hpacket]
  exact info_not_carries rfl

def RoundDue (h : Host ρ) : Prop := rpcPubTimeout ≤ h.board.clock 0 - h.rpc.published

instance (h : Host ρ) : Decidable (RoundDue h) := inferInstanceAs (Decidable (_ ≤ _))

theorem timers_published (published sendstats : UInt32) (h : Host ρ) :
    Published wp h [] noMotor { h with rpc.published := published, rpc.sendstats := sendstats } :=
  quiet_published rfl rfl rfl rfl

theorem rpcLoopStats_published (h : Host ρ) :
    Published wp h [] noMotor (rpcLoopStats wp h) := by
  unfold rpcLoopStats
  dsimp only [chTimeElapsedSince]
  split
  · have hsend := (chTimeNow_published wp h).trans (rpcSendStats_published (chTimeNow h).2)
    exact (hsend.trans ((chTimeNow_published wp _).trans (timers_published _ _ _))).congr (by simp)
  · exact chTimeNow_published wp h

variable (wp) in
theorem rpcLoop_published_round (hdue : RoundDue h) :
    Published wp h (List.finRange rpcSubMax) (roundSends h.rpc.subs (List.finRange rpcSubMax) h)
      (rpcLoop wp h) := by
  have hpublish : Published wp h (List.finRange rpcSubMax)
      (roundSends h.rpc.subs (List.finRange rpcSubMax) h) (rpcLoopPublish wp h) := by
    have hround := (chTimeNow_published wp h).trans (rpcPublishRound_published (chTimeNow h).2)
    unfold rpcLoopPublish
    dsimp only [chTimeElapsedSince]
    rw [if_pos (by exact hdue)]
    refine ((hround.trans ((chTimeNow_published wp _).trans (timers_published _ _ _))).congr ?_).mono ?_
    · intro i reqId
      simp only [or_false, false_or]
      exact Iff.rfl
    · simp
  exact ((hpublish.trans (rpcLoopStats_published _)).congr (by simp)).mono (by simp)

theorem rpcLoop_published_idle (hdue : ¬ RoundDue h) :
    Published wp h [] noMotor (rpcLoop wp h) := by
  have hpublish : Published wp h [] noMotor (rpcLoopPublish wp h) := by
    unfold rpcLoopPublish
    dsimp only [chTimeElapsedSince]
    rw [if_neg (by exact hdue)]
    exact chTimeNow_published wp h
  exact (hpublish.trans (rpcLoopStats_published _)).congr (by simp)

end TurningPoint
