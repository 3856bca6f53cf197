import TurningPoint.Rpc.Reading

universe u

namespace TurningPoint

/-- `rpc->tmp`, with `tbuf` as an offset into it. -/
structure Listing where
  tmp : List UInt8
  tbuf : Nat
  tlen : UInt8

namespace Listing

def put (src : List UInt8) (l : Listing) : Listing :=
  ⟨storeAt l.tmp l.tbuf src, l.tbuf + src.length, l.tlen + UInt8.ofNat src.length⟩

def octets (l : Listing) : List UInt8 := l.tmp.take l.tlen.toNat

structure Holds (l : Listing) (octets : List UInt8) : Prop where
  tmp_eq : ∃ rest, l.tmp = octets ++ rest
  tbuf_eq : l.tbuf = octets.length
  tlen_eq : l.tlen = UInt8.ofNat octets.length

theorem Holds.put {l : Listing} {octets : List UInt8} (hl : l.Holds octets) (src : List UInt8) :
    (l.put src).Holds (octets ++ src) := by
  obtain ⟨rest, htmp⟩ := hl.tmp_eq
  refine ⟨⟨rest.drop src.length, ?_⟩, ?_, ?_⟩
  · rw [Listing.put, htmp, hl.tbuf_eq]
    exact storeAt_append rfl rest src
  · rw [Listing.put, hl.tbuf_eq, List.length_append]
  · rw [Listing.put, hl.tlen_eq, List.length_append, UInt8.ofNat_add]

theorem Holds.octets_eq {l : Listing} {octets : List UInt8} (hl : l.Holds octets)
    (hlen : octets.length < 256) : l.octets = octets := by
  obtain ⟨rest, htmp⟩ := hl.tmp_eq
  rw [Listing.octets, htmp, hl.tlen_eq, UInt8.toNat_ofNat_of_lt' hlen, List.take_left]

end Listing

/-- One turn of the loop for LIST, which READ PUBSUB/ALL has a copy of. -/
def listTurn (rpc : Rpc) (l : Listing) (i : Fin rpcSubMax) : Listing :=
  let sub := rpc.subs i
  if sub.active then
    (((l.put [UInt8.ofNat i]).put (memory16 (htons sub.reqId))).put [sub.topic]).put [sub.subtopic]
  else l

def listLoop (rpc : Rpc) (tmp : List UInt8) : Listing :=
  (List.finRange rpcSubMax).foldl (listTurn rpc) ⟨tmp, 0, 0⟩

theorem listTurn_holds (rpc : Rpc) {l : Listing} {octets : List UInt8} (hl : l.Holds octets)
    (i : Fin rpcSubMax) : (listTurn rpc l i).Holds (octets ++ listSub rpc i) := by
  unfold listTurn listSub
  dsimp only
  split
  · have hputs := (((hl.put [UInt8.ofNat i]).put (memory16 (htons (rpc.subs i).reqId))).put
      [(rpc.subs i).topic]).put [(rpc.subs i).subtopic]
    simpa using hputs
  · rwa [List.append_nil]

theorem listLoop_octets (rpc : Rpc) (tmp : List UInt8) : (listLoop rpc tmp).octets = listSubs rpc := by
  have hloop (slots : List (Fin rpcSubMax)) {l : Listing} {octets : List UInt8}
      (hl : l.Holds octets) :
      (slots.foldl (listTurn rpc) l).Holds (octets ++ slots.flatMap (listSub rpc)) := by
    induction slots generalizing l octets with
    | nil => rwa [List.flatMap_nil, List.append_nil]
    | cons i slots ih =>
      rw [List.foldl_cons, List.flatMap_cons, ← List.append_assoc]
      exact ih (listTurn_holds rpc hl i)
  have hempty : (⟨tmp, 0, 0⟩ : Listing).Holds [] := ⟨⟨tmp, rfl⟩, rfl, rfl⟩
  have hholds := hloop (List.finRange rpcSubMax) hempty
  exact hholds.octets_eq ((listSubs_length rpc).trans_lt (by decide))

def RpcSubscription.record (sub : RpcSubscription) (i : Fin rpcSubMax) : List UInt8 :=
  [UInt8.ofNat i, (sub.reqId >>> 8).toUInt8, sub.reqId.toUInt8, sub.topic, sub.subtopic]

def Rpc.activeSlots (rpc : Rpc) : List (Fin rpcSubMax) :=
  (List.finRange rpcSubMax).filter fun i => (rpc.subs i).active

def Rpc.records (rpc : Rpc) : List (List UInt8) := rpc.activeSlots.map fun i => (rpc.subs i).record i

theorem memory16_htons (n : UInt16) : memory16 (htons n) = [(n >>> 8).toUInt8, n.toUInt8] := by
  have hn := n.toNat_lt
  have hlow : (bswap16 n).toUInt8 = (n >>> 8).toUInt8 := by
    rw [← UInt8.toNat_inj, UInt16.toNat_toUInt8, bswap16_toNat]
    simp [Nat.shiftRight_eq_div_pow]
  have hhigh : (bswap16 n >>> 8).toUInt8 = n.toUInt8 := by
    rw [← UInt8.toNat_inj, UInt16.toNat_toUInt8, UInt16.toNat_toUInt8, UInt16.toNat_shiftRight,
      bswap16_toNat, Nat.shiftRight_eq_div_pow]
    change (n.toNat % 256 * 2 ^ 8 + n.toNat / 256) / 2 ^ 8 % 2 ^ 8 = _
    rw [Nat.mul_comm, Nat.mul_add_div (Nat.two_pow_pos 8), Nat.div_eq_of_lt (by omega)]
    omega
  rw [memory16, htons, hlow, hhigh]

theorem listSub_eq (rpc : Rpc) (i : Fin rpcSubMax) :
    listSub rpc i = if (rpc.subs i).active then (rpc.subs i).record i else [] := by
  rw [listSub, memory16_htons]
  rfl

theorem listSubs_eq (rpc : Rpc) : listSubs rpc = rpc.records.flatten := by
  have hslots (slots : List (Fin rpcSubMax)) : slots.flatMap (listSub rpc) =
      ((slots.filter fun i => (rpc.subs i).active).map fun i => (rpc.subs i).record i).flatten := by
    induction slots with
    | nil => rfl
    | cons i slots ih =>
      rw [List.flatMap_cons, ih, listSub_eq, List.filter_cons]
      split <;> rfl
  exact hslots _

theorem records_add_free (rpc : Rpc) : rpc.records.length + (rpcSubFree rpc).1 = rpcSubMax := by
  rw [Rpc.records, List.length_map, rpcSubFree, Rpc.activeSlots]
  have hsplit := List.length_eq_length_filter_add (l := List.finRange rpcSubMax)
    fun i => (rpc.subs i).active
  rw [List.length_finRange] at hsplit
  exact hsplit.symm

theorem records_count (rpc : Rpc) :
    UInt8.ofNat rpcSubMax - UInt8.ofNat (rpcSubFree rpc).1 = UInt8.ofNat rpc.records.length := by
  have hsum := records_add_free rpc
  rw [← UInt8.ofNat_sub (by omega)]
  congr 1
  omega

section Answers

variable {ρ : Type u} (wp : WritePacket ρ) [Posting wp]

/-- READ PUBSUB is answered with the replies, in their order and nothing else. -/
def Answers (h : Host ρ) (reqId : UInt16) (subtopic : UInt8) (replies : List Reply) : Prop :=
  let read : MessageRead := ⟨reqId, messagesTopicPubsub, subtopic⟩
  ∃ packets, sent wp (rpcRecv wp (.read read) h) = sent wp h ++ packets ∧
    List.Forall₂ (Reply.IsPacket read) replies packets

variable {wp}

theorem Answers.of_eq {h : Host ρ} {reqId : UInt16} {subtopic : UInt8} {replies : List Reply}
    (hvalues : ∀ r ∈ replies, r.value.length ≤ 245)
    (heq : rpcRecvReadPubsub wp ⟨reqId, messagesTopicPubsub, subtopic⟩ h =
      sendReplies wp ⟨reqId, messagesTopicPubsub, subtopic⟩ replies h) :
    Answers wp h reqId subtopic replies := by
  obtain ⟨packets, hposted, hpackets⟩ :=
    sendReplies_posted wp (fun r hr => Reply.fits_of_le (hvalues r hr)) h
  refine ⟨packets, ?_, hpackets⟩
  rw [← hposted.sent_eq, ← heq]
  rfl

theorem Answers.rep {h : Host ρ} {reqId : UInt16} {subtopic : UInt8} {value : List UInt8}
    (hvalue : value.length ≤ 245)
    (heq : rpcRecvReadPubsub wp ⟨reqId, messagesTopicPubsub, subtopic⟩ h =
      rpcSendRep wp ⟨reqId, messagesTopicPubsub, subtopic⟩ value h) :
    Answers wp h reqId subtopic [⟨subtopic, messagesDataFlagEnd, value⟩] :=
  .of_eq (List.forall_mem_singleton.mpr hvalue) heq

variable (wp)

omit [Posting wp] in
theorem rpcRecvReadPubsub_slot (h : Host ρ) (reqId : UInt16) (k : Fin rpcSubMax) :
    let read : MessageRead := ⟨reqId, messagesTopicPubsub, UInt8.ofNat k⟩
    rpcRecvReadPubsub wp read h = rpcSendRep wp read
      (if (h.rpc.subs k).active then ((h.rpc.subs k).record k).drop 1 else []) h := by
  intro read
  have hk : (UInt8.ofNat k.val).toNat = k.val :=
    UInt8.toNat_ofNat_of_lt' (k.isLt.trans (by decide))
  have hlt : read.subtopic.toNat < rpcSubMax := hk.trans_lt k.isLt
  have hslot : (⟨read.subtopic.toNat, hlt⟩ : Fin rpcSubMax) = k := Fin.ext hk
  rw [rpcRecvReadPubsub, dif_pos hlt, hslot]
  dsimp only
  rw [memory16_htons]
  cases (h.rpc.subs k).active <;> rfl

/-- LIST, the single slots and the counters all tell of the same table. -/
theorem listings_agree (h : Host ρ) (reqId : UInt16) :
    let records := h.rpc.records
    let list := messagesTopicPubsubSubtopicList
    let count := messagesTopicPubsubSubtopicCount
    let free := messagesTopicPubsubSubtopicFree
    let max := messagesTopicPubsubSubtopicMax
    let all := messagesTopicPubsubSubtopicAll
    let fin := messagesDataFlagEnd
    records.length ≤ rpcSubMax ∧
    Answers wp h reqId list [⟨list, fin, records.flatten⟩] ∧
    (∀ k : Fin rpcSubMax, Answers wp h reqId (UInt8.ofNat k) [⟨UInt8.ofNat k, fin,
      if (h.rpc.subs k).active then ((h.rpc.subs k).record k).drop 1 else []⟩]) ∧
    Answers wp h reqId count [⟨count, fin, [UInt8.ofNat records.length]⟩] ∧
    Answers wp h reqId free [⟨free, fin, [UInt8.ofNat (rpcSubMax - records.length)]⟩] ∧
    Answers wp h reqId max [⟨max, fin, [UInt8.ofNat rpcSubMax]⟩] ∧
    Answers wp h reqId all [⟨list, 0, records.flatten⟩, ⟨count, 0, [UInt8.ofNat records.length]⟩,
      ⟨free, 0, [UInt8.ofNat (rpcSubMax - records.length)]⟩, ⟨max, 0, [UInt8.ofNat rpcSubMax]⟩,
      ⟨all, fin, []⟩] ∧
    ∀ tmp, (listLoop h.rpc tmp).octets = records.flatten := by
  intro records list count free max all fin
  have hsum : records.length + (rpcSubFree h.rpc).1 = rpcSubMax := records_add_free h.rpc
  have hfree : (rpcSubFree h.rpc).1 = rpcSubMax - records.length := by omega
  have hcount := records_count h.rpc
  have hlist := listSubs_eq h.rpc
  have hlen : records.flatten.length ≤ 245 :=
    hlist ▸ (listSubs_length h.rpc).trans (by decide)
  have hone (n : Nat) : [UInt8.ofNat n].length ≤ 245 := by simp
  refine ⟨by omega, .rep hlen ?_, fun k => .rep ?_ (rpcRecvReadPubsub_slot wp h reqId k),
    .rep (hone _) ?_, .rep (hone _) ?_, .rep (hone _) rfl, .of_eq ?_ ?_,
    fun tmp => (listLoop_octets h.rpc tmp).trans hlist⟩
  · rw [← hlist]
    rfl
  · split
    · exact Nat.le_of_ble_eq_true rfl
    · exact Nat.zero_le _
  · rw [← hcount]
    rfl
  · rw [← hfree]
    rfl
  · simp only [List.forall_mem_cons, List.length_singleton, List.length_nil]
    exact ⟨hlen, by decide, by decide, by decide, by decide, List.forall_mem_nil _⟩
  · rw [← hlist, ← hcount, ← hfree]
    unfold rpcRecvReadPubsub
    dsimp only
    rw [dif_neg (by decide), if_neg (by decide), if_neg (by decide), if_neg (by decide),
      if_neg (by decide), if_pos rfl]
    simp only [rpcSubFree_sent]
    rfl

theorem listings_agree_two :
    let subs : Fin rpcSubMax → RpcSubscription :=
      Function.update (Function.update (fun _ => .empty) 1 ⟨true, 7, messagesTopicClock, 0⟩)
        4 ⟨true, 258, messagesTopicMotor, 3⟩
    let h : Session := { Session.fresh with rpc := { Session.fresh.rpc with subs := subs } }
    Answers keepPacket h 9 messagesTopicPubsubSubtopicList
      [⟨messagesTopicPubsubSubtopicList, messagesDataFlagEnd,
        [1, 0, 7, messagesTopicClock, 0, 4, 1, 2, messagesTopicMotor, 3]⟩] := by
  intro subs h
  have hrecords : h.rpc.records.flatten =
      [1, 0, 7, messagesTopicClock, 0, 4, 1, 2, messagesTopicMotor, 3] := by decide +kernel
  exact hrecords ▸ (listings_agree keepPacket h 9).2.1

end Answers

end TurningPoint
