import TurningPoint.Rpc.Cassette

namespace TurningPoint

inductive CassetteCall
  | opens
  | writes (octet : UInt8)
  | full
  | closes
  | saves
  deriving DecidableEq

/-- The checks of `rpcRecvWriteCassette` and `rpcRecvReadCassette`. -/
def cassetteCall {ρ : Type} (message : MessageAny) (h : Host ρ) : Option CassetteCall :=
  match message with
  | .write write =>
    let index := octetAt write.value 0
    let opened := ¬ (h.rpc.cassette = 0xff ∧ h.rpc.fp = .null) ∧ h.rpc.cassette = index
    if write.topic ≠ messagesTopicCassette ∨ index ≥ cassetteMax then none
    else if write.subtopic = messagesTopicCassetteSubtopicOpen then
      if write.len = 1 ∧ h.rpc.cassette = 0xff then some .opens else none
    else if write.subtopic = messagesTopicCassetteSubtopicClose then
      if write.len = 1 ∧ opened then some .closes else none
    else if write.subtopic = messagesTopicCassetteSubtopicWrite then
      if write.len = 1 ∨ write.len > 2 ∨ ¬ opened then none
      else if (loadData h.rpc.fp 0 h).1 ≥ 31 then some .full
      else some (.writes (octetAt write.value 1))
    else none
  | .read read =>
    if read.topic = messagesTopicCassette ∧ read.subtopic < cassetteMax ∧ h.rpc.fp ≠ .null then
      some .saves
    else none
  | _ => none

def Flash.last (flash : Flash) : UserData := (vexFlashUserParamRead flash).2.data

/-- The octets that a READ of the cassette finds in a block. -/
def UserData.recording (block : UserData) : List UInt8 :=
  if 0 < octetAt block.1 0 ∧ octetAt block.1 0 < 32 then
    octetsFrom (block.1.drop 1) (octetAt block.1 0).toNat
  else []

def UserData.count (block : UserData) : Nat :=
  if 0 < octetAt block.1 0 ∧ octetAt block.1 0 < 32 then (octetAt block.1 0).toNat else 0

variable {h : Session} {message : MessageAny}

structure Deck where
  cassette : UInt8
  fp : UserParam
  data : UserData
  last : UserData

def deck (h : Session) : Deck :=
  ⟨h.rpc.cassette, h.rpc.fp, h.board.flash.data, h.board.flash.last⟩

def UserData.record (block : UserData) (octet : UInt8) : UserData :=
  (block.store (octetAt block.1 0).toNat octet).store 0 (octetAt block.1 0 + 1)

/-- What a call leaves, a reload of the block apart. -/
def Deck.call (d : Deck) : CassetteCall → Deck
  | .opens => ⟨0, .params, d.last.store 0 0, d.last⟩
  | .writes octet => { d with data := d.data.record octet, last := d.data.record octet }
  | .full => { d with cassette := 0xff, fp := .null }
  | .closes => { d with cassette := 0xff, fp := .null, last := d.data }
  | .saves => { d with last := d.data }

def Deck.Whole (d : Deck) : Prop :=
  d.cassette = 0xff ∧ d.fp = .null ∨ d.cassette = 0 ∧ d.fp = .params

theorem vexFlashUserParamWrite_last {flash : Flash}
    (hroom : flash.writeCount < userParamMaxWrite) :
    (vexFlashUserParamWrite .params flash).2.last = flash.data := by
  obtain ⟨blocks, hwritten⟩ := vexFlashUserParamWrite_eq hroom
  rw [hwritten]
  change ((blocks ++ [flash.data]).getLast?.getD .erased) = _
  rw [List.getLast?_concat, Option.getD_some]

theorem deck_writeFlash (hroom : h.board.flash.writeCount < userParamMaxWrite) :
    deck (writeFlash .params h) = { deck h with last := (deck h).data } := by
  have hlast := vexFlashUserParamWrite_last hroom
  obtain ⟨blocks, hwritten⟩ := vexFlashUserParamWrite_eq hroom
  rw [hwritten] at hlast
  rw [deck, writeFlash, hwritten]
  simp only [hlast]
  rfl

theorem cassetteIndex_eq {index : UInt8} (hindex : ¬ index ≥ cassetteMax) : index = 0 := by
  rw [ge_iff_le, UInt8.not_le, UInt8.lt_iff_toNat_lt] at hindex
  exact UInt8.toNat_inj.mp (Nat.lt_one_iff.mp hindex)

theorem storeData_fp (fp : UserParam) (i : Nat) (octet : UInt8) :
    (storeData fp i octet h).rpc.fp = h.rpc.fp := by
  cases fp <;> rfl

theorem deck_rpcRecvWriteCassette {write : MessageWrite}
    (htopic : write.topic = messagesTopicCassette) (hwhole : (deck h).Whole)
    (hroom : h.board.flash.writeCount < userParamMaxWrite) :
    deck (rpcRecvWriteCassette write h) =
      ((cassetteCall (.write write) h).map (deck h).call).getD (deck h) := by
  have hsave (h' : Session) (hflash : h'.board.flash.writeCount = h.board.flash.writeCount) :
      deck (writeFlash .params h') = { deck h' with last := (deck h').data } :=
    deck_writeFlash (hflash.trans_lt hroom)
  unfold rpcRecvWriteCassette cassetteCall
  dsimp only
  by_cases hindex : octetAt write.value 0 ≥ cassetteMax
  · simp [hindex]
  rw [if_neg (not_or.mpr ⟨not_not.mpr htopic, hindex⟩), cassetteIndex_eq hindex]
  by_cases hopen : write.subtopic = messagesTopicCassetteSubtopicOpen
  · rw [if_pos hopen, if_pos hopen]
    by_cases hlen : write.len = 1
    · by_cases hcassette : h.rpc.cassette = 0xff
      · simp [hlen, hcassette]
        rfl
      · simp [hlen, hcassette]
    · simp [hlen]
  rw [if_neg hopen, if_neg hopen]
  rcases hwhole with ⟨hcassette, hfp⟩ | ⟨hcassette, hfp⟩
  · change h.rpc.cassette = 0xff at hcassette
    change h.rpc.fp = .null at hfp
    by_cases hclose : write.subtopic = messagesTopicCassetteSubtopicClose
    · simp [hclose, hcassette, hfp]
    · simp [hclose, hcassette, hfp]
  change h.rpc.cassette = 0 at hcassette
  change h.rpc.fp = .params at hfp
  have hopened : ¬ (h.rpc.cassette = 0xff ∧ h.rpc.fp = .null) ∧ h.rpc.cassette = 0 := by
    rw [hcassette, hfp]
    decide
  by_cases hclose : write.subtopic = messagesTopicCassetteSubtopicClose
  · rw [if_pos hclose, if_pos hclose]
    by_cases hlen : write.len = 1
    · rw [if_neg (not_not.mpr hlen), if_neg (by decide), if_neg hopened.1,
        if_neg (not_not.mpr hopened.2), if_pos ⟨hlen, hopened⟩, hfp]
      change { deck (writeFlash .params { h with rpc.cassette := 0xff }) with fp := .null } = _
      rw [hsave { h with rpc.cassette := 0xff } rfl]
      rfl
    · simp [hlen]
  rw [if_neg hclose, if_neg hclose]
  by_cases hwrite : write.subtopic = messagesTopicCassetteSubtopicWrite
  · rw [if_pos hwrite, if_pos hwrite]
    by_cases hlen : write.len = 1 ∨ write.len > 2
    · rw [if_pos hlen, if_pos (or_assoc.mp (.inl hlen))]
      rfl
    rw [if_neg hlen, if_neg (by decide), if_neg hopened.1, if_neg (not_not.mpr hopened.2),
      if_neg (fun hbad => (or_assoc.mpr hbad).elim hlen (absurd hopened)), hfp]
    by_cases hfull : (loadData .params 0 h).1 ≥ 31
    · rw [if_pos hfull, if_pos hfull]
      rfl
    · rw [if_neg hfull, if_neg hfull]
      simp only [loadData, storeData_fp, hfp]
      exact hsave (storeData .params 0 _ (storeData .params _ _ h)) rfl
  · rw [if_neg hwrite, if_neg hwrite]
    rfl

def Deck.Reloads (d : Deck) (h : Session) : Prop :=
  deck h = d ∨ deck h = { d with data := d.last }

theorem Deck.sends_reloads (d : Deck) : Sends keepPacket d.Reloads :=
  Aloof.sends fun _ _ _ _ _ _ hh => hh

theorem cassetteOpenRead_deck (index : UInt8) (h : Session) :
    (deck h).Reloads (cassetteOpenRead index h).2 := by
  unfold cassetteOpenRead
  split
  · exact .inl rfl
  · dsimp only
    split
    · exact .inr rfl
    · exact .inr rfl

theorem loadData_deck (fp : UserParam) (i : Nat) (h : Session) :
    deck (loadData fp i h).2 = deck h := by
  cases fp <;> rfl

theorem rpcRecvReadCassette_reloads {read : MessageRead}
    (hread : ¬ (read.subtopic < cassetteMax ∧ h.rpc.fp ≠ .null)) :
    (deck h).Reloads (rpcRecvReadCassette keepPacket read h) := by
  have hsends := (deck h).sends_reloads
  have hopen := cassetteOpenRead_deck read.subtopic h
  have hcount := cassetteOpenRead_deck 0 h
  have hload (fp : UserParam) (i : Nat) {h' : Session} (hh : (deck h).Reloads h') :
      (deck h).Reloads (loadData fp i h').2 := by
    rwa [Deck.Reloads, loadData_deck]
  have hpeek : (deck h).Reloads (if h.rpc.fp ≠ .null then loadData .null 0 h else (0, h)).2 := by
    split
    · exact hload .null 0 (.inl rfl)
    · exact .inl rfl
  unfold rpcRecvReadCassette
  dsimp only
  split
  case isTrue hindex =>
    rw [if_neg fun hfp => hread ⟨hindex, hfp⟩]
    split
    · exact hsends.rpcSendRep_keeps _ _ hopen
    · split
      · exact hsends.rpcSendRep_keeps _ _
          (hsends.rpcSendData_keeps _ _ _ _ _ (hload _ 0 hopen))
      · exact hsends.rpcSendRep_keeps _ _ (hload _ 0 hopen)
  split
  · exact hsends.rpcSendRep_keeps _ _ hpeek
  split
  · exact hsends.rpcSendRep_keeps _ _ hcount
  split
  · exact hsends.rpcSendRep_keeps _ _ hcount
  split
  · exact hsends.rpcSendRep_keeps _ _ (.inl rfl)
  · exact hsends.rpcSendRepError_keeps _ _ _ _ (.inl rfl)

theorem rpcRecv_reloads (hwhole : (deck h).Whole)
    (hroom : h.board.flash.writeCount < userParamMaxWrite)
    (hcall : cassetteCall message h = none) :
    (deck h).Reloads (rpcRecv keepPacket message h) := by
  have hreplies : Replies keepPacket (deck h).Reloads :=
    ⟨(deck h).sends_reloads, fun _ _ hh => hh, fun _ _ hh => hh, fun _ _ hh => hh, fun _ hh => hh⟩
  refine hreplies.rpcRecv_keeps (.inl rfl) ?_ ?_ ?_ ?_ ?_
  · exact fun read _ _ => hreplies.rpcRecvReadMotor_keeps (fun _ _ hh => hh) read (.inl rfl)
  · rintro read rfl htopic
    refine rpcRecvReadCassette_reloads fun hread => ?_
    rw [cassetteCall, if_pos ⟨htopic, hread⟩] at hcall
    cases hcall
  · rintro write rfl htopic
    rw [Deck.Reloads, deck_rpcRecvWriteCassette htopic hwhole hroom, hcall]
    exact .inl rfl
  · exact fun m _ => hreplies.rpcRecvSubscribe_keeps (fun _ _ _ hh => hh) m (.inl rfl)
  · exact fun m _ => hreplies.rpcRecvUnsubscribe_keeps (fun _ _ hh => hh) m (.inl rfl)

theorem deck_readSaves {read : MessageRead} (htopic : read.topic = messagesTopicCassette)
    (hindex : read.subtopic < cassetteMax) (hfp : h.rpc.fp ≠ .null) (hwhole : (deck h).Whole)
    (hroom : h.board.flash.writeCount < userParamMaxWrite) :
    deck (rpcRecv keepPacket (.read read) h) = (deck h).call .saves := by
  have hparams : h.rpc.fp = .params := hwhole.elim (fun hclosed => absurd hclosed.2 hfp) And.right
  have hread : rpcRecvRead keepPacket read h =
      rpcSendRep keepPacket read [] (writeFlash .params h) := by
    rw [rpcRecvRead, htopic, if_neg (by decide), if_neg (by decide), if_neg (by decide),
      if_pos rfl, rpcRecvReadCassette, if_pos hindex, if_pos hfp, hparams]
  have hsends : Sends keepPacket fun h' => deck h' = (deck h).call .saves :=
    Aloof.sends fun _ _ _ _ _ _ hh => hh
  change deck (rpcRecvRead keepPacket read h) = _
  rw [hread]
  exact hsends.rpcSendRep_keeps _ _ (deck_writeFlash hroom)

theorem deck_rpcRecv {call : CassetteCall} (hwhole : (deck h).Whole)
    (hroom : h.board.flash.writeCount < userParamMaxWrite)
    (hcall : cassetteCall message h = some call) :
    deck (rpcRecv keepPacket message h) = (deck h).call call := by
  cases message with
  | write write =>
    have htopic : write.topic = messagesTopicCassette := by
      by_contra htopic
      rw [cassetteCall, if_pos (.inl htopic)] at hcall
      cases hcall
    rw [rpcRecv_cassetteWrite htopic]
    change deck (rpcRecvWriteCassette write h) = _
    rw [deck_rpcRecvWriteCassette htopic hwhole hroom, hcall]
    rfl
  | read read =>
    by_cases hread : read.topic = messagesTopicCassette ∧ read.subtopic < cassetteMax ∧
        h.rpc.fp ≠ .null
    · rw [cassetteCall, if_pos hread] at hcall
      obtain rfl := Option.some.inj hcall
      exact deck_readSaves hread.1 hread.2.1 hread.2.2 hwhole hroom
    · rw [cassetteCall, if_neg hread] at hcall
      cases hcall
  | message | ping | pong | info | data | subscribe | unsubscribe => cases hcall

theorem cassetteCall_open {call : CassetteCall} (hwhole : (deck h).Whole)
    (hcall : cassetteCall message h = some call) :
    call = .opens ∨ h.rpc.fp = .params ∧ ∀ octet, call = .writes octet →
      octetAt h.board.flash.data.1 0 < 31 := by
  cases message with
  | write write =>
    have hopen (hopened : ¬ (h.rpc.cassette = 0xff ∧ h.rpc.fp = .null)) : h.rpc.fp = .params :=
      hwhole.elim (absurd · hopened) And.right
    unfold cassetteCall at hcall
    dsimp only at hcall
    split_ifs at hcall with _ _ _ _ hclosed _ hwrite hfull
    · exact .inl (Option.some.inj hcall).symm
    · obtain rfl := Option.some.inj hcall
      exact .inr ⟨hopen hclosed.2.1, fun _ h => by cases h⟩
    · obtain rfl := Option.some.inj hcall
      exact .inr ⟨hopen (not_not.mp (not_or.mp (not_or.mp hwrite).2).2).1, fun _ h => by cases h⟩
    · have hfp := hopen (not_not.mp (not_or.mp (not_or.mp hwrite).2).2).1
      refine .inr ⟨hfp, fun _ _ => ?_⟩
      rw [hfp] at hfull
      exact UInt8.not_le.mp hfull
  | read read =>
    unfold cassetteCall at hcall
    dsimp only at hcall
    split_ifs at hcall with hread
    obtain rfl := Option.some.inj hcall
    exact .inr ⟨hwhole.elim (fun hclosed => absurd hclosed.2 hread.2.2) And.right,
      fun _ h => by cases h⟩
  | message | ping | pong | info | data | subscribe | unsubscribe => cases hcall

namespace UserData

variable {block base : UserData} {octets : List UInt8} {octet : UInt8}

theorem recording_length (block : UserData) : block.recording.length = block.count := by
  unfold recording count
  split
  · exact octetsFrom_length _ _
  · rfl

theorem count_eq (hlt : octetAt block.1 0 < 32) : block.count = (octetAt block.1 0).toNat := by
  unfold count
  split
  case isTrue => rfl
  case isFalse hcount =>
    have hzero : ¬ 0 < (octetAt block.1 0).toNat := fun hpos =>
      hcount ⟨UInt8.lt_iff_toNat_lt.mpr hpos, hlt⟩
    exact (Nat.eq_zero_of_not_pos hzero).symm

theorem count_eq_of_room (hroom : octetAt block.1 0 < 31) :
    block.count = (octetAt block.1 0).toNat ∧ block.count < 31 := by
  have hcount := count_eq (UInt8.lt_trans hroom (show (31 : UInt8) < 32 by decide))
  exact ⟨hcount, hcount.trans_lt (UInt8.lt_iff_toNat_lt.mp hroom)⟩

theorem octetAt_tape_count (htape : block.1 = tape base octets) (hlen : octets.length ≤ 31) :
    (octetAt block.1 0).toNat = octets.length := by
  rw [htape]
  exact UInt8.toNat_ofNat_of_lt' (Nat.lt_of_le_of_lt hlen (by decide))

theorem recording_tape (htape : block.1 = tape base octets) (hne : octets ≠ [])
    (hlen : octets.length ≤ 31) : block.recording = played base octets := by
  have hcount := octetAt_tape_count htape hlen
  have hrange : 0 < octetAt block.1 0 ∧ octetAt block.1 0 < 32 := by
    rw [UInt8.lt_iff_toNat_lt, UInt8.lt_iff_toNat_lt, hcount]
    exact ⟨List.length_pos_iff.mpr hne, Nat.lt_succ_of_le hlen⟩
  rw [recording, if_pos hrange, hcount, htape, tape_played base hne hlen]

theorem eq_tape_nil (hzero : octetAt block.1 0 = 0) : block.1 = tape block [] := by
  obtain ⟨octets, hlen⟩ := block
  cases octets with
  | nil => cases hlen
  | cons count octets =>
    change count = 0 at hzero
    rw [hzero]
    rfl

theorem record_tape (htape : block.1 = tape base octets) (hlen : octets.length < 31) :
    (block.record octet).1 = tape base (octets ++ [octet]) := by
  have hcount : octetAt block.1 0 = UInt8.ofNat octets.length := by
    rw [htape]
    rfl
  rw [record, octetAt_tape_count htape hlen.le, hcount, tape_append htape hlen]

theorem octetAt_tape_beyond (htape : block.1 = tape base octets) :
    octetAt block.1 (octets.length + 1) = octetAt base.1 (octets.length + 1) := by
  rw [htape]
  change (octets.tail ++ base.1.drop (max 1 octets.length)).getD octets.length 0 = _
  cases octets with
  | nil => simp [octetAt, List.getD_eq_getElem?_getD]
  | cons first rest =>
    rw [List.tail_cons, List.length_cons, Nat.max_eq_right (Nat.le_add_left 1 _),
      List.getD_append_right _ _ _ _ (Nat.le_add_right rest.length 1)]
    simp [octetAt, List.getD_eq_getElem?_getD]

theorem octetAt_recording (hrecording : block.recording = octet :: octets) :
    octetAt block.1 1 = octet := by
  unfold recording at hrecording
  split at hrecording
  case isTrue hcount =>
    obtain ⟨n, hn⟩ := Nat.exists_eq_succ_of_ne_zero
      (Nat.pos_iff_ne_zero.mp (UInt8.lt_iff_toNat_lt.mp hcount.1))
    rw [hn, octetsFrom, List.range_succ_eq_map, List.map_cons, List.cons.injEq] at hrecording
    rw [← hrecording.1]
    simp [octetAt, List.getD_eq_getElem?_getD]
  case isFalse => cases hrecording

end UserData

variable {d : Deck} {taken recorded : List UInt8}

/-- What an open cassette has taken is in the block and in flash.  Before the first octet the block
has only its count taken away, until a reload brings that back. -/
structure Deck.Taken (d : Deck) (taken recorded : List UInt8) : Prop where
  fresh : taken = [] → d.data = d.last.store 0 0 ∨ d.data = d.last
  taped : taken ≠ [] → d.data = d.last ∧ recorded = taken ∧ ∃ base, d.data.1 = tape base taken

structure Deck.Kept (d : Deck) (taken recorded : List UInt8) : Prop where
  whole : d.Whole
  taken : d.fp = .params → d.Taken taken recorded

theorem Deck.Kept.of_closed (hfp : d.fp = .null) (hcassette : d.cassette = 0xff) :
    d.Kept taken recorded :=
  ⟨.inl ⟨hcassette, hfp⟩, fun hparams => by rw [hfp] at hparams; cases hparams⟩

theorem Deck.Taken.reload (htaken : d.Taken taken recorded) :
    Deck.Taken { d with data := d.last } taken recorded := by
  refine ⟨fun _ => .inr rfl, fun hne => ?_⟩
  obtain ⟨hdata, hrecorded, hbase⟩ := htaken.taped hne
  exact ⟨rfl, hrecorded, hdata ▸ hbase⟩

theorem Deck.Taken.save (htaken : d.Taken taken recorded) :
    Deck.Taken { d with last := d.data } taken recorded :=
  ⟨fun _ => .inr rfl, fun hne => ⟨rfl, (htaken.taped hne).2⟩⟩

theorem Deck.Taken.tape_eq (htaken : d.Taken taken recorded) (hroom : octetAt d.data.1 0 < 31)
    (hcount : d.data.count = taken.length) : ∃ base, d.data.1 = tape base taken := by
  cases taken with
  | nil =>
    rcases htaken.fresh rfl with hdata | hdata
    · exact ⟨d.last, hdata ▸ tape_nil d.last⟩
    · rw [(UserData.count_eq_of_room hroom).1] at hcount
      exact ⟨d.data, UserData.eq_tape_nil (UInt8.toNat_inj.mp hcount)⟩
  | cons octet octets => exact (htaken.taped (List.cons_ne_nil _ _)).2.2

theorem UserData.count_record (block : UserData) (octet : UInt8) (hlt : octetAt block.1 0 < 31) :
    (block.record octet).count = block.count + 1 := by
  have hlt' := UInt8.lt_iff_toNat_lt.mp hlt
  change (octetAt block.1 0).toNat < 31 at hlt'
  have hcount : (octetAt (block.record octet).1 0).toNat = (octetAt block.1 0).toNat + 1 := by
    have hzero : octetAt (block.record octet).1 0 = octetAt block.1 0 + 1 := by
      have hpos : 0 < block.1.length := block.2.symm ▸ Nat.succ_pos 31
      simp [record, store, octetAt, List.getD_eq_getElem?_getD, hpos]
    rw [hzero, UInt8.toNat_add]
    exact Nat.mod_eq_of_lt (by change (octetAt block.1 0).toNat + 1 < 256; omega)
  rw [count_eq (UInt8.lt_iff_toNat_lt.mpr ?_), hcount, count_eq (UInt8.lt_iff_toNat_lt.mpr ?_)]
  · exact Nat.lt_succ_of_lt hlt'
  · rw [hcount]
    exact Nat.succ_lt_succ hlt'

theorem Deck.Taken.write {octet : UInt8} (htaken : d.Taken taken recorded)
    (hroom : octetAt d.data.1 0 < 31) (hcount : d.data.count = taken.length) :
    (d.call (.writes octet)).Taken (taken ++ [octet]) (taken ++ [octet]) := by
  refine ⟨fun hnil => ?_, fun _ => ⟨rfl, rfl, ?_⟩⟩
  · exact absurd hnil (List.append_ne_nil_of_right_ne_nil _ (List.cons_ne_nil _ _))
  · obtain ⟨base, htape⟩ := htaken.tape_eq hroom hcount
    refine ⟨base, UserData.record_tape htape ?_⟩
    exact hcount ▸ (UserData.count_eq_of_room hroom).2

end TurningPoint
