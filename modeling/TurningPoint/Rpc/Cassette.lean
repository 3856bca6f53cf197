import TurningPoint.Rpc.Session

namespace TurningPoint

structure CassetteWrite (subtopic : UInt8) (octets : List UInt8) (m : MessageWrite) : Prop where
  topic_eq : m.topic = messagesTopicCassette
  subtopic_eq : m.subtopic = subtopic
  len_eq : m.len.toNat = octets.length
  value_eq : octetsFrom m.value octets.length = octets

def recvWrites (writes : List MessageWrite) (h : Session) : Session :=
  writes.foldl (fun h m => rpcRecv keepPacket (.write m) h) h

/-- The READ is answered with the octets and then with their number, most significant octet first. -/
def Plays (read : MessageRead) (octets : List UInt8) (h : Session) : Prop :=
  ∃ packet packet', (rpcRecv keepPacket (.read read) h).outer = h.outer ++ [packet, packet'] ∧
    IsData packet read.reqId read.topic read.subtopic 0 octets ∧
    IsData packet' read.reqId read.topic read.subtopic messagesDataFlagEnd
      [0, 0, 0, UInt8.ofNat octets.length]

/-- The block while octets are recorded over `data`: the first of them ends up under the count. -/
def tape (data : UserData) (octets : List UInt8) : List UInt8 :=
  UInt8.ofNat octets.length :: (octets.tail ++ data.1.drop (max 1 octets.length))

/-- A cassette is open, `octets` are recorded, and `room` more blocks can be written. -/
structure Recording (data : UserData) (octets : List UInt8) (room : Nat) (h : Session) : Prop where
  cassette_eq : h.rpc.cassette = 0
  fp_eq : h.rpc.fp = .params
  data_eq : h.board.flash.data.1 = tape data octets
  room_le : h.board.flash.writeCount + room ≤ userParamMaxWrite

theorem CassetteWrite.octet_eq {subtopic octet : UInt8} {octets : List UInt8} {m : MessageWrite}
    {i : Nat} (hm : CassetteWrite subtopic octets m) (hi : octets[i]? = some octet) :
    octetAt m.value i = octet := by
  have hlt : i < octets.length := (List.getElem?_eq_some_iff.mp hi).1
  rw [← hm.value_eq, octetsFrom] at hi
  simpa [hlt] using hi

theorem rpcRecv_cassetteWrite {m : MessageWrite} (htopic : m.topic = messagesTopicCassette)
    (h : Session) :
    rpcRecv keepPacket (.write m) h =
      { (chTimeNow (rpcRecvWriteCassette m h)).2 with
        rpc.heartbeat := (chTimeNow (rpcRecvWriteCassette m h)).1 } := by
  have hwrite : rpcRecvWrite keepPacket m h = rpcRecvWriteCassette m h := by
    rw [rpcRecvWrite, htopic, if_neg (by decide), if_pos rfl]
  rw [← hwrite]
  rfl

theorem tape_nil (data : UserData) : (data.store 0 0).1 = tape data [] := by
  obtain ⟨octets, hlen⟩ := data
  cases octets with
  | nil => cases hlen
  | cons octet octets => rfl

theorem tape_append {data block : UserData} {octets : List UInt8} {octet : UInt8}
    (hblock : block.1 = tape data octets) (hroom : octets.length < 31) :
    ((block.store octets.length octet).store 0 (UInt8.ofNat octets.length + 1)).1 =
      tape data (octets ++ [octet]) := by
  have hdata := data.2
  have hcount : UInt8.ofNat octets.length + 1 = UInt8.ofNat (octets ++ [octet]).length := by simp
  change (block.1.set octets.length octet).set 0 _ = _
  rw [hblock, hcount]
  cases octets with
  | nil => simp [tape]
  | cons first rest =>
    have hlt : rest.length + 1 < data.1.length := by
      rw [hdata]
      exact Nat.lt_succ_of_lt hroom
    have htape : tape data (first :: rest) = UInt8.ofNat (rest.length + 1) ::
        (rest ++ data.1[rest.length + 1] :: data.1.drop (rest.length + 2)) := by
      rw [← List.drop_eq_getElem_cons hlt, tape, List.tail_cons, List.length_cons,
        Nat.max_eq_right (Nat.le_add_left 1 _)]
    rw [htape, List.length_cons, List.set_cons_succ, List.set_append_right _ _ le_rfl, Nat.sub_self,
      List.set_cons_zero, List.set_cons_zero]
    simp [tape]

theorem vexFlashUserParamWrite_eq {flash : Flash} (hroom : flash.writeCount < userParamMaxWrite) :
    ∃ blocks, vexFlashUserParamWrite .params flash =
      (flashSuccess, ⟨flash.data, blocks ++ [flash.data], flash.writeCount + 1⟩) := by
  rw [vexFlashUserParamWrite, if_neg (Nat.not_le.mpr hroom)]
  exact ⟨_, rfl⟩

variable {h : Session} {data : UserData} {octets : List UInt8} {room : Nat} {m : MessageWrite}

theorem recording_open (hm : CassetteWrite messagesTopicCassetteSubtopicOpen [0] m)
    (hcassette : h.rpc.cassette = 0xff)
    (hroom : h.board.flash.writeCount + room ≤ userParamMaxWrite) :
    Recording (vexFlashUserParamRead h.board.flash).2.data [] room
      (rpcRecv keepPacket (.write m) h) := by
  have hindex : octetAt m.value 0 = 0 := hm.octet_eq rfl
  have hlen : m.len = 1 := UInt8.toNat_inj.mp hm.len_eq
  have hopen : rpcRecvWriteCassette m h =
      { h with
        rpc.cassette := 0
        rpc.fp := .params
        board.flash := { (vexFlashUserParamRead h.board.flash).2 with
          data := (vexFlashUserParamRead h.board.flash).2.data.store 0 0 } } := by
    simp [rpcRecvWriteCassette, hm.subtopic_eq, hindex, hlen, hcassette, cassetteOpenWrite]
    rfl
  rw [rpcRecv_cassetteWrite hm.topic_eq, hopen]
  exact ⟨rfl, rfl, tape_nil _, hroom⟩

theorem Recording.count_eq (hr : Recording data octets room h) :
    octetAt h.board.flash.data.1 0 = UInt8.ofNat octets.length := by
  rw [hr.data_eq]
  rfl

theorem recording_write {octet : UInt8}
    (hm : CassetteWrite messagesTopicCassetteSubtopicWrite [0, octet] m)
    (hr : Recording data octets (room + 1) h) (hlen : octets.length < 31) :
    Recording data (octets ++ [octet]) room (rpcRecv keepPacket (.write m) h) := by
  have hindex : octetAt m.value 0 = 0 := hm.octet_eq rfl
  have hoctet : octetAt m.value 1 = octet := hm.octet_eq rfl
  have hmlen : m.len = 2 := UInt8.toNat_inj.mp hm.len_eq
  have hcount : (UInt8.ofNat octets.length).toNat = octets.length :=
    UInt8.toNat_ofNat_of_lt' (by change _ < 256; omega)
  have hnotfull : ¬ UInt8.ofNat octets.length ≥ 31 := by
    rw [ge_iff_le, UInt8.le_iff_toNat_le, hcount]
    exact Nat.not_le.mpr hlen
  have hwrite : rpcRecvWriteCassette m h = writeFlash .params (storeData .params 0
      (UInt8.ofNat octets.length + 1) (storeData .params octets.length octet h)) := by
    simp only [rpcRecvWriteCassette, hm.subtopic_eq, hindex, hmlen, hr.cassette_eq, hr.fp_eq,
      loadData, storeData, hr.count_eq, hnotfull, hcount, hoctet]
    rfl
  have hroom := hr.room_le
  obtain ⟨blocks, hflash⟩ := vexFlashUserParamWrite_eq (show
    (storeData .params 0 (UInt8.ofNat octets.length + 1)
      (storeData .params octets.length octet h)).board.flash.writeCount < userParamMaxWrite by
    change h.board.flash.writeCount < _; omega)
  rw [rpcRecv_cassetteWrite hm.topic_eq, hwrite, writeFlash, hflash]
  refine ⟨hr.cassette_eq, hr.fp_eq, tape_append hr.data_eq hlen, ?_⟩
  change h.board.flash.writeCount + 1 + room ≤ _
  omega

theorem recording_writes {writes : List MessageWrite} {octets' : List UInt8}
    (hm : List.Forall₂
      (fun octet => CassetteWrite messagesTopicCassetteSubtopicWrite [0, octet]) octets' writes)
    (hr : Recording data octets (octets'.length + room) h)
    (hlen : octets.length + octets'.length ≤ 31) :
    Recording data (octets ++ octets') room (recvWrites writes h) := by
  induction hm generalizing octets h with
  | nil =>
    rw [List.append_nil]
    rwa [List.length_nil, Nat.zero_add] at hr
  | @cons octet m octets' writes hhead _ ih =>
    rw [List.length_cons] at hlen hr
    have hr : Recording data octets (octets'.length + room + 1) h := by
      rwa [Nat.add_right_comm] at hr
    have htail := ih (recording_write hhead hr (by omega)) (by
      rw [List.length_append, List.length_singleton]
      omega)
    rwa [List.append_assoc] at htail

structure Recorded (data : UserData) (octets : List UInt8) (h : Session) : Prop where
  fp_eq : h.rpc.fp = .null
  read_eq : (vexFlashUserParamRead h.board.flash).2.data.1 = tape data octets

theorem recorded_close (hm : CassetteWrite messagesTopicCassetteSubtopicClose [0] m)
    (hr : Recording data octets (room + 1) h) :
    Recorded data octets (rpcRecv keepPacket (.write m) h) := by
  have hindex : octetAt m.value 0 = 0 := hm.octet_eq rfl
  have hlen : m.len = 1 := UInt8.toNat_inj.mp hm.len_eq
  have hclose : rpcRecvWriteCassette m h =
      { h with
        rpc.cassette := 0xff
        rpc.fp := .null
        board.flash := (vexFlashUserParamWrite .params h.board.flash).2 } := by
    simp only [rpcRecvWriteCassette, hm.subtopic_eq, hindex, hlen, hr.cassette_eq, hr.fp_eq,
      writeFlash]
    rfl
  have hroom := hr.room_le
  obtain ⟨blocks, hflash⟩ := vexFlashUserParamWrite_eq
    (show h.board.flash.writeCount < userParamMaxWrite by omega)
  rw [rpcRecv_cassetteWrite hm.topic_eq, hclose, hflash]
  refine ⟨rfl, ?_⟩
  change ((blocks ++ [h.board.flash.data]).getLast?.getD .erased).1 = _
  rw [List.getLast?_concat, Option.getD_some, hr.data_eq]

/-- What is played: the first octet is missing, and one that was in the block before closes the
rest. -/
def played (data : UserData) (octets : List UInt8) : List UInt8 :=
  octets.tail ++ [octetAt data.1 octets.length]

theorem played_length {octets : List UInt8} (hne : octets ≠ []) :
    (played data octets).length = octets.length := by
  rw [played, List.length_append, List.length_tail]
  exact Nat.sub_add_cancel (List.length_pos_iff.mpr hne)

theorem tape_played (data : UserData) {octets : List UInt8} (hne : octets ≠ [])
    (hlen : octets.length ≤ 31) :
    octetsFrom ((tape data octets).drop 1) octets.length = played data octets := by
  have hlt : octets.length < data.1.length := by
    rw [data.2]
    exact Nat.lt_succ_of_le hlen
  have hpos : 1 ≤ octets.length := List.length_pos_iff.mpr hne
  have hget : octetAt data.1 octets.length = data.1[octets.length] := by
    simp [octetAt, List.getD_eq_getElem?_getD, List.getElem?_eq_getElem hlt]
  have hdrop : (tape data octets).drop 1 =
      played data octets ++ data.1.drop (octets.length + 1) := by
    rw [tape, Nat.max_eq_right hpos, List.drop_eq_getElem_cons hlt, played, hget,
      List.append_assoc]
    rfl
  rw [octetsFrom_eq_take, hdrop, List.take_left' (played_length hne)]
  rw [hdrop, List.length_append, played_length hne]
  exact Nat.le_add_right _ _

theorem Recorded.count_eq (hr : Recorded data octets h) :
    octetAt (readFlash h).2.board.flash.data.1 0 = UInt8.ofNat octets.length := by
  change octetAt (vexFlashUserParamRead h.board.flash).2.data.1 0 = _
  rw [hr.read_eq]
  rfl

theorem rpcRecvReadCassette_recorded {read : MessageRead} (hsubtopic : read.subtopic = 0)
    (hne : octets ≠ []) (hlen : octets.length ≤ 31) (hr : Recorded data octets h) :
    rpcRecvReadCassette keepPacket read h =
      rpcSendRep keepPacket read (memory32 (htonl (UInt8.ofNat octets.length).toUInt32))
        (rpcSendData keepPacket read.reqId read.topic read.subtopic 0 (played data octets)
          (readFlash h).2) := by
  have hcount : (UInt8.ofNat octets.length).toNat = octets.length :=
    UInt8.toNat_ofNat_of_lt' (by change _ < 256; omega)
  have hpos := List.length_pos_iff.mpr hne
  have hsmall : ¬ (UInt8.ofNat octets.length = 0 ∨ UInt8.ofNat octets.length > 31) := by
    rw [← UInt8.toNat_inj, gt_iff_lt, UInt8.lt_iff_toNat_lt, hcount]
    change ¬ (octets.length = 0 ∨ 31 < octets.length)
    omega
  have hrange : 0 < UInt8.ofNat octets.length ∧ UInt8.ofNat octets.length < 32 := by
    rw [UInt8.lt_iff_toNat_lt, UInt8.lt_iff_toNat_lt, hcount]
    exact ⟨hpos, Nat.lt_succ_of_le hlen⟩
  have hopen : cassetteOpenRead 0 h = (.params, (readFlash h).2) := by
    rw [cassetteOpenRead, if_neg (by decide)]
    change (if octetAt (readFlash h).2.board.flash.data.1 0 = 0 ∨
      octetAt (readFlash h).2.board.flash.data.1 0 > 31 then _ else _) = _
    rw [hr.count_eq, if_neg hsmall]
    rfl
  have hvalue : octetsFrom ((readFlash h).2.board.flash.data.1.drop 1)
      (UInt8.ofNat octets.length).toNat = played data octets := by
    change octetsFrom ((vexFlashUserParamRead h.board.flash).2.data.1.drop 1) _ = _
    rw [hr.read_eq, hcount, tape_played data hne hlen]
  rw [rpcRecvReadCassette, hsubtopic, if_pos (by decide), if_neg (not_not.mpr hr.fp_eq), hopen]
  simp only [loadData, hr.count_eq, hvalue]
  rw [if_neg (by decide), if_pos hrange]

theorem rpcRecv_readCassette {read : MessageRead} (htopic : read.topic = messagesTopicCassette)
    (hsubtopic : read.subtopic = 0) (hne : octets ≠ []) (hlen : octets.length ≤ 31)
    (hr : Recorded data octets h) :
    ∃ packet packet', (rpcRecv keepPacket (.read read) h).outer = h.outer ++ [packet, packet'] ∧
    IsData packet read.reqId read.topic read.subtopic 0 (played data octets) ∧
    IsData packet' read.reqId read.topic read.subtopic messagesDataFlagEnd
      [0, 0, 0, UInt8.ofNat octets.length] := by
  have hcount : memory32 (htonl (UInt8.ofNat octets.length).toUInt32) =
      [0, 0, 0, UInt8.ofNat octets.length] := by
    have hall : ∀ n : Fin 32,
        memory32 (htonl (UInt8.ofNat n).toUInt32) = [0, 0, 0, UInt8.ofNat n] := by decide
    exact hall ⟨octets.length, Nat.lt_succ_of_le hlen⟩
  have hrecv : (rpcRecv keepPacket (.read read) h).outer =
      (rpcRecvReadCassette keepPacket read h).outer := by
    have hread : rpcRecvRead keepPacket read h = rpcRecvReadCassette keepPacket read h := by
      rw [rpcRecvRead, htopic, if_neg (by decide), if_neg (by decide), if_neg (by decide),
        if_pos rfl]
    rw [← hread]
    rfl
  obtain ⟨packet, hdata, hposted⟩ := rpcSendData_posted keepPacket read.reqId read.topic
    read.subtopic 0 (show (played data octets).length ≤ 245 by rw [played_length hne]; omega)
    (readFlash h).2
  obtain ⟨packet', hdata', hposted'⟩ := rpcSendData_posted keepPacket read.reqId read.topic
    read.subtopic messagesDataFlagEnd
    (show [0, 0, 0, UInt8.ofNat octets.length].length ≤ 245 from Nat.le_of_ble_eq_true rfl)
    (rpcSendData keepPacket read.reqId read.topic read.subtopic 0 (played data octets)
      (readFlash h).2)
  refine ⟨packet, packet', ?_, hdata, hdata'⟩
  rw [hrecv, rpcRecvReadCassette_recorded hsubtopic hne hlen hr, rpcSendRep, hcount]
  exact (hposted.trans hposted').sent_eq

theorem played_eq_iff {data : UserData} {octets : List UInt8} (hne : octets ≠ []) :
    played data octets = octets ↔ ∀ octet ∈ octets, octet = octetAt data.1 octets.length := by
  have hrotate (last : UInt8) (rest : List UInt8) (first : UInt8) :
      rest ++ [last] = first :: rest ↔ ∀ octet ∈ first :: rest, octet = last := by
    induction rest generalizing first with
    | nil => simp [eq_comm]
    | cons second rest ih =>
      rw [List.cons_append, List.cons.injEq, ih second]
      constructor
      · rintro ⟨rfl, hall⟩ octet hoctet
        exact hall octet (by simpa using hoctet)
      · intro hall
        have hfirst := hall first List.mem_cons_self
        have hsecond := hall second (List.mem_cons_of_mem _ List.mem_cons_self)
        exact ⟨hsecond.trans hfirst.symm, fun octet hoctet =>
          hall octet (List.mem_cons_of_mem _ hoctet)⟩
  cases octets with
  | nil => exact absurd rfl hne
  | cons first rest => exact hrotate _ rest first

theorem Recorded.plays_iff {read : MessageRead} (htopic : read.topic = messagesTopicCassette)
    (hsubtopic : read.subtopic = 0) (hne : octets ≠ []) (hlen : octets.length ≤ 31)
    (hr : Recorded data octets h) : Plays read octets h ↔ played data octets = octets := by
  obtain ⟨packet, packet', houter, hdata, hend⟩ :=
    rpcRecv_readCassette htopic hsubtopic hne hlen hr
  constructor
  · rintro ⟨packet₁, packet₁', houter₁, hdata₁, -⟩
    rw [houter, List.append_cancel_left_eq, List.cons.injEq] at houter₁
    exact hdata.value_eq (houter₁.1 ▸ hdata₁)
  · intro hplayed
    rw [hplayed] at hdata
    exact ⟨packet, packet', houter, hdata, hend⟩

theorem recorded_run {opening closing : MessageWrite} {writes : List MessageWrite}
    (hopening : CassetteWrite messagesTopicCassetteSubtopicOpen [0] opening)
    (hwrites : List.Forall₂
      (fun octet => CassetteWrite messagesTopicCassetteSubtopicWrite [0, octet]) octets writes)
    (hclosing : CassetteWrite messagesTopicCassetteSubtopicClose [0] closing)
    (hcassette : h.rpc.cassette = 0xff) (hlen : octets.length ≤ 31)
    (hroom : h.board.flash.writeCount + (octets.length + 1) ≤ userParamMaxWrite) :
    Recorded (vexFlashUserParamRead h.board.flash).2.data octets
      (recvWrites (opening :: writes ++ [closing]) h) := by
  have hopen := recording_open hopening hcassette hroom
  have hwritten := recording_writes hwrites hopen (by rw [List.length_nil]; omega)
  rw [recvWrites, List.cons_append, List.foldl_cons, List.foldl_append]
  exact recorded_close hclosing hwritten

/-- A recording is played back as it was made exactly when every octet equals the one that the
block held, before, one place beyond the recording. -/
theorem cassette_plays_iff {opening closing : MessageWrite} {writes : List MessageWrite}
    {read : MessageRead}
    (hopening : CassetteWrite messagesTopicCassetteSubtopicOpen [0] opening)
    (hwrites : List.Forall₂
      (fun octet => CassetteWrite messagesTopicCassetteSubtopicWrite [0, octet]) octets writes)
    (hclosing : CassetteWrite messagesTopicCassetteSubtopicClose [0] closing)
    (htopic : read.topic = messagesTopicCassette) (hsubtopic : read.subtopic = 0)
    (hcassette : h.rpc.cassette = 0xff) (hne : octets ≠ []) (hlen : octets.length ≤ 31)
    (hroom : h.board.flash.writeCount + (octets.length + 1) ≤ userParamMaxWrite) :
    Plays read octets (recvWrites (opening :: writes ++ [closing]) h) ↔
      ∀ octet ∈ octets,
        octet = octetAt (vexFlashUserParamRead h.board.flash).2.data.1 octets.length := by
  rw [← played_eq_iff hne]
  exact (recorded_run hopening hwrites hclosing hcassette hlen hroom).plays_iff htopic hsubtopic
    hne hlen

def cassetteWrite (subtopic : UInt8) (octets : List UInt8) : MessageWrite :=
  ⟨1, messagesTopicCassette, subtopic, UInt8.ofNat octets.length, octets⟩

def cassetteRead : MessageRead := ⟨2, messagesTopicCassette, 0⟩

def recordSession (octets : List UInt8) : Session :=
  recvWrites (cassetteWrite messagesTopicCassetteSubtopicOpen [0] ::
    octets.map (fun octet => cassetteWrite messagesTopicCassetteSubtopicWrite [0, octet]) ++
    [cassetteWrite messagesTopicCassetteSubtopicClose [0]]) Session.fresh

theorem cassette_plays_erased :
    Plays cassetteRead [0xff, 0xff] (recordSession [0xff, 0xff]) := by
  refine (cassette_plays_iff ⟨rfl, rfl, rfl, rfl⟩ ?_ ⟨rfl, rfl, rfl, rfl⟩ rfl rfl rfl (by decide)
    (by decide) (by decide)).mpr (by decide +kernel)
  exact .cons ⟨rfl, rfl, rfl, rfl⟩ (.cons ⟨rfl, rfl, rfl, rfl⟩ .nil)

/-- Of `1 2` on an erased page, `2 255` is played. -/
theorem not_plays_one_two : ¬ Plays cassetteRead [1, 2] (recordSession [1, 2]) := by
  have hrecorded : Recorded .erased [1, 2] (recordSession [1, 2]) := ⟨by decide, by decide⟩
  rw [hrecorded.plays_iff rfl rfl (by decide) (by decide)]
  decide

end TurningPoint
