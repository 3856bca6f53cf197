import TurningPoint.Rpc.Preserve

universe u

namespace TurningPoint

/-- The message makes its handler access a NULL block: the length of the cassette that is open is
asked for, which goes through a local pointer that is NULL, or an octet is to be written to a
cassette that has a number and no block. -/
def NullBlock (rpc : Rpc) : MessageAny → Prop
  | .read m =>
    m.topic = messagesTopicCassette ∧ m.subtopic = messagesTopicCassetteSubtopicOpen ∧ rpc.fp ≠ .null
  | .write m =>
    m.topic = messagesTopicCassette ∧ m.subtopic = messagesTopicCassetteSubtopicWrite ∧
      ¬ (m.len = 1 ∨ m.len > 2) ∧ octetAt m.value 0 < cassetteMax ∧
      rpc.cassette = octetAt m.value 0 ∧ rpc.fp = .null
  | _ => False

variable {ρ : Type u} {wp : WritePacket ρ} {h : Host ρ}

abbrev NullAccessIs (b : Bool) (h : Host ρ) : Prop := h.board.nullAccess = b

def SendsNullFree (wp : WritePacket ρ) : Prop := ∀ b, Sends wp (NullAccessIs b)

theorem replies_nullAccess (hwp : SendsNullFree wp) (b : Bool) : Replies wp (NullAccessIs b) :=
  ⟨hwp b, fun _ _ hh => hh, fun _ _ hh => hh, fun _ _ hh => hh, fun _ hh => hh⟩

theorem publishes_nullAccess (hwp : SendsNullFree wp) (b : Bool) : Publishes wp (NullAccessIs b) :=
  ⟨hwp b, fun _ _ hh => hh, fun _ _ _ _ hh => hh, fun _ _ _ hh => hh⟩

theorem cassetteOpenRead_nullAccess (index : UInt8) (h : Host ρ) :
    (cassetteOpenRead index h).2.board.nullAccess = h.board.nullAccess := by
  unfold cassetteOpenRead
  split
  · rfl
  · dsimp only
    split <;> rfl

theorem cassetteOpenRead_fst (index : UInt8) (h : Host ρ) (i : Nat)
    (hfp : (cassetteOpenRead index h).1 ≠ .null) :
    (loadData (cassetteOpenRead index h).1 i (cassetteOpenRead index h).2).2 =
      (cassetteOpenRead index h).2 := by
  cases hfst : (cassetteOpenRead index h).1 with
  | null => exact absurd hfst hfp
  | params => rfl

theorem rpcRecvReadCassette_nullAccess (hwp : SendsNullFree wp) {read : MessageRead}
    (htopic : read.topic = messagesTopicCassette) (h : Host ρ) :
    (rpcRecvReadCassette wp read h).board.nullAccess = true ↔
      h.board.nullAccess = true ∨ NullBlock h.rpc (.read read) := by
  have hrep (value : List UInt8) (h : Host ρ) :
      (rpcSendRep wp read value h).board.nullAccess = h.board.nullAccess :=
    (hwp _).rpcSendRep_keeps _ _ rfl
  have hdata (value : List UInt8) (h : Host ρ) :
      (rpcSendData wp read.reqId read.topic read.subtopic 0 value h).board.nullAccess =
        h.board.nullAccess :=
    (hwp _).rpcSendData_keeps _ _ _ _ _ rfl
  have hblock : NullBlock h.rpc (.read read) ↔
      read.subtopic = messagesTopicCassetteSubtopicOpen ∧ h.rpc.fp ≠ .null :=
    and_iff_right htopic
  have hopen : ¬ messagesTopicCassetteSubtopicOpen < cassetteMax := by decide
  rw [hblock]
  unfold rpcRecvReadCassette
  dsimp only
  split
  case isTrue hindex =>
    have hnot : read.subtopic ≠ messagesTopicCassetteSubtopicOpen := fun heq => hopen (heq ▸ hindex)
    simp only [hnot, false_and, or_false]
    split
    · rw [hrep]
      rfl
    · split
      · rw [hrep, cassetteOpenRead_nullAccess]
      case isFalse hfp =>
        rw [cassetteOpenRead_fst _ _ _ hfp]
        split
        · rw [hrep, hdata, cassetteOpenRead_nullAccess]
        · rw [hrep, cassetteOpenRead_nullAccess]
  case isFalse hindex =>
    split
    case isTrue hsubtopic =>
      rw [hrep, and_iff_right hsubtopic]
      split
      case isTrue hfp => simp [loadData, hfp]
      case isFalse hfp => simp [hfp]
    case isFalse hsubtopic =>
      simp only [hsubtopic, false_and, or_false]
      have hcount : (cassetteCount h).2.board.nullAccess = h.board.nullAccess :=
        cassetteOpenRead_nullAccess 0 h
      split
      · rw [hrep, hcount]
      have hfree : (cassetteFree h).2.board.nullAccess = h.board.nullAccess := hcount
      split
      · rw [hrep, hfree]
      split
      · rw [hrep]
      · rw [(hwp _).rpcSendRepError_keeps _ _ _ _ rfl]

theorem cassetteOpenWrite_nullAccess (index : UInt8) (h : Host ρ) :
    (cassetteOpenWrite index h).2.board.nullAccess = h.board.nullAccess := by
  unfold cassetteOpenWrite
  split <;> rfl

theorem rpcRecvWriteCassette_nullAccess {write : MessageWrite}
    (htopic : write.topic = messagesTopicCassette) (h : Host ρ) :
    (rpcRecvWriteCassette write h).board.nullAccess = true ↔
      h.board.nullAccess = true ∨ NullBlock h.rpc (.write write) := by
  have hblock : NullBlock h.rpc (.write write) ↔ _ := and_iff_right htopic
  rw [hblock]
  unfold rpcRecvWriteCassette
  dsimp only
  split
  case isTrue hsubtopic =>
    have hnot : write.subtopic ≠ messagesTopicCassetteSubtopicWrite := by
      rw [hsubtopic]
      decide
    simp only [hnot, false_and, or_false]
    split_ifs
    all_goals try rfl
    · rw [cassetteOpenWrite_nullAccess]
    · rw [cassetteOpenWrite_nullAccess]
  case isFalse =>
    split
    case isTrue hsubtopic =>
      have hnot : write.subtopic ≠ messagesTopicCassetteSubtopicWrite := by
        rw [hsubtopic]
        decide
      simp only [hnot, false_and, or_false]
      split_ifs <;> rfl
    case isFalse =>
      split
      case isTrue hsubtopic =>
        rw [and_iff_right hsubtopic]
        split
        case isTrue hlen => simp [hlen]
        case isFalse hlen =>
          rw [and_iff_right hlen]
          split
          case isTrue hindex => simp [UInt8.not_lt.mpr hindex]
          case isFalse hindex =>
            rw [and_iff_right (UInt8.not_le.mp hindex)]
            split
            case isTrue hclosed =>
              have hne : ¬ h.rpc.cassette = octetAt write.value 0 := fun heq => hindex (by
                rw [← heq, hclosed.1]
                decide)
              simp [hne]
            case isFalse =>
              split
              case isTrue hother => simp [hother]
              case isFalse hsame =>
                rw [and_iff_right (not_not.mp hsame)]
                cases hfp : h.rpc.fp with
                | null =>
                  have hzero : ¬ (0 : UInt8) ≥ 31 := by decide
                  simp [loadData, storeData, writeFlash, hfp, hzero]
                | params =>
                  by_cases hfull : octetAt h.board.flash.data.1 0 ≥ 31
                  · simp [loadData, hfull]
                  · simp [loadData, storeData, writeFlash, hfp, hfull]
      case isFalse hsubtopic => simp [hsubtopic]

theorem rpcRecv_nullAccess (hwp : SendsNullFree wp) (message : MessageAny) (h : Host ρ) :
    (rpcRecv wp message h).board.nullAccess = true ↔
      h.board.nullAccess = true ∨ NullBlock h.rpc message := by
  by_cases hread : ∃ read, message = .read read ∧ read.topic = messagesTopicCassette
  · obtain ⟨read, rfl, htopic⟩ := hread
    rw [← rpcRecvReadCassette_nullAccess hwp htopic]
    have hhandler : rpcRecvRead wp read h = rpcRecvReadCassette wp read h := by
      rw [rpcRecvRead, htopic, if_neg (by decide), if_neg (by decide), if_neg (by decide),
        if_pos rfl]
    rw [← hhandler]
    rfl
  by_cases hwrite : ∃ write, message = .write write ∧ write.topic = messagesTopicCassette
  · obtain ⟨write, rfl, htopic⟩ := hwrite
    rw [← rpcRecvWriteCassette_nullAccess htopic]
    have hhandler : rpcRecvWrite wp write h = rpcRecvWriteCassette write h := by
      rw [rpcRecvWrite, htopic, if_neg (by decide), if_pos rfl]
    rw [← hhandler]
    rfl
  have hreplies := replies_nullAccess hwp h.board.nullAccess
  have hkeeps : NullAccessIs h.board.nullAccess (rpcRecv wp message h) := by
    refine hreplies.rpcRecv_keeps rfl ?_ ?_ ?_ ?_ ?_
    · exact fun read _ _ => hreplies.rpcRecvReadMotor_keeps (fun _ _ hh => hh) read rfl
    · exact fun read hm htopic => absurd ⟨read, hm, htopic⟩ hread
    · exact fun write hm htopic => absurd ⟨write, hm, htopic⟩ hwrite
    · exact fun m _ => hreplies.rpcRecvSubscribe_keeps (fun _ _ _ hh => hh) m rfl
    · exact fun m _ => hreplies.rpcRecvUnsubscribe_keeps (fun _ _ hh => hh) m rfl
  have hblock : ¬ NullBlock h.rpc message := by
    cases message with
    | read read => exact fun hblock => hread ⟨read, rfl, hblock.1⟩
    | write write => exact fun hblock => hwrite ⟨write, rfl, hblock.1⟩
    | _ => exact id
  rw [hkeeps, or_iff_left hblock]

end TurningPoint
