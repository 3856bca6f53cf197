import Mathlib.Algebra.Group.Nat.Defs
import TurningPoint.Messages.Grammar

namespace TurningPoint

theorem mul_or {k a b : Nat} (h : b < 2 ^ k) : a * 2 ^ k ||| b = a * 2 ^ k + b := by
  rw [Nat.mul_comm, Nat.two_pow_add_eq_or_of_lt h]

theorem and_shiftLeft (x y k : Nat) : x &&& (y <<< k) = ((x >>> k) &&& y) <<< k := by
  apply Nat.eq_of_testBit_eq
  intro i
  by_cases h : k ≤ i <;> simp [h]

theorem and_ff00 (x : Nat) : x &&& 65280 = x / 256 % 256 * 256 := by
  rw [show 65280 = 255 <<< 8 from rfl, and_shiftLeft, Nat.shiftLeft_eq, Nat.shiftRight_eq_div_pow,
    Nat.and_two_pow_sub_one_eq_mod _ 8]

theorem bswap16_toNat (n : UInt16) : (bswap16 n).toNat = n.toNat % 256 * 2 ^ 8 + n.toNat / 256 := by
  have hn := n.toNat_lt
  have hhigh : (n <<< 8).toNat = n.toNat % 256 * 2 ^ 8 := by
    simp [Nat.shiftLeft_eq]
    omega
  have hlow : (n >>> 8).toNat = n.toNat / 256 := by
    simp [Nat.shiftRight_eq_div_pow]
  rw [bswap16, UInt16.toNat_or, hhigh, hlow, mul_or (by omega)]

theorem bswap32_toNat (n : UInt32) :
    (bswap32 n).toNat = ((n.toNat % 256 * 2 ^ 8 + n.toNat / 256 % 256) * 2 ^ 8 +
      n.toNat / 65536 % 256) * 2 ^ 8 + n.toNat / 2 ^ 24 := by
  have hn := n.toNat_lt
  have h3 : (n <<< 24).toNat = n.toNat % 256 * 2 ^ 24 := by
    simp [Nat.shiftLeft_eq]
    omega
  have h2 : ((n &&& (0xff00 : UInt32)) <<< 8).toNat = n.toNat / 256 % 256 * 2 ^ 16 := by
    simp [and_ff00, Nat.shiftLeft_eq]
    omega
  have h1 : ((n >>> 8) &&& (0xff00 : UInt32)).toNat = n.toNat / 65536 % 256 * 2 ^ 8 := by
    simp [and_ff00, Nat.shiftRight_eq_div_pow]
    omega
  have h0 : (n >>> 24).toNat = n.toNat / 2 ^ 24 := by
    simp [Nat.shiftRight_eq_div_pow]
  rw [bswap32, UInt32.toNat_or, UInt32.toNat_or, UInt32.toNat_or, h3, h2, h1, h0, Nat.or_assoc,
    Nat.or_assoc, mul_or (a := n.toNat / 65536 % 256) (by omega),
    mul_or (a := n.toNat / 256 % 256) (by omega), mul_or (by omega)]
  omega

theorem bswap16_bswap16 (n : UInt16) : bswap16 (bswap16 n) = n := by
  have hn := n.toNat_lt
  apply UInt16.toNat_inj.mp
  rw [bswap16_toNat, bswap16_toNat]
  omega

theorem digits {a b c : Nat} (d : Nat) (ha : a < 256) (hb : b < 256) (hc : c < 256) :
    let n := ((d * 2 ^ 8 + c) * 2 ^ 8 + b) * 2 ^ 8 + a
    n % 256 = a ∧ n / 256 % 256 = b ∧ n / 65536 % 256 = c ∧ n / 2 ^ 24 = d :=
  ⟨by omega, by omega, by omega, by omega⟩

theorem bswap32_bswap32 (n : UInt32) : bswap32 (bswap32 n) = n := by
  have hn := n.toNat_lt
  have hswap := digits (n.toNat % 256) (show n.toNat / 2 ^ 24 < 256 by omega)
    (Nat.mod_lt (n.toNat / 65536) (by decide)) (Nat.mod_lt (n.toNat / 256) (by decide))
  rw [← bswap32_toNat] at hswap
  obtain ⟨h0, h1, h2, h3⟩ := hswap
  apply UInt32.toNat_inj.mp
  rw [bswap32_toNat, h0, h1, h2, h3]
  omega

theorem load16_memory16 (n : UInt16) (rest : List UInt8) : load16 (memory16 n ++ rest) = n := by
  have hn := n.toNat_lt
  have hhigh : ((n >>> 8).toUInt8.toUInt16 <<< 8).toNat = n.toNat / 256 * 2 ^ 8 := by
    simp [Nat.shiftLeft_eq, Nat.shiftRight_eq_div_pow]
    omega
  apply UInt16.toNat_inj.mp
  change (n.toUInt8.toUInt16 ||| ((n >>> 8).toUInt8.toUInt16 <<< 8)).toNat = n.toNat
  rw [UInt16.toNat_or, hhigh, Nat.or_comm, mul_or (by simp; omega)]
  simp
  omega

theorem load32_memory32 (n : UInt32) (rest : List UInt8) : load32 (memory32 n ++ rest) = n := by
  have hn := n.toNat_lt
  have h1 : ((n >>> 8).toUInt8.toUInt32 <<< 8).toNat = n.toNat / 256 % 256 * 2 ^ 8 := by
    simp [Nat.shiftLeft_eq, Nat.shiftRight_eq_div_pow]
    omega
  have h2 : ((n >>> 16).toUInt8.toUInt32 <<< 16).toNat = n.toNat / 65536 % 256 * 2 ^ 16 := by
    simp [Nat.shiftLeft_eq, Nat.shiftRight_eq_div_pow]
    omega
  have h3 : ((n >>> 24).toUInt8.toUInt32 <<< 24).toNat = n.toNat / 2 ^ 24 * 2 ^ 24 := by
    simp [Nat.shiftLeft_eq, Nat.shiftRight_eq_div_pow]
    omega
  have h0 : n.toUInt8.toUInt32.toNat = n.toNat % 256 := by simp
  apply UInt32.toNat_inj.mp
  change (n.toUInt8.toUInt32 ||| ((n >>> 8).toUInt8.toUInt32 <<< 8) |||
    ((n >>> 16).toUInt8.toUInt32 <<< 16) ||| ((n >>> 24).toUInt8.toUInt32 <<< 24)).toNat = n.toNat
  rw [UInt32.toNat_or, UInt32.toNat_or, UInt32.toNat_or, h3, h2, h1, h0,
    Nat.or_comm (n.toNat % 256), mul_or (by omega),
    Nat.or_comm _ (n.toNat / 65536 % 256 * 2 ^ 16), mul_or (by omega), Nat.or_comm,
    mul_or (by omega)]
  omega

theorem storeAt_append {front : List UInt8} {i : Nat} (hi : front.length = i)
    (rest src : List UInt8) :
    storeAt (front ++ rest) i src = front ++ src ++ rest.drop src.length := by
  subst hi
  rw [storeAt, List.take_left, List.drop_append, List.drop_eq_nil_of_le (by simp),
    Nat.add_sub_cancel_left, List.nil_append]

def messageOctets : MessageAny → List UInt8
  | .ping m => [messagesOpPing, m.seqId]
  | .pong m => [messagesOpPong, m.seqId]
  | .info m => messagesOpInfo :: m.topic :: m.subtopic :: m.len :: octetsFrom m.value m.len.toNat
  | .data m =>
    messagesOpData :: (memory16 (htons m.reqId) ++ m.topic :: m.subtopic :: m.flag ::
      (memory32 (htonl m.timestamp) ++ m.len :: octetsFrom m.value m.len.toNat))
  | .read m => messagesOpRead :: (memory16 (htons m.reqId) ++ [m.topic, m.subtopic])
  | .write m =>
    messagesOpWrite :: (memory16 (htons m.reqId) ++ m.topic :: m.subtopic :: m.len ::
      octetsFrom m.value m.len.toNat)
  | .subscribe m => messagesOpSubscribe :: (memory16 (htons m.reqId) ++ [m.topic, m.subtopic])
  | .unsubscribe m => messagesOpUnsubscribe :: memory16 (htons m.reqId)
  | .message _ _ => []

@[simp]
theorem octetsFrom_length (p : List UInt8) (n : Nat) : (octetsFrom p n).length = n := by
  simp [octetsFrom]

theorem octetsFrom_eq_take {p : List UInt8} {n : Nat} (hn : n ≤ p.length) :
    octetsFrom p n = p.take n := by
  apply List.ext_getElem (by simp [hn])
  intro i hi hi'
  have hip : i < p.length := by
    rw [octetsFrom_length] at hi
    omega
  simp [octetsFrom, octetAt, List.getD_eq_getElem?_getD, List.getElem?_eq_getElem hip]

theorem octetsFrom_self (p : List UInt8) : octetsFrom p p.length = p := by
  rw [octetsFrom_eq_take (Nat.le_refl p.length), List.take_length]

@[simp]
theorem memory16_length (n : UInt16) : (memory16 n).length = 2 := rfl

@[simp]
theorem memory32_length (n : UInt32) : (memory32 n).length = 4 := rfl

theorem messageOctets_length (m : MessageAny) : (messageOctets m).length = messageGetsizeof m := by
  cases m <;> simp [messageOctets, messageGetsizeof] <;> omega

theorem messageStores_eq (buf : List UInt8) (m : MessageAny) :
    messageStores buf m = messageOctets m ++ buf.drop (messageGetsizeof m) := by
  have hfirst (op : UInt8) : storeAt buf 0 [op] = [op] ++ buf.drop 1 := by simp [storeAt]
  cases m
  all_goals
    simp only [messageStores, hfirst]
    repeat rw [storeAt_append (by simp)]
    simp [messageOctets, messageGetsizeof]

theorem messageStores_take (buf : List UInt8) (m : MessageAny) :
    (messageStores buf m).take (messageGetsizeof m) = messageOctets m := by
  rw [messageStores_eq, ← messageOctets_length, List.take_left]

def MessageAny.Sized : MessageAny → Prop
  | .message _ _ => False
  | .info m => m.value.length = m.len.toNat
  | .data m => m.value.length = m.len.toNat
  | .write m => m.value.length = m.len.toNat
  | _ => True

theorem messageGetsizeof_ne_zero {m : MessageAny} (hm : m.Sized) : messageGetsizeof m ≠ 0 := by
  cases m with
  | message => exact hm.elim
  | _ => simp [messageGetsizeof]

/-- What `message_deserialize` makes of the octets, whatever the union held before. -/
def ReadsAs (octets : List UInt8) (m : MessageAny) : Prop :=
  ∀ before, messageDeserialize before octets octets.length = (0, m)

theorem ntohs_load16 (n : UInt16) (rest : List UInt8) :
    ntohs (load16 (memory16 (htons n) ++ rest)) = n := by
  rw [load16_memory16]
  exact bswap16_bswap16 n

theorem ntohl_load32 (n : UInt32) (rest : List UInt8) :
    ntohl (load32 (memory32 (htonl n) ++ rest)) = n := by
  rw [load32_memory32]
  exact bswap32_bswap32 n

theorem vlen_le (len header : UInt8) : (len + header).toNat ≤ header.toNat + len.toNat := by
  rw [vlen_toNat]
  exact Nat.mod_le _ _

theorem info_readsAs {m : MessageInfo} (hm : m.value.length = m.len.toNat) :
    ReadsAs (messageOctets (.info m)) (.info m) := by
  intro before
  rw [messageOctets_length]
  obtain ⟨topic, subtopic, len, value⟩ := m
  generalize ho : messageOctets _ = octets
  have hvalue := octetsFrom_self value
  rw [hm, show octetsFrom value len.toNat = octets.drop 4 by rw [← ho]; rfl] at hvalue
  obtain ⟨hop, rfl, rfl, rfl⟩ : octetAt octets 0 = messagesOpInfo ∧ octetAt octets 1 = topic ∧
      octetAt octets 2 = subtopic ∧ octetAt octets 3 = len := by
    subst ho
    exact ⟨rfl, rfl, rfl, rfl⟩
  rw [← hvalue]
  exact (Decoded.info hop (Nat.le_add_right ..) (vlen_le _ 4)).accepted before

theorem data_readsAs {m : MessageData} (hm : m.value.length = m.len.toNat) :
    ReadsAs (messageOctets (.data m)) (.data m) := by
  intro before
  rw [messageOctets_length]
  obtain ⟨reqId, topic, subtopic, flag, timestamp, len, value⟩ := m
  generalize ho : messageOctets _ = octets
  have hvalue := octetsFrom_self value
  rw [hm, show octetsFrom value len.toNat = octets.drop 11 by rw [← ho]; rfl] at hvalue
  have hid : ntohs (load16 (octets.drop 1)) = reqId := by
    rw [← ho]
    exact ntohs_load16 reqId _
  have htime : ntohl (load32 (octets.drop 6)) = timestamp := by
    rw [← ho]
    exact ntohl_load32 timestamp _
  obtain ⟨hop, rfl, rfl, rfl, rfl⟩ : octetAt octets 0 = messagesOpData ∧
      octetAt octets 3 = topic ∧ octetAt octets 4 = subtopic ∧ octetAt octets 5 = flag ∧
      octetAt octets 10 = len := by
    subst ho
    exact ⟨rfl, rfl, rfl, rfl, rfl⟩
  rw [← hvalue, ← hid, ← htime]
  exact (Decoded.data hop (Nat.le_add_right ..) (vlen_le _ 11)).accepted before

theorem write_readsAs {m : MessageWrite} (hm : m.value.length = m.len.toNat) :
    ReadsAs (messageOctets (.write m)) (.write m) := by
  intro before
  rw [messageOctets_length]
  obtain ⟨reqId, topic, subtopic, len, value⟩ := m
  generalize ho : messageOctets _ = octets
  have hvalue := octetsFrom_self value
  rw [hm, show octetsFrom value len.toNat = octets.drop 6 by rw [← ho]; rfl] at hvalue
  have hid : ntohs (load16 (octets.drop 1)) = reqId := by
    rw [← ho]
    exact ntohs_load16 reqId _
  obtain ⟨hop, rfl, rfl, rfl⟩ : octetAt octets 0 = messagesOpWrite ∧ octetAt octets 3 = topic ∧
      octetAt octets 4 = subtopic ∧ octetAt octets 5 = len := by
    subst ho
    exact ⟨rfl, rfl, rfl, rfl⟩
  rw [← hvalue, ← hid]
  exact (Decoded.write hop (Nat.le_add_right ..) (vlen_le _ 6)).accepted before

theorem messageOctets_readsAs {m : MessageAny} (hm : m.Sized) : ReadsAs (messageOctets m) m := by
  cases m with
  | message => exact hm.elim
  | ping m | pong m => exact fun _ => rfl
  | info m => exact info_readsAs hm
  | data m => exact data_readsAs hm
  | write m => exact write_readsAs hm
  | read m | subscribe m =>
    intro before
    rw [messageOctets_length]
    obtain ⟨reqId, topic, subtopic⟩ := m
    generalize ho : messageOctets _ = octets
    have hid : ntohs (load16 (octets.drop 1)) = reqId := by
      rw [← ho]
      exact ntohs_load16 reqId _
    have hrest : octetAt octets 3 = topic ∧ octetAt octets 4 = subtopic := by
      subst ho
      exact ⟨rfl, rfl⟩
    grind [messageDeserialize, messageGetsizeof, messageOctets, octetAt]
  | unsubscribe m =>
    intro before
    rw [messageOctets_length]
    have hid : ntohs (load16 (memory16 (htons m.reqId))) = m.reqId := ntohs_load16 m.reqId []
    exact congrArg (fun reqId => ((0 : Int), MessageAny.unsubscribe ⟨reqId⟩)) hid

end TurningPoint
