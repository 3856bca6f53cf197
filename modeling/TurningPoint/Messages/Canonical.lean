import TurningPoint.Messages.Grammar
import TurningPoint.Messages.Serialize

namespace TurningPoint

theorem messageSerialize_fits {m : MessageAny} {buf : List UInt8} {len : Nat}
    (hpos : messageGetsizeof m ≠ 0) (hfits : messageGetsizeof m ≤ len) :
    messageSerialize m buf len =
      (0, messageOctets m ++ buf.drop (messageGetsizeof m), some (messageGetsizeof m)) := by
  unfold messageSerialize
  dsimp only
  rw [if_neg (by omega), messageStores_eq]

/-- The octets of a message go to the front of every buffer that holds them, whatever was there, and
read back as the message; a smaller buffer is left alone. -/
theorem message_round_trip (m : MessageAny) (hm : m.Sized) :
    ∃ octets, octets.length = messageGetsizeof m ∧ ReadsAs octets m ∧
      ∀ buf : List UInt8, messageSerialize m buf buf.length =
        if messageGetsizeof m ≤ buf.length then
          (0, octets ++ buf.drop (messageGetsizeof m), some (messageGetsizeof m))
        else (-1, buf, none) := by
  refine ⟨messageOctets m, messageOctets_length m, messageOctets_readsAs hm, fun buf => ?_⟩
  split
  case isTrue hfits => exact messageSerialize_fits (messageGetsizeof_ne_zero hm) hfits
  case isFalse hsmall =>
    unfold messageSerialize
    exact if_pos (.inr (Nat.not_le.mp hsmall))

theorem message_round_trip_longest :
    let m : MessageAny := .data ⟨1, messagesTopicMotor, 0, 0, 0, 255, List.replicate 255 7⟩
    ∃ octets, octets.length = messageGetsizeof m ∧ ReadsAs octets m ∧
      ∀ buf : List UInt8, messageSerialize m buf buf.length =
        if messageGetsizeof m ≤ buf.length then
          (0, octets ++ buf.drop (messageGetsizeof m), some (messageGetsizeof m))
        else (-1, buf, none) :=
  message_round_trip _ (List.length_replicate ..)

theorem octetsFrom_add (p : List UInt8) (n k : Nat) :
    octetsFrom p (n + k) = octetsFrom p n ++ octetsFrom (p.drop n) k := by
  simp only [octetsFrom, List.range_add, List.map_append, List.map_map]
  congr 1
  apply List.map_congr_left
  intro i _
  simp [octetAt, List.getD_eq_getElem?_getD]

theorem octetsFrom_octetsFrom (p : List UInt8) (n : Nat) :
    octetsFrom (octetsFrom p n) n = octetsFrom p n := by
  have h := octetsFrom_self (octetsFrom p n)
  rwa [octetsFrom_length] at h

theorem memory16_load16 (p : List UInt8) : memory16 (load16 p) = octetsFrom p 2 := by
  have ha := (octetAt p 0).toNat_lt
  have hb := (octetAt p 1).toNat_lt
  have hhigh : ((octetAt p 1).toUInt16 <<< 8).toNat = (octetAt p 1).toNat * 2 ^ 8 := by
    simp [Nat.shiftLeft_eq]
    omega
  have hload : (load16 p).toNat = (octetAt p 1).toNat * 2 ^ 8 + (octetAt p 0).toNat := by
    rw [load16, UInt16.toNat_or, hhigh, Nat.or_comm, mul_or (by simpa using ha)]
    simp
  have h0 : (load16 p).toUInt8 = octetAt p 0 := by
    apply UInt8.toNat_inj.mp
    simp [hload]
  have h1 : (load16 p >>> 8).toUInt8 = octetAt p 1 := by
    apply UInt8.toNat_inj.mp
    simp [hload, Nat.shiftRight_eq_div_pow]
    omega
  rw [memory16, h0, h1]
  rfl

theorem memory32_load32 (p : List UInt8) : memory32 (load32 p) = octetsFrom p 4 := by
  have ha := (octetAt p 0).toNat_lt
  have hb := (octetAt p 1).toNat_lt
  have hc := (octetAt p 2).toNat_lt
  have hd := (octetAt p 3).toNat_lt
  have h1 : ((octetAt p 1).toUInt32 <<< 8).toNat = (octetAt p 1).toNat * 2 ^ 8 := by
    simp [Nat.shiftLeft_eq]
    omega
  have h2 : ((octetAt p 2).toUInt32 <<< 16).toNat = (octetAt p 2).toNat * 2 ^ 16 := by
    simp [Nat.shiftLeft_eq]
    omega
  have h3 : ((octetAt p 3).toUInt32 <<< 24).toNat = (octetAt p 3).toNat * 2 ^ 24 := by
    simp [Nat.shiftLeft_eq]
    omega
  have h0 : (octetAt p 0).toUInt32.toNat = (octetAt p 0).toNat := by simp
  have hload : (load32 p).toNat = (octetAt p 3).toNat * 2 ^ 24 + ((octetAt p 2).toNat * 2 ^ 16 +
      ((octetAt p 1).toNat * 2 ^ 8 + (octetAt p 0).toNat)) := by
    rw [load32, UInt32.toNat_or, UInt32.toNat_or, UInt32.toNat_or, h3, h2, h1, h0,
      Nat.or_comm (octetAt p 0).toNat, mul_or (by omega), Nat.or_comm _ ((octetAt p 2).toNat * 2 ^ 16),
      mul_or (by omega), Nat.or_comm, mul_or (by omega)]
  have hnat : (load32 p).toNat % 256 = (octetAt p 0).toNat ∧
      (load32 p).toNat / 256 % 256 = (octetAt p 1).toNat ∧
      (load32 p).toNat / 65536 % 256 = (octetAt p 2).toNat ∧
      (load32 p).toNat / 2 ^ 24 = (octetAt p 3).toNat := by
    rw [hload]
    refine ⟨?_, ?_, ?_, ?_⟩ <;> omega
  obtain ⟨n0, n1, n2, n3⟩ := hnat
  have e0 : (load32 p).toUInt8 = octetAt p 0 := by
    apply UInt8.toNat_inj.mp
    simpa using n0
  have e1 : (load32 p >>> 8).toUInt8 = octetAt p 1 := by
    apply UInt8.toNat_inj.mp
    simpa [Nat.shiftRight_eq_div_pow] using n1
  have e2 : (load32 p >>> 16).toUInt8 = octetAt p 2 := by
    apply UInt8.toNat_inj.mp
    simpa [Nat.shiftRight_eq_div_pow] using n2
  have e3 : (load32 p >>> 24).toUInt8 = octetAt p 3 := by
    apply UInt8.toNat_inj.mp
    simp [Nat.shiftRight_eq_div_pow]
    omega
  rw [memory32, e0, e1, e2, e3]
  rfl

theorem htons_ntohs (n : UInt16) : htons (ntohs n) = n := bswap16_bswap16 n

theorem htonl_ntohl (n : UInt32) : htonl (ntohl n) = n := bswap32_bswap32 n

def MessageAny.visible : MessageAny → MessageAny
  | .info m => .info { m with value := octetsFrom m.value m.len.toNat }
  | .data m => .data { m with value := octetsFrom m.value m.len.toNat }
  | .write m => .write { m with value := octetsFrom m.value m.len.toNat }
  | m => m

theorem messageOctets_visible (m : MessageAny) : messageOctets m.visible = messageOctets m := by
  cases m with
  | info | data | write => simp only [MessageAny.visible, messageOctets, octetsFrom_octetsFrom]
  | _ => rfl

theorem WindowInside.le {buf : List UInt8} {m : MessageAny} {header n : Nat}
    (hw : WindowInside buf m) (hwindow : m.window = some (buf.drop header, n))
    (hheader : header ≤ buf.length) : header + n ≤ buf.length := by
  obtain ⟨i, hdrop, hi⟩ := hw _ _ hwindow
  have hlen := congrArg List.length hdrop
  rw [List.length_drop, List.length_drop] at hlen
  omega

theorem octetAt_drop (p : List UInt8) (i j : Nat) : octetAt (p.drop i) j = octetAt p (i + j) := by
  simp [octetAt, List.getD_eq_getElem?_getD]

theorem reqId_octets (buf : List UInt8) :
    memory16 (htons (ntohs (load16 (buf.drop 1)))) = [octetAt buf 1, octetAt buf 2] := by
  rw [htons_ntohs, memory16_load16, ← octetAt_drop buf 1 0, ← octetAt_drop buf 1 1]
  rfl

theorem timestamp_octets (buf : List UInt8) :
    memory32 (htonl (ntohl (load32 (buf.drop 6)))) =
      [octetAt buf 6, octetAt buf 7, octetAt buf 8, octetAt buf 9] := by
  rw [htonl_ntohl, memory32_load32, ← octetAt_drop buf 6 0, ← octetAt_drop buf 6 1,
    ← octetAt_drop buf 6 2, ← octetAt_drop buf 6 3]
  rfl

theorem messageOctets_deserialize {before m : MessageAny} {buf : List UInt8}
    (h : messageDeserialize before buf buf.length = (0, m)) (hw : WindowInside buf m) :
    messageGetsizeof m ≤ buf.length ∧ messageOctets m = octetsFrom buf (messageGetsizeof m) := by
  obtain ⟨m', haccepted, hdecoded⟩ | hrejected := messageDeserialize_cases before buf buf.length
  · obtain rfl : m' = m := congrArg Prod.snd (haccepted.symm.trans h)
    cases hdecoded with
    | ping hop hlen | pong hop hlen => exact ⟨hlen, congrArg (· :: _) hop.symm⟩
    | info hop hheader =>
      refine ⟨hw.le rfl hheader, ?_⟩
      rw [messageGetsizeof, octetsFrom_add, messageOctets, ← hop]
      rfl
    | data hop hheader =>
      refine ⟨hw.le rfl hheader, ?_⟩
      rw [messageGetsizeof, octetsFrom_add, messageOctets, ← hop, reqId_octets, timestamp_octets]
      rfl
    | write hop hheader =>
      refine ⟨hw.le rfl hheader, ?_⟩
      rw [messageGetsizeof, octetsFrom_add, messageOctets, ← hop, reqId_octets]
      rfl
    | read hop hheader | subscribe hop hheader | unsubscribe hop hheader =>
      refine ⟨hheader, ?_⟩
      rw [messageOctets, ← hop, reqId_octets]
      rfl
  · rw [hrejected] at h
    cases h

def DecodesAs (buf : List UInt8) (m : MessageAny) : Prop :=
  (∃ before, messageDeserialize before buf buf.length = (0, m)) ∧ WindowInside buf m

theorem messageDeserialize_ne_message {before m : MessageAny} {buf : List UInt8} {len : Nat}
    (hread : messageDeserialize before buf len = (0, m)) (op : UInt8) (hop : ¬ MessagesOp op) :
    m ≠ .message op hop := by
  rintro rfl
  obtain ⟨m', haccepted, hdecoded⟩ | hrejected := messageDeserialize_cases before buf len
  · obtain rfl : m' = _ := congrArg Prod.snd (haccepted.symm.trans hread)
    cases hdecoded
  · rw [hrejected] at hread
    cases hread

theorem DecodesAs.sized {buf : List UInt8} {m : MessageAny} (h : DecodesAs buf m) :
    messageGetsizeof m ≠ 0 := by
  obtain ⟨before, hread⟩ := h.1
  cases m with
  | message op hop => exact absurd rfl (messageDeserialize_ne_message hread op hop)
  | _ => simp [messageGetsizeof]

theorem DecodesAs.octets_eq {buf : List UInt8} {m : MessageAny} (h : DecodesAs buf m) :
    messageGetsizeof m ≤ buf.length ∧ messageOctets m = buf.take (messageGetsizeof m) := by
  obtain ⟨⟨before, hread⟩, hinside⟩ := h
  obtain ⟨hsize, hoctets⟩ := messageOctets_deserialize hread hinside
  exact ⟨hsize, hoctets.trans (octetsFrom_eq_take hsize)⟩

/-- A buffer is accepted, with its value window inside, only as a message that encodes to its front;
so buffers that decode to the same message have the same front; and what is rejected leaves the
target alone. -/
theorem decoding_canonical (buf : List UInt8) :
    (∀ m, DecodesAs buf m →
      messageGetsizeof m ≤ buf.length ∧
      (∀ out : List UInt8, messageGetsizeof m ≤ out.length →
        messageSerialize m out out.length =
          (0, buf.take (messageGetsizeof m) ++ out.drop (messageGetsizeof m),
            some (messageGetsizeof m))) ∧
      ∀ buf' m', DecodesAs buf' m' → m.visible = m'.visible →
        buf.take (messageGetsizeof m) = buf'.take (messageGetsizeof m)) ∧
    ∀ before, (messageDeserialize before buf buf.length).1 ≠ 0 →
      messageDeserialize before buf buf.length = (-1, before) := by
  refine ⟨fun m h => ?_, fun before hne =>
    (messageDeserialize_cases before buf buf.length).resolve_left fun ⟨m, haccepted, _⟩ =>
      hne (congrArg Prod.fst haccepted)⟩
  obtain ⟨hsize, hoctets⟩ := h.octets_eq
  refine ⟨hsize, fun out hout => ?_, fun buf' m' h' hvisible => ?_⟩
  · rw [messageSerialize_fits h.sized hout, hoctets]
  · have hsame : messageOctets m = messageOctets m' := by
      rw [← messageOctets_visible m, hvisible, messageOctets_visible]
    have hsize' : messageGetsizeof m = messageGetsizeof m' := by
      rw [← messageOctets_length, hsame, messageOctets_length]
    rw [← hoctets, hsame, h'.octets_eq.2, hsize']

theorem decoding_canonical_write :
    let buf : List UInt8 :=
      [messagesOpWrite, 0, 7, messagesTopicMotor, messagesTopicMotorSubtopicAll, 2, 3, 50, 9]
    let m : MessageAny := .write ⟨7, messagesTopicMotor, messagesTopicMotorSubtopicAll, 2, [3, 50, 9]⟩
    DecodesAs buf m ∧
      messageSerialize m (List.replicate 8 1) 8 = (0, buf.take 8, some 8) := by
  intro buf m
  have h : DecodesAs buf m := by
    refine ⟨⟨.ping ⟨0⟩, by decide +kernel +revert⟩, fun value n hwindow => ⟨6, ?_⟩⟩
    obtain ⟨rfl, rfl⟩ := Prod.mk.inj (Option.some.inj hwindow)
    exact ⟨rfl, by decide⟩
  exact ⟨h, ((decoding_canonical buf).1 m h).2.1 (List.replicate 8 1) (by decide)⟩

end TurningPoint
