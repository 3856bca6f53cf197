import TurningPoint.Messages.Defs

namespace TurningPoint

def opLayout (op : UInt8) : Option (Nat × Option Nat) :=
  if op = messagesOpPing then some (2, none)
  else if op = messagesOpPong then some (2, none)
  else if op = messagesOpInfo then some (4, some 3)
  else if op = messagesOpData then some (11, some 10)
  else if op = messagesOpRead then some (5, none)
  else if op = messagesOpWrite then some (6, some 5)
  else if op = messagesOpSubscribe then some (5, none)
  else if op = messagesOpUnsubscribe then some (3, none)
  else none

def WireGrammar (buf : List UInt8) : Prop :=
  2 ≤ buf.length ∧ ∃ header declared, opLayout (octetAt buf 0) = some (header, declared) ∧
    header ≤ buf.length ∧ ∀ i ∈ declared, header + (octetAt buf i).toNat ≤ buf.length

/-- The value pointer of a message with the length its handlers read from it. -/
def MessageAny.window : MessageAny → Option (List UInt8 × Nat)
  | .info m => some (m.value, m.len.toNat)
  | .data m => some (m.value, m.len.toNat)
  | .write m => some (m.value, m.len.toNat)
  | _ => none

def WindowInside (buf : List UInt8) (m : MessageAny) : Prop :=
  ∀ value n, m.window = some (value, n) → ∃ i, value = buf.drop i ∧ i + n ≤ buf.length

def DeserializesExactly (buf : List UInt8) : Prop :=
  ∀ m, ((messageDeserialize m buf buf.length).1 = 0 ↔ WireGrammar buf) ∧
    ((messageDeserialize m buf buf.length).1 = 0 →
      WindowInside buf (messageDeserialize m buf buf.length).2)

/-- Header and declared length together pass 255, and also pass the end of the buffer. -/
def LengthWraps (buf : List UInt8) : Prop :=
  ∃ header i, opLayout (octetAt buf 0) = some (header, some i) ∧ header ≤ buf.length ∧
    256 ≤ header + (octetAt buf i).toNat ∧ buf.length < header + (octetAt buf i).toNat

inductive Decoded (buf : List UInt8) (len : Nat) : MessageAny → Prop
  | ping : octetAt buf 0 = messagesOpPing → 2 ≤ len → Decoded buf len (.ping ⟨octetAt buf 1⟩)
  | pong : octetAt buf 0 = messagesOpPong → 2 ≤ len → Decoded buf len (.pong ⟨octetAt buf 1⟩)
  | info : octetAt buf 0 = messagesOpInfo → 4 ≤ len → (octetAt buf 3 + 4).toNat ≤ len →
      Decoded buf len (.info ⟨octetAt buf 1, octetAt buf 2, octetAt buf 3, buf.drop 4⟩)
  | data : octetAt buf 0 = messagesOpData → 11 ≤ len → (octetAt buf 10 + 11).toNat ≤ len →
      Decoded buf len (.data ⟨ntohs (load16 (buf.drop 1)), octetAt buf 3, octetAt buf 4,
        octetAt buf 5, ntohl (load32 (buf.drop 6)), octetAt buf 10, buf.drop 11⟩)
  | read : octetAt buf 0 = messagesOpRead → 5 ≤ len →
      Decoded buf len (.read ⟨ntohs (load16 (buf.drop 1)), octetAt buf 3, octetAt buf 4⟩)
  | write : octetAt buf 0 = messagesOpWrite → 6 ≤ len → (octetAt buf 5 + 6).toNat ≤ len →
      Decoded buf len (.write ⟨ntohs (load16 (buf.drop 1)), octetAt buf 3, octetAt buf 4,
        octetAt buf 5, buf.drop 6⟩)
  | subscribe : octetAt buf 0 = messagesOpSubscribe → 5 ≤ len →
      Decoded buf len (.subscribe ⟨ntohs (load16 (buf.drop 1)), octetAt buf 3, octetAt buf 4⟩)
  | unsubscribe : octetAt buf 0 = messagesOpUnsubscribe → 3 ≤ len →
      Decoded buf len (.unsubscribe ⟨ntohs (load16 (buf.drop 1))⟩)

/-- What the decoder does: every early return comes before the first store. -/
theorem messageDeserialize_cases (before : MessageAny) (buf : List UInt8) (len : Nat) :
    (∃ m, messageDeserialize before buf len = (0, m) ∧ Decoded buf len m) ∨
      messageDeserialize before buf len = (-1, before) := by
  generalize hr : messageDeserialize before buf len = r
  rw [messageDeserialize] at hr
  by_cases hlen : len < 2
  · exact .inr (hr.symm.trans (if_pos hlen))
  rw [if_neg hlen] at hr
  dsimp only at hr
  by_cases hop : octetAt buf 0 = messagesOpPing
  · exact .inl ⟨_, hr.symm.trans (if_pos hop), .ping hop (Nat.not_lt.mp hlen)⟩
  rw [if_neg hop] at hr
  by_cases hop : octetAt buf 0 = messagesOpPong
  · exact .inl ⟨_, hr.symm.trans (if_pos hop), .pong hop (Nat.not_lt.mp hlen)⟩
  rw [if_neg hop] at hr
  by_cases hop : octetAt buf 0 = messagesOpInfo
  · rw [if_pos hop] at hr
    by_cases hheader : len < 4
    · exact .inr (hr.symm.trans (if_pos hheader))
    rw [if_neg hheader] at hr
    split at hr
    case isTrue => exact .inr hr.symm
    case isFalse hvalue =>
      exact .inl ⟨_, hr.symm, .info hop (Nat.not_lt.mp hheader) (Nat.not_lt.mp hvalue)⟩
  rw [if_neg hop] at hr
  by_cases hop : octetAt buf 0 = messagesOpData
  · rw [if_pos hop] at hr
    by_cases hheader : len < 11
    · exact .inr (hr.symm.trans (if_pos hheader))
    rw [if_neg hheader] at hr
    split at hr
    case isTrue => exact .inr hr.symm
    case isFalse hvalue =>
      exact .inl ⟨_, hr.symm, .data hop (Nat.not_lt.mp hheader) (Nat.not_lt.mp hvalue)⟩
  rw [if_neg hop] at hr
  by_cases hop : octetAt buf 0 = messagesOpRead
  · rw [if_pos hop] at hr
    by_cases hheader : len < 5
    · exact .inr (hr.symm.trans (if_pos hheader))
    · exact .inl ⟨_, hr.symm.trans (if_neg hheader), .read hop (Nat.not_lt.mp hheader)⟩
  rw [if_neg hop] at hr
  by_cases hop : octetAt buf 0 = messagesOpWrite
  · rw [if_pos hop] at hr
    by_cases hheader : len < 6
    · exact .inr (hr.symm.trans (if_pos hheader))
    rw [if_neg hheader] at hr
    split at hr
    case isTrue => exact .inr hr.symm
    case isFalse hvalue =>
      exact .inl ⟨_, hr.symm, .write hop (Nat.not_lt.mp hheader) (Nat.not_lt.mp hvalue)⟩
  rw [if_neg hop] at hr
  by_cases hop : octetAt buf 0 = messagesOpSubscribe
  · rw [if_pos hop] at hr
    by_cases hheader : len < 5
    · exact .inr (hr.symm.trans (if_pos hheader))
    · exact .inl ⟨_, hr.symm.trans (if_neg hheader), .subscribe hop (Nat.not_lt.mp hheader)⟩
  rw [if_neg hop] at hr
  by_cases hop : octetAt buf 0 = messagesOpUnsubscribe
  · rw [if_pos hop] at hr
    by_cases hheader : len < 3
    · exact .inr (hr.symm.trans (if_pos hheader))
    · exact .inl ⟨_, hr.symm.trans (if_neg hheader), .unsubscribe hop (Nat.not_lt.mp hheader)⟩
  rw [if_neg hop] at hr
  exact .inr hr.symm

theorem Decoded.accepted {m : MessageAny} {buf : List UInt8} {len : Nat} (h : Decoded buf len m)
    (before : MessageAny) : messageDeserialize before buf len = (0, m) := by
  have hlen : ¬ len < 2 := by cases h <;> omega
  rw [messageDeserialize, if_neg hlen]
  dsimp only
  cases h with
  | ping hop | pong hop =>
    rw [hop]
    rfl
  | info hop hheader hvalue =>
    rw [hop]
    exact (if_neg (Nat.not_lt.mpr hheader)).trans (if_neg (Nat.not_lt.mpr hvalue))
  | data hop hheader hvalue =>
    rw [hop]
    exact (if_neg (Nat.not_lt.mpr hheader)).trans (if_neg (Nat.not_lt.mpr hvalue))
  | write hop hheader hvalue =>
    rw [hop]
    exact (if_neg (Nat.not_lt.mpr hheader)).trans (if_neg (Nat.not_lt.mpr hvalue))
  | read hop hheader | subscribe hop hheader | unsubscribe hop hheader =>
    rw [hop]
    exact if_neg (Nat.not_lt.mpr hheader)

theorem vlen_toNat (declared header : UInt8) :
    (declared + header).toNat = (header.toNat + declared.toNat) % 256 := by
  rw [UInt8.toNat_add, Nat.add_comm]

/-- What the decoder tests: the grammar with its bound taken modulo 256. -/
theorem messageDeserialize_accepts (m : MessageAny) (buf : List UInt8) (len : Nat) :
    (messageDeserialize m buf len).1 = 0 ↔
      2 ≤ len ∧ ∃ header declared, opLayout (octetAt buf 0) = some (header, declared) ∧
        header ≤ len ∧ ∀ i ∈ declared, (header + (octetAt buf i).toNat) % 256 ≤ len := by
  constructor
  · intro h
    obtain ⟨m', -, hdecoded⟩ | hrejected := messageDeserialize_cases m buf len
    · cases hdecoded with
      | ping hop hlen | pong hop hlen =>
        exact ⟨hlen, 2, none, by rw [hop]; rfl, hlen, fun _ hi => nomatch hi⟩
      | read hop hlen | subscribe hop hlen =>
        exact ⟨by omega, 5, none, by rw [hop]; rfl, hlen, fun _ hi => nomatch hi⟩
      | unsubscribe hop hlen =>
        exact ⟨by omega, 3, none, by rw [hop]; rfl, hlen, fun _ hi => nomatch hi⟩
      | info hop hlen hvalue =>
        refine ⟨by omega, 4, some 3, by rw [hop]; rfl, hlen, fun i hi => ?_⟩
        cases hi
        rwa [vlen_toNat] at hvalue
      | data hop hlen hvalue =>
        refine ⟨by omega, 11, some 10, by rw [hop]; rfl, hlen, fun i hi => ?_⟩
        cases hi
        rwa [vlen_toNat] at hvalue
      | write hop hlen hvalue =>
        refine ⟨by omega, 6, some 5, by rw [hop]; rfl, hlen, fun i hi => ?_⟩
        cases hi
        rwa [vlen_toNat] at hvalue
    · rw [hrejected] at h
      cases h
  · rintro ⟨hlen, header, declared, hlayout, hheader, hbound⟩
    suffices hdecoded : ∃ m', Decoded buf len m' by
      obtain ⟨m', hdecoded⟩ := hdecoded
      exact congrArg Prod.fst (hdecoded.accepted m)
    unfold opLayout at hlayout
    split_ifs at hlayout with hop hop hop hop hop hop hop hop
    all_goals cases hlayout
    · exact ⟨_, .ping hop hlen⟩
    · exact ⟨_, .pong hop hlen⟩
    · exact ⟨_, .info hop hheader (vlen_toNat _ 4 ▸ hbound 3 rfl)⟩
    · exact ⟨_, .data hop hheader (vlen_toNat _ 11 ▸ hbound 10 rfl)⟩
    · exact ⟨_, .read hop hheader⟩
    · exact ⟨_, .write hop hheader (vlen_toNat _ 6 ▸ hbound 5 rfl)⟩
    · exact ⟨_, .subscribe hop hheader⟩
    · exact ⟨_, .unsubscribe hop hheader⟩

theorem messageDeserialize_window {m : MessageAny} {buf : List UInt8} {len : Nat}
    {r : Int × MessageAny} (hr : messageDeserialize m buf len = r) (h : r.1 = 0)
    {value : List UInt8} {n : Nat} (hw : r.2.window = some (value, n)) :
    ∃ header i, opLayout (octetAt buf 0) = some (header, some i) ∧
      value = buf.drop header ∧ n = (octetAt buf i).toNat := by
  obtain ⟨m', haccepted, hdecoded⟩ | hrejected := messageDeserialize_cases m buf len
  · rw [haccepted] at hr
    subst hr
    cases hdecoded with
    | info hop | data hop | write hop =>
      cases hw
      rw [hop]
      exact ⟨_, _, rfl, rfl, rfl⟩
    | _ => cases hw
  · rw [← hr, hrejected] at h
    cases h

theorem accepted_window_inside {buf : List UInt8} (hw : ¬ LengthWraps buf) (m : MessageAny)
    (h : (messageDeserialize m buf buf.length).1 = 0) :
    WindowInside buf (messageDeserialize m buf buf.length).2 := by
  intro value n hwin
  obtain ⟨header, i, hop, rfl, rfl⟩ := messageDeserialize_window rfl h hwin
  obtain ⟨-, header', declared, hop', hheader, hbound⟩ :=
    (messageDeserialize_accepts m buf _).mp h
  obtain ⟨rfl, rfl⟩ : header = header' ∧ some i = declared := by simpa [hop] using hop'
  refine ⟨header, rfl, ?_⟩
  have hmod := hbound i rfl
  by_contra hout
  refine hw ⟨header, i, hop, hheader, ?_, by omega⟩
  by_contra hsmall
  rw [Nat.mod_eq_of_lt (by omega)] at hmod
  omega

theorem opLayout_two_le {op : UInt8} {header : Nat} {declared : Option Nat}
    (h : opLayout op = some (header, declared)) : 2 ≤ header ∧ header < 256 := by
  unfold opLayout at h
  grind

/-- A wrapped bound is below the header itself, so the decoder lets every such buffer pass. -/
theorem accepts_of_lengthWraps {buf : List UInt8} (hw : LengthWraps buf) (m : MessageAny) :
    (messageDeserialize m buf buf.length).1 = 0 ∧ ¬ WireGrammar buf := by
  obtain ⟨header, i, hop, hheader, hwrap, hshort⟩ := hw
  have hrange := opLayout_two_le hop
  have hoctet := (octetAt buf i).toNat_lt
  constructor
  · rw [messageDeserialize_accepts]
    refine ⟨by omega, header, some i, hop, hheader, ?_⟩
    rintro _ ⟨⟩
    omega
  · rintro ⟨-, header', declared, hop', -, hbound⟩
    obtain ⟨rfl, rfl⟩ : header = header' ∧ some i = declared := by simpa [hop] using hop'
    have := hbound i rfl
    omega

/-- The decoder keeps to the grammar, and its value window to the buffer, on exactly the buffers
where the 8-bit bound does not wrap past a short buffer. -/
theorem deserializesExactly_iff (buf : List UInt8) :
    DeserializesExactly buf ↔ ¬ LengthWraps buf := by
  constructor
  · intro h hw
    obtain ⟨haccepts, hgrammar⟩ := accepts_of_lengthWraps hw (.ping ⟨0⟩)
    exact hgrammar ((h _).1.mp haccepts)
  · intro hw m
    refine ⟨?_, accepted_window_inside hw m⟩
    rw [messageDeserialize_accepts]
    refine and_congr_right fun _ => exists_congr fun header => exists_congr fun declared =>
      and_congr_right fun hop => and_congr_right fun hheader => forall₂_congr fun i hi => ?_
    subst hi
    have hnot : ¬ (256 ≤ header + (octetAt buf i).toNat ∧
        buf.length < header + (octetAt buf i).toNat) :=
      fun h => hw ⟨header, i, hop, hheader, h⟩
    have hoctet := (octetAt buf i).toNat_lt
    have hrange := opLayout_two_le hop
    omega

/-- A WRITE of six octets that declares 250 more is accepted: `250 + 6` is `0` in 8 bits. -/
theorem not_deserializesExactly_write :
    ¬ DeserializesExactly [messagesOpWrite, 0, 1, messagesTopicMotor, 0xff, 250] := by
  intro h
  have hw : LengthWraps [messagesOpWrite, 0, 1, messagesTopicMotor, 0xff, 250] :=
    ⟨6, 5, by decide⟩
  obtain ⟨haccepts, hgrammar⟩ := accepts_of_lengthWraps hw (.ping ⟨0⟩)
  exact hgrammar ((h _).1.mp haccepts)

end TurningPoint
