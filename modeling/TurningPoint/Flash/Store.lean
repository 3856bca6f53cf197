import TurningPoint.Flash.Defs
import TurningPoint.Messages.Canonical

namespace TurningPoint

theorem word_low_high (n : UInt32) :
    n.toUInt16.toUInt32 ||| ((n >>> 16).toUInt16.toUInt32 <<< 16) = n := by
  have hn := n.toNat_lt
  have hhigh : ((n >>> 16).toUInt16.toUInt32 <<< 16).toNat = n.toNat / 65536 * 2 ^ 16 := by
    simp [Nat.shiftLeft_eq, Nat.shiftRight_eq_div_pow]
    omega
  apply UInt32.toNat_inj.mp
  rw [UInt32.toNat_or, hhigh, Nat.or_comm, mul_or (by simp; omega)]
  simp
  omega

theorem octetsFrom_flatMap (p : List UInt8) (n : Nat) :
    ((List.range n).flatMap fun k => octetsFrom (p.drop (4 * k)) 4) = octetsFrom p (4 * n) := by
  induction n with
  | zero => rfl
  | succ n ih =>
    rw [List.range_succ, List.flatMap_append, ih, List.flatMap_singleton, Nat.mul_succ,
      octetsFrom_add]

@[simp] theorem UserData.ofWords_word (data : UserData) : UserData.ofWords data.word = data := by
  refine Subtype.ext ?_
  simp only [ofWords, word, memory32_load32, octetsFrom_flatMap]
  have hself := octetsFrom_self data.1
  rwa [data.2] at hself

theorem UserData.ofWords_congr {word word' : Nat → UInt32}
    (h : ∀ k < userParamWords, word k = word' k) :
    UserData.ofWords word = UserData.ofWords word' := by
  have hwords : ∀ k ∈ List.range userParamWords, memory32 (word k) = memory32 (word' k) :=
    fun k hk => congrArg memory32 (h k (List.mem_range.mp hk))
  exact Subtype.ext (List.flatMap_congr hwords)

namespace FlashPage

variable {page page' : FlashPage} {i : Nat}

theorem word_erased (hlow : page (2 * i) = 0xffff) (hhigh : page (2 * i + 1) = 0xffff) :
    page.word i = 0xffffffff := by
  rw [word, hlow, hhigh]
  decide

theorem word_programmed (hlow : page (2 * i) = 0) : page.word i ≠ 0xffffffff := by
  intro h
  have hmod := congrArg (fun n : UInt32 => n.toNat % 65536) h
  rw [word, hlow] at hmod
  simp [Nat.shiftLeft_eq] at hmod

theorem word_of_halves {data : UInt32} (hlow : page (2 * i) = data.toUInt16)
    (hhigh : page (2 * i + 1) = (data >>> 16).toUInt16) : page.word i = data := by
  rw [word, hlow, hhigh, word_low_high]

def AgreesOff (lo hi : Nat) (page page' : FlashPage) : Prop :=
  ∀ j, j < 2 * lo ∨ 2 * hi ≤ j → page' j = page j

namespace AgreesOff

variable {lo hi : Nat}

theorem refl (page : FlashPage) : AgreesOff lo hi page page := fun _ _ => rfl

theorem trans {page'' : FlashPage} (h : AgreesOff lo hi page page')
    (h' : AgreesOff lo hi page' page'') : AgreesOff lo hi page page'' :=
  fun j hj => (h' j hj).trans (h j hj)

theorem mono {lo' hi' : Nat} (h : AgreesOff lo hi page page') (hlo : lo' ≤ lo) (hhi : hi ≤ hi') :
    AgreesOff lo' hi' page page' :=
  fun j hj => h j (by omega)

theorem update (page : FlashPage) {j : Nat} (half : UInt16) (hlo : 2 * lo ≤ j) (hhi : j < 2 * hi) :
    AgreesOff lo hi page (Function.update page j half) :=
  fun _ hk => Function.update_of_ne (by omega) _ _

theorem word_eq (h : AgreesOff lo hi page page') (hi' : i < lo ∨ hi ≤ i) :
    page'.word i = page.word i := by
  rw [word, word, h (2 * i) (by omega), h (2 * i + 1) (by omega)]

end AgreesOff

end FlashPage

section

variable {ctl : FlashController} {bank : FlashBank}

theorem wait_complete {bank : FlashBank} :
    flashWaitForLastOperation bank = .complete ↔ bank.pgErr = false := by
  unfold flashWaitForLastOperation
  cases bank.pgErr <;> decide

theorem programHalf_ensures {i j : Nat} (data : UInt16) (bank : FlashBank) (hlo : 2 * i ≤ j)
    (hhi : j < 2 * (i + 1)) :
    (programHalf ctl j data bank).Ensures (FlashPage.AgreesOff i (i + 1) bank.page) (fun b =>
      (∀ k, k ≠ j → b.page k = bank.page k) ∧ (b.pgErr = false → b.page j = data) ∧
        (bank.pgErr = false → bank.page j = 0xffff → b.pgErr = false)) := by
  refine .note_bind (.update _ _ hlo hhi) (.pure ⟨?_, ?_, ?_⟩)
  · exact fun k hk => Function.update_of_ne hk _ _
  · intro herr
    have hstored := ctl.stored (bank.page j) data (Bool.or_eq_false_iff.mp herr).2
    exact (Function.update_self j _ bank.page).trans hstored
  · intro herr herased
    simp only [herr, herased, ctl.erased, Bool.or_false]

theorem flashProgramWord_ensures (i : Nat) (data : UInt32) (bank : FlashBank) :
    (flashProgramWord ctl i data bank).Ensures (FlashPage.AgreesOff i (i + 1) bank.page)
      (fun r => FlashPage.AgreesOff i (i + 1) bank.page r.2.page ∧
        (r.1 = .complete ↔ r.2.pgErr = false) ∧
        (r.1 = .complete → r.2.page.word i = data) ∧
        (bank.pgErr = false → bank.page (2 * i) = 0xffff → bank.page (2 * i + 1) = 0xffff →
          r.1 = .complete)) := by
  refine .ite (fun herr => .pure ⟨.refl _, wait_complete, fun h => absurd h herr, ?_⟩) fun _ => ?_
  · exact fun h _ _ => wait_complete.mpr h
  refine (programHalf_ensures _ bank le_rfl (by omega)).bind fun b hlow => ?_
  obtain ⟨hkeeps, hstored, herased⟩ := hlow
  have hagrees : FlashPage.AgreesOff i (i + 1) bank.page b.page := fun j hj => hkeeps j (by omega)
  refine .ite (fun herr => .pure ⟨hagrees, wait_complete, fun h => absurd h herr, ?_⟩) fun hok => ?_
  · exact fun h hlow _ => wait_complete.mpr (herased h hlow)
  have hhigh : (programHalf ctl (2 * i + 1) (data >>> 16).toUInt16 b).Ensures _ _ :=
    programHalf_ensures _ b (show 2 * i ≤ 2 * i + 1 by omega) (by omega)
  refine (hhigh.imp fun page h => hagrees.trans h).bind ?_
  rintro c ⟨hkeeps', hstored', herased'⟩
  refine .pure ⟨fun j hj => ?_, wait_complete, fun h => ?_, fun h hlow hhigh => ?_⟩
  · exact (hkeeps' j (by omega)).trans (hkeeps j (by omega))
  · have hb := wait_complete.mp (Decidable.not_not.mp hok)
    refine FlashPage.word_of_halves ?_ (hstored' (wait_complete.mp h))
    exact (hkeeps' (2 * i) (by omega)).trans (hstored hb)
  · refine wait_complete.mpr (herased' (herased h hlow) ?_)
    exact (hkeeps (2 * i + 1) (by omega)).trans hhigh

theorem programHalf_erased {j : Nat} (data : UInt16) (hok : bank.pgErr = false)
    (hj : bank.page j = 0xffff) :
    let page := Function.update bank.page j data
    programHalf ctl j data bank = ⟨[page], ⟨page, false⟩⟩ := by
  rw [programHalf, hj, ctl.erased, hok]
  rfl

theorem flashProgramWord_erased (i : Nat) (data : UInt32) (hok : bank.pgErr = false)
    (hlow : bank.page (2 * i) = 0xffff) (hhigh : bank.page (2 * i + 1) = 0xffff) :
    (flashProgramWord ctl i data bank).Ensures
      (fun page => FlashPage.AgreesOff i (i + 1) bank.page page ∧ page (2 * i) = data.toUInt16)
      (fun r => (FlashPage.AgreesOff i (i + 1) bank.page r.2.page ∧
        r.2.page (2 * i) = data.toUInt16) ∧ r.1 = .complete) := by
  have hfirst : FlashPage.AgreesOff i (i + 1) bank.page
      (Function.update bank.page (2 * i) data.toUInt16) := .update _ _ le_rfl (by omega)
  have hhigh' : Function.update bank.page (2 * i) data.toUInt16 (2 * i + 1) = 0xffff := by
    rw [Function.update_of_ne (by omega), hhigh]
  refine .ite (fun herr => absurd (wait_complete.mpr hok) herr) fun _ => ?_
  rw [programHalf_erased _ hok hlow]
  refine .event_bind ⟨hfirst, Function.update_self ..⟩ ?_
  refine .ite (fun herr => absurd (wait_complete.mpr rfl) herr) fun _ => ?_
  rw [programHalf_erased _ rfl hhigh']
  have hboth : FlashPage.AgreesOff i (i + 1) bank.page (Function.update
      (Function.update bank.page (2 * i) data.toUInt16) (2 * i + 1) (data >>> 16).toUInt16) :=
    hfirst.trans (.update _ _ (by omega) (by omega))
  have hkept : Function.update (Function.update bank.page (2 * i) data.toUInt16) (2 * i + 1)
      (data >>> 16).toUInt16 (2 * i) = data.toUInt16 := by
    rw [Function.update_of_ne (by omega), Function.update_self]
  exact .event_bind ⟨hboth, hkept⟩ (.pure ⟨⟨hboth, hkept⟩, rfl⟩)

theorem flashProgramWord_error (i : Nat) (data : UInt32) (herr : bank.pgErr = true) :
    flashProgramWord ctl i data bank = pure (.errorPg, bank) := by
  rw [flashProgramWord, flashWaitForLastOperation, if_pos herr]
  rfl

theorem programParams_ensures (base : Nat) (data : UserData) (n k : Nat) (bank : FlashBank)
    (hok : bank.pgErr = false) :
    (programParams ctl base data n k bank).Ensures
      (FlashPage.AgreesOff (base + k) (base + k + n) bank.page)
      (fun r => FlashPage.AgreesOff (base + k) (base + k + n) bank.page r.2.page ∧
        (r.1 = true ↔ r.2.pgErr = false) ∧
        (r.1 = true → ∀ l, k ≤ l → l < k + n → r.2.page.word (base + l) = data.word l) ∧
        ((∀ j, 2 * (base + k) ≤ j → j < 2 * (base + k + n) → bank.page j = 0xffff) →
          r.1 = true)) := by
  induction n generalizing k bank with
  | zero =>
    refine .pure ⟨.refl _, ?_, ?_, fun _ => rfl⟩
    · simp [hok]
    · intro _ l hl hl'
      omega
  | succ n ih =>
    have hword : (flashProgramWord ctl (base + k) (data.word k) bank).Ensures _ _ :=
      flashProgramWord_ensures (base + k) (data.word k) bank
    refine (hword.imp fun page h => h.mono le_rfl (by omega)).bind ?_
    rintro ⟨status, b⟩ ⟨hagrees, hstatus, hstored, herased⟩
    refine .ite (fun herr => .pure ⟨hagrees.mono le_rfl (by omega), ?_, ?_, ?_⟩) fun hdone => ?_
    · exact iff_of_false Bool.false_ne_true fun h => herr (hstatus.mpr h)
    · exact fun h => absurd h Bool.false_ne_true
    · intro hclean
      exact absurd (herased hok (hclean _ (by omega) (by omega)) (hclean _ (by omega) (by omega))) herr
    have hcomplete := Decidable.not_not.mp hdone
    have hrest := ih (k + 1) b (hstatus.mp hcomplete)
    have hfirst : FlashPage.AgreesOff (base + k) (base + k + (n + 1)) bank.page b.page :=
      hagrees.mono le_rfl (by omega)
    have hlast {page : FlashPage}
        (h : FlashPage.AgreesOff (base + (k + 1)) (base + (k + 1) + n) b.page page) :
        FlashPage.AgreesOff (base + k) (base + k + (n + 1)) bank.page page :=
      hfirst.trans (h.mono (by omega) (by omega))
    obtain ⟨hagrees', hdone', hstored', herased'⟩ := hrest.value
    refine ⟨(hrest.imp fun page h => hlast h).events, hlast hagrees', hdone', ?_, ?_⟩
    · intro h l hl hl'
      rcases Nat.eq_or_lt_of_le hl with rfl | hl
      · exact (hagrees'.word_eq (.inl (by omega))).trans (hstored hcomplete)
      · exact hstored' h l hl (by omega)
    · intro hclean
      refine herased' fun j hj hj' => ?_
      exact (hagrees j (.inr (by omega))).trans (hclean j (by omega) (by omega))

end

/-- The page holds the blocks, in the order they were written.  The words of the next block may have
been programmed; its word in the index has not. -/
structure FlashPage.Holds (page : FlashPage) (blocks : List UserData) : Prop where
  length_le : blocks.length ≤ userParamBlocks
  committed : ∀ i < blocks.length, page.word i ≠ 0xffffffff
  free : ∀ j, 2 * blocks.length ≤ j → j < 2 * userParamIndex → page j = 0xffff
  block : ∀ i (hi : i < blocks.length), ∀ k < userParamWords,
    page.word (userParamIndex + i * userParamWords + k) = blocks[i].word k

def FlashPage.Clean (page : FlashPage) (n : Nat) : Prop :=
  ∀ j, 2 * (userParamIndex + n * userParamWords) ≤ j → page j = 0xffff

theorem lt_userParamIndex {n : Nat} (hn : n ≤ userParamBlocks) : n < userParamIndex :=
  Nat.lt_of_le_of_lt hn (by decide)

theorem blockWord_lt {i k n : Nat} (hi : i < n) (hk : k < userParamWords) :
    userParamIndex + i * userParamWords + k < userParamIndex + n * userParamWords := by
  have hnext : (i + 1) * userParamWords ≤ n * userParamWords := Nat.mul_le_mul_right _ hi
  rw [Nat.succ_mul] at hnext
  omega

namespace FlashPage.Holds

variable {page page' : FlashPage} {blocks : List UserData}

theorem erased : Holds (fun _ => 0xffff) [] where
  length_le := Nat.zero_le _
  committed := fun i hi => absurd hi (Nat.not_lt_zero i)
  free := fun _ _ _ => rfl
  block := fun i hi => absurd hi (Nat.not_lt_zero i)

theorem paramOffsetLoop_eq (h : page.Holds blocks) (n : Nat) {i : Nat} (hi : i ≤ blocks.length)
    (hn : i + n = userParamIndex) (offset : Int) :
    paramOffsetLoop page offset (List.range' i n) = offset + (blocks.length - i) := by
  have hindex := lt_userParamIndex h.length_le
  induction n generalizing i offset with
  | zero => omega
  | succ n ih =>
    rw [List.range'_succ, paramOffsetLoop]
    rcases Nat.eq_or_lt_of_le hi with rfl | hlt
    · have herased : page.word blocks.length = 0xffffffff :=
        word_erased (h.free _ (by omega) (by omega)) (h.free _ (by omega) (by omega))
      rw [if_neg (not_not_intro herased)]
      omega
    · rw [if_pos (h.committed i hlt), ih hlt (by omega)]
      omega

theorem offset_eq (h : page.Holds blocks) :
    vexFlashUserParamGetOffset page = blocks.length - 1 := by
  rw [vexFlashUserParamGetOffset, List.range_eq_range',
    h.paramOffsetLoop_eq userParamIndex (Nat.zero_le _) (Nat.zero_add _)]
  omega

theorem of_agreesOff (h : page.Holds blocks)
    (hagrees : AgreesOff (userParamIndex + blocks.length * userParamWords)
      (userParamIndex + blocks.length * userParamWords + userParamWords) page page') :
    page'.Holds blocks where
  length_le := h.length_le
  committed i hi := by
    have hindex := lt_userParamIndex h.length_le
    rw [hagrees.word_eq (.inl (by omega))]
    exact h.committed i hi
  free j hj hj' := (hagrees j (.inl (by omega))).trans (h.free j hj hj')
  block i hi k hk := (hagrees.word_eq (.inl (blockWord_lt hi hk))).trans (h.block i hi k hk)

theorem commit (h : page.Holds blocks) {data : UserData} (hroom : blocks.length < userParamBlocks)
    (hblock : ∀ k < userParamWords,
      page.word (userParamIndex + blocks.length * userParamWords + k) = data.word k)
    (hagrees : AgreesOff blocks.length (blocks.length + 1) page page')
    (hindex : page' (2 * blocks.length) = 0) : page'.Holds (blocks ++ [data]) where
  length_le := by
    rw [List.length_append]
    exact hroom
  committed i hi := by
    rw [List.length_append, List.length_singleton] at hi
    rcases Nat.eq_or_lt_of_le (Nat.le_of_lt_succ hi) with rfl | hlt
    · exact word_programmed hindex
    · rw [hagrees.word_eq (.inl hlt)]
      exact h.committed i hlt
  free j hj hj' := by
    rw [List.length_append, List.length_singleton] at hj
    exact (hagrees j (.inr hj)).trans (h.free j (by omega) hj')
  block i hi k hk := by
    rw [List.length_append, List.length_singleton] at hi
    have hindex := lt_userParamIndex h.length_le
    rw [hagrees.word_eq (.inr (by omega))]
    rcases Nat.eq_or_lt_of_le (Nat.le_of_lt_succ hi) with rfl | hlt
    · rw [List.getElem_concat_length rfl]
      exact hblock k hk
    · rw [List.getElem_append_left hlt]
      exact h.block i hlt k hk

end FlashPage.Holds

variable {ctl : FlashController} {bank : FlashBank} {blocks : List UserData}

/-- At every moment the page holds the blocks it held, or those and the new one. -/
theorem programBlock_ensures (h : bank.page.Holds blocks) (hroom : blocks.length < userParamBlocks)
    (hok : bank.pgErr = false) (data : UserData) :
    (programBlock ctl blocks.length data bank).Ensures
      (fun page => page.Holds blocks ∨ page.Holds (blocks ++ [data]))
      (fun r =>
        (r.1 = flashSuccess ∧ r.2.page.Holds (blocks ++ [data]) ∨
          r.1 = flashErrorWrite ∧ r.2.page.Holds blocks) ∧
        (bank.page.Clean blocks.length →
          r.1 = flashSuccess ∧ r.2.page.Clean (blocks.length + 1))) := by
  have hindex := lt_userParamIndex h.length_le
  have hwords : (programParams ctl (userParamIndex + blocks.length * userParamWords) data
      userParamWords 0 bank).Ensures _ _ := programParams_ensures _ data userParamWords 0 bank hok
  refine (hwords.imp fun page hagrees => .inl (h.of_agreesOff hagrees)).bind ?_
  rintro ⟨done, b⟩ ⟨hagrees, hdone, hprogrammed, hclean⟩
  have hb := h.of_agreesOff hagrees
  cases done with
  | false =>
    -- The flag is still up, so the word in the index is not programmed either.
    have herr : b.pgErr = true := by simpa using hdone
    dsimp only
    rw [flashProgramWord_error _ _ herr]
    exact .pure ⟨.inr ⟨rfl, hb⟩, fun hclean' =>
      absurd (hclean fun j hj _ => hclean' j hj) Bool.false_ne_true⟩
  | true =>
    have hcommit : (flashProgramWord ctl blocks.length 0 b).Ensures _ _ :=
      flashProgramWord_erased _ 0 (hdone.mp rfl) (hb.free _ (by omega) (by omega))
        (hb.free _ (by omega) (by omega))
    have hholds {page : FlashPage} (hpage : FlashPage.AgreesOff blocks.length (blocks.length + 1)
        b.page page ∧ page (2 * blocks.length) = 0) : page.Holds (blocks ++ [data]) :=
      hb.commit hroom (fun k hk => hprogrammed rfl k (Nat.zero_le k) (by omega)) hpage.1 hpage.2
    refine (hcommit.imp fun page hpage => .inr (hholds hpage)).bind ?_
    rintro ⟨status, c⟩ ⟨hpage, rfl⟩
    refine .pure ⟨.inl ⟨rfl, hholds hpage⟩, fun hclean' => ⟨rfl, fun j hj => ?_⟩⟩
    have hnext : (blocks.length + 1) * userParamWords =
      blocks.length * userParamWords + userParamWords := Nat.succ_mul ..
    rw [hpage.1 j (.inr (by omega)), hagrees j (.inr (by omega))]
    exact hclean' j (by omega)

end TurningPoint
