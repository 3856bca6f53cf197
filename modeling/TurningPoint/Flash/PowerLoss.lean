import Mathlib.Data.Set.Insert
import TurningPoint.Flash.Store
import TurningPoint.Lib.Run

namespace TurningPoint

def Flash.opened (flash : Flash) : List UserData :=
  if userParamBlocks ≤ flash.blocks.length then [] else flash.blocks

theorem vexFlashUserParamWrite_opened {flash : Flash}
    (hlimit : ¬ userParamMaxWrite ≤ flash.writeCount) :
    vexFlashUserParamWrite .params flash = (flashSuccess, { flash with
      blocks := flash.opened ++ [flash.data]
      writeCount := flash.writeCount + 1 }) :=
  if_neg hlimit

namespace FlashDriver

variable {ctl : FlashController} {d : FlashDriver} {flash : Flash}

structure Refines (d : FlashDriver) (flash : Flash) : Prop where
  params_eq : d.params = flash.data
  writeLimit_eq : d.writeLimit = flash.writeCount
  holds : d.bank.page.Holds flash.blocks

theorem read_eq {blocks : List UserData} (h : d.bank.page.Holds blocks) :
    d.vexFlashUserParamRead = { d with params := blocks.getLast?.getD .erased } := by
  unfold vexFlashUserParamRead
  rw [h.offset_eq]
  rcases List.eq_nil_or_concat' blocks with rfl | ⟨before, last, rfl⟩
  · rfl
  · have hlast : ∀ k < userParamWords, d.bank.page.word
        (userParamIndex + before.length * userParamWords + k) = last.word k := by
      intro k hk
      rw [h.block before.length (by simp) k hk, List.getElem_concat_length rfl]
    have hoffset : ((before ++ [last]).length : Int) - 1 = before.length := by simp
    have hne : (before.length : Int) ≠ -1 := by omega
    simp only [hoffset, if_neg hne, Int.toNat_natCast, List.getLast?_concat, Option.getD_some,
      UserData.ofWords_congr hlast, UserData.ofWords_word]

theorem Refines.read (h : d.Refines flash) :
    d.vexFlashUserParamRead.Refines (TurningPoint.vexFlashUserParamRead flash).2 := by
  rw [read_eq h.holds]
  exact { h with params_eq := rfl }

theorem Refines.write (ctl : FlashController) (h : d.Refines flash)
    (hlimit : ¬ userParamMaxWrite ≤ flash.writeCount) :
    (d.vexFlashUserParamWrite ctl .params).Ensures
      (fun page => page.Holds flash.opened ∨ page.Holds (flash.opened ++ [flash.data]))
      (fun r =>
        (r.1 = flashSuccess ∧ r.2.Refines (TurningPoint.vexFlashUserParamWrite .params flash).2 ∨
          r.1 = flashErrorWrite ∧ r.2.Refines { flash with writeCount := flash.writeCount + 1 }) ∧
        (d.bank.page.Clean flash.blocks.length →
          r.1 = flashSuccess ∧ r.2.bank.page.Clean (flash.opened.length + 1))) := by
  have hoffset : vexFlashUserParamGetOffset d.bank.page + 1 = flash.blocks.length := by
    rw [h.holds.offset_eq]
    omega
  refine .ite (fun hlimit' => absurd (h.writeLimit_eq ▸ hlimit') hlimit) fun _ => ?_
  dsimp only
  rw [hoffset]
  rw [vexFlashUserParamWrite_opened hlimit]
  refine .ite (fun hfull => ?_) fun hroom => ?_
  · have hopened : flash.opened = [] := if_pos (Int.ofNat_le.mp hfull)
    have hblock : (programBlock ctl ([] : List UserData).length d.params
        ⟨fun _ => 0xffff, false⟩).Ensures _ _ :=
      programBlock_ensures .erased (by decide) rfl d.params
    rw [hopened, ← h.params_eq, ← h.writeLimit_eq]
    refine .event_bind (.inl .erased) (.ite (fun herr => absurd rfl herr) fun _ => ?_)
    refine hblock.bind ?_
    rintro ⟨ret, bank⟩ ⟨hret, hclean⟩
    have hsuccess := hclean fun _ _ => rfl
    refine .pure ⟨?_, fun _ => hsuccess⟩
    rcases hret with ⟨rfl, hholds⟩ | ⟨rfl, hholds⟩
    · exact .inl ⟨rfl, rfl, rfl, hholds⟩
    · exact absurd hsuccess.1 (show flashErrorWrite ≠ flashSuccess by decide)
  · have hopened : flash.opened = flash.blocks := if_neg fun h => hroom (Int.ofNat_le.mpr h)
    have hblock := @programBlock_ensures ctl { d.bank with pgErr := false } _
      h.holds (Nat.lt_of_not_le fun h => hroom (Int.ofNat_le.mpr h)) rfl d.params
    rw [hopened, ← h.params_eq, ← h.writeLimit_eq]
    refine hblock.bind ?_
    rintro ⟨ret, bank⟩ ⟨hret, hclean⟩
    refine .pure ⟨?_, hclean⟩
    rcases hret with ⟨rfl, hholds⟩ | ⟨rfl, hholds⟩
    · exact .inl ⟨rfl, rfl, rfl, hholds⟩
    · exact .inr ⟨rfl, rfl, rfl, hholds⟩

end FlashDriver

inductive FlashAction
  | read
  | store (i : Nat) (octet : UInt8)
  | write (u : UserParam)
  | reboot

def Flash.step (flash : Flash) : FlashAction → Flash
  | .read => (vexFlashUserParamRead flash).2
  | .store i octet => { flash with data := flash.data.store i octet }
  | .write u => (vexFlashUserParamWrite u flash).2
  | .reboot => { flash with data := .zero, writeCount := 0 }

namespace FlashDriver

variable (ctl : FlashController)

def step (d : FlashDriver) : FlashAction → FlashDriver
  | .read => d.vexFlashUserParamRead
  | .store i octet => { d with params := d.params.store i octet }
  | .write u => (d.vexFlashUserParamWrite ctl u).value.2
  | .reboot => boot d.bank.page

variable {ctl} {d : FlashDriver} {flash : Flash}

structure Keeps (d : FlashDriver) (flash : Flash) : Prop extends d.Refines flash where
  clean : d.bank.page.Clean flash.blocks.length

theorem Keeps.write (h : d.Keeps flash) (u : UserParam) :
    (d.vexFlashUserParamWrite ctl u).value.1 = (TurningPoint.vexFlashUserParamWrite u flash).1 ∧
      (d.vexFlashUserParamWrite ctl u).value.2.Keeps
        (TurningPoint.vexFlashUserParamWrite u flash).2 := by
  cases u with
  | null => exact ⟨rfl, h⟩
  | params =>
    by_cases hlimit : userParamMaxWrite ≤ flash.writeCount
    · have hlimit' : userParamMaxWrite ≤ d.writeLimit := h.writeLimit_eq ▸ hlimit
      rw [vexFlashUserParamWrite, TurningPoint.vexFlashUserParamWrite, if_pos hlimit,
        if_pos hlimit']
      exact ⟨rfl, h⟩
    · obtain ⟨hret, hclean⟩ := (h.toRefines.write ctl hlimit).value
      obtain ⟨hsuccess, hclean⟩ := hclean h.clean
      rw [vexFlashUserParamWrite_opened hlimit] at hret ⊢
      rcases hret with ⟨-, hrefines⟩ | ⟨herror, -⟩
      · refine ⟨hsuccess, { hrefines with clean := ?_ }⟩
        rwa [List.length_append]
      · exact absurd (hsuccess.symm.trans herror) (by decide)

theorem Keeps.step (h : d.Keeps flash) (action : FlashAction) :
    (d.step ctl action).Keeps (flash.step action) := by
  cases action with
  | read =>
    refine { h.toRefines.read with clean := ?_ }
    rw [FlashDriver.step, read_eq h.holds]
    exact h.clean
  | store i octet => exact { h with params_eq := congrArg (·.store i octet) h.params_eq }
  | write u => exact (h.write u).2
  | reboot => exact ⟨⟨rfl, rfl, h.holds⟩, h.clean⟩

/-- In every run from an erased page the driver reads, writes and reports what the model of blocks
does. -/
theorem driver_refines_blocks (ctl : FlashController) (actions : List FlashAction) (u : UserParam) :
    let d := actions.foldl (step ctl) (boot fun _ => 0xffff)
    let flash := actions.foldl Flash.step ⟨.zero, [], 0⟩
    d.params = flash.data ∧
      d.vexFlashUserParamRead.params = (TurningPoint.vexFlashUserParamRead flash).2.data ∧
      (d.vexFlashUserParamWrite ctl u).value.1 =
        (TurningPoint.vexFlashUserParamWrite u flash).1 := by
  intro d flash
  have hstart : (boot fun _ => 0xffff).Keeps ⟨.zero, [], 0⟩ := ⟨⟨rfl, rfl, .erased⟩, fun _ _ => rfl⟩
  have hrun : d.Keeps flash :=
    Lib.foldl_simulates Keeps (fun _ _ action h => h.step action) hstart actions
  exact ⟨hrun.params_eq, hrun.toRefines.read.params_eq, (hrun.write u).1⟩

/-- The power may also fail when `k` operations of a write are over, and comes back later. -/
inductive PowerAction
  | act (action : FlashAction)
  | powerLoss (k : Nat)

/-- The driver, with the blocks that a read may find: the one written last, or one whose write was
cut short since; none if that write erased the page. -/
structure PowerRun where
  driver : FlashDriver
  readable : Set (Option UserData)

def powerStep (ctl : FlashController) (r : PowerRun) : PowerAction → PowerRun
  | .act action =>
    { driver := r.driver.step ctl action
      readable :=
        match action with
        | .write .params =>
          if (r.driver.vexFlashUserParamWrite ctl .params).value.1 = flashSuccess then
            {some r.driver.params}
          else r.readable
        | _ => r.readable }
  | .powerLoss k =>
    { driver := boot ((r.driver.vexFlashUserParamWrite ctl .params).cut k r.driver.bank.page)
      readable :=
        if userParamMaxWrite ≤ r.driver.writeLimit then r.readable
        else if vexFlashUserParamGetOffset r.driver.bank.page + 1 ≥ userParamBlocks then
          insert (some r.driver.params) (insert none r.readable)
        else insert (some r.driver.params) r.readable }

def PowerRun.Sound (r : PowerRun) : Prop :=
  ∃ blocks, r.driver.bank.page.Holds blocks ∧ blocks.getLast? ∈ r.readable

theorem write_limited {ctl : FlashController} (hlimit : userParamMaxWrite ≤ d.writeLimit) :
    d.vexFlashUserParamWrite ctl .params = pure (flashErrorWriteLimit, d) :=
  if_pos hlimit

namespace PowerRun.Sound

variable {r : PowerRun}

theorem write (h : r.Sound) : (powerStep ctl r (.act (.write .params))).Sound := by
  obtain ⟨blocks, hholds, hlast⟩ := h
  have hrefines : r.driver.Refines ⟨r.driver.params, blocks, r.driver.writeLimit⟩ :=
    ⟨rfl, rfl, hholds⟩
  unfold powerStep FlashDriver.step
  dsimp only
  by_cases hlimit : userParamMaxWrite ≤ r.driver.writeLimit
  · rw [write_limited hlimit, Lib.Traced.value_pure]
    refine ⟨blocks, hholds, ?_⟩
    dsimp only
    rwa [if_neg (show flashErrorWriteLimit ≠ flashSuccess by decide)]
  · rcases (hrefines.write ctl hlimit).value.1 with ⟨hret, hafter⟩ | ⟨hret, hafter⟩
    · rw [vexFlashUserParamWrite_opened hlimit] at hafter
      refine ⟨_, hafter.holds, ?_⟩
      rw [if_pos hret, List.getLast?_concat]
      exact Set.mem_singleton _
    · refine ⟨blocks, hafter.holds, ?_⟩
      rwa [hret, if_neg (show flashErrorWrite ≠ flashSuccess by decide)]

theorem powerLoss (h : r.Sound) (k : Nat) : (powerStep ctl r (.powerLoss k)).Sound := by
  obtain ⟨blocks, hholds, hlast⟩ := h
  have hrefines : r.driver.Refines ⟨r.driver.params, blocks, r.driver.writeLimit⟩ :=
    ⟨rfl, rfl, hholds⟩
  have hoffset : vexFlashUserParamGetOffset r.driver.bank.page + 1 = blocks.length := by
    rw [hholds.offset_eq]
    omega
  unfold powerStep
  dsimp only
  rw [hoffset]
  by_cases hlimit : userParamMaxWrite ≤ r.driver.writeLimit
  · rw [write_limited hlimit, Lib.Traced.cut_pure, if_pos hlimit]
    exact ⟨blocks, hholds, hlast⟩
  · rw [if_neg hlimit]
    have hwrite := (hrefines.write ctl hlimit).imp fun page => Or.inr (a := page.Holds blocks)
    unfold Flash.opened at hwrite
    split
    next hfull =>
      rw [if_pos (Int.ofNat_le.mp hfull)] at hwrite
      rcases hwrite.cut k (.inl hholds) with hold | hempty | hnew
      · exact ⟨blocks, hold, .inr (.inr hlast)⟩
      · exact ⟨[], hempty, .inr (.inl rfl)⟩
      · exact ⟨_, hnew, .inl rfl⟩
    next hroom =>
      rw [if_neg fun h => hroom (Int.ofNat_le.mpr h)] at hwrite
      rcases hwrite.cut k (.inl hholds) with hold | hold | hnew
      · exact ⟨blocks, hold, .inr hlast⟩
      · exact ⟨blocks, hold, .inr hlast⟩
      · refine ⟨_, hnew, ?_⟩
        rw [List.getLast?_concat]
        exact Set.mem_insert ..

theorem step (h : r.Sound) (action : PowerAction) : (powerStep ctl r action).Sound := by
  cases action with
  | powerLoss k => exact h.powerLoss k
  | act action =>
    cases action with
    | write u =>
      cases u with
      | null => exact h
      | params => exact h.write
    | read =>
      obtain ⟨blocks, hholds, hlast⟩ := h
      refine ⟨blocks, ?_, hlast⟩
      change r.driver.vexFlashUserParamRead.bank.page.Holds blocks
      rw [read_eq hholds]
      exact hholds
    | store | reboot => exact h

end PowerRun.Sound

/-- Wherever the power fails, a read finds a whole block: the one last written with success, or one
whose write the power cut short since then, or none if that write had begun by erasing a full
page. -/
theorem powerLoss_keeps_block (ctl : FlashController) (actions : List PowerAction) :
    let r := actions.foldl (powerStep ctl) ⟨boot fun _ => 0xffff, {none}⟩
    ∃ last ∈ r.readable, r.driver.vexFlashUserParamRead.params = last.getD .erased := by
  intro r
  have hstart : PowerRun.Sound ⟨boot fun _ => 0xffff, {none}⟩ := ⟨[], .erased, rfl⟩
  have hrun : r.Sound := List.foldlRecOn actions _ hstart fun r h action _ => h.step action
  obtain ⟨blocks, hholds, hlast⟩ := hrun
  exact ⟨blocks.getLast?, hlast, congrArg params (read_eq hholds)⟩

end FlashDriver

end TurningPoint
