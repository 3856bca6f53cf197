import TurningPoint.Lib.Traced
import TurningPoint.Rpc.Host

/-! `vexflash.c` and what it calls of `stm32_flash.c`, on the half words of the page that holds the
user parameters. -/

namespace TurningPoint

abbrev userParamIndex : Nat := 64
abbrev userParamWords : Nat := 8

abbrev flashErrorWrite : Int := -1
abbrev flashErrorErase : Int := -3

inductive FlashStatus
  | busy | errorPg | errorWrp | complete | timeout
  deriving DecidableEq

/-- What the controller makes of programming `data` over `old`: the half word it leaves, and whether
it raises `FLASH_FLAG_PGERR`.  An erased half word takes any data, and without an error the data has
been stored. -/
structure FlashController where
  program : (old data : UInt16) → UInt16 × Bool
  erased : ∀ data, program 0xffff data = (data, false)
  stored : ∀ old data, (program old data).2 = false → (program old data).1 = data

def FlashController.programErased (old data : UInt16) : UInt16 × Bool :=
  if old = 0xffff ∨ data = 0 then (data, false) else (old, true)

theorem FlashController.programErased_stored (old data : UInt16)
    (h : (programErased old data).2 = false) : (programErased old data).1 = data := by
  unfold programErased at h ⊢
  split at h
  next htakes => rw [if_pos htakes]
  next => cases h

def FlashController.stm32f10x : FlashController where
  program := programErased
  erased _ := if_pos (.inl rfl)
  stored := programErased_stored

abbrev FlashPage := Nat → UInt16

structure FlashBank where
  page : FlashPage
  pgErr : Bool

def FlashPage.word (page : FlashPage) (i : Nat) : UInt32 :=
  (page (2 * i)).toUInt32 ||| ((page (2 * i + 1)).toUInt32 <<< 16)

/-- Every operation is over before its timeout, and the page is not write protected. -/
def flashWaitForLastOperation (bank : FlashBank) : FlashStatus :=
  if bank.pgErr then .errorPg else .complete

/-- Computations that record the page after each operation of the controller. -/
abbrev Flashing (α : Type) := Lib.Traced FlashPage α

def flashErasePage (bank : FlashBank) : Flashing (FlashStatus × FlashBank) :=
  if flashWaitForLastOperation bank ≠ .complete then pure (flashWaitForLastOperation bank, bank)
  else do
    let bank := { bank with page := fun _ => 0xffff }
    Lib.Traced.note bank.page
    return (flashWaitForLastOperation bank, bank)

variable (ctl : FlashController)

def programHalf (i : Nat) (data : UInt16) (bank : FlashBank) : Flashing FlashBank := do
  let (half, refused) := ctl.program (bank.page i) data
  let bank := ⟨Function.update bank.page i half, bank.pgErr || refused⟩
  Lib.Traced.note bank.page
  return bank

def flashProgramWord (i : Nat) (data : UInt32) (bank : FlashBank) :
    Flashing (FlashStatus × FlashBank) :=
  if flashWaitForLastOperation bank ≠ .complete then pure (flashWaitForLastOperation bank, bank)
  else do
    let bank ← programHalf ctl (2 * i) data.toUInt16 bank
    if flashWaitForLastOperation bank ≠ .complete then
      return (flashWaitForLastOperation bank, bank)
    else
      let bank ← programHalf ctl (2 * i + 1) (data >>> 16).toUInt16 bank
      return (flashWaitForLastOperation bank, bank)

def paramOffsetLoop (page : FlashPage) (offset : Int) : List Nat → Int
  | [] => offset
  | i :: rest => if page.word i ≠ 0xffffffff then paramOffsetLoop page (offset + 1) rest else offset

def vexFlashUserParamGetOffset (page : FlashPage) : Int :=
  paramOffsetLoop page (-1) (List.range userParamIndex)

def UserData.word (data : UserData) (k : Nat) : UInt32 := load32 (data.1.drop (4 * k))

def UserData.ofWords (word : Nat → UInt32) : UserData :=
  ⟨(List.range userParamWords).flatMap fun k => memory32 (word k), rfl⟩

def programParams (base : Nat) (data : UserData) :
    (n k : Nat) → FlashBank → Flashing (Bool × FlashBank)
  | 0, _, bank => pure (true, bank)
  | n + 1, k, bank => do
    let (status, bank) ← flashProgramWord ctl (base + k) (data.word k) bank
    if status ≠ .complete then return (false, bank)
    else programParams base data n (k + 1) bank

def programBlock (offset : Nat) (data : UserData) (bank : FlashBank) :
    Flashing (Int × FlashBank) := do
  let (done, bank) ← programParams ctl (userParamIndex + offset * userParamWords) data
    userParamWords 0 bank
  let (status, bank) ← flashProgramWord ctl offset 0 bank
  return (if done ∧ status = .complete then flashSuccess else flashErrorWrite, bank)

theorem length_zeros : (List.replicate userParamSize (0 : UInt8)).length = userParamSize := rfl

def UserData.zero : UserData := ⟨List.replicate userParamSize 0, length_zeros⟩

structure FlashDriver where
  bank : FlashBank
  params : UserData
  writeLimit : Nat

namespace FlashDriver

def vexFlashUserParamRead (d : FlashDriver) : FlashDriver :=
  let offset := vexFlashUserParamGetOffset d.bank.page
  if offset = -1 then { d with params := .erased }
  else
    let base := userParamIndex + offset.toNat * userParamWords
    { d with params := .ofWords fun k => d.bank.page.word (base + k) }

def vexFlashUserParamWrite (u : UserParam) (d : FlashDriver) : Flashing (Int × FlashDriver) :=
  match u with
  | .null => pure (flashError, d)
  | .params =>
    if userParamMaxWrite ≤ d.writeLimit then pure (flashErrorWriteLimit, d)
    else
      let d := { d with writeLimit := d.writeLimit + 1, bank.pgErr := false }
      let offset := vexFlashUserParamGetOffset d.bank.page + 1
      if offset ≥ userParamBlocks then do
        let (status, bank) ← flashErasePage d.bank
        if status ≠ .complete then return (flashErrorErase, { d with bank := bank })
        else
          let (ret, bank) ← programBlock ctl 0 d.params bank
          return (ret, { d with bank := bank })
      else do
        let (ret, bank) ← programBlock ctl offset.toNat d.params d.bank
        return (ret, { d with bank := bank })

/-- A start of the program: the page is what the flash holds, the static variables are zero. -/
def boot (page : FlashPage) : FlashDriver where
  bank := ⟨page, false⟩
  params := .zero
  writeLimit := 0

end FlashDriver

end TurningPoint
