import TurningPoint.Rpc.Host

/-! `lcd.c`: the mode of the robot, selected on the display and kept in flash. -/

universe u

namespace TurningPoint

abbrev LcdMode := Int

abbrev kLcdModeSetup : LcdMode := -1
abbrev kLcdMode0 : LcdMode := 0
abbrev kLcdModeNumber : LcdMode := 10

inductive VexLcdButton
  | none | left | center | leftCenter | right | leftRight | centerRight | leftCenterRight
  deriving DecidableEq

abbrev magicNumber : UInt8 := 13

structure Lcd where
  display : UInt8
  mode : LcdMode
  buttons : VexLcdButton
  userp : UserParam

structure Robot (ρ : Type u) extends Host ρ where
  lcd : Lcd

variable {ρ : Type u}

def Robot.onHost (f : Host ρ → Host ρ) (r : Robot ρ) : Robot ρ := ⟨f r.toHost, r.lcd⟩

def lcdSetup (display : UInt8) (r : Robot ρ) : Robot ρ :=
  let (userp, h) := readFlash r.toHost
  ⟨h, { r.lcd with display := display, mode := kLcdModeSetup, userp := userp }⟩

def lcdInit (r : Robot ρ) : Robot ρ :=
  let r := { r with lcd.mode := kLcdMode0 }
  let (magic, h) := loadData r.lcd.userp 0 r.toHost
  let (mode, h) := loadData r.lcd.userp 1 h
  if magic = magicNumber ∧ (mode.toNat : Int) < kLcdModeNumber then
    ⟨h, { r.lcd with mode := mode.toNat }⟩
  else ⟨storeData r.lcd.userp 1 0 (storeData r.lcd.userp 0 0 h), r.lcd⟩

def lcdStep (buttons : VexLcdButton) (mode : LcdMode) : LcdMode :=
  if buttons = .right then
    if mode + 1 ≥ kLcdModeNumber then kLcdMode0 else mode + 1
  else if buttons = .left then
    if mode - 1 < kLcdMode0 then kLcdModeNumber - 1 else mode - 1
  else mode

/-- A call that finds the buttons as given.  What it shows on the display, and how it waits for them
to be released, is left out. -/
def lcdRead (buttons : VexLcdButton) (r : Robot ρ) : Robot ρ :=
  let r := { r with lcd.buttons := buttons }
  if buttons = .right ∨ buttons = .left then
    let r := { r with lcd.mode := lcdStep buttons r.lcd.mode, lcd.buttons := .none }
    let h := storeData r.lcd.userp 0 magicNumber r.toHost
    let h := storeData r.lcd.userp 1 (UInt8.ofInt r.lcd.mode) h
    ⟨writeFlash r.lcd.userp h, r.lcd⟩
  else r

end TurningPoint
