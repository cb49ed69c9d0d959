import GuestFirmware.Timer.BitField

/-!
# The local APIC

The timer tick comes from the local APIC of the processor.  This module names
the registers that the timer uses, their fields, and the state of the APIC
together with the time stamp counter (TSC) that its deadline mode compares
with.
-/

namespace GuestFirmware.Timer

/-! ## Registers -/

/-- Offset of the register that ends an interrupt. -/
def endOfInterrupt : UInt32 := 0xB0

/-- Offset of the spurious interrupt vector register. -/
def spuriousVector : UInt32 := 0xF0

/-- Offset of the timer entry of the local vector table. -/
def lvtTimer : UInt32 := 0x320

/-- The timer mode that compares the TSC with a deadline. -/
def deadlineMode : UInt32 := 2

/-! ## Fields -/

namespace LvtTimer

def vector : BitField := { shift := 0, width := 8 }
def mask : BitField := { shift := 16, width := 1 }
def mode : BitField := { shift := 17, width := 2 }

/-- The timer interrupt is masked. -/
def isMasked (bits : UInt32) : Bool :=
  mask.flag bits

/-- The register with the timer interrupt masked or not. -/
def setMasked (bits : UInt32) (masked : Bool) : UInt32 :=
  mask.setFlag bits masked

/-- The register for a masked timer in deadline mode. -/
def configure (bits : UInt32) (interrupt : UInt8) : UInt32 :=
  vector.set (setMasked (mode.set bits deadlineMode) true) interrupt.toUInt32

end LvtTimer

namespace SpuriousVector

def softwareEnable : BitField := { shift := 8, width := 1 }

/-- The APIC is enabled by software. -/
def isEnabled (bits : UInt32) : Bool :=
  softwareEnable.flag bits

/-- The register with the APIC enabled. -/
def enable (bits : UInt32) : UInt32 :=
  softwareEnable.setFlag bits true

end SpuriousVector

/-! ## State -/

/-- The local APIC and the time stamp counter. -/
structure LocalApic where
  /-- The value that each register holds. -/
  registers : UInt32 → UInt32 := fun _ => 0
  /-- The processor offers the deadline mode. -/
  hasDeadlineMode : Bool := true
  /-- The reading of the TSC at its `n`-th read. -/
  tscAt : Nat → UInt64 := fun _ => 0
  /-- How often the TSC was read. -/
  tscReads : Nat := 0
  /-- The deadline that was written last. -/
  deadline : Option UInt64 := none

namespace LocalApic

/-- The readings of a TSC that moves on by the same step at each of them. -/
def steadyTsc (start step : UInt64) : Nat → UInt64 :=
  fun reading => start + UInt64.ofNat reading * step

/-- Every register holds what was written to it last. -/
def write (apic : LocalApic) (offset value : UInt32) : LocalApic :=
  { apic with
    registers := fun register => if register = offset then value else apic.registers register }

@[simp] theorem registers_write_self (apic : LocalApic) (offset value : UInt32) :
    (apic.write offset value).registers offset = value := by
  simp [write]

theorem registers_write_of_ne (apic : LocalApic) {offset register : UInt32} (value : UInt32)
    (h : register ≠ offset) :
    (apic.write offset value).registers register = apic.registers register := by
  simp [write, h]

end LocalApic

end GuestFirmware.Timer
