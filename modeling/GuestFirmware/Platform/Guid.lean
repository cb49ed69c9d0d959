/-!
# Identifiers of protocols and files

Protocols, and files on firmware volumes, are named by GUIDs.  `Guid.text` is
the form in messages.  The GUIDs that the firmware uses are listed below it.
-/

namespace GuestFirmware

/-- A globally unique identifier. -/
structure Guid where
  first : UInt32
  second : UInt16
  third : UInt16
  fourth : UInt16
  /-- The last six bytes, as one number. -/
  node : UInt64
  deriving DecidableEq, Repr

namespace Guid

/-- A number in upper-case hexadecimal digits, zeros in front up to a width. -/
def hexField (width value : Nat) : String :=
  let digits := (Nat.toDigits 16 value).map Char.toUpper
  String.ofList (List.replicate (width - digits.length) '0' ++ digits)

/-- The form in messages: five groups of upper-case hexadecimal digits. -/
def text (guid : Guid) : String :=
  String.intercalate "-"
    [hexField 8 guid.first.toNat, hexField 4 guid.second.toNat, hexField 4 guid.third.toNat,
      hexField 4 guid.fourth.toNat, hexField 12 guid.node.toNat]

/-- The protocol that takes ACPI tables. -/
def acpiTable : Guid := ⟨0xFFE06BDD, 0x6107, 0x46A6, 0x7BB2, 0x5A9C7EC5275C⟩

/-- The protocol that reaches a PCI device. -/
def pciIo : Guid := ⟨0x4CF5B200, 0x68B8, 0x4CA5, 0x9EEC, 0xB23E3F50029A⟩

/-- The protocol of the platform timer. -/
def timerArch : Guid := ⟨0x26BACCB3, 0x6F42, 0x11D4, 0xBCE7, 0x0080C73C8881⟩

/-- The protocol that hooks processor interrupts. -/
def cpuArch : Guid := ⟨0x26BACCB1, 0x6F42, 0x11D4, 0xBCE7, 0x0080C73C8881⟩

/-- The protocol of a graphics output. -/
def graphicsOutput : Guid := ⟨0x9042A9DE, 0x23DC, 0x4A38, 0x96FB, 0x7ADED080516A⟩

/-- The protocol by which a driver is bound to controllers. -/
def driverBinding : Guid := ⟨0x18A031AB, 0xB443, 0x4D1A, 0xA5C0, 0x0C09261E9F71⟩

/-- The protocol that reads a firmware volume. -/
def firmwareVolume : Guid := ⟨0x220E73B6, 0x6BDB, 0x4413, 0x8405, 0xB974B108619A⟩

/-- The file that holds the video BIOS table. -/
def videoBiosFile : Guid := ⟨0x1647B4F3, 0x3E8A, 0x4FEF, 0x81C8, 0x328ED647AB1A⟩

/-- The protocol that answers a graphics driver about its platform. -/
def graphicsPolicy : Guid := ⟨0xEC2E931B, 0x3281, 0x48A5, 0x8107, 0xDF8A8BED3C5D⟩

end Guid

end GuestFirmware
