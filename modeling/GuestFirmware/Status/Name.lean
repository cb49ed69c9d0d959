import GuestFirmware.Hex
import GuestFirmware.Status

/-!
# Names of statuses

The interface names the statuses below.  `Status.text` is the name of a status
in messages, or its code when it has none, and `Status.ofText` reads either.
-/

namespace GuestFirmware

namespace Status

/-- The errors that have a name, by number. -/
def errorNames : List (UInt64 × String) :=
  [(1, "LOAD_ERROR"), (2, "INVALID_PARAMETER"), (3, "UNSUPPORTED"), (4, "BAD_BUFFER_SIZE"),
    (5, "BUFFER_TOO_SMALL"), (6, "NOT_READY"), (7, "DEVICE_ERROR"), (8, "WRITE_PROTECTED"),
    (9, "OUT_OF_RESOURCES"), (10, "VOLUME_CORRUPTED"), (11, "VOLUME_FULL"), (12, "NO_MEDIA"),
    (13, "MEDIA_CHANGED"), (14, "NOT_FOUND"), (15, "ACCESS_DENIED"), (16, "NO_RESPONSE"),
    (17, "NO_MAPPING"), (18, "TIMEOUT"), (19, "NOT_STARTED"), (20, "ALREADY_STARTED"),
    (21, "ABORTED"), (22, "ICMP_ERROR"), (23, "TFTP_ERROR"), (24, "PROTOCOL_ERROR"),
    (25, "INCOMPATIBLE_VERSION"), (26, "SECURITY_VIOLATION"), (27, "CRC_ERROR"),
    (28, "END_OF_MEDIA"), (31, "END_OF_FILE"), (32, "INVALID_LANGUAGE"),
    (33, "COMPROMISED_DATA"), (34, "IP_ADDRESS_CONFLICT"), (35, "HTTP_ERROR")]

/-- The warnings that have a name, and success. -/
def warningNames : List (Status × String) :=
  [(success, "SUCCESS"), (⟨1⟩, "WARN_UNKNOWN_GLYPH"), (⟨2⟩, "WARN_DELETE_FAILURE"),
    (⟨3⟩, "WARN_WRITE_FAILURE"), (⟨4⟩, "WARN_BUFFER_TOO_SMALL"), (⟨5⟩, "WARN_STALE_DATA")]

/-- All statuses that have a name. -/
def names : List (Status × String) :=
  warningNames ++ errorNames.map fun (number, name) => (error number, name)

/-- The name of a status, or its code in lower-case hexadecimal digits. -/
def text (status : Status) : String :=
  match names.find? fun (named, _) => named == status with
  | some (_, name) => name
  | none => "0x" ++ String.ofList (Nat.toDigits 16 status.code.toNat)

/-- The status with a name, or with a code behind `0x`. -/
def ofText (text : String) : Option Status :=
  match names.find? fun (_, name) => name == text with
  | some (status, _) => some status
  | none =>
    match text.toList with
    | '0' :: 'x' :: digits => (Hex.number digits).map fun code => ⟨UInt64.ofNat code⟩
    | _ => none

end Status

namespace ComponentError

/-- The name of a cause. -/
def text : ComponentError → String
  | invalidParameter => "InvalidParameter"
  | unsupported => "Unsupported"
  | notFound => "NotFound"
  | outOfResources => "OutOfResources"
  | alreadyStarted => "AlreadyStarted"
  | notStarted => "NotStarted"
  | bufferTooSmall => "BufferTooSmall"
  | volumeCorrupted => "VolumeCorrupted"
  | deviceError => "DeviceError"

/-- The cause with a name. -/
def ofText (text : String) : Option ComponentError :=
  (deviceError :: named).find? fun cause => cause.text == text

@[simp] theorem ofText_text (cause : ComponentError) : ofText cause.text = some cause := by
  cases cause <;> decide

end ComponentError

end GuestFirmware
