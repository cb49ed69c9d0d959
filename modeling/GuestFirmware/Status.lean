/-!
# Status codes and component errors

A service of the firmware answers with a `Status`, a 64-bit word.  A component
answers its dispatcher with a `ComponentError`, a short list of causes.
`ComponentError.ofStatus` maps a failing status to its cause, and
`ComponentError.status` is the status of the same name.

The lemmas say that the two maps agree (`ofStatus_status`) and that the status
of a cause is an error (`isError_status`).
-/

namespace GuestFirmware

/-- The answer of a firmware service. -/
structure Status where
  /-- The word that crosses the interface. -/
  code : UInt64
  deriving DecidableEq, Repr, Inhabited

namespace Status

/-- A status is an error when its two highest bits are `10`.  Warnings and the
codes reserved for other parties are not errors. -/
def isError (status : Status) : Bool :=
  status.code >>> 62 == 2

/-- The error with the given number. -/
def error (number : UInt64) : Status :=
  ⟨0x8000000000000000 ||| number⟩

/-- The call did what was asked. -/
def success : Status := ⟨0⟩

/-- An argument of the call is not acceptable. -/
def invalidParameter : Status := error 2

/-- The call is not offered here. -/
def unsupported : Status := error 3

/-- A buffer is too short for the answer. -/
def bufferTooSmall : Status := error 5

/-- The hardware failed. -/
def deviceError : Status := error 7

/-- Memory or another pool ran out. -/
def outOfResources : Status := error 9

/-- Data in memory or on a volume is not consistent. -/
def volumeCorrupted : Status := error 10

/-- Nothing matches the request. -/
def notFound : Status := error 14

/-- The object of the call has not been started. -/
def notStarted : Status := error 19

/-- The object of the call has been started before. -/
def alreadyStarted : Status := error 20

/-- A call whose answer is `status` returns a value exactly when the status is
not an error. -/
def guard {α : Type} (status : Status) (value : α) : Except Status α :=
  if status.isError then .error status else .ok value

theorem guard_of_error {α : Type} {status : Status} (herror : status.isError = true) (value : α) :
    status.guard value = .error status :=
  if_pos herror

theorem guard_of_success {α : Type} {status : Status} (hsuccess : status.isError = false)
    (value : α) : status.guard value = .ok value := by
  rw [guard, hsuccess]
  rfl

/-- The status of a call that returns nothing. -/
def ofResult : Except Status Unit → Status
  | .ok _ => success
  | .error status => status

end Status

/-- Why a component failed, as its dispatcher sees it. -/
inductive ComponentError
  | invalidParameter
  | unsupported
  | notFound
  | outOfResources
  | alreadyStarted
  | notStarted
  | bufferTooSmall
  | volumeCorrupted
  | deviceError
  deriving DecidableEq, Repr

namespace ComponentError

/-- The status with the name of the cause. -/
def status : ComponentError → Status
  | invalidParameter => .invalidParameter
  | unsupported => .unsupported
  | notFound => .notFound
  | outOfResources => .outOfResources
  | alreadyStarted => .alreadyStarted
  | notStarted => .notStarted
  | bufferTooSmall => .bufferTooSmall
  | volumeCorrupted => .volumeCorrupted
  | deviceError => .deviceError

/-- Every cause but `deviceError`, which stands for all other statuses. -/
def named : List ComponentError :=
  [invalidParameter, unsupported, notFound, outOfResources, alreadyStarted,
    notStarted, bufferTooSmall, volumeCorrupted]

/-- The cause with the name of a status.  A status that names no cause is a
`deviceError`. -/
def ofStatus (status : Status) : ComponentError :=
  (named.find? fun cause => cause.status == status).getD deviceError

@[simp] theorem ofStatus_status (cause : ComponentError) : ofStatus cause.status = cause := by
  cases cause <;> rfl

@[simp] theorem isError_status (cause : ComponentError) : cause.status.isError = true := by
  cases cause <;> rfl

end ComponentError

end GuestFirmware
