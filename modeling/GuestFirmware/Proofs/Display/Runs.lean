import GuestFirmware.Proofs.Display.Exits
import Mathlib.Data.List.Induction

/-!
# Runs of the display driver

A run is a list of calls of the binding, made one after the other on one
platform.  `after` is the platform at the end and `eventsOf` is what the calls
added to the trace.  Both split where the list of calls splits (`after_append`,
`eventsOf_append`), so that a run can be followed call by call.  `exited_call`
gives the exit of each call.

`unstarted` is where a run begins: a platform with nothing on its trace and a
driver that holds no instance.  The boot services and the device are arbitrary
there, and with them everything that they will answer.
-/

namespace GuestFirmware.Display

variable {δ : Type}

/-- The platform after calls of the binding. -/
def after (pci : PciAccess δ) (calls : List BindingCall)
    (platform : Platform (DisplayState δ) DisplayEvent) :
    Platform (DisplayState δ) DisplayEvent :=
  ((runBindingCalls pci calls).run platform).2

/-- The events of calls of the binding. -/
def eventsOf (pci : PciAccess δ) (calls : List BindingCall)
    (platform : Platform (DisplayState δ) DisplayEvent) : List (Event DisplayEvent) :=
  (after pci calls platform).trace.drop platform.trace.length

/-- A platform on which nothing was done yet. -/
def unstarted (services : Services) (config : DisplayConfig) (image agent : Handle)
    (hardware : δ) : Platform (DisplayState δ) DisplayEvent where
  services := services
  device := { driver := { config := config, image := image, agent := agent }, hardware := hardware }

variable (pci : PciAccess δ)

theorem after_nil (platform : Platform (DisplayState δ) DisplayEvent) :
    after pci [] platform = platform := rfl

theorem after_cons (made : BindingCall) (rest : List BindingCall)
    (platform : Platform (DisplayState δ) DisplayEvent) :
    after pci (made :: rest) platform = after pci rest ((made.run pci).run platform).2 := rfl

theorem after_append (front back : List BindingCall)
    (platform : Platform (DisplayState δ) DisplayEvent) :
    after pci (front ++ back) platform = after pci back (after pci front platform) := by
  induction front generalizing platform with
  | nil => rfl
  | cons made rest ih => exact ih _

/-- The trace only grows. -/
theorem trace_after (calls : List BindingCall)
    (platform : Platform (DisplayState δ) DisplayEvent) :
    (after pci calls platform).trace = platform.trace ++ eventsOf pci calls platform := by
  suffices h : ∃ events, (after pci calls platform).trace = platform.trace ++ events by
    obtain ⟨events, h⟩ := h
    rw [eventsOf, h, List.drop_left]
  induction calls generalizing platform with
  | nil => exact ⟨[], (List.append_nil _).symm⟩
  | cons made rest ih =>
    obtain ⟨front, hfront⟩ := exit_run pci made platform
    obtain ⟨back, hback⟩ := ih ((made.run pci).run platform).2
    refine ⟨front ++ back, ?_⟩
    rw [after_cons, hback, hfront.logged.trace, List.append_assoc]

theorem eventsOf_append (front back : List BindingCall)
    (platform : Platform (DisplayState δ) DisplayEvent) :
    eventsOf pci (front ++ back) platform =
      eventsOf pci front platform ++ eventsOf pci back (after pci front platform) := by
  apply List.append_cancel_left
  rw [← trace_after, after_append, trace_after pci back, trace_after pci front, List.append_assoc]

/-- Each call of a run takes an exit. -/
theorem exited_call (made : BindingCall) (platform : Platform (DisplayState δ) DisplayEvent) :
    Exited made ((made.run pci).run platform).1 platform (after pci [made] platform)
      (eventsOf pci [made] platform) := by
  obtain ⟨events, h⟩ := exit_run pci made platform
  have hafter : after pci [made] platform = ((made.run pci).run platform).2 := rfl
  rw [eventsOf, hafter, h.logged.drop_trace]
  exact h

end GuestFirmware.Display
