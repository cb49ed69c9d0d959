import GuestFirmware.Proofs.Timer.Visits
import GuestFirmware.Proofs.Display.Drawing
import GuestFirmware.Proofs.Display.Exits

/-!
# Calls at a raised level

The timer works at the level that keeps interrupts off, the display driver
starts and stops at the level of callbacks, and pixels are moved at the level of
notifications.  Each of these calls is `RaisedFor` its level: everything that it
does happens between raising the level and setting it back, and when the level
is set back no lock is held.  `calls_raisedFor` is the result, for every state
that a call can be made in and every way it can end.

* The timer.  An opening is balanced (`balanced_opening`), and so is a stretch of
  calls inside calls (`Ran.balanced`).
* The display driver.  An exit of a start or a stop does nothing about levels and
  locks between taking the lock and giving it up (`Exit.locked_plain`).
* Transfers.  The events at the raised level say what is drawn (`drawnBy`), so no pixel
  is written outside it.  A request that fails one of the checks in front of a transfer
  does nothing, also nothing about the level.
-/

namespace GuestFirmware

open PlatformM

/-! ## The timer -/

namespace Timer

variable {config : TimerConfig} {deliver : Handler → UInt64 → TimerM Unit} {level : Tpl}
  {timer : ApicTimer}

theorem balanced_slotVisit : Balanced level slotVisit := by
  show Balanced level ([.acquire .timerHandler] ++ [] ++ [.release .timerHandler])
  exact .holding .timerHandler rfl

/-- The slot is given up before the handler is notified. -/
theorem balanced_noticed (timer : ApicTimer) (period : UInt64) :
    Balanced level (noticed timer period) := by
  refine balanced_slotVisit.append (.of_plain ?_)
  cases timer.handler <;> rfl

theorem balanced_opening {made : TimerCall} {own : List (Event TimerEvent)}
    {answer : Except Status Unit} {target : Option (Handler × UInt64)} {begun : ApicTimer}
    (h : Opening config timer made own answer target begun) : Balanced level own := by
  cases h with
  | registered hfits => exact balanced_slotVisit
  | occupied hoccupied => exact balanced_slotVisit
  | vacant hvacant => exact balanced_slotVisit
  | disarmed => exact .of_plain rfl
  | programmed hperiod hnext => exact .of_plain rfl
  | unsupported hmasked => exact .nil
  | simulated hunmasked => exact balanced_noticed timer timer.period
  | idleTick hperiod => exact .append (.of_plain rfl) (balanced_noticed timer timer.period)
  | tick hperiod hnext => exact .append (.of_plain rfl) (balanced_noticed timer timer.period)

/-- Calls inside calls are balanced, however deep they go. -/
theorem Ran.balanced {events : List (Event TimerEvent)} {visits : List Visit} {after : ApicTimer}
    (h : Ran config level timer events visits after) : Balanced level events := by
  induction h with
  | idle => exact .nil
  | reported status => exact .of_plain rfl
  | trans hfront hback ihfront ihback => exact ihfront.append ihback
  | quiet hopening => exact (balanced_opening hopening).raising
  | notifying hopening hinner ih => exact ((balanced_opening hopening).append ih).raising

theorem raisedFor_call (hdeliver : Delivers config deliver) (made : TimerCall)
    (before : TimerPlatform) :
    ∃ inner, RaisedFor .high before ((made.run config deliver).run before).2 inner := by
  obtain ⟨own, answer, target, timer, hopening, hrun⟩ := opened_call config deliver before made
  rw [hrun]
  cases target with
  | none =>
    refine ⟨own, ?_, balanced_opening hopening, rfl⟩
    show before.trace ++ _ :: own ++ [_] = before.trace ++ raisedTo _ _ own
    simp [raisedTo]
  | some target =>
    obtain ⟨handler, period⟩ := target
    obtain ⟨inner, visits, hinner⟩ := hdeliver handler period (opened own timer before)
    refine ⟨own ++ inner, ?_, (balanced_opening hopening).append hinner.ran.balanced, rfl⟩
    show ((deliver handler period).run (opened own timer before)).2.trace ++ [_] = _
    rw [hinner.trace]
    show before.trace ++ _ :: own ++ inner ++ [_] = before.trace ++ raisedTo _ _ (own ++ inner)
    simp [raisedTo]

end Timer

namespace Display

variable {δ : Type}

/-! ## The display driver -/

/-- A start and a stop do nothing about levels and locks but at their beginning
and at their end. -/
theorem Exit.locked_plain {driver : DisplayDriver} {interface next : Interface} {previous : Tpl}
    {made : BindingCall} {result : Except Status Unit} {events : List (Event DisplayEvent)}
    {held : Option Started}
    (h : Exit driver interface previous made result events held next)
    (hmade : ∀ controller, made ≠ .supported controller) :
    ∃ inner, events = locked previous inner ∧ inner.all Event.plain = true := by
  have hasked : ∀ status (reads : List DisplayEvent),
      (asked status reads).all Event.plain = true := by
    intro status reads
    simp [Event.plain]
  cases h with
  | refused herror => exact absurd rfl (hmade _)
  | examined hopened hreads => exact absurd rfl (hmade _)
  | busy hstarted => exact ⟨_, rfl, rfl⟩
  | notOpened hidle herror => exact ⟨_, rfl, rfl⟩
  | notInstalled hidle hopened herror => exact ⟨_, rfl, rfl⟩
  | notBroughtUp hidle hopened hhandle hinstalled hreads =>
    refine ⟨_, rfl, ?_⟩
    rw [List.all_append, List.all_append, hasked]
    rfl
  | started hidle hopened hhandle hinstalled hreads hmode hbase =>
    refine ⟨_, rfl, ?_⟩
    rw [List.all_append, hasked]
    rfl
  | idle hother => exact ⟨_, rfl, rfl⟩
  | notWithdrawn hheld herror => exact ⟨_, rfl, rfl⟩
  | stopped hheld hwithdrawn => exact ⟨_, rfl, rfl⟩

theorem raisedFor_binding (pci : PciAccess δ) (made : BindingCall)
    (hmade : ∀ controller, made ≠ .supported controller)
    (before : Platform (DisplayState δ) DisplayEvent) :
    ∃ inner, RaisedFor .callback before ((made.run pci).run before).2 inner := by
  obtain ⟨events, hexited⟩ := exit_run pci made before
  obtain ⟨inner, rfl, hplain⟩ := hexited.exit.locked_plain hmade
  refine ⟨[.acquire .startedDisplay] ++ inner ++ [.release .startedDisplay], ?_,
    .holding .startedDisplay hplain, ?_⟩
  · rw [hexited.logged.trace]
    simp [bracketed, raisedTo]
  · rw [hexited.logged.level]
    simp [bracketed, Event.levelAfter]

/-! ## Transfers -/

/-- The pixels in memory after an event. -/
def drawnBy (memory : PixelMemory) : Event DisplayEvent → PixelMemory
  | .device access => access.drawn memory
  | _ => memory

theorem raisedFor_blt {output : GraphicsOutput} {request : Request} {hasBuffer : Bool}
    {before : Platform (DisplayState δ) DisplayEvent}
    (hadmits : output.Admits request hasBuffer before.device.memory.video) :
    let ended := (output.blt request hasBuffer).run before
    ∃ inner, RaisedFor .notify before ended.2 inner ∧
      ended.2.device = { before.device with
        memory := inner.foldl drawnBy before.device.memory } := by
  intro ended
  obtain ⟨frame, hframe⟩ := hadmits.framed
  obtain ⟨-, accesses, htransferred⟩ := GraphicsOutput.transferred_blt hadmits hframe
  refine ⟨accesses.map Event.device, htransferred.raised, ?_⟩
  rw [List.foldl_map]
  exact htransferred.device

theorem blt_refused {output : GraphicsOutput} {request : Request} {hasBuffer : Bool}
    {before : Platform (DisplayState δ) DisplayEvent}
    (hrefused : ¬ output.Admits request hasBuffer before.device.memory.video) :
    ∃ status, (output.blt request hasBuffer).run before = ((.error status, output), before) := by
  by_cases hbase : output.frameBufferBase = 0
  · exact ⟨_, GraphicsOutput.blt_of_detached hbase⟩
  · exact ⟨_, GraphicsOutput.blt_of_not_admits hbase hrefused⟩

end Display

/-! ## Every call -/

open Timer Display

/-- Every call of the timer raises the level to the high one, every start and
stop of the display driver to that of callbacks, and every transfer that is
admitted to that of notifications.  Each of them sets it back to the level it was
called at, gives up its lock before it does so, and does everything else in
between.  The pixels after a transfer are those that the accesses in between wrote, and it
changes nothing else of the display.  A transfer that is not admitted leaves the platform
alone, the pixels included.  Handlers may call the timer in any way and to any depth. -/
theorem calls_raisedFor :
    (∀ config behaviour depth (made : TimerCall) before, ∃ inner, RaisedFor .high before
      ((made.run config (deliverUpTo config behaviour depth)).run before).2 inner) ∧
    (∀ (δ : Type) (pci : PciAccess δ) controller before,
      (∃ inner, RaisedFor .callback before ((start pci controller).run before).2 inner) ∧
      ∃ inner, RaisedFor .callback before ((stop controller : DisplayM δ _).run before).2 inner) ∧
    ∀ (δ : Type) (output : GraphicsOutput) request hasBuffer
        (before : Platform (DisplayState δ) DisplayEvent),
      let ended := (output.blt request hasBuffer).run before
      (output.Admits request hasBuffer before.device.memory.video → ∃ inner,
        RaisedFor .notify before ended.2 inner ∧
        ended.2.device = { before.device with
          memory := inner.foldl drawnBy before.device.memory }) ∧
      (¬ output.Admits request hasBuffer before.device.memory.video →
        ∃ status, ended = ((.error status, output), before)) := by
  refine ⟨?_, ?_, ?_⟩
  · intro config behaviour depth made before
    exact raisedFor_call (delivers_deliverUpTo config behaviour depth) made before
  · intro δ pci controller before
    exact ⟨raisedFor_binding pci (.start controller) (fun _ => nofun) before,
      raisedFor_binding pci (.stop controller) (fun _ => nofun) before⟩
  · intro δ output request hasBuffer before ended
    exact ⟨raisedFor_blt, blt_refused⟩

/-- An output of one pixel admits that it is filled, and the pixel is written at the level
of notifications. -/
theorem calls_raisedFor_onePixel :
    let output : GraphicsOutput :=
      { maxMode := 1, mode := 0, frameBufferBase := 0x20000000, frameBufferSize := 4
        info := { horizontal := 1, vertical := 1, pixelsPerScanLine := 1 } }
    let request : Request := ⟨.videoFill, 0, 0, 0, 0, 1, 1, 0⟩
    let before : Platform (DisplayState Unit) DisplayEvent :=
      { services := {}, device := { hardware := (), memory := ⟨#[0], #[7]⟩ } }
    let ended := (output.blt request true).run before
    output.Admits request true before.device.memory.video ∧
      ended.2.device.memory = ⟨#[7], #[7]⟩ ∧
      ∃ inner, RaisedFor .notify before ended.2 inner ∧
        ⟨#[7], #[7]⟩ = inner.foldl drawnBy ⟨#[0], #[7]⟩ := by
  intro output request before ended
  have hadmits : output.Admits request true before.device.memory.video :=
    ⟨by decide, ⟨1, rfl, fun _ => rfl⟩, ⟨_, rfl⟩⟩
  have hfilled : ended.2.device.memory = ⟨#[7], #[7]⟩ := by rfl
  obtain ⟨inner, hraised, hdevice⟩ :=
    (calls_raisedFor.2.2 Unit output request true before).1 hadmits
  refine ⟨hadmits, hfilled, inner, hraised, ?_⟩
  rw [← hfilled]
  exact congrArg DisplayState.memory hdevice

end GuestFirmware
