import GuestFirmware.Display.MediatedDevice
import GuestFirmware.Proofs.Display.Runs
import Mathlib.Data.List.Nodup

/-!
# Outputs that stay behind

An output that is installed must live as long as others can reach it.  `outputs`
reads the identities of the installed outputs off a trace.  A stop keeps the
instance when the output cannot be uninstalled, and a start does not: the
instance is gone, and its output stays behind.

`LeftBehindBy` are the outputs that a run lost in this way.  `Tracked` is the
invariant: the installed outputs are that of the held instance and those left
behind, each once.  `outputs_held_iff` is the result.
-/

namespace GuestFirmware.Display

open PlatformM

variable {δ : Type}

/-! ## Installed outputs -/

/-- The identities of the installed outputs after an event. -/
def outputsAfter (outputs : List Interface) : Event DisplayEvent → List Interface
  | .service (.install _ protocol interface _ status) =>
    if protocol = .graphicsOutput ∧ status.isError = false then interface :: outputs else outputs
  | .service (.uninstall _ protocol interface _ status) =>
    if protocol = .graphicsOutput ∧ status.isError = false then outputs.erase interface
    else outputs
  | _ => outputs

/-- The identities of the outputs that were installed and not uninstalled. -/
def outputs (trace : List (Event DisplayEvent)) : List Interface :=
  trace.foldl outputsAfter []

/-- The call is a start that could not uninstall the output. -/
def LeftBehind (made : BindingCall) (events : List (Event DisplayEvent))
    (interface : Interface) : Prop :=
  ∃ controller known status, made = .start controller ∧
    withdrawn controller interface known status ∈ events ∧ status.isError = true

theorem outputsAfter_device (accesses : List DisplayEvent) (before : List Interface) :
    (accesses.map Event.device).foldl outputsAfter before = before := by
  induction accesses with
  | nil => rfl
  | cons access rest ih => exact ih

/-- What a call does to the installed outputs of a driver. -/
inductive Change (driver : DisplayDriver) (interface : Interface) (made : BindingCall)
    (events : List (Event DisplayEvent)) : Option Started → Interface → Prop
  /-- They are what they were, and so is the instance. -/
  | kept {held next} (hheld : held = driver.started) (hnext : interface ≤ next)
      (houtputs : ∀ before, events.foldl outputsAfter before = before)
      (hnone : ∀ shown, ¬ LeftBehind made events shown) :
      Change driver interface made events held next
  /-- A new output belongs to no instance. -/
  | leftBehind (hidle : driver.started = none)
      (houtputs : ∀ before, events.foldl outputsAfter before = interface :: before)
      (hleft : ∀ shown, LeftBehind made events shown ↔ shown = interface) :
      Change driver interface made events none (interface + 1)
  /-- A new output belongs to a new instance. -/
  | started {held : Started} (hidle : driver.started = none)
      (hinterface : held.interface = interface)
      (houtputs : ∀ before, events.foldl outputsAfter before = interface :: before)
      (hnone : ∀ shown, ¬ LeftBehind made events shown) :
      Change driver interface made events (some held) (interface + 1)
  /-- The output of the instance goes with it. -/
  | stopped {held : Started} (hheld : driver.started = some held)
      (houtputs : ∀ before, events.foldl outputsAfter before = before.erase held.interface)
      (hnone : ∀ shown, ¬ LeftBehind made events shown) :
      Change driver interface made events none interface

section Exit

variable {driver : DisplayDriver} {interface next : Interface} {previous : Tpl}
  {made : BindingCall} {result : Except Status Unit} {events : List (Event DisplayEvent)}
  {held : Option Started}

theorem change_exit (h : Exit driver interface previous made result events held next) :
    Change driver interface made events held next := by
  cases h with
  | refused herror =>
    refine .kept rfl (Nat.le_refl _) ?_ ?_
    · simp [outputsAfter]
    · simp [LeftBehind]
  | examined hopened hreads =>
    refine .kept rfl (Nat.le_refl _) ?_ ?_
    · simp [outputsAfter, outputsAfter_device]
    · simp [LeftBehind]
  | busy hstarted =>
    refine .kept rfl (Nat.le_refl _) ?_ ?_
    · simp [bracketed, outputsAfter]
    · simp [bracketed, LeftBehind]
  | notOpened hidle herror =>
    refine .kept hidle.symm (Nat.le_refl _) ?_ ?_
    · simp [bracketed, outputsAfter]
    · simp [bracketed, LeftBehind]
  | notInstalled hidle hopened herror =>
    refine .kept hidle.symm (Nat.le_succ _) ?_ ?_
    · simp [bracketed, outputsAfter, herror]
    · simp [bracketed, LeftBehind]
  | @notBroughtUp controller opening handle installing asking reads known withdrawing closing
      status hidle hopened hhandle hinstalled hreads =>
    cases hwithdrawn : withdrawing.isError with
    | false =>
      refine .kept hidle.symm (Nat.le_succ _) ?_ ?_
      · simp [bracketed, outputsAfter, outputsAfter_device, hinstalled, hwithdrawn]
      · simp [bracketed, LeftBehind, hwithdrawn]
    | true =>
      refine .leftBehind hidle ?_ ?_
      · simp [bracketed, outputsAfter, outputsAfter_device, hinstalled, hwithdrawn]
      · intro shown
        constructor
        · rintro ⟨other, seen, failing, -, hmem, -⟩
          simp [bracketed] at hmem
          exact hmem.2.1
        · rintro rfl
          refine ⟨controller, known, withdrawing, rfl, ?_, hwithdrawn⟩
          simp [bracketed]
  | started hidle hopened hhandle hinstalled hreads hmode hbase =>
    refine .started hidle rfl ?_ ?_
    · simp [bracketed, outputsAfter, outputsAfter_device, hinstalled]
    · simp [bracketed, LeftBehind]
  | idle hother =>
    refine .kept rfl (Nat.le_refl _) ?_ ?_
    · simp [bracketed, outputsAfter]
    · simp [bracketed, LeftBehind]
  | notWithdrawn hstarted herror =>
    refine .kept hstarted.symm (Nat.le_refl _) ?_ ?_
    · simp [bracketed, outputsAfter, herror]
    · simp [bracketed, LeftBehind]
  | stopped hstarted hwithdrawn =>
    refine .stopped hstarted ?_ ?_
    · simp [bracketed, outputsAfter, hwithdrawn]
    · simp [bracketed, LeftBehind]

end Exit

/-! ## Which outputs are installed -/

/-- The installed outputs are that of the held instance and those left behind,
each once, and the next output is another one. -/
structure Tracked (installed : List Interface) (held : Option Started) (next : Interface)
    (left : Interface → Prop) : Prop where
  fresh : ∀ interface ∈ installed, interface < next
  nodup : installed.Nodup
  mem_iff : ∀ interface, interface ∈ installed ↔
    (∃ shown, held = some shown ∧ shown.interface = interface) ∨ left interface
  apart : ∀ shown, held = some shown → ¬ left shown.interface

theorem tracked_change {installed : List Interface} {driver : DisplayDriver} {next : Interface}
    {left : Interface → Prop} {made : BindingCall} {events : List (Event DisplayEvent)}
    {held : Option Started} {later : Interface}
    (h : Tracked installed driver.started next left)
    (hchange : Change driver next made events held later) :
    Tracked (events.foldl outputsAfter installed) held later
      (fun interface => left interface ∨ LeftBehind made events interface) := by
  -- A new output is not mistaken for an old one: its identity was never used.
  have hnew : next ∉ installed := fun hmem => Nat.lt_irrefl _ (h.fresh next hmem)
  cases hchange with
  | kept hheld hnext houtputs hnone =>
    rw [houtputs, hheld]
    refine ⟨?_, h.nodup, ?_, ?_⟩
    · intro interface hmem
      exact Nat.lt_of_lt_of_le (h.fresh interface hmem) hnext
    · simpa [hnone] using h.mem_iff
    · simpa [hnone] using h.apart
  | leftBehind hidle houtputs hleft =>
    rw [houtputs]
    refine ⟨?_, List.nodup_cons.mpr ⟨hnew, h.nodup⟩, ?_, ?_⟩
    · intro interface hmem
      rcases List.mem_cons.mp hmem with rfl | hmem
      · exact Nat.lt_succ_self _
      · exact Nat.lt_succ_of_lt (h.fresh interface hmem)
    · intro interface
      rw [List.mem_cons, h.mem_iff, hleft, hidle]
      simp [or_comm]
    · simp
  | @started shown hidle hinterface houtputs hnone =>
    rw [houtputs]
    refine ⟨?_, List.nodup_cons.mpr ⟨hnew, h.nodup⟩, ?_, ?_⟩
    · intro interface hmem
      rcases List.mem_cons.mp hmem with rfl | hmem
      · exact Nat.lt_succ_self _
      · exact Nat.lt_succ_of_lt (h.fresh interface hmem)
    · intro interface
      rw [List.mem_cons, h.mem_iff, hidle]
      simp [hnone, hinterface, eq_comm]
    · rintro other hother (hleft | hleft)
      · cases hother
        rw [hinterface] at hleft
        exact hnew ((h.mem_iff next).mpr (.inr hleft))
      · exact hnone _ hleft
  | @stopped shown hheld houtputs hnone =>
    rw [houtputs]
    have hapart := h.apart shown hheld
    refine ⟨?_, h.nodup.erase _, ?_, ?_⟩
    · intro interface hmem
      exact h.fresh interface (List.mem_of_mem_erase hmem)
    · intro interface
      rw [h.nodup.mem_erase_iff, h.mem_iff, hheld]
      constructor
      · rintro ⟨hne, ⟨other, hother, hinterface⟩ | hleft⟩
        · cases hother
          exact absurd hinterface.symm hne
        · exact .inr (.inl hleft)
      · rintro (⟨other, hother, -⟩ | hleft | hleft)
        · cases hother
        · refine ⟨?_, .inr hleft⟩
          rintro rfl
          exact hapart hleft
        · exact absurd hleft (hnone interface)
    · simp

/-! ## Runs -/

variable (pci : PciAccess δ)

/-- A start of the run left the output behind. -/
def LeftBehindBy (first : Platform (DisplayState δ) DisplayEvent) (calls : List BindingCall)
    (interface : Interface) : Prop :=
  ∃ earlier made later, calls = earlier ++ made :: later ∧
    LeftBehind made (eventsOf pci [made] (after pci earlier first)) interface

theorem leftBehindBy_nil (first : Platform (DisplayState δ) DisplayEvent)
    (interface : Interface) : ¬ LeftBehindBy pci first [] interface := by
  rintro ⟨earlier, made, later, hcalls, -⟩
  simp at hcalls

theorem leftBehindBy_concat (first : Platform (DisplayState δ) DisplayEvent)
    (calls : List BindingCall) (made : BindingCall) (interface : Interface) :
    LeftBehindBy pci first (calls ++ [made]) interface ↔
      LeftBehindBy pci first calls interface ∨
        LeftBehind made (eventsOf pci [made] (after pci calls first)) interface := by
  constructor
  · rintro ⟨earlier, other, later, hcalls, hleft⟩
    rcases List.eq_nil_or_concat later with rfl | ⟨later, last, rfl⟩
    · obtain ⟨rfl, hmade⟩ := List.append_inj' hcalls rfl
      injection hmade with hmade
      exact .inr (hmade ▸ hleft)
    · rw [List.concat_eq_append, ← List.cons_append, ← List.append_assoc] at hcalls
      obtain ⟨rfl, -⟩ := List.append_inj' hcalls rfl
      exact .inl ⟨earlier, other, later, rfl, hleft⟩
  · rintro (⟨earlier, other, later, rfl, hleft⟩ | hleft)
    · exact ⟨earlier, other, later ++ [made], by simp, hleft⟩
    · exact ⟨calls, made, [], rfl, hleft⟩

theorem outputs_append (front back : List (Event DisplayEvent)) :
    outputs (front ++ back) = back.foldl outputsAfter (outputs front) :=
  List.foldl_append

theorem tracked_after {first : Platform (DisplayState δ) DisplayEvent}
    (htrace : first.trace = []) (hfirst : first.device.driver.started = none)
    (calls : List BindingCall) :
    Tracked (outputs (after pci calls first).trace) (after pci calls first).device.driver.started
      (after pci calls first).services.nextInterface (LeftBehindBy pci first calls) := by
  induction calls using List.reverseRecOn with
  | nil =>
    rw [after_nil, htrace, hfirst]
    refine ⟨?_, ?_, ?_, ?_⟩
    all_goals simp [outputs, leftBehindBy_nil]
  | append_singleton earlier made ih =>
    have hcall := exited_call pci made (after pci earlier first)
    have hleft : LeftBehindBy pci first (earlier ++ [made]) = fun interface =>
        LeftBehindBy pci first earlier interface ∨
          LeftBehind made (eventsOf pci [made] (after pci earlier first)) interface :=
      funext fun interface => propext (leftBehindBy_concat pci first earlier made interface)
    rw [after_append, hcall.logged.trace, outputs_append, hleft]
    exact tracked_change ih (change_exit hcall.exit)

/-- After a run, every installed output is that of the held instance, unless a
start of the run failed to uninstall the output that it could not bring up. -/
theorem outputs_held_iff (services : Services) (config : DisplayConfig) (image agent : Handle)
    (hardware : δ) (calls : List BindingCall) :
    let first := unstarted services config image agent hardware
    let now := after pci calls first
    (∀ interface ∈ outputs now.trace,
      ∃ held, now.device.driver.started = some held ∧ held.interface = interface) ↔
    ∀ earlier controller later, calls = earlier ++ .start controller :: later →
      ∀ interface known status, withdrawn controller interface known status ∈
        eventsOf pci [.start controller] (after pci earlier first) → status.isError = false := by
  intro first now
  have htracked : Tracked (outputs now.trace) _ _ (LeftBehindBy pci first calls) :=
    tracked_after pci rfl rfl calls
  constructor
  · rintro hheld earlier controller later hcalls interface known status hmem
    by_contra herror
    have hleft : LeftBehindBy pci first calls interface :=
      ⟨earlier, .start controller, later, hcalls, controller, known, status, rfl, hmem,
        Bool.not_eq_false _ ▸ herror⟩
    obtain ⟨held, hstarted, rfl⟩ := hheld interface ((htracked.mem_iff interface).mpr (.inr hleft))
    exact htracked.apart held hstarted hleft
  · intro hstarts interface hmem
    rcases (htracked.mem_iff interface).mp hmem with hheld | hleft
    · exact hheld
    · obtain ⟨earlier, made, later, hcalls, controller, known, status, rfl, hmem, herror⟩ := hleft
      rw [hstarts earlier controller later hcalls interface known status hmem] at herror
      cases herror

/-- A device whose host lends no frame buffer. -/
def bareDevice : MediatedDevice where
  vendorWord := 0x8086
  classWord := 0x03000000
  registers := fun _ => 0

/-- The host has no frame buffer and the output cannot be uninstalled: the start
fails, no instance is held, and the output stays installed. -/
theorem outputs_unheld :
    let now := after MediatedDevice.access [.start 0x1000]
      (unstarted { uninstalls := [.deviceError] } {} 0 0 bareDevice)
    ¬ ∀ interface ∈ outputs now.trace,
      ∃ held, now.device.driver.started = some held ∧ held.interface = interface := by
  intro now hheld
  have houtputs : outputs now.trace = [0] := by decide +kernel
  have hstarted : now.device.driver.started.isNone = true := by decide +kernel
  obtain ⟨held, hheld, -⟩ := hheld 0 (houtputs ▸ List.mem_singleton_self 0)
  rw [hheld] at hstarted
  cases hstarted

end GuestFirmware.Display
