import GuestFirmware.Platform.Monad

/-!
# What the trace says about a platform

Everything that is done to the boot services is an event of the trace, and the
trace only grows.  `Logged` relates the platforms before and after an action to
the events in between: they are appended to the trace, and the level and the
installed interfaces follow from them (`levelAfter`, `installedAfter`).

`Logged.trans` joins two actions.  There is one lemma for each call of the boot
services that a driver makes, and one for actions inside a lock and at a raised
level.
-/

namespace GuestFirmware

variable {δ ε α : Type}

namespace Event

/-- The level after an event. -/
def levelAfter (level : Tpl) : Event ε → Tpl
  | .service (.raiseTpl raised _) => raised
  | .service (.restoreTpl restored) => restored
  | _ => level

/-- The installed interfaces after an event. -/
def installedAfter (installed : List Installation) : Event ε → List Installation
  | .service (.install _ protocol interface result status) =>
    if status.isError then installed else installed ++ [⟨result, protocol, interface⟩]
  | .service (.uninstall handle protocol interface _ status) =>
    if status.isError then installed else installed.erase ⟨handle, protocol, interface⟩
  | _ => installed

end Event

/-- The events happened between two platforms, in order. -/
structure Logged (before after : Platform δ ε) (events : List (Event ε)) : Prop where
  trace : after.trace = before.trace ++ events
  level : after.services.tpl = events.foldl Event.levelAfter before.services.tpl
  installed :
    after.services.installed = events.foldl Event.installedAfter before.services.installed

namespace Logged

variable {first middle last : Platform δ ε} {front back : List (Event ε)}

theorem refl (platform : Platform δ ε) : Logged platform platform [] where
  trace := (List.append_nil _).symm
  level := rfl
  installed := rfl

theorem trans (hfront : Logged first middle front) (hback : Logged middle last back) :
    Logged first last (front ++ back) where
  trace := by rw [hback.trace, hfront.trace, List.append_assoc]
  level := by rw [hback.level, hfront.level, List.foldl_append]
  installed := by rw [hback.installed, hfront.installed, List.foldl_append]

/-- The events are what the trace grew by. -/
theorem drop_trace (h : Logged first last front) : last.trace.drop first.trace.length = front := by
  rw [h.trace, List.drop_left]

end Logged

namespace PlatformM

/-! ## Running actions -/

theorem run_bind {β : Type} (action : PlatformM δ ε α) (next : α → PlatformM δ ε β)
    (platform : Platform δ ε) :
    (action >>= next).run platform = (next (action.run platform).1).run (action.run platform).2 :=
  rfl

/-- The platform after a call of the boot services. -/
def afterCall (service : Services → α × Services × Call) (platform : Platform δ ε) :
    Platform δ ε where
  services := (service platform.services).2.1
  device := platform.device
  trace := platform.trace ++ [.service (service platform.services).2.2]

theorem run_call (service : Services → α × Services × Call) (platform : Platform δ ε) :
    (call service).run platform =
      ((service platform.services).1, afterCall service platform) := rfl

theorem logged_open (controller : Handle) (protocol : Guid) (agent : Handle)
    (platform : Platform δ ε) :
    Logged platform (afterCall (Services.openProtocol controller protocol agent) platform)
      [.service (.openProtocol controller protocol agent
        (Services.nextAnswer platform.services.opens))] where
  trace := rfl
  level := rfl
  installed := rfl

theorem logged_close (controller : Handle) (protocol : Guid) (agent : Handle)
    (platform : Platform δ ε) :
    Logged platform (afterCall (Services.closeProtocol controller protocol agent) platform)
      [.service (.closeProtocol controller protocol agent
        (Services.nextAnswer platform.services.closes))] where
  trace := rfl
  level := rfl
  installed := rfl

/-- An install that fails answers its status and changes no interface. -/
theorem install_of_error (given : Handle) (protocol : Guid) (interface : Interface)
    {platform : Platform δ ε}
    (herror : (Services.nextAnswer platform.services.installs).isError = true) :
    (Services.install given protocol interface platform.services).1 =
        .error (Services.nextAnswer platform.services.installs) ∧
      Logged platform (afterCall (Services.install given protocol interface) platform)
        [.service (.install given protocol interface given
          (Services.nextAnswer platform.services.installs))] := by
  refine ⟨?_, ?_, ?_, ?_⟩ <;>
    simp [Services.install, afterCall, herror, Event.levelAfter, Event.installedAfter]

/-- An install that succeeds answers a handle, the given one unless that is
zero. -/
theorem install_of_success (given : Handle) (protocol : Guid) (interface : Interface)
    {platform : Platform δ ε}
    (hsuccess : (Services.nextAnswer platform.services.installs).isError = false) :
    ∃ handle, (given ≠ 0 → handle = given) ∧
      (Services.install given protocol interface platform.services).1 = .ok handle ∧
      Logged platform (afterCall (Services.install given protocol interface) platform)
        [.service (.install given protocol interface handle
          (Services.nextAnswer platform.services.installs))] := by
  refine ⟨if given = 0 then platform.services.nextHandle else given, ?_, ?_, ?_, ?_, ?_⟩
  · intro hgiven
    exact if_neg hgiven
  all_goals
    simp [Services.install, afterCall, hsuccess, Event.levelAfter, Event.installedAfter]

/-- An install makes no identity. -/
theorem nextInterface_install (given : Handle) (protocol : Guid) (interface : Interface)
    (services : Services) :
    (Services.install given protocol interface services).2.1.nextInterface =
      services.nextInterface := by
  simp only [Services.install]
  split <;> rfl

theorem logged_uninstall (handle : Handle) (protocol : Guid) (interface : Interface)
    (platform : Platform δ ε) :
    ∃ known, Logged platform (afterCall (Services.uninstall handle protocol interface) platform)
      [.service (.uninstall handle protocol interface known
        (Services.nextAnswer platform.services.uninstalls))] :=
  ⟨_, rfl, rfl, rfl⟩

/-- The platform after an interface got an identity. -/
def afterMake (platform : Platform δ ε) : Platform δ ε :=
  { platform with services := platform.services.makeInterface.2 }

theorem run_makeInterface (platform : Platform δ ε) :
    (makeInterface : PlatformM δ ε Interface).run platform =
      (platform.services.nextInterface, afterMake platform) := rfl

theorem logged_make (platform : Platform δ ε) : Logged platform (afterMake platform) [] where
  trace := (List.append_nil _).symm
  level := rfl
  installed := rfl

/-! ## Locks at a raised level -/

/-- The platform at a raised level, with a lock held. -/
def entered (level : Tpl) (lock : Lock) (platform : Platform δ ε) : Platform δ ε where
  services := { platform.services with tpl := level }
  device := platform.device
  trace := platform.trace ++ [.service (.raiseTpl level platform.services.tpl)] ++ [.acquire lock]

/-- The platform back at a level, after a lock was given up. -/
def exited (previous : Tpl) (lock : Lock) (platform : Platform δ ε) : Platform δ ε where
  services := { platform.services with tpl := previous }
  device := platform.device
  trace := platform.trace ++ [.release lock] ++ [.service (.restoreTpl previous)]

/-- The events of an action that runs at a raised level with a lock held. -/
def bracketed (level previous : Tpl) (lock : Lock) (events : List (Event ε)) : List (Event ε) :=
  [.service (.raiseTpl level previous), .acquire lock] ++ events ++
    [.release lock, .service (.restoreTpl previous)]

theorem run_withTpl_withLock (level : Tpl) (lock : Lock) (action : PlatformM δ ε α)
    (platform : Platform δ ε) :
    (withTpl level (withLock lock action)).run platform =
      ((action.run (entered level lock platform)).1,
        exited platform.services.tpl lock (action.run (entered level lock platform)).2) := rfl

theorem logged_bracketed {level : Tpl} {lock : Lock} {platform after : Platform δ ε}
    {events : List (Event ε)} (h : Logged (entered level lock platform) after events) :
    Logged platform (exited platform.services.tpl lock after)
      (bracketed level platform.services.tpl lock events) where
  trace := by
    show after.trace ++ _ ++ _ = _
    rw [h.trace]
    simp [entered, bracketed]
  level := by simp [exited, bracketed, Event.levelAfter]
  installed := by
    show after.services.installed = _
    rw [h.installed]
    simp [entered, bracketed, Event.installedAfter]

end PlatformM

end GuestFirmware
