import GuestFirmware.Proofs.E820.Agreement

/-!
# Publishing and the cache control

Publishing calls two others in turn: the one that takes the ranges, and the cache
control.  The cache control has a state of its own and may fail at any time.  This module
says that the ranges do not depend on it, and when it is called.

* `Step.publishes` picks the steps that announce a range.  `filter_publishes_publish`
  computes them from the entries alone.
* `Step.writeBack` is the range that the cache control is called for.
  `writeBacks_publish` says that these are the ranges of the RAM entries, if there is
  cache control.
* `Paired` says that each range of RAM is announced and made write-back cacheable by two
  steps in a row, and nothing else is made so.  `Paired.getElem?_succ_iff` reads this off
  for the steps at two indices, and `writeBack_follows` says it of publishing.
* `Caching.Answers` says that the answers in some steps are those that the cache control
  gives when it is called in their order, and not in between.

`publish_undisturbed` joins these.
-/

namespace GuestFirmware.E820

variable {κ : Type}

/-! ## What is announced -/

/-- The step announces a range. -/
def Step.publishes : Step → Bool
  | addMemory _ _ => true
  | addIoMemory _ _ => true
  | cachingSupported _ => false
  | setWriteBack _ _ _ => false

/-- The step that announces an entry, if any does. -/
def Entry.publication (entry : Entry) : Option Step :=
  if entry.isAperture then some (.addIoMemory entry.base entry.length)
  else if entry.isRam then some (.addMemory entry.base entry.length)
  else none

theorem filter_publishes_publishEntry (caching : Caching κ) (supported : Bool) (entry : Entry)
    (state : κ) :
    (publishEntry caching supported entry state).2.1.filterMap (Option.guard Step.publishes) =
      entry.publication.toList := by
  rw [Entry.publication]
  rcases publishEntry_cases caching supported entry state with
    ⟨ha, hr, h⟩ | ⟨ha, hr, -, h⟩ | ⟨ha, hr, -, h⟩ | ⟨ha, hr, h⟩ <;> rw [h, ha, hr] <;> rfl

theorem filter_publishes_publish (caching : Caching κ) (entries : List Entry) (state : κ) :
    (publish caching entries state).2.1.filter Step.publishes =
      entries.filterMap Entry.publication := by
  rw [← List.filterMap_eq_filter]
  exact filterMap_publishEntries caching (filter_publishes_publishEntry caching _) entries _

/-- A step that announces a range announces it as RAM or as device registers. -/
theorem length_filter_publishes (steps : List Step) :
    (steps.filter Step.publishes).length =
      (memoryRanges steps).length + (ioRanges steps).length := by
  induction steps with
  | nil => rfl
  | cons step rest ih =>
    rw [← List.singleton_append, List.filter_append, memoryRanges_append, ioRanges_append,
      List.length_append, List.length_append, List.length_append, ih]
    have hstep : ([step].filter Step.publishes).length =
        (memoryRanges [step]).length + (ioRanges [step]).length := by
      cases step <;> rfl
    omega

/-- The number that publishing answers is that of the steps that announce a range. -/
theorem count_eq_length_publishes (caching : Caching κ) (entries : List Entry) (state : κ) :
    (publish caching entries state).1 =
      ((publish caching entries state).2.1.filter Step.publishes).length := by
  rw [length_filter_publishes]
  exact count_publish caching entries state

/-! ## When the cache control is called -/

/-- The range that a step makes write-back cacheable. -/
def Step.writeBack : Step → Option Range
  | setWriteBack base length _ => some ⟨base, length⟩
  | _ => none

/-- The ranges that steps make write-back cacheable, in order. -/
def writeBacks (steps : List Step) : List Range :=
  steps.filterMap Step.writeBack

theorem writeBacks_publishEntry (caching : Caching κ) (supported : Bool) (entry : Entry)
    (state : κ) :
    writeBacks (publishEntry caching supported entry state).2.1 =
      (if supported && entry.isRam then some entry.range else none).toList := by
  rcases publishEntry_cases caching supported entry state with
    ⟨-, hr, h⟩ | ⟨-, hr, hs, h⟩ | ⟨-, hr, hs, h⟩ | ⟨-, hr, h⟩
  · rw [h, hr, Bool.and_false]
    rfl
  · rw [h, hr, hs]
    rfl
  · rw [h, hr, hs]
    rfl
  · rw [h, hr, Bool.and_false]
    rfl

theorem writeBacks_publish (caching : Caching κ) (entries : List Entry) (state : κ) :
    writeBacks (publish caching entries state).2.1 =
      if (caching.isSupported state).1 then (ram entries).map Entry.range else [] := by
  have hranges : writeBacks (publish caching entries state).2.1 = _ :=
    filterMap_publishEntries caching (writeBacks_publishEntry caching _) entries _
  rw [hranges, filterMap_range]
  cases (caching.isSupported state).1 with
  | true => rfl
  | false =>
    rw [List.filter_eq_nil_iff.mpr (by simp)]
    rfl

/-- Each range of RAM is made write-back cacheable right after it is announced, and no
other range is. -/
inductive Paired : List Step → Prop
  | nil : Paired []
  | other {step : Step} {rest : List Step} (hmemory : step.memory = none)
      (hwriteBack : step.writeBack = none) (hrest : Paired rest) : Paired (step :: rest)
  | memory (base length : UInt64) (succeeded : Bool) {rest : List Step} (hrest : Paired rest) :
      Paired (.addMemory base length :: .setWriteBack base length succeeded :: rest)

namespace Paired

/-- Steps in pairs do not begin with the second half of one. -/
theorem ne_of_head {steps : List Step} (h : Paired steps) (base length : UInt64)
    (succeeded : Bool) : steps[0]? ≠ some (.setWriteBack base length succeeded) := by
  cases h with
  | nil => simp
  | other _ hwriteBack _ =>
    rintro ⟨⟩
    cases hwriteBack
  | memory _ _ _ _ => simp

theorem append {front back : List Step} (hfront : Paired front) (hback : Paired back) :
    Paired (front ++ back) := by
  induction hfront with
  | nil => exact hback
  | other hmemory hwriteBack _ ih => exact .other hmemory hwriteBack ih
  | memory base length succeeded _ ih => exact .memory base length succeeded ih

/-- Of two steps in a row, the later one makes a range write-back cacheable exactly when
the earlier one announces it as RAM. -/
theorem getElem?_succ_iff {steps : List Step} (h : Paired steps) (index : Nat)
    (base length : UInt64) :
    (∃ succeeded, steps[index + 1]? = some (.setWriteBack base length succeeded)) ↔
      steps[index]? = some (.addMemory base length) := by
  induction h generalizing index with
  | nil => simp
  | @other step rest hmemory _ hrest ih =>
    cases index with
    | zero =>
      refine iff_of_false (fun ⟨succeeded, h⟩ => hrest.ne_of_head base length succeeded h) ?_
      rintro ⟨⟩
      cases hmemory
    | succ index => exact ih index
  | @memory _ _ _ rest hrest ih =>
    match index with
    | 0 => simp [and_comm, eq_comm]
    | 1 =>
      -- The first half of the next pair, if there is one, stands at index 2.
      exact iff_of_false (fun ⟨succeeded, h⟩ => hrest.ne_of_head base length succeeded h)
        (by simp)
    | index + 2 => exact ih index

end Paired

theorem paired_publishEntry (caching : Caching κ) (entry : Entry) (state : κ) :
    Paired (publishEntry caching true entry state).2.1 := by
  rcases publishEntry_cases caching true entry state with
    ⟨-, -, h⟩ | ⟨-, -, hs, -⟩ | ⟨-, -, -, h⟩ | ⟨-, -, h⟩
  · rw [h]
    exact .other rfl rfl .nil
  · cases hs
  · rw [h]
    exact .memory _ _ _ .nil
  · rw [h]
    exact .nil

theorem paired_publishEntries (caching : Caching κ) (entries : List Entry) (state : κ) :
    Paired (publishEntries caching true entries state).2.1 := by
  induction entries generalizing state with
  | nil => exact .nil
  | cons entry rest ih => exact (paired_publishEntry caching entry state).append (ih _)

/-- Steps that make no range write-back cacheable hold no step that makes one so. -/
theorem ne_setWriteBack_of_writeBacks {steps : List Step} (h : writeBacks steps = [])
    (index : Nat) (base length : UInt64) (succeeded : Bool) :
    steps[index]? ≠ some (.setWriteBack base length succeeded) := by
  intro hstep
  have hnone := List.filterMap_eq_nil_iff.mp h _ (List.mem_of_getElem? hstep)
  cases hnone

/-- Making a range of RAM write-back cacheable follows on announcing it. -/
theorem writeBack_follows (caching : Caching κ) (entries : List Entry) (state : κ) (index : Nat)
    (base length : UInt64) :
    (∃ succeeded, (publish caching entries state).2.1[index + 1]? =
        some (.setWriteBack base length succeeded)) ↔
      (caching.isSupported state).1 = true ∧
        (publish caching entries state).2.1[index]? = some (.addMemory base length) := by
  have hranges := writeBacks_publish caching entries state
  cases hsupported : (caching.isSupported state).1 with
  | true =>
    have hpaired : Paired (publish caching entries state).2.1 := by
      rw [publish]
      dsimp only
      rw [hsupported]
      exact .other rfl rfl (paired_publishEntries caching entries _)
    rw [hpaired.getElem?_succ_iff, and_iff_right rfl]
  | false =>
    rw [hsupported] at hranges
    refine iff_of_false ?_ (by simp)
    rintro ⟨succeeded, hstep⟩
    exact ne_setWriteBack_of_writeBacks hranges _ _ _ _ hstep

/-! ## What the cache control answers -/

/-- The answers in some steps are those of a cache control that is called in their order,
and not in between. -/
inductive Caching.Answers (caching : Caching κ) : κ → List Step → κ → Prop
  | done (state : κ) : Answers caching state [] state
  | published {step : Step} {state after : κ} {rest : List Step} (h : step.publishes = true)
      (hrest : Answers caching state rest after) : Answers caching state (step :: rest) after
  | supported {state after : κ} {rest : List Step}
      (hrest : Answers caching (caching.isSupported state).2 rest after) :
      Answers caching state (.cachingSupported (caching.isSupported state).1 :: rest) after
  | writeBack (base length : UInt64) {state after : κ} {rest : List Step}
      (hrest : Answers caching (caching.setWriteBack base length state).2 rest after) :
      Answers caching state
        (.setWriteBack base length (caching.setWriteBack base length state).1 :: rest) after

theorem Caching.Answers.append {caching : Caching κ} {state between after : κ}
    {front back : List Step} (hfront : caching.Answers state front between)
    (hback : caching.Answers between back after) : caching.Answers state (front ++ back) after := by
  induction hfront with
  | done _ => exact hback
  | published h _ ih => exact .published h (ih hback)
  | supported _ ih => exact .supported (ih hback)
  | writeBack base length _ ih => exact .writeBack base length (ih hback)

theorem answers_publishEntry (caching : Caching κ) (supported : Bool) (entry : Entry) (state : κ) :
    caching.Answers state (publishEntry caching supported entry state).2.1
      (publishEntry caching supported entry state).2.2 := by
  rcases publishEntry_cases caching supported entry state with
    ⟨-, -, h⟩ | ⟨-, -, -, h⟩ | ⟨-, -, -, h⟩ | ⟨-, -, h⟩
  · rw [h]
    exact .published rfl (.done state)
  · rw [h]
    exact .published rfl (.done state)
  · rw [h]
    exact .published rfl (.writeBack _ _ (.done _))
  · rw [h]
    exact .done state

theorem answers_publishEntries (caching : Caching κ) (supported : Bool) (entries : List Entry)
    (state : κ) :
    caching.Answers state (publishEntries caching supported entries state).2.1
      (publishEntries caching supported entries state).2.2 := by
  induction entries generalizing state with
  | nil => exact .done state
  | cons entry rest ih => exact (answers_publishEntry caching supported entry state).append (ih _)

/-! ## Publishing -/

/-- With any two cache controls, in any states, the same ranges are announced in the same
order, and their number is answered.  The cache control is first asked whether it is
supported.  If it is, it is called for the ranges of the RAM entries in their order, each
time right after the range was announced, whatever it answered before.  If not, it is not
called again. -/
theorem publish_undisturbed {μ : Type} (caching : Caching κ) (other : Caching μ)
    (entries : List Entry) (state : κ) (start : μ) :
    let published := publish caching entries state
    let elsewhere := publish other entries start
    let supported := (caching.isSupported state).1
    let steps := published.2.1
    steps.filter Step.publishes = elsewhere.2.1.filter Step.publishes ∧
    published.1 = elsewhere.1 ∧
    published.1 = (steps.filter Step.publishes).length ∧
    steps.head? = some (.cachingSupported supported) ∧
    writeBacks steps = (if supported then (ram entries).map Entry.range else []) ∧
    (∀ index base length,
      (∃ succeeded, steps[index + 1]? = some (.setWriteBack base length succeeded)) ↔
        supported = true ∧ steps[index]? = some (.addMemory base length)) ∧
    caching.Answers state steps published.2.2 := by
  intro published elsewhere supported steps
  have hranges := filter_publishes_publish caching entries state
  have hothers := filter_publishes_publish other entries start
  refine ⟨hranges.trans hothers.symm, ?_, count_eq_length_publishes caching entries state, rfl,
    writeBacks_publish caching entries state, writeBack_follows caching entries state, ?_⟩
  · have hcount : published.1 = _ := count_eq_length_publishes caching entries state
    have hotherCount : elsewhere.1 = _ := count_eq_length_publishes other entries start
    rw [hcount, hotherCount, hranges, hothers]
  · exact .supported (answers_publishEntries caching supported entries _)

end GuestFirmware.E820
