import QtradeClient.Library.Runs
import QtradeClient.Mock.QuoteSubscriptions

/-!
# The tick thread of the mock quotes

`GenerateMockTicks` publishes its ticks while it holds the mutex of the adapter.  A handler
that calls back into the adapter therefore does so from inside the locked region, on the
very thread that `Disconnect` joins.  Another thread makes calls of its own meanwhile.
-/

namespace QtradeClient.Mock

open Sdk Library

inductive Thread where
  | tick
  | other
  deriving DecidableEq

inductive QuoteCall where
  | request (request : QuoteRequest)
  | disconnect
  | logout

/-- `Subscribe` and `Unsubscribe` lock the mutex. -/
def QuoteCall.locks : QuoteCall → Bool
  | .request _ => true
  | .disconnect => false
  | .logout => false

/-- Where a call stands: what it does next. -/
inductive CallFrame where
  | acquiring (request : QuoteRequest)
  | assigning (request : QuoteRequest)
  | releasing
  | checking
  | stopping
  | joining
  | clearing

/-- The observer that a tick is delivered to. -/
inductive Handler where
  | onDepthMarketData
  | onTick

/-- Where `GenerateMockTicks` stands.  A list is what is left of the loop over the
instruments; a handler is in the middle of a call of its own, or of none. -/
inductive TickFrame where
  | testing
  | locking
  | iterating (rest : List String)
  | handling (handler : Handler) (rest : List String) (nested : Option CallFrame)
  | published (rest : List String)
  | finished

/-- What the two threads share; `joinable` is that of `tick_thread_`. -/
structure QuoteShared where
  api : MockQuoteApi
  mutex : Option Thread
  joinable : Bool

structure QuoteSystem where
  shared : QuoteShared
  tick : TickFrame
  other : Option CallFrame

/-- A step of either thread, or a call that a handler or the other thread enters. -/
inductive QuoteLabel where
  | tick
  | reenter (call : QuoteCall)
  | other
  | enter (call : QuoteCall)

namespace CallFrame

def enter : QuoteCall → CallFrame
  | .request request => .acquiring request
  | .disconnect => .checking
  | .logout => .checking

/-- One step of a call on a thread, and the frame it leaves unless it returns.  A thread
waits for the mutex until nobody holds it, and in `join` for the tick thread to finish. -/
def advance (thread : Thread) (finished : Bool) (shared : QuoteShared) :
    CallFrame → Option (Option CallFrame × QuoteShared)
  | .acquiring request =>
      if shared.mutex = none then
        some (some (.assigning request), { shared with mutex := some thread })
      else none
  | .assigning request =>
      some (some .releasing, { shared with api := (shared.api.request request).2 })
  | .releasing => some (none, { shared with mutex := none })
  | .checking => some (if shared.api.connected then some .stopping else none, shared)
  | .stopping =>
      some (some .joining, { shared with api := { shared.api with running := false } })
  | .joining =>
      if shared.joinable then
        if finished then some (some .clearing, { shared with joinable := false }) else none
      else some (some .clearing, shared)
  | .clearing => some (none, { shared with api := { shared.api with connected := false } })

/-- The call is inside its locked region. -/
def holds : CallFrame → Bool
  | .assigning _ => true
  | .releasing => true
  | _ => false

end CallFrame

namespace TickFrame

/-- One step of `GenerateMockTicks`; a handler without a call in progress returns. -/
def advance (shared : QuoteShared) : TickFrame → Option (TickFrame × QuoteShared)
  | .testing => some (if shared.api.running then .locking else .finished, shared)
  | .locking =>
      if shared.mutex = none then
        some (.iterating shared.api.instruments, { shared with mutex := some .tick })
      else none
  | .iterating [] => some (.testing, { shared with mutex := none })
  | .iterating (_ :: rest) =>
      some (if shared.api.mockSpi.target then .handling .onDepthMarketData rest none
        else .published rest, shared)
  | .handling .onDepthMarketData rest none => some (.published rest, shared)
  | .published rest =>
      some (if shared.api.onTick then .handling .onTick rest none else .iterating rest, shared)
  | .handling .onTick rest none => some (.iterating rest, shared)
  | .handling handler rest (some frame) =>
      (frame.advance .tick false shared).map fun after =>
        (.handling handler rest after.1, after.2)
  | .finished => none

def isFinished : TickFrame → Bool
  | .finished => true
  | _ => false

/-- The thread is inside its locked region. -/
def holds : TickFrame → Bool
  | .iterating _ => true
  | .handling .. => true
  | .published _ => true
  | _ => false

/-- A handler runs and may call back. -/
def mayCall : TickFrame → Bool
  | .handling _ _ none => true
  | _ => false

/-- The call that a handler has made and that has not returned. -/
def nested? : TickFrame → Option CallFrame
  | .handling _ _ nested => nested
  | _ => none

/-- A handler that may call back makes a call. -/
def reenter (call : QuoteCall) : TickFrame → Option TickFrame
  | .handling handler rest none => some (.handling handler rest (some (.enter call)))
  | _ => none

end TickFrame

def quoteStep (system : QuoteSystem) : QuoteLabel → Option QuoteSystem
  | .tick => (system.tick.advance system.shared).map fun after =>
      { system with tick := after.1, shared := after.2 }
  | .reenter call => (system.tick.reenter call).map fun tick => { system with tick := tick }
  | .other => system.other.bind fun frame =>
      (frame.advance .other system.tick.isFinished system.shared).map fun after =>
        { system with other := after.1, shared := after.2 }
  | .enter call =>
      if system.other.isNone then some { system with other := some (.enter call) } else none

/-- The system as `Connect` leaves it. -/
def QuoteSystem.connected (mockSpi : MockQuoteSpi) (onTick : Bool) (instruments : List String) :
    QuoteSystem where
  shared :=
    { api := { MockQuoteApi.create with
        mockSpi := mockSpi, onTick := onTick, instruments := instruments }.connect.2
      mutex := none
      joinable := true }
  tick := .testing
  other := none

/-- The tick thread is about to lock the mutex that it holds. -/
def LocksHeld (system : QuoteSystem) : Prop :=
  (∃ request, system.tick.nested? = some (.acquiring request)) ∧
    system.shared.mutex = some .tick

/-- The tick thread is about to join itself. -/
def JoinsItself (system : QuoteSystem) : Prop :=
  system.tick.nested? = some .joining ∧ system.shared.joinable = true

def Trapped (system : QuoteSystem) : Prop := LocksHeld system ∨ JoinsItself system

/-- The step does not lead into the trap. -/
def Untrapped (system : QuoteSystem) (label : QuoteLabel) : Prop :=
  ∀ after, quoteStep system label = some after → ¬ Trapped after

/-- No handler calls `Subscribe` or `Unsubscribe`, and no `Disconnect` or `Logout` that a
handler has called goes on to its join. -/
def Outward (system : QuoteSystem) : QuoteLabel → Prop
  | .reenter call => call.locks = true → system.tick.mayCall = false
  | .tick => system.tick.nested? ≠ some .stopping
  | _ => True

/-! ## What a step of either thread does -/

/-- The steps of a call. -/
inductive CallFrame.Moves (thread : Thread) (finished : Bool) (shared : QuoteShared) :
    CallFrame → Option CallFrame → QuoteShared → Prop where
  | acquire (request : QuoteRequest) (free : shared.mutex = none) :
      Moves thread finished shared (.acquiring request) (some (.assigning request))
        { shared with mutex := some thread }
  | assign (request : QuoteRequest) :
      Moves thread finished shared (.assigning request) (some .releasing)
        { shared with api := (shared.api.request request).2 }
  | release : Moves thread finished shared .releasing none { shared with mutex := none }
  | check (next : Option CallFrame) (branches : next = none ∨ next = some .stopping)
      (returns : shared.api.connected = true → next = some .stopping) :
      Moves thread finished shared .checking next shared
  | stop : Moves thread finished shared .stopping (some .joining)
      { shared with api := { shared.api with running := false } }
  | join (awaited : shared.joinable = true → finished = true) :
      Moves thread finished shared .joining (some .clearing) { shared with joinable := false }
  | clear : Moves thread finished shared .clearing none
      { shared with api := { shared.api with connected := false } }

theorem CallFrame.advance_moves {thread : Thread} {finished : Bool}
    {shared shared' : QuoteShared} {frame : CallFrame} {next : Option CallFrame}
    (hadvance : frame.advance thread finished shared = some (next, shared')) :
    frame.Moves thread finished shared next shared' := by
  cases frame with
  | acquiring request =>
      simp only [CallFrame.advance] at hadvance
      split at hadvance <;> cases hadvance
      exact .acquire request ‹_›
  | assigning request => cases hadvance; exact .assign request
  | releasing => cases hadvance; exact .release
  | checking =>
      cases hadvance
      refine .check _ ?_ fun hup => if_pos hup
      split
      · exact .inr rfl
      · exact .inl rfl
  | stopping => cases hadvance; exact .stop
  | joining =>
      obtain ⟨api, mutex, joinable⟩ := shared
      cases joinable with
      | false => cases hadvance; exact .join nofun
      | true =>
          cases finished with
          | false => cases hadvance
          | true => cases hadvance; exact .join fun _ => rfl
  | clearing => cases hadvance; exact .clear

/-- The steps of the tick thread. -/
inductive TickFrame.Moves (shared : QuoteShared) :
    TickFrame → TickFrame → QuoteShared → Prop where
  | test (next : TickFrame) (branches : next = .locking ∨ next = .finished) :
      Moves shared .testing next shared
  | lock (free : shared.mutex = none) :
      Moves shared .locking (.iterating shared.api.instruments)
        { shared with mutex := some .tick }
  | unlock : Moves shared (.iterating []) .testing { shared with mutex := none }
  | within {frame next : TickFrame} (inside : frame.holds = true) (staysInside : next.holds = true)
      (idle : next.nested? = none) (leaves : frame.nested? = none) : Moves shared frame next shared
  | nested (handler : Handler) (rest : List String) {frame : CallFrame} {next : Option CallFrame}
      {shared' : QuoteShared} (moves : frame.Moves .tick false shared next shared') :
      Moves shared (.handling handler rest (some frame)) (.handling handler rest next) shared'

theorem TickFrame.advance_moves {shared shared' : QuoteShared} {frame next : TickFrame}
    (hadvance : frame.advance shared = some (next, shared')) :
    frame.Moves shared next shared' := by
  cases frame with
  | testing =>
      cases hadvance
      refine .test _ ?_
      split
      · exact .inl rfl
      · exact .inr rfl
  | locking =>
      simp only [TickFrame.advance] at hadvance
      split at hadvance <;> cases hadvance
      exact .lock ‹_›
  | iterating rest =>
      cases rest with
      | nil => cases hadvance; exact .unlock
      | cons instrument rest =>
          cases hadvance
          split <;> exact .within rfl rfl rfl rfl
  | handling handler rest nested =>
      cases nested with
      | none =>
          cases handler <;> cases hadvance <;> exact .within rfl rfl rfl rfl
      | some frame =>
          obtain ⟨⟨after, shared''⟩, hmoves, hafter⟩ : ∃ after,
              frame.advance .tick false shared = some after ∧
                (TickFrame.handling handler rest after.1, after.2) = (next, shared') := by
            cases handler <;> exact Option.map_eq_some_iff.mp hadvance
          cases hafter
          exact .nested handler rest (CallFrame.advance_moves hmoves)
  | published rest =>
      cases hadvance
      split <;> exact .within rfl rfl rfl rfl
  | finished => cases hadvance

/-- A trapped thread cannot go on. -/
theorem Trapped.stuck {system : QuoteSystem} (htrapped : Trapped system) :
    quoteStep system .tick = none := by
  obtain ⟨⟨api, mutex, joinable⟩, tick, other⟩ := system
  rcases htrapped with ⟨⟨request, hnested⟩, hmutex⟩ | ⟨hnested, hjoinable⟩ <;>
    cases tick with
    | handling handler rest nested =>
        cases hnested
        cases handler <;> simp_all [quoteStep, TickFrame.advance, CallFrame.advance]
    | _ => cases hnested

/-! ## Every interleaving -/

/-- What holds as long as the tick thread is not trapped: it has the mutex wherever its
loop is, it is connected and joinable until it finishes, and the calls of its handlers have
not got beyond `Disconnect`'s store to `running_`. -/
structure Ticking (system : QuoteSystem) : Prop where
  held : system.tick.holds = true → system.shared.mutex = some .tick
  otherHeld : ∀ frame, system.other = some frame → frame.holds = true →
    system.shared.mutex = some .other
  alive : system.tick.isFinished = false →
    system.shared.api.connected = true ∧ system.shared.joinable = true
  clearing : system.other = some .clearing → system.tick.isFinished = true
  nested : ∀ frame, system.tick.nested? = some frame → frame = .checking ∨ frame = .stopping

theorem ticking_connected (mockSpi : MockQuoteSpi) (onTick : Bool) (instruments : List String) :
    Ticking (.connected mockSpi onTick instruments) where
  held := nofun
  otherHeld := nofun
  alive _ := ⟨rfl, rfl⟩
  clearing := nofun
  nested := nofun

theorem Ticking.not_trapped {system : QuoteSystem} (h : Ticking system) : ¬ Trapped system := by
  rintro (⟨⟨request, hnested⟩, -⟩ | ⟨hnested, -⟩) <;>
    rcases h.nested _ hnested with hframe | hframe <;> cases hframe

theorem TickFrame.not_finished_of_holds {frame : TickFrame} (hholds : frame.holds = true) :
    frame.isFinished = false := by
  cases frame with
  | finished => cases hholds
  | _ => rfl

/-- While one thread is inside its locked region, the other is not. -/
theorem Ticking.exclusive {system : QuoteSystem} (h : Ticking system)
    (htick : system.tick.holds = true) {frame : CallFrame} (hframe : system.other = some frame) :
    frame.holds = false := by
  cases hother : frame.holds with
  | false => rfl
  | true => cases (h.held htick).symm.trans (h.otherHeld frame hframe hother)

/-- What a step of the tick thread keeps. -/
theorem Ticking.tick {system : QuoteSystem} (h : Ticking system) {next : TickFrame}
    {shared : QuoteShared} (hmoves : system.tick.Moves system.shared next shared)
    (houtward : system.tick.nested? ≠ some .stopping) :
    Ticking { system with tick := next, shared := shared } := by
  obtain ⟨before, tick, other⟩ := system
  have hclearing (hgoing : tick.isFinished = false) : other ≠ some .clearing := by
    intro hother
    exact Bool.false_ne_true (hgoing.symm.trans (h.clearing hother))
  cases hmoves with
  | test next hbranches =>
      refine ⟨?_, h.otherHeld, fun _ => h.alive rfl, fun hother => ?_, ?_⟩
      · rcases hbranches with rfl | rfl <;> exact nofun
      · exact absurd hother (hclearing rfl)
      · rcases hbranches with rfl | rfl <;> exact nofun
  | lock hfree =>
      refine ⟨fun _ => rfl, ?_, fun _ => h.alive rfl, fun hother => ?_, nofun⟩
      · intro frame hframe hholds
        cases hfree.symm.trans (h.otherHeld frame hframe hholds)
      · exact absurd hother (hclearing rfl)
  | unlock =>
      refine ⟨nofun, ?_, fun _ => h.alive rfl, fun hother => ?_, nofun⟩
      · intro frame hframe hholds
        cases (h.exclusive rfl hframe).symm.trans hholds
      · exact absurd hother (hclearing rfl)
  | within hinside hstays hidle hleaves =>
      have hgoing := TickFrame.not_finished_of_holds hinside
      refine ⟨fun _ => h.held hinside, h.otherHeld, fun _ => h.alive hgoing, ?_, ?_⟩
      · intro hother
        exact absurd hother (hclearing hgoing)
      · intro frame hframe
        cases hidle.symm.trans hframe
  | nested handler rest hmoves =>
      rcases h.nested _ rfl with rfl | rfl
      · cases hmoves with
        | check next hbranches hreturns =>
            -- the connection is up, so the call goes on to stop the thread
            obtain rfl := hreturns (h.alive rfl).1
            refine ⟨fun _ => h.held rfl, h.otherHeld, fun _ => h.alive rfl, fun hother => ?_, ?_⟩
            · exact absurd hother (hclearing rfl)
            · rintro frame ⟨⟩
              exact .inr rfl
      · exact absurd rfl houtward

/-- What a step of the other thread keeps. -/
theorem Ticking.other {system : QuoteSystem} (h : Ticking system) {frame : CallFrame}
    (hframe : system.other = some frame) {next : Option CallFrame} {shared : QuoteShared}
    (hmoves : frame.Moves .other system.tick.isFinished system.shared next shared) :
    Ticking { system with other := next, shared := shared } := by
  obtain ⟨before, tick, other⟩ := system
  obtain rfl : other = some frame := hframe
  cases hmoves with
  | acquire request hfree =>
      refine ⟨fun hholds => ?_, fun _ _ _ => rfl, h.alive, nofun, h.nested⟩
      cases hfree.symm.trans (h.held hholds)
  | assign request =>
      refine ⟨h.held, fun _ _ _ => h.otherHeld _ rfl rfl, ?_, nofun, h.nested⟩
      cases request <;> exact h.alive
  | release =>
      refine ⟨fun hholds => ?_, nofun, h.alive, nofun, h.nested⟩
      cases h.exclusive hholds rfl
  | check next hbranches =>
      refine ⟨h.held, ?_, h.alive, ?_, h.nested⟩
      · rintro frame rfl hholds
        rcases hbranches with hnext | hnext <;> cases hnext
        cases hholds
      · rintro rfl
        rcases hbranches with hnext | hnext <;> cases hnext
  | stop => exact ⟨h.held, by rintro _ ⟨⟩ ⟨⟩, h.alive, nofun, h.nested⟩
  | join hawaited =>
      have hfinished : tick.isFinished = true := by
        cases hgoing : tick.isFinished with
        | true => rfl
        | false => exact hgoing.symm.trans (hawaited (h.alive hgoing).2)
      refine ⟨h.held, by rintro _ ⟨⟩ ⟨⟩, fun hgoing => ?_, fun _ => hfinished, h.nested⟩
      exact absurd (hfinished.symm.trans hgoing) (by decide)
  | clear =>
      have hfinished : tick.isFinished = true := h.clearing rfl
      refine ⟨h.held, nofun, fun hgoing => ?_, nofun, h.nested⟩
      exact absurd (hfinished.symm.trans hgoing) (by decide)

theorem mayCall_of_reenter {frame next : TickFrame} {call : QuoteCall}
    (hreenter : frame.reenter call = some next) : frame.mayCall = true := by
  cases frame with
  | handling handler rest nested =>
      cases nested with
      | none => rfl
      | some frame => cases hreenter
  | _ => cases hreenter

/-- What a handler's call keeps that does not lock. -/
theorem Ticking.reenter {system : QuoteSystem} (h : Ticking system) {call : QuoteCall}
    {next : TickFrame} (hreenter : system.tick.reenter call = some next)
    (hlocks : call.locks = false) : Ticking { system with tick := next } := by
  obtain ⟨shared, tick, other⟩ := system
  cases tick with
  | handling handler rest nested =>
      cases nested with
      | some frame => cases hreenter
      | none =>
          cases hreenter
          refine ⟨h.held, h.otherHeld, h.alive, h.clearing, ?_⟩
          rintro frame ⟨⟩
          cases call with
          | request request => cases hlocks
          | disconnect => exact .inl rfl
          | logout => exact .inl rfl
  | _ => cases hreenter

/-- A call that the other thread enters. -/
theorem Ticking.enter {system : QuoteSystem} (h : Ticking system) (call : QuoteCall) :
    Ticking { system with other := some (.enter call) } := by
  refine ⟨h.held, ?_, h.alive, ?_, h.nested⟩
  · rintro frame ⟨⟩ hholds
    cases call <;> cases hholds
  · intro hclearing
    cases call <;> cases hclearing

/-- Outward steps keep the thread ticking. -/
theorem Ticking.step {system after : QuoteSystem} (h : Ticking system) {label : QuoteLabel}
    (houtward : Outward system label) (hstep : quoteStep system label = some after) :
    Ticking after := by
  cases label with
  | tick =>
      obtain ⟨⟨next, shared⟩, hadvance, rfl⟩ := Option.map_eq_some_iff.mp hstep
      exact h.tick (TickFrame.advance_moves hadvance) houtward
  | reenter call =>
      obtain ⟨next, hreenter, rfl⟩ := Option.map_eq_some_iff.mp hstep
      refine h.reenter hreenter (Bool.eq_false_iff.mpr fun hlocks => ?_)
      exact absurd ((mayCall_of_reenter hreenter).symm.trans (houtward hlocks)) (by decide)
  | other =>
      obtain ⟨frame, hframe, hmap⟩ := Option.bind_eq_some_iff.mp hstep
      obtain ⟨⟨next, shared⟩, hadvance, rfl⟩ := Option.map_eq_some_iff.mp hmap
      exact h.other hframe (CallFrame.advance_moves hadvance)
  | enter call =>
      simp only [quoteStep] at hstep
      split at hstep <;> cases hstep
      exact h.enter call

/-- A step that is not outward can be taken, and springs the trap. -/
theorem Ticking.springs {system : QuoteSystem} (h : Ticking system) {label : QuoteLabel}
    (hinward : ¬ Outward system label) :
    ∃ after, quoteStep system label = some after ∧ Trapped after := by
  obtain ⟨shared, tick, other⟩ := system
  cases label with
  | tick =>
      cases tick with
      | handling handler rest nested =>
          obtain rfl : nested = some .stopping := not_not.mp hinward
          have hjoinable : shared.joinable = true := (h.alive rfl).2
          cases handler <;> exact ⟨_, rfl, .inr ⟨rfl, hjoinable⟩⟩
      | _ => exact absurd nofun hinward
  | reenter call =>
      cases call with
      | request request =>
          cases tick with
          | handling handler rest nested =>
              cases nested with
              | none => exact ⟨_, rfl, .inl ⟨⟨request, rfl⟩, h.held rfl⟩⟩
              | some frame => exact absurd (fun _ => rfl) hinward
          | _ => exact absurd (fun _ => rfl) hinward
      | disconnect => exact absurd nofun hinward
      | logout => exact absurd nofun hinward
  | other => exact absurd trivial hinward
  | enter call => exact absurd trivial hinward

theorem Ticking.untrapped_iff {system : QuoteSystem} (h : Ticking system) (label : QuoteLabel) :
    Untrapped system label ↔ Outward system label := by
  constructor
  · intro hfree
    by_contra hinward
    obtain ⟨after, hstep, htrapped⟩ := h.springs hinward
    exact hfree after hstep htrapped
  · intro houtward after hstep
    exact (h.step houtward hstep).not_trapped

/-- In every interleaving of the tick thread, whatever its handlers call, with the calls of
another thread, the tick thread never comes to lock what it holds or to join itself if and
only if no handler calls `Subscribe` or `Unsubscribe` and no `Disconnect` or `Logout` of a
handler goes on to its join. -/
theorem never_trapped_iff (mockSpi : MockQuoteSpi) (onTick : Bool) (instruments : List String)
    (labels : List QuoteLabel) :
    Runs.Along quoteStep Untrapped (.connected mockSpi onTick instruments) labels ↔
      Runs.Along quoteStep Outward (.connected mockSpi onTick instruments) labels := by
  apply Runs.along_congr ?_ ?_ (ticking_connected mockSpi onTick instruments) labels
  · intro system label after h hfree hstep
    exact h.step ((h.untrapped_iff label).mp hfree) hstep
  · intro system label h
    exact h.untrapped_iff label

/-- A tick callback that unsubscribes waits for the mutex that its own thread holds, for
ever. -/
theorem unsubscribe_from_callback :
    ∃ system, Runs.exec quoteStep (.connected ⟨false⟩ true ["IF2401"])
        [.tick, .tick, .tick, .tick, .reenter (.request (.unsubscribe ⟨["IF2401"]⟩))] =
          some system ∧
      LocksHeld system ∧ quoteStep system .tick = none :=
  ⟨_, rfl, ⟨⟨_, rfl⟩, rfl⟩, rfl⟩

end QtradeClient.Mock
