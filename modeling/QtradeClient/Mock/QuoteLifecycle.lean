import Mathlib.Data.Prod.Lex
import QtradeClient.Mock.QuoteThreads

/-!
# The mock quotes over their whole life

`Connect` starts the tick thread and `Disconnect` waits for it to finish; in between the
requests of the controlling thread and the passes of the tick thread meet at the mutex.
Here the observers do not call back, and the two threads run over any number of
connections, with everything that the ticks carry.
-/

namespace QtradeClient.Mock

open Sdk Library

/-- What the controlling thread calls. -/
inductive ControlCall where
  | connect
  | call (quoteCall : QuoteCall)

/-- Where a call of the controlling thread stands. -/
inductive ControlFrame where
  | testing
  | connecting
  | starting
  | spawning
  | call (frame : CallFrame)

/-- The tick thread: where it stands, and the local variables of `GenerateMockTicks`.  A
thread that has not been started is one that has finished. -/
structure TickThread (π : Type) where
  frame : TickFrame
  generator : Generator π
  tick : Option (MarketTick π)

/-- The adapter with its threads; `started` counts the threads that it has started. -/
structure QuoteLife (π : Type) where
  shared : QuoteShared
  thread : TickThread π
  started : Nat
  control : Option ControlFrame
  log : List (QuoteDelivery π)

inductive LifeLabel where
  | tick
  | control
  | enter (call : ControlCall)

/-- The two steps of threads that already run. -/
def LifeLabel.isStep : LifeLabel → Bool
  | .tick => true
  | .control => true
  | .enter _ => false

namespace ControlFrame

def enter : ControlCall → ControlFrame
  | .connect => .testing
  | .call quoteCall => .call (.enter quoteCall)

/-- The call is inside its locked region. -/
def holds : ControlFrame → Bool
  | .call frame => frame.holds
  | _ => false

end ControlFrame

variable {π : Type}

/-- A thread as it starts. -/
def TickThread.fresh [PriceArithmetic π] : TickThread π := ⟨.testing, .start, none⟩

/-- A thread that is not there. -/
def TickThread.absent [PriceArithmetic π] : TickThread π := ⟨.finished, .start, none⟩

/-- The flow of control is that of `TickFrame`; what the loop makes goes to the two
observers in turn. -/
def TickThread.advance [PriceArithmetic π] (depth : Nat) (surroundings : Surroundings π)
    (shared : QuoteShared) (thread : TickThread π) :
    Option (TickThread π × QuoteShared × List (QuoteDelivery π)) :=
  (thread.frame.advance shared).map fun after =>
    match thread.frame with
    | .iterating (instrument :: _) =>
        let made := thread.generator.tick depth surroundings instrument
        (⟨after.1, made.2, some made.1⟩, after.2,
          shared.api.mockSpi.publishDepthMarketData made.1)
    | .published _ =>
        (⟨after.1, thread.generator, thread.tick⟩, after.2,
          if shared.api.onTick then thread.tick.toList.map .onTick else [])
    | _ => (⟨after.1, thread.generator, thread.tick⟩, after.2, [])

namespace QuoteLife

/-- The adapter as constructed, with its observers in place. -/
def create [PriceArithmetic π] (mockSpi : MockQuoteSpi) (onTick : Bool) : QuoteLife π where
  shared :=
    { api := { MockQuoteApi.create with mockSpi := mockSpi, onTick := onTick }
      mutex := none
      joinable := false }
  thread := .absent
  started := 0
  control := none
  log := []

/-- One step of a call.  Assigning to a thread that is joinable would end the process. -/
def advance [PriceArithmetic π] (life : QuoteLife π) : ControlFrame → Option (QuoteLife π)
  | .testing =>
      some { life with control := if life.shared.api.connected then none else some .connecting }
  | .connecting =>
      some { life with
        control := some .starting
        shared := { life.shared with api := { life.shared.api with connected := true } } }
  | .starting =>
      some { life with
        control := some .spawning
        shared := { life.shared with api := { life.shared.api with running := true } } }
  | .spawning =>
      if life.shared.joinable then none
      else
        some { life with
          control := none
          shared := { life.shared with joinable := true }
          thread := .fresh
          started := life.started + 1 }
  | .call frame =>
      (frame.advance .other life.thread.frame.isFinished life.shared).map fun after =>
        { life with control := after.1.map .call, shared := after.2 }

end QuoteLife

/-- Each thread that is started meets draws of its own. -/
def lifeStep [PriceArithmetic π] (depth : Nat) (surroundings : Nat → Surroundings π)
    (life : QuoteLife π) : LifeLabel → Option (QuoteLife π)
  | .tick =>
      (life.thread.advance depth (surroundings life.started) life.shared).map fun after =>
        { life with thread := after.1, shared := after.2.1, log := life.log ++ after.2.2 }
  | .control => life.control.bind life.advance
  | .enter call =>
      if life.control.isNone then some { life with control := some (.enter call) } else none

/-! ## What a step of the tick thread does -/

/-- The steps of a tick thread whose handlers do not call back. -/
inductive TickThread.Moves [PriceArithmetic π] (depth : Nat) (surroundings : Surroundings π)
    (shared : QuoteShared) :
    TickThread π → TickThread π → QuoteShared → List (QuoteDelivery π) → Prop where
  | goOn (generator : Generator π) (tick : Option (MarketTick π))
      (running : shared.api.running = true) :
      Moves depth surroundings shared ⟨.testing, generator, tick⟩ ⟨.locking, generator, tick⟩
        shared []
  | finish (generator : Generator π) (tick : Option (MarketTick π))
      (stopped : shared.api.running = false) :
      Moves depth surroundings shared ⟨.testing, generator, tick⟩ ⟨.finished, generator, tick⟩
        shared []
  | lock (generator : Generator π) (tick : Option (MarketTick π)) (free : shared.mutex = none) :
      Moves depth surroundings shared ⟨.locking, generator, tick⟩
        ⟨.iterating shared.api.instruments, generator, tick⟩
        { shared with mutex := some .tick } []
  | unlock (generator : Generator π) (tick : Option (MarketTick π)) :
      Moves depth surroundings shared ⟨.iterating [], generator, tick⟩
        ⟨.testing, generator, tick⟩ { shared with mutex := none } []
  | make (instrument : String) (rest : List String) (generator : Generator π)
      (tick : Option (MarketTick π)) (next : TickFrame)
      (next_eq : next = .handling .onDepthMarketData rest none ∨ next = .published rest) :
      Moves depth surroundings shared ⟨.iterating (instrument :: rest), generator, tick⟩
        ⟨next, (generator.tick depth surroundings instrument).2,
          some (generator.tick depth surroundings instrument).1⟩ shared
        (shared.api.mockSpi.publishDepthMarketData
          (generator.tick depth surroundings instrument).1)
  | leave (rest : List String) (generator : Generator π) (tick : Option (MarketTick π)) :
      Moves depth surroundings shared ⟨.handling .onDepthMarketData rest none, generator, tick⟩
        ⟨.published rest, generator, tick⟩ shared []
  | call (rest : List String) (generator : Generator π) (tick : Option (MarketTick π))
      (next : TickFrame)
      (next_eq : next = .handling .onTick rest none ∨ next = .iterating rest) :
      Moves depth surroundings shared ⟨.published rest, generator, tick⟩
        ⟨next, generator, tick⟩ shared
        (if shared.api.onTick then tick.toList.map .onTick else [])
  | iterate (rest : List String) (generator : Generator π) (tick : Option (MarketTick π)) :
      Moves depth surroundings shared ⟨.handling .onTick rest none, generator, tick⟩
        ⟨.iterating rest, generator, tick⟩ shared []

theorem TickThread.advance_moves [PriceArithmetic π] {depth : Nat}
    {surroundings : Surroundings π} {shared shared' : QuoteShared} {thread next : TickThread π}
    {emitted : List (QuoteDelivery π)} (hnested : thread.frame.nested? = none)
    (hadvance : thread.advance depth surroundings shared = some (next, shared', emitted)) :
    thread.Moves depth surroundings shared next shared' emitted := by
  obtain ⟨frame, generator, tick⟩ := thread
  obtain ⟨⟨after, shared''⟩, hframe, hmade⟩ := Option.map_eq_some_iff.mp hadvance
  cases frame with
  | testing =>
      cases hframe
      cases hmade
      cases hrunning : shared.api.running with
      | true => exact .goOn generator tick hrunning
      | false => exact .finish generator tick hrunning
  | locking =>
      simp only [TickFrame.advance] at hframe
      split at hframe <;> cases hframe
      cases hmade
      exact .lock generator tick ‹_›
  | iterating rest =>
      cases rest with
      | nil =>
          cases hframe
          cases hmade
          exact .unlock generator tick
      | cons instrument rest =>
          cases hframe
          cases hmade
          refine .make instrument rest generator tick _ ?_
          split
          · exact .inl rfl
          · exact .inr rfl
  | handling handler rest nested =>
      obtain rfl : nested = none := hnested
      cases handler <;> cases hframe <;> cases hmade
      · exact .leave rest generator tick
      · exact .iterate rest generator tick
  | published rest =>
      cases hframe
      cases hmade
      refine .call rest generator tick _ ?_
      split
      · exact .inl rfl
      · exact .inr rfl
  | finished => cases hframe

/-! ## Every interleaving -/

/-- The flags of a connection. -/
structure Flagged (connected running joinable : Bool) (shared : QuoteShared) : Prop where
  connected : shared.api.connected = connected
  running : shared.api.running = running
  joinable : shared.joinable = joinable

/-- How the flags stand at each point of a call, or between calls. -/
def Phase (shared : QuoteShared) : Option ControlFrame → Prop
  | some .connecting => Flagged false false false shared
  | some .starting => Flagged true false false shared
  | some .spawning => Flagged true true false shared
  | some (.call .stopping) => Flagged true true true shared
  | some (.call .joining) => Flagged true false true shared
  | some (.call .clearing) => Flagged true false false shared
  | _ => Flagged false false false shared ∨ Flagged true true true shared

/-- The instruments whose ticks are still to come in a pass are the last ones of the
subscription, that of the current tick before them. -/
def TickThread.Subscribed (thread : TickThread π) (instruments : List String) : Prop :=
  match thread.frame with
  | .iterating rest => rest <:+ instruments
  | .handling .onTick rest _ => rest <:+ instruments
  | .handling .onDepthMarketData rest _ =>
      ∃ tick, thread.tick = some tick ∧ tick.instrument :: rest <:+ instruments
  | .published rest => ∃ tick, thread.tick = some tick ∧ tick.instrument :: rest <:+ instruments
  | _ => True

/-- What holds in every state: the flags are those of the phase, the mutex belongs to the
thread that is inside its locked region, and there is a tick thread where there should be. -/
structure Living (life : QuoteLife π) : Prop where
  phase : Phase life.shared life.control
  tickHolds : life.thread.frame.holds = true ↔ life.shared.mutex = some .tick
  controlHolds : life.control.any ControlFrame.holds = true ↔ life.shared.mutex = some .other
  unnested : life.thread.frame.nested? = none
  absent : life.shared.joinable = false → life.thread.frame = .finished
  present : life.shared.api.running = true → life.shared.joinable = true →
    life.thread.frame.isFinished = false
  subscribed : life.thread.Subscribed life.shared.api.instruments

theorem Flagged.of_flags {connected running joinable : Bool} {shared shared' : QuoteShared}
    (h : Flagged connected running joinable shared)
    (hconnected : shared'.api.connected = shared.api.connected)
    (hrunning : shared'.api.running = shared.api.running)
    (hjoinable : shared'.joinable = shared.joinable) : Flagged connected running joinable shared' :=
  ⟨hconnected.trans h.connected, hrunning.trans h.running, hjoinable.trans h.joinable⟩

/-- A phase is a matter of the flags. -/
theorem Phase.of_flags {shared shared' : QuoteShared} {control : Option ControlFrame}
    (h : Phase shared control) (hconnected : shared'.api.connected = shared.api.connected)
    (hrunning : shared'.api.running = shared.api.running)
    (hjoinable : shared'.joinable = shared.joinable) : Phase shared' control := by
  have hstands {connected running joinable : Bool}
      (hbefore : Flagged connected running joinable shared) :
      Flagged connected running joinable shared' :=
    hbefore.of_flags hconnected hrunning hjoinable
  cases control with
  | none => exact h.imp hstands hstands
  | some frame =>
      cases frame with
      | testing => exact h.imp hstands hstands
      | call frame =>
          cases frame with
          | stopping => exact hstands h
          | joining => exact hstands h
          | clearing => exact hstands h
          | _ => exact h.imp hstands hstands
      | _ => exact hstands h

theorem TickFrame.finished_of_isFinished {frame : TickFrame}
    (hfinished : frame.isFinished = true) : frame = .finished := by
  cases frame with
  | finished => rfl
  | _ => cases hfinished

theorem TickThread.subscribed_of_outside {thread : TickThread π}
    (houtside : thread.frame.holds = false) (instruments : List String) :
    thread.Subscribed instruments := by
  obtain ⟨frame, generator, tick⟩ := thread
  cases frame with
  | iterating rest => cases houtside
  | handling handler rest nested => cases houtside
  | published rest => cases houtside
  | _ => trivial

namespace Living

variable {life : QuoteLife π}

/-- The two threads are never in their locked regions together. -/
theorem exclusive (h : Living life) (htick : life.thread.frame.holds = true) :
    life.control.any ControlFrame.holds = false := by
  cases hcontrol : life.control.any ControlFrame.holds with
  | false => rfl
  | true => cases (h.tickHolds.mp htick).symm.trans (h.controlHolds.mp hcontrol)

theorem outside (h : Living life) (hcontrol : life.control.any ControlFrame.holds = true) :
    life.thread.frame.holds = false :=
  Bool.eq_false_iff.mpr fun hinside => by cases hcontrol.symm.trans (h.exclusive hinside)

/-- Where neither thread is in its locked region, the mutex is free. -/
theorem free (h : Living life) (htick : life.thread.frame.holds = false)
    (hcontrol : life.control.any ControlFrame.holds = false) : life.shared.mutex = none := by
  cases hmutex : life.shared.mutex with
  | none => rfl
  | some owner =>
      cases owner with
      | tick => cases htick.symm.trans (h.tickHolds.mpr hmutex)
      | other => cases hcontrol.symm.trans (h.controlHolds.mpr hmutex)

/-- A step of the tick thread that leaves everything shared alone. -/
theorem keep (h : Living life) {next : TickThread π} {emitted : List (QuoteDelivery π)}
    (hholds : next.frame.holds = life.thread.frame.holds) (hnested : next.frame.nested? = none)
    (habsent : life.shared.joinable = false → next.frame = .finished)
    (hpresent : life.shared.api.running = true → next.frame.isFinished = false)
    (hsubscribed : next.Subscribed life.shared.api.instruments) :
    Living { life with thread := next, log := life.log ++ emitted } where
  phase := h.phase
  tickHolds := by
    rw [hholds]
    exact h.tickHolds
  controlHolds := h.controlHolds
  unnested := hnested
  absent := habsent
  present hrunning _ := hpresent hrunning
  subscribed := hsubscribed

theorem joinable_of_going (h : Living life) (hgoing : life.thread.frame ≠ .finished)
    {next : TickFrame} (hjoinable : life.shared.joinable = false) : next = .finished :=
  absurd (h.absent hjoinable) hgoing

/-- A step of a call that neither takes nor gives up the mutex. -/
theorem flags (h : Living life) {shared : QuoteShared} {next : Option ControlFrame}
    (hphase : Phase shared next) (hmutex : shared.mutex = life.shared.mutex)
    (hholds : next.any ControlFrame.holds = life.control.any ControlFrame.holds)
    (hinstruments : life.thread.frame.holds = true →
      shared.api.instruments = life.shared.api.instruments)
    (habsent : shared.joinable = false → life.thread.frame = .finished)
    (hpresent : shared.api.running = true → shared.joinable = true →
      life.thread.frame.isFinished = false) :
    Living { life with control := next, shared := shared } where
  phase := hphase
  tickHolds := by
    rw [hmutex]
    exact h.tickHolds
  controlHolds := by
    rw [hmutex, hholds]
    exact h.controlHolds
  unnested := h.unnested
  absent := habsent
  present := hpresent
  subscribed := by
    cases hinside : life.thread.frame.holds with
    | false => exact TickThread.subscribed_of_outside hinside _
    | true =>
        rw [hinstruments hinside]
        exact h.subscribed

/-- A request gets the mutex, which the tick thread is then not holding. -/
theorem acquire (h : Living life) {request : QuoteRequest}
    (hcontrol : life.control = some (.call (.acquiring request)))
    (hfree : life.shared.mutex = none) :
    Living { life with
      control := some (.call (.assigning request))
      shared := { life.shared with mutex := some .other } } := by
  have hphase := h.phase
  rw [hcontrol] at hphase
  have houtside : life.thread.frame.holds = false :=
    Bool.eq_false_iff.mpr fun hinside => by cases hfree.symm.trans (h.tickHolds.mp hinside)
  have hother : some Thread.other ≠ some .tick := by decide
  exact ⟨hphase.of_flags rfl rfl rfl, iff_of_false (Bool.eq_false_iff.mp houtside) hother,
    iff_of_true rfl rfl, h.unnested, h.absent, h.present,
    TickThread.subscribed_of_outside houtside _⟩

/-- A request changes the list, which the tick thread is then not going through. -/
theorem assign (h : Living life) {request : QuoteRequest}
    (hcontrol : life.control = some (.call (.assigning request))) :
    Living { life with
      control := some (.call .releasing)
      shared := { life.shared with api := (life.shared.api.request request).2 } } := by
  have hphase := h.phase
  rw [hcontrol] at hphase
  have hconnected : (life.shared.api.request request).2.connected = life.shared.api.connected := by
    cases request <;> rfl
  have hrunning : (life.shared.api.request request).2.running = life.shared.api.running := by
    cases request <;> rfl
  have hholds : life.control.any ControlFrame.holds = true := by
    rw [hcontrol]
    rfl
  refine h.flags ?_ rfl hholds.symm (fun hinside => ?_) h.absent ?_
  · exact hphase.imp (fun hstands => hstands.of_flags hconnected hrunning rfl)
      fun hstands => hstands.of_flags hconnected hrunning rfl
  · cases (h.outside hholds).symm.trans hinside
  · exact fun hup => h.present (hrunning.symm.trans hup)

theorem release (h : Living life) (hcontrol : life.control = some (.call .releasing)) :
    Living { life with control := none, shared := { life.shared with mutex := none } } := by
  have hphase := h.phase
  rw [hcontrol] at hphase
  have hbetween : Phase life.shared none := hphase
  have hmutex : life.shared.mutex = some .other := by
    refine h.controlHolds.mp ?_
    rw [hcontrol]
    rfl
  have hfree (holder : Thread) : (none : Option Thread) ≠ some holder :=
    (Option.some_ne_none holder).symm
  refine ⟨hbetween.of_flags rfl rfl rfl, iff_of_false (fun hinside => ?_) (hfree .tick),
    iff_of_false Bool.false_ne_true (hfree .other), h.unnested, h.absent, h.present,
    h.subscribed⟩
  cases hmutex.symm.trans (h.tickHolds.mp hinside)

/-- What a step of a call keeps that is not `Connect`. -/
theorem call (h : Living life) {frame : CallFrame} (hcontrol : life.control = some (.call frame))
    {next : Option CallFrame} {shared : QuoteShared}
    (hadvance : frame.advance .other life.thread.frame.isFinished life.shared =
      some (next, shared)) :
    Living { life with control := next.map .call, shared := shared } := by
  obtain ⟨before, thread, started, control, log⟩ := life
  obtain rfl : control = some (.call frame) := hcontrol
  have hphase := h.phase
  cases frame with
  | acquiring request =>
      simp only [CallFrame.advance] at hadvance
      split at hadvance <;> cases hadvance
      exact h.acquire rfl ‹_›
  | assigning request =>
      cases hadvance
      exact h.assign rfl
  | releasing =>
      cases hadvance
      exact h.release rfl
  | checking =>
      cases hadvance
      refine h.flags ?_ rfl ?_ (fun _ => rfl) h.absent h.present
      · rcases hphase with hdown | hup
        · rw [hdown.connected]
          exact .inl hdown
        · rw [hup.connected]
          exact hup
      · split <;> rfl
  | stopping =>
      cases hadvance
      exact h.flags ⟨hphase.connected, rfl, hphase.joinable⟩ rfl rfl (fun _ => rfl) h.absent
        fun hrunning => absurd hrunning Bool.false_ne_true
  | joining =>
      have hjoinable : before.joinable = true := hphase.joinable
      simp only [CallFrame.advance, hjoinable, if_true] at hadvance
      split at hadvance <;> cases hadvance
      refine h.flags ⟨hphase.connected, hphase.running, rfl⟩ rfl rfl (fun _ => rfl) ?_
        fun _ hjoinable => absurd hjoinable Bool.false_ne_true
      exact fun _ => TickFrame.finished_of_isFinished ‹_›
  | clearing =>
      cases hadvance
      exact h.flags (.inl ⟨rfl, hphase.running, hphase.joinable⟩) rfl rfl (fun _ => rfl) h.absent
        h.present

/-- A call may be entered at any time. -/
theorem enter (h : Living life) (hidle : life.control = none) (controlCall : ControlCall) :
    Living { life with control := some (.enter controlCall) } := by
  have hphase : Phase life.shared none := hidle ▸ h.phase
  have hholds : (some (ControlFrame.enter controlCall)).any ControlFrame.holds =
      life.control.any ControlFrame.holds := by
    rw [hidle]
    cases controlCall with
    | connect => rfl
    | call quoteCall => cases quoteCall <;> rfl
  refine h.flags ?_ rfl hholds (fun _ => rfl) h.absent h.present
  cases controlCall with
  | connect => exact hphase
  | call quoteCall => cases quoteCall <;> exact hphase

variable [PriceArithmetic π] {depth : Nat}

theorem create (mockSpi : MockQuoteSpi) (onTick : Bool) :
    Living (.create mockSpi onTick : QuoteLife π) where
  phase := .inl ⟨rfl, rfl, rfl⟩
  tickHolds := iff_of_false nofun nofun
  controlHolds := iff_of_false nofun nofun
  unnested := rfl
  absent _ := rfl
  present := nofun
  subscribed := trivial

theorem tick (h : Living life) {surroundings : Surroundings π} {next : TickThread π}
    {shared : QuoteShared} {emitted : List (QuoteDelivery π)}
    (hmoves : life.thread.Moves depth surroundings life.shared next shared emitted) :
    Living { life with thread := next, shared := shared, log := life.log ++ emitted } := by
  obtain ⟨before, thread, started, control, log⟩ := life
  cases hmoves with
  | goOn generator tick hrunning =>
      exact h.keep rfl rfl (h.joinable_of_going nofun) (fun _ => rfl) trivial
  | finish generator tick hstopped =>
      refine h.keep rfl rfl (fun _ => rfl) (fun hrunning => ?_) trivial
      cases hrunning.symm.trans hstopped
  | lock generator tick hfree =>
      refine ⟨h.phase.of_flags rfl rfl rfl, iff_of_true rfl rfl, iff_of_false ?_ nofun, rfl,
        h.joinable_of_going nofun, fun _ _ => rfl, List.suffix_refl _⟩
      intro hcontrol
      cases hfree.symm.trans (h.controlHolds.mp hcontrol)
  | unlock generator tick =>
      have hcontrol := h.exclusive rfl
      refine ⟨h.phase.of_flags rfl rfl rfl, iff_of_false nofun nofun, iff_of_false ?_ nofun, rfl,
        h.joinable_of_going nofun, fun _ _ => rfl, trivial⟩
      exact Bool.eq_false_iff.mp hcontrol
  | make instrument rest generator tick next hnext =>
      have hsuffix : instrument :: rest <:+ before.api.instruments := h.subscribed
      rcases hnext with rfl | rfl
      · exact h.keep rfl rfl (h.joinable_of_going nofun) (fun _ => rfl) ⟨_, rfl, hsuffix⟩
      · exact h.keep rfl rfl (h.joinable_of_going nofun) (fun _ => rfl) ⟨_, rfl, hsuffix⟩
  | leave rest generator tick =>
      exact h.keep rfl rfl (h.joinable_of_going nofun) (fun _ => rfl) h.subscribed
  | call rest generator tick next hnext =>
      obtain ⟨made, -, hsuffix⟩ := h.subscribed
      have hrest : rest <:+ before.api.instruments := (List.suffix_cons _ rest).trans hsuffix
      rcases hnext with rfl | rfl
      · exact h.keep rfl rfl (h.joinable_of_going nofun) (fun _ => rfl) hrest
      · exact h.keep rfl rfl (h.joinable_of_going nofun) (fun _ => rfl) hrest
  | iterate rest generator tick =>
      exact h.keep rfl rfl (h.joinable_of_going nofun) (fun _ => rfl) h.subscribed

/-- A call of the controlling thread. -/
theorem control (h : Living life) {frame : ControlFrame} (hcontrol : life.control = some frame)
    {after : QuoteLife π} (hadvance : life.advance frame = some after) : Living after := by
  obtain ⟨before, thread, started, control, log⟩ := life
  obtain rfl : control = some frame := hcontrol
  have hphase := h.phase
  cases frame with
  | testing =>
      cases hadvance
      refine h.flags ?_ rfl ?_ (fun _ => rfl) h.absent h.present
      · rcases hphase with hdown | hup
        · rw [hdown.connected]
          exact hdown
        · rw [hup.connected]
          exact .inr hup
      · split <;> rfl
  | connecting =>
      cases hadvance
      exact h.flags ⟨rfl, hphase.running, hphase.joinable⟩ rfl rfl (fun _ => rfl) h.absent
        h.present
  | starting =>
      cases hadvance
      refine h.flags ⟨hphase.connected, rfl, hphase.joinable⟩ rfl rfl (fun _ => rfl) h.absent ?_
      intro _ hjoinable
      cases hphase.joinable.symm.trans hjoinable
  | spawning =>
      have hjoinable : before.joinable = false := hphase.joinable
      simp only [QuoteLife.advance, hjoinable, Bool.false_eq_true, if_false] at hadvance
      cases hadvance
      have hframe : thread.frame = .finished := h.absent hjoinable
      have htick : before.mutex ≠ some .tick := by
        intro hmutex
        have hinside := h.tickHolds.mpr hmutex
        rw [hframe] at hinside
        cases hinside
      have hother : before.mutex ≠ some .other := by
        intro hmutex
        cases h.controlHolds.mpr hmutex
      exact ⟨.inr ⟨hphase.connected, hphase.running, rfl⟩, iff_of_false nofun htick,
        iff_of_false nofun hother, rfl, nofun, fun _ _ => rfl, trivial⟩
  | call frame =>
      obtain ⟨⟨next, shared⟩, hframe, rfl⟩ := Option.map_eq_some_iff.mp hadvance
      exact h.call rfl hframe

theorem step (h : Living life) {surroundings : Nat → Surroundings π} {label : LifeLabel}
    {after : QuoteLife π} (hstep : lifeStep depth surroundings life label = some after) :
    Living after := by
  cases label with
  | tick =>
      obtain ⟨⟨next, shared, emitted⟩, hadvance, rfl⟩ := Option.map_eq_some_iff.mp hstep
      exact h.tick (TickThread.advance_moves h.unnested hadvance)
  | control =>
      obtain ⟨frame, hcontrol, hadvance⟩ := Option.bind_eq_some_iff.mp hstep
      exact h.control hcontrol hadvance
  | enter controlCall =>
      simp only [lifeStep] at hstep
      split at hstep <;> cases hstep
      exact h.enter (Option.isNone_iff_eq_none.mp ‹_›) controlCall

/-- A `Connect` that is left alone does what the sequential one does, and starts a thread
where that connects. -/
theorem uninterrupted_connect (h : Living life) (surroundings : Nat → Surroundings π)
    (hidle : life.control = none) :
    ∃ count final, Runs.exec (lifeStep depth surroundings) life
        (.enter .connect :: List.replicate count .control) = some final ∧
      final.control = none ∧ final.shared.api = life.shared.api.connect.2 ∧
      final.log = life.log ∧
      (life.shared.api.connected = false →
        final.thread = .fresh ∧ final.started = life.started + 1) := by
  obtain ⟨⟨api, mutex, joinable⟩, thread, started, control, log⟩ := life
  obtain rfl : control = none := hidle
  have hphase : Phase ⟨api, mutex, joinable⟩ none := h.phase
  rcases hphase with hdown | hup
  · obtain rfl : joinable = false := hdown.joinable
    have hdown : api.connected = false := hdown.connected
    obtain ⟨mockSpi, onTick, connected, running, instruments⟩ := api
    obtain rfl : connected = false := hdown
    exact ⟨4, _, rfl, rfl, rfl, rfl, fun _ => ⟨rfl, rfl⟩⟩
  · have hup : api.connected = true := hup.connected
    obtain ⟨mockSpi, onTick, connected, running, instruments⟩ := api
    obtain rfl : connected = true := hup
    exact ⟨1, _, rfl, rfl, rfl, rfl, fun hdown => absurd hdown.symm Bool.false_ne_true⟩

end Living

/-! ## What is delivered, and when -/

def QuoteDelivery.tick : QuoteDelivery π → MarketTick π
  | .spiDepthMarketData tick => tick
  | .onTick tick => tick

/-- Every tick that is delivered is one for a subscribed instrument, by a thread that has
been started and not joined yet. -/
def Delivers (life : QuoteLife π) (emitted : List (QuoteDelivery π)) : Prop :=
  ∀ delivery ∈ emitted, delivery.tick.instrument ∈ life.shared.api.instruments ∧
    life.shared.api.connected = true ∧ life.shared.joinable = true

theorem Living.up_of_going {life : QuoteLife π} (h : Living life)
    (hgoing : life.thread.frame ≠ .finished) :
    life.shared.api.connected = true ∧ life.shared.joinable = true := by
  obtain ⟨before, thread, started, control, log⟩ := life
  have hjoinable : before.joinable = true := by
    cases hjoined : before.joinable with
    | true => rfl
    | false => exact absurd (h.absent hjoined) hgoing
  have hphase := h.phase
  have hbetween (hstands : Flagged false false false before ∨ Flagged true true true before) :
      before.api.connected = true := by
    rcases hstands with hdown | hup
    · cases hdown.joinable.symm.trans hjoinable
    · exact hup.connected
  refine ⟨?_, hjoinable⟩
  cases control with
  | none => exact hbetween hphase
  | some frame =>
      cases frame with
      | testing => exact hbetween hphase
      | connecting => cases hphase.joinable.symm.trans hjoinable
      | starting => exact hphase.connected
      | spawning => exact hphase.connected
      | call frame =>
          cases frame with
          | stopping => exact hphase.connected
          | joining => exact hphase.connected
          | clearing => exact hphase.connected
          | _ => exact hbetween hphase

theorem delivers_nothing (life : QuoteLife π) : Delivers life [] := List.forall_mem_nil _

section Deliveries

variable [PriceArithmetic π] {depth : Nat} {surroundings : Nat → Surroundings π}
  {life after : QuoteLife π}

theorem advance_log {frame : ControlFrame} (hadvance : life.advance frame = some after) :
    after.log = life.log := by
  cases frame with
  | testing => cases hadvance; rfl
  | connecting => cases hadvance; rfl
  | starting => cases hadvance; rfl
  | spawning =>
      simp only [QuoteLife.advance] at hadvance
      split at hadvance <;> cases hadvance
      rfl
  | call frame =>
      obtain ⟨moved, -, rfl⟩ := Option.map_eq_some_iff.mp hadvance
      rfl

theorem Living.tick_delivers (h : Living life) {surroundings : Surroundings π}
    {next : TickThread π} {shared : QuoteShared} {emitted : List (QuoteDelivery π)}
    (hmoves : life.thread.Moves depth surroundings life.shared next shared emitted) :
    Delivers life emitted := by
  obtain ⟨before, thread, started, control, log⟩ := life
  cases hmoves with
  | make instrument rest generator tick next hnext =>
      have hsuffix : instrument :: rest <:+ before.api.instruments := h.subscribed
      have hmem : instrument ∈ before.api.instruments := hsuffix.subset List.mem_cons_self
      have hup := h.up_of_going (nofun : TickFrame.iterating (instrument :: rest) ≠ .finished)
      intro delivery hdelivery
      unfold MockQuoteSpi.publishDepthMarketData at hdelivery
      split at hdelivery
      · rw [List.mem_singleton.mp hdelivery]
        exact ⟨hmem, hup⟩
      · cases hdelivery
  | call rest generator tick next hnext =>
      obtain ⟨made, hmade, hsuffix⟩ := h.subscribed
      obtain rfl : tick = some made := hmade
      have hmem : made.instrument ∈ before.api.instruments := hsuffix.subset List.mem_cons_self
      have hup := h.up_of_going (nofun : TickFrame.published rest ≠ .finished)
      intro delivery hdelivery
      split at hdelivery
      · rw [List.mem_singleton.mp hdelivery]
        exact ⟨hmem, hup⟩
      · cases hdelivery
  | _ => exact delivers_nothing _

theorem Living.step_delivers (h : Living life) {label : LifeLabel}
    (hstep : lifeStep depth surroundings life label = some after) :
    ∃ emitted, after.log = life.log ++ emitted ∧ Delivers life emitted := by
  cases label with
  | tick =>
      obtain ⟨⟨next, shared, emitted⟩, hadvance, rfl⟩ := Option.map_eq_some_iff.mp hstep
      exact ⟨emitted, rfl, h.tick_delivers (TickThread.advance_moves h.unnested hadvance)⟩
  | control =>
      obtain ⟨frame, -, hadvance⟩ := Option.bind_eq_some_iff.mp hstep
      exact ⟨[], (advance_log hadvance).trans (List.append_nil _).symm, delivers_nothing life⟩
  | enter controlCall =>
      simp only [lifeStep] at hstep
      split at hstep <;> cases hstep
      exact ⟨[], (List.append_nil _).symm, delivers_nothing life⟩

/-- In every interleaving over any number of connections: a thread is started only where
there is none, a connection that is down has none left, and whatever a step delivers is for
an instrument that is subscribed at that moment, on a connection that is up. -/
theorem lifecycle_safe (depth : Nat) (surroundings : Nat → Surroundings π)
    (mockSpi : MockQuoteSpi) (onTick : Bool) (labels : List LifeLabel) (life : QuoteLife π)
    (hrun : Runs.exec (lifeStep depth surroundings) (.create mockSpi onTick) labels =
      some life) :
    (life.control = some .spawning → life.shared.joinable = false) ∧
      (life.shared.api.connected = false → life.thread.frame = .finished) ∧
      ∀ label after, lifeStep depth surroundings life label = some after →
        ∃ emitted, after.log = life.log ++ emitted ∧ Delivers life emitted := by
  have hliving : Living life :=
    Runs.exec_preserves (fun h hstep => h.step hstep) hrun (.create mockSpi onTick)
  refine ⟨fun hspawning => ?_, fun hdown => ?_, fun label after hstep => ?_⟩
  · have hphase := hliving.phase
    rw [hspawning] at hphase
    exact hphase.joinable
  · by_contra hgoing
    cases hdown.symm.trans (hliving.up_of_going hgoing).1
  · exact hliving.step_delivers hstep

/-- The adapter is connected, ticks once for one of two instruments, and is told to stop. -/
theorem lifecycle_safe_sample :
    let surroundings : Nat → Surroundings Float := fun _ => ⟨fun _ => 0, fun _ => 0⟩
    let labels : List LifeLabel :=
      [.enter .connect, .control, .control, .control, .control,
        .enter (.call (.request (.subscribe ⟨["IF2401", "IC2401"]⟩))), .control, .control,
        .control, .tick, .tick, .tick, .enter (.call .disconnect), .control, .control]
    ∃ life, Runs.exec (lifeStep 5 surroundings) (.create ⟨true⟩ true) labels = some life ∧
      life.control = some (.call .joining) ∧
      ∀ label after, lifeStep 5 surroundings life label = some after →
        ∃ emitted, after.log = life.log ++ emitted ∧ Delivers life emitted := by
  intro surroundings labels
  exact ⟨_, rfl, rfl, (lifecycle_safe 5 surroundings ⟨true⟩ true labels _ rfl).2.2⟩

end Deliveries

/-! ## Every call returns -/

/-- The steps that the thread still has in its pass at most. -/
def TickFrame.rank (instruments : List String) : TickFrame → Nat
  | .finished => 0
  | .testing => 1
  | .iterating rest => 4 * rest.length + 2
  | .handling .onTick rest _ => 4 * rest.length + 3
  | .published rest => 4 * rest.length + 4
  | .handling .onDepthMarketData rest _ => 4 * rest.length + 5
  | .locking => 4 * instruments.length + 3

/-- The steps that a call still has. -/
def ControlFrame.rank : ControlFrame → Nat
  | .testing => 4
  | .connecting => 3
  | .starting => 2
  | .spawning => 1
  | .call (.acquiring _) => 3
  | .call (.assigning _) => 2
  | .call .releasing => 1
  | .call .checking => 4
  | .call .stopping => 3
  | .call .joining => 2
  | .call .clearing => 1

def QuoteLife.rank (life : QuoteLife π) : Nat ×ₗ Nat :=
  toLex ((life.control.map ControlFrame.rank).getD 0,
    life.thread.frame.rank life.shared.api.instruments)

section Returning

variable [PriceArithmetic π] {depth : Nat} {surroundings : Nat → Surroundings π}
  {life : QuoteLife π}

/-- A helpful step: one of the threads brings the call in progress closer to its end. -/
def Helped (depth : Nat) (surroundings : Nat → Surroundings π) (life : QuoteLife π) : Prop :=
  ∃ label after, label.isStep = true ∧
    lifeStep depth surroundings life label = some after ∧ after.rank < life.rank

/-- A thread goes where its flow of control goes. -/
theorem TickThread.exists_advance (depth : Nat) (surroundings : Surroundings π)
    (thread : TickThread π) {shared shared' : QuoteShared} {next : TickFrame}
    (hadvance : thread.frame.advance shared = some (next, shared')) :
    ∃ after emitted, thread.advance depth surroundings shared = some (after, shared', emitted) ∧
      after.frame = next := by
  unfold TickThread.advance
  rw [hadvance, Option.map_some]
  split <;> exact ⟨_, _, rfl, rfl⟩

theorem helped_control {frame : ControlFrame} (hcontrol : life.control = some frame)
    {after : QuoteLife π} (hadvance : life.advance frame = some after)
    (hlower : (after.control.map ControlFrame.rank).getD 0 < frame.rank) :
    Helped depth surroundings life := by
  refine ⟨.control, after, rfl, Option.bind_eq_some_iff.mpr ⟨frame, hcontrol, hadvance⟩, ?_⟩
  refine Prod.Lex.toLex_lt_toLex.mpr (.inl ?_)
  rw [hcontrol]
  exact hlower

/-- A tick thread that is stopping or in its pass has a step that brings it closer to the
end of it. -/
theorem TickFrame.exists_lower {frame : TickFrame} {shared : QuoteShared}
    (hnested : frame.nested? = none) (hgoing : frame ≠ .finished)
    (htesting : frame = .testing → shared.api.running = false)
    (hlocking : frame = .locking → shared.mutex = none) :
    ∃ after, frame.advance shared = some after ∧
      after.2.api.instruments = shared.api.instruments ∧
        after.1.rank shared.api.instruments < frame.rank shared.api.instruments := by
  cases frame with
  | testing =>
      refine ⟨_, rfl, rfl, ?_⟩
      rw [htesting rfl]
      exact Nat.zero_lt_one
  | locking =>
      refine ⟨_, if_pos (hlocking rfl), rfl, ?_⟩
      exact Nat.lt_succ_self _
  | iterating rest =>
      cases rest with
      | nil => exact ⟨_, rfl, rfl, Nat.lt_succ_self 1⟩
      | cons instrument rest =>
          refine ⟨_, rfl, rfl, ?_⟩
          change TickFrame.rank _ (ite _ _ _) < 4 * (rest.length + 1) + 2
          split
          · exact Nat.lt_succ_self (4 * rest.length + 5)
          · change 4 * rest.length + 4 < _
            omega
  | handling handler rest nested =>
      obtain rfl : nested = none := hnested
      cases handler with
      | onDepthMarketData => exact ⟨_, rfl, rfl, Nat.lt_succ_self _⟩
      | onTick => exact ⟨_, rfl, rfl, Nat.lt_succ_self _⟩
  | published rest =>
      refine ⟨_, rfl, rfl, ?_⟩
      change TickFrame.rank _ (ite _ _ _) < 4 * rest.length + 4
      split
      · exact Nat.lt_succ_self (4 * rest.length + 3)
      · change 4 * rest.length + 2 < _
        omega
  | finished => exact absurd rfl hgoing

theorem helped_tick (hnested : life.thread.frame.nested? = none)
    (hgoing : life.thread.frame ≠ .finished)
    (htesting : life.thread.frame = .testing → life.shared.api.running = false)
    (hlocking : life.thread.frame = .locking → life.shared.mutex = none) :
    Helped depth surroundings life := by
  obtain ⟨⟨next, shared⟩, hadvance, hinstruments, hlower⟩ :=
    TickFrame.exists_lower hnested hgoing htesting hlocking
  obtain ⟨after, emitted, hafter, hframe⟩ :=
    TickThread.exists_advance depth (surroundings life.started) life.thread hadvance
  refine ⟨.tick, _, rfl, Option.map_eq_some_iff.mpr ⟨_, hafter, rfl⟩, ?_⟩
  refine Prod.Lex.toLex_lt_toLex.mpr (.inr ⟨rfl, ?_⟩)
  rw [hframe, hinstruments]
  exact hlower

/-- A call in progress goes on by itself, or waits for the tick thread to leave its pass or to
finish. -/
theorem Living.helped (h : Living life) (hbusy : life.control ≠ none) :
    Helped depth surroundings life := by
  obtain ⟨frame, hcontrol⟩ := Option.ne_none_iff_exists'.mp hbusy
  have hphase := h.phase
  rw [hcontrol] at hphase
  cases frame with
  | testing =>
      refine helped_control hcontrol rfl ?_
      simp only
      split <;> decide
  | connecting => exact helped_control hcontrol rfl (Nat.lt_succ_self 2)
  | starting => exact helped_control hcontrol rfl (Nat.lt_succ_self 1)
  | spawning =>
      refine helped_control hcontrol (if_neg ?_) Nat.zero_lt_one
      exact Bool.eq_false_iff.mp hphase.joinable
  | call frame =>
      cases frame with
      | acquiring request =>
          cases hmutex : life.shared.mutex with
          | none =>
              refine helped_control hcontrol (Option.map_eq_some_iff.mpr ⟨_, if_pos hmutex, rfl⟩) ?_
              exact Nat.lt_succ_self 2
          | some owner =>
              -- the tick thread is in its pass, and leaves it by its own steps
              obtain rfl : owner = .tick := by
                cases owner with
                | tick => rfl
                | other =>
                    have hholds := h.controlHolds.mpr hmutex
                    rw [hcontrol] at hholds
                    cases hholds
              have hinside := h.tickHolds.mpr hmutex
              refine helped_tick h.unnested ?_ ?_ ?_ <;> intro hframe <;> rw [hframe] at hinside <;>
                cases hinside
      | assigning request => exact helped_control hcontrol rfl (Nat.lt_succ_self 1)
      | releasing => exact helped_control hcontrol rfl Nat.zero_lt_one
      | checking =>
          refine helped_control hcontrol rfl ?_
          simp only
          split <;> decide
      | stopping => exact helped_control hcontrol rfl (Nat.lt_succ_self 2)
      | joining =>
          by_cases hfinished : life.thread.frame = .finished
          · have hjoined : CallFrame.joining.advance .other life.thread.frame.isFinished
                life.shared = some (some .clearing, { life.shared with joinable := false }) := by
              rw [CallFrame.advance, if_pos hphase.joinable, hfinished]
              rfl
            exact helped_control hcontrol (Option.map_eq_some_iff.mpr ⟨_, hjoined, rfl⟩)
              (Nat.lt_succ_self 1)
          · refine helped_tick h.unnested hfinished (fun _ => hphase.running) fun hframe => ?_
            have htick : life.thread.frame.holds = false := congrArg TickFrame.holds hframe
            refine h.free htick ?_
            rw [hcontrol]
            rfl
      | clearing => exact helped_control hcontrol rfl Nat.zero_lt_one

/-- In every interleaving over any number of connections, the call in progress can be brought
to its end by steps of the two threads: no request waits for ever for the mutex, and no
`Disconnect` for the thread it joins. -/
theorem calls_return (depth : Nat) (surroundings : Nat → Surroundings π)
    (mockSpi : MockQuoteSpi) (onTick : Bool) (labels : List LifeLabel) (life : QuoteLife π)
    (hrun : Runs.exec (lifeStep depth surroundings) (.create mockSpi onTick) labels =
      some life) :
    ∃ more final, (∀ label ∈ more, label.isStep = true) ∧
      Runs.exec (lifeStep depth surroundings) life more = some final ∧ final.control = none := by
  have hliving : Living life :=
    Runs.exec_preserves (fun h hstep => h.step hstep) hrun (.create mockSpi onTick)
  have hhelps : ∀ life : QuoteLife π, Living life → ¬ life.control = none →
      ∃ label after, label.isStep = true ∧ lifeStep depth surroundings life label = some after ∧
        Living after ∧ after.rank < life.rank := by
    intro life h hbusy
    obtain ⟨label, after, hstep, hafter, hlower⟩ := h.helped hbusy
    exact ⟨label, after, hstep, hafter, h.step hafter, hlower⟩
  obtain ⟨more, final, hmore, hfinal, -, hdone⟩ :=
    Runs.exists_helpful QuoteLife.rank hhelps life hliving
  exact ⟨more, final, hmore, hfinal, hdone⟩

/-- `Disconnect` is entered while a handler runs, and waits for the rest of the pass. -/
theorem calls_return_sample :
    let surroundings : Nat → Surroundings Float := fun _ => ⟨fun _ => 0, fun _ => 0⟩
    let labels : List LifeLabel :=
      [.enter .connect, .control, .control, .control, .control,
        .enter (.call (.request (.subscribe ⟨["IF2401", "IC2401"]⟩))), .control, .control,
        .control, .tick, .tick, .tick, .enter (.call .disconnect), .control, .control]
    ∃ life more final,
      Runs.exec (lifeStep 5 surroundings) (.create ⟨true⟩ true) labels = some life ∧
      life.control = some (.call .joining) ∧
      Runs.exec (lifeStep 5 surroundings) life more = some final ∧ final.control = none := by
  intro surroundings labels
  obtain ⟨more, final, -, hmore, hdone⟩ :=
    calls_return 5 surroundings ⟨true⟩ true labels _ rfl
  exact ⟨_, more, final, rfl, rfl, hmore, hdone⟩

end Returning

end QtradeClient.Mock
