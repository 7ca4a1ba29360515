import QtradeClient.Mock.QuoteLifecycle

/-!
# Passes and requests, one at a time

To its observers the adapter is simpler than its threads: requests, connections and whole
passes happen one after the other, and a pass delivers everything for the list of its time.
The mutex makes a pass atomic, and `Disconnect` waits for the one that is under way, so
every interleaving is one of these.
-/

namespace QtradeClient.Mock

open Sdk Library

variable {π : Type}

/-- The adapter without threads. -/
structure QuoteFeed (π : Type) where
  session : QuoteSession π
  started : Nat
  connected : Bool

inductive FeedEvent where
  | connect
  | disconnect
  | quote (event : QuoteEvent)

/-- A feed as constructed, with its observers in place. -/
def QuoteFeed.create [PriceArithmetic π] (mockSpi : MockQuoteSpi) (onTick : Bool) :
    QuoteFeed π where
  session :=
    { api := { MockQuoteApi.create with mockSpi := mockSpi, onTick := onTick }
      generator := .start
      delivered := [] }
  started := 0
  connected := false

/-- Passes are made on a connection, and each connection starts from the first price. -/
def feedStep [PriceArithmetic π] (depth : Nat) (surroundings : Nat → Surroundings π)
    (feed : QuoteFeed π) : FeedEvent → Option (QuoteFeed π)
  | .connect =>
      if feed.connected then none
      else some ⟨{ feed.session with generator := .start }, feed.started + 1, true⟩
  | .disconnect => if feed.connected then some { feed with connected := false } else none
  | .quote (.asks request) =>
      some { feed with
        session := feed.session.next depth (surroundings feed.started) (.asks request) }
  | .quote .pass =>
      if feed.connected then
        some { feed with session := feed.session.next depth (surroundings feed.started) .pass }
      else none

/-! ## What is left of a pass -/

section Remaining

variable [PriceArithmetic π]

/-- A pass over part of the list. -/
def MockQuoteApi.passOver (depth : Nat) (surroundings : Surroundings π) (api : MockQuoteApi)
    (generator : Generator π) (rest : List String) : List (QuoteDelivery π) × Generator π :=
  { api with instruments := rest }.generatePass depth surroundings generator

/-- What a thread in its pass has still to deliver, and the price it will have reached. -/
def TickThread.remaining (depth : Nat) (surroundings : Surroundings π) (api : MockQuoteApi)
    (thread : TickThread π) : List (QuoteDelivery π) × Generator π :=
  let after := api.passOver depth surroundings thread.generator
  let callback := if api.onTick then thread.tick.toList.map QuoteDelivery.onTick else []
  match thread.frame with
  | .iterating rest => after rest
  | .handling .onTick rest _ => after rest
  | .handling .onDepthMarketData rest _ => (callback ++ (after rest).1, (after rest).2)
  | .published rest => (callback ++ (after rest).1, (after rest).2)
  | _ => ([], thread.generator)

variable {depth : Nat} {surroundings : Surroundings π}

theorem passOver_cons (api : MockQuoteApi) (generator : Generator π) (instrument : String)
    (rest : List String) :
    api.passOver depth surroundings generator (instrument :: rest) =
      let made := generator.tick depth surroundings instrument
      let others := api.passOver depth surroundings made.2 rest
      (api.publish made.1 ++ others.1, others.2) := rfl

/-- A pass is a matter of the list and of the observers. -/
theorem generatePass_eq_passOver (depth : Nat) (surroundings : Surroundings π)
    {api other : MockQuoteApi}
    (hspi : api.mockSpi = other.mockSpi) (htick : api.onTick = other.onTick)
    (hinstruments : api.instruments = other.instruments) (generator : Generator π) :
    api.generatePass depth surroundings generator =
      other.passOver depth surroundings generator other.instruments := by
  obtain ⟨mockSpi, onTick, connected, running, instruments⟩ := api
  cases hspi
  cases htick
  cases hinstruments
  rfl

/-- A step inside a pass delivers the next part of what is left of it. -/
theorem TickThread.Moves.remaining_eq {thread next : TickThread π} {shared shared' : QuoteShared}
    {emitted : List (QuoteDelivery π)}
    (hmoves : thread.Moves depth surroundings shared next shared' emitted)
    (hinside : thread.frame.holds = true) :
    thread.remaining depth surroundings shared.api =
      let remaining := next.remaining depth surroundings shared'.api
      (emitted ++ remaining.1, remaining.2) := by
  cases hmoves with
  | goOn generator tick hrunning => cases hinside
  | finish generator tick hstopped => cases hinside
  | lock generator tick hfree => cases hinside
  | unlock generator tick => rfl
  | make instrument rest generator tick next hnext =>
      -- the callback's share of the tick is still to come
      rcases hnext with rfl | rfl <;>
        exact (passOver_cons ..).trans (Prod.ext (List.append_assoc ..) rfl)
  | leave rest generator tick => rfl
  | call rest generator tick next hnext => rcases hnext with rfl | rfl <;> rfl
  | iterate rest generator tick => rfl

end Remaining

/-- A feed that has delivered what the adapter has, or, during a pass, what it had before;
the pass under way then delivers what a whole one does. -/
structure Matches [PriceArithmetic π] (depth : Nat) (surroundings : Nat → Surroundings π)
    (life : QuoteLife π) (feed : QuoteFeed π) : Prop where
  mockSpi : feed.session.api.mockSpi = life.shared.api.mockSpi
  onTick : feed.session.api.onTick = life.shared.api.onTick
  instruments : feed.session.api.instruments = life.shared.api.instruments
  started : feed.started = life.started
  connected : feed.connected = life.shared.joinable
  between : life.thread.frame.holds = false →
    life.log = feed.session.delivered ∧
      (life.thread.frame ≠ .finished → life.thread.generator = feed.session.generator)
  within : life.thread.frame.holds = true →
    let remaining := life.thread.remaining depth (surroundings life.started) life.shared.api
    let pass := feed.session.api.generatePass depth (surroundings feed.started)
      feed.session.generator
    life.log ++ remaining.1 = feed.session.delivered ++ pass.1 ∧ remaining.2 = pass.2

namespace Matches

variable [PriceArithmetic π] {depth : Nat} {surroundings : Nat → Surroundings π}
  {life : QuoteLife π} {feed : QuoteFeed π}

theorem create (mockSpi : MockQuoteSpi) (onTick : Bool) :
    Matches depth surroundings (.create mockSpi onTick) (.create mockSpi onTick) where
  mockSpi := rfl
  onTick := rfl
  instruments := rfl
  started := rfl
  connected := rfl
  between _ := ⟨rfl, fun _ => rfl⟩
  within := nofun

/-- What a step of the tick thread does in the middle of its pass. -/
theorem goOn (h : Matches depth surroundings life feed) {next : TickThread π}
    {emitted : List (QuoteDelivery π)} (hinside : life.thread.frame.holds = true)
    (hnext : next.frame.holds = true)
    (hremaining : life.thread.remaining depth (surroundings life.started) life.shared.api =
      let remaining := next.remaining depth (surroundings life.started) life.shared.api
      (emitted ++ remaining.1, remaining.2)) :
    Matches depth surroundings { life with thread := next, log := life.log ++ emitted } feed where
  mockSpi := h.mockSpi
  onTick := h.onTick
  instruments := h.instruments
  started := h.started
  connected := h.connected
  between houtside := by cases hnext.symm.trans houtside
  within _ := by
    obtain ⟨hlog, hgenerator⟩ := h.within hinside
    rw [hremaining] at hlog hgenerator
    exact ⟨(List.append_assoc ..).trans hlog, hgenerator⟩

/-- A step of the tick thread outside its pass. -/
theorem wait (h : Matches depth surroundings life feed) {next : TickFrame}
    (houtside : life.thread.frame.holds = false) (hnext : next.holds = false)
    (hgoing : life.thread.frame ≠ .finished) :
    Matches depth surroundings
      { life with thread := { life.thread with frame := next }, log := life.log ++ [] } feed where
  mockSpi := h.mockSpi
  onTick := h.onTick
  instruments := h.instruments
  started := h.started
  connected := h.connected
  between _ := by
    obtain ⟨hlog, hgenerator⟩ := h.between houtside
    exact ⟨(List.append_nil _).trans hlog, fun _ => hgenerator hgoing⟩
  within hinside := by cases hnext.symm.trans hinside

theorem tick (h : Matches depth surroundings life feed) (hliving : Living life)
    {next : TickThread π} {shared : QuoteShared} {emitted : List (QuoteDelivery π)}
    (hmoves : life.thread.Moves depth (surroundings life.started) life.shared next shared
      emitted) :
    ∃ events feed', Runs.exec (feedStep depth surroundings) feed events = some feed' ∧
      Matches depth surroundings
        { life with thread := next, shared := shared, log := life.log ++ emitted } feed' := by
  obtain ⟨before, thread, started, control, log⟩ := life
  have hremaining := hmoves.remaining_eq
  cases hmoves with
  | goOn generator tick hrunning => exact ⟨[], feed, rfl, h.wait rfl rfl nofun⟩
  | finish generator tick hstopped => exact ⟨[], feed, rfl, h.wait rfl rfl nofun⟩
  | lock generator tick hfree =>
      obtain ⟨hlog, hgenerator⟩ := h.between rfl
      obtain rfl : generator = feed.session.generator := hgenerator nofun
      have hpass := generatePass_eq_passOver depth (surroundings feed.started) h.mockSpi h.onTick
        h.instruments feed.session.generator
      refine ⟨[], feed, rfl, h.mockSpi, h.onTick, h.instruments, h.started, h.connected, nofun, ?_⟩
      intro _ remaining pass
      have hremaining : remaining = pass := by
        rw [show pass = _ from hpass]
        change before.api.passOver depth (surroundings started) _ before.api.instruments = _
        rw [h.started]
      rw [hremaining, List.append_nil]
      exact ⟨congrArg (· ++ pass.1) hlog, rfl⟩
  | unlock generator tick =>
      obtain ⟨hlog, hgenerator⟩ := h.within rfl
      have hup : feed.connected = true := h.connected.trans (hliving.up_of_going nofun).2
      refine ⟨[.quote .pass], _, Runs.exec_cons_of_step (if_pos hup) [], ?_⟩
      exact ⟨h.mockSpi, h.onTick, h.instruments, h.started, h.connected,
        fun _ => ⟨hlog, fun _ => hgenerator⟩, nofun⟩
  | make instrument rest generator tick next hnext =>
      refine ⟨[], feed, rfl, h.goOn rfl ?_ (hremaining rfl)⟩
      rcases hnext with rfl | rfl <;> rfl
  | leave rest generator tick => exact ⟨[], feed, rfl, h.goOn rfl rfl (hremaining rfl)⟩
  | call rest generator tick next hnext =>
      refine ⟨[], feed, rfl, h.goOn rfl ?_ (hremaining rfl)⟩
      rcases hnext with rfl | rfl <;> rfl
  | iterate rest generator tick => exact ⟨[], feed, rfl, h.goOn rfl rfl (hremaining rfl)⟩

/-- A step of a call that is not `Connect`, which delivers nothing. -/
theorem call (h : Matches depth surroundings life feed) (hliving : Living life)
    {frame : CallFrame} (hcontrol : life.control = some (.call frame))
    {next : Option CallFrame} {shared : QuoteShared}
    (hadvance : frame.advance .other life.thread.frame.isFinished life.shared =
      some (next, shared)) :
    ∃ events feed', Runs.exec (feedStep depth surroundings) feed events = some feed' ∧
      Matches depth surroundings
        { life with control := next.map .call, shared := shared } feed' := by
  obtain ⟨before, thread, started, control, log⟩ := life
  obtain rfl : control = some (.call frame) := hcontrol
  cases frame with
  | acquiring request =>
      simp only [CallFrame.advance] at hadvance
      split at hadvance <;> cases hadvance
      exact ⟨[], feed, rfl, { h with }⟩
  | assigning request =>
      cases hadvance
      have houtside : thread.frame.holds = false := hliving.outside rfl
      refine ⟨[.quote (.asks request)], _, rfl, ?_⟩
      cases request <;>
        exact ⟨h.mockSpi, h.onTick, rfl, h.started, h.connected, h.between,
          fun hinside => absurd (houtside.symm.trans hinside) Bool.false_ne_true⟩
  | releasing =>
      cases hadvance
      exact ⟨[], feed, rfl, { h with }⟩
  | checking =>
      cases hadvance
      exact ⟨[], feed, rfl, { h with }⟩
  | stopping =>
      cases hadvance
      exact ⟨[], feed, rfl, { h with }⟩
  | joining =>
      have hjoinable : before.joinable = true := hliving.phase.joinable
      simp only [CallFrame.advance, hjoinable, if_true] at hadvance
      split at hadvance <;> cases hadvance
      have hup : feed.connected = true := h.connected.trans hjoinable
      refine ⟨[.disconnect], _, Runs.exec_cons_of_step (if_pos hup) [], ?_⟩
      exact { h with connected := rfl }
  | clearing =>
      cases hadvance
      exact ⟨[], feed, rfl, { h with }⟩

theorem control (h : Matches depth surroundings life feed) (hliving : Living life)
    {frame : ControlFrame} (hcontrol : life.control = some frame) {after : QuoteLife π}
    (hadvance : life.advance frame = some after) :
    ∃ events feed', Runs.exec (feedStep depth surroundings) feed events = some feed' ∧
      Matches depth surroundings after feed' := by
  obtain ⟨before, thread, started, control, log⟩ := life
  obtain rfl : control = some frame := hcontrol
  cases frame with
  | testing =>
      cases hadvance
      exact ⟨[], feed, rfl, { h with }⟩
  | connecting =>
      cases hadvance
      exact ⟨[], feed, rfl, { h with }⟩
  | starting =>
      cases hadvance
      exact ⟨[], feed, rfl, { h with }⟩
  | spawning =>
      have hjoinable : before.joinable = false := hliving.phase.joinable
      simp only [QuoteLife.advance, hjoinable, Bool.false_eq_true, if_false] at hadvance
      cases hadvance
      have hdown : feed.connected = false := h.connected.trans hjoinable
      have houtside : thread.frame.holds = false := by
        rw [show thread.frame = .finished from hliving.absent hjoinable]
        rfl
      refine ⟨[.connect], _, Runs.exec_cons_of_step (if_neg (Bool.eq_false_iff.mp hdown)) [], ?_⟩
      exact ⟨h.mockSpi, h.onTick, h.instruments, congrArg (· + 1) h.started, rfl,
        fun _ => ⟨(h.between houtside).1, fun _ => rfl⟩,
        fun hinside => absurd hinside Bool.false_ne_true⟩
  | call frame =>
      obtain ⟨⟨next, shared⟩, hframe, rfl⟩ := Option.map_eq_some_iff.mp hadvance
      exact h.call hliving rfl hframe

theorem step (h : Matches depth surroundings life feed) (hliving : Living life)
    {label : LifeLabel} {after : QuoteLife π}
    (hstep : lifeStep depth surroundings life label = some after) :
    ∃ events feed', Runs.exec (feedStep depth surroundings) feed events = some feed' ∧
      Matches depth surroundings after feed' := by
  cases label with
  | tick =>
      obtain ⟨⟨next, shared, emitted⟩, hadvance, rfl⟩ := Option.map_eq_some_iff.mp hstep
      exact h.tick hliving (TickThread.advance_moves hliving.unnested hadvance)
  | control =>
      obtain ⟨frame, hcontrol, hadvance⟩ := Option.bind_eq_some_iff.mp hstep
      exact h.control hliving hcontrol hadvance
  | enter controlCall =>
      simp only [lifeStep] at hstep
      split at hstep <;> cases hstep
      exact ⟨[], feed, rfl, { h with }⟩

end Matches

/-- Every interleaving of the two threads over any number of connections is, to the
observers, one of requests, connections and passes that happen one after the other; no pass
is cut short, and none sees a request before its end. -/
theorem passes_atomic [PriceArithmetic π] (depth : Nat) (surroundings : Nat → Surroundings π)
    (mockSpi : MockQuoteSpi) (onTick : Bool) (labels : List LifeLabel) (life : QuoteLife π)
    (hrun : Runs.exec (lifeStep depth surroundings) (.create mockSpi onTick) labels =
      some life) :
    ∃ events feed,
      Runs.exec (feedStep depth surroundings) (.create mockSpi onTick) events = some feed ∧
        Matches depth surroundings life feed :=
  Runs.exec_simulates (fun hliving h hstep => ⟨hliving.step hstep, h.step hliving hstep⟩)
    (Living.create mockSpi onTick) (Matches.create mockSpi onTick) hrun

/-- Two instruments are subscribed, and a pass is left between the SPI and the callback of its
first tick while a request waits. -/
theorem passes_atomic_sample :
    let surroundings : Nat → Surroundings Float := fun _ => ⟨fun _ => 0, fun _ => 0⟩
    let labels : List LifeLabel :=
      [.enter .connect, .control, .control, .control, .control,
        .enter (.call (.request (.subscribe ⟨["IF2401", "IC2401"]⟩))), .control, .control,
        .control, .tick, .tick, .tick, .enter (.call (.request (.unsubscribe ⟨[]⟩)))]
    ∃ life events feed,
      Runs.exec (lifeStep 5 surroundings) (.create ⟨true⟩ true) labels = some life ∧
      Runs.exec (feedStep 5 surroundings) (.create ⟨true⟩ true) events = some feed ∧
      Matches 5 surroundings life feed := by
  intro surroundings labels
  obtain ⟨events, feed, hfeed, hmatches⟩ :=
    passes_atomic 5 surroundings ⟨true⟩ true labels _ rfl
  exact ⟨_, events, feed, rfl, hfeed, hmatches⟩

/-! ## The two channels of the quotes -/

namespace QuoteDelivery

def viaSpi? : QuoteDelivery π → Option (MarketTick π)
  | .spiDepthMarketData tick => some tick
  | .onTick _ => none

def viaCallback? : QuoteDelivery π → Option (MarketTick π)
  | .spiDepthMarketData _ => none
  | .onTick tick => some tick

end QuoteDelivery

/-- The ticks delivered to the SPI, in order. -/
def spiTicks (log : List (QuoteDelivery π)) : List (MarketTick π) :=
  log.filterMap QuoteDelivery.viaSpi?

/-- The ticks delivered to the callback, in order. -/
def callbackTicks (log : List (QuoteDelivery π)) : List (MarketTick π) :=
  log.filterMap QuoteDelivery.viaCallback?

/-- Both observers are there. -/
def MockQuoteApi.Observed (api : MockQuoteApi) : Prop :=
  api.mockSpi.target = true ∧ api.onTick = true

theorem MockQuoteApi.Observed.publish {api : MockQuoteApi} (h : api.Observed)
    (tick : MarketTick π) : api.publish tick = [.spiDepthMarketData tick, .onTick tick] := by
  rw [MockQuoteApi.publish, MockQuoteSpi.publishDepthMarketData, if_pos h.1, if_pos h.2]
  rfl

theorem ticks_publish {api : MockQuoteApi} (h : api.Observed) (ticks : List (MarketTick π)) :
    spiTicks (ticks.flatMap api.publish) = ticks ∧
      callbackTicks (ticks.flatMap api.publish) = ticks := by
  induction ticks with
  | nil => exact ⟨rfl, rfl⟩
  | cons tick ticks ih =>
      obtain ⟨hspi, hcallback⟩ := ih
      rw [List.flatMap_cons, h.publish]
      exact ⟨congrArg (tick :: ·) hspi, congrArg (tick :: ·) hcallback⟩

/-- A feed that is observed both ways has delivered the same ticks both ways. -/
structure Balanced (feed : QuoteFeed π) : Prop where
  observed : feed.session.api.Observed
  balance : spiTicks feed.session.delivered = callbackTicks feed.session.delivered

/-- The tick that the SPI has and the callback has not. -/
def TickThread.pending (thread : TickThread π) : List (MarketTick π) :=
  match thread.frame with
  | .handling .onDepthMarketData _ _ => thread.tick.toList
  | .published _ => thread.tick.toList
  | _ => []

theorem pending_length (thread : TickThread π) : thread.pending.length ≤ 1 := by
  unfold TickThread.pending
  split
  · exact Option.length_toList_le
  · exact Option.length_toList_le
  · exact Nat.zero_le 1

theorem pending_outside {thread : TickThread π} (houtside : thread.frame.holds = false) :
    thread.pending = [] := by
  obtain ⟨frame, generator, tick⟩ := thread
  cases frame with
  | handling handler rest nested => cases houtside
  | published rest => cases houtside
  | _ => rfl

/-- The callback's share of a tick. -/
theorem ticks_callback (tick : Option (MarketTick π)) (others : List (QuoteDelivery π)) :
    spiTicks (tick.toList.map .onTick ++ others) = spiTicks others ∧
      callbackTicks (tick.toList.map .onTick ++ others) =
        tick.toList ++ callbackTicks others := by
  cases tick <;> exact ⟨rfl, rfl⟩

section Channels

variable [PriceArithmetic π]

theorem ticks_pass (depth : Nat) (surroundings : Surroundings π) {api : MockQuoteApi}
    (h : api.Observed) (generator : Generator π) (rest : List String) :
    spiTicks (api.passOver depth surroundings generator rest).1 =
      callbackTicks (api.passOver depth surroundings generator rest).1 := by
  have hsame : MockQuoteApi.Observed { api with instruments := rest } := h
  obtain ⟨hspi, hcallback⟩ := ticks_publish hsame (generator.pass depth surroundings rest).1
  exact hspi.trans hcallback.symm

theorem Balanced.pass {feed : QuoteFeed π} (h : Balanced feed) (depth : Nat)
    (surroundings : Surroundings π) :
    spiTicks (feed.session.delivered ++
        (feed.session.api.generatePass depth surroundings feed.session.generator).1) =
      callbackTicks (feed.session.delivered ++
        (feed.session.api.generatePass depth surroundings feed.session.generator).1) := by
  have hmade := ticks_pass depth surroundings h.observed feed.session.generator
    feed.session.api.instruments
  rw [spiTicks, callbackTicks, List.filterMap_append, List.filterMap_append]
  exact congrArg₂ _ h.balance hmade

theorem Balanced.step {depth : Nat} {surroundings : Nat → Surroundings π} {feed feed' : QuoteFeed π}
    (h : Balanced feed) {event : FeedEvent}
    (hstep : feedStep depth surroundings feed event = some feed') : Balanced feed' := by
  cases event with
  | connect =>
      simp only [feedStep] at hstep
      split at hstep <;> cases hstep
      exact ⟨h.observed, h.balance⟩
  | disconnect =>
      simp only [feedStep] at hstep
      split at hstep <;> cases hstep
      exact ⟨h.observed, h.balance⟩
  | quote event =>
      cases event with
      | asks request =>
          cases hstep
          cases request <;> exact ⟨h.observed, h.balance⟩
      | pass =>
          simp only [feedStep] at hstep
          split at hstep <;> cases hstep
          exact ⟨h.observed, h.pass depth _⟩

/-- What is left of a pass evens out what the callback has not got yet. -/
theorem ticks_remaining (depth : Nat) (surroundings : Surroundings π) {api : MockQuoteApi}
    (h : api.Observed) (thread : TickThread π) :
    callbackTicks (thread.remaining depth surroundings api).1 =
      thread.pending ++ spiTicks (thread.remaining depth surroundings api).1 := by
  obtain ⟨frame, generator, tick⟩ := thread
  have hrest (rest : List String) := ticks_pass depth surroundings h generator rest
  have hcallback (rest : List String) :
      let callback := if api.onTick then tick.toList.map QuoteDelivery.onTick else []
      let left := callback ++ (api.passOver depth surroundings generator rest).1
      callbackTicks left = tick.toList ++ spiTicks left := by
    intro callback left
    obtain ⟨hspi, htick⟩ :=
      ticks_callback tick (api.passOver depth surroundings generator rest).1
    simp only [left, callback, if_pos h.2]
    rw [hspi, htick, hrest]
  cases frame with
  | iterating rest => exact (hrest rest).symm
  | handling handler rest nested =>
      cases handler with
      | onDepthMarketData => exact hcallback rest
      | onTick => exact (hrest rest).symm
  | published rest => exact hcallback rest
  | _ => rfl

/-- On an adapter with a registered SPI and a tick callback, the callback has got in every
state what the SPI has, but for the one tick that is on its way to it during a pass. -/
theorem ticks_reach_both (depth : Nat) (surroundings : Nat → Surroundings π)
    (labels : List LifeLabel)
    (life : QuoteLife π)
    (hrun : Runs.exec (lifeStep depth surroundings) (.create ⟨true⟩ true) labels = some life) :
    ∃ pending, spiTicks life.log = callbackTicks life.log ++ pending ∧ pending.length ≤ 1 ∧
      (life.thread.frame.holds = false → pending = []) := by
  obtain ⟨events, feed, hfeed, hmatches⟩ :=
    Runs.exec_simulates (fun hliving h hstep => ⟨hliving.step hstep, h.step hliving hstep⟩)
      (Living.create ⟨true⟩ true) (Matches.create ⟨true⟩ true) hrun
  have hbalanced : Balanced feed :=
    Runs.exec_preserves (fun h hstep => h.step hstep) hfeed ⟨⟨rfl, rfl⟩, rfl⟩
  refine ⟨life.thread.pending, ?_, pending_length _, pending_outside⟩
  cases hinside : life.thread.frame.holds with
  | false =>
      rw [pending_outside hinside, List.append_nil, (hmatches.between hinside).1]
      exact hbalanced.balance
  | true =>
      have hobserved : life.shared.api.Observed :=
        ⟨(congrArg MockQuoteSpi.target hmatches.mockSpi).symm.trans hbalanced.observed.1,
          hmatches.onTick.symm.trans hbalanced.observed.2⟩
      -- what is delivered and what is left of the pass are a whole number of passes
      obtain ⟨hlog, -⟩ := hmatches.within hinside
      have hwhole := hbalanced.pass depth (surroundings feed.started)
      rw [← hlog, spiTicks, callbackTicks, List.filterMap_append, List.filterMap_append] at hwhole
      have hleft := ticks_remaining depth (surroundings life.started) hobserved life.thread
      rw [callbackTicks] at hleft
      rw [hleft, ← List.append_assoc] at hwhole
      exact List.append_cancel_right hwhole

/-- A handler of the SPI runs, and the callback has its tick still to come. -/
theorem ticks_reach_both_sample :
    let surroundings : Nat → Surroundings Float := fun _ => ⟨fun _ => 0, fun _ => 0⟩
    let labels : List LifeLabel :=
      [.enter .connect, .control, .control, .control, .control,
        .enter (.call (.request (.subscribe ⟨["IF2401", "IC2401"]⟩))), .control, .control,
        .control, .tick, .tick, .tick]
    ∃ life pending,
      Runs.exec (lifeStep 5 surroundings) (.create ⟨true⟩ true) labels = some life ∧
      spiTicks life.log = callbackTicks life.log ++ pending ∧ pending.length ≤ 1 := by
  intro surroundings labels
  obtain ⟨pending, hpending, hlength, -⟩ := ticks_reach_both 5 surroundings labels _ rfl
  exact ⟨_, pending, rfl, hpending, hlength⟩

end Channels

end QtradeClient.Mock
