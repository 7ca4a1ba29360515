import QtradeClient.Mock.QuotePasses

/-!
# Subscribers are served

While a connection is up and no call is in progress, the tick thread owes nothing to anyone
else: its own steps bring the pass under way to its end, and then make a whole one for the
list as it stands.
-/

namespace QtradeClient.Mock

open Sdk Library

variable {π : Type}

/-! ## Who watches -/

theorem TickThread.Moves.api_eq [PriceArithmetic π] {depth : Nat} {surroundings : Surroundings π}
    {thread next : TickThread π} {shared shared' : QuoteShared}
    {emitted : List (QuoteDelivery π)}
    (hmoves : thread.Moves depth surroundings shared next shared' emitted) :
    shared'.api = shared.api := by
  cases hmoves <;> rfl

namespace WatchedBy

variable {mockSpi : MockQuoteSpi} {onTick : Bool}

theorem call {thread : Thread} {finished : Bool} {shared shared' : QuoteShared}
    {frame : CallFrame} {next : Option CallFrame} (h : WatchedBy mockSpi onTick shared.api)
    (hmoves : frame.Moves thread finished shared next shared') :
    WatchedBy mockSpi onTick shared'.api := by
  cases hmoves with
  | assign request => cases request <;> exact ⟨h.mockSpi, h.onTick⟩
  | _ => exact ⟨h.mockSpi, h.onTick⟩

theorem control [PriceArithmetic π] {life after : QuoteLife π} {frame : ControlFrame}
    (h : WatchedBy mockSpi onTick life.shared.api) (hadvance : life.advance frame = some after) :
    WatchedBy mockSpi onTick after.shared.api := by
  cases frame with
  | testing => cases hadvance; exact h
  | connecting => cases hadvance; exact ⟨h.mockSpi, h.onTick⟩
  | starting => cases hadvance; exact ⟨h.mockSpi, h.onTick⟩
  | spawning =>
      simp only [QuoteLife.advance] at hadvance
      split at hadvance <;> cases hadvance
      exact h
  | call frame =>
      obtain ⟨⟨next, shared⟩, hframe, rfl⟩ := Option.map_eq_some_iff.mp hadvance
      exact h.call (CallFrame.advance_moves hframe)

theorem step [PriceArithmetic π] {depth : Nat} {surroundings : Nat → Surroundings π}
    {life after : QuoteLife π} (h : WatchedBy mockSpi onTick life.shared.api)
    (hliving : Living life) {label : LifeLabel}
    (hstep : lifeStep depth surroundings life label = some after) :
    WatchedBy mockSpi onTick after.shared.api := by
  cases label with
  | tick =>
      obtain ⟨⟨next, shared, emitted⟩, hadvance, rfl⟩ := Option.map_eq_some_iff.mp hstep
      rw [(TickThread.advance_moves hliving.unnested hadvance).api_eq]
      exact h
  | control =>
      obtain ⟨frame, -, hadvance⟩ := Option.bind_eq_some_iff.mp hstep
      exact h.control hadvance
  | enter controlCall =>
      simp only [lifeStep] at hstep
      split at hstep <;> cases hstep
      exact h

end WatchedBy

/-! ## A thread on its own -/

/-- The instruments that have no tick yet in the pass under way. -/
def TickFrame.rest : TickFrame → List String
  | .iterating rest => rest
  | .handling _ rest _ => rest
  | .published rest => rest
  | _ => []

/-- What is left of a pass: the callback's share of the tick under way, and the ticks of the
other instruments. -/
theorem TickThread.remaining_eq [PriceArithmetic π] (depth : Nat)
    (surroundings : Surroundings π) (api : MockQuoteApi) (thread : TickThread π) :
    (thread.remaining depth surroundings api).1 =
      (if api.onTick then thread.pending.map .onTick else []) ++
        (thread.generator.pass depth surroundings thread.frame.rest).1.flatMap api.publish := by
  have hnone : (if api.onTick then ([] : List (MarketTick π)).map QuoteDelivery.onTick else []) =
      [] := by split <;> rfl
  obtain ⟨frame, generator, tick⟩ := thread
  cases frame with
  | handling handler rest nested =>
      cases handler with
      | onDepthMarketData => rfl
      | onTick =>
          rw [TickThread.pending, hnone]
          rfl
  | published rest => rfl
  | _ =>
      rw [TickThread.pending, hnone]
      rfl

/-- Nothing but the tick thread has a step, and it is to go on for ever. -/
structure Undisturbed (api : MockQuoteApi) (started : Nat) (life : QuoteLife π) : Prop where
  living : Living life
  idle : life.control = none
  up : life.shared.api.connected = true
  api : life.shared.api = api
  started : life.started = started

namespace Undisturbed

variable {api : MockQuoteApi} {started : Nat} {life : QuoteLife π}

theorem flags (h : Undisturbed api started life) : Flagged true true true life.shared := by
  have hphase := h.living.phase
  rw [h.idle] at hphase
  rcases hphase with hdown | hup
  · cases hdown.connected.symm.trans h.up
  · exact hup

theorem going (h : Undisturbed api started life) : life.thread.frame ≠ .finished := by
  intro hfinished
  have hgoing := h.living.present h.flags.running h.flags.joinable
  rw [hfinished] at hgoing
  cases hgoing

/-- Between two passes the mutex is free. -/
theorem free (h : Undisturbed api started life) (houtside : life.thread.frame.holds = false) :
    life.shared.mutex = none := by
  refine h.living.free houtside ?_
  rw [h.idle]
  rfl

variable [PriceArithmetic π] {depth : Nat} {surroundings : Nat → Surroundings π}
  {after : QuoteLife π}

theorem step (h : Undisturbed api started life)
    (hstep : lifeStep depth surroundings life .tick = some after) :
    Undisturbed api started after := by
  have hliving := h.living.step hstep
  obtain ⟨⟨next, shared, emitted⟩, hadvance, rfl⟩ := Option.map_eq_some_iff.mp hstep
  have hapi : shared.api = life.shared.api :=
    (TickThread.advance_moves h.living.unnested hadvance).api_eq
  exact ⟨hliving, h.idle, (congrArg MockQuoteApi.connected hapi).trans h.up, hapi.trans h.api,
    h.started⟩

/-- A step inside a pass, after which the log and what is left of the pass are together what
they were. -/
theorem exists_inside (h : Undisturbed api started life)
    (hinside : life.thread.frame.holds = true) :
    ∃ after, lifeStep depth surroundings life .tick = some after ∧
      after.log ++ (after.thread.remaining depth (surroundings started) api).1 =
        life.log ++ (life.thread.remaining depth (surroundings started) api).1 ∧
      after.thread.frame.rank api.instruments < life.thread.frame.rank api.instruments := by
  have hpass {frame : TickFrame} (hholds : frame.holds = false) : life.thread.frame ≠ frame := by
    intro hframe
    cases hholds.symm.trans ((congrArg TickFrame.holds hframe).symm.trans hinside)
  have htesting (hframe : life.thread.frame = .testing) : life.shared.api.running = false :=
    absurd hframe (hpass rfl)
  have hlocking (hframe : life.thread.frame = .locking) : life.shared.mutex = none :=
    absurd hframe (hpass rfl)
  obtain ⟨⟨frame, shared⟩, hframe, -, hlower⟩ :=
    TickFrame.exists_lower h.living.unnested h.going htesting hlocking
  obtain ⟨next, emitted, hadvance, hnext⟩ :=
    TickThread.exists_advance depth (surroundings life.started) life.thread hframe
  have hmoves := TickThread.advance_moves h.living.unnested hadvance
  have hremaining := hmoves.remaining_eq hinside
  rw [hmoves.api_eq, h.api, h.started] at hremaining
  refine ⟨_, Option.map_eq_some_iff.mpr ⟨_, hadvance, rfl⟩, ?_, ?_⟩
  · rw [hremaining]
    exact List.append_assoc ..
  · rw [← h.api]
    exact hnext ▸ hlower

/-- The rest of a pass is delivered by the steps of the tick thread alone. -/
theorem finish_pass (depth : Nat) (surroundings : Nat → Surroundings π)
    (h : Undisturbed api started life) :
    ∃ more final, (∀ label ∈ more, label = .tick) ∧
      Runs.exec (lifeStep depth surroundings) life more = some final ∧
      Undisturbed api started final ∧ final.thread.frame.holds = false ∧
      final.log = life.log ++ (life.thread.remaining depth (surroundings started) api).1 := by
  let whole := life.log ++ (life.thread.remaining depth (surroundings started) api).1
  let Inv (now : QuoteLife π) : Prop :=
    Undisturbed api started now ∧
      now.log ++ (now.thread.remaining depth (surroundings started) api).1 = whole
  have hhelps : ∀ now : QuoteLife π, Inv now → ¬ now.thread.frame.holds = false →
      ∃ label after, label = .tick ∧ lifeStep depth surroundings now label = some after ∧
        Inv after ∧
        after.thread.frame.rank api.instruments < now.thread.frame.rank api.instruments := by
    intro now hnow hinside
    obtain ⟨after, hstep, hkept, hlower⟩ :=
      hnow.1.exists_inside (Bool.of_not_eq_false hinside)
    exact ⟨.tick, after, rfl, hstep, ⟨hnow.1.step hstep, hkept.trans hnow.2⟩, hlower⟩
  obtain ⟨more, final, hmore, hrun, ⟨hquiet, hlog⟩, houtside⟩ :=
    Runs.exists_helpful (fun now : QuoteLife π => now.thread.frame.rank api.instruments) hhelps
      life ⟨h, rfl⟩
  refine ⟨more, final, hmore, hrun, hquiet, houtside, ?_⟩
  -- outside a pass nothing is left of one
  have hnothing : (final.thread.remaining depth (surroundings started) api).1 = [] := by
    unfold TickThread.remaining
    generalize final.thread.frame = frame at houtside
    cases frame with
    | iterating rest => cases houtside
    | handling handler rest nested => cases houtside
    | published rest => cases houtside
    | _ => rfl
  rw [hnothing, List.append_nil] at hlog
  exact hlog

/-- A step between two passes, which delivers nothing. -/
theorem exists_outside (depth : Nat) (surroundings : Nat → Surroundings π)
    (h : Undisturbed api started life) {next : TickFrame} {shared : QuoteShared}
    (hadvance : life.thread.frame.advance life.shared = some (next, shared))
    (houtside : life.thread.frame.holds = false) :
    ∃ after, lifeStep depth surroundings life .tick = some after ∧
      Undisturbed api started after ∧ after.thread.frame = next ∧ after.log = life.log := by
  obtain ⟨thread, emitted, hthread, hframe⟩ :=
    TickThread.exists_advance depth (surroundings life.started) life.thread hadvance
  have hstep : lifeStep depth surroundings life .tick = some _ :=
    Option.map_eq_some_iff.mpr ⟨_, hthread, rfl⟩
  refine ⟨_, hstep, h.step hstep, hframe, ?_⟩
  obtain ⟨before, ⟨frame, generator, tick⟩, started, control, log⟩ := life
  cases TickThread.advance_moves h.living.unnested hthread with
  | goOn _ _ _ => exact List.append_nil _
  | finish _ _ _ => exact List.append_nil _
  | lock _ _ _ => exact List.append_nil _
  | _ => cases houtside

/-- Between two passes the thread goes on to the next one. -/
theorem begin_pass (depth : Nat) (surroundings : Nat → Surroundings π)
    (h : Undisturbed api started life) (houtside : life.thread.frame.holds = false) :
    ∃ more final, (∀ label ∈ more, label = .tick) ∧
      Runs.exec (lifeStep depth surroundings) life more = some final ∧
      Undisturbed api started final ∧ final.thread.frame = .iterating api.instruments ∧
      final.log = life.log := by
  have hlocking {now : QuoteLife π} (hnow : Undisturbed api started now)
      (hframe : now.thread.frame = .locking) :
      ∃ after, lifeStep depth surroundings now .tick = some after ∧
        Undisturbed api started after ∧ after.thread.frame = .iterating api.instruments ∧
        after.log = now.log := by
    have hholds : now.thread.frame.holds = false := congrArg TickFrame.holds hframe
    have hgoes : now.thread.frame.advance now.shared =
        some (.iterating api.instruments, { now.shared with mutex := some .tick }) := by
      rw [hframe, ← hnow.api]
      exact if_pos (hnow.free hholds)
    exact hnow.exists_outside depth surroundings hgoes hholds
  cases hframe : life.thread.frame with
  | testing =>
      have hgoes : life.thread.frame.advance life.shared = some (.locking, life.shared) := by
        rw [hframe, TickFrame.advance, if_pos h.flags.running]
      obtain ⟨middle, hfirst, hmiddle, hlocked, hkept⟩ :=
        h.exists_outside depth surroundings hgoes houtside
      obtain ⟨final, hsecond, hfinal, hiterating, hlog⟩ := hlocking hmiddle hlocked
      refine ⟨[.tick, .tick], final, by simp, ?_, hfinal, hiterating, hlog.trans hkept⟩
      rw [Runs.exec_cons_of_step hfirst, Runs.exec_cons_of_step hsecond]
      rfl
  | locking =>
      obtain ⟨final, hstep, hfinal, hiterating, hlog⟩ := hlocking h hframe
      exact ⟨[.tick], final, by simp, Runs.exec_cons_of_step hstep [], hfinal, hiterating, hlog⟩
  | finished => exact absurd hframe h.going
  | _ =>
      rw [hframe] at houtside
      cases houtside

end Undisturbed

/-- In every interleaving over any number of connections, once a connection is up and no call
is in progress, the steps of the tick thread alone finish the pass under way, with the
callback's share of its current tick and a tick for each instrument that has none yet, and
then deliver a whole one: a tick for every instrument of the current list, in its order, each
to the SPI and to the callback, where these are set. -/
theorem subscribers_served [PriceArithmetic π] (depth : Nat) (surroundings : Nat → Surroundings π)
    (mockSpi : MockQuoteSpi) (onTick : Bool) (labels : List LifeLabel) (life : QuoteLife π)
    (hrun : Runs.exec (lifeStep depth surroundings) (.create mockSpi onTick) labels =
      some life)
    (hidle : life.control = none) (hup : life.shared.api.connected = true) :
    let each : MarketTick π → List (QuoteDelivery π) := fun tick =>
      (if mockSpi.target then [.spiDepthMarketData tick] else []) ++
        if onTick then [.onTick tick] else []
    ∃ (more : List LifeLabel) (final : QuoteLife π) (rest ticks : List (MarketTick π)),
      (∀ label ∈ more, label = .tick) ∧
      Runs.exec (lifeStep depth surroundings) life more = some final ∧
      final.log = life.log ++ (if onTick then life.thread.pending.map .onTick else []) ++
        rest.flatMap each ++ ticks.flatMap each ∧
      rest.map MarketTick.instrument = life.thread.frame.rest ∧
      ticks.map MarketTick.instrument = life.shared.api.instruments := by
  intro each
  let Inv (now : QuoteLife π) : Prop := Living now ∧ WatchedBy mockSpi onTick now.shared.api
  have hstepped {now after : QuoteLife π} {label : LifeLabel} (h : Inv now)
      (hstep : lifeStep depth surroundings now label = some after) : Inv after :=
    ⟨h.1.step hstep, h.2.step h.1 hstep⟩
  obtain ⟨hliving, hwatched⟩ : Inv life :=
    Runs.exec_preserves hstepped hrun ⟨.create mockSpi onTick, rfl, rfl⟩
  have heach : life.shared.api.publish = each := funext hwatched.publish_eq
  have hquiet : Undisturbed life.shared.api life.started life := ⟨hliving, hidle, hup, rfl, rfl⟩
  obtain ⟨first, between, hfirst, hrunFirst, hbetween, houtside, hlogFirst⟩ :=
    hquiet.finish_pass depth surroundings
  obtain ⟨second, begun, hsecond, hrunSecond, hbegun, hiterating, hlogSecond⟩ :=
    hbetween.begin_pass depth surroundings houtside
  obtain ⟨third, final, hthird, hrunThird, -, -, hlogThird⟩ :=
    hbegun.finish_pass depth surroundings
  let rest := life.thread.generator.pass depth (surroundings life.started) life.thread.frame.rest
  let pass := begun.thread.generator.pass depth (surroundings life.started)
    life.shared.api.instruments
  refine ⟨first ++ (second ++ third), final, rest.1, pass.1, ?_, ?_, ?_,
    Generator.pass_instruments .., Generator.pass_instruments ..⟩
  · exact List.forall_mem_append.mpr ⟨hfirst, List.forall_mem_append.mpr ⟨hsecond, hthird⟩⟩
  · rw [Runs.exec_append, hrunFirst, Option.bind_some, Runs.exec_append, hrunSecond,
      Option.bind_some, hrunThird]
  · have hpass : (begun.thread.remaining depth (surroundings life.started) life.shared.api).1 =
        pass.1.flatMap each := by
      rw [TickThread.remaining, hiterating, ← heach]
      rfl
    rw [hlogThird, hlogSecond, hlogFirst, hpass, TickThread.remaining_eq, hwatched.onTick, heach,
      ← List.append_assoc]

/-- A pass is left between the SPI and the callback of the first of two ticks: it owes the
callback that tick and both observers the other one, and the next pass both of them two. -/
theorem subscribers_served_sample :
    let surroundings : Nat → Surroundings Float := fun _ => ⟨fun _ => 0, fun _ => 0⟩
    let labels : List LifeLabel :=
      [.enter .connect, .control, .control, .control, .control,
        .enter (.call (.request (.subscribe ⟨["IF2401", "IC2401"]⟩))), .control, .control,
        .control, .tick, .tick, .tick]
    ∃ (life : QuoteLife Float) (more : List LifeLabel) (final : QuoteLife Float)
      (rest ticks : List (MarketTick Float)),
      Runs.exec (lifeStep 5 surroundings) (.create ⟨true⟩ true) labels = some life ∧
      Runs.exec (lifeStep 5 surroundings) life more = some final ∧
      final.log = life.log ++ life.thread.pending.map .onTick ++
        rest.flatMap (fun tick => [.spiDepthMarketData tick, .onTick tick]) ++
        ticks.flatMap (fun tick => [.spiDepthMarketData tick, .onTick tick]) ∧
      life.thread.pending.map MarketTick.instrument = ["IF2401"] ∧
      rest.map MarketTick.instrument = ["IC2401"] ∧
      ticks.map MarketTick.instrument = ["IF2401", "IC2401"] := by
  intro surroundings labels
  obtain ⟨more, final, rest, ticks, -, hmore, hlog, hrest, hticks⟩ :=
    subscribers_served 5 surroundings ⟨true⟩ true labels _ rfl rfl rfl
  exact ⟨_, more, final, rest, ticks, rfl, hmore, hlog, rfl, hrest, hticks⟩

end QtradeClient.Mock
