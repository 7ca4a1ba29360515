import QtradeClient.Library.History
import QtradeClient.Mock.QuoteApi

/-!
# Subscriptions of the mock quotes

`Subscribe` replaces the list of instruments and `Unsubscribe` empties it, whatever either
names.  A pass therefore publishes for the list of the last request.
-/

namespace QtradeClient.Mock

open Sdk Library.History

inductive QuoteRequest where
  | subscribe (request : SubscribeRequest)
  | unsubscribe (request : UnsubscribeRequest)

/-- What happens to the adapter in turn: a request, or a pass of its thread. -/
inductive QuoteEvent where
  | asks (request : QuoteRequest)
  | pass

/-- The adapter, the state of its thread, and what the passes have delivered. -/
structure QuoteSession (π : Type) where
  api : MockQuoteApi
  generator : Generator π
  delivered : List (QuoteDelivery π)

def MockQuoteApi.request (api : MockQuoteApi) : QuoteRequest → ErrorCode × MockQuoteApi
  | .subscribe request => api.subscribe request
  | .unsubscribe request => api.unsubscribe request

namespace QuoteSession

variable {π : Type} [PriceArithmetic π] (depth : Nat) (surroundings : Surroundings π)

/-- A connected adapter that has been asked for nothing yet, whoever observes it. -/
def start (mockSpi : MockQuoteSpi) (onTick : Bool) : QuoteSession π where
  api := { MockQuoteApi.create with mockSpi := mockSpi, onTick := onTick }.connect.2
  generator := .start
  delivered := []

def next (session : QuoteSession π) : QuoteEvent → QuoteSession π
  | .asks request => { session with api := (session.api.request request).2 }
  | .pass =>
      let made := session.api.generatePass depth surroundings session.generator
      { session with generator := made.2, delivered := session.delivered ++ made.1 }

def run (session : QuoteSession π) (events : List QuoteEvent) : QuoteSession π :=
  events.foldl (next depth surroundings) session

end QuoteSession

/-! ## What the requests ask for -/

/-- The list that an event puts in place of the old one. -/
def QuoteEvent.replacement? : QuoteEvent → Option (List String)
  | .asks (.subscribe request) => some request.instruments
  | .asks (.unsubscribe _) => some []
  | .pass => none

/-- Whether an event asks for the instrument or asks for it no longer. -/
def QuoteEvent.mention? (instrument : String) : QuoteEvent → Option Bool
  | .asks (.subscribe request) =>
      if instrument ∈ request.instruments then some true else none
  | .asks (.unsubscribe request) =>
      if instrument ∈ request.instruments then some false else none
  | .pass => none

/-- The instruments of the last request, none after an `Unsubscribe`. -/
def lastList (events : List QuoteEvent) : List String :=
  (latest? QuoteEvent.replacement? events).getD []

/-- The last request that names the instrument is a `Subscribe`. -/
def WantedLast (events : List QuoteEvent) (instrument : String) : Prop :=
  latest? (QuoteEvent.mention? instrument) events = some true

instance (events : List QuoteEvent) : DecidablePred (WantedLast events) :=
  fun instrument => inferInstanceAs
    (Decidable (latest? (QuoteEvent.mention? instrument) events = some true))

theorem lastList_concat (events : List QuoteEvent) (event : QuoteEvent) :
    lastList (events ++ [event]) = event.replacement?.getD (lastList events) := by
  rw [lastList, latest?_concat]
  cases event.replacement? <;> rfl

/-- An instrument of the last list is one whose last mention is in a `Subscribe`. -/
theorem wantedLast_of_mem {events : List QuoteEvent} {instrument : String}
    (hlisted : instrument ∈ lastList events) : WantedLast events instrument := by
  induction events using List.reverseRecOn with
  | nil => cases hlisted
  | append_singleton events event ih =>
      rw [lastList_concat] at hlisted
      cases event with
      | asks request =>
          cases request with
          | subscribe request =>
              have hwanted : QuoteEvent.mention? instrument (.asks (.subscribe request)) =
                  some true := if_pos hlisted
              exact latest?_concat_some hwanted events
          | unsubscribe request => cases hlisted
      | pass => exact (latest?_concat_none rfl events).trans (ih hlisted)

namespace QuoteSession

section Runs

variable {π : Type} [PriceArithmetic π] (depth : Nat) (surroundings : Surroundings π)

theorem run_concat (session : QuoteSession π) (events : List QuoteEvent) (event : QuoteEvent) :
    session.run depth surroundings (events ++ [event]) =
      (session.run depth surroundings events).next depth surroundings event :=
  List.foldl_append

/-- What a run of requests and passes leaves of the adapter. -/
structure Listed (mockSpi : MockQuoteSpi) (onTick : Bool) (events : List QuoteEvent)
    (session : QuoteSession π) : Prop where
  mockSpi : session.api.mockSpi = mockSpi
  onTick : session.api.onTick = onTick
  instruments : session.api.instruments = lastList events

theorem next_instruments (session : QuoteSession π) (event : QuoteEvent) :
    (session.next depth surroundings event).api.instruments =
      event.replacement?.getD session.api.instruments := by
  cases event with
  | asks request => cases request <;> rfl
  | pass => rfl

theorem Listed.next {mockSpi : MockQuoteSpi} {onTick : Bool} {events : List QuoteEvent}
    {session : QuoteSession π} (h : Listed mockSpi onTick events session) (event : QuoteEvent) :
    Listed mockSpi onTick (events ++ [event]) (session.next depth surroundings event) := by
  constructor
  · cases event with
    | asks request => cases request <;> exact h.mockSpi
    | pass => exact h.mockSpi
  · cases event with
    | asks request => cases request <;> exact h.onTick
    | pass => exact h.onTick
  · rw [next_instruments, h.instruments, lastList_concat]

theorem listed_run (mockSpi : MockQuoteSpi) (onTick : Bool) (events : List QuoteEvent) :
    Listed mockSpi onTick events
      ((start mockSpi onTick : QuoteSession π).run depth surroundings events) := by
  induction events using List.reverseRecOn with
  | nil => exact ⟨rfl, rfl, rfl⟩
  | append_singleton events event ih =>
      rw [run_concat]
      exact ih.next depth surroundings event

/-- After any requests and passes, the next pass makes one tick for each entry of the last
request's list, in its order, and every instrument it ticks was last named by a `Subscribe`;
each tick goes to the SPI and to the callback, where these are set. -/
theorem pass_publishes_last (mockSpi : MockQuoteSpi) (onTick : Bool) (events : List QuoteEvent) :
    let session := (start mockSpi onTick : QuoteSession π).run depth surroundings events
    let ticks := (session.generator.pass depth surroundings session.api.instruments).1
    ticks.map MarketTick.instrument = lastList events ∧
      (∀ tick ∈ ticks, WantedLast events tick.instrument) ∧
      (session.next depth surroundings .pass).delivered =
        session.delivered ++ ticks.flatMap fun tick =>
          (if mockSpi.target then [.spiDepthMarketData tick] else []) ++
            if onTick then [.onTick tick] else [] := by
  intro session ticks
  have hlisted := listed_run depth surroundings mockSpi onTick events
  have hticks : ticks.map MarketTick.instrument = lastList events :=
    (Generator.pass_instruments ..).trans hlisted.instruments
  refine ⟨hticks, ?_, ?_⟩
  · intro tick htick
    apply wantedLast_of_mem
    rw [← hticks]
    exact List.mem_map_of_mem htick
  · have hpublish : session.api.publish = fun tick : MarketTick π =>
        (if mockSpi.target then [QuoteDelivery.spiDepthMarketData tick] else []) ++
          if onTick then [.onTick tick] else [] :=
      funext (WatchedBy.mk hlisted.mockSpi hlisted.onTick).publish_eq
    rw [← hpublish]
    rfl

end Runs

/-- A second `Subscribe` stops the ticks of an instrument that nobody has unsubscribed. -/
theorem subscribe_replaces :
    let surroundings : Surroundings Float := ⟨fun _ => 0, fun _ => 0⟩
    let events := [QuoteEvent.asks (.subscribe ⟨["IF2401"]⟩), .asks (.subscribe ⟨["IC2401"]⟩)]
    let session := (start ⟨true⟩ true).run 5 surroundings events
    let ticks := (session.generator.pass 5 surroundings session.api.instruments).1
    WantedLast events "IF2401" ∧ (ticks.map MarketTick.instrument).count "IF2401" = 0 := by
  decide

end QuoteSession

end QtradeClient.Mock
