import QtradeClient.Sdk.Types

/-!
# The mock quote adapter

A connected `MockQuoteApi` runs a thread that makes one tick after another for the
instruments it is subscribed to, each on a price that drifts by a random draw.  The
arithmetic of prices, the depth of the SDK's order book, the draws and the clock are left
open.
-/

namespace QtradeClient.Mock

open Sdk

/-- The arithmetic of `double` that the generator uses; `ofInt` is the conversion of an
integer. -/
class PriceArithmetic (π : Type) extends Add π, Sub π, Mul π, OfScientific π where
  ofInt : Int → π

instance : PriceArithmetic Float where
  ofInt := Float.ofInt

/-- The fields of `sdk::MarketTick` that the generator sets. -/
structure MarketTick (π : Type) where
  instrument : String
  dataTime : Int
  lastPrice : π
  bidPrice : List π
  bidVolume : List Int
  askPrice : List π
  askVolume : List Int
  volume : Int
  turnover : π
  avgPrice : π
  openInterest : Int
  openPrice : π
  highPrice : π
  lowPrice : π
  preClosePrice : π

/-- What the generator meets: the random draws and the readings of the clock, in order. -/
structure Surroundings (π : Type) where
  draw : Nat → π
  unixMillisNow : Nat → Int

/-- The local variables of `GenerateMockTicks`. -/
structure Generator (π : Type) where
  basePrice : π
  made : Nat

/-! ## Ticks -/

section Ticks

variable {π : Type} [PriceArithmetic π]

def makeTick (depth : Nat) (instrument : String) (dataTime : Int) (basePrice : π) :
    MarketTick π :=
  let lastPrice := basePrice
  let volume : Int := 1000
  let distance (i : Nat) : π := 0.2 * PriceArithmetic.ofInt (i + 1)
  { instrument := instrument
    dataTime := dataTime
    lastPrice := lastPrice
    bidPrice := (List.range depth).map fun i => lastPrice - distance i
    bidVolume := (List.range depth).map fun i : Nat => 100 + (i : Int) * 50
    askPrice := (List.range depth).map fun i => lastPrice + distance i
    askVolume := (List.range depth).map fun i : Nat => 100 + (i : Int) * 50
    volume := volume
    turnover := lastPrice * PriceArithmetic.ofInt volume
    avgPrice := lastPrice
    openInterest := 50000
    openPrice := basePrice - 1.0
    highPrice := basePrice + 2.0
    lowPrice := basePrice - 2.0
    preClosePrice := basePrice - 0.5 }

/-- The generator as its thread starts. -/
def Generator.start : Generator π := ⟨100.0, 0⟩

/-- The tick of one instrument, on the price that the next draw moves to. -/
def Generator.tick (depth : Nat) (surroundings : Surroundings π) (generator : Generator π)
    (instrument : String) : MarketTick π × Generator π :=
  let basePrice := generator.basePrice + surroundings.draw generator.made
  (makeTick depth instrument (surroundings.unixMillisNow generator.made) basePrice,
    ⟨basePrice, generator.made + 1⟩)

/-- The loop over the instruments, one pass of the outer loop. -/
def Generator.pass (depth : Nat) (surroundings : Surroundings π) (generator : Generator π) :
    List String → List (MarketTick π) × Generator π
  | [] => ([], generator)
  | instrument :: instruments =>
      let made := generator.tick depth surroundings instrument
      let others := made.2.pass depth surroundings instruments
      (made.1 :: others.1, others.2)

/-- A pass makes one tick for each entry of the list, in its order. -/
theorem Generator.pass_instruments (depth : Nat) (surroundings : Surroundings π)
    (generator : Generator π) (instruments : List String) :
    (generator.pass depth surroundings instruments).1.map MarketTick.instrument = instruments := by
  induction instruments generalizing generator with
  | nil => rfl
  | cons instrument instruments ih =>
      rw [Generator.pass, List.map_cons, ih]
      rfl

end Ticks

/-! ## The adapter -/

/-- What an observer of the quotes receives. -/
inductive QuoteDelivery (π : Type) where
  | spiDepthMarketData (tick : MarketTick π)
  | onTick (tick : MarketTick π)

structure MockQuoteSpi where
  target : Bool

def MockQuoteSpi.publishDepthMarketData {π : Type} (spi : MockQuoteSpi) (tick : MarketTick π) :
    List (QuoteDelivery π) :=
  if spi.target then [.spiDepthMarketData tick] else []

/-- `onTick` says whether a tick callback is set; the request of `Connect` is only logged. -/
structure MockQuoteApi where
  mockSpi : MockQuoteSpi
  onTick : Bool
  connected : Bool
  running : Bool
  instruments : List String

namespace MockQuoteApi

/-- The adapter as constructed. -/
def create : MockQuoteApi := ⟨⟨false⟩, false, false, false, []⟩

/-- The thread that makes ticks is started where `running` is set. -/
def connect (api : MockQuoteApi) : ErrorCode × MockQuoteApi :=
  if api.connected then (.kSuccess, api)
  else (.kSuccess, { api with connected := true, running := true })

def subscribe (api : MockQuoteApi) (request : SubscribeRequest) : ErrorCode × MockQuoteApi :=
  (.kSuccess, { api with instruments := request.instruments })

def unsubscribe (api : MockQuoteApi) (_ : UnsubscribeRequest) : ErrorCode × MockQuoteApi :=
  (.kSuccess, { api with instruments := [] })

/-- The end of the loop body: a tick goes to the SPI and then to the callback. -/
def publish {π : Type} (api : MockQuoteApi) (tick : MarketTick π) : List (QuoteDelivery π) :=
  api.mockSpi.publishDepthMarketData tick ++ if api.onTick then [.onTick tick] else []

/-- One pass of `GenerateMockTicks` with everything it delivers. -/
def generatePass {π : Type} [PriceArithmetic π] (depth : Nat) (surroundings : Surroundings π)
    (api : MockQuoteApi) (generator : Generator π) : List (QuoteDelivery π) × Generator π :=
  let made := generator.pass depth surroundings api.instruments
  (made.1.flatMap api.publish, made.2)

end MockQuoteApi

/-- The SPI and the callback of an adapter are the given ones. -/
structure WatchedBy (mockSpi : MockQuoteSpi) (onTick : Bool) (api : MockQuoteApi) : Prop where
  mockSpi : api.mockSpi = mockSpi
  onTick : api.onTick = onTick

theorem WatchedBy.publish_eq {π : Type} {mockSpi : MockQuoteSpi} {onTick : Bool}
    {api : MockQuoteApi} (h : WatchedBy mockSpi onTick api) (tick : MarketTick π) :
    api.publish tick = (if mockSpi.target then [.spiDepthMarketData tick] else []) ++
      if onTick then [.onTick tick] else [] := by
  rw [MockQuoteApi.publish, MockQuoteSpi.publishDepthMarketData, h.mockSpi, h.onTick]

end QtradeClient.Mock
