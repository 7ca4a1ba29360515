import QtradeClient.Mock.TraderBook
import QtradeClient.Mock.TraderThreads

/-!
# The two notification channels of the mock trader

Order and trade events can reach an observer through the callbacks or through a
registered SPI.  `MockTraderSpi` can forward both, but no operation of the trader asks it
to, so the channels agree on a run only as long as the callbacks receive nothing.
-/

namespace QtradeClient.Mock

open Sdk Library MockTraderApi

def MockTraderSpi.publishOrderEvent (spi : MockTraderSpi) (order : Order) (withError : Bool)
    (sessionId : UInt64) : List Delivery :=
  if spi.target then [.spiOrderEvent order withError sessionId] else []

def MockTraderSpi.publishTradeEvent (spi : MockTraderSpi) (trade : Trade) (sessionId : UInt64) :
    List Delivery :=
  if spi.target then [.spiTradeEvent trade sessionId] else []

/-- What happened in the market, whichever way it is reported. -/
inductive MarketEvent where
  | order (order : Order)
  | trade (trade : Trade)

namespace Delivery

def viaCallback? : Delivery → Option MarketEvent
  | .onOrder order => some (.order order)
  | .onTrade trade => some (.trade trade)
  | _ => none

def viaSpi? : Delivery → Option MarketEvent
  | .spiOrderEvent order _ _ => some (.order order)
  | .spiTradeEvent trade _ => some (.trade trade)
  | _ => none

end Delivery

/-- The events delivered to the callbacks, in order. -/
def callbackEvents (log : List Delivery) : List MarketEvent := log.filterMap Delivery.viaCallback?

/-- The events delivered to the SPI, in order. -/
def spiEvents (log : List Delivery) : List MarketEvent := log.filterMap Delivery.viaSpi?

/-- The next piece of the call is a notification. -/
def Frame.notifies : Frame → Bool
  | .stored .. => true
  | .trading .. => true
  | .marked .. => true
  | _ => false

/-- The step is not the notification of a call. -/
def Unannounced (pool : TraderPool) : TraderLabel → Prop
  | .advance index _ => ∀ call ∈ pool.calls[index]?, call.notifies = false
  | _ => True

instance (pool : TraderPool) : DecidablePred (Unannounced pool)
  | .start _ => isTrue trivial
  | .advance _ _ => Option.decidableForallMem _
  | .outside _ => isTrue trivial

/-! ## What the channels carry -/

/-- The forwarders of the SPI carry every event to a registered target. -/
theorem spiEvents_forwarded {spi : MockTraderSpi} (hspi : spi.target = true) (order : Order)
    (trade : Trade) (withError : Bool) (sessionId : UInt64) :
    spiEvents (spi.publishOrderEvent order withError sessionId ++
        spi.publishTradeEvent trade sessionId) =
      [.order order, .trade trade] := by
  rw [MockTraderSpi.publishOrderEvent, MockTraderSpi.publishTradeEvent, if_pos hspi, if_pos hspi]
  rfl

theorem events_publishConnected (spi : MockTraderSpi) :
    callbackEvents spi.publishConnected = [] ∧ spiEvents spi.publishConnected = [] := by
  unfold MockTraderSpi.publishConnected
  split <;> exact ⟨rfl, rfl⟩

theorem events_publishOrder {api : MockTraderApi} (horder : api.onOrder = true) (order : Order) :
    callbackEvents (api.publishOrder order) = [.order order] ∧
      spiEvents (api.publishOrder order) = [] := by
  rw [publishOrder, if_pos horder]
  exact ⟨rfl, rfl⟩

/-- What a step emits on the two channels while an order callback is set. -/
structure Reports (notifies : Bool) (emitted : List Delivery) (after : MockTraderApi) : Prop where
  onOrder : after.onOrder = true
  spi : spiEvents emitted = []
  callback : callbackEvents emitted = [] ↔ notifies = false

theorem reports_nothing {after : MockTraderApi} (horder : after.onOrder = true) :
    Reports false [] after := ⟨horder, rfl, iff_of_true rfl rfl⟩

theorem reports_order {api : MockTraderApi} (horder : api.onOrder = true) (order : Order) :
    Reports true (api.publishOrder order) api := by
  obtain ⟨hcallback, hspi⟩ := events_publishOrder horder order
  refine ⟨horder, hspi, iff_of_false ?_ nofun⟩
  rw [hcallback]
  exact List.cons_ne_nil _ _

theorem advance_reports {defaults : Defaults} {api result : MockTraderApi} {frame next : Frame}
    {emitted : List Delivery} (horder : api.onOrder = true)
    (hadvance : frame.advance defaults api = some (next, result, emitted)) :
    Reports frame.notifies emitted result := by
  cases advance_moves hadvance with
  | enterSend request => exact reports_nothing horder
  | refuseSend request => exact reports_nothing horder
  | allocate request => exact reports_nothing ((allocate_onOrder api request).trans horder)
  | store request id => exact reports_nothing horder
  | order request id => exact reports_order horder _
  | makeTrade request id hfills => exact reports_nothing horder
  | rest request id => exact reports_nothing horder
  | announce request id trade =>
      exact ⟨horder, rfl, iff_of_false (List.cons_ne_nil _ _) Bool.noConfusion⟩
  | fill request id trade =>
      refine reports_nothing ?_
      unfold fill
      split <;> exact horder
  | enterCancel request => exact reports_nothing horder
  | refuseCancel request => exact reports_nothing horder
  | refuseMark request code hmark => exact reports_nothing horder
  | mark request canceled _ hmark =>
      obtain ⟨stored, -, -, rfl, rfl⟩ := markCanceled_ok hmark
      exact reports_nothing horder
  | notify request canceled => exact reports_order horder canceled
  | finish request canceled => exact reports_nothing horder

/-! ## Every interleaving -/

/-- One step appends to the log what it reports, and it reports nothing to the callbacks
exactly when it notifies nobody. -/
theorem step_reports {defaults : Defaults} {pool result : TraderPool} {label : TraderLabel}
    (horder : pool.shared.onOrder = true)
    (hstep : traderStep defaults pool label = some result) :
    result.shared.onOrder = true ∧
      ∃ emitted, result.log = pool.log ++ emitted ∧ spiEvents emitted = [] ∧
        (callbackEvents emitted = [] ↔ Unannounced pool label) := by
  rcases Concurrent.step_cases hstep with ⟨call, rfl, rfl⟩ |
    ⟨index, choice, call, next, emitted, before, after, rfl, hcall, hadvances⟩ |
    ⟨change, rfl, rfl⟩
  · exact ⟨horder, [], (List.append_nil _).symm, rfl, iff_of_true rfl trivial⟩
  · have hreports := advance_reports horder hadvances.effect
    refine ⟨hreports.onOrder, emitted, hadvances.result_log, hreports.spi, ?_⟩
    rw [hreports.callback]
    constructor
    · intro hsilent other hother
      obtain rfl : call = other := Option.some.inj (hcall.symm.trans hother)
      exact hsilent
    · intro hsilent
      exact hsilent call hcall
  · refine ⟨?_, _, rfl, ?_⟩ <;> cases change
    · exact horder
    · exact horder
    · exact horder
    · obtain ⟨hcallback, hspi⟩ := events_publishConnected pool.shared.mockSpi
      exact ⟨hspi, iff_of_true hcallback trivial⟩
    · exact ⟨rfl, iff_of_true rfl trivial⟩
    · exact ⟨rfl, iff_of_true rfl trivial⟩

/-- A run reports nothing to the SPI, and nothing to the callbacks exactly when no call
gets as far as a notification. -/
theorem run_reports {defaults : Defaults} {pool final : TraderPool} {labels : List TraderLabel}
    (horder : pool.shared.onOrder = true)
    (hrun : Runs.exec (traderStep defaults) pool labels = some final) :
    ∃ emitted, final.log = pool.log ++ emitted ∧ spiEvents emitted = [] ∧
      (callbackEvents emitted = [] ↔ Runs.Along (traderStep defaults) Unannounced pool labels) := by
  induction labels generalizing pool with
  | nil =>
      obtain rfl : pool = final := Option.some.inj hrun
      exact ⟨[], (List.append_nil _).symm, rfl, iff_of_true rfl trivial⟩
  | cons label labels ih =>
      obtain ⟨middle, hstep, hrest⟩ := Runs.exec_cons_eq_some hrun
      obtain ⟨hmiddle, first, hfirst, hfirstSpi, hfirstCallback⟩ := step_reports horder hstep
      obtain ⟨rest, hlog, hrestSpi, hrestCallback⟩ := ih hmiddle hrest
      refine ⟨first ++ rest, by rw [hlog, hfirst, List.append_assoc], ?_, ?_⟩
      · rw [spiEvents, List.filterMap_append]
        exact List.append_eq_nil_iff.mpr ⟨hfirstSpi, hrestSpi⟩
      · rw [callbackEvents, List.filterMap_append, List.append_eq_nil_iff, Runs.along_cons]
        refine and_congr hfirstCallback (hrestCallback.trans ?_)
        constructor
        · intro halong after hafter
          obtain rfl : middle = after := Option.some.inj (hstep.symm.trans hafter)
          exact halong
        · intro halong
          exact halong middle hstep

/-- In every interleaving on a trader with a registered SPI and both callbacks set, the two
channels have delivered the same events if and only if no call has got as far as a
notification. -/
theorem channels_agree_iff (defaults : Defaults) {labels : List TraderLabel} {pool : TraderPool}
    (hrun : Runs.exec (traderStep defaults) (Concurrent.idle (listened ⟨true⟩)) labels =
      some pool) :
    spiEvents pool.log = callbackEvents pool.log ↔
      Runs.Along (traderStep defaults) Unannounced (Concurrent.idle (listened ⟨true⟩)) labels := by
  obtain ⟨emitted, hlog, hspi, hcallback⟩ := run_reports rfl hrun
  obtain rfl : emitted = pool.log := hlog.symm
  rw [hspi, eq_comm]
  exact hcallback

/-- A cancel of an unknown order is refused before it notifies anyone. -/
theorem channels_agree_iff_refused :
    let calls : List TraderLabel :=
      [.outside .connect, .start (.cancelOrder ⟨7, "x"⟩), .advance 0 (), .advance 0 ()]
    ∃ pool, Runs.exec (traderStep .zero) (Concurrent.idle (listened ⟨true⟩)) calls = some pool ∧
      spiEvents pool.log = callbackEvents pool.log := by
  intro calls
  have hunannounced : Runs.Along (traderStep .zero) Unannounced
      (Concurrent.idle (listened ⟨true⟩)) calls := by decide
  exact ⟨_, rfl, (channels_agree_iff .zero rfl).mpr hunannounced⟩

/-- An order is stored, reported to the callback and not to the SPI. -/
theorem order_misses_spi :
    ∃ pool, Runs.exec (traderStep .zero) (Concurrent.idle (listened ⟨true⟩))
        (.outside .connect :: .start (.sendOrder (.buyOne 7)) ::
          List.replicate 4 (.advance 0 ())) = some pool ∧
      spiEvents pool.log ≠ callbackEvents pool.log := by
  refine ⟨_, rfl, ?_⟩
  intro hsame
  have hlength := congrArg List.length hsame
  revert hlength
  decide

end QtradeClient.Mock
