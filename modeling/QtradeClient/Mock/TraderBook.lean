import QtradeClient.Mock.TraderCalls

/-!
# The event stream carries the whole book

A consumer such as the engine sees only the deliveries.  `Book.replay` is what it
can rebuild from them, starting from nothing; a sequential trader whose two
callbacks are set never departs from that book.
-/

namespace QtradeClient.Mock

open Sdk

/-- The consumer's copy of the order table and the trade log. -/
structure Book where
  orders : OrderTable
  trades : List Trade

namespace Book

def empty : Book := ⟨∅, []⟩

/-- The book the trader itself keeps. -/
def ofApi (api : MockTraderApi) : Book := ⟨api.orders, api.trades⟩

/-- A trade moves its volume from the open part of an order to the traded part,
and fills the order when nothing is left. -/
def tradedBy (order : Order) (trade : Trade) : Order :=
  { order with
    tradedVolume := order.tradedVolume + trade.volume
    leftVolume := order.leftVolume - trade.volume
    tradeAmount := trade.tradeAmount
    status := if order.leftVolume - trade.volume = 0 then .kFilled else order.status }

/-- Take one delivery into the book. -/
def record (book : Book) : Delivery → Book
  | .onOrder order => { book with orders := book.orders.insert order.brokerOrderId order }
  | .onTrade trade =>
      match book.orders.lookup trade.brokerOrderId with
      | none => { book with trades := book.trades ++ [trade] }
      | some order =>
          { orders := book.orders.insert trade.brokerOrderId (tradedBy order trade)
            trades := book.trades ++ [trade] }
  | .spiConnected => book
  | .spiOrderEvent .. => book
  | .spiTradeEvent .. => book

def replayFrom (book : Book) (deliveries : List Delivery) : Book :=
  deliveries.foldl record book

/-- The book rebuilt from a stream of deliveries. -/
def replay (deliveries : List Delivery) : Book := empty.replayFrom deliveries

theorem replayFrom_append (book : Book) (first second : List Delivery) :
    book.replayFrom (first ++ second) = (book.replayFrom first).replayFrom second :=
  List.foldl_append

@[simp]
theorem replayFrom_singleton (book : Book) (delivery : Delivery) :
    book.replayFrom [delivery] = book.record delivery := rfl

theorem record_onOrder (book : Book) (order : Order) :
    book.record (.onOrder order) =
      { book with orders := book.orders.insert order.brokerOrderId order } := rfl

theorem record_onTrade {book : Book} {trade : Trade} {order : Order}
    (hstored : book.orders.lookup trade.brokerOrderId = some order) :
    book.record (.onTrade trade) =
      { orders := book.orders.insert trade.brokerOrderId (tradedBy order trade)
        trades := book.trades ++ [trade] } := by
  unfold record
  simp only [hstored]

theorem replayFrom_publishConnected (book : Book) (spi : MockTraderSpi) :
    book.replayFrom spi.publishConnected = book := by
  unfold MockTraderSpi.publishConnected
  split <;> rfl

end Book

open MockTraderApi Book

/-- A trader's own fill of a new order and the consumer's agree, because a new
order has traded nothing. -/
theorem filledBy_newOrder {defaults : Defaults} (hdefault : defaults.order.tradedVolume = 0)
    (request : OrderRequest) (id number : UInt64) :
    filledBy (newOrder defaults request id) (newTrade defaults request id number) =
      tradedBy (newOrder defaults request id) (newTrade defaults request id number) := by
  simp [filledBy, tradedBy, newOrder, newTrade, hdefault]

section Steps

variable {defaults : Defaults} {api : MockTraderApi}

theorem sendOrder_replays (hdefault : defaults.order.tradedVolume = 0)
    (horder : api.onOrder = true) (request : OrderRequest) :
    (ofApi api).replayFrom (api.sendOrder defaults request).deliveries =
      ofApi (api.sendOrder defaults request).api := by
  cases hup : api.connected with
  | false =>
      rw [sendOrder_disconnected hup]
      rfl
  | true =>
      have hpublish (order : Order) : api.publishOrder order = [.onOrder order] := by
        rw [publishOrder, horder, if_pos rfl]
      cases hfill : api.fills with
      | false =>
          rw [sendOrder_resting hup hfill, hpublish, replayFrom_singleton, record_onOrder]
          simp [ofApi, newOrder]
      | true =>
          rw [sendOrder_filling hup hfill, hpublish, replayFrom_append,
            replayFrom_singleton, replayFrom_singleton, record_onOrder]
          rw [record_onTrade (Finmap.lookup_insert _), filledBy_newOrder hdefault]
          simp [ofApi, newOrder, newTrade, Finmap.insert_insert]

theorem cancelOrder_replays (hkeyed : Keyed api.orders) (horder : api.onOrder = true)
    (request : CancelOrderRequest) :
    (ofApi api).replayFrom (api.cancelOrder request).deliveries =
      ofApi (api.cancelOrder request).api := by
  rcases cancelOrder_cases api request with ⟨code, -, hreply⟩ | ⟨stored, -, hstored, -, hreply⟩
  · rw [hreply]
    rfl
  · have hkey : (canceledBy stored request).brokerOrderId = request.brokerOrderId :=
      hkeyed _ stored hstored
    rw [hreply, publishOrder, horder, if_pos rfl, replayFrom_singleton, record_onOrder, hkey]
    rfl

/-- What the deliveries of one call add to a faithful copy keeps it faithful. -/
theorem perform_replays (hdefault : defaults.order.tradedVolume = 0)
    (hkeyed : Keyed api.orders) (horder : api.onOrder = true) (call : TradingCall) :
    (ofApi api).replayFrom (api.perform defaults call).deliveries =
      ofApi (api.perform defaults call).api := by
  cases call with
  | connect => exact replayFrom_publishConnected _ _
  | disconnect => rfl
  | release => rfl
  | setAutoFill autoFill => rfl
  | order call =>
      cases call with
      | sendOrder request => exact sendOrder_replays hdefault horder request
      | cancelOrder request => exact cancelOrder_replays hkeyed horder request

end Steps

/-! ## Whole sessions -/

/-- The trader of a consumer that set both callbacks before its first call. -/
def MockTraderApi.listened (spi : MockTraderSpi) : MockTraderApi :=
  { create with mockSpi := spi, onOrder := true, onTrade := true }

/-- What holds between the calls of a listened session. -/
structure Mirrored (session : Session) : Prop where
  keyed : Keyed session.api.orders
  onOrder : session.api.onOrder = true
  replayed : replay session.delivered = ofApi session.api

theorem mirrored_start (spi : MockTraderSpi) : Mirrored (.start (.listened spi)) :=
  ⟨keyed_empty, rfl, rfl⟩

theorem Mirrored.next {defaults : Defaults} (hdefault : defaults.order.tradedVolume = 0)
    {session : Session} (hmirrored : Mirrored session) (call : TradingCall) :
    Mirrored (session.next defaults call) where
  keyed := perform_keyed defaults hmirrored.keyed call
  onOrder := (perform_onOrder defaults session.api call).trans hmirrored.onOrder
  replayed := by
    have hstep := perform_replays hdefault hmirrored.keyed hmirrored.onOrder call
    change replay (session.delivered ++ (session.api.perform defaults call).deliveries) = _
    rw [replay, replayFrom_append]
    change (replay session.delivered).replayFrom _ = _
    rw [hmirrored.replayed]
    exact hstep

theorem mirrored_run {defaults : Defaults} (hdefault : defaults.order.tradedVolume = 0)
    {session : Session} (hmirrored : Mirrored session) (calls : List TradingCall) :
    Mirrored (session.run defaults calls) := by
  induction calls generalizing session with
  | nil => exact hmirrored
  | cons call calls ih => exact ih (hmirrored.next hdefault call)

/-- A call that does not return success delivers nothing and leaves both stores. -/
theorem failed_quiet {defaults : Defaults} {api : MockTraderApi} {call : TradingCall}
    (hfailed : (api.perform defaults call).failed) :
    (api.perform defaults call).deliveries = [] ∧
      ofApi (api.perform defaults call).api = ofApi api := by
  cases call with
  | connect => exact absurd rfl hfailed
  | disconnect => exact absurd rfl hfailed
  | release => exact absurd rfl hfailed
  | setAutoFill autoFill => exact absurd rfl hfailed
  | order call =>
      cases call with
      | sendOrder request =>
          rcases sendOrder_cases defaults api request with ⟨-, hreply⟩ | ⟨order, haccepted⟩
          · simp only [perform, performOrder, hreply, and_self]
          · exact absurd haccepted.outcome hfailed
      | cancelOrder request =>
          rcases cancelOrder_cases api request with ⟨_, -, hreply⟩ | ⟨_, -, -, -, hreply⟩
          · simp only [perform, performOrder, hreply, and_self]
          · refine absurd ?_ hfailed
            simp only [perform, performOrder, hreply]

/-- After every sequence of calls on a listened trader, the book replayed from the
deliveries is the trader's own, and a failing next call neither delivers nor
changes anything. -/
theorem replay_faithful (defaults : Defaults) (hdefault : defaults.order.tradedVolume = 0)
    (spi : MockTraderSpi) (calls : List TradingCall) :
    let session := Session.run defaults (.start (.listened spi)) calls
    replay session.delivered = ofApi session.api ∧
      ∀ call, (session.api.perform defaults call).failed →
        (session.api.perform defaults call).deliveries = [] ∧
          ofApi (session.api.perform defaults call).api = ofApi session.api :=
  ⟨(mirrored_run hdefault (mirrored_start spi) calls).replayed, fun _ => failed_quiet⟩

/-- An id that is filled, sent again without a fill, and canceled. -/
theorem replay_faithful_reused :
    let calls := [.connect, .order (.sendOrder (.buyOne 7)), .setAutoFill false,
      .order (.sendOrder (.buyOne 7)), .order (.cancelOrder ⟨7, "x"⟩)]
    let session := Session.run .zero (.start (.listened ⟨true⟩)) calls
    session.delivered.length = 5 ∧ replay session.delivered = ofApi session.api :=
  ⟨by decide, (replay_faithful .zero rfl ⟨true⟩ _).1⟩

end QtradeClient.Mock
