import QtradeClient.Mock.TraderObservers
import QtradeClient.Mock.TraderThreads

/-!
# What a query from inside a callback sees

Each call in flight carries the events whose callbacks it is in, from the step that
delivers them to its next step.  Queries made meanwhile read the shared trader, whoever
has written to it since.  An order event comes after its order is stored, a trade event
before its trade is.
-/

namespace QtradeClient.Mock

open Sdk Library MockTraderApi

/-- A call and what it is delivering. -/
structure WatchedCall where
  frame : Frame
  running : List Delivery

/-- What else may happen between two steps. -/
inductive Change where
  | outside (change : Outside)
  | release
  | observe (call : ObserverCall)

def Change.apply : Change → MockTraderApi → MockTraderApi × List Delivery
  | .outside change, api => changeOutside change api
  | .release, api => (api.release, [])
  | .observe call, api => (api.observe call, [])

abbrev WatchedPool := Concurrent.Pool MockTraderApi WatchedCall Delivery

abbrev WatchedLabel := Concurrent.Label OrderCall Unit Change

/-- The machine of the overlapping calls, with what each of them is delivering. -/
def watchedMachine (defaults : Defaults) :
    Concurrent.Machine MockTraderApi WatchedCall OrderCall Unit Change Delivery where
  enter call := ⟨Frame.enter call, []⟩
  advance _ api call := (call.frame.advance defaults api).map fun after =>
    (⟨after.1, after.2.2⟩, after.2)
  outside := Change.apply

abbrev watchedStep (defaults : Defaults) : WatchedPool → WatchedLabel → Option WatchedPool :=
  Concurrent.step (watchedMachine defaults)

/-- The pool without the callbacks in progress. -/
def forget (pool : WatchedPool) : TraderPool :=
  ⟨pool.shared, pool.calls.map WatchedCall.frame, pool.log⟩

/-- A step of the overlapping calls as one of the watched calls. -/
def watched : TraderLabel → WatchedLabel
  | .start call => .start call
  | .advance index choice => .advance index choice
  | .outside change => .outside (.outside change)

/-- Watching changes nothing. -/
theorem watchedStep_forget (defaults : Defaults) (pool : WatchedPool) (label : TraderLabel) :
    (watchedStep defaults pool (watched label)).map forget =
      traderStep defaults (forget pool) label := by
  cases label with
  | start call =>
      change some (forget ⟨_, _ ++ [_], _⟩) = some ⟨_, _ ++ [_], _⟩
      rw [forget, List.map_append]
      rfl
  | outside change => rfl
  | advance index choice =>
      change ((pool.calls[index]?.bind _).map forget : Option TraderPool) =
        ((forget pool).calls[index]?).bind _
      rw [forget, List.getElem?_map]
      cases pool.calls[index]? with
      | none => rfl
      | some call =>
          simp only [Option.map_some, Option.bind_some, watchedMachine, traderMachine]
          cases call.frame.advance defaults pool.shared with
          | none => rfl
          | some after => simp [forget, List.map_set]

/-! ## Reflection -/

/-- The queries made from inside the callback of a delivery reflect it. -/
def Reflected (blank : Position) (sees : MockTraderApi) : Delivery → Prop
  | .onOrder order => sees.queryOrders ⟨"", order.brokerOrderId, .kUnknown⟩ = {order}
  | .onTrade trade =>
      trade ∈ sees.queryTrades ⟨"", "", trade.brokerOrderId⟩ ∧
        (∃ order ∈ sees.queryOrders ⟨"", trade.brokerOrderId, .kUnknown⟩,
          order.brokerOrderId = trade.brokerOrderId ∧ order.status = .kFilled ∧
            trade.volume ≤ order.tradedVolume) ∧
        ∃ p ∈ (queryPositions blank sees ⟨trade.instrument⟩ ⟨0⟩).2.positions,
          p.instrument = trade.instrument ∧
            trade ∈ sees.queryTrades ⟨trade.instrument, "", 0⟩ ∧
            heldVolume p =
              netVolume (sees.queryTrades ⟨trade.instrument, "", 0⟩) trade.instrument
  | _ => True

/-- Every callback in progress sees its event reflected. -/
def Reflecting (blank : Position) (pool : WatchedPool) : Prop :=
  ∀ call ∈ pool.calls, ∀ delivery ∈ call.running, Reflected blank pool.shared delivery

/-- The step leads to a pool whose callbacks in progress see their events reflected. -/
def Reflects (defaults : Defaults) (blank : Position) (pool : WatchedPool)
    (label : WatchedLabel) : Prop :=
  ∀ after, watchedStep defaults pool label = some after → Reflecting blank after

/-- A query takes the id 0 for all ids, which only matters next to other orders. -/
def Alone (orders : OrderTable) (id : UInt64) : Prop := id = 0 → ∀ other ∈ orders, other = 0

/-- The table holds the order as it is given, alone if its id is 0. -/
def Stands (orders : OrderTable) (order : Order) : Prop :=
  orders.lookup order.brokerOrderId = some order ∧ Alone orders order.brokerOrderId

/-- Writing an order under an id leaves another one standing. -/
def Spares (id : UInt64) (written order : Order) : Prop :=
  (order.brokerOrderId = id → written = order) ∧ (order.brokerOrderId = 0 → id = 0)

namespace Frame

/-- The order that the next step gives to the order callback. -/
def notice? (defaults : Defaults) : Frame → Option Order
  | .stored request id => some (newOrder defaults request id)
  | .marked _ canceled => some canceled
  | _ => none

/-- What the next step writes to the order table without a trade. -/
def write? (defaults : Defaults) (api : MockTraderApi) : Frame → Option (UInt64 × Order)
  | .allocated request id => some (id, newOrder defaults request id)
  | .cancelConnected request =>
      match api.markCanceled request with
      | .ok (canceled, _) => some (request.brokerOrderId, canceled)
      | .error _ => none
  | _ => none

/-- The next step gives a trade to the trade callback. -/
def givesTrade : Frame → Bool
  | .trading .. => true
  | _ => false

/-- The call is in its trade callback. -/
def gaveTrade : Frame → Bool
  | .announced .. => true
  | _ => false

/-- The call is in the order callback, if it found one. -/
def notifying : Frame → Bool
  | .ordered .. => true
  | .notified .. => true
  | _ => false

end Frame

/-- The next step of a call gives out no trade, gives an order to a callback only while the
table holds it, and writes no other order in place of one that a callback is being given. -/
structure Keeps (defaults : Defaults) (pool : WatchedPool) (frame : Frame) : Prop where
  trades : frame.givesTrade = false
  notices : pool.shared.onOrder = true → ∀ order, frame.notice? defaults = some order →
    Stands pool.shared.orders order
  writes : ∀ id written, frame.write? defaults pool.shared = some (id, written) →
    ∀ call ∈ pool.calls, ∀ order, .onOrder order ∈ call.running → Spares id written order

def Kept (defaults : Defaults) (pool : WatchedPool) : WatchedLabel → Prop
  | .advance index _ => ∀ call ∈ pool.calls[index]?, Keeps defaults pool call.frame
  | _ => True

/-! ## Orders that stand -/

theorem matchesQuery_all (key : UInt64) (order : Order) :
    matchesQuery ⟨"", 0, .kUnknown⟩ key order = true := by
  simp [matchesQuery]

theorem matchesQuery_id {id : UInt64} (hid : id ≠ 0) (key : UInt64) (order : Order) :
    matchesQuery ⟨"", id, .kUnknown⟩ key order = decide (key = id) := by
  simp [matchesQuery, hid]

theorem queryOrders_zero (api : MockTraderApi) :
    api.queryOrders ⟨"", 0, .kUnknown⟩ = api.orders.entries.map fun entry => entry.2 := by
  rw [queryOrders, Multiset.filter_eq_self.mpr fun entry _ => matchesQuery_all _ _]

theorem queryOrders_id {api : MockTraderApi} {id : UInt64} (hid : id ≠ 0) :
    api.queryOrders ⟨"", id, .kUnknown⟩ =
      (api.orders.lookup id).elim 0 fun order => {order} := by
  simp only [queryOrders, matchesQuery_id hid, decide_eq_true_iff]
  rw [Tally.entries_filter_key]
  cases api.orders.lookup id <;> rfl

/-- Asking for an order by its id finds just that order where it stands. -/
theorem queryOrders_iff_stands {api : MockTraderApi} (hkeyed : Keyed api.orders) (order : Order) :
    api.queryOrders ⟨"", order.brokerOrderId, .kUnknown⟩ = {order} ↔ Stands api.orders order := by
  by_cases hid : order.brokerOrderId = 0
  · unfold Stands
    rw [hid, queryOrders_zero, Multiset.map_eq_singleton]
    constructor
    · rintro ⟨⟨key, found⟩, hentries, rfl⟩
      have honly (other : UInt64) (value : Order)
          (hother : api.orders.lookup other = some value) : other = key := by
        have hmem := Finmap.mem_lookup_iff.mp hother
        rw [hentries, Multiset.mem_singleton] at hmem
        exact congrArg Sigma.fst hmem
      have hfound : api.orders.lookup key = some found := by
        apply Finmap.mem_lookup_iff.mpr
        rw [hentries]
        exact Multiset.mem_singleton_self _
      obtain rfl : key = 0 := (hkeyed key found hfound).symm.trans hid
      refine ⟨hfound, fun _ other hother => ?_⟩
      obtain ⟨value, hvalue⟩ := Finmap.mem_iff.mp hother
      exact honly other value hvalue
    · rintro ⟨hstored, halone⟩
      refine ⟨⟨0, order⟩, ?_, rfl⟩
      have honly : ∀ entry ∈ api.orders.entries, entry.1 = 0 := by
        rintro ⟨key, found⟩ hentry
        exact halone rfl key (Finmap.mem_iff.mpr ⟨found, Finmap.mem_lookup_iff.mpr hentry⟩)
      rw [← Multiset.filter_eq_self.mpr honly, Tally.entries_filter_key, hstored]
      rfl
  · rw [queryOrders_id hid, Stands, Alone]
    cases api.orders.lookup order.brokerOrderId with
    | none => exact iff_of_false (Multiset.singleton_ne_zero order).symm fun h => nomatch h.1
    | some found => simp [hid]

/-- What a write leaves standing. -/
theorem stands_insert {orders : OrderTable} {id : UInt64} {written order : Order}
    (hstands : Stands orders order) :
    Stands (orders.insert id written) order ↔ Spares id written order := by
  refine and_congr ?_ ?_
  · by_cases hid : order.brokerOrderId = id
    · rw [hid, Finmap.lookup_insert, Option.some.injEq]
      exact ⟨fun h _ => h, fun h => h rfl⟩
    · rw [Finmap.lookup_insert_of_ne _ hid]
      exact iff_of_true hstands.1 fun h => absurd h hid
  · refine forall_congr' fun hzero => ?_
    simp only [Finmap.mem_insert, or_imp, forall_and, forall_eq]
    exact and_iff_left (hstands.2 hzero)

/-! ## What one step of a call does -/

/-- The steps of a call, by what they mean for the callbacks in progress. -/
inductive Turn (defaults : Defaults) (api : MockTraderApi) :
    Frame → Frame → MockTraderApi → List Delivery → Prop where
  | quiet {frame next : Frame} {result : MockTraderApi}
      (orders : result.orders = api.orders) (trades : result.trades = api.trades)
      (notices : frame.notice? defaults = none) (writes : frame.write? defaults api = none)
      (keeps : frame.givesTrade = false) (gave : next.gaveTrade = false) :
      Turn defaults api frame next result []
  | notice {frame next : Frame} (order : Order) (notices : frame.notice? defaults = some order)
      (writes : frame.write? defaults api = none) (keeps : frame.givesTrade = false)
      (gave : next.gaveTrade = false) (notifying : next.notifying = true) :
      Turn defaults api frame next api (api.publishOrder order)
  | write {frame next : Frame} {result : MockTraderApi} (id : UInt64) (order : Order)
      (notices : frame.notice? defaults = none)
      (writes : frame.write? defaults api = some (id, order)) (filed : order.brokerOrderId = id)
      (orders : result.orders = api.orders.insert id order) (trades : result.trades = api.trades)
      (keeps : frame.givesTrade = false) (gave : next.gaveTrade = false)
      (elsewhere : frame.notifying = false) :
      Turn defaults api frame next result []
  | announce (request : OrderRequest) (id : UInt64) (trade : Trade) :
      Turn defaults api (.trading request id trade) (.announced request id trade) api
        [.onTrade trade]
  | fill (request : OrderRequest) (id : UInt64) (trade : Trade) :
      Turn defaults api (.announced request id trade)
        (.sendReturned request (api.fill id trade).1) (api.fill id trade).2 []

theorem advance_turn {defaults : Defaults} {api result : MockTraderApi} {frame next : Frame}
    {emitted : List Delivery} (hkeyed : Keyed api.orders)
    (hadvance : frame.advance defaults api = some (next, result, emitted)) :
    Turn defaults api frame next result emitted := by
  cases advance_moves hadvance with
  | enterSend request => exact .quiet rfl rfl rfl rfl rfl rfl
  | refuseSend request => exact .quiet rfl rfl rfl rfl rfl rfl
  | allocate request =>
      exact .quiet (allocate_orders api request) (allocate_trades api request) rfl rfl rfl rfl
  | store request id =>
      exact .write id (newOrder defaults request id) rfl rfl rfl rfl rfl rfl rfl rfl
  | order request id => exact .notice (newOrder defaults request id) rfl rfl rfl rfl rfl
  | makeTrade request id hfills => exact .quiet rfl rfl rfl rfl rfl rfl
  | rest request id => exact .quiet rfl rfl rfl rfl rfl rfl
  | announce request id trade => exact .announce request id trade
  | fill request id trade => exact .fill request id trade
  | enterCancel request => exact .quiet rfl rfl rfl rfl rfl rfl
  | refuseCancel request => exact .quiet rfl rfl rfl rfl rfl rfl
  | refuseMark request code hmark =>
      have hwrites : (Frame.cancelConnected request).write? defaults api = none := by
        simp only [Frame.write?, hmark]
      exact .quiet rfl rfl rfl hwrites rfl rfl
  | mark request canceled _ hmark =>
      have hwrites : (Frame.cancelConnected request).write? defaults api =
          some (request.brokerOrderId, canceled) := by
        simp only [Frame.write?, hmark]
      obtain ⟨stored, hstored, -, rfl, rfl⟩ := markCanceled_ok hmark
      exact .write request.brokerOrderId _ rfl hwrites (hkeyed _ stored hstored) rfl rfl rfl
        rfl rfl
  | notify request canceled => exact .notice canceled rfl rfl rfl rfl rfl
  | finish request canceled => exact .quiet rfl rfl rfl rfl rfl rfl

/-! ## Every interleaving -/

/-- What holds as long as every callback has seen its event reflected: no trade has been
given out, and the orders being given out stand. -/
structure Watching (pool : WatchedPool) : Prop where
  keyed : Keyed pool.shared.orders
  noTrades : pool.shared.trades = []
  ungiven : ∀ call ∈ pool.calls, call.frame.gaveTrade = false
  notifying : ∀ call ∈ pool.calls, call.running ≠ [] → call.frame.notifying = true
  given : ∀ call ∈ pool.calls, ∀ delivery ∈ call.running, ∃ order, delivery = .onOrder order
  standing : ∀ call ∈ pool.calls, ∀ order, .onOrder order ∈ call.running →
    Stands pool.shared.orders order

theorem watching_create : Watching (Concurrent.idle create) where
  keyed := keyed_empty
  noTrades := rfl
  ungiven := by rintro call ⟨⟩
  notifying := by rintro call ⟨⟩
  given := by rintro call ⟨⟩
  standing := by rintro call ⟨⟩

/-- Without trades, no trade event is reflected. -/
theorem not_reflected_onTrade (blank : Position) {api : MockTraderApi} (hnone : api.trades = [])
    (trade : Trade) : ¬ Reflected blank api (.onTrade trade) := by
  rintro ⟨hrecorded, -⟩
  rw [queryTrades, hnone] at hrecorded
  exact absurd hrecorded (by simp)

section Steps

open Concurrent

variable {defaults : Defaults} {blank : Position} {pool result : WatchedPool}
  {call next : WatchedCall} {emitted : List Delivery} {before after : List WatchedCall}

/-- A watched call moves as its frame does, and then delivers what the step emitted. -/
theorem watched_turn (h : Watching pool)
    (hstep : Advances (watchedMachine defaults) () pool call next emitted before after result) :
    Turn defaults pool.shared call.frame next.frame result.shared emitted ∧
      next.running = emitted := by
  obtain ⟨⟨frame, shared, deliveries⟩, hadvance, hafter⟩ := Option.map_eq_some_iff.mp hstep.effect
  cases hafter
  exact ⟨advance_turn h.keyed hadvance, rfl⟩

/-- The callbacks in progress after a step are the new ones and those of the other calls. -/
theorem reflecting_result
    (hstep : Advances (watchedMachine defaults) () pool call next emitted before after result) :
    Reflecting blank result ↔
      (∀ delivery ∈ next.running, Reflected blank result.shared delivery) ∧
        ∀ other ∈ before ++ after, ∀ delivery ∈ other.running,
          Reflected blank result.shared delivery := by
  unfold Reflecting
  rw [hstep.result_calls]
  constructor
  · intro h
    refine ⟨h next (by simp), fun other hother => h other ?_⟩
    rw [List.mem_append] at hother
    rw [List.mem_append, List.mem_cons]
    tauto
  · rintro ⟨hnext, hothers⟩ other hother
    rw [← hstep.result_calls] at hother
    rcases hstep.mem_result hother with rfl | hstill
    · exact hnext
    · exact hothers other hstill

/-- The other calls, where their orders still stand. -/
theorem Watching.others (h : Watching pool)
    (hstep : Advances (watchedMachine defaults) () pool call next emitted before after result)
    (hkeyed : Keyed result.shared.orders) :
    (∀ other ∈ before ++ after, ∀ delivery ∈ other.running,
        Reflected blank result.shared delivery) ↔
      ∀ other ∈ before ++ after, ∀ order, .onOrder order ∈ other.running →
        Stands result.shared.orders order := by
  refine forall₂_congr fun other hother => ?_
  constructor
  · intro hreflected order horder
    exact (queryOrders_iff_stands hkeyed order).mp (hreflected _ horder)
  · intro hstands delivery hdelivery
    obtain ⟨order, rfl⟩ := h.given other (hstep.still_mem hother) delivery hdelivery
    exact (queryOrders_iff_stands hkeyed order).mpr (hstands order hdelivery)

/-- A call that is not notifying delivers nothing. -/
theorem Watching.silent (h : Watching pool) (hcall : call ∈ pool.calls)
    (helsewhere : call.frame.notifying = false) : call.running = [] := by
  by_contra hrunning
  exact Bool.false_ne_true (helsewhere.symm.trans (h.notifying call hcall hrunning))

theorem reflected_publishOrder {api : MockTraderApi} (hkeyed : Keyed api.orders) (order : Order) :
    (∀ delivery ∈ api.publishOrder order, Reflected blank api delivery) ↔
      (api.onOrder = true → Stands api.orders order) := by
  unfold publishOrder
  cases horder : api.onOrder with
  | false =>
      rw [if_neg Bool.false_ne_true]
      exact iff_of_true (List.forall_mem_nil _) fun hset => absurd hset Bool.false_ne_true
  | true =>
      rw [if_pos rfl, List.forall_mem_singleton]
      refine (queryOrders_iff_stands hkeyed order).trans ?_
      exact ⟨fun h _ => h, fun h => h rfl⟩

/-- Unless it gives out a trade, a call leaves the table keyed and the log empty, and what it
gives out are orders. -/
theorem Watching.advance (h : Watching pool)
    (hstep : Advances (watchedMachine defaults) () pool call next emitted before after result)
    (hkeeps : call.frame.givesTrade = false) :
    Keyed result.shared.orders ∧ result.shared.trades = [] ∧ next.frame.gaveTrade = false ∧
      (next.running ≠ [] → next.frame.notifying = true) ∧
      ∀ delivery ∈ next.running, ∃ order, delivery = .onOrder order := by
  obtain ⟨hturn, hrunning⟩ := watched_turn h hstep
  have hungiven := h.ungiven call hstep.call_mem
  rw [hrunning]
  generalize call.frame = frame at hturn hkeeps hungiven
  generalize next.frame = nextFrame at hturn
  generalize result.shared = shared at hturn
  cases hturn with
  | quiet horders htrades _ _ _ hgave =>
      rw [horders, htrades]
      exact ⟨h.keyed, h.noTrades, hgave, fun hne => absurd rfl hne, List.forall_mem_nil _⟩
  | notice order _ _ _ hgave hnotifying =>
      refine ⟨h.keyed, h.noTrades, hgave, fun _ => hnotifying, fun delivery hdelivery => ?_⟩
      unfold publishOrder at hdelivery
      split at hdelivery
      · exact ⟨order, List.mem_singleton.mp hdelivery⟩
      · cases hdelivery
  | write id order _ _ hfiled horders htrades _ hgave =>
      rw [horders, htrades]
      exact ⟨h.keyed.insert hfiled, h.noTrades, hgave, fun hne => absurd rfl hne,
        List.forall_mem_nil _⟩
  | announce request id trade => cases hkeeps
  | fill request id trade => cases hungiven

/-- After a step of a call, every callback in progress sees its event reflected exactly where
the call keeps to the condition. -/
theorem Watching.reflecting_iff (h : Watching pool)
    (hstep : Advances (watchedMachine defaults) () pool call next emitted before after result) :
    Reflecting blank result ↔ Keeps defaults pool call.frame := by
  obtain ⟨frame, running⟩ := call
  obtain ⟨nextFrame, nextRunning⟩ := next
  obtain ⟨shared, calls, log⟩ := result
  have hcall := hstep.call_mem
  obtain ⟨hturn, hrunning⟩ := watched_turn h hstep
  change Turn defaults pool.shared frame nextFrame shared emitted at hturn
  change nextRunning = emitted at hrunning
  rw [reflecting_result hstep, hrunning]
  have hothers (horders : shared.orders = pool.shared.orders) :
      ∀ other ∈ before ++ after, ∀ delivery ∈ other.running, Reflected blank shared delivery := by
    have hkeyed : Keyed shared.orders := horders ▸ h.keyed
    apply (h.others hstep hkeyed).mpr
    intro other hother order horder
    change Stands shared.orders order
    rw [horders]
    exact h.standing other (hstep.still_mem hother) order horder
  cases hturn with
  | quiet horders htrades hnotices hwrites hkeeps hgave =>
      refine iff_of_true ⟨List.forall_mem_nil _, hothers horders⟩ ⟨hkeeps, ?_, ?_⟩
      · intro _ order horder
        cases hnotices.symm.trans horder
      · intro id written hwritten
        cases hwrites.symm.trans hwritten
  | notice order hnotices hwrites hkeeps hgave hnotifying =>
      rw [reflected_publishOrder h.keyed, and_iff_left (hothers rfl)]
      constructor
      · intro hstands
        refine ⟨hkeeps, fun hset given hgiven => ?_, fun id written hwritten => ?_⟩
        · cases hnotices.symm.trans hgiven
          exact hstands hset
        · cases hwrites.symm.trans hwritten
      · intro hkept hset
        exact hkept.notices hset order hnotices
  | write id written hnotices hwrites hfiled horders htrades hkeeps hgave helsewhere =>
      have hkeyed : Keyed shared.orders := by
        rw [horders]
        exact h.keyed.insert hfiled
      rw [and_iff_right (List.forall_mem_nil _), h.others hstep hkeyed]
      change (∀ other ∈ before ++ after, ∀ order, .onOrder order ∈ other.running →
        Stands shared.orders order) ↔ _
      rw [horders]
      constructor
      · intro hstands
        refine ⟨hkeeps, fun _ order horder => ?_, fun id' written' hwritten' => ?_⟩
        · cases hnotices.symm.trans horder
        · cases hwrites.symm.trans hwritten'
          intro other hother order horder
          rcases hstep.mem_still hother with rfl | hstill
          · rw [h.silent hcall helsewhere] at horder
            cases horder
          · exact (stands_insert (h.standing other hother order horder)).mp
              (hstands other hstill order horder)
      · intro hkept other hother order horder
        have hpool := hstep.still_mem hother
        apply (stands_insert (h.standing other hpool order horder)).mpr
        exact hkept.writes id written hwrites other hpool order horder
  | announce request id trade =>
      refine iff_of_false (fun hreflected => ?_) fun hkept => nomatch hkept.trades
      exact not_reflected_onTrade blank h.noTrades trade
        (hreflected.1 _ (List.mem_singleton_self _))
  | fill request id trade => cases h.ungiven _ hcall

theorem Watching.moved (h : Watching pool)
    (hstep : Advances (watchedMachine defaults) () pool call next emitted before after result)
    (hkeeps : Keeps defaults pool call.frame) : Watching result := by
  obtain ⟨hkeyed, hnoTrades, hgave, hnotifying, hgiven⟩ := h.advance hstep hkeeps.trades
  refine ⟨hkeyed, hnoTrades, ?_, ?_, ?_, ?_⟩
  · intro other hother
    rcases hstep.mem_result hother with rfl | hstill
    · exact hgave
    · exact h.ungiven other (hstep.still_mem hstill)
  · intro other hother
    rcases hstep.mem_result hother with rfl | hstill
    · exact hnotifying
    · exact h.notifying other (hstep.still_mem hstill)
  · intro other hother
    rcases hstep.mem_result hother with rfl | hstill
    · exact hgiven
    · exact h.given other (hstep.still_mem hstill)
  · intro other hother order horder
    have hreflecting : Reflecting .flat result := (h.reflecting_iff hstep).mpr hkeeps
    exact (queryOrders_iff_stands hkeyed order).mp (hreflecting other hother _ horder)

end Steps

/-- A change from outside leaves the two stores alone. -/
theorem Change.apply_stores (change : Change) (api : MockTraderApi) :
    (change.apply api).1.orders = api.orders ∧ (change.apply api).1.trades = api.trades := by
  cases change with
  | outside change => cases change <;> exact ⟨rfl, rfl⟩
  | release => exact ⟨rfl, rfl⟩
  | observe call => cases call <;> exact ⟨rfl, rfl⟩

theorem Watching.reflecting {pool : WatchedPool} (h : Watching pool) (blank : Position) :
    Reflecting blank pool := by
  intro call hcall delivery hdelivery
  obtain ⟨order, rfl⟩ := h.given call hcall delivery hdelivery
  exact (queryOrders_iff_stands h.keyed order).mpr (h.standing call hcall order hdelivery)

/-- A call that is entered delivers nothing yet. -/
theorem Watching.start {pool : WatchedPool} (h : Watching pool) (call : OrderCall) :
    Watching { pool with calls := pool.calls ++ [⟨Frame.enter call, []⟩] } where
  keyed := h.keyed
  noTrades := h.noTrades
  ungiven := by
    rw [List.forall_mem_append, List.forall_mem_singleton]
    exact ⟨h.ungiven, by cases call <;> rfl⟩
  notifying := by
    rw [List.forall_mem_append, List.forall_mem_singleton]
    exact ⟨h.notifying, fun hne => absurd rfl hne⟩
  given := by
    rw [List.forall_mem_append, List.forall_mem_singleton]
    exact ⟨h.given, List.forall_mem_nil _⟩
  standing := by
    rw [List.forall_mem_append, List.forall_mem_singleton]
    exact ⟨h.standing, fun _ horder => nomatch horder⟩

theorem Watching.outside {pool : WatchedPool} (h : Watching pool) (change : Change)
    (log : List Delivery) : Watching ⟨(change.apply pool.shared).1, pool.calls, log⟩ := by
  obtain ⟨horders, htrades⟩ := change.apply_stores pool.shared
  refine ⟨horders ▸ h.keyed, htrades.trans h.noTrades, h.ungiven, h.notifying, h.given, ?_⟩
  intro call hcall order horder
  change Stands (change.apply pool.shared).1.orders order
  rw [horders]
  exact h.standing call hcall order horder

/-- Every step keeps the callbacks in progress reflected exactly where it keeps to the
condition, and then it keeps the invariant. -/
theorem Watching.step {defaults : Defaults} {pool result : WatchedPool} {label : WatchedLabel}
    (h : Watching pool) (hstep : watchedStep defaults pool label = some result)
    (blank : Position) :
    (Reflecting blank result ↔ Kept defaults pool label) ∧
      (Kept defaults pool label → Watching result) := by
  rcases Concurrent.step_cases hstep with ⟨call, rfl, rfl⟩ |
    ⟨index, choice, call, next, emitted, before, after, rfl, hcall, hadvances⟩ |
    ⟨change, rfl, rfl⟩
  · exact ⟨iff_of_true ((h.start call).reflecting blank) trivial, fun _ => h.start call⟩
  · have hkept : Kept defaults pool (.advance index choice) ↔ Keeps defaults pool call.frame := by
      simp only [Kept, hcall, Option.mem_some_iff, forall_eq']
    rw [hkept]
    exact ⟨h.reflecting_iff hadvances, h.moved hadvances⟩
  · exact ⟨iff_of_true ((h.outside change _).reflecting blank) trivial, fun _ => h.outside change _⟩

/-- Only a call that has returned has no next step. -/
theorem keeps_of_returned {defaults : Defaults} {pool : WatchedPool} {frame : Frame}
    (hreturned : frame.advance defaults pool.shared = none) : Keeps defaults pool frame := by
  cases frame with
  | allocated request id => cases hreturned
  | stored request id => cases hreturned
  | trading request id trade => cases hreturned
  | cancelConnected request =>
      simp only [Frame.advance] at hreturned
      split at hreturned <;> cases hreturned
  | marked request canceled => cases hreturned
  | _ => exact ⟨rfl, by rintro _ _ ⟨⟩, by rintro _ _ ⟨⟩⟩

theorem Watching.reflects_iff {defaults : Defaults} {pool : WatchedPool} (h : Watching pool)
    (blank : Position) (label : WatchedLabel) :
    Reflects defaults blank pool label ↔ Kept defaults pool label := by
  unfold Reflects
  cases hstep : watchedStep defaults pool label with
  | some result =>
      simp only [Option.some.injEq, forall_eq']
      exact (h.step hstep blank).1
  | none =>
      refine iff_of_true (fun _ hafter => nomatch hafter) ?_
      cases label with
      | start call => trivial
      | outside change => trivial
      | advance index choice =>
          intro call hcall
          apply keeps_of_returned
          have hnone := Option.bind_eq_none_iff.mp hstep call hcall
          exact Option.map_eq_none_iff.mp (Option.map_eq_none_iff.mp hnone)

/-- In every interleaving of any calls, also of calls made from inside callbacks, every
callback in progress sees its event reflected if and only if no call gives out a trade,
each gives out an order only while the table holds it, and none writes another order in
place of one that a callback is being given. -/
theorem reflected_iff (defaults : Defaults) (blank : Position) (labels : List WatchedLabel) :
    Runs.Along (watchedStep defaults) (Reflects defaults blank) (Concurrent.idle create) labels ↔
      Runs.Along (watchedStep defaults) (Kept defaults) (Concurrent.idle create) labels := by
  apply Runs.along_congr ?_ ?_ watching_create labels
  · intro pool label result h hreflects hstep
    exact (h.step hstep blank).2 ((h.reflects_iff blank label).mp hreflects)
  · intro pool label h
    exact h.reflects_iff blank label

/-- The first trade of a connected trader is not among its trades while it is announced. -/
theorem trade_announced_early :
    ∃ pool, Runs.exec (watchedStep .zero) (Concurrent.idle create)
        (.outside (.outside .connect) :: .outside (.observe (.setTradeCallback true)) ::
          .start (.sendOrder (.buyOne 7)) :: List.replicate 6 (.advance 0 ())) = some pool ∧
      ¬ Reflecting .flat pool := by
  refine ⟨_, rfl, fun hreflecting => ?_⟩
  have htrade := hreflecting _ (List.mem_singleton_self _) _ (List.mem_singleton_self _)
  exact not_reflected_onTrade .flat rfl _ htrade

end QtradeClient.Mock
