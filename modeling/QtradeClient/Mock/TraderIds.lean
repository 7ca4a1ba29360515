import QtradeClient.Library.Numbering
import QtradeClient.Mock.TraderCalls

/-!
# Order ids of the mock trader

A request with a non-zero `broker_order_id` keeps it, any other takes
`next_broker_order_id_`, and both are keys of one table.  A sequential run on a
connected trader is a numbering in the sense of the library: ids are given twice,
and entries overwritten, exactly when a caller asks for an id that the counter
passes over in the same run.
-/

namespace QtradeClient.Mock

open Sdk MockTraderApi Library

/-- A connected trader before its first order. -/
structure Opened (api : MockTraderApi) : Prop where
  connected : api.connected = true
  orders : api.orders = ∅
  counter : api.nextBrokerOrderId = 1

def OrderCall.sent? : OrderCall → Option OrderRequest
  | .sendOrder request => some request
  | .cancelOrder _ => none

/-- The orders a run sends. -/
def sent (calls : List OrderCall) : List OrderRequest := calls.filterMap OrderCall.sent?

/-- The id a request asks for; zero asks for automatic assignment. -/
def askedId (request : OrderRequest) : Option Nat :=
  if request.brokerOrderId ≠ 0 then some request.brokerOrderId.toNat else none

def idRequests (calls : List OrderCall) : List (Option Nat) := (sent calls).map askedId

def runOrders (defaults : Defaults) (api : MockTraderApi) (calls : List OrderCall) :
    MockTraderApi :=
  calls.foldl (fun api call => (api.performOrder defaults call).api) api

/-- The ids given to the `SendOrder` calls that return `kSuccess`, in order. -/
def acceptedIds (defaults : Defaults) (api : MockTraderApi) : List OrderCall → List UInt64
  | [] => []
  | .sendOrder request :: calls =>
      let reply := api.sendOrder defaults request
      let rest := acceptedIds defaults reply.api calls
      if reply.outcome = .returned .kSuccess then api.assignedId request :: rest else rest
  | .cancelOrder request :: calls => acceptedIds defaults (api.cancelOrder request).api calls

/-- No accepted order of the run is stored over an entry that is already there. -/
def NothingReplaced (defaults : Defaults) (api : MockTraderApi) : List OrderCall → Prop
  | [] => True
  | .sendOrder request :: calls =>
      let reply := api.sendOrder defaults request
      (reply.outcome = .returned .kSuccess → api.assignedId request ∉ api.orders) ∧
        NothingReplaced defaults reply.api calls
  | .cancelOrder request :: calls =>
      NothingReplaced defaults (api.cancelOrder request).api calls

section Lists

variable (request : OrderRequest) (cancel : CancelOrderRequest) (calls : List OrderCall)

@[simp] theorem idRequests_send :
    idRequests (.sendOrder request :: calls) = askedId request :: idRequests calls := rfl

@[simp] theorem idRequests_cancel :
    idRequests (.cancelOrder cancel :: calls) = idRequests calls := rfl

end Lists

/-! ## Frames of a cancel -/

theorem cancelOrder_keys (api : MockTraderApi) (request : CancelOrderRequest) :
    (api.cancelOrder request).api.orders.keys = api.orders.keys := by
  rcases cancelOrder_cases api request with ⟨_, -, hreply⟩ | ⟨stored, -, hstored, -, hreply⟩
  · rw [hreply]
  · rw [hreply]
    ext id
    simp only [Finmap.mem_keys, Finmap.mem_insert, or_iff_right_iff_imp]
    rintro rfl
    exact Finmap.mem_of_lookup_eq_some hstored

theorem cancelOrder_connected (api : MockTraderApi) (request : CancelOrderRequest) :
    (api.cancelOrder request).api.connected = api.connected := by
  rcases cancelOrder_cases api request with ⟨_, -, hreply⟩ | ⟨_, -, -, -, hreply⟩ <;> rw [hreply]

theorem cancelOrder_counter (api : MockTraderApi) (request : CancelOrderRequest) :
    (api.cancelOrder request).api.nextBrokerOrderId = api.nextBrokerOrderId := by
  rcases cancelOrder_cases api request with ⟨_, -, hreply⟩ | ⟨_, -, -, -, hreply⟩ <;> rw [hreply]

/-! ## The run as a numbering -/

/-- While the counter does not wrap, the ids given are those of the numbering. -/
theorem acceptedIds_assign (defaults : Defaults) {api : MockTraderApi} {next : Nat}
    (hup : api.connected = true) (hcounter : api.nextBrokerOrderId = UInt64.ofNat next)
    {calls : List OrderCall}
    (hbound : next + Numbering.automatic (idRequests calls) ≤ 2 ^ 64) :
    (acceptedIds defaults api calls).map UInt64.toNat =
      Numbering.assign next (idRequests calls) := by
  induction calls generalizing api next with
  | nil => rfl
  | cons call calls ih =>
      cases call with
      | cancelOrder request =>
          exact ih ((cancelOrder_connected api request).trans hup)
            ((cancelOrder_counter api request).trans hcounter) hbound
      | sendOrder request =>
          obtain ⟨order, haccepted⟩ := sendOrder_accepted defaults hup request
          rw [acceptedIds, if_pos haccepted.outcome, List.map_cons, idRequests_send]
          rw [idRequests_send] at hbound
          have hafter := haccepted.counter
          by_cases hzero : request.brokerOrderId = 0
          · -- the request takes the counter
            have hasked : askedId request = none := by simp [askedId, hzero]
            rw [hasked, Numbering.automatic_none] at hbound
            rw [hasked, Numbering.assign]
            have hid : api.assignedId request = UInt64.ofNat next := by
              simp [assignedId, hzero, hcounter]
            simp only [allocate, hzero, ne_eq, not_true_eq_false, if_false, hcounter,
              Numbering.counter_succ] at hafter
            rw [hid, Numbering.counter_toNat (by omega),
              ih haccepted.stillConnected hafter (by omega)]
          · -- the request keeps its own id
            have hasked : askedId request = some request.brokerOrderId.toNat := by
              simp [askedId, hzero]
            rw [hasked, Numbering.automatic_some] at hbound
            rw [hasked, Numbering.assign]
            have hid : api.assignedId request = request.brokerOrderId := by
              simp [assignedId, hzero]
            simp only [allocate, ne_eq, hzero, not_false_eq_true, if_true, hcounter] at hafter
            rw [hid, ih haccepted.stillConnected hafter hbound]

theorem acceptedIds_nodup_iff (defaults : Defaults) {api : MockTraderApi}
    (hopened : Opened api) {calls : List OrderCall}
    (hasked : (Numbering.asked (idRequests calls)).Nodup)
    (hshort : (sent calls).length < 2 ^ 64) :
    (acceptedIds defaults api calls).Nodup ↔
      ∀ id ∈ Numbering.asked (idRequests calls), id = 0 ∨
        Numbering.automatic (idRequests calls) < id := by
  have hbound : 1 + Numbering.automatic (idRequests calls) ≤ 2 ^ 64 := by
    have hcount := Numbering.automatic_le_length (idRequests calls)
    rw [idRequests, List.length_map] at hcount
    rw [idRequests]
    omega
  have hassign : (acceptedIds defaults api calls).map UInt64.toNat =
      Numbering.assign 1 (idRequests calls) :=
    acceptedIds_assign defaults hopened.connected hopened.counter hbound
  have hinjective : Function.Injective UInt64.toNat := fun _ _ => UInt64.toNat_inj.mp
  rw [← List.nodup_map_iff hinjective, hassign, Numbering.assign_nodup_iff 1 hasked]
  refine forall₂_congr fun id _ => or_congr ?_ ?_ <;> omega

/-! ## The table and the answer of a query -/

theorem runOrders_keys (defaults : Defaults) {api : MockTraderApi}
    (hup : api.connected = true) (calls : List OrderCall) :
    (runOrders defaults api calls).orders.keys =
      (acceptedIds defaults api calls).toFinset ∪ api.orders.keys := by
  induction calls generalizing api with
  | nil => simp [runOrders, acceptedIds]
  | cons call calls ih =>
      cases call with
      | cancelOrder request =>
          have hrest := ih ((cancelOrder_connected api request).trans hup)
          rw [cancelOrder_keys] at hrest
          exact hrest
      | sendOrder request =>
          obtain ⟨order, haccepted⟩ := sendOrder_accepted defaults hup request
          have hrest := ih haccepted.stillConnected
          rw [acceptedIds, if_pos haccepted.outcome, List.toFinset_cons]
          apply hrest.trans
          ext id
          simp only [haccepted.orders, Finset.mem_union, List.mem_toFinset, Finmap.mem_keys,
            Finmap.mem_insert, Finset.mem_insert]
          tauto

/-- Distinct ids, none of them in the table yet, are stored over nothing. -/
theorem nothingReplaced_iff (defaults : Defaults) {api : MockTraderApi}
    (hup : api.connected = true) (calls : List OrderCall) :
    NothingReplaced defaults api calls ↔
      (acceptedIds defaults api calls).Nodup ∧
        ∀ id ∈ acceptedIds defaults api calls, id ∉ api.orders := by
  induction calls generalizing api with
  | nil => simp [NothingReplaced, acceptedIds]
  | cons call calls ih =>
      cases call with
      | cancelOrder request =>
          have hrest := ih ((cancelOrder_connected api request).trans hup)
          simp only [← Finmap.mem_keys, cancelOrder_keys] at hrest
          simpa only [NothingReplaced, acceptedIds, Finmap.mem_keys] using hrest
      | sendOrder request =>
          obtain ⟨order, haccepted⟩ := sendOrder_accepted defaults hup request
          rw [NothingReplaced, acceptedIds, if_pos haccepted.outcome,
            ih haccepted.stillConnected, List.nodup_cons, List.forall_mem_cons,
            haccepted.orders]
          simp only [Finmap.mem_insert, haccepted.outcome, forall_const, not_or]
          constructor
          · rintro ⟨hfree, hnodup, hrest⟩
            exact ⟨⟨fun hmem => (hrest _ hmem).1 rfl, hnodup⟩, hfree,
              fun id hid => (hrest id hid).2⟩
          · rintro ⟨⟨hnew, hnodup⟩, hfree, hrest⟩
            refine ⟨hfree, hnodup, fun id hid => ⟨?_, hrest id hid⟩⟩
            rintro rfl
            exact hnew hid

theorem queryOrders_empty_card (api : MockTraderApi) :
    Multiset.card (api.queryOrders .empty) = api.orders.keys.card := by
  have hall : ∀ entry ∈ api.orders.entries, matchesQuery .empty entry.1 entry.2 = true := by
    intro entry _
    rfl
  rw [queryOrders, Multiset.filter_eq_self.mpr hall, Multiset.card_map]
  exact (Multiset.card_map Sigma.fst api.orders.entries).symm

/-! ## When ids are unique -/

/-- A connected trader that fills every order it is sent. -/
def MockTraderApi.connectedOnce : MockTraderApi :=
  { create with connected := true, onOrder := true, onTrade := true }

theorem opened_connectedOnce : Opened .connectedOnce := ⟨rfl, rfl, rfl⟩

theorem mem_asked_iff {calls : List OrderCall} {id : Nat} :
    id ∈ Numbering.asked (idRequests calls) ↔
      ∃ request ∈ sent calls, request.brokerOrderId ≠ 0 ∧ request.brokerOrderId.toNat = id := by
  simp only [Numbering.asked, idRequests, List.mem_filterMap, List.mem_map, id_eq, askedId]
  constructor
  · rintro ⟨_, ⟨request, hrequest, rfl⟩, hid⟩
    split at hid
    · exact ⟨request, hrequest, ‹_›, Option.some.inj hid⟩
    · cases hid
  · rintro ⟨request, hrequest, hne, hid⟩
    exact ⟨_, ⟨request, hrequest, rfl⟩, by rw [if_pos hne, hid]⟩

/-- With distinct ids asked for, every accepted order has an id and an entry of its
own exactly when no caller asks for an id between one and the number of automatic
requests of the run. -/
theorem ids_unique_iff (defaults : Defaults) (api : MockTraderApi) (hopened : Opened api)
    (calls : List OrderCall) (hasked : (Numbering.asked (idRequests calls)).Nodup)
    (hshort : (sent calls).length < 2 ^ 64) :
    ((acceptedIds defaults api calls).Nodup ∧ NothingReplaced defaults api calls ∧
      Multiset.card ((runOrders defaults api calls).queryOrders .empty) =
        (acceptedIds defaults api calls).length) ↔
    ∀ request ∈ sent calls, request.brokerOrderId ≠ 0 →
      Numbering.automatic (idRequests calls) < request.brokerOrderId.toNat := by
  have hkeys := runOrders_keys defaults hopened.connected calls
  rw [hopened.orders, Finmap.keys_empty, Finset.union_empty] at hkeys
  have hreplaced := nothingReplaced_iff defaults hopened.connected calls
  simp only [hopened.orders, Finmap.notMem_empty, not_false_eq_true, implies_true,
    and_true] at hreplaced
  have hcard (hnodup : (acceptedIds defaults api calls).Nodup) :
      Multiset.card ((runOrders defaults api calls).queryOrders .empty) =
        (acceptedIds defaults api calls).length := by
    rw [queryOrders_empty_card, hkeys, List.toFinset_card_of_nodup hnodup]
  have hlaw : ((acceptedIds defaults api calls).Nodup ∧ NothingReplaced defaults api calls ∧
      Multiset.card ((runOrders defaults api calls).queryOrders .empty) =
        (acceptedIds defaults api calls).length) ↔ (acceptedIds defaults api calls).Nodup :=
    ⟨And.left, fun hnodup => ⟨hnodup, hreplaced.mpr hnodup, hcard hnodup⟩⟩
  rw [hlaw, acceptedIds_nodup_iff defaults hopened hasked hshort]
  constructor
  · intro havoid request hrequest hne
    have hmem := mem_asked_iff.mpr ⟨request, hrequest, hne, rfl⟩
    apply (havoid _ hmem).resolve_left
    intro hzero
    exact hne (UInt64.toNat_inj.mp hzero)
  · intro havoid id hid
    obtain ⟨request, hrequest, hne, rfl⟩ := mem_asked_iff.mp hid
    exact .inr (havoid request hrequest hne)

/-- Two orders, the first asking for an id above the only automatic one. -/
theorem ids_unique_sample :
    (acceptedIds .zero .connectedOnce
      [.sendOrder (.buyOne 2), .sendOrder (.buyOne 0)]).Nodup :=
  ((ids_unique_iff .zero .connectedOnce opened_connectedOnce
    [.sendOrder (.buyOne 2), .sendOrder (.buyOne 0)] (by decide) (by decide)).mpr
      (by decide)).1

/-- A caller that asks for id 1 and then leaves the second order to the counter gets
the same id twice, and one entry for two accepted orders. -/
theorem ids_collide :
    let calls := [.sendOrder (.buyOne 1), .sendOrder (.buyOne 0)]
    (Numbering.asked (idRequests calls)).Nodup ∧
      acceptedIds .zero .connectedOnce calls = [1, 1] ∧
      ¬ NothingReplaced .zero .connectedOnce calls ∧
      Multiset.card ((runOrders .zero .connectedOnce calls).queryOrders .empty) = 1 := by
  refine ⟨by decide, by decide, ?_, by decide⟩
  rintro ⟨-, hsecond, -⟩
  exact hsecond rfl (by decide)

end QtradeClient.Mock
