import QtradeClient.Library.Progress
import QtradeClient.Mock.TraderLedger

/-!
# What the mock trader keeps

The trade log is only ever appended to and no order ever leaves the table, whatever the
calls and their interleaving; so the look-up in front of a fill never misses, and every
call can be brought to its end.  Where orders are stored under free ids, an order keeps
its terms, and once it is filled it does not change any more.
-/

namespace QtradeClient.Mock

open Sdk Library MockTraderApi

/-! ## Nothing is lost -/

/-- The records of one trader are still there in another. -/
structure Grows (before after : MockTraderApi) : Prop where
  trades : before.trades <+: after.trades
  orders : ∀ id ∈ before.orders, id ∈ after.orders

namespace Grows

variable {before after : MockTraderApi}

theorem refl (api : MockTraderApi) : Grows api api := ⟨List.prefix_refl _, fun _ => id⟩

theorem trans {middle : MockTraderApi} (hfirst : Grows before middle)
    (hsecond : Grows middle after) : Grows before after where
  trades := hfirst.trades.trans hsecond.trades
  orders id hid := hsecond.orders id (hfirst.orders id hid)

theorem of_eq (horders : after.orders = before.orders) (htrades : after.trades = before.trades) :
    Grows before after := by
  constructor
  · rw [htrades]
  · rw [horders]
    exact fun _ => id

/-- Writing one entry removes none. -/
theorem of_insert {id : UInt64} {order : Order}
    (horders : after.orders = before.orders.insert id order)
    (htrades : before.trades <+: after.trades) : Grows before after where
  trades := htrades
  orders other hother := by
    rw [horders]
    exact Finmap.mem_insert.mpr (.inr hother)

end Grows

theorem fill_grows (api : MockTraderApi) (id : UInt64) (trade : Trade) :
    Grows api (api.fill id trade).2 := by
  have htrades : api.trades <+: (api.fill id trade).2.trades := by
    rw [fill_trades]
    exact List.prefix_append _ _
  cases hstored : api.orders.lookup id with
  | none =>
      refine ⟨htrades, ?_⟩
      unfold fill
      rw [hstored]
      exact fun _ hother => hother
  | some stored =>
      rw [fill_of_lookup hstored] at htrades ⊢
      exact .of_insert rfl htrades

theorem effect_grows {defaults : Defaults} {api result : MockTraderApi} {frame next : Frame}
    {emitted : List Delivery} (heffect : Effect defaults api frame next result emitted) :
    Grows api result := by
  cases heffect with
  | passive orders trades => exact .of_eq orders trades
  | store request id => exact .of_insert rfl (List.prefix_refl _)
  | makeTrade request id => exact .of_eq rfl rfl
  | announce request id trade => exact .refl api
  | fill request id trade => exact fill_grows api id trade
  | mark request canceled after marks =>
      obtain ⟨stored, -, -, -, rfl⟩ := markCanceled_ok marks
      exact .of_insert rfl (List.prefix_refl _)

theorem outside_grows (change : Outside) (api : MockTraderApi) :
    Grows api (changeOutside change api).1 := by
  cases change <;> exact .of_eq rfl rfl

theorem step_grows {defaults : Defaults} {pool result : TraderPool} {label : TraderLabel}
    (hstep : traderStep defaults pool label = some result) :
    Grows pool.shared result.shared := by
  rcases Concurrent.step_cases hstep with ⟨input, rfl, rfl⟩ |
    ⟨index, _, call, next, emitted, before, after, rfl, -, hadvances⟩ | ⟨change, rfl, rfl⟩
  · exact .refl _
  · exact effect_grows (advance_effect hadvances.effect)
  · exact outside_grows change pool.shared

/-! ## Every call ends, and none by raising -/

namespace Frame

/-- The steps that a call still has at most. -/
def rank : Frame → Nat
  | .sendEntered _ => 7
  | .sendConnected _ => 6
  | .allocated .. => 5
  | .stored .. => 4
  | .ordered .. => 3
  | .trading .. => 2
  | .announced .. => 1
  | .sendReturned .. => 0
  | .cancelEntered _ => 4
  | .cancelConnected _ => 3
  | .marked .. => 2
  | .notified .. => 1
  | .cancelReturned .. => 0

/-- The outcomes that a call may have, once it has one. -/
def Answers : Frame → Prop
  | .sendReturned _ outcome =>
      outcome = .returned .kSuccess ∨ outcome = .returned .kConnectionError
  | .cancelReturned _ outcome =>
      outcome = .returned .kSuccess ∨ outcome = .returned .kConnectionError ∨
        outcome = .returned .kNotFound ∨ outcome = .returned .kSystemError
  | _ => True

/-- The call has returned. -/
def hasReturned : Frame → Bool
  | .sendReturned .. => true
  | .cancelReturned .. => true
  | _ => false

theorem hasReturned_of_rank {frame : Frame} (hrank : frame.rank = 0) :
    frame.hasReturned = true := by
  cases frame with
  | sendReturned request outcome => rfl
  | cancelReturned request outcome => rfl
  | _ => cases hrank

theorem rank_enter (input : OrderCall) : (Frame.enter input).rank ≤ 7 := by
  cases input <;> simp [Frame.enter, Frame.rank]

end Frame

theorem ranked (defaults : Defaults) :
    Concurrent.Ranked (traderMachine defaults) Frame.rank where
  lowers {_ shared call after} hadvance := by
    obtain ⟨next, result, emitted⟩ := after
    cases advance_moves hadvance <;> simp [Frame.rank]
  moves {call} hrank _ shared := by
    cases call with
    | sendReturned request outcome => exact absurd rfl hrank
    | cancelReturned request outcome => exact absurd rfl hrank
    | sendEntered request =>
        simp only [traderMachine, Frame.advance]
        split <;> exact ⟨_, rfl⟩
    | cancelEntered request =>
        simp only [traderMachine, Frame.advance]
        split <;> exact ⟨_, rfl⟩
    | ordered request id =>
        simp only [traderMachine, Frame.advance]
        split <;> exact ⟨_, rfl⟩
    | cancelConnected request =>
        simp only [traderMachine, Frame.advance]
        split <;> exact ⟨_, rfl⟩
    | _ => exact ⟨_, rfl⟩

/-- The order of every send in flight is in the table, and whoever has returned has done so
with a code. -/
structure Answering (pool : TraderPool) : Prop where
  filed : ∀ frame ∈ pool.calls, ∀ request id, frame.openOrder? = some (request, id) →
    id ∈ pool.shared.orders
  answers : ∀ frame ∈ pool.calls, frame.Answers

namespace Answering

open Concurrent

variable {defaults : Defaults} {pool result : TraderPool} {call next : Frame}
  {emitted : List Delivery}

theorem idle (api : MockTraderApi) : Answering (Concurrent.idle api) where
  filed frame hframe := by cases hframe
  answers frame hframe := by cases hframe

/-- Nothing is asked of a call without an order of its own. -/
theorem closed {law : OrderRequest → UInt64 → Prop} (hclosed : next.openOrder? = none) :
    ∀ request id, next.openOrder? = some (request, id) → law request id := by
  intro request id hopen
  rw [hclosed] at hopen
  cases hopen

/-- What one step of a call leaves in the table and how it ends. -/
theorem moved {shared : MockTraderApi}
    (hmoves : call.Moves defaults pool.shared next shared emitted)
    (hopen : ∀ request id, call.openOrder? = some (request, id) → id ∈ pool.shared.orders) :
    (∀ request id, next.openOrder? = some (request, id) → id ∈ shared.orders) ∧
      next.Answers := by
  cases hmoves with
  | enterSend request => exact ⟨closed rfl, trivial⟩
  | refuseSend request => exact ⟨closed rfl, .inr rfl⟩
  | allocate request => exact ⟨closed rfl, trivial⟩
  | store request id =>
      refine ⟨?_, trivial⟩
      rintro _ _ ⟨⟩
      exact Finmap.mem_insert.mpr (.inl rfl)
  | order request id => exact ⟨hopen, trivial⟩
  | makeTrade request id => exact ⟨hopen, trivial⟩
  | rest request id => exact ⟨closed rfl, .inl rfl⟩
  | announce request id trade => exact ⟨hopen, trivial⟩
  | fill request id trade =>
      -- the entry is still there, so `orders_.at` does not raise
      obtain ⟨stored, hstored⟩ := Finmap.mem_iff.mp (hopen request id rfl)
      rw [fill_of_lookup hstored]
      exact ⟨closed rfl, .inl rfl⟩
  | enterCancel request => exact ⟨closed rfl, trivial⟩
  | refuseCancel request => exact ⟨closed rfl, .inr (.inl rfl)⟩
  | refuseMark request code hmark =>
      refine ⟨closed rfl, ?_⟩
      rcases markCanceled_error_cases hmark with rfl | rfl
      · exact .inr (.inr (.inl rfl))
      · exact .inr (.inr (.inr rfl))
  | mark request canceled after hmark => exact ⟨closed rfl, trivial⟩
  | notify request canceled => exact ⟨closed rfl, trivial⟩
  | finish request canceled => exact ⟨closed rfl, .inl rfl⟩

theorem step (h : Answering pool) {label : TraderLabel}
    (hstep : traderStep defaults pool label = some result) : Answering result := by
  have hgrows := step_grows hstep
  rcases step_cases hstep with ⟨input, rfl, rfl⟩ |
    ⟨index, _, call, next, emitted, before, after, rfl, -, hadvances⟩ | ⟨change, rfl, rfl⟩
  · constructor
    · intro frame hframe request id hopen
      rcases List.mem_append.mp hframe with hold | hnew
      · exact h.filed frame hold request id hopen
      · rw [List.mem_singleton.mp hnew] at hopen
        cases input <;> cases hopen
    · intro frame hframe
      rcases List.mem_append.mp hframe with hold | hnew
      · exact h.answers frame hold
      · rw [List.mem_singleton.mp hnew]
        cases input <;> trivial
  · obtain ⟨hopen, hanswers⟩ :=
      moved (advance_moves hadvances.effect) (h.filed call hadvances.call_mem)
    constructor
    · intro frame hframe request id hframeOpen
      rcases hadvances.mem_result hframe with rfl | hother
      · exact hopen request id hframeOpen
      · exact hgrows.orders id
          (h.filed frame (hadvances.still_mem hother) request id hframeOpen)
    · intro frame hframe
      rcases hadvances.mem_result hframe with rfl | hother
      · exact hanswers
      · exact h.answers frame (hadvances.still_mem hother)
  · refine ⟨fun frame hframe request id hopen => ?_, h.answers⟩
    exact hgrows.orders id (h.filed frame hframe request id hopen)

end Answering

/-- From any trader without calls in flight and in every interleaving, whatever ids the
requests ask for, and as long as no callback throws: nobody has returned by raising, no call
takes more than seven steps, and the calls in flight can all be brought to their end by steps
of their own. -/
theorem calls_complete (defaults : Defaults) (api : MockTraderApi) (labels : List TraderLabel)
    (pool : TraderPool)
    (hrun : Runs.exec (traderStep defaults) (Concurrent.idle api) labels = some pool) :
    (∀ frame ∈ pool.calls, frame.Answers) ∧
      (∀ index, labels.countP (Concurrent.Label.advances index) ≤ 7) ∧
      ∃ more final, Runs.exec (traderStep defaults) pool more = some final ∧
        (∀ label ∈ more, label.isAdvance = true) ∧
        final.calls.length = pool.calls.length ∧
        ∀ frame ∈ final.calls, frame.hasReturned = true ∧ frame.Answers := by
  have hanswering : Answering pool :=
    Runs.exec_preserves (fun h hstep => h.step hstep) hrun (.idle api)
  obtain ⟨more, final, hmore, hadvance, -, hlength, hover⟩ :=
    (ranked defaults).exists_completion () pool
  have hfinal : Answering final :=
    Runs.exec_preserves (fun h hstep => h.step hstep) hmore hanswering
  refine ⟨hanswering.answers, fun index => ?_, more, final, hmore, hadvance, hlength, ?_⟩
  · exact (ranked defaults).advances_le_bound Frame.rank_enter (List.forall_mem_nil _) hrun index
  · intro frame hframe
    exact ⟨Frame.hasReturned_of_rank (hover frame hframe), hfinal.answers frame hframe⟩

/-- Two sends under one id, neither of which has filled its order yet. -/
theorem calls_complete_sample :
    let labels : List TraderLabel :=
      [.outside .connect, .start (.sendOrder (.buyOne 5)), .start (.sendOrder (.buyOne 5))] ++
        List.replicate 6 (.advance 0 ()) ++ List.replicate 6 (.advance 1 ())
    ∃ pool more final,
      Runs.exec (traderStep .zero) (Concurrent.idle (.observed ⟨false⟩ true true)) labels =
        some pool ∧
      Runs.exec (traderStep .zero) pool more = some final ∧ final.calls.length = 2 := by
  intro labels
  obtain ⟨pool, hrun, hlength⟩ : ∃ pool,
      Runs.exec (traderStep .zero) (Concurrent.idle (.observed ⟨false⟩ true true)) labels =
        some pool ∧ pool.calls.length = 2 := ⟨_, rfl, rfl⟩
  obtain ⟨-, -, more, final, hmore, -, hcount, -⟩ := calls_complete .zero _ labels pool hrun
  exact ⟨pool, more, final, hrun, hmore, hcount.trans hlength⟩

/-! ## What an order keeps -/

/-- Moreover every order has its terms still, and a filled order is as it was. -/
structure Preserves (before after : MockTraderApi) : Prop extends Grows before after where
  orderKept : ∀ id order, before.orders.lookup id = some order →
    ∃ later, after.orders.lookup id = some later ∧
      later.brokerOrderId = order.brokerOrderId ∧ orderTerms later = orderTerms order ∧
      (order.status = .kFilled → later = order)

namespace Preserves

variable {before after : MockTraderApi}

theorem refl (api : MockTraderApi) : Preserves api api where
  toGrows := .refl api
  orderKept _ order hlookup := ⟨order, hlookup, rfl, rfl, fun _ => rfl⟩

theorem trans {middle : MockTraderApi} (hfirst : Preserves before middle)
    (hsecond : Preserves middle after) : Preserves before after where
  toGrows := hfirst.toGrows.trans hsecond.toGrows
  orderKept id order hlookup := by
    obtain ⟨between, hbetween, hid, hterms, hfilled⟩ := hfirst.orderKept id order hlookup
    obtain ⟨later, hlater, hid', hterms', hfilled'⟩ := hsecond.orderKept id between hbetween
    refine ⟨later, hlater, hid'.trans hid, hterms'.trans hterms, fun hstatus => ?_⟩
    obtain rfl := hfilled hstatus
    exact hfilled' hstatus

/-- The table is the same. -/
theorem of_eq (hgrows : Grows before after) (horders : after.orders = before.orders) :
    Preserves before after where
  toGrows := hgrows
  orderKept id order hlookup := by
    rw [horders]
    exact ⟨order, hlookup, rfl, rfl, fun _ => rfl⟩

/-- One entry is written, over none or over an unfilled order of the same terms. -/
theorem of_insert (hgrows : Grows before after) {id : UInt64} {written : Order}
    (horders : after.orders = before.orders.insert id written)
    (hold : ∀ order, before.orders.lookup id = some order →
      written.brokerOrderId = order.brokerOrderId ∧ orderTerms written = orderTerms order ∧
        order.status ≠ .kFilled) : Preserves before after where
  toGrows := hgrows
  orderKept other order hlookup := by
    rw [horders]
    by_cases hother : other = id
    · subst hother
      obtain ⟨hid, hterms, hunfilled⟩ := hold order hlookup
      exact ⟨written, Finmap.lookup_insert _, hid, hterms, fun hfilled => absurd hfilled hunfilled⟩
    · refine ⟨order, ?_, rfl, rfl, fun _ => rfl⟩
      exact (Finmap.lookup_insert_of_ne _ hother).trans hlookup

end Preserves

theorem advances_preserves {defaults : Defaults} {pool result : TraderPool} (h : InFlight pool)
    {call next : Frame} {emitted : List Delivery} {before after : List Frame}
    (hfresh : ∀ id, call.storing? = some id → id ∉ pool.shared.orders)
    (hadvances : Concurrent.Advances (traderMachine defaults) () pool call next emitted before
      after result) : Preserves pool.shared result.shared := by
  have heffect := advance_effect hadvances.effect
  have hgrows := effect_grows heffect
  generalize result.shared = shared at heffect hgrows
  cases heffect with
  | passive orders => exact .of_eq hgrows orders
  | store request id =>
      refine .of_insert hgrows rfl fun order hlookup => ?_
      exact absurd (Finmap.mem_of_lookup_eq_some hlookup) (hfresh id rfl)
  | makeTrade request id => exact .of_eq hgrows rfl
  | announce request id trade => exact .refl _
  | fill request id trade =>
      obtain ⟨stored, hstored, hunfilled, -, -⟩ := h.fillable hadvances.call_mem
      rw [fill_of_lookup hstored] at hgrows ⊢
      refine .of_insert hgrows rfl fun order hlookup => ?_
      obtain rfl := Option.some.inj (hstored.symm.trans hlookup)
      exact ⟨rfl, rfl, hunfilled.ne_filled⟩
  | mark request canceled after hmark =>
      obtain ⟨stored, hstored, hterminal, -, rfl⟩ := markCanceled_ok hmark
      refine .of_insert hgrows rfl fun order hlookup => ?_
      obtain rfl := Option.some.inj (hstored.symm.trans hlookup)
      refine ⟨rfl, rfl, fun hfilled => ?_⟩
      rw [hfilled] at hterminal
      cases hterminal

theorem step_preserves {defaults : Defaults} {pool result : TraderPool} {label : TraderLabel}
    (hfresh : Fresh pool label) (h : InFlight pool)
    (hstep : traderStep defaults pool label = some result) :
    Preserves pool.shared result.shared := by
  have hgrows := step_grows hstep
  rcases Concurrent.step_cases hstep with ⟨input, rfl, rfl⟩ |
    ⟨index, _, call, next, emitted, before, after, rfl, hcall, hadvances⟩ | ⟨change, rfl, rfl⟩
  · exact .refl _
  · apply advances_preserves h ?_ hadvances
    intro id hstoring
    apply hfresh id
    rw [hcall, Option.bind_some]
    exact hstoring
  · apply Preserves.of_eq hgrows
    cases change <;> rfl

/-- Between any two states of a run that stores under free ids, the trade log has only been
extended, every order is still in the table with its id and its terms, and every filled
order is exactly as it was. -/
theorem records_kept (defaults : Defaults) (spi : MockTraderSpi) (onOrder onTrade : Bool)
    (earlier later : List TraderLabel) (middle final : TraderPool)
    (hfresh : Runs.Along (traderStep defaults) Fresh
      (Concurrent.idle (.observed spi onOrder onTrade)) (earlier ++ later))
    (hearlier : Runs.exec (traderStep defaults)
      (Concurrent.idle (.observed spi onOrder onTrade)) earlier = some middle)
    (hlater : Runs.exec (traderStep defaults) middle later = some final) :
    Preserves middle.shared final.shared := by
  obtain ⟨hfirst, hsecond⟩ := Runs.along_append.mp hfresh
  have hmiddle : InFlight middle :=
    Runs.exec_invariant (fun hok h hstep => h.step hok hstep) hfirst hearlier (inFlight_idle _)
  have hstepKept : ∀ {pool label result}, Fresh pool label → InFlight pool →
      traderStep defaults pool label = some result →
        InFlight result ∧ Preserves pool.shared result.shared := fun hok h hstep =>
    ⟨h.step hok hstep, step_preserves hok h hstep⟩
  exact Runs.exec_related (fun first second : TraderPool => Preserves first.shared second.shared)
    (fun pool => .refl pool.shared) Preserves.trans hstepKept (hsecond middle hearlier) hlater
    hmiddle

/-- An order fills, and then another one is sent and a cancel of the first is refused. -/
theorem records_kept_sample :
    let earlier : List TraderLabel :=
      [.outside .connect, .start (.sendOrder (.buyOne 5))] ++ List.replicate 7 (.advance 0 ())
    let later : List TraderLabel :=
      [.start (.sendOrder (.buyOne 6)), .start (.cancelOrder ⟨5, "x"⟩)] ++
        List.replicate 4 (.advance 1 ()) ++ List.replicate 2 (.advance 2 ())
    ∃ middle final,
      Runs.exec (traderStep .zero) (Concurrent.idle (.observed ⟨false⟩ true true)) earlier =
        some middle ∧
      Runs.exec (traderStep .zero) middle later = some final ∧
      Preserves middle.shared final.shared := by
  intro earlier later
  have hfresh : Runs.Along (traderStep .zero) Fresh
      (Concurrent.idle (.observed ⟨false⟩ true true)) (earlier ++ later) := by decide
  exact ⟨_, _, rfl, rfl, records_kept .zero ⟨false⟩ true true _ _ _ _ hfresh rfl rfl⟩

/-! ## Behind a closed connection -/

/-- The call has not got past the connection check: it stands in front of it or was refused
there. -/
def Frame.atGate : Frame → Bool
  | .sendEntered _ => true
  | .sendReturned _ (.returned .kConnectionError) => true
  | .cancelEntered _ => true
  | .cancelReturned _ (.returned .kConnectionError) => true
  | _ => false

/-- The call stands in front of the connection check or has returned. -/
def Frame.Settled (frame : Frame) : Prop :=
  frame.atGate = true ∨ frame.hasReturned = true

/-- The calls of an earlier state that were past the check have returned. -/
def PassedOver (before after : TraderPool) : Prop :=
  ∀ (index : Nat) (call : Frame), before.calls[index]? = some call → call.atGate = false →
    ∃ ended, after.calls[index]? = some ended ∧ ended.hasReturned = true

/-- What a trader without a connection does: no call passes the check, and while every call
that is past it has returned the records and the log stay as they are. -/
structure Drains (before after : TraderPool) : Prop where
  passed : ∀ (index : Nat) (frame : Frame), after.calls[index]? = some frame →
    frame.atGate = false →
      ∃ earlier, before.calls[index]? = some earlier ∧ earlier.atGate = false
  quiet : (∀ frame ∈ before.calls, frame.Settled) →
    (∀ frame ∈ after.calls, frame.Settled) ∧
      after.shared.orders = before.shared.orders ∧
      after.shared.trades = before.shared.trades ∧ after.log = before.log

namespace Drains

open Concurrent

variable {defaults : Defaults} {pool result : TraderPool} {call next : Frame}
  {emitted : List Delivery} {before after : List Frame}

theorem refl (pool : TraderPool) : Drains pool pool where
  passed _ frame hframe hpassed := ⟨frame, hframe, hpassed⟩
  quiet hsettled := ⟨hsettled, rfl, rfl, rfl⟩

theorem trans {middle : TraderPool} (hfirst : Drains pool middle)
    (hsecond : Drains middle result) : Drains pool result where
  passed index frame hframe hpassed := by
    obtain ⟨between, hbetween, hbetweenPassed⟩ := hsecond.passed index frame hframe hpassed
    exact hfirst.passed index between hbetween hbetweenPassed
  quiet hsettled := by
    obtain ⟨hmiddle, horders, htrades, hlog⟩ := hfirst.quiet hsettled
    obtain ⟨hresult, horders', htrades', hlog'⟩ := hsecond.quiet hmiddle
    exact ⟨hresult, horders'.trans horders, htrades'.trans htrades, hlog'.trans hlog⟩

/-- A call in front of the check is refused. -/
theorem advance_atGate {api shared : MockTraderApi} (hdown : api.connected = false)
    (hgate : call.atGate = true)
    (hadvance : call.advance defaults api = some (next, shared, emitted)) :
    next.atGate = true ∧ shared = api ∧ emitted = [] := by
  cases call with
  | sendEntered request =>
      rw [Frame.advance, if_neg (by simp [hdown])] at hadvance
      cases hadvance
      exact ⟨rfl, rfl, rfl⟩
  | cancelEntered request =>
      rw [Frame.advance, if_neg (by simp [hdown])] at hadvance
      cases hadvance
      exact ⟨rfl, rfl, rfl⟩
  | sendReturned request outcome => cases hadvance
  | cancelReturned request outcome => cases hadvance
  | _ => cases hgate

/-- A call that has returned does not move. -/
theorem advance_settled {api shared : MockTraderApi} (hdown : api.connected = false)
    (hsettled : call.Settled)
    (hadvance : call.advance defaults api = some (next, shared, emitted)) :
    next.Settled ∧ shared = api ∧ emitted = [] := by
  rcases hsettled with hgate | hreturned
  · obtain ⟨hnext, hshared, hemitted⟩ := advance_atGate hdown hgate hadvance
    exact ⟨.inl hnext, hshared, hemitted⟩
  · cases call with
    | sendReturned request outcome => cases hadvance
    | cancelReturned request outcome => cases hadvance
    | _ => cases hreturned

theorem advance_connected {api shared : MockTraderApi}
    (hadvance : call.advance defaults api = some (next, shared, emitted)) :
    shared.connected = api.connected := by
  cases advance_moves hadvance with
  | allocate request => exact allocate_connected api request
  | fill request id trade =>
      unfold fill
      split <;> rfl
  | mark request canceled after hmark =>
      obtain ⟨stored, -, -, -, rfl⟩ := markCanceled_ok hmark
      rfl
  | _ => rfl

/-- Whoever is past the check after a step was so before it. -/
theorem step_passed (hdown : pool.shared.connected = false) {label : TraderLabel}
    (hstep : traderStep defaults pool label = some result) {index : Nat} {frame : Frame}
    (hframe : result.calls[index]? = some frame) (hpassed : frame.atGate = false) :
    ∃ earlier, pool.calls[index]? = some earlier ∧ earlier.atGate = false := by
  rcases step_getElem?_cases hstep hframe with ⟨input, rfl⟩ | hold |
    ⟨choice, earlier, emitted, rfl, hearlier, hadvance⟩
  · cases input <;> cases hpassed
  · exact ⟨frame, hold, hpassed⟩
  · refine ⟨earlier, hearlier, ?_⟩
    cases hgate : earlier.atGate with
    | false => rfl
    | true => cases hpassed.symm.trans (advance_atGate hdown hgate hadvance).1

theorem step_quiet (hdown : pool.shared.connected = false) {label : TraderLabel}
    (hlabel : label ≠ .outside .connect) (hstep : traderStep defaults pool label = some result)
    (hsettled : ∀ frame ∈ pool.calls, frame.Settled) :
    (∀ frame ∈ result.calls, frame.Settled) ∧ result.shared.orders = pool.shared.orders ∧
      result.shared.trades = pool.shared.trades ∧ result.log = pool.log := by
  rcases step_cases hstep with ⟨input, rfl, rfl⟩ |
    ⟨index, _, call, next, emitted, before, after, rfl, -, hadvances⟩ | ⟨change, rfl, rfl⟩
  · refine ⟨fun frame hframe => ?_, rfl, rfl, rfl⟩
    rcases List.mem_append.mp hframe with hold | hnew
    · exact hsettled frame hold
    · rw [List.mem_singleton.mp hnew]
      cases input <;> exact .inl rfl
  · obtain ⟨hnext, hshared, hemitted⟩ :=
      advance_settled hdown (hsettled call hadvances.call_mem) hadvances.effect
    rw [hadvances.result_log, hshared, hemitted]
    refine ⟨fun frame hframe => ?_, rfl, rfl, List.append_nil _⟩
    rcases hadvances.mem_result hframe with rfl | hother
    · exact hnext
    · exact hsettled frame (hadvances.still_mem hother)
  · cases change with
    | connect => exact absurd rfl hlabel
    | disconnect => exact ⟨hsettled, rfl, rfl, List.append_nil _⟩
    | setAutoFill autoFill => exact ⟨hsettled, rfl, rfl, List.append_nil _⟩

theorem step (hdown : pool.shared.connected = false) {label : TraderLabel}
    (hlabel : label ≠ .outside .connect)
    (hstep : traderStep defaults pool label = some result) :
    result.shared.connected = false ∧ Drains pool result := by
  refine ⟨?_, fun _ _ hframe hpassed => step_passed hdown hstep hframe hpassed,
    step_quiet hdown hlabel hstep⟩
  rcases step_cases hstep with ⟨input, rfl, rfl⟩ |
    ⟨index, _, call, next, emitted, before, after, rfl, -, hadvances⟩ | ⟨change, rfl, rfl⟩
  · exact hdown
  · exact (advance_connected hadvances.effect).trans hdown
  · cases change with
    | connect => exact absurd rfl hlabel
    | disconnect => rfl
    | setAutoFill autoFill => exact hdown

/-- Once the calls that were past the check have returned, every call is settled. -/
theorem settled (h : Drains pool result) (hover : PassedOver pool result) :
    ∀ frame ∈ result.calls, frame.Settled := by
  intro frame hframe
  obtain ⟨index, hindex⟩ := List.mem_iff_getElem?.mp hframe
  cases hgate : frame.atGate with
  | true => exact .inl hgate
  | false =>
      obtain ⟨call, hcall, hpassed⟩ := h.passed index frame hindex hgate
      obtain ⟨ended, hresult, hreturned⟩ := hover index call hcall hpassed
      obtain rfl := Option.some.inj (hindex.symm.trans hresult)
      exact .inr hreturned

end Drains

/-- From any state without a connection, in every interleaving that does not connect again:
only the calls that were past the connection check are ever past it, and from where these
have all returned no order, no trade and no event is added any more. -/
theorem disconnected_drains (defaults : Defaults) (start middle final : TraderPool)
    (hdown : start.shared.connected = false) (earlier later : List TraderLabel)
    (hlabels : ∀ label ∈ earlier ++ later, label ≠ .outside .connect)
    (hearlier : Runs.exec (traderStep defaults) start earlier = some middle)
    (hlater : Runs.exec (traderStep defaults) middle later = some final) :
    Drains start final ∧
      (PassedOver start middle →
        final.shared.orders = middle.shared.orders ∧
          final.shared.trades = middle.shared.trades ∧ final.log = middle.log) := by
  have halong : Runs.Along (traderStep defaults) (fun _ label => label ≠ .outside .connect) start
      (earlier ++ later) := Runs.along_labels hlabels start
  obtain ⟨hfirst, hsecond⟩ := Runs.along_append.mp halong
  have hstepDrains : ∀ {pool label result}, label ≠ .outside .connect →
      pool.shared.connected = false → traderStep defaults pool label = some result →
        result.shared.connected = false ∧ Drains pool result := fun hlabel hdown hstep =>
    Drains.step hdown hlabel hstep
  have hmiddle : middle.shared.connected = false :=
    Runs.exec_invariant (fun hlabel hdown hstep => (hstepDrains hlabel hdown hstep).1) hfirst
      hearlier hdown
  have hbefore : Drains start middle :=
    Runs.exec_related Drains Drains.refl Drains.trans hstepDrains hfirst hearlier hdown
  have hafter : Drains middle final :=
    Runs.exec_related Drains Drains.refl Drains.trans hstepDrains (hsecond middle hearlier) hlater
      hmiddle
  refine ⟨hbefore.trans hafter, fun hover => ?_⟩
  exact (hafter.quiet (hbefore.settled hover)).2

/-- The connection is closed over a send that has stored its order.  It goes on to its fill
while another one is refused; after it has returned, one more send and a cancel of its order
are refused too. -/
theorem disconnected_drains_sample :
    let opening : List TraderLabel :=
      [.outside .connect, .start (.sendOrder (.buyOne 5)), .advance 0 (), .advance 0 (),
        .advance 0 (), .outside .disconnect]
    let earlier : List TraderLabel :=
      [.start (.sendOrder (.buyOne 6)), .advance 1 ()] ++ List.replicate 4 (.advance 0 ())
    let later : List TraderLabel :=
      [.start (.sendOrder (.buyOne 7)), .start (.cancelOrder ⟨5, "x"⟩), .advance 2 (),
        .outside (.setAutoFill false), .advance 3 ()]
    ∃ start middle final,
      Runs.exec (traderStep .zero) (Concurrent.idle (.observed ⟨false⟩ true true)) opening =
        some start ∧
      Runs.exec (traderStep .zero) start earlier = some middle ∧
      Runs.exec (traderStep .zero) middle later = some final ∧ Drains start final ∧
      start.shared.trades.length = 0 ∧ middle.shared.trades.length = 1 ∧
      final.shared.trades = middle.shared.trades ∧ final.log = middle.log := by
  intro opening earlier later
  have hlabels : ∀ label ∈ earlier ++ later, label ≠ .outside .connect := by
    intro label hlabel
    simp only [earlier, later, List.replicate, List.cons_append, List.nil_append, List.mem_cons,
      List.not_mem_nil, or_false] at hlabel
    rcases hlabel with rfl | rfl | rfl | rfl | rfl | rfl | rfl | rfl | rfl | rfl | rfl <;> simp
  refine ⟨_, _, _, rfl, rfl, rfl, And.imp id (fun hquiet => ⟨rfl, rfl, (hquiet ?_).2⟩)
    (disconnected_drains .zero _ _ _ rfl earlier later hlabels rfl rfl)⟩
  intro index call hcall _
  cases index with
  | zero => exact ⟨_, rfl, rfl⟩
  | succ rest => cases hcall

end QtradeClient.Mock
