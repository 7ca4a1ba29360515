import QtradeClient.Client.Rpc
import QtradeClient.Library.Concurrent

/-!
# Calls that ask a service

The calls of the bridges have one shape.  A call makes its request if the client is
initialised; a response is converted, put into the bridge and returned; anything else
ends in an error or in what the bridge has kept.  Here such a call is cut at the
messages of its request and at the locked sections of the bridge, so the runs of a pool
are all the interleavings of any number of calls.
-/

namespace QtradeClient.Bridge

open Client Library

/-- How a call without a response ends: with this result, or with what the bridge has
kept, on top of what the call has set so far. -/
inductive Ending (ν : Type) where
  | report (result : Result ν)
  | fallBack (result : Result ν)

/-- One kind of call of a bridge.  `α` is what a call asks, `ρ` what the service
responds, `ν` what the call returns, and `ω` what else may happen to the bridge. -/
structure Exchange (β α ρ ν ω : Type) where
  isInitialized : β → Bool
  request : β → Answer ρ → Except ErrorCode ρ
  converted : α → ρ → ν
  keep : β → α → ν → β
  offline : Ending ν
  failed : ErrorCode → Ending ν
  kept : β → α → Result ν → Result ν
  outside : ω → β → β

/-- Where a call stands. -/
inductive ExchangeFrame (α ρ ν : Type) where
  | entered (asked : α)
  | requested (asked : α)
  | delivered (asked : α) (response : ρ)
  | stored (asked : α) (response : ρ)
  | unanswered (asked : α) (result : Result ν)
  | returned (asked : α) (result : Result ν)

namespace ExchangeFrame

/-- The call after the request has not been made or got no response. -/
def ended {α ρ ν : Type} (asked : α) : Ending ν → ExchangeFrame α ρ ν
  | .report result => .returned asked result
  | .fallBack result => .unanswered asked result

end ExchangeFrame

namespace Exchange

variable {β α ρ ν ω : Type} (exchange : Exchange β α ρ ν ω)

/-! ## A call by itself -/

def conclude (bridge : β) (asked : α) : Ending ν → Result ν
  | .report result => result
  | .fallBack result => exchange.kept bridge asked result

/-- A whole call, given what the service would answer. -/
def perform (bridge : β) (asked : α) (answer : Answer ρ) : Result ν × β :=
  if exchange.isInitialized bridge then
    match exchange.request bridge answer with
    | .ok response =>
        (.ok (exchange.converted asked response),
          exchange.keep bridge asked (exchange.converted asked response))
    | .error code => (exchange.conclude bridge asked (exchange.failed code), bridge)
  else (exchange.conclude bridge asked exchange.offline, bridge)

section Perform

variable {exchange} {bridge : β} {answer : Answer ρ} (asked : α)

theorem perform_down (hdown : exchange.isInitialized bridge = false) :
    exchange.perform bridge asked answer =
      (exchange.conclude bridge asked exchange.offline, bridge) := by
  simp [perform, hdown]

theorem perform_ok (hup : exchange.isInitialized bridge = true) {response : ρ}
    (hrequest : exchange.request bridge answer = .ok response) :
    exchange.perform bridge asked answer =
      (.ok (exchange.converted asked response),
        exchange.keep bridge asked (exchange.converted asked response)) := by
  simp [perform, hup, hrequest]

theorem perform_error (hup : exchange.isInitialized bridge = true) {code : ErrorCode}
    (hrequest : exchange.request bridge answer = .error code) :
    exchange.perform bridge asked answer =
      (exchange.conclude bridge asked (exchange.failed code), bridge) := by
  simp [perform, hup, hrequest]

end Perform

/-! ## Calls that overlap -/

/-- One atomic piece of a call; the choice is what the service answers. -/
def advance (answer : Answer ρ) (bridge : β) :
    ExchangeFrame α ρ ν → Option (ExchangeFrame α ρ ν × β × List Empty)
  | .entered asked =>
      if exchange.isInitialized bridge then some (.requested asked, bridge, [])
      else some (.ended asked exchange.offline, bridge, [])
  | .requested asked =>
      match exchange.request bridge answer with
      | .ok response => some (.delivered asked response, bridge, [])
      | .error code => some (.ended asked (exchange.failed code), bridge, [])
  | .delivered asked response =>
      some (.stored asked response,
        exchange.keep bridge asked (exchange.converted asked response), [])
  | .stored asked response =>
      some (.returned asked (.ok (exchange.converted asked response)), bridge, [])
  | .unanswered asked result =>
      some (.returned asked (exchange.kept bridge asked result), bridge, [])
  | .returned _ _ => none

def machine :
    Concurrent.Machine β (ExchangeFrame α ρ ν) α (Answer ρ) ω Empty where
  enter := .entered
  advance := exchange.advance
  outside change bridge := (exchange.outside change bridge, [])

abbrev step : Concurrent.Pool β (ExchangeFrame α ρ ν) Empty →
    Concurrent.Label α (Answer ρ) ω → Option (Concurrent.Pool β (ExchangeFrame α ρ ν) Empty) :=
  Concurrent.step exchange.machine

section Uninterrupted

open Concurrent

theorem ended_solo (bridge : β) (asked : α) (answer : Answer ρ) (ending : Ending ν) :
    ∃ count, Solo exchange.machine answer count bridge (.ended asked ending) bridge
      (.returned asked (exchange.conclude bridge asked ending)) [] := by
  cases ending with
  | report result => exact ⟨0, .refl _ _⟩
  | fallBack result => exact ⟨1, .silent rfl (.refl _ _)⟩

/-- Left alone, the pieces of a call compose to the whole call. -/
theorem perform_solo (bridge : β) (asked : α) (answer : Answer ρ) :
    ∃ count, Solo exchange.machine answer count bridge (.entered asked)
      (exchange.perform bridge asked answer).2
      (.returned asked (exchange.perform bridge asked answer).1) [] := by
  unfold perform
  by_cases hup : exchange.isInitialized bridge = true
  · have hentered : exchange.machine.advance answer bridge (.entered asked) =
        some (.requested asked, bridge, []) := if_pos hup
    rw [if_pos hup]
    cases hrequest : exchange.request bridge answer with
    | ok response =>
        have hrequested : exchange.machine.advance answer bridge (.requested asked) =
            some (.delivered asked response, bridge, []) := by
          simp only [machine, advance, hrequest]
        exact ⟨4, .silent hentered (.silent hrequested (.silent rfl (.silent rfl (.refl _ _))))⟩
    | error code =>
        have hrequested : exchange.machine.advance answer bridge (.requested asked) =
            some (.ended asked (exchange.failed code), bridge, []) := by
          simp only [machine, advance, hrequest]
        obtain ⟨count, hsolo⟩ := exchange.ended_solo bridge asked answer (exchange.failed code)
        exact ⟨count + 2, .silent hentered (.silent hrequested hsolo)⟩
  · have hentered : exchange.machine.advance answer bridge (.entered asked) =
        some (.ended asked exchange.offline, bridge, []) := if_neg hup
    rw [if_neg hup]
    obtain ⟨count, hsolo⟩ := exchange.ended_solo bridge asked answer exchange.offline
    exact ⟨count + 1, .silent hentered hsolo⟩

end Uninterrupted

end Exchange

end QtradeClient.Bridge
