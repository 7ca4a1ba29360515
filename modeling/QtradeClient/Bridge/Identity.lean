import QtradeClient.Bridge.Account
import QtradeClient.Bridge.Exchange
import QtradeClient.Bridge.Reservations

/-!
# Whose data a call returns

A response names the account or the order that its data is of, and the bridges put it
under the one that was asked for without a look at that name.  So the data of a call is
its own exactly as long as every response that is put to use answers the question.
-/

namespace QtradeClient.Bridge

open Client Library

/-! ## Names in questions, responses and data -/

/-- How to tell whose data it is, and what the bridge holds for whom.  What comes out of
a bridge without a response of the call's own is what it holds for the name asked. -/
structure Naming {β α ρ ν ω : Type} (exchange : Exchange β α ρ ν ω) where
  wanted : α → String
  sent : ρ → String
  carried : ν → String
  held : β → String → Option ν
  carried_converted : ∀ asked response, carried (exchange.converted asked response) = sent response
  held_keep : ∀ {bridge asked value name found},
    held (exchange.keep bridge asked value) name = some found →
      (name = wanted asked ∧ found = value) ∨ held bridge name = some found
  held_outside : ∀ change bridge, held (exchange.outside change bridge) = held bridge
  kept_held : ∀ {bridge asked result},
    (exchange.kept bridge asked result).errorCode = .kSuccess →
      ∃ value, (exchange.kept bridge asked result).data = some value ∧
        held bridge (wanted asked) = some value
  offline_fails : ∀ {result}, exchange.offline = .report result → result.errorCode ≠ .kSuccess
  failed_fails : ∀ {bridge answer code result}, exchange.request bridge answer = .error code →
    exchange.failed code = .report result → result.errorCode ≠ .kSuccess

namespace Naming

variable {β α ρ ν ω : Type} {exchange : Exchange β α ρ ν ω} (naming : Naming exchange)

/-- The data that a bridge holds and that its calls have returned is of those it was
asked for. -/
structure Owned (pool : Concurrent.Pool β (ExchangeFrame α ρ ν) Empty) : Prop where
  held : ∀ name value, naming.held pool.shared name = some value → naming.carried value = name
  returned : ∀ asked result, .returned asked result ∈ pool.calls →
    result.errorCode = .kSuccess →
      ∃ value, result.data = some value ∧ naming.carried value = naming.wanted asked

/-- The call at this index, which has got this response, is the one that advances. -/
def Takes (pool : Concurrent.Pool β (ExchangeFrame α ρ ν) Empty)
    (label : Concurrent.Label α (Answer ρ) ω) (index : Nat) (asked : α) (response : ρ) : Prop :=
  (∃ answer, label = .advance index answer) ∧
    pool.calls[index]? = some (.delivered asked response)

/-- The data stays with its owners, and a response about something else is not held and
ends its call with an error. -/
def Honest (pool : Concurrent.Pool β (ExchangeFrame α ρ ν) Empty)
    (label : Concurrent.Label α (Answer ρ) ω) : Prop :=
  ∀ result, exchange.step pool label = some result →
    naming.Owned result ∧
      ∀ index asked response, Takes pool label index asked response →
        naming.sent response ≠ naming.wanted asked →
          naming.held result.shared = naming.held pool.shared ∧
            ∃ failure, result.calls[index]? = some (.returned asked failure) ∧
              failure.errorCode ≠ .kSuccess

/-- A response that is put to use answers the question of its call. -/
def Answering (pool : Concurrent.Pool β (ExchangeFrame α ρ ν) Empty)
    (label : Concurrent.Label α (Answer ρ) ω) : Prop :=
  ∀ index asked response, Takes pool label index asked response →
    naming.sent response = naming.wanted asked

/-! ## What one step does -/

/-- A step returns nothing yet, stores a response, or returns what was stored or what
the bridge holds. -/
inductive Effect (bridge : β) (call : ExchangeFrame α ρ ν) : ExchangeFrame α ρ ν → β → Prop where
  | quiet {next : ExchangeFrame α ρ ν} (unstored : ∀ asked response, next ≠ .stored asked response)
      (unreturned : ∀ asked result, next ≠ .returned asked result) : Effect bridge call next bridge
  | stores {asked : α} {response : ρ} (delivered : call = .delivered asked response) :
      Effect bridge call (.stored asked response)
        (exchange.keep bridge asked (exchange.converted asked response))
  | returns {asked : α} {result : Result ν}
      (origin : result.errorCode = .kSuccess →
        (∃ response, call = .stored asked response ∧
          result.data = some (exchange.converted asked response)) ∨
        ∃ value, result.data = some value ∧ naming.held bridge (naming.wanted asked) = some value) :
      Effect bridge call (.returned asked result) bridge

/-- An ending that is reported at once is an error. -/
theorem ended_effect {bridge : β} {call : ExchangeFrame α ρ ν} (asked : α) {ending : Ending ν}
    (hfails : ∀ result, ending = .report result → result.errorCode ≠ .kSuccess) :
    naming.Effect bridge call (.ended asked ending) bridge := by
  cases ending with
  | report result =>
      apply Effect.returns
      intro hsuccess
      exact absurd hsuccess (hfails result rfl)
  | fallBack result =>
      constructor
      · rintro _ _ ⟨⟩
      · rintro _ _ ⟨⟩

theorem advance_effect {answer : Answer ρ} {bridge bridge' : β}
    {call next : ExchangeFrame α ρ ν} {emitted : List Empty}
    (hadvance : exchange.advance answer bridge call = some (next, bridge', emitted)) :
    naming.Effect bridge call next bridge' := by
  cases call with
  | entered asked =>
      simp only [Exchange.advance] at hadvance
      split at hadvance
      · cases hadvance
        constructor
        · rintro _ _ ⟨⟩
        · rintro _ _ ⟨⟩
      · cases hadvance
        exact naming.ended_effect asked fun _ => naming.offline_fails
  | requested asked =>
      simp only [Exchange.advance] at hadvance
      split at hadvance
      · cases hadvance
        constructor
        · rintro _ _ ⟨⟩
        · rintro _ _ ⟨⟩
      · rename_i code hcode
        cases hadvance
        exact naming.ended_effect asked fun _ => naming.failed_fails hcode
  | delivered asked response =>
      cases hadvance
      exact .stores rfl
  | stored asked response =>
      cases hadvance
      exact .returns fun _ => .inl ⟨response, rfl, rfl⟩
  | unanswered asked result =>
      cases hadvance
      exact .returns fun hsuccess => .inr (naming.kept_held hsuccess)
  | returned asked result => cases hadvance

/-! ## What a run keeps -/

/-- The data is with its owners, and stored responses answer their questions. -/
structure Settled (pool : Concurrent.Pool β (ExchangeFrame α ρ ν) Empty) : Prop where
  owned : naming.Owned pool
  stored : ∀ asked response, .stored asked response ∈ pool.calls →
    naming.sent response = naming.wanted asked

section Steps

open Concurrent

variable {naming} {pool result : Concurrent.Pool β (ExchangeFrame α ρ ν) Empty}
  {label : Concurrent.Label α (Answer ρ) ω}

theorem Settled.start (h : naming.Settled pool) (asked : α) :
    naming.Settled { pool with calls := pool.calls ++ [.entered asked] } where
  owned :=
    { held := h.owned.held
      returned := by
        intro other result hreturned
        rcases List.mem_append.mp hreturned with hold | hnew
        · exact h.owned.returned other result hold
        · cases List.mem_singleton.mp hnew }
  stored other response hstored := by
    rcases List.mem_append.mp hstored with hold | hnew
    · exact h.stored other response hold
    · cases List.mem_singleton.mp hnew

theorem Settled.outside (h : naming.Settled pool) (change : ω) :
    naming.Settled { pool with shared := exchange.outside change pool.shared } where
  owned :=
    { held := by
        rw [naming.held_outside]
        exact h.owned.held
      returned := h.owned.returned }
  stored := h.stored

theorem Settled.advance (h : naming.Settled pool) {call next : ExchangeFrame α ρ ν}
    (hcall : call ∈ pool.calls) (heffect : naming.Effect pool.shared call next result.shared)
    (hframes : ∀ frame ∈ result.calls, frame = next ∨ frame ∈ pool.calls)
    (hanswers : ∀ asked response, call = .delivered asked response →
      naming.sent response = naming.wanted asked) : naming.Settled result := by
  obtain ⟨shared, calls, log⟩ := result
  cases heffect with
  | quiet unstored unreturned =>
      refine ⟨⟨h.owned.held, ?_⟩, ?_⟩
      · intro asked result hreturned
        rcases hframes _ hreturned with hnext | hold
        · exact absurd hnext.symm (unreturned asked result)
        · exact h.owned.returned asked result hold
      · intro asked response hstored
        rcases hframes _ hstored with hnext | hold
        · exact absurd hnext.symm (unstored asked response)
        · exact h.stored asked response hold
  | @stores asked response delivered =>
      have hsent := hanswers asked response delivered
      refine ⟨⟨?_, ?_⟩, ?_⟩
      · intro name value hheld
        rcases naming.held_keep hheld with ⟨rfl, rfl⟩ | hbefore
        · rw [naming.carried_converted, hsent]
        · exact h.owned.held name value hbefore
      · intro other result hreturned
        rcases hframes _ hreturned with hnext | hold
        · cases hnext
        · exact h.owned.returned other result hold
      · intro other answered hstored
        rcases hframes _ hstored with hnext | hold
        · cases hnext
          exact hsent
        · exact h.stored other answered hold
  | @returns asked result origin =>
      refine ⟨⟨h.owned.held, ?_⟩, ?_⟩
      · intro other returned hreturned hsuccess
        rcases hframes _ hreturned with hnext | hold
        · cases hnext
          rcases origin hsuccess with ⟨response, rfl, hdata⟩ | ⟨value, hdata, hheld⟩
          · refine ⟨_, hdata, ?_⟩
            rw [naming.carried_converted, h.stored asked response hcall]
          · exact ⟨value, hdata, h.owned.held _ value hheld⟩
        · exact h.owned.returned other returned hold hsuccess
      · intro other response hstored
        rcases hframes _ hstored with hnext | hold
        · cases hnext
        · exact h.stored other response hold

/-- A step that puts no wrong response to use keeps the pool settled. -/
theorem Settled.step (h : naming.Settled pool) (hanswering : naming.Answering pool label)
    (hstep : exchange.step pool label = some result) : naming.Settled result := by
  rcases step_cases hstep with ⟨asked, rfl, rfl⟩ |
    ⟨index, answer, call, next, emitted, before, after, rfl, hcall, hadvances⟩ |
    ⟨change, rfl, rfl⟩
  · exact h.start asked
  · apply h.advance hadvances.call_mem (naming.advance_effect hadvances.effect)
    · intro frame hframe
      exact (hadvances.mem_result hframe).imp_right hadvances.still_mem
    · rintro asked response rfl
      exact hanswering index asked response ⟨⟨answer, rfl⟩, hcall⟩
  · have hlog : (exchange.machine.outside change pool.shared).2 = [] := rfl
    rw [hlog, List.append_nil]
    exact h.outside change

/-- Whatever it says, a response that has arrived is stored next. -/
theorem Takes.step {index : Nat} {asked : α} {response : ρ}
    (htakes : Takes pool label index asked response) :
    ∃ result, exchange.step pool label = some result ∧
      result.calls[index]? = some (.stored asked response) := by
  obtain ⟨⟨answer, rfl⟩, hcall⟩ := htakes
  refine ⟨_, by rw [Exchange.step, Concurrent.step, hcall]; rfl, ?_⟩
  obtain ⟨hindex, -⟩ := List.getElem?_eq_some_iff.mp hcall
  exact List.getElem?_set_self hindex

theorem Settled.answering_iff (h : naming.Settled pool) :
    naming.Honest pool label ↔ naming.Answering pool label := by
  constructor
  · intro hhonest index asked response htakes
    by_contra hother
    obtain ⟨result, hstep, hstored⟩ := htakes.step
    obtain ⟨-, hrefuses⟩ := hhonest result hstep
    obtain ⟨-, failure, hreturned, -⟩ := hrefuses index asked response htakes hother
    cases hstored.symm.trans hreturned
  · intro hanswering result hstep
    refine ⟨(h.step hanswering hstep).owned, fun index asked response htakes hother => ?_⟩
    exact absurd (hanswering index asked response htakes) hother

end Steps

/-- In every interleaving of calls on a bridge that holds nothing at first, the calls are
honest exactly when the responses that they put to use answer their questions. -/
theorem honest_run_iff {bridge : β} (hempty : ∀ name, naming.held bridge name = none)
    (labels : List (Concurrent.Label α (Answer ρ) ω)) :
    Runs.Along exchange.step naming.Honest (Concurrent.idle bridge) labels ↔
      Runs.Along exchange.step naming.Answering (Concurrent.idle bridge) labels := by
  have hidle : naming.Settled (Concurrent.idle bridge) := by
    refine ⟨⟨fun name value hheld => ?_, fun _ _ hreturned => ?_⟩, fun _ _ hstored => ?_⟩
    · cases (hempty name).symm.trans hheld
    · cases hreturned
    · cases hstored
  apply Runs.along_congr ?_ ?_ hidle labels
  · intro pool label result hsettled hhonest hstep
    exact hsettled.step (hsettled.answering_iff.mp hhonest) hstep
  · intro pool label hsettled
    exact hsettled.answering_iff

end Naming

/-! ## The calls of the bridges -/

/-- What may happen to a bridge besides its calls. -/
inductive BridgeChange where
  | init
  | shutdown

def policies : Exchange GrpcAccountRiskBridge String GetAccountRiskPolicyResponse
    AccountRiskPolicy BridgeChange where
  isInitialized bridge := bridge.client.isInitialized
  request bridge answer := bridge.client.callOrNotFound answer
  converted _ response := response.converted
  keep := GrpcAccountRiskBridge.storePolicy
  offline := .fallBack {}
  failed code :=
    if code = .kNotFound then .report (.error .kNotFound "account risk policy not found")
    else .fallBack (.error .kTimeout "GetAccountRiskPolicy RPC failed")
  kept := GrpcAccountRiskBridge.cachedPolicy
  outside
    | .init, bridge => bridge.init.2
    | .shutdown, bridge => bridge.shutdown

def credentials : Exchange GrpcAccountBridge GetCredentialRequest GetCredentialResponse
    CredentialMaterial BridgeChange where
  isInitialized bridge := bridge.client.isInitialized
  request bridge answer := bridge.client.call answer
  converted _ response := response.converted
  keep bridge request := bridge.storeCredential request.accountId
  offline := .fallBack {}
  failed _ := .fallBack (.error .kTimeout "GetCredential RPC failed")
  kept bridge request := bridge.cachedCredential request.accountId
  outside
    | .init, bridge => bridge.init.2
    | .shutdown, bridge => bridge.shutdown

/-- These calls keep nothing; whatever else becomes of the bridge comes from outside. -/
def reservations (blank : Reservation) : Exchange GrpcAccountRiskBridge GetReservationRequest
    GetReservationResponse Reservation GrpcAccountRiskBridge where
  isInitialized bridge := bridge.client.isInitialized
  request bridge answer := bridge.client.callOrNotFound answer
  converted request response := response.converted blank request
  keep bridge _ _ := bridge
  offline := .report (.error .kNotInitialized "")
  failed code := .report (.error code "QueryReservation RPC failed")
  kept _ _ _ := .error .kNotInitialized ""
  outside bridge _ := bridge

theorem policies_perform (bridge : GrpcAccountRiskBridge) (accountId : String)
    (answer : Answer GetAccountRiskPolicyResponse) :
    policies.perform bridge accountId answer = bridge.getAccountRiskPolicy accountId answer := by
  cases hup : bridge.client.isInitialized with
  | false =>
      rw [bridge.getAccountRiskPolicy_down accountId hup]
      exact Exchange.perform_down accountId hup
  | true =>
      cases answer with
      | ok response =>
          rw [bridge.getAccountRiskPolicy_ok accountId hup]
          exact Exchange.perform_ok accountId hup (AccountRiskClient.callOrNotFound_ok hup response)
      | error status =>
          have herror : policies.perform bridge accountId (.error status) = _ :=
            Exchange.perform_error accountId hup
              (AccountRiskClient.callOrNotFound_error hup status)
          by_cases hstatus : status = .notFound
          · rw [herror, hstatus, bridge.getAccountRiskPolicy_notFound accountId hup]
            rfl
          · rw [herror, if_neg hstatus, bridge.getAccountRiskPolicy_failed accountId hup hstatus]
            rfl

theorem credentials_perform (bridge : GrpcAccountBridge) (request : GetCredentialRequest)
    (answer : Answer GetCredentialResponse) :
    credentials.perform bridge request answer = bridge.getCredential request answer := by
  cases hup : bridge.client.isInitialized with
  | false =>
      rw [bridge.getCredential_down request hup]
      exact Exchange.perform_down request hup
  | true =>
      cases answer with
      | ok response =>
          rw [bridge.getCredential_ok request hup]
          exact Exchange.perform_ok request hup (ServiceClient.call_ok hup response)
      | error status =>
          rw [bridge.getCredential_failed request hup]
          exact Exchange.perform_error request hup (ServiceClient.call_error hup status)

theorem reservations_perform (blank : Reservation) (bridge : GrpcAccountRiskBridge)
    (request : GetReservationRequest) (answer : Answer GetReservationResponse) :
    (reservations blank).perform bridge request answer =
      (bridge.queryReservation blank request answer, bridge) := by
  unfold GrpcAccountRiskBridge.queryReservation
  by_cases hup : bridge.client.isInitialized = true
  · rw [if_pos hup]
    cases hrequest : bridge.client.callOrNotFound answer with
    | ok response => exact Exchange.perform_ok request hup hrequest
    | error code => exact Exchange.perform_error request hup hrequest
  · rw [if_neg hup]
    exact Exchange.perform_down request (Bool.eq_false_iff.mpr hup)

/-! A call that nothing interrupts is the function of the bridge. -/

theorem policies_solo (bridge : GrpcAccountRiskBridge) (accountId : String)
    (answer : Answer GetAccountRiskPolicyResponse) :
    let reply := bridge.getAccountRiskPolicy accountId answer
    ∃ count, Concurrent.Solo policies.machine answer count bridge (.entered accountId) reply.2
      (.returned accountId reply.1) [] := by
  rw [← policies_perform]
  exact policies.perform_solo bridge accountId answer

theorem credentials_solo (bridge : GrpcAccountBridge) (request : GetCredentialRequest)
    (answer : Answer GetCredentialResponse) :
    let reply := bridge.getCredential request answer
    ∃ count, Concurrent.Solo credentials.machine answer count bridge (.entered request) reply.2
      (.returned request reply.1) [] := by
  rw [← credentials_perform]
  exact credentials.perform_solo bridge request answer

theorem reservations_solo (blank : Reservation) (bridge : GrpcAccountRiskBridge)
    (request : GetReservationRequest) (answer : Answer GetReservationResponse) :
    ∃ count, Concurrent.Solo (reservations blank).machine answer count bridge
      (.entered request) bridge
      (.returned request (bridge.queryReservation blank request answer)) [] := by
  have hsolo := (reservations blank).perform_solo bridge request answer
  rw [reservations_perform] at hsolo
  exact hsolo

/-! ## Their names -/

def policyNaming : Naming policies where
  wanted accountId := accountId
  sent response := response.policy.accountId
  carried policy := policy.accountId
  held bridge name := bridge.policyCache.lookup name
  carried_converted _ _ := rfl
  held_keep hheld := lookup_insert_cases hheld
  held_outside change _ := by cases change <;> rfl
  kept_held hsuccess := fromCache_success hsuccess
  offline_fails hreport := by cases hreport
  failed_fails _ hreport := by
    simp only [policies] at hreport
    split at hreport
    · cases hreport
      decide
    · cases hreport

/-- The engine of a request is not part of the name. -/
def credentialNaming : Naming credentials where
  wanted request := request.accountId
  sent response := response.credential.accountId
  carried material := material.accountId
  held bridge name := bridge.cache.lookup name
  carried_converted _ _ := rfl
  held_keep hheld := lookup_insert_cases hheld
  held_outside change _ := by cases change <;> rfl
  kept_held hsuccess := fromCache_success hsuccess
  offline_fails hreport := by cases hreport
  failed_fails _ hreport := by cases hreport

/-- The account of a reservation is put in by the bridge; the order comes from the
service. -/
def reservationNaming (blank : Reservation) : Naming (reservations blank) where
  wanted request := request.orderId
  sent response := response.reservation.orderId
  carried reservation := reservation.orderId
  held _ _ := none
  carried_converted _ _ := rfl
  held_keep hheld := .inr hheld
  held_outside _ _ := rfl
  kept_held hsuccess := by cases hsuccess
  offline_fails hreport := by
    cases hreport
    decide
  failed_fails hrequest hreport := by
    cases hreport
    exact AccountRiskClient.callOrNotFound_error_ne hrequest

/-- In every interleaving of calls on a bridge, from its construction on, nobody is given
the data of another account or order exactly when every response that is put to use is
about the account or the order that was asked for. -/
theorem responses_honest_iff (serviceConfig : ServiceConfig) (blank : Reservation) :
    (∀ labels, Runs.Along policies.step policyNaming.Honest
        (Concurrent.idle (.create serviceConfig)) labels ↔
      Runs.Along policies.step policyNaming.Answering
        (Concurrent.idle (.create serviceConfig)) labels) ∧
    (∀ labels, Runs.Along credentials.step credentialNaming.Honest
        (Concurrent.idle (.create serviceConfig)) labels ↔
      Runs.Along credentials.step credentialNaming.Answering
        (Concurrent.idle (.create serviceConfig)) labels) ∧
    ∀ labels, Runs.Along (reservations blank).step (reservationNaming blank).Honest
        (Concurrent.idle (.create serviceConfig)) labels ↔
      Runs.Along (reservations blank).step (reservationNaming blank).Answering
        (Concurrent.idle (.create serviceConfig)) labels := by
  refine ⟨fun labels => ?_, fun labels => ?_, fun labels => ?_⟩
  · apply policyNaming.honest_run_iff
    intro name
    change (∅ : Cache AccountRiskPolicy).lookup name = none
    exact Finmap.lookup_empty name
  · apply credentialNaming.honest_run_iff
    intro name
    change (∅ : Cache CredentialMaterial).lookup name = none
    exact Finmap.lookup_empty name
  · apply (reservationNaming blank).honest_run_iff
    intro name
    rfl

/-- The policy of one account is sent in answer to a call for another, kept for it, and
returned again to a second call when the service is away. -/
theorem foreign_policy_served :
    let policy : GetAccountRiskPolicyResponse := ⟨"b", 1, 0, 0, 0, 0, 0, 0, true⟩
    let labels : List (Concurrent.Label String (Answer GetAccountRiskPolicyResponse)
        BridgeChange) :=
      [.outside .init, .start "a", .advance 0 (.ok policy), .advance 0 (.ok policy),
        .advance 0 (.ok policy), .advance 0 (.ok policy), .start "a",
        .advance 1 (.error .unavailable), .advance 1 (.error .unavailable),
        .advance 1 (.error .unavailable)]
    let start := Concurrent.idle (GrpcAccountRiskBridge.create ⟨true, "risk", 50051⟩)
    (∃ pool, Runs.exec policies.step start labels = some pool ∧
      pool.calls = List.replicate 2 (.returned "a" (.ok policy.converted))) ∧
    ¬Runs.Along policies.step policyNaming.Honest start labels := by
  intro policy labels start
  refine ⟨⟨_, rfl, rfl⟩, fun halong => ?_⟩
  obtain ⟨howned, -⟩ := ((((halong.2 _ rfl).2 _ rfl).2 _ rfl).2 _ rfl).1 _ rfl
  have hnamed := howned.held "a" policy.converted rfl
  revert hnamed
  decide

end QtradeClient.Bridge
