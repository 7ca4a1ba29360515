import QtradeClient.Bridge.Cache
import QtradeClient.Bridge.Convert
import QtradeClient.Client.Rpc
import QtradeClient.Library.Remembered
import QtradeClient.Library.Runs

/-!
# Account-risk policies through the bridge

`GetAccountRiskPolicy` keeps the last policy of each account and falls back to it when
the service does not answer.  A session runs the bridge together with the answers the
service has given, so that what a call returns can be held against what the service
last said about the account.
-/

namespace QtradeClient.Bridge

open Client Library Library.History Library.Remembered

structure GetAccountRiskPolicyResponse where
  policy : Proto.AccountRiskPolicy

def GetAccountRiskPolicyResponse.converted (response : GetAccountRiskPolicyResponse) :
    AccountRiskPolicy :=
  toAccountRiskPolicy response.policy

structure GrpcAccountRiskBridge where
  serviceConfig : ServiceConfig
  client : AccountRiskClient
  policyCache : Cache AccountRiskPolicy

namespace GrpcAccountRiskBridge

def create (serviceConfig : ServiceConfig) : GrpcAccountRiskBridge :=
  ⟨serviceConfig, .create, ∅⟩

def init (bridge : GrpcAccountRiskBridge) : ErrorCode × GrpcAccountRiskBridge :=
  let done := bridge.client.init bridge.serviceConfig
  (done.1, { bridge with client := done.2 })

def shutdown (bridge : GrpcAccountRiskBridge) : GrpcAccountRiskBridge :=
  { bridge with client := bridge.client.shutdown }

def cacheKey (accountId : String) : String := accountId

/-- The locked section of a call with a response. -/
def storePolicy (bridge : GrpcAccountRiskBridge) (accountId : String)
    (policy : AccountRiskPolicy) : GrpcAccountRiskBridge :=
  { bridge with policyCache := bridge.policyCache.insert (cacheKey accountId) policy }

/-- The locked section of a call without one. -/
def cachedPolicy (bridge : GrpcAccountRiskBridge) (accountId : String)
    (result : Result AccountRiskPolicy) : Result AccountRiskPolicy :=
  fromCache bridge.policyCache (cacheKey accountId) "account risk policy not available" result

/-- A call, given what the service would answer it; `NOT_FOUND` is reported at once and
leaves the cache as it is. -/
def getAccountRiskPolicy (bridge : GrpcAccountRiskBridge) (accountId : String)
    (answer : Answer GetAccountRiskPolicyResponse) :
    Result AccountRiskPolicy × GrpcAccountRiskBridge :=
  if bridge.client.isInitialized then
    match bridge.client.callOrNotFound answer with
    | .ok response => (.ok response.converted, bridge.storePolicy accountId response.converted)
    | .error .kNotFound => (.error .kNotFound "account risk policy not found", bridge)
    | .error _ =>
        (bridge.cachedPolicy accountId (.error .kTimeout "GetAccountRiskPolicy RPC failed"),
          bridge)
  else (bridge.cachedPolicy accountId {}, bridge)

/-! ## The ways through a call -/

section Calls

variable {bridge : GrpcAccountRiskBridge} (accountId : String)

theorem getAccountRiskPolicy_down (hdown : bridge.client.isInitialized = false)
    (answer : Answer GetAccountRiskPolicyResponse) :
    bridge.getAccountRiskPolicy accountId answer = (bridge.cachedPolicy accountId {}, bridge) := by
  simp [getAccountRiskPolicy, hdown]

theorem getAccountRiskPolicy_ok (hup : bridge.client.isInitialized = true)
    (response : GetAccountRiskPolicyResponse) :
    bridge.getAccountRiskPolicy accountId (.ok response) =
      (.ok response.converted, bridge.storePolicy accountId response.converted) := by
  simp [getAccountRiskPolicy, AccountRiskClient.callOrNotFound, hup]

theorem getAccountRiskPolicy_notFound (hup : bridge.client.isInitialized = true) :
    bridge.getAccountRiskPolicy accountId (.error .notFound) =
      (.error .kNotFound "account risk policy not found", bridge) := by
  simp [getAccountRiskPolicy, AccountRiskClient.callOrNotFound, hup]

theorem getAccountRiskPolicy_failed (hup : bridge.client.isInitialized = true)
    {status : StatusCode} (hstatus : status ≠ .notFound) :
    bridge.getAccountRiskPolicy accountId (.error status) =
      (bridge.cachedPolicy accountId (.error .kTimeout "GetAccountRiskPolicy RPC failed"),
        bridge) := by
  simp [getAccountRiskPolicy, AccountRiskClient.callOrNotFound, hup, hstatus]

end Calls

end GrpcAccountRiskBridge

/-! ## Sessions -/

inductive RiskEvent where
  | init
  | shutdown
  | getAccountRiskPolicy (accountId : String) (answer : Answer GetAccountRiskPolicyResponse)

/-- The bridge and what the service has answered, the latest answer last. -/
structure RiskSession where
  bridge : GrpcAccountRiskBridge
  answered : List (String × Answer GetAccountRiskPolicyResponse)

namespace RiskSession

def start (serviceConfig : ServiceConfig) : RiskSession := ⟨.create serviceConfig, []⟩

/-- The answers after a call: none is added when the client makes no request. -/
def heard (session : RiskSession) (accountId : String)
    (answer : Answer GetAccountRiskPolicyResponse) :
    List (String × Answer GetAccountRiskPolicyResponse) :=
  if session.bridge.client.isInitialized then session.answered ++ [(accountId, answer)]
  else session.answered

def next (session : RiskSession) : RiskEvent → RiskSession
  | .init => { session with bridge := session.bridge.init.2 }
  | .shutdown => { session with bridge := session.bridge.shutdown }
  | .getAccountRiskPolicy accountId answer =>
      ⟨(session.bridge.getAccountRiskPolicy accountId answer).2, session.heard accountId answer⟩

end RiskSession

/-- What a definite answer says about an account: a policy, or that there is none. -/
def definitePolicy? (accountId : String)
    (entry : String × Answer GetAccountRiskPolicyResponse) :
    Option (Option GetAccountRiskPolicyResponse) :=
  if entry.1 = accountId then
    match entry.2 with
    | .ok response => some (some response)
    | .error status => if status = .notFound then some none else none
  else none

/-- The policies that an account was given. -/
abbrev givenPolicy? (accountId : String) :
    String × Answer GetAccountRiskPolicyResponse → Option GetAccountRiskPolicyResponse :=
  okUnder GrpcAccountRiskBridge.cacheKey accountId

/-- A call that succeeds returns what the latest definite answer for its account says,
its own answer included. -/
def ServesLatest (session : RiskSession) : RiskEvent → Prop
  | .init => True
  | .shutdown => True
  | .getAccountRiskPolicy accountId answer =>
      let result := (session.bridge.getAccountRiskPolicy accountId answer).1
      result.errorCode = .kSuccess →
        ∃ response, result.data = some response.converted ∧
          latest? (definitePolicy? accountId) (session.heard accountId answer) =
            some (some response)

/-- The call does not go without a definite answer of its own after the service has
withdrawn a policy that it gave before. -/
def NotWithdrawn (session : RiskSession) : RiskEvent → Prop
  | .init => True
  | .shutdown => True
  | .getAccountRiskPolicy accountId answer =>
      latest? (definitePolicy? accountId) (session.heard accountId answer) = some none →
        (session.bridge.client.isInitialized = true ∧ answer = .error .notFound) ∨
          latest? (givenPolicy? accountId) session.answered = none

/-- The cache holds the last policy of each account. -/
def RiskSession.Coherent (session : RiskSession) : Prop :=
  Remembers GrpcAccountRiskBridge.cacheKey GetAccountRiskPolicyResponse.converted
    session.bridge.policyCache session.answered

theorem coherent_start (serviceConfig : ServiceConfig) :
    (RiskSession.start serviceConfig).Coherent := remembers_nil

section Histories

variable {accountId : String} {answered : List (String × Answer GetAccountRiskPolicyResponse)}

@[simp] theorem definitePolicy_ok (accountId : String) (response : GetAccountRiskPolicyResponse) :
    definitePolicy? accountId (accountId, .ok response) = some (some response) := if_pos rfl

@[simp] theorem definitePolicy_notFound (accountId : String) :
    definitePolicy? accountId (accountId, .error .notFound) = some none := if_pos rfl

theorem definitePolicy_failed (accountId : String) {status : StatusCode}
    (hstatus : status ≠ .notFound) :
    definitePolicy? accountId (accountId, .error status) = none := by
  simp [definitePolicy?, hstatus]

/-- Only an answer that gives a policy counts as one. -/
theorem given_eq_join (entry : String × Answer GetAccountRiskPolicyResponse) :
    givenPolicy? accountId entry = (definitePolicy? accountId entry).join := by
  obtain ⟨asked, answer⟩ := entry
  by_cases hasked : asked = accountId
  · cases answer with
    | ok response => simp [givenPolicy?, okUnder, definitePolicy?, hasked,
        GrpcAccountRiskBridge.cacheKey, Except.toOption]
    | error status =>
        by_cases hstatus : status = .notFound <;>
          simp [definitePolicy?, hasked, hstatus]
  · simp [givenPolicy?, okUnder, definitePolicy?, hasked, GrpcAccountRiskBridge.cacheKey]

theorem given_of_definite {response : GetAccountRiskPolicyResponse}
    (hlatest : latest? (definitePolicy? accountId) answered = some (some response)) :
    latest? (givenPolicy? accountId) answered = some response := by
  apply latest?_of_latest? ?_ ?_ hlatest
  · intro entry hnone
    rw [given_eq_join, hnone, Option.join_none]
  · intro entry hsome
    rw [given_eq_join, hsome, Option.join_some]

theorem never_given (hlatest : latest? (definitePolicy? accountId) answered = none) :
    latest? (givenPolicy? accountId) answered = none := by
  apply latest?_eq_none_of_imp ?_ hlatest
  intro entry hnone
  rw [given_eq_join, hnone, Option.join_none]

end Histories

namespace RiskSession

variable {session : RiskSession}

theorem Coherent.next (h : session.Coherent) (event : RiskEvent) :
    (session.next event).Coherent := by
  cases event with
  | init => exact h
  | shutdown => exact h
  | getAccountRiskPolicy accountId answer =>
      rw [Coherent, RiskSession.next, heard]
      cases hup : session.bridge.client.isInitialized with
      | false =>
          rw [GrpcAccountRiskBridge.getAccountRiskPolicy_down accountId hup]
          exact h
      | true =>
          cases answer with
          | ok response =>
              rw [GrpcAccountRiskBridge.getAccountRiskPolicy_ok accountId hup]
              exact h.ok accountId response
          | error status =>
              by_cases hstatus : status = .notFound
              · rw [hstatus, GrpcAccountRiskBridge.getAccountRiskPolicy_notFound accountId hup]
                exact h.error accountId .notFound
              · rw [GrpcAccountRiskBridge.getAccountRiskPolicy_failed accountId hup hstatus]
                exact h.error accountId status

theorem Coherent.cachedPolicy_missing (h : session.Coherent) {accountId : String}
    (hnone : latest? (givenPolicy? accountId) session.answered = none)
    (result : Result AccountRiskPolicy) :
    (session.bridge.cachedPolicy accountId result).errorCode ≠ .kSuccess := by
  refine (fromCache_missing ?_ _ result).1
  exact (h accountId).trans (by rw [hnone, Option.map_none])

theorem Coherent.cachedPolicy_found (h : session.Coherent) {accountId : String}
    {response : GetAccountRiskPolicyResponse}
    (hgiven : latest? (givenPolicy? accountId) session.answered = some response)
    (result : Result AccountRiskPolicy) :
    session.bridge.cachedPolicy accountId result = .ok response.converted := by
  apply fromCache_found
  exact (h accountId).trans (by rw [hgiven, Option.map_some])

/-- A call that ends in the cache serves the latest definite answer exactly when that
answer is not a withdrawal of an earlier policy. -/
theorem Coherent.cached_serves_iff (h : session.Coherent) (accountId : String)
    (result : Result AccountRiskPolicy) :
    ((session.bridge.cachedPolicy accountId result).errorCode = .kSuccess →
      ∃ response,
        (session.bridge.cachedPolicy accountId result).data = some response.converted ∧
        latest? (definitePolicy? accountId) session.answered = some (some response)) ↔
    (latest? (definitePolicy? accountId) session.answered = some none →
      latest? (givenPolicy? accountId) session.answered = none) := by
  cases hgiven : latest? (givenPolicy? accountId) session.answered with
  | none =>
      refine ⟨fun _ _ => rfl, fun _ hsuccess => ?_⟩
      exact absurd hsuccess (h.cachedPolicy_missing hgiven result)
  | some response =>
      rw [h.cachedPolicy_found hgiven result]
      constructor
      · intro hserves hwithdrawn
        obtain ⟨other, -, hlatest⟩ := hserves rfl
        cases hwithdrawn.symm.trans hlatest
      · intro hclear _
        refine ⟨response, rfl, ?_⟩
        match hlatest : latest? (definitePolicy? accountId) session.answered with
        | none => cases hgiven.symm.trans (never_given hlatest)
        | some none => cases hclear hlatest
        | some (some other) => rw [Option.some.inj (hgiven.symm.trans (given_of_definite hlatest))]

/-- In a coherent session, one call serves the latest answer exactly when it does not
meet a withdrawal. -/
theorem Coherent.serves_iff (h : session.Coherent) (event : RiskEvent) :
    ServesLatest session event ↔ NotWithdrawn session event := by
  cases event with
  | init => exact Iff.rfl
  | shutdown => exact Iff.rfl
  | getAccountRiskPolicy accountId answer =>
      rw [ServesLatest, NotWithdrawn, heard]
      cases hup : session.bridge.client.isInitialized with
      | false =>
          rw [GrpcAccountRiskBridge.getAccountRiskPolicy_down accountId hup]
          simpa using h.cached_serves_iff accountId {}
      | true =>
          cases answer with
          | ok response =>
              rw [GrpcAccountRiskBridge.getAccountRiskPolicy_ok accountId hup, if_pos rfl,
                latest?_concat_some (definitePolicy_ok accountId response)]
              simp
          | error status =>
              by_cases hstatus : status = .notFound
              · rw [hstatus, GrpcAccountRiskBridge.getAccountRiskPolicy_notFound accountId hup]
                simp
              · rw [GrpcAccountRiskBridge.getAccountRiskPolicy_failed accountId hup hstatus,
                  if_pos rfl, latest?_concat_none (definitePolicy_failed accountId hstatus)]
                simpa [hstatus] using h.cached_serves_iff accountId _

end RiskSession

/-- In every session, all calls that succeed serve the latest definite answer exactly
when none of them falls back to the cache after a policy was given and withdrawn. -/
theorem serves_latest_iff (serviceConfig : ServiceConfig) (events : List RiskEvent) :
    Runs.Along (Runs.total RiskSession.next) ServesLatest (.start serviceConfig) events ↔
      Runs.Along (Runs.total RiskSession.next) NotWithdrawn (.start serviceConfig) events := by
  apply Runs.along_total_congr ?_ ?_ (coherent_start serviceConfig) events
  · intro session event hcoherent _
    exact hcoherent.next event
  · intro session event hcoherent
    exact hcoherent.serves_iff event

/-- A policy that is given, withdrawn and then asked for while the service is away. -/
theorem withdrawn_policy_served :
    let config : ServiceConfig := ⟨true, "risk", 50051⟩
    let policy : Proto.AccountRiskPolicy := ⟨"a", 1, 0, 0, 0, 0, 0, 0, true⟩
    let events : List RiskEvent := [.init, .getAccountRiskPolicy "a" (.ok ⟨policy⟩),
      .getAccountRiskPolicy "a" (.error .notFound),
      .getAccountRiskPolicy "a" (.error .unavailable)]
    ¬ Runs.Along (Runs.total RiskSession.next) ServesLatest (.start config) events := by
  intro config policy events halong
  obtain ⟨-, -, -, hlast, -⟩ := by
    simpa only [events, Runs.along_total_cons] using halong
  obtain ⟨response, -, hlatest⟩ := hlast rfl
  cases hlatest

end QtradeClient.Bridge
