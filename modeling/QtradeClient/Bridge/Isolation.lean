import QtradeClient.Bridge.Account
import QtradeClient.Bridge.AccountRisk
import QtradeClient.Library.Unwinding

/-!
# Accounts do not see each other

Both bridges serve many accounts from one client and one cache.  For one account, the
other accounts' calls are hidden events: they leave the client and the entry of the
account alone, and nothing else decides what a call for the account returns.
-/

namespace QtradeClient.Bridge

open Client Library Library.Runs Library.Unwinding

/-! ## Policies -/

namespace GrpcAccountRiskBridge

/-- What of a bridge matters to an account. -/
def viewOf (accountId : String) (bridge : GrpcAccountRiskBridge) :
    ServiceConfig × AccountRiskClient × Option AccountRiskPolicy :=
  (bridge.serviceConfig, bridge.client, bridge.policyCache.lookup (cacheKey accountId))

variable {accountId : String} {bridge other : GrpcAccountRiskBridge}

/-- Bridges look alike to an account when they agree in all that matters to it. -/
theorem viewOf_eq_iff :
    bridge.viewOf accountId = other.viewOf accountId ↔
      bridge.serviceConfig = other.serviceConfig ∧ bridge.client = other.client ∧
        bridge.policyCache.lookup (cacheKey accountId) =
          other.policyCache.lookup (cacheKey accountId) := by
  simp only [viewOf, Prod.mk.injEq]

theorem storePolicy_viewOf_self (policy : AccountRiskPolicy) :
    (bridge.storePolicy accountId policy).viewOf accountId =
      (bridge.serviceConfig, bridge.client, some policy) := by
  rw [viewOf, storePolicy, Finmap.lookup_insert]

theorem storePolicy_viewOf_other {asked : String} (hasked : accountId ≠ asked)
    (policy : AccountRiskPolicy) :
    (bridge.storePolicy asked policy).viewOf accountId = bridge.viewOf accountId := by
  have hkey : cacheKey accountId ≠ cacheKey asked := hasked
  rw [viewOf, storePolicy, Finmap.lookup_insert_of_ne _ hkey]
  rfl

/-- A call leaves the bridge as it is or stores a policy for its account. -/
theorem getAccountRiskPolicy_bridge (bridge : GrpcAccountRiskBridge) (accountId : String)
    (answer : Answer GetAccountRiskPolicyResponse) :
    (bridge.getAccountRiskPolicy accountId answer).2 = bridge ∨
      ∃ policy, (bridge.getAccountRiskPolicy accountId answer).2 =
        bridge.storePolicy accountId policy := by
  cases hup : bridge.client.isInitialized with
  | false =>
      left
      rw [getAccountRiskPolicy_down accountId hup]
  | true =>
      cases answer with
      | ok response =>
          right
          exact ⟨response.converted, by rw [getAccountRiskPolicy_ok accountId hup]⟩
      | error status =>
          left
          by_cases hstatus : status = .notFound
          · rw [hstatus, getAccountRiskPolicy_notFound accountId hup]
          · rw [getAccountRiskPolicy_failed accountId hup hstatus]

/-- Two bridges that an account sees alike answer it alike, and stay alike. -/
theorem getAccountRiskPolicy_congr (hview : bridge.viewOf accountId = other.viewOf accountId)
    (answer : Answer GetAccountRiskPolicyResponse) :
    (bridge.getAccountRiskPolicy accountId answer).1 =
        (other.getAccountRiskPolicy accountId answer).1 ∧
      (bridge.getAccountRiskPolicy accountId answer).2.viewOf accountId =
        (other.getAccountRiskPolicy accountId answer).2.viewOf accountId := by
  obtain ⟨hconfig, hclient, hentry⟩ := viewOf_eq_iff.mp hview
  have hcached (result : Result AccountRiskPolicy) :
      bridge.cachedPolicy accountId result = other.cachedPolicy accountId result :=
    fromCache_congr hentry _ result
  cases hup : bridge.client.isInitialized with
  | false =>
      have hother : other.client.isInitialized = false := by rw [← hclient, hup]
      rw [getAccountRiskPolicy_down accountId hup, getAccountRiskPolicy_down accountId hother]
      exact ⟨hcached {}, hview⟩
  | true =>
      have hother : other.client.isInitialized = true := by rw [← hclient, hup]
      cases answer with
      | ok response =>
          rw [getAccountRiskPolicy_ok accountId hup, getAccountRiskPolicy_ok accountId hother]
          refine ⟨rfl, ?_⟩
          rw [storePolicy_viewOf_self, storePolicy_viewOf_self, hconfig, hclient]
      | error status =>
          by_cases hstatus : status = .notFound
          · rw [hstatus, getAccountRiskPolicy_notFound accountId hup,
              getAccountRiskPolicy_notFound accountId hother]
            exact ⟨rfl, hview⟩
          · rw [getAccountRiskPolicy_failed accountId hup hstatus,
              getAccountRiskPolicy_failed accountId hother hstatus]
            exact ⟨hcached _, hview⟩

theorem init_viewOf (hview : bridge.viewOf accountId = other.viewOf accountId) :
    bridge.init.2.viewOf accountId = other.init.2.viewOf accountId := by
  obtain ⟨hconfig, hclient, hentry⟩ := viewOf_eq_iff.mp hview
  simp only [viewOf, init, hconfig, hclient, hentry]

theorem shutdown_viewOf (hview : bridge.viewOf accountId = other.viewOf accountId) :
    bridge.shutdown.viewOf accountId = other.shutdown.viewOf accountId := by
  obtain ⟨hconfig, hclient, hentry⟩ := viewOf_eq_iff.mp hview
  simp only [viewOf, shutdown, hconfig, hclient, hentry]

end GrpcAccountRiskBridge

/-- The events that an account takes part in: its own calls, `Init` and `Shutdown`. -/
def RiskEvent.concerns (accountId : String) : RiskEvent → Bool
  | .init => true
  | .shutdown => true
  | .getAccountRiskPolicy asked _ => asked = accountId

/-- What a call returns. -/
def RiskSession.result? (session : RiskSession) : RiskEvent → Option (Result AccountRiskPolicy)
  | .init => none
  | .shutdown => none
  | .getAccountRiskPolicy accountId answer =>
      some (session.bridge.getAccountRiskPolicy accountId answer).1

/-- The results of an account's calls in a session, in order. -/
def policyResults (accountId : String) (serviceConfig : ServiceConfig)
    (events : List RiskEvent) : List (Result AccountRiskPolicy) :=
  (outputs RiskSession.next (RiskEvent.concerns accountId) RiskSession.result?
    (.start serviceConfig) events).reduceOption

theorem riskUnwinds (accountId : String) :
    Unwinds RiskSession.next (fun _ _ => True) (RiskEvent.concerns accountId)
      RiskSession.result? (fun session => session.bridge.viewOf accountId) where
  hidden := by
    intro session event hhidden
    cases event with
    | init => cases hhidden
    | shutdown => cases hhidden
    | getAccountRiskPolicy asked answer =>
        have hasked : accountId ≠ asked := Ne.symm (of_decide_eq_false hhidden)
        rw [RiskSession.next]
        rcases session.bridge.getAccountRiskPolicy_bridge asked answer with
          hsame | ⟨policy, hstored⟩
        · rw [hsame]
        · rw [hstored]
          exact GrpcAccountRiskBridge.storePolicy_viewOf_other hasked policy
  follows := by
    intro session other event hvisible _ _ hview
    cases event with
    | init => exact GrpcAccountRiskBridge.init_viewOf hview
    | shutdown => exact GrpcAccountRiskBridge.shutdown_viewOf hview
    | getAccountRiskPolicy asked answer =>
        obtain rfl : asked = accountId := of_decide_eq_true hvisible
        exact (GrpcAccountRiskBridge.getAccountRiskPolicy_congr hview answer).2
  puts := by
    intro session other event hvisible _ _ hview
    cases event with
    | init => rfl
    | shutdown => rfl
    | getAccountRiskPolicy asked answer =>
        obtain rfl : asked = accountId := of_decide_eq_true hvisible
        exact congrArg some (GrpcAccountRiskBridge.getAccountRiskPolicy_congr hview answer).1

/-! ## Credentials -/

namespace GrpcAccountBridge

/-- What of a bridge matters to an account. -/
def viewOf (accountId : String) (bridge : GrpcAccountBridge) :
    ServiceConfig × AccountClient × Option CredentialMaterial :=
  (bridge.serviceConfig, bridge.client, bridge.cache.lookup (cacheKey accountId))

variable {accountId : String} {bridge other : GrpcAccountBridge}

/-- Bridges look alike to an account when they agree in all that matters to it. -/
theorem viewOf_eq_iff :
    bridge.viewOf accountId = other.viewOf accountId ↔
      bridge.serviceConfig = other.serviceConfig ∧ bridge.client = other.client ∧
        bridge.cache.lookup (cacheKey accountId) = other.cache.lookup (cacheKey accountId) := by
  simp only [viewOf, Prod.mk.injEq]

theorem storeCredential_viewOf_self (material : CredentialMaterial) :
    (bridge.storeCredential accountId material).viewOf accountId =
      (bridge.serviceConfig, bridge.client, some material) := by
  rw [viewOf, storeCredential, Finmap.lookup_insert]

theorem storeCredential_viewOf_other {asked : String} (hasked : accountId ≠ asked)
    (material : CredentialMaterial) :
    (bridge.storeCredential asked material).viewOf accountId = bridge.viewOf accountId := by
  have hkey : cacheKey accountId ≠ cacheKey asked := hasked
  rw [viewOf, storeCredential, Finmap.lookup_insert_of_ne _ hkey]
  rfl

/-- A call leaves the bridge as it is or stores a credential for its account. -/
theorem getCredential_bridge (bridge : GrpcAccountBridge) (request : GetCredentialRequest)
    (answer : Answer GetCredentialResponse) :
    (bridge.getCredential request answer).2 = bridge ∨
      ∃ material, (bridge.getCredential request answer).2 =
        bridge.storeCredential request.accountId material := by
  cases hup : bridge.client.isInitialized with
  | false =>
      left
      rw [getCredential_down request hup]
  | true =>
      cases answer with
      | ok response =>
          right
          exact ⟨response.converted, by rw [getCredential_ok request hup]⟩
      | error status =>
          left
          rw [getCredential_failed request hup]

/-- Two bridges that an account sees alike answer it alike, and stay alike. -/
theorem getCredential_congr {request : GetCredentialRequest}
    (hview : bridge.viewOf request.accountId = other.viewOf request.accountId)
    (answer : Answer GetCredentialResponse) :
    (bridge.getCredential request answer).1 = (other.getCredential request answer).1 ∧
      (bridge.getCredential request answer).2.viewOf request.accountId =
        (other.getCredential request answer).2.viewOf request.accountId := by
  obtain ⟨hconfig, hclient, hentry⟩ := viewOf_eq_iff.mp hview
  have hcached (result : Result CredentialMaterial) :
      bridge.cachedCredential request.accountId result =
        other.cachedCredential request.accountId result :=
    fromCache_congr hentry _ result
  cases hup : bridge.client.isInitialized with
  | false =>
      have hother : other.client.isInitialized = false := by rw [← hclient, hup]
      rw [getCredential_down request hup, getCredential_down request hother]
      exact ⟨hcached {}, hview⟩
  | true =>
      have hother : other.client.isInitialized = true := by rw [← hclient, hup]
      cases answer with
      | ok response =>
          rw [getCredential_ok request hup, getCredential_ok request hother]
          refine ⟨rfl, ?_⟩
          rw [storeCredential_viewOf_self, storeCredential_viewOf_self, hconfig, hclient]
      | error status =>
          rw [getCredential_failed request hup, getCredential_failed request hother]
          exact ⟨hcached _, hview⟩

theorem init_viewOf (hview : bridge.viewOf accountId = other.viewOf accountId) :
    bridge.init.2.viewOf accountId = other.init.2.viewOf accountId := by
  obtain ⟨hconfig, hclient, hentry⟩ := viewOf_eq_iff.mp hview
  simp only [viewOf, init, hconfig, hclient, hentry]

theorem shutdown_viewOf (hview : bridge.viewOf accountId = other.viewOf accountId) :
    bridge.shutdown.viewOf accountId = other.shutdown.viewOf accountId := by
  obtain ⟨hconfig, hclient, hentry⟩ := viewOf_eq_iff.mp hview
  simp only [viewOf, shutdown, hconfig, hclient, hentry]

end GrpcAccountBridge

/-- The events that an account takes part in: its own calls, `Init` and `Shutdown`. -/
def AccountEvent.concerns (accountId : String) : AccountEvent → Bool
  | .init => true
  | .shutdown => true
  | .getCredential request _ => request.accountId = accountId

/-- What a call returns. -/
def AccountSession.result? (session : AccountSession) :
    AccountEvent → Option (Result CredentialMaterial)
  | .init => none
  | .shutdown => none
  | .getCredential request answer => some (session.bridge.getCredential request answer).1

/-- The results of an account's calls in a session, in order. -/
def credentialResults (accountId : String) (serviceConfig : ServiceConfig)
    (events : List AccountEvent) : List (Result CredentialMaterial) :=
  (outputs AccountSession.next (AccountEvent.concerns accountId) AccountSession.result?
    (.start serviceConfig) events).reduceOption

theorem accountUnwinds (accountId : String) :
    Unwinds AccountSession.next (fun _ _ => True) (AccountEvent.concerns accountId)
      AccountSession.result? (fun session => session.bridge.viewOf accountId) where
  hidden := by
    intro session event hhidden
    cases event with
    | init => cases hhidden
    | shutdown => cases hhidden
    | getCredential request answer =>
        have hasked : accountId ≠ request.accountId := Ne.symm (of_decide_eq_false hhidden)
        rw [AccountSession.next]
        rcases session.bridge.getCredential_bridge request answer with hsame | ⟨material, hstored⟩
        · rw [hsame]
        · rw [hstored]
          exact GrpcAccountBridge.storeCredential_viewOf_other hasked material
  follows := by
    intro session other event hvisible _ _ hview
    cases event with
    | init => exact GrpcAccountBridge.init_viewOf hview
    | shutdown => exact GrpcAccountBridge.shutdown_viewOf hview
    | getCredential request answer =>
        obtain rfl : request.accountId = accountId := of_decide_eq_true hvisible
        exact (GrpcAccountBridge.getCredential_congr hview answer).2
  puts := by
    intro session other event hvisible _ _ hview
    cases event with
    | init => rfl
    | shutdown => rfl
    | getCredential request answer =>
        obtain rfl : request.accountId = accountId := of_decide_eq_true hvisible
        exact congrArg some (GrpcAccountBridge.getCredential_congr hview answer).1

/-! ## Isolation -/

/-- Whatever the other accounts ask for and are answered, an account that sees the same
events in two sessions gets the same results in both. -/
theorem accounts_isolated (accountId : String) (serviceConfig : ServiceConfig) :
    (∀ events other : List RiskEvent,
      events.filter (RiskEvent.concerns accountId) = other.filter (RiskEvent.concerns accountId) →
        policyResults accountId serviceConfig events =
          policyResults accountId serviceConfig other) ∧
    ∀ events other : List AccountEvent,
      events.filter (AccountEvent.concerns accountId) =
          other.filter (AccountEvent.concerns accountId) →
        credentialResults accountId serviceConfig events =
          credentialResults accountId serviceConfig other := by
  constructor
  · intro events other hsame
    have halike := (riskUnwinds accountId).indistinguishable rfl
      (along_trivial (RiskSession.start serviceConfig) events) (along_trivial _ other) hsame
    rw [policyResults, policyResults, halike.1]
  · intro events other hsame
    have halike := (accountUnwinds accountId).indistinguishable rfl
      (along_trivial (AccountSession.start serviceConfig) events) (along_trivial _ other) hsame
    rw [credentialResults, credentialResults, halike.1]

/-- An account whose service goes away keeps its own policy and credential, whatever
another account was given meanwhile. -/
theorem accounts_isolated_sample :
    let config : ServiceConfig := ⟨true, "service", 50051⟩
    let policy (accountId : String) : GetAccountRiskPolicyResponse :=
      ⟨accountId, 1, 0, 0, 0, 0, 0, 0, true⟩
    let credential (accountId : String) : GetCredentialResponse :=
      ⟨accountId, "broker", "tcp://emt", "secret"⟩
    policyResults "a" config [.init, .getAccountRiskPolicy "a" (.ok (policy "a")),
        .getAccountRiskPolicy "b" (.ok (policy "b")),
        .getAccountRiskPolicy "a" (.error .unavailable)] =
      policyResults "a" config [.init, .getAccountRiskPolicy "b" (.error .notFound),
        .getAccountRiskPolicy "a" (.ok (policy "a")),
        .getAccountRiskPolicy "a" (.error .unavailable)] ∧
    credentialResults "a" config [.init, .getCredential ⟨"a", "e"⟩ (.ok (credential "a")),
        .getCredential ⟨"b", "e"⟩ (.ok (credential "b")),
        .getCredential ⟨"a", "e"⟩ (.error .unavailable)] =
      credentialResults "a" config [.init, .getCredential ⟨"a", "e"⟩ (.ok (credential "a")),
        .getCredential ⟨"a", "e"⟩ (.error .unavailable)] := by
  intro config policy credential
  obtain ⟨hpolicies, hcredentials⟩ := accounts_isolated "a" config
  exact ⟨hpolicies _ _ rfl, hcredentials _ _ rfl⟩

end QtradeClient.Bridge
