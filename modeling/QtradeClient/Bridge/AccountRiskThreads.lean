import QtradeClient.Bridge.AccountRisk
import QtradeClient.Library.Concurrent

/-!
# Overlapping policy requests

Calls of `GetAccountRiskPolicy` for one account, cut at the messages of the request
and at the locked sections of the bridge.  The service issues policies one after the
other and answers with the latest; answers may be delayed or lost.  The cache keeps
what was stored last, so a delayed answer can put back a policy older than the one
another call has stored.
-/

namespace QtradeClient.Bridge

open Client Library

/-- Where a call stands; a response carries the number of the policy it was issued as. -/
inductive RiskFrame where
  | entered
  | requested
  | answered (issue : Nat) (response : GetAccountRiskPolicyResponse)
  | delivered (issue : Nat) (response : GetAccountRiskPolicyResponse)
  | stored (response : GetAccountRiskPolicyResponse)
  | unanswered (result : Result AccountRiskPolicy)
  | returned (result : Result AccountRiskPolicy)

/-- What becomes of a message. -/
inductive Transport where
  | arrives
  | fails (status : StatusCode)

/-- The bridge, the policies issued for the account, and which of them it holds. -/
structure RiskStore where
  bridge : GrpcAccountRiskBridge
  issued : List GetAccountRiskPolicyResponse
  held : Option Nat

namespace RiskFrame

/-- The call after a status other than `OK`. -/
def failed (status : StatusCode) : RiskFrame :=
  if status = .notFound then .returned (.error .kNotFound "account risk policy not found")
  else .unanswered (.error .kTimeout "GetAccountRiskPolicy RPC failed")

/-- One atomic piece of a call for `accountId`. -/
def advance (accountId : String) (transport : Transport) (store : RiskStore) :
    RiskFrame → Option (RiskFrame × RiskStore × List Empty)
  | .entered =>
      if store.bridge.client.isInitialized then some (.requested, store, [])
      else some (.unanswered {}, store, [])
  | .requested =>
      match transport, store.issued.getLast? with
      | .fails status, _ => some (failed status, store, [])
      | .arrives, none => some (failed .notFound, store, [])
      | .arrives, some response =>
          some (.answered (store.issued.length - 1) response, store, [])
  | .answered issue response =>
      match transport with
      | .fails status => some (failed status, store, [])
      | .arrives => some (.delivered issue response, store, [])
  | .delivered issue response =>
      some (.stored response,
        { store with
          bridge := store.bridge.storePolicy accountId response.converted
          held := some issue }, [])
  | .stored response => some (.returned (.ok response.converted), store, [])
  | .unanswered result =>
      some (.returned (store.bridge.cachedPolicy accountId result), store, [])
  | .returned _ => none

/-- The policy that a call was answered with and has not stored yet. -/
def carried? : RiskFrame → Option (Nat × GetAccountRiskPolicyResponse)
  | .answered issue response => some (issue, response)
  | .delivered issue response => some (issue, response)
  | _ => none

@[simp] theorem failed_carried (status : StatusCode) : (failed status).carried? = none := by
  rw [failed]
  split <;> rfl

end RiskFrame

abbrev RiskPool := Concurrent.Pool RiskStore RiskFrame Empty

abbrev RiskLabel := Concurrent.Label Unit Transport GetAccountRiskPolicyResponse

/-- Calls enter freely; from outside, the service issues a new policy. -/
def riskMachine (accountId : String) : Concurrent.Machine RiskStore RiskFrame Unit Transport
    GetAccountRiskPolicyResponse Empty where
  enter _ := .entered
  advance := RiskFrame.advance accountId
  outside response store := ({ store with issued := store.issued ++ [response] }, [])

abbrev riskStep (accountId : String) : RiskPool → RiskLabel → Option RiskPool :=
  Concurrent.step (riskMachine accountId)

/-! ## An uninterrupted call is the sequential one -/

section Uninterrupted

open Concurrent

variable (accountId : String) {store : RiskStore}

/-- The result of a call that a status other than `OK` has ended. -/
theorem failed_solo (hup : store.bridge.client.isInitialized = true) (transport : Transport)
    (status : StatusCode) :
    ∃ count, Solo (riskMachine accountId) transport count store (.failed status) store
      (.returned (store.bridge.getAccountRiskPolicy accountId (.error status)).1) [] := by
  by_cases hstatus : status = .notFound
  · rw [hstatus, GrpcAccountRiskBridge.getAccountRiskPolicy_notFound accountId hup]
    exact ⟨0, .refl _ _⟩
  · rw [GrpcAccountRiskBridge.getAccountRiskPolicy_failed accountId hup hstatus,
      RiskFrame.failed, if_neg hstatus]
    exact ⟨1, .silent rfl (.refl _ _)⟩

theorem answered_solo (hup : store.bridge.client.isInitialized = true)
    {response : GetAccountRiskPolicyResponse} (hissued : store.issued.getLast? = some response) :
    let reply := store.bridge.getAccountRiskPolicy accountId (.ok response)
    Solo (riskMachine accountId) .arrives 5 store .entered
      ⟨reply.2, store.issued, some (store.issued.length - 1)⟩ (.returned reply.1) [] := by
  intro reply
  have hreply : reply = _ := GrpcAccountRiskBridge.getAccountRiskPolicy_ok accountId hup response
  have hentered : (riskMachine accountId).advance .arrives store .entered =
      some (.requested, store, []) := if_pos hup
  have hanswered : (riskMachine accountId).advance .arrives store .requested =
      some (.answered (store.issued.length - 1) response, store, []) := by
    simp only [riskMachine, RiskFrame.advance, hissued]
  rw [hreply]
  exact .silent hentered (.silent hanswered (.silent rfl (.silent rfl (.silent rfl (.refl _ _)))))

/-- Left alone, the pieces of a call compose to the whole call, whatever the service
answers and whether or not the client is initialised. -/
theorem getAccountRiskPolicy_solo (store : RiskStore)
    (answer : Answer GetAccountRiskPolicyResponse)
    (hissued : ∀ response, answer = .ok response → store.issued.getLast? = some response) :
    let reply := store.bridge.getAccountRiskPolicy accountId answer
    ∃ transport count final, Solo (riskMachine accountId) transport count store .entered final
      (.returned reply.1) [] ∧ final.bridge = reply.2 := by
  cases hup : store.bridge.client.isInitialized with
  | false =>
      have hentered : (riskMachine accountId).advance .arrives store .entered =
          some (.unanswered {}, store, []) := if_neg (by simp [hup])
      rw [GrpcAccountRiskBridge.getAccountRiskPolicy_down accountId hup]
      exact ⟨.arrives, 2, store, .silent hentered (.silent rfl (.refl _ _)), rfl⟩
  | true =>
      cases answer with
      | ok response => exact ⟨.arrives, 5, _, answered_solo accountId hup (hissued _ rfl), rfl⟩
      | error status =>
          have hentered : (riskMachine accountId).advance (.fails status) store .entered =
              some (.requested, store, []) := if_pos hup
          have hfailed : (riskMachine accountId).advance (.fails status) store .requested =
              some (.failed status, store, []) := rfl
          obtain ⟨count, hsolo⟩ := failed_solo accountId hup (.fails status) status
          refine ⟨.fails status, count + 2, store, .silent hentered (.silent hfailed hsolo), ?_⟩
          by_cases hstatus : status = .notFound
          · rw [hstatus, GrpcAccountRiskBridge.getAccountRiskPolicy_notFound accountId hup]
          · rw [GrpcAccountRiskBridge.getAccountRiskPolicy_failed accountId hup hstatus]

end Uninterrupted

/-! ## What one step does -/

/-- A step changes nothing that matters, answers with the latest policy, or stores one. -/
inductive RiskEffect (accountId : String) (store : RiskStore) (frame next : RiskFrame) :
    RiskStore → Prop where
  | quiet (carried : next.carried? = none ∨ next.carried? = frame.carried?) :
      RiskEffect accountId store frame next store
  | answers (response : GetAccountRiskPolicyResponse)
      (latest : store.issued.getLast? = some response)
      (carried : next.carried? = some (store.issued.length - 1, response)) :
      RiskEffect accountId store frame next store
  | stores (issue : Nat) (response : GetAccountRiskPolicyResponse)
      (carried : frame.carried? = some (issue, response)) (done : next.carried? = none) :
      RiskEffect accountId store frame next
        { store with
          bridge := store.bridge.storePolicy accountId response.converted
          held := some issue }

theorem advance_riskEffect {accountId : String} {transport : Transport}
    {store result : RiskStore} {frame next : RiskFrame} {emitted : List Empty}
    (hadvance : frame.advance accountId transport store = some (next, result, emitted)) :
    RiskEffect accountId store frame next result := by
  cases frame with
  | entered =>
      simp only [RiskFrame.advance] at hadvance
      split at hadvance <;> cases hadvance <;> exact .quiet (.inl rfl)
  | requested =>
      simp only [RiskFrame.advance] at hadvance
      split at hadvance <;> cases hadvance
      · exact .quiet (.inl (RiskFrame.failed_carried _))
      · exact .quiet (.inl (RiskFrame.failed_carried _))
      · exact .answers _ ‹_› rfl
  | answered issue response =>
      cases transport with
      | arrives =>
          cases hadvance
          exact .quiet (.inr rfl)
      | fails status =>
          cases hadvance
          exact .quiet (.inl (RiskFrame.failed_carried _))
  | delivered issue response =>
      cases hadvance
      exact .stores issue response rfl rfl
  | stored response =>
      cases hadvance
      exact .quiet (.inl rfl)
  | unanswered result =>
      cases hadvance
      exact .quiet (.inl rfl)
  | returned result => cases hadvance

/-! ## What the cache holds -/

/-- Every response in flight is the policy it is numbered as, and so is the one held. -/
structure Issued (accountId : String) (pool : RiskPool) : Prop where
  carried : ∀ frame ∈ pool.calls, ∀ issue response,
    frame.carried? = some (issue, response) → pool.shared.issued[issue]? = some response
  held : ∀ issue, pool.shared.held = some issue →
    ∃ response, pool.shared.issued[issue]? = some response ∧
      pool.shared.bridge.policyCache.lookup (GrpcAccountRiskBridge.cacheKey accountId) =
        some response.converted

/-- The numbers of the policies that calls were answered with and have not stored. -/
def carriedIssues (pool : RiskPool) : List Nat :=
  pool.calls.filterMap fun frame => frame.carried?.map Prod.fst

theorem mem_carriedIssues {pool : RiskPool} {frame : RiskFrame} (hframe : frame ∈ pool.calls)
    {issue : Nat} {response : GetAccountRiskPolicyResponse}
    (hcarried : frame.carried? = some (issue, response)) : issue ∈ carriedIssues pool :=
  List.mem_filterMap.mpr ⟨frame, hframe, by rw [hcarried, Option.map_some]⟩

/-- Since the pool stood at `middle` with policy `newest` held, every policy in flight
or held is at least as new or was in flight at `middle`. -/
structure Since (middle : RiskPool) (newest : Nat) (pool : RiskPool) : Prop where
  reached : newest < pool.shared.issued.length
  carried : ∀ frame ∈ pool.calls, ∀ issue response,
    frame.carried? = some (issue, response) → newest ≤ issue ∨ issue ∈ carriedIssues middle
  held : ∃ issue, pool.shared.held = some issue ∧
    (newest ≤ issue ∨ issue ∈ carriedIssues middle)

section Steps

open Concurrent

variable {accountId : String} {pool result : RiskPool} {label : RiskLabel}

/-- What holds of every policy in flight and of the latest one holds of every policy in
flight after a step. -/
theorem carried_step {law : Nat → GetAccountRiskPolicyResponse → Prop}
    (hcarried : ∀ frame ∈ pool.calls, ∀ issue response,
      frame.carried? = some (issue, response) → law issue response)
    (hlatest : ∀ response, pool.shared.issued.getLast? = some response →
      law (pool.shared.issued.length - 1) response)
    (hstep : riskStep accountId pool label = some result) :
    ∀ frame ∈ result.calls, ∀ issue response,
      frame.carried? = some (issue, response) → law issue response := by
  rcases step_cases hstep with ⟨input, rfl, rfl⟩ |
    ⟨index, transport, call, next, emitted, before, after, rfl, -, hadvances⟩ |
    ⟨response, rfl, rfl⟩
  · intro frame hframe issue response hframeCarries
    rcases List.mem_append.mp hframe with hold | hnew
    · exact hcarried frame hold issue response hframeCarries
    · cases List.mem_singleton.mp hnew
      cases hframeCarries
  · intro frame hframe issue response hframeCarries
    rcases hadvances.mem_result hframe with rfl | hother
    · have heffect := advance_riskEffect hadvances.effect
      generalize result.shared = shared at heffect
      cases heffect with
      | quiet hquiet =>
          rcases hquiet with hnone | hsame
          · cases hnone.symm.trans hframeCarries
          · exact hcarried call hadvances.call_mem issue response
              (hsame.symm.trans hframeCarries)
      | answers latest hissued hanswered =>
          cases hanswered.symm.trans hframeCarries
          exact hlatest response hissued
      | stores stored policy hstored hdone => cases hdone.symm.trans hframeCarries
    · exact hcarried frame (hadvances.still_mem hother) issue response hframeCarries
  · exact hcarried

/-- The store changes by a new policy of the service, or by what a call in flight
carries. -/
theorem shared_step (hstep : riskStep accountId pool label = some result) :
    result.shared = pool.shared ∨
    (∃ response, result.shared =
      { pool.shared with issued := pool.shared.issued ++ [response] }) ∨
    ∃ frame ∈ pool.calls, ∃ issue response, frame.carried? = some (issue, response) ∧
      result.shared =
        { pool.shared with
          bridge := pool.shared.bridge.storePolicy accountId response.converted
          held := some issue } := by
  rcases step_cases hstep with ⟨input, rfl, rfl⟩ |
    ⟨index, transport, call, next, emitted, before, after, rfl, -, hadvances⟩ |
    ⟨response, rfl, rfl⟩
  · exact .inl rfl
  · have heffect := advance_riskEffect hadvances.effect
    generalize result.shared = shared at heffect
    cases heffect with
    | quiet hquiet => exact .inl rfl
    | answers latest hissued hanswered => exact .inl rfl
    | stores issue response hcarries hdone =>
        exact .inr (.inr ⟨call, hadvances.call_mem, issue, response, hcarries, rfl⟩)
  · exact .inr (.inl ⟨response, rfl⟩)

/-- The service never takes a number back. -/
theorem issued_step (hstep : riskStep accountId pool label = some result) {issue : Nat}
    {response : GetAccountRiskPolicyResponse}
    (hissued : pool.shared.issued[issue]? = some response) :
    result.shared.issued[issue]? = some response := by
  rcases shared_step hstep with hsame | ⟨newer, hnewer⟩ | ⟨_, -, _, _, -, hstored⟩
  · rw [hsame, hissued]
  · obtain ⟨hlt, -⟩ := List.getElem?_eq_some_iff.mp hissued
    rw [hnewer, List.getElem?_append_left hlt, hissued]
  · rw [hstored, hissued]

theorem Issued.step (h : Issued accountId pool)
    (hstep : riskStep accountId pool label = some result) : Issued accountId result where
  carried frame hframe issue response hcarried := by
    apply issued_step hstep
    apply carried_step h.carried ?_ hstep frame hframe issue response hcarried
    intro latest hlatest
    rw [← List.getLast?_eq_getElem?, hlatest]
  held issue hheld := by
    rcases shared_step hstep with hsame | ⟨newer, hnewer⟩ | ⟨frame, hframe, other, response,
      hcarried, hstored⟩
    · rw [hsame] at hheld ⊢
      exact h.held issue hheld
    · rw [hnewer] at hheld
      obtain ⟨response, hissued, hlookup⟩ := h.held issue hheld
      exact ⟨response, issued_step hstep hissued, by rw [hnewer, hlookup]⟩
    · have hissued := issued_step hstep (h.carried frame hframe other response hcarried)
      rw [hstored] at hheld hissued ⊢
      cases hheld
      exact ⟨response, hissued, Finmap.lookup_insert _⟩

theorem Since.step {middle : RiskPool} {newest : Nat} (h : Since middle newest pool)
    (hstep : riskStep accountId pool label = some result) : Since middle newest result where
  reached := by
    have hreached := List.getElem?_eq_some_iff.mpr ⟨h.reached, rfl⟩
    exact (List.getElem?_eq_some_iff.mp (issued_step hstep hreached)).1
  carried := by
    have hreached := h.reached
    exact carried_step h.carried (fun _ _ => .inl (by omega)) hstep
  held := by
    rcases shared_step hstep with hsame | ⟨newer, hnewer⟩ | ⟨frame, hframe, issue, response,
      hcarried, hstored⟩
    · rw [hsame]
      exact h.held
    · rw [hnewer]
      exact h.held
    · rw [hstored]
      exact ⟨issue, rfl, h.carried frame hframe issue response hcarried⟩

end Steps

/-- A bridge before its first call, with an account that no policy was issued for. -/
def RiskStore.start (bridge : GrpcAccountRiskBridge) : RiskStore := ⟨bridge, [], none⟩

theorem issued_idle (accountId : String) (bridge : GrpcAccountRiskBridge) :
    Issued accountId (Concurrent.idle (.start bridge)) where
  carried frame hframe := by cases hframe
  held issue hheld := by cases hheld

theorem Issued.since {accountId : String} {pool : RiskPool} (h : Issued accountId pool)
    {newest : Nat} (hnewest : pool.shared.held = some newest) : Since pool newest pool where
  reached := by
    obtain ⟨response, hissued, -⟩ := h.held newest hnewest
    exact (List.getElem?_eq_some_iff.mp hissued).1
  carried frame hframe issue response hcarried := .inr (mem_carriedIssues hframe hcarried)
  held := ⟨newest, hnewest, .inl (Nat.le_refl newest)⟩

section Runs

variable {accountId : String} {start result : RiskPool} {labels : List RiskLabel}

theorem issued_run (hrun : Runs.exec (riskStep accountId) start labels = some result)
    (hstart : Issued accountId start) : Issued accountId result :=
  Runs.exec_preserves Issued.step hrun hstart

theorem since_run {middle : RiskPool} {newest : Nat}
    (hrun : Runs.exec (riskStep accountId) start labels = some result)
    (hstart : Since middle newest start) : Since middle newest result :=
  Runs.exec_preserves Since.step hrun hstart

end Runs

/-- Once a policy is held, an older one takes its place, and is served by a call that
falls back to the cache, only if a call had been answered with it before and had not
stored it yet. -/
theorem older_only_in_flight (accountId : String) (bridge : GrpcAccountRiskBridge)
    (first rest : List RiskLabel) (middle last : RiskPool) (newest : Nat)
    (hfirst : Runs.exec (riskStep accountId) (Concurrent.idle (.start bridge)) first =
      some middle)
    (hrest : Runs.exec (riskStep accountId) middle rest = some last)
    (hnewest : middle.shared.held = some newest) :
    ∃ issue response, last.shared.held = some issue ∧
      last.shared.issued[issue]? = some response ∧
      (∀ result, last.shared.bridge.cachedPolicy accountId result = .ok response.converted) ∧
      (newest ≤ issue ∨ issue ∈ carriedIssues middle) := by
  have hmiddle : Issued accountId middle := issued_run hfirst (issued_idle accountId bridge)
  obtain ⟨issue, hheld, hissue⟩ := (since_run hrest (hmiddle.since hnewest)).held
  obtain ⟨response, hissued, hlookup⟩ := (issued_run hrest hmiddle).held issue hheld
  exact ⟨issue, response, hheld, hissued, fromCache_found hlookup _, hissue⟩

/-- The answer of the first of two overlapping calls is delayed until the second policy is
held; the first policy then takes its place, and a third call is served with it. -/
theorem older_only_in_flight_sample :
    let bridge := (GrpcAccountRiskBridge.create ⟨true, "risk", 50051⟩).init.2
    let policy (version : Int) : GetAccountRiskPolicyResponse :=
      ⟨"a", version, 0, 0, 0, 0, 0, 0, true⟩
    let first : List RiskLabel :=
      [.outside (policy 1), .start (), .advance 0 .arrives, .advance 0 .arrives,
        .outside (policy 2), .start ()] ++ List.replicate 4 (.advance 1 .arrives)
    let rest : List RiskLabel :=
      [.advance 0 .arrives, .advance 0 .arrives, .start (), .advance 2 .arrives,
        .advance 2 (.fails .unavailable), .advance 2 .arrives]
    ∃ middle last, Runs.exec (riskStep "a") (Concurrent.idle (.start bridge)) first = some middle ∧
      Runs.exec (riskStep "a") middle rest = some last ∧
      middle.shared.held = some 1 ∧ last.shared.held = some 0 ∧
      ∃ issue response, last.shared.held = some issue ∧
        last.shared.issued[issue]? = some response ∧
        (∀ result, last.shared.bridge.cachedPolicy "a" result = .ok response.converted) ∧
        (1 ≤ issue ∨ issue ∈ carriedIssues middle) := by
  intro bridge policy first rest
  obtain ⟨middle, last, hfirst, hrest, hnewest, hovertaken⟩ : ∃ middle last,
      Runs.exec (riskStep "a") (Concurrent.idle (.start bridge)) first = some middle ∧
      Runs.exec (riskStep "a") middle rest = some last ∧
      middle.shared.held = some 1 ∧ last.shared.held = some 0 := ⟨_, _, rfl, rfl, rfl, rfl⟩
  exact ⟨middle, last, hfirst, hrest, hnewest, hovertaken,
    older_only_in_flight "a" bridge first rest middle last 1 hfirst hrest hnewest⟩

/-- The first call is answered with the first policy, the second call is answered with
the second policy and stores it, and then the answer of the first call is stored over
it; a third call, which gets no answer, returns the first policy. -/
theorem delayed_answer_overtakes :
    let bridge := (GrpcAccountRiskBridge.create ⟨true, "risk", 50051⟩).init.2
    let policy (version : Int) : GetAccountRiskPolicyResponse :=
      ⟨"a", version, 0, 0, 0, 0, 0, 0, true⟩
    let first : List RiskLabel :=
      [.outside (policy 1), .start (), .advance 0 .arrives, .advance 0 .arrives,
        .outside (policy 2), .start ()] ++ List.replicate 4 (.advance 1 .arrives)
    let rest : List RiskLabel :=
      [.advance 0 .arrives, .advance 0 .arrives, .start (), .advance 2 .arrives,
        .advance 2 (.fails .unavailable), .advance 2 .arrives]
    ∃ middle last, Runs.exec (riskStep "a") (Concurrent.idle (.start bridge)) first = some middle ∧
      Runs.exec (riskStep "a") middle rest = some last ∧
      middle.shared.issued = [policy 1, policy 2] ∧
      middle.shared.held = some 1 ∧ last.shared.held = some 0 ∧
      last.calls[2]? = some (.returned (.ok (policy 1).converted)) :=
  ⟨_, _, rfl, rfl, rfl, rfl, rfl, rfl⟩

end QtradeClient.Bridge
