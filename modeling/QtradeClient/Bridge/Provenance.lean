import QtradeClient.Bridge.Identity
import QtradeClient.Library.Progress

/-!
# Where the data of a call comes from

Whatever a call returns with success is what the service has responded, in the same run,
to this call or to another one about the same account or order.  What a bridge has once
got for an account it does not lose again, so from then on a call about the account fails
only where the service itself has said that there is nothing.
-/

namespace QtradeClient.Bridge

open Client Library

namespace Naming

variable {β α ρ ν ω : Type} {exchange : Exchange β α ρ ν ω}

/-- In this step a call that asks this is given this response. -/
def Gets (exchange : Exchange β α ρ ν ω)
    (pool : Concurrent.Pool β (ExchangeFrame α ρ ν) Empty)
    (label : Concurrent.Label α (Answer ρ) ω) (asked : α) (response : ρ) : Prop :=
  ∃ index answer, label = .advance index answer ∧ pool.calls[index]? = some (.requested asked) ∧
    exchange.request pool.shared answer = .ok response

/-- In this run a call that asks this is given this response. -/
def Given (exchange : Exchange β α ρ ν ω) (bridge : β)
    (labels : List (Concurrent.Label α (Answer ρ) ω)) (asked : α) (response : ρ) : Prop :=
  ∃ before label after pool, labels = before ++ label :: after ∧
    Runs.exec exchange.step (Concurrent.idle bridge) before = some pool ∧
    Gets exchange pool label asked response

/-- A response comes only by a request. -/
theorem advance_delivered {answer : Answer ρ} {bridge bridge' : β}
    {call : ExchangeFrame α ρ ν} {asked : α} {response : ρ} {emitted : List Empty}
    (hadvance : exchange.advance answer bridge call =
      some (.delivered asked response, bridge', emitted)) :
    call = .requested asked ∧ exchange.request bridge answer = .ok response := by
  have hended (other : α) (ending : Ending ν) :
      (ExchangeFrame.ended other ending : ExchangeFrame α ρ ν) ≠ .delivered asked response := by
    cases ending <;> rintro ⟨⟩
  cases call with
  | entered other =>
      simp only [Exchange.advance] at hadvance
      split at hadvance
      · cases hadvance
      · exact absurd (congrArg Prod.fst (Option.some.inj hadvance)) (hended other _)
  | requested other =>
      simp only [Exchange.advance] at hadvance
      split at hadvance
      · rename_i hrequest
        cases hadvance
        exact ⟨rfl, hrequest⟩
      · exact absurd (congrArg Prod.fst (Option.some.inj hadvance)) (hended other _)
  | delivered other given => cases hadvance
  | stored other given => cases hadvance
  | unanswered other result => cases hadvance
  | returned other result => cases hadvance

/-! ## What a law about responses makes of a run -/

/-- The responses of a step keep to a law about questions and data. -/
def Lawful (exchange : Exchange β α ρ ν ω) (law : α → ν → Prop)
    (pool : Concurrent.Pool β (ExchangeFrame α ρ ν) Empty)
    (label : Concurrent.Label α (Answer ρ) ω) : Prop :=
  ∀ asked response, Gets exchange pool label asked response →
    law asked (exchange.converted asked response)

variable (naming : Naming exchange)

/-- Some question of this name got this data. -/
def Named (law : α → ν → Prop) (name : String) (value : ν) : Prop :=
  ∃ source, naming.wanted source = name ∧ law source value

/-- All data keeps to the law: what is on its way is its question's own, and what is held
is of a question with the name.  A call returns its own data or what a bridge can hold. -/
structure Sourced (law : α → ν → Prop)
    (pool : Concurrent.Pool β (ExchangeFrame α ρ ν) Empty) : Prop where
  held : ∀ name value, naming.held pool.shared name = some value → naming.Named law name value
  delivered : ∀ asked response, .delivered asked response ∈ pool.calls →
    law asked (exchange.converted asked response)
  stored : ∀ asked response, .stored asked response ∈ pool.calls →
    law asked (exchange.converted asked response)
  returned : ∀ asked result, .returned asked result ∈ pool.calls →
    result.errorCode = .kSuccess → ∃ value, result.data = some value ∧
      (law asked value ∨ (∃ bridge, naming.held bridge (naming.wanted asked) = some value) ∧
        naming.Named law (naming.wanted asked) value)

section Steps

open Concurrent

variable {naming} {law : α → ν → Prop}
  {pool result : Concurrent.Pool β (ExchangeFrame α ρ ν) Empty}
  {label : Concurrent.Label α (Answer ρ) ω}

theorem Sourced.start (h : naming.Sourced law pool) (asked : α) :
    naming.Sourced law { pool with calls := pool.calls ++ [.entered asked] } := by
  have hold {frame : ExchangeFrame α ρ ν} (hother : frame ≠ .entered asked)
      (hframe : frame ∈ pool.calls ++ [.entered asked]) : frame ∈ pool.calls := by
    rcases List.mem_append.mp hframe with hframe | hframe
    · exact hframe
    · exact absurd (List.mem_singleton.mp hframe) hother
  constructor
  · exact h.held
  · intro other response hdelivered
    exact h.delivered other response (hold (by rintro ⟨⟩) hdelivered)
  · intro other response hstored
    exact h.stored other response (hold (by rintro ⟨⟩) hstored)
  · intro other result hreturned
    exact h.returned other result (hold (by rintro ⟨⟩) hreturned)

/-- The call that steps gets a response by the law, or moves on what keeps to it. -/
theorem Sourced.advance (h : naming.Sourced law pool) {call next : ExchangeFrame α ρ ν}
    (hcall : call ∈ pool.calls) (heffect : naming.Effect pool.shared call next result.shared)
    (hframes : ∀ frame ∈ result.calls, frame = next ∨ frame ∈ pool.calls)
    (hlaw : ∀ asked response, next = .delivered asked response →
      law asked (exchange.converted asked response)) :
    naming.Sourced law result := by
  obtain ⟨shared, calls, log⟩ := result
  have hdelivered (asked : α) (response : ρ) (hframe : .delivered asked response ∈ calls) :
      law asked (exchange.converted asked response) := by
    rcases hframes _ hframe with hnext | hold
    · exact hlaw asked response hnext.symm
    · exact h.delivered asked response hold
  cases heffect with
  | quiet unstored unreturned =>
      refine ⟨h.held, hdelivered, fun asked response hstored => ?_,
        fun asked result hreturned => ?_⟩
      · rcases hframes _ hstored with hnext | hold
        · exact absurd hnext.symm (unstored asked response)
        · exact h.stored asked response hold
      · rcases hframes _ hreturned with hnext | hold
        · exact absurd hnext.symm (unreturned asked result)
        · exact h.returned asked result hold
  | @stores asked response delivered =>
      subst delivered
      refine ⟨fun name value hheld => ?_, hdelivered, fun other given hstored => ?_,
        fun other returned hreturned => ?_⟩
      · rcases naming.held_keep hheld with ⟨rfl, rfl⟩ | hbefore
        · exact ⟨asked, rfl, h.delivered asked response hcall⟩
        · exact h.held name value hbefore
      · rcases hframes _ hstored with hnext | hold
        · cases hnext
          exact h.delivered asked response hcall
        · exact h.stored other given hold
      · rcases hframes _ hreturned with hnext | hold
        · cases hnext
        · exact h.returned other returned hold
  | @returns asked result origin =>
      refine ⟨h.held, hdelivered, fun other given hstored => ?_,
        fun other returned hreturned hsuccess => ?_⟩
      · rcases hframes _ hstored with hnext | hold
        · cases hnext
        · exact h.stored other given hold
      · rcases hframes _ hreturned with hnext | hold
        · cases hnext
          rcases origin hsuccess with ⟨response, rfl, hdata⟩ | ⟨value, hdata, hheld⟩
          · exact ⟨_, hdata, .inl (h.stored asked response hcall)⟩
          · exact ⟨value, hdata, .inr ⟨⟨_, hheld⟩, h.held _ value hheld⟩⟩
        · exact h.returned other returned hold hsuccess

theorem Sourced.step (h : naming.Sourced law pool)
    (hlawful : Lawful exchange law pool label)
    (hstep : exchange.step pool label = some result) : naming.Sourced law result := by
  rcases step_cases hstep with ⟨asked, rfl, rfl⟩ |
    ⟨index, answer, call, next, emitted, before, after, rfl, hcall, hadvances⟩ |
    ⟨change, rfl, rfl⟩
  · exact h.start asked
  · apply h.advance hadvances.call_mem (naming.advance_effect hadvances.effect)
    · intro frame hframe
      exact (hadvances.mem_result hframe).imp_right hadvances.still_mem
    · rintro asked response rfl
      obtain ⟨rfl, hrequest⟩ := advance_delivered hadvances.effect
      exact hlawful asked response ⟨index, answer, rfl, hcall, hrequest⟩
  · refine ⟨?_, h.delivered, h.stored, h.returned⟩
    change ∀ name value, naming.held (exchange.outside change pool.shared) name = some value → _
    rw [naming.held_outside]
    exact h.held

end Steps

/-- In every interleaving on a bridge that holds nothing at first, a call that succeeds
returns what it has been given itself, or what the bridge can hold and a call with its name
has been given. -/
theorem returned_given {bridge : β} (hempty : ∀ name, naming.held bridge name = none)
    {labels : List (Concurrent.Label α (Answer ρ) ω)}
    {pool : Concurrent.Pool β (ExchangeFrame α ρ ν) Empty}
    (hrun : Runs.exec exchange.step (Concurrent.idle bridge) labels = some pool)
    {asked : α} {result : Result ν} (hreturned : .returned asked result ∈ pool.calls)
    (hsuccess : result.errorCode = .kSuccess) :
    ∃ source response, naming.wanted source = naming.wanted asked ∧
      Given exchange bridge labels source response ∧
      result.data = some (exchange.converted source response) ∧
      (source = asked ∨ ∃ bridge, naming.held bridge (naming.wanted asked) = result.data) := by
  let law (asked : α) (value : ν) : Prop :=
    ∃ response, Given exchange bridge labels asked response ∧
      value = exchange.converted asked response
  have hlawful :
      Runs.Along exchange.step (Lawful exchange law) (Concurrent.idle bridge) labels := by
    apply Runs.along_of_splits
    intro before label after middle hsplit hbefore source response hgets
    exact ⟨response, ⟨before, label, after, middle, hsplit, hbefore, hgets⟩, rfl⟩
  have hidle : naming.Sourced law (Concurrent.idle bridge) := by
    refine ⟨fun name value hheld => ?_, fun _ _ hframe => ?_, fun _ _ hframe => ?_,
      fun _ _ hframe => ?_⟩
    · cases (hempty name).symm.trans hheld
    all_goals cases hframe
  have hsourced : naming.Sourced law pool :=
    Runs.exec_invariant (fun hok hinv hstep => Sourced.step hinv hok hstep) hlawful hrun hidle
  obtain ⟨value, hdata, ⟨response, hgiven, rfl⟩ |
    ⟨⟨holder, hheld⟩, source, hname, response, hgiven, rfl⟩⟩ :=
    hsourced.returned asked result hreturned hsuccess
  · exact ⟨asked, response, rfl, hgiven, hdata, .inl rfl⟩
  · exact ⟨source, response, hname, hgiven, hdata, .inr ⟨holder, hheld.trans hdata.symm⟩⟩

end Naming

theorem policyNaming_create (serviceConfig : ServiceConfig) (name : String) :
    policyNaming.held (.create serviceConfig) name = none := by
  change (∅ : Cache AccountRiskPolicy).lookup name = none
  exact Finmap.lookup_empty name

theorem credentialNaming_create (serviceConfig : ServiceConfig) (name : String) :
    credentialNaming.held (.create serviceConfig) name = none := by
  change (∅ : Cache CredentialMaterial).lookup name = none
  exact Finmap.lookup_empty name

/-- In every interleaving of calls, `Init` and `Shutdown` on a bridge from its construction
on, what a call returns with success the service has responded in this run to a call about
the same account, and to this very question where it is about a reservation. -/
theorem returned_data_given (serviceConfig : ServiceConfig) (blank : Reservation) :
    (∀ labels pool accountId result,
      Runs.exec policies.step (Concurrent.idle (.create serviceConfig)) labels = some pool →
      .returned accountId result ∈ pool.calls → result.errorCode = .kSuccess →
        ∃ response, Naming.Given policies (.create serviceConfig) labels accountId response ∧
          result.data = some response.converted) ∧
    (∀ labels pool request result,
      Runs.exec credentials.step (Concurrent.idle (.create serviceConfig)) labels = some pool →
      .returned request result ∈ pool.calls → result.errorCode = .kSuccess →
        ∃ source response, source.accountId = request.accountId ∧
          Naming.Given credentials (.create serviceConfig) labels source response ∧
          result.data = some response.converted) ∧
    ∀ labels pool request result,
      Runs.exec (reservations blank).step (Concurrent.idle (.create serviceConfig)) labels =
        some pool →
      .returned request result ∈ pool.calls → result.errorCode = .kSuccess →
        ∃ response, Naming.Given (reservations blank) (.create serviceConfig) labels request
            response ∧
          result.data = some (response.converted blank request) := by
  refine ⟨fun labels pool accountId result hrun hreturned hsuccess => ?_,
    fun labels pool request result hrun hreturned hsuccess => ?_,
    fun labels pool request result hrun hreturned hsuccess => ?_⟩
  · obtain ⟨source, response, rfl, hgiven, hdata, -⟩ :=
      policyNaming.returned_given (policyNaming_create serviceConfig) hrun hreturned hsuccess
    exact ⟨response, hgiven, hdata⟩
  · obtain ⟨source, response, haccount, hgiven, hdata, -⟩ :=
      credentialNaming.returned_given (credentialNaming_create serviceConfig) hrun hreturned
        hsuccess
    exact ⟨source, response, haccount, hgiven, hdata⟩
  · obtain ⟨source, response, -, hgiven, hdata, rfl | ⟨bridge, hheld⟩⟩ :=
      (reservationNaming blank).returned_given (fun _ => rfl) hrun hreturned hsuccess
    · exact ⟨response, hgiven, hdata⟩
    · cases hheld.trans hdata

/-- Calls that overlap: one for a policy gets no answer and returns the copy that another one
has stored in the meantime, one for a credential the copy that was stored for another engine,
and of two about reservations the second is answered first. -/
theorem returned_data_given_sample :
    let config : ServiceConfig := ⟨true, "host", 50051⟩
    let policy : GetAccountRiskPolicyResponse := ⟨"a", 1, 0, 0, 0, 0, 0, 0, true⟩
    let credential : GetCredentialResponse := ⟨⟨"a", "emt", "tcp://trade", "secret"⟩⟩
    let blank : Reservation := ⟨"", "", "", .kUnspecified, "", 0, 0⟩
    let reservation (orderId : String) : GetReservationResponse := ⟨⟨orderId, "r", "reserved", 0⟩⟩
    let overlapping {α ρ ω : Type} (opening : ω) (first second : α) (response : ρ) :
        List (Concurrent.Label α (Answer ρ) ω) :=
      [.outside opening, .start first, .start second, .advance 1 (.error .unavailable)] ++
        List.replicate 4 (.advance 0 (.ok response)) ++
        List.replicate 2 (.advance 1 (.error .unavailable))
    let questions : List (Concurrent.Label GetReservationRequest (Answer GetReservationResponse)
        GrpcAccountRiskBridge) :=
      [.outside ⟨config, ⟨true⟩, ∅⟩, .start ⟨"a", "o"⟩, .start ⟨"a", "p"⟩] ++
        List.replicate 4 (.advance 1 (.ok (reservation "p"))) ++
        List.replicate 4 (.advance 0 (.ok (reservation "o")))
    (∃ pool response, Runs.exec policies.step (Concurrent.idle (.create config))
        (overlapping .init "a" "a" policy) = some pool ∧
      pool.calls[1]? = some (.returned "a" (.ok policy.converted)) ∧
      Naming.Given policies (.create config) (overlapping .init "a" "a" policy) "a" response ∧
      some policy.converted = some response.converted) ∧
    (∃ pool source response, Runs.exec credentials.step (Concurrent.idle (.create config))
        (overlapping .init ⟨"a", "e"⟩ ⟨"a", "other"⟩ credential) = some pool ∧
      pool.calls[1]? = some (.returned ⟨"a", "other"⟩ (.ok credential.converted)) ∧
      source.accountId = "a" ∧ Naming.Given credentials (.create config)
        (overlapping .init ⟨"a", "e"⟩ ⟨"a", "other"⟩ credential) source response ∧
      some credential.converted = some response.converted) ∧
    ∃ response, Naming.Given (reservations blank) (.create config) questions ⟨"a", "o"⟩ response ∧
      some ((reservation "o").converted blank ⟨"a", "o"⟩) =
        some (response.converted blank ⟨"a", "o"⟩) := by
  intro config policy credential blank reservation overlapping questions
  obtain ⟨hpolicies, hcredentials, hreservations⟩ := returned_data_given config blank
  refine ⟨?_, ?_, ?_⟩
  · obtain ⟨pool, hrun, hcall⟩ : ∃ pool, Runs.exec policies.step
        (Concurrent.idle (.create config)) (overlapping .init "a" "a" policy) = some pool ∧
        pool.calls[1]? = some (.returned "a" (.ok policy.converted)) := ⟨_, rfl, rfl⟩
    obtain ⟨response, hgiven, hdata⟩ :=
      hpolicies _ pool "a" _ hrun (List.mem_of_getElem? hcall) rfl
    exact ⟨pool, response, hrun, hcall, hgiven, hdata⟩
  · obtain ⟨pool, hrun, hcall⟩ : ∃ pool, Runs.exec credentials.step
        (Concurrent.idle (.create config))
        (overlapping .init ⟨"a", "e"⟩ ⟨"a", "other"⟩ credential) = some pool ∧
        pool.calls[1]? = some (.returned ⟨"a", "other"⟩ (.ok credential.converted)) :=
      ⟨_, rfl, rfl⟩
    obtain ⟨source, response, haccount, hgiven, hdata⟩ :=
      hcredentials _ pool ⟨"a", "other"⟩ _ hrun (List.mem_of_getElem? hcall) rfl
    exact ⟨pool, source, response, hrun, hcall, haccount, hgiven, hdata⟩
  · exact hreservations _ _ ⟨"a", "o"⟩ (.ok ((reservation "o").converted blank ⟨"a", "o"⟩)) rfl
      (List.mem_of_getElem? (i := 0) rfl) rfl

/-! ## What a bridge has once got -/

/-- A bridge that keeps what it holds for a name, in this or a newer copy, and ends the
calls that fall back to it with success. -/
structure Lasting {β α ρ ν ω : Type} {exchange : Exchange β α ρ ν ω} (naming : Naming exchange) :
    Prop where
  keep : ∀ {bridge name}, (naming.held bridge name).isSome = true → ∀ asked value,
    (naming.held (exchange.keep bridge asked value) name).isSome = true
  kept : ∀ {bridge asked}, (naming.held bridge (naming.wanted asked)).isSome = true →
    ∀ result, (exchange.kept bridge asked result).errorCode = .kSuccess

namespace Lasting

open Concurrent

variable {β α ρ ν ω : Type} {exchange : Exchange β α ρ ν ω} {naming : Naming exchange}
  {name : String} {excuse : Nat → α → Result ν → Prop}
  {middle pool result : Pool β (ExchangeFrame α ρ ν) Empty} {label : Label α (Answer ρ) ω}

/-- In this step no call ends at once without the excuse. -/
def Excused (exchange : Exchange β α ρ ν ω) (excuse : Nat → α → Result ν → Prop)
    (pool : Pool β (ExchangeFrame α ρ ν) Empty) (label : Label α (Answer ρ) ω) : Prop :=
  ∀ index answer asked reported, label = .advance index answer →
    (pool.calls[index]? = some (.entered asked) ∧ exchange.offline = .report reported ∨
      ∃ code, pool.calls[index]? = some (.requested asked) ∧
        exchange.request pool.shared answer = .error code ∧
        exchange.failed code = .report reported) →
    excuse index asked reported

/-- The bridge holds something for the name, and every call about it that has returned
since succeeded or has an excuse. -/
structure Serves (naming : Naming exchange) (name : String)
    (excuse : Nat → α → Result ν → Prop) (middle pool : Pool β (ExchangeFrame α ρ ν) Empty) :
    Prop where
  held : (naming.held pool.shared name).isSome = true
  returned : ∀ (index : Nat) asked result, pool.calls[index]? = some (.returned asked result) →
    naming.wanted asked = name →
      middle.calls[index]? = some (.returned asked result) ∨
        result.errorCode = .kSuccess ∨ excuse index asked result

theorem ended_eq_returned {other asked : α} {ending : Ending ν} {returned : Result ν}
    (hended : (ExchangeFrame.ended other ending : ExchangeFrame α ρ ν) =
      .returned asked returned) :
    other = asked ∧ ending = .report returned := by
  cases ending with
  | report result =>
      cases hended
      exact ⟨rfl, rfl⟩
  | fallBack result => cases hended

/-- The call that steps succeeds or has an excuse, if it returns. -/
theorem advance_returned (h : Lasting naming) (hheld : (naming.held pool.shared name).isSome)
    {index : Nat} {answer : Answer ρ}
    (hexcused : Excused exchange excuse pool (.advance index answer))
    {call : ExchangeFrame α ρ ν} (hcall : pool.calls[index]? = some call) {asked : α}
    {returned : Result ν} {bridge : β} {emitted : List Empty}
    (hadvance : exchange.advance answer pool.shared call =
      some (.returned asked returned, bridge, emitted))
    (hname : naming.wanted asked = name) :
    returned.errorCode = .kSuccess ∨ excuse index asked returned := by
  cases call with
  | entered other =>
      simp only [Exchange.advance] at hadvance
      split at hadvance
      · cases hadvance
      · obtain ⟨rfl, hoffline⟩ := ended_eq_returned (congrArg Prod.fst (Option.some.inj hadvance))
        exact .inr (hexcused index answer other returned rfl (.inl ⟨hcall, hoffline⟩))
  | requested other =>
      simp only [Exchange.advance] at hadvance
      split at hadvance
      · cases hadvance
      · rename_i code hrequest
        obtain ⟨rfl, hfailed⟩ := ended_eq_returned (congrArg Prod.fst (Option.some.inj hadvance))
        exact .inr (hexcused index answer other returned rfl
          (.inr ⟨code, hcall, hrequest, hfailed⟩))
  | delivered other response => cases hadvance
  | stored other response =>
      cases hadvance
      exact .inl rfl
  | unanswered other result =>
      cases hadvance
      exact .inl (h.kept (hname ▸ hheld) result)
  | returned other result => cases hadvance

theorem held_step (h : Lasting naming) (hheld : (naming.held pool.shared name).isSome = true)
    (hstep : exchange.step pool label = some result) :
    (naming.held result.shared name).isSome = true := by
  rcases step_cases hstep with ⟨asked, rfl, rfl⟩ |
    ⟨index, answer, call, next, emitted, before, after, rfl, hcall, hadvances⟩ |
    ⟨change, rfl, rfl⟩
  · exact hheld
  · have heffect := naming.advance_effect hadvances.effect
    generalize result.shared = shared at heffect
    cases heffect with
    | quiet _ _ => exact hheld
    | stores _ => exact h.keep hheld _ _
    | returns _ => exact hheld
  · change (naming.held (exchange.outside change pool.shared) name).isSome = true
    rw [naming.held_outside]
    exact hheld

theorem serves_step (h : Lasting naming) (hserves : Serves naming name excuse middle pool)
    (hexcused : Excused exchange excuse pool label)
    (hstep : exchange.step pool label = some result) :
    Serves naming name excuse middle result := by
  refine ⟨h.held_step hserves.held hstep, fun index asked returned hreturned hname => ?_⟩
  rcases step_getElem?_cases hstep hreturned with ⟨input, hentered⟩ | hold |
    ⟨answer, call, emitted, rfl, hcall, hadvance⟩
  · cases hentered
  · exact hserves.returned index asked returned hold hname
  · exact .inr (h.advance_returned hserves.held hexcused hcall hadvance hname)

/-- Once a bridge holds something for a name, every call about it that has not returned yet
will succeed or have an excuse. -/
theorem run (h : Lasting naming) (hheld : (naming.held middle.shared name).isSome = true)
    {later : List (Label α (Answer ρ) ω)}
    (hexcused : Runs.Along exchange.step (Excused exchange excuse) middle later)
    (hrun : Runs.exec exchange.step middle later = some pool) :
    Serves naming name excuse middle pool := by
  have hmiddle : Serves naming name excuse middle middle :=
    ⟨hheld, fun _ _ _ hreturned _ => .inl hreturned⟩
  exact Runs.exec_invariant (fun hok hinv hstep => h.serves_step hinv hok hstep) hexcused hrun
    hmiddle

end Lasting

end QtradeClient.Bridge
