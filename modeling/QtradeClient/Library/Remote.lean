import QtradeClient.Library.Conservation

/-!
# Remote calls

A call looks whether there is a connection, looks again where it makes its request, sends
the request and waits.  The request may reach the service, which serves it and answers,
and the answer may reach the call; if either does not arrive in time the call ends with a
status, and a request that is still on its way may be served after that.  Calls of several
kinds share one connection.  The log holds what the service has served.
-/

namespace Library

/-- Calls of the kinds `κ` over a store `σ` that has the connection.  The families say what
a call of a kind is asked, sends, gets back and returns; `ε` are the statuses. -/
structure Remote {κ : Type} (σ ε : Type) (question request response outcome : κ → Type) where
  connected : σ → Bool
  wire : {kind : κ} → question kind → request kind
  offline : {kind : κ} → question kind → outcome kind
  dropped : {kind : κ} → question kind → outcome kind
  failed : {kind : κ} → question kind → ε → outcome kind
  answered : {kind : κ} → question kind → response kind → outcome kind

namespace Remote

variable {κ σ ε ω : Type} {question request response outcome : κ → Type}

/-- What has become of the request of a call that has returned. -/
inductive Fate (request response : Type) where
  | unsent
  | sent (request : request)
  | served (request : request) (response : response)

/-- Where a call stands. -/
inductive Frame (question request response outcome : κ → Type) where
  | entered (kind : κ) (asked : question kind)
  | checked (kind : κ) (asked : question kind)
  | sent (kind : κ) (asked : question kind) (request : request kind)
  | served (kind : κ) (asked : question kind) (request : request kind) (response : response kind)
  | returned (kind : κ) (asked : question kind) (fate : Fate (request kind) (response kind))
      (outcome : outcome kind)

/-- A request that the service has served, and its answer. -/
structure Served (request response : κ → Type) where
  kind : κ
  request : request kind
  response : response kind

/-- What becomes of the message of a step: it arrives, at a service that would answer like
this, or the call ends with a status. -/
inductive Transport (ε : Type) (request response : κ → Type) where
  | arrives (service : (kind : κ) → request kind → response kind)
  | fails (status : ε)

namespace Frame

/-- The request of a call that the service has served. -/
def served? : Frame question request response outcome → Option (Served request response)
  | .served kind _ request response => some ⟨kind, request, response⟩
  | .returned kind _ (.served request response) _ => some ⟨kind, request, response⟩
  | _ => none

end Frame

variable (remote : Remote σ ε question request response outcome)

/-- One atomic piece of a call. -/
def advance (transport : Transport ε request response) (store : σ) :
    Frame question request response outcome →
      Option (Frame question request response outcome × σ × List (Served request response))
  | .entered kind asked =>
      if remote.connected store then some (.checked kind asked, store, [])
      else some (.returned kind asked .unsent (remote.offline asked), store, [])
  | .checked kind asked =>
      if remote.connected store then some (.sent kind asked (remote.wire asked), store, [])
      else some (.returned kind asked .unsent (remote.dropped asked), store, [])
  | .sent kind asked request =>
      match transport with
      | .arrives service =>
          some (.served kind asked request (service kind request), store,
            [⟨kind, request, service kind request⟩])
      | .fails status =>
          some (.returned kind asked (.sent request) (remote.failed asked status), store, [])
  | .served kind asked request response =>
      match transport with
      | .arrives _ =>
          some (.returned kind asked (.served request response)
            (remote.answered asked response), store, [])
      | .fails status =>
          some (.returned kind asked (.served request response)
            (remote.failed asked status), store, [])
  -- A request that outlives its call still arrives, or is never heard of again.
  | .returned kind asked (.sent request) outcome =>
      match transport with
      | .arrives service =>
          some (.returned kind asked (.served request (service kind request)) outcome, store,
            [⟨kind, request, service kind request⟩])
      | .fails _ => none
  | .returned _ _ _ _ => none

/-- A call is entered with its kind and its question. -/
def machine (outside : ω → σ → σ) :
    Concurrent.Machine σ (Frame question request response outcome) ((kind : κ) × question kind)
      (Transport ε request response) ω (Served request response) where
  enter asked := .entered asked.1 asked.2
  advance := remote.advance
  outside change store := (outside change store, [])

/-! ## A call by itself -/

/-- A whole call, given what becomes of its messages. -/
def perform (store : σ) (kind : κ) (asked : question kind)
    (transport : Transport ε request response) : outcome kind :=
  if remote.connected store then
    match transport with
    | .arrives service => remote.answered asked (service kind (remote.wire asked))
    | .fails status => remote.failed asked status
  else remote.offline asked

/-- Left alone, the pieces of a call compose to the whole call. -/
theorem perform_solo (outside : ω → σ → σ) (store : σ) (kind : κ) (asked : question kind)
    (transport : Transport ε request response) :
    ∃ count fate emitted, Concurrent.Solo (remote.machine outside) transport count store
      (.entered kind asked) store
      (.returned kind asked fate (remote.perform store kind asked transport)) emitted := by
  unfold perform
  by_cases hup : remote.connected store = true
  · have hentered : (remote.machine outside).advance transport store (.entered kind asked) =
        some (.checked kind asked, store, []) := if_pos hup
    have hchecked : (remote.machine outside).advance transport store (.checked kind asked) =
        some (.sent kind asked (remote.wire asked), store, []) := if_pos hup
    rw [if_pos hup]
    cases transport with
    | arrives service =>
        exact ⟨_, _, _, .silent hentered (.silent hchecked (.step rfl (.silent rfl (.refl _ _))))⟩
    | fails status =>
        exact ⟨_, _, _, .silent hentered (.silent hchecked (.silent rfl (.refl _ _)))⟩
  · have hentered : (remote.machine outside).advance transport store (.entered kind asked) =
        some (.returned kind asked .unsent (remote.offline asked), store, []) := if_neg hup
    rw [if_neg hup]
    exact ⟨_, _, _, .silent hentered (.refl _ _)⟩

/-! ## What a run tells -/

/-- What a call returns goes with what has become of its request. -/
inductive Ends {kind : κ} (asked : question kind) :
    Fate (request kind) (response kind) → outcome kind → Prop where
  | offline : Ends asked .unsent (remote.offline asked)
  | dropped : Ends asked .unsent (remote.dropped asked)
  | failed (status : ε) : Ends asked (.sent (remote.wire asked)) (remote.failed asked status)
  | unheard (status : ε) (response : response kind) :
      Ends asked (.served (remote.wire asked) response) (remote.failed asked status)
  | answered (response : response kind) :
      Ends asked (.served (remote.wire asked) response) (remote.answered asked response)

/-- A call sends its own request, and ends as it should. -/
def Sound : Frame question request response outcome → Prop
  | .entered _ _ => True
  | .checked _ _ => True
  | .sent _ asked request => request = remote.wire asked
  | .served _ asked request _ => request = remote.wire asked
  | .returned _ asked fate outcome => remote.Ends asked fate outcome

section Runs

open Concurrent

variable {remote} {store store' : σ} {transport : Transport ε request response}
  {frame next : Frame question request response outcome}
  {emitted : List (Served request response)}

/-- A step serves the request of its call, or nothing. -/
theorem advance_sound (hsound : remote.Sound frame)
    (hadvance : remote.advance transport store frame = some (next, store', emitted)) :
    remote.Sound next ∧ frame.served?.toList ++ emitted = next.served?.toList := by
  cases frame with
  | entered kind asked =>
      simp only [advance] at hadvance
      split at hadvance <;> cases hadvance
      · exact ⟨trivial, rfl⟩
      · exact ⟨.offline, rfl⟩
  | checked kind asked =>
      simp only [advance] at hadvance
      split at hadvance <;> cases hadvance
      · exact ⟨rfl, rfl⟩
      · exact ⟨.dropped, rfl⟩
  | sent kind asked request =>
      obtain rfl : request = remote.wire asked := hsound
      cases transport <;> cases hadvance
      · exact ⟨rfl, rfl⟩
      · exact ⟨.failed _, rfl⟩
  | served kind asked request response =>
      obtain rfl : request = remote.wire asked := hsound
      cases transport <;> cases hadvance
      · exact ⟨.answered response, rfl⟩
      · exact ⟨.unheard _ response, rfl⟩
  | returned kind asked fate outcome =>
      cases fate with
      | unsent => cases hadvance
      | served request response => cases hadvance
      | sent request =>
          cases transport with
          | fails status => cases hadvance
          | arrives service =>
              cases hadvance
              cases hsound with
              | failed status => exact ⟨.unheard status _, rfl⟩

theorem conserves (remote : Remote σ ε question request response outcome)
    (outside : ω → σ → σ) :
    Conserves (remote.machine outside) (fun _ => True) remote.Sound some (fun _ => [])
      Frame.served? where
  enters _ := ⟨trivial, rfl⟩
  advances _ hsound hadvance := by
    obtain ⟨hnext, hserved⟩ := advance_sound hsound hadvance
    refine ⟨trivial, hnext, ?_⟩
    rw [List.filterMap_some, List.nil_append, List.nil_append, hserved]
  outside _ _ _ := ⟨trivial, .refl _⟩

variable {outside : ω → σ → σ}
  {labels : List (Label ((kind : κ) × question kind) (Transport ε request response) ω)}
  {pool : Pool σ (Frame question request response outcome) (Served request response)}

/-- In every interleaving, what the service has served are the requests of calls, each of
them once, and every call ends as it should. -/
theorem run (hrun : Runs.exec (step (remote.machine outside)) (idle store) labels = some pool) :
    (∀ call ∈ pool.calls, remote.Sound call) ∧
      pool.log.Perm (pool.calls.filterMap Frame.served?) := by
  have hidle : Accounts (fun _ : σ => True) remote.Sound some (fun _ => [])
      (@Frame.served? κ question request response outcome)
      (idle store : Pool σ _ (Served request response)) :=
    ⟨trivial, List.forall_mem_nil _, .refl _⟩
  have haccounts := (remote.conserves outside).run hidle hrun
  refine ⟨haccounts.proper, ?_⟩
  have hbalance := haccounts.balance
  rwa [List.filterMap_some, List.nil_append] at hbalance

/-- What the calls are told of what the service has granted, it has granted, and as often. -/
theorem told_subperm {γ : Type} {told : Frame question request response outcome → Option γ}
    {granted : Served request response → Option γ}
    (htold : ∀ call value, remote.Sound call → told call = some value →
      ∃ entry, call.served? = some entry ∧ granted entry = some value)
    (hrun : Runs.exec (step (remote.machine outside)) (idle store) labels = some pool) :
    List.Subperm (pool.calls.filterMap told) (pool.log.filterMap granted) := by
  obtain ⟨hsound, hlog⟩ := run hrun
  have hserved : (pool.calls.filterMap told).Sublist
      (pool.calls.filterMap fun call => call.served?.bind granted) := by
    apply filterMap_sublist
    intro call hcall value hvalue
    obtain ⟨entry, hentry, hgranted⟩ := htold call value (hsound call hcall) hvalue
    rw [hentry]
    exact hgranted
  rw [← List.filterMap_filterMap] at hserved
  exact hserved.subperm.trans (hlog.symm.filterMap granted).subperm

end Runs

end Remote

end Library
