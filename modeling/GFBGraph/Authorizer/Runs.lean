import GFBGraph.Authorizer
import GFBGraph.Lib.Register

/-!
# GFBGraph.Authorizer.Runs

The access token over whole runs of an authorizer.  The operations of all its
clients are serialised by the mutex, so a run is any list of operations:
refreshes with whatever the services answer, and calls being processed.  Both
the token of the authorizer and the `access_token` parameter of a call object
are registers (`Lib.Machine.Register`) of such runs: a refresh always writes
the token, and `process_call` writes the parameter only while a token is held.
-/

namespace GFBGraph

open Lib

/-! ## calls that are processed once -/

/-- An operation of some client: a refresh, or a fresh call to be processed. -/
inductive AuthorizerOp (ω : Type) where
  | refresh (answer : ω)
  | processCall

/-- What an operation returns to its client. -/
inductive AuthorizerAnswer where
  | refreshed (success : Bool) (error : Option GError)
  | processed (call : RestProxyCall)

/-- One operation on an authorizer. -/
def authorizerStep {σ ω : Type} (iface : AuthorizerInterface σ ω) (priv : σ) :
    AuthorizerOp ω → σ × AuthorizerAnswer
  | .refresh answer =>
      let (priv', success, error) := iface.refreshAuthorization priv answer
      (priv', .refreshed success error)
  | .processCall => (priv, .processed (newRestCall (iface.at priv)))

/-- An authorizer as a machine. -/
def authorizerMachine {σ ω : Type} (iface : AuthorizerInterface σ ω) :
    Machine σ (AuthorizerOp ω) AuthorizerAnswer := ⟨authorizerStep iface⟩

/-- `GFBGraphGoaAuthorizer` as a machine. -/
def goaMachine : Machine GoaAuthorizerPrivate (AuthorizerOp GoaAnswer) AuthorizerAnswer :=
  authorizerMachine goaAuthorizerIface

/-! ### the token -/

/-- **Spec lemma** of a refresh: either it fails and no token is held, or it
returns `TRUE` and the token obtained is held. -/
theorem goaRefresh_cases (priv : GoaAuthorizerPrivate) (answer : GoaAnswer) :
    let result := goaAuthorizerRefreshAuthorization priv answer
    (result.2.1 = false ∧ result.1.accessToken = none) ∨
      ∃ token, answer.getAccessToken = .ok token ∧ result.2.1 = true ∧
        result.1.accessToken = some token := by
  obtain ⟨goaObject, accessToken⟩ := priv
  obtain ⟨ensureCredentials, getAccessToken⟩ := answer
  cases goaObject with
  | none => exact Or.inl ⟨rfl, rfl⟩
  | some goaObject =>
      cases ensureCredentials with
      | error e => exact Or.inl ⟨rfl, rfl⟩
      | ok u =>
          cases getAccessToken with
          | error e => exact Or.inl ⟨rfl, rfl⟩
          | ok token => exact Or.inr ⟨token, rfl, rfl, rfl⟩

/-- A refresh returns `TRUE` exactly when a token is held afterwards. -/
theorem goaRefresh_success_iff (priv : GoaAuthorizerPrivate) (answer : GoaAnswer) :
    (goaAuthorizerRefreshAuthorization priv answer).2.1 = true ↔
      (goaAuthorizerRefreshAuthorization priv answer).1.accessToken.isSome = true := by
  cases goaRefresh_cases priv answer with
  | inl hfailed => rw [hfailed.1, hfailed.2, Option.isSome_none]
  | inr hsuccess =>
      obtain ⟨token, -, htrue, htoken⟩ := hsuccess
      rw [htrue, htoken, Option.isSome_some]

/-- A token held after a refresh is the one it obtained. -/
theorem goaRefresh_accessToken_iff (priv : GoaAuthorizerPrivate) (answer : GoaAnswer)
    (token : String) :
    (goaAuthorizerRefreshAuthorization priv answer).1.accessToken = some token ↔
      (goaAuthorizerRefreshAuthorization priv answer).2.1 = true ∧
        answer.getAccessToken = .ok token := by
  cases goaRefresh_cases priv answer with
  | inl hfailed => simp [hfailed.1, hfailed.2]
  | inr hsuccess =>
      obtain ⟨obtained, hanswer, htrue, htoken⟩ := hsuccess
      simp [htrue, htoken, hanswer]

/-- A fresh call carries the token that is held, if one is. -/
theorem param_goaProcessCall_new (priv : GoaAuthorizerPrivate) :
    (newRestCall (goaAuthorizerIface.at priv)).param "access_token" =
      priv.accessToken.map some := by
  obtain ⟨goaObject, accessToken⟩ := priv
  cases accessToken with
  | none => exact param_restProxyNewCall "access_token"
  | some token => exact param_addParam restProxyNewCall "access_token" (some token)

/-- The token of a GOA authorizer is a register that every refresh writes. -/
def goaTokenRegister : goaMachine.Register (Option String) where
  get := GoaAuthorizerPrivate.accessToken
  write priv
    | .refresh answer => some (goaAuthorizerRefreshAuthorization priv answer).1.accessToken
    | .processCall => none
  get_next priv op := by cases op <;> rfl

/-- Quiet runs are those without a refresh. -/
theorem goaTokenRegister_quiet_iff (priv : GoaAuthorizerPrivate)
    (ops : List (AuthorizerOp GoaAnswer)) :
    goaTokenRegister.Quiet priv ops ↔ ∀ op ∈ ops, op = .processCall := by
  induction ops generalizing priv with
  | nil => simp [Machine.Register.Quiet]
  | cons op ops ih =>
      have hhead : goaTokenRegister.write priv op = none ↔ op = .processCall := by
        cases op <;> simp [goaTokenRegister]
      rw [Machine.Register.Quiet, Machine.always_cons, hhead, List.forall_mem_cons]
      exact and_congr_right fun _ => ih _

/-- The operations end with a refresh, issued after `pre` and followed by no
other. -/
def IsLastRefresh {ω : Type} (ops pre : List (AuthorizerOp ω)) (answer : ω) : Prop :=
  ∃ post, ops = pre ++ .refresh answer :: post ∧ ∀ op ∈ post, op = .processCall

/-- The token held after a run is the one the last refresh obtained. -/
theorem accessToken_run_eq_some_iff (goaObject : GoaObject)
    (ops : List (AuthorizerOp GoaAnswer)) (token : String) :
    (goaMachine.run (goaAuthorizerNew goaObject) ops).accessToken = some token ↔
      ∃ pre answer, IsLastRefresh ops pre answer ∧
        (goaAuthorizerRefreshAuthorization
          (goaMachine.run (goaAuthorizerNew goaObject) pre) answer).2.1 = true ∧
        answer.getAccessToken = .ok token := by
  have hnew : (goaAuthorizerNew goaObject).accessToken = none := by
    unfold goaAuthorizerNew goaAuthorizerSetGoaObject
    split
    · rfl
    · split <;> rfl
  rw [show (goaMachine.run (goaAuthorizerNew goaObject) ops).accessToken =
    goaTokenRegister.get (goaMachine.run (goaAuthorizerNew goaObject) ops) from rfl,
    goaTokenRegister.get_run_iff]
  constructor
  · intro h
    cases h with
    | inr hquiet =>
        have hnone := hquiet.2.symm.trans hnew
        contradiction
    | inl hlast =>
        obtain ⟨pre, op, post, hsplit, hwrite, hquiet⟩ := hlast
        cases op with
        | processCall => contradiction
        | refresh answer =>
            have hpost := (goaTokenRegister_quiet_iff _ _).1 hquiet
            have htoken := (goaRefresh_accessToken_iff _ _ _).1 (Option.some.inj hwrite)
            exact ⟨pre, answer, ⟨post, hsplit, hpost⟩, htoken⟩
  · intro h
    obtain ⟨pre, answer, ⟨post, hsplit, hpost⟩, htoken⟩ := h
    have hquiet := (goaTokenRegister_quiet_iff (goaMachine.next
      (goaMachine.run (goaAuthorizerNew goaObject) pre) (.refresh answer)) post).2 hpost
    have hwrite := congrArg some ((goaRefresh_accessToken_iff _ _ _).2 htoken)
    exact Or.inl ⟨pre, .refresh answer, post, hsplit, hwrite, hquiet⟩

/-- **Token freshness**: at every point of every run of a new GOA authorizer, a
refresh returns `TRUE` exactly when a token is held afterwards, and a call that
is processed carries a token exactly when there is a last refresh before it and
that refresh returned `TRUE`; the token is the one that refresh obtained. -/
theorem goa_token_fresh (goaObject : GoaObject) (ops : List (AuthorizerOp GoaAnswer)) :
    let priv := goaMachine.run (goaAuthorizerNew goaObject) ops
    (∀ answer, (goaAuthorizerRefreshAuthorization priv answer).2.1 = true ↔
      (goaAuthorizerRefreshAuthorization priv answer).1.accessToken.isSome = true) ∧
    (∀ value, (newRestCall (goaAuthorizerIface.at priv)).param "access_token" = some value ↔
      ∃ pre answer token, IsLastRefresh ops pre answer ∧
        (goaAuthorizerRefreshAuthorization
          (goaMachine.run (goaAuthorizerNew goaObject) pre) answer).2.1 = true ∧
        answer.getAccessToken = .ok token ∧ value = some token) := by
  refine ⟨goaRefresh_success_iff _, fun value => ?_⟩
  rw [param_goaProcessCall_new, Option.map_eq_some_iff]
  simp only [accessToken_run_eq_some_iff]
  constructor
  · intro h
    obtain ⟨token, ⟨pre, answer, hlast, htrue, hanswer⟩, hvalue⟩ := h
    exact ⟨pre, answer, token, hlast, htrue, hanswer, hvalue.symm⟩
  · intro h
    obtain ⟨pre, answer, token, hlast, htrue, hanswer, hvalue⟩ := h
    exact ⟨token, ⟨pre, answer, hlast, htrue, hanswer⟩, hvalue.symm⟩

/-! ## calls that are processed again -/

/-- An operation on a GOA authorizer and the call objects `κ` of its clients:
the same object may be processed any number of times. -/
inductive CallOp (κ : Type) where
  | refresh (answer : GoaAnswer)
  | processCall (key : κ)

/-- An authorizer and the call objects of its clients. -/
structure CallState (κ : Type) where
  priv : GoaAuthorizerPrivate
  calls : κ → RestProxyCall

section

variable {κ : Type} [DecidableEq κ]

/-- One operation on an authorizer and its clients' calls. -/
def callStep (state : CallState κ) : CallOp κ → CallState κ × Unit
  | .refresh answer =>
      ({ state with priv := (goaAuthorizerRefreshAuthorization state.priv answer).1 }, ())
  | .processCall key =>
      let call := goaAuthorizerProcessCall state.priv (state.calls key)
      ({ state with calls := Function.update state.calls key call }, ())

variable (κ) in
/-- An authorizer and its clients' calls as a machine. -/
def callMachine : Machine (CallState κ) (CallOp κ) Unit := ⟨callStep⟩

/-- Processing a call while a token is held attaches it. -/
theorem param_processCall_of_some {priv : GoaAuthorizerPrivate} {token : String}
    (h : priv.accessToken = some token) (call : RestProxyCall) :
    (goaAuthorizerProcessCall priv call).param "access_token" = some (some token) := by
  rw [goaAuthorizerProcessCall, h]
  exact param_addParam call "access_token" (some token)

/-- Processing a call while none is held leaves it as it is. -/
theorem processCall_of_none {priv : GoaAuthorizerPrivate} (h : priv.accessToken = none)
    (call : RestProxyCall) : goaAuthorizerProcessCall priv call = call := by
  rw [goaAuthorizerProcessCall, h]

/-- Processing replaces one call object. -/
theorem calls_next_processCall (state : CallState κ) (key : κ) :
    ((callMachine κ).next state (.processCall key)).calls =
      Function.update state.calls key (goaAuthorizerProcessCall state.priv (state.calls key)) := rfl

/-- The value an operation writes to the parameter of a call object. -/
def attachedBy (key : κ) (state : CallState κ) : CallOp κ → Option (Option (Option String))
  | .refresh _ => none
  | .processCall key' =>
      if key' = key then state.priv.accessToken.map fun token => some (some token) else none

/-- The parameter of a call object is a register, written by processing that
object while a token is held. -/
def callTokenRegister (key : κ) : (callMachine κ).Register (Option (Option String)) where
  get state := (state.calls key).param "access_token"
  write := attachedBy key
  get_next state op := by
    cases op with
    | refresh answer => rfl
    | processCall key' =>
        rw [calls_next_processCall, attachedBy]
        by_cases hkey : key' = key
        · rw [hkey, Function.update_self, if_pos rfl]
          cases htoken : state.priv.accessToken with
          | none => rw [processCall_of_none htoken, Option.map_none, Option.getD_none]
          | some token => rw [param_processCall_of_some htoken, Option.map_some, Option.getD_some]
        · rw [Function.update_of_ne (Ne.symm hkey), if_neg hkey, Option.getD_none]

/-- Whenever these operations process the call object, no token is held. -/
def NeverAttached (start : CallState κ) (ops : List (CallOp κ)) (key : κ) : Prop :=
  ∀ pre post, ops = pre ++ .processCall key :: post →
    ((callMachine κ).run start pre).priv.accessToken = none

/-- The last time these operations process the call object while a token is
held, it is this one. -/
def AttachedLast (start : CallState κ) (ops : List (CallOp κ)) (key : κ) (token : String) : Prop :=
  ∃ pre post, ops = pre ++ .processCall key :: post ∧
    ((callMachine κ).run start pre).priv.accessToken = some token ∧
    NeverAttached ((callMachine κ).run start (pre ++ [.processCall key])) post key

theorem attachedBy_eq_none_iff {key : κ} {state : CallState κ} {op : CallOp κ} :
    attachedBy key state op = none ↔ (op = .processCall key → state.priv.accessToken = none) := by
  cases op with
  | refresh answer => simp [attachedBy]
  | processCall key' => by_cases hkey : key' = key <;> simp [attachedBy, hkey]

theorem attachedBy_eq_some_iff {key : κ} {state : CallState κ} {op : CallOp κ}
    {value : Option (Option String)} :
    attachedBy key state op = some value ↔
      op = .processCall key ∧ ∃ token, state.priv.accessToken = some token ∧
        value = some (some token) := by
  cases op with
  | refresh answer => simp [attachedBy]
  | processCall key' =>
      by_cases hkey : key' = key
      · simp only [attachedBy, hkey, if_true, true_and, Option.map_eq_some_iff]
        exact exists_congr fun token => and_congr_right fun _ => eq_comm
      · simp [attachedBy, hkey]

theorem callTokenRegister_quiet_iff (key : κ) (start : CallState κ) (ops : List (CallOp κ)) :
    (callTokenRegister key).Quiet start ops ↔ NeverAttached start ops key := by
  rw [Machine.Register.Quiet, Machine.always_iff]
  constructor
  · intro h pre post hsplit
    exact attachedBy_eq_none_iff.1 (h pre _ post hsplit) rfl
  · intro h pre op post hsplit
    refine attachedBy_eq_none_iff.2 fun hop => h pre post ?_
    rw [hsplit, hop]

theorem callTokenRegister_lastWrite_iff (key : κ) (start : CallState κ) (ops : List (CallOp κ))
    (value : Option (Option String)) :
    (callTokenRegister key).LastWrite start ops value ↔
      ∃ token, value = some (some token) ∧ AttachedLast start ops key token := by
  constructor
  · intro h
    obtain ⟨pre, op, post, hsplit, hwrite, hquiet⟩ := h
    obtain ⟨hop, token, htoken, hvalue⟩ := attachedBy_eq_some_iff.1 hwrite
    rw [callTokenRegister_quiet_iff, hop] at hquiet
    rw [hop] at hsplit
    refine ⟨token, hvalue, pre, post, hsplit, htoken, ?_⟩
    rwa [Machine.run_append]
  · intro h
    obtain ⟨token, hvalue, pre, post, hsplit, htoken, hnever⟩ := h
    have hwrite : attachedBy key ((callMachine κ).run start pre) (.processCall key) = some value :=
      attachedBy_eq_some_iff.2 ⟨rfl, token, htoken, hvalue⟩
    rw [Machine.run_append, ← callTokenRegister_quiet_iff] at hnever
    exact ⟨pre, .processCall key, post, hsplit, hwrite, hnever⟩

/-- **Processing a call again**: after any run, processing a call object gives
it the token that is held; when none is held it leaves the object exactly as
it was, with the token of the last time it was processed while one was held,
or with what the object came with if there was no such time. -/
theorem reprocessed_call_token (start : CallState κ) (ops : List (CallOp κ)) (key : κ) :
    let state := (callMachine κ).run start ops
    let call := ((callMachine κ).next state (.processCall key)).calls key
    (∀ token, state.priv.accessToken = some token →
      call.param "access_token" = some (some token)) ∧
    (state.priv.accessToken = none → call = state.calls key ∧
      ∀ value, call.param "access_token" = value ↔
        (∃ token, value = some (some token) ∧ AttachedLast start ops key token) ∨
          (NeverAttached start ops key ∧ (start.calls key).param "access_token" = value)) := by
  dsimp only
  rw [calls_next_processCall, Function.update_self]
  refine ⟨fun token htoken => param_processCall_of_some htoken _, fun hnone => ?_⟩
  rw [processCall_of_none hnone]
  refine ⟨rfl, fun value => ?_⟩
  have hlaw := (callTokenRegister key).get_run_iff start ops value
  rw [callTokenRegister_lastWrite_iff, callTokenRegister_quiet_iff] at hlaw
  exact hlaw

end

/-- A valid account, before its first refresh, and one fresh call. -/
def freshCallState : CallState Unit where
  priv := goaAuthorizerNew ⟨true, true⟩
  calls _ := restProxyNewCall

/-- The refresh that obtains the token `token`. -/
def refreshTo (token : String) : CallOp Unit := .refresh ⟨.ok (), .ok token⟩

/-- A refresh for which the credentials cannot be ensured. -/
def refreshFails : CallOp Unit := .refresh ⟨.error ⟨0, "credentials expired"⟩, .ok ""⟩

/-- A call processed with a token in hand, one processed without, and one that is
processed again after a refresh in vain. -/
theorem reprocessed_call_token_fresh :
    (((callMachine Unit).run freshCallState [refreshTo "t", .processCall ()]).calls ()).param
        "access_token" = some (some "t") ∧
      ((callMachine Unit).run freshCallState [.processCall ()]).calls () = restProxyNewCall ∧
      (((callMachine Unit).run freshCallState [refreshTo "t", .processCall (), refreshFails,
        .processCall ()]).calls ()).param "access_token" = some (some "t") := by
  have hretry := ((reprocessed_call_token freshCallState
    [refreshTo "t", .processCall (), refreshFails] ()).2 rfl).2 (some (some "t"))
  refine ⟨(reprocessed_call_token freshCallState [refreshTo "t"] ()).1 "t" rfl,
    ((reprocessed_call_token freshCallState [] ()).2 rfl).1, hretry.2 (Or.inl ?_)⟩
  refine ⟨"t", rfl, [refreshTo "t"], [refreshFails], rfl, rfl, fun pre post hsplit => ?_⟩
  have hmem : CallOp.processCall () ∈ [refreshFails] := hsplit ▸ List.mem_append_right _
    List.mem_cons_self
  simp [refreshFails] at hmem

/-- Process, refresh in vain, process again: no token is held, and the call
still carries the first one. -/
theorem reprocessed_call_keeps_old_token :
    let state := (callMachine Unit).run freshCallState
      [refreshTo "t", .processCall (), refreshFails, .processCall ()]
    state.priv.accessToken = none ∧
      (state.calls ()).param "access_token" = some (some "t") := by
  decide

end GFBGraph
