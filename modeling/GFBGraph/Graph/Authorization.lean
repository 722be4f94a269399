import GFBGraph.Authorizer.Runs
import GFBGraph.Graph.PostParams

/-!
# GFBGraph.Graph.Authorization

Sessions of a client: calls of the synchronous functions against the Graph API,
all with the same authorizer, between refreshes of that authorizer.  Every
request carries the parameters of its call over what the authorizer attaches in
its present state, which for a GOA authorizer is the token that the last refresh
obtained.
-/

namespace GFBGraph

open Lib

/-! ## calls against the Graph API -/

/-- A call of a synchronous function. -/
inductive GraphCall where
  | nodeNewFromId (id : String) (nodeType : GType)
  | userGetMe
  | nodeGetConnectionNodes (node : Node) (nodeType : GType)
  | userGetAlbums (user : Node)
  | nodeAppendConnection (node connectNode : Node)

namespace GraphCall

variable (env : Env) (authorizer : Authorizer)

/-- The requests of a call. -/
def requests : GraphCall → List RestProxyCall
  | nodeNewFromId id nodeType => (GFBGraph.nodeNewFromId env authorizer id nodeType).requests
  | userGetMe => (GFBGraph.userGetMe env authorizer).requests
  | nodeGetConnectionNodes node nodeType =>
      (GFBGraph.nodeGetConnectionNodes env node nodeType authorizer).requests
  | userGetAlbums user => (GFBGraph.userGetAlbums env user authorizer).requests
  | nodeAppendConnection node connectNode =>
      (GFBGraph.nodeAppendConnection env node connectNode authorizer).requests

/-- The parameters a call adds itself. -/
def ownParams : GraphCall → String → Option (Option String)
  | userGetMe, name => if name = "fields" then some (some "name,email") else none
  | nodeAppendConnection node connectNode, name =>
      (connectableGetConnectionPostParams env.types connectNode node.gtype).bind fun params =>
        gHashTableLookup params name
  | _, _ => none

/-- A call sends nothing, or one request with its own parameters over those the
authorizer attaches to a fresh call. -/
def SendsOver (call : GraphCall) (requests : List RestProxyCall) : Prop :=
  requests = [] ∨ ∃ request, requests = [request] ∧
    ∀ name, request.param name =
      (call.ownParams env name).or ((newRestCall authorizer).param name)

variable {env authorizer}

theorem requests_fetchNode (restCall : RestProxyCall) (nodeType : GType) :
    (fetchNode env restCall nodeType).requests = [restCall] := by
  unfold fetchNode
  cases env.restProxyCallSync restCall with
  | error e => rfl
  | ok payload =>
      dsimp only
      split <;> rfl

theorem sendsOver_nodeNewFromId (id : String) (nodeType : GType) :
    (nodeNewFromId id nodeType).SendsOver env authorizer
      ((nodeNewFromId id nodeType).requests env authorizer) := by
  rw [requests, GFBGraph.nodeNewFromId]
  split
  · exact Or.inl rfl
  · split
    · exact Or.inl rfl
    · exact Or.inr ⟨_, requests_fetchNode _ _, fun _ => rfl⟩

theorem sendsOver_userGetMe :
    userGetMe.SendsOver env authorizer (userGetMe.requests env authorizer) := by
  refine Or.inr ⟨_, requests_fetchNode _ _, fun name => ?_⟩
  rw [ownParams, getMeCall]
  by_cases hfields : name = "fields"
  · rw [if_pos hfields, hfields, param_addParam, Option.some_or]
  · rw [if_neg hfields, param_addParam_ne _ _ hfields, Option.none_or]
    rfl

theorem sendsOver_nodeGetConnectionNodes (node : Node) (nodeType : GType) :
    (nodeGetConnectionNodes node nodeType).SendsOver env authorizer
      ((nodeGetConnectionNodes node nodeType).requests env authorizer) := by
  rw [requests]
  cases getConnectionNodes_cases authorizer node nodeType with
  | inl hrefused =>
      obtain ⟨error, hresult⟩ := hrefused
      rw [hresult]
      exact Or.inl rfl
  | inr hsent =>
      rw [hsent, requests_sendGet]
      exact Or.inr ⟨_, rfl, fun _ => rfl⟩

theorem sendsOver_userGetAlbums (user : Node) :
    (userGetAlbums user).SendsOver env authorizer
      ((userGetAlbums user).requests env authorizer) := by
  rw [requests, GFBGraph.userGetAlbums]
  split
  · exact Or.inl rfl
  · exact sendsOver_nodeGetConnectionNodes user typeAlbum

theorem sendsOver_nodeAppendConnection (node connectNode : Node) :
    (nodeAppendConnection node connectNode).SendsOver env authorizer
      ((nodeAppendConnection node connectNode).requests env authorizer) := by
  rw [requests]
  cases appendConnection_cases authorizer node connectNode with
  | inl hrefused =>
      obtain ⟨error, hresult⟩ := hrefused
      rw [hresult]
      exact Or.inl rfl
  | inr hsent =>
      rw [hsent, requests_sendPost]
      refine Or.inr ⟨_, rfl, fun name => ?_⟩
      rw [appendCall, ownParams]
      cases connectableGetConnectionPostParams env.types connectNode node.gtype with
      | none => rfl
      | some params => exact param_addPostParams env params _ name

/-- **Spec lemma** of one call. -/
theorem sendsOver_requests (call : GraphCall) :
    call.SendsOver env authorizer (call.requests env authorizer) := by
  cases call with
  | nodeNewFromId id nodeType => exact sendsOver_nodeNewFromId id nodeType
  | userGetMe => exact sendsOver_userGetMe
  | nodeGetConnectionNodes node nodeType => exact sendsOver_nodeGetConnectionNodes node nodeType
  | userGetAlbums user => exact sendsOver_userGetAlbums user
  | nodeAppendConnection node connectNode =>
      exact sendsOver_nodeAppendConnection node connectNode

/-- What is appended, if anything is, is an album or a photo. -/
def AppendsBuiltin : GraphCall → Prop
  | nodeAppendConnection _ connectNode =>
      connectNode.gtype = typeAlbum ∨ connectNode.gtype = typePhoto
  | _ => True

/-- Such a call adds no token of its own. -/
theorem ownParams_accessToken {call : GraphCall} (h : call.AppendsBuiltin) :
    call.ownParams env "access_token" = none := by
  cases call with
  | nodeAppendConnection node connectNode =>
      rw [ownParams, connectableGetConnectionPostParams]
      split
      · cases h with
        | inl halbum =>
            obtain ⟨table, htable, hlookup⟩ := lookup_albumParams connectNode node.gtype
            have hparams : albumConnectableIface.getConnectionPostParams connectNode node.gtype =
                some table := htable
            rw [halbum, TypeRegistry.iface_typeAlbum, Option.bind_some, hparams,
              Option.bind_some, hlookup]
            rfl
        | inr hphoto =>
            obtain ⟨table, htable, hlookup⟩ := lookup_photoParams connectNode node.gtype
            have hparams : photoConnectableIface.getConnectionPostParams connectNode node.gtype =
                some table := htable
            rw [hphoto, TypeRegistry.iface_typePhoto, Option.bind_some, hparams,
              Option.bind_some, hlookup]
            rfl
      · rfl
  | userGetMe => rfl
  | _ => rfl

end GraphCall

/-! ## sessions -/

/-- What a client does with its authorizer; the server may have changed from
one call to the next. -/
inductive SessionOp (ω : Type) where
  | refresh (answer : ω)
  | call (env : Env) (call : GraphCall)

/-- One operation, which answers the requests it sent. -/
def sessionStep {σ ω : Type} (iface : AuthorizerInterface σ ω) (priv : σ) :
    SessionOp ω → σ × List RestProxyCall
  | .refresh answer => ((iface.refreshAuthorization priv answer).1, [])
  | .call env call => (priv, call.requests env (iface.at priv))

/-- A session as a machine. -/
def sessionMachine {σ ω : Type} (iface : AuthorizerInterface σ ω) :
    Machine σ (SessionOp ω) (List RestProxyCall) := ⟨sessionStep iface⟩

/-- The answers to the refreshes of a session. -/
def refreshAnswers {ω : Type} (ops : List (SessionOp ω)) : List ω :=
  ops.filterMap fun op =>
    match op with
    | .refresh answer => some answer
    | .call _ _ => none

/-! ### the token of a session -/

/-- The token that GNOME Online Accounts hands out with this answer. -/
def GoaAnswer.token (answer : GoaAnswer) : Option String :=
  match answer.ensureCredentials, answer.getAccessToken with
  | .ok _, .ok token => some token
  | _, _ => none

/-- The token after these answers: that of the last one, if there is an account
to be asked. -/
def lastToken (goaObject : GoaObject) (answers : List GoaAnswer) : Option String :=
  if goaObject.oauth2Based = true ∧ goaObject.account = true then
    answers.getLast?.bind GoaAnswer.token
  else none

theorem goaRefresh_eq (priv : GoaAuthorizerPrivate) (answer : GoaAnswer) :
    (goaAuthorizerRefreshAuthorization priv answer).1 =
      { priv with accessToken := priv.goaObject.bind fun _ => answer.token } := by
  obtain ⟨goaObject, accessToken⟩ := priv
  obtain ⟨ensureCredentials, getAccessToken⟩ := answer
  cases goaObject with
  | none => rfl
  | some goaObject =>
      cases ensureCredentials with
      | error e => rfl
      | ok u => cases getAccessToken <;> rfl

/-- **Run lemma**: only the last answer counts. -/
theorem sessionRun_goa (priv : GoaAuthorizerPrivate) (ops : List (SessionOp GoaAnswer)) :
    (sessionMachine goaAuthorizerIface).run priv ops =
      match (refreshAnswers ops).getLast? with
      | none => priv
      | some answer =>
          { priv with accessToken := priv.goaObject.bind fun _ => answer.token } := by
  induction ops generalizing priv with
  | nil => rfl
  | cons op ops ih =>
      rw [Machine.run_cons, ih]
      cases op with
      | call env call => rfl
      | refresh answer =>
          have hnext : (sessionMachine goaAuthorizerIface).next priv (.refresh answer) =
              { priv with accessToken := priv.goaObject.bind fun _ => answer.token } :=
            goaRefresh_eq priv answer
          have hanswers : refreshAnswers (.refresh answer :: ops) =
              answer :: refreshAnswers ops := rfl
          rw [hnext, hanswers, List.getLast?_cons]
          cases (refreshAnswers ops).getLast? <;> rfl

theorem accessToken_sessionRun (goaObject : GoaObject) (ops : List (SessionOp GoaAnswer)) :
    ((sessionMachine goaAuthorizerIface).run (goaAuthorizerNew goaObject) ops).accessToken =
      lastToken goaObject (refreshAnswers ops) := by
  rw [sessionRun_goa, lastToken]
  obtain ⟨account, oauth2Based⟩ := goaObject
  cases (refreshAnswers ops).getLast? <;> cases account <;> cases oauth2Based <;> rfl

/-! ### the requests of a session -/

/-- The parameters a GOA authorizer attaches to a fresh call. -/
theorem param_newRestCall_goa (priv : GoaAuthorizerPrivate) (name : String) :
    (newRestCall (goaAuthorizerIface.at priv)).param name =
      if name = "access_token" then priv.accessToken.map some else none := by
  by_cases hname : name = "access_token"
  · rw [if_pos hname, hname, param_goaProcessCall_new]
  · rw [if_neg hname]
    have hnone := param_restProxyNewCall name
    obtain ⟨goaObject, accessToken⟩ := priv
    cases accessToken with
    | none => exact hnone
    | some token =>
        have hother := param_addParam_ne restProxyNewCall (some token) hname
        exact hother.trans hnone

/-- **Every request of a session is authorized by the last refresh**: whatever
calls and refreshes came before, a call sends at most one request, which carries
the token that the last refresh obtained, or none if it obtained none, and
beside it the parameters of the call.  Only an appended instance of a client
class can put a token of its own in its place. -/
theorem session_requests_authorized (goaObject : GoaObject) (ops : List (SessionOp GoaAnswer))
    (env : Env) (call : GraphCall) :
    let session := sessionMachine goaAuthorizerIface
    let requests := session.out (session.run (goaAuthorizerNew goaObject) ops) (.call env call)
    let token := lastToken goaObject (refreshAnswers ops)
    requests.length ≤ 1 ∧
    ∀ request ∈ requests,
      (∀ name, name ≠ "access_token" → request.param name = call.ownParams env name) ∧
      request.param "access_token" =
        (call.ownParams env "access_token").or (token.map some) ∧
      (call.AppendsBuiltin → request.param "access_token" = token.map some) := by
  intro session requests token
  have hsends : call.SendsOver env (goaAuthorizerIface.at
      (session.run (goaAuthorizerNew goaObject) ops)) requests := call.sendsOver_requests
  cases hsends with
  | inl hnone => simp [hnone]
  | inr hone =>
      obtain ⟨request, hrequests, hparam⟩ := hone
      simp only [param_newRestCall_goa] at hparam
      have htoken : request.param "access_token" =
          (call.ownParams env "access_token").or (token.map some) := by
        rw [hparam, if_pos rfl, accessToken_sessionRun]
      rw [hrequests]
      refine ⟨Nat.le_refl 1, fun sent hsent => ?_⟩
      obtain rfl := List.mem_singleton.1 hsent
      refine ⟨fun name hname => ?_, htoken, fun hbuiltin => ?_⟩
      · rw [hparam, if_neg hname, Option.or_none]
      · rw [htoken, GraphCall.ownParams_accessToken hbuiltin, Option.none_or]

end GFBGraph
