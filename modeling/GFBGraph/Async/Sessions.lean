import GFBGraph.Async.Agreement
import GFBGraph.Authorizer.Runs
import GFBGraph.Lib.Session

/-!
# GFBGraph.Async.Sessions

A client with any number of asynchronous operations under way over one
authorizer, which is refreshed in the meantime.  A worker thread attaches the
authorization before it sends its call; until the server answers, the
authorizer may be refreshed, other operations may run, and any of them may be
cancelled, finished or destroyed.

`async_session_agrees_with_sync` holds in every such session, for every
implementation of the authorizer interface: an operation is not affected by
the others, and it delivers what the synchronous function returns for the
authorizer as it was when the call was authorized.
-/

namespace GFBGraph

open Lib

/-- An asynchronous operation. -/
inductive AsyncOperation where
  /-- `gfbgraph_user_get_me_async`. -/
  | userGetMe
  /-- `gfbgraph_user_get_albums_async`. -/
  | userGetAlbums (user : Node)
  /-- `gfbgraph_node_get_connection_nodes_async`. -/
  | nodeGetConnectionNodes (node : Node) (nodeType : GType)

namespace AsyncOperation

/-- What `_finish` returns. -/
abbrev Result : AsyncOperation → Type
  | .userGetMe => Option Node
  | .userGetAlbums _ => List (Option Node)
  | .nodeGetConnectionNodes _ _ => List (Option Node)

/-- The kind of task an operation is. -/
def kind : (operation : AsyncOperation) → TaskKind operation.Result AsyncItem GError
  | .userGetMe => userGetMeTask
  | .userGetAlbums _ => userGetAlbumsTask
  | .nodeGetConnectionNodes _ _ => nodeGetConnectionNodesTask

/-- What the synchronous function returns and the error it sets. -/
def call (env : Env) (authorizer : Authorizer) :
    (operation : AsyncOperation) → operation.Result × Option GError
  | .userGetMe =>
      let result := GFBGraph.userGetMe env authorizer
      (result.node, result.error)
  | .userGetAlbums user =>
      let result := GFBGraph.userGetAlbums env user authorizer
      (result.nodes, result.error)
  | .nodeGetConnectionNodes node nodeType =>
      let result := GFBGraph.nodeGetConnectionNodes env node nodeType authorizer
      (result.nodes, result.error)

/-- The parser of the node type an operation asks for keeps the `GError`
convention. -/
def KeepsConvention (types : TypeRegistry) : AsyncOperation → Prop
  | .userGetMe | .userGetAlbums _ => True
  | .nodeGetConnectionNodes _ nodeType => types.KeepsConvention nodeType

/-- An error comes with `NULL`. -/
theorem call_of_error {env : Env} {authorizer : Authorizer} {operation : AsyncOperation}
    (hparse : operation.KeepsConvention env.types)
    (herror : (operation.call env authorizer).2 ≠ none) :
    (operation.call env authorizer).1 = operation.kind.empty := by
  cases operation with
  | userGetMe => exact node_fetchNode_of_error herror
  | userGetAlbums user => exact nodes_getAlbums_of_error herror
  | nodeGetConnectionNodes node nodeType => exact nodes_getConnectionNodes_of_error hparse herror

/-- `_finish` returns what is stored. -/
theorem finish_kind (operation : AsyncOperation) (result : operation.Result) :
    (operation.kind.finish result).1 = result := by
  cases operation <;> rfl

theorem cancelled_kind (operation : AsyncOperation) : operation.kind.cancelled = .cancelled := by
  cases operation <;> rfl

end AsyncOperation

section

variable {κ σ ω : Type} [DecidableEq κ] (iface : AuthorizerInterface σ ω) (env : Env)
  (operation : κ → AsyncOperation)

/-- The server, at the moment it answers a call. -/
abbrev Server := RestProxyCall → Except LibError String

/-- The operations `κ` over an authorizer: it is refreshed, and it is asked to
authorize the calls of the workers. -/
def asyncSession : Session κ σ ω Server AsyncItem GError fun k => (operation k).Result where
  kind k := (operation k).kind
  serve priv answer := (iface.refreshAuthorization priv answer).1
  call k priv server := (operation k).call { env with restProxyCallSync := server } (iface.at priv)

/-- What can happen in such a session. -/
abbrev SessionEvent (κ ω : Type) := Session.Event κ ω Server

/-- The refreshes among the events. -/
def refreshes (events : List (SessionEvent κ ω)) : List (AuthorizerOp ω) :=
  events.filterMap fun
    | .serve answer => some (.refresh answer)
    | _ => none

/-- The session after some events, from an authorizer in state `priv`. -/
def sessionRun (priv : σ) (events : List (SessionEvent κ ω)) :
    Session.State κ σ AsyncItem GError fun k => (operation k).Result :=
  (asyncSession iface env operation).machine.run ((asyncSession iface env operation).begin priv)
    events

/-- The authorizer is changed by the refreshes only. -/
theorem service_sessionRun (priv : σ) (events : List (SessionEvent κ ω)) :
    (sessionRun iface env operation priv events).service =
      (authorizerMachine iface).run priv (refreshes events) := by
  induction events using List.reverseRecOn with
  | nil => rfl
  | append_singleton events event ih =>
      rw [sessionRun, Machine.run_append, ← sessionRun, refreshes, List.filterMap_append,
        Machine.run_append, ← refreshes, ← ih]
      cases event with
      | serve answer => rfl
      | ask k =>
          simp only [Machine.run_cons, Machine.run_nil, Session.next_machine, Session.step]
          split <;> rfl
      | reply k server =>
          simp only [Machine.run_cons, Machine.run_nil, Session.next_machine, Session.step]
          split <;> rfl
      | start k | cancel k | finish k | destroy k => rfl

/-- After these events `_finish` of operation `k` returns `value` and sets
`error`. -/
def SessionDelivers (priv : σ) (events : List (SessionEvent κ ω)) (k : κ)
    (outcome : (operation k).Result × Option GError) : Prop :=
  ∃ result, (Task.machine (operation k).kind).out
    ((sessionRun iface env operation priv events).tasks k) .finish = some result ∧
    Task.delivered (operation k).kind result = outcome

/-- **Asynchronous operations over one authorizer**, in every session.  What
becomes of an operation depends on its own events and the refreshes only.  Once
it has completed, `_finish` delivers the cancellation if the operation was
cancelled, and otherwise what the synchronous function returns and sets, for
the server that answered and for the authorizer as the refreshes up to one
moment left it: the moment at which the operation's worker authorized its call. -/
theorem async_session_agrees_with_sync
    (hparse : ∀ k, (operation k).KeepsConvention env.types) (priv : σ)
    (events : List (SessionEvent κ ω)) (k : κ) :
    (sessionRun iface env operation priv (events.filter (Session.visible k))).tasks k =
      (sessionRun iface env operation priv events).tasks k ∧
    (((sessionRun iface env operation priv events).tasks k).phase = .completed →
      (.cancel k ∈ events → SessionDelivers iface env operation priv events k
        ((operation k).kind.empty, some .cancelled)) ∧
      (.cancel k ∉ events → ∃ pre server, Session.Calls events k pre server ∧
        SessionDelivers iface env operation priv events k
          ((operation k).call { env with restProxyCallSync := server }
            (iface.at ((authorizerMachine iface).run priv (refreshes pre)))))) := by
  have hview := (asyncSession iface env operation).view_run_filter k
    ((asyncSession iface env operation).begin priv) events
  refine ⟨congrArg (fun v => v.2.2) hview, fun hphase => ?_⟩
  have hout := (asyncSession iface env operation).out_finish priv events k hphase
  refine ⟨fun hcancel => ⟨_, hout.1 hcancel, ?_⟩, fun hcancel => ?_⟩
  · have hcancelled := (operation k).cancelled_kind
    rw [← hcancelled]
    rfl
  · obtain ⟨pre, server, hcalls, hfinish⟩ := hout.2 hcancel
    refine ⟨pre, server, hcalls, _, hfinish, ?_⟩
    rw [← service_sessionRun iface env operation]
    exact Task.delivered_answer ((operation k).finish_kind _)
      ((operation k).call_of_error (hparse k))

end

/-- Two operations of one client. -/
def meAndAlbums : Bool → AsyncOperation
  | true => .userGetMe
  | false => .userGetAlbums (gObjectNew typeUser)

/-- The authorizer is refreshed in vain between the two calls, and the second
operation is cancelled. -/
def meAndAlbumsEvents : List (SessionEvent Bool GoaAnswer) :=
  [.serve ⟨.ok (), .ok "t"⟩, .start true, .start false, .ask true,
    .serve ⟨.error ⟨0, "credentials expired"⟩, .ok ""⟩, .ask false, .cancel false,
    .reply true fun _ => .ok albumListText, .reply false fun _ => .ok albumListText]

/-- What the first of them delivers, and the second. -/
theorem async_session_agrees_with_sync_two :
    (∃ pre server, Session.Calls meAndAlbumsEvents true pre server ∧
      SessionDelivers goaAuthorizerIface albumListEnv meAndAlbums (goaAuthorizerNew ⟨true, true⟩)
        meAndAlbumsEvents true
        ((meAndAlbums true).call { albumListEnv with restProxyCallSync := server }
          (goaAuthorizerIface.at ((authorizerMachine goaAuthorizerIface).run
            (goaAuthorizerNew ⟨true, true⟩) (refreshes pre))))) ∧
    SessionDelivers goaAuthorizerIface albumListEnv meAndAlbums (goaAuthorizerNew ⟨true, true⟩)
      meAndAlbumsEvents false ((meAndAlbums false).kind.empty, some .cancelled) := by
  have hparse : ∀ k, (meAndAlbums k).KeepsConvention albumListEnv.types := by
    intro k
    cases k <;> trivial
  have hme := async_session_agrees_with_sync goaAuthorizerIface albumListEnv meAndAlbums hparse
    (goaAuthorizerNew ⟨true, true⟩) meAndAlbumsEvents true
  have halbums := async_session_agrees_with_sync goaAuthorizerIface albumListEnv meAndAlbums hparse
    (goaAuthorizerNew ⟨true, true⟩) meAndAlbumsEvents false
  exact ⟨(hme.2 rfl).2 (by simp [meAndAlbumsEvents]),
    (halbums.2 rfl).1 (by simp [meAndAlbumsEvents])⟩

end GFBGraph
