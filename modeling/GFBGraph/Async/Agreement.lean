import GFBGraph.Async
import GFBGraph.Graph.Parsing
import GFBGraph.Lib.Outcome

/-!
# GFBGraph.Async.Agreement

The asynchronous operations deliver what the synchronous functions return.
Each worker calls the synchronous function and stores what it returns and
sets; `_finish` drops the stored value as soon as there is an error.  Nothing
is lost that way because of the `GError` convention, which every path of the
synchronous functions and of the list parser keeps: an error comes with
`NULL`.
-/

namespace GFBGraph

open Lib Lib.Task

/-! ## an error comes with NULL -/

/-- A fetch that sets an error returns no node. -/
theorem node_fetchNode_of_error {env : Env} {restCall : RestProxyCall} {nodeType : GType}
    (h : (fetchNode env restCall nodeType).error ≠ none) :
    (fetchNode env restCall nodeType).node = none := by
  revert h
  unfold fetchNode
  cases env.restProxyCallSync restCall with
  | error e => simp
  | ok payload =>
      cases hloaded : (env.json.loadFromData payload).loaded with
      | true => simp [hloaded]
      | false => simp [hloaded]

/-- An implementation of the interface whose parser keeps the convention. -/
def ConnectableInterface.KeepsConvention (iface : ConnectableInterface) : Prop :=
  ∀ json self payload, (iface.parseConnectedData json self payload).error ≠ none →
    (iface.parseConnectedData json self payload).nodes = []

/-- The default parser keeps it. -/
theorem nodes_defaultParse_of_error {json : JsonGlib} {self : Node} {payload : String}
    (h : (connectableDefaultParseConnectedData json self payload).error ≠ none) :
    (connectableDefaultParseConnectedData json self payload).nodes = [] := by
  cases herror : (json.loadFromData payload).error with
  | none => simp [error_defaultParse, herror] at h
  | some e => rw [defaultParse_of_error herror]

/-- The interface a type implements, if it does, keeps the convention. -/
def TypeRegistry.KeepsConvention (types : TypeRegistry) (type : GType) : Prop :=
  ∀ iface, types.iface type = some iface → iface.KeepsConvention

theorem keepsConvention_default {types : TypeRegistry} (type : DefaultConnectable types) :
    types.KeepsConvention type.gtype := by
  intro iface hiface json self payload h
  have hsame : type.iface = iface := Option.some.inj (type.iface_eq.symm.trans hiface)
  rw [← hsame, type.parse_eq] at h ⊢
  exact nodes_defaultParse_of_error h

theorem nodes_sendGet_of_error {env : Env} {connectedNode : Node} {restCall : RestProxyCall}
    (hparse : env.types.KeepsConvention connectedNode.gtype)
    (h : (sendGet env connectedNode restCall).error ≠ none) :
    (sendGet env connectedNode restCall).nodes = [] := by
  unfold sendGet at h ⊢
  cases hsync : env.restProxyCallSync restCall with
  | error e => rfl
  | ok payload =>
      simp only [hsync, connectableParseConnectedData] at h ⊢
      cases hiface : env.types.iface connectedNode.gtype with
      | none => rfl
      | some iface =>
          simp only [hiface] at h
          exact hparse iface hiface env.json connectedNode payload h

/-- A fetch of connected nodes that sets an error returns no list. -/
theorem nodes_getConnectionNodes_of_error {env : Env} {node : Node} {nodeType : GType}
    {authorizer : Authorizer} (hparse : env.types.KeepsConvention nodeType)
    (h : (nodeGetConnectionNodes env node nodeType authorizer).error ≠ none) :
    (nodeGetConnectionNodes env node nodeType authorizer).nodes = [] := by
  cases getConnectionNodes_cases authorizer node nodeType with
  | inl hrefused =>
      obtain ⟨error, hresult⟩ := hrefused
      rw [hresult]
  | inr hsent =>
      rw [hsent] at h ⊢
      exact nodes_sendGet_of_error hparse h

theorem nodes_getAlbums_of_error {env : Env} {user : Node} {authorizer : Authorizer}
    (h : (userGetAlbums env user authorizer).error ≠ none) :
    (userGetAlbums env user authorizer).nodes = [] := by
  have hparse := keepsConvention_default (albumConnectable env.types)
  unfold userGetAlbums at h ⊢
  by_cases huser : env.types.isUser user = false
  · simp [huser]
  · simp only [huser] at h ⊢
    exact nodes_getConnectionNodes_of_error hparse h

/-! ## agreement -/

section

variable {ρ : Type} (kind : TaskKind ρ AsyncItem GError)

/-- After these events `_finish` returns `value` and sets `error`. -/
def Delivers (events : List (Event ρ GError)) (value : ρ) (error : Option GError) : Prop :=
  ∃ result, (machine kind).out ((machine kind).run (scheduled kind) events) .finish = some result ∧
    delivered kind result = (value, error)

/-- An operation that is started with a worker, over every order of the events
before `_finish`, delivers what a call that returns `value` and sets `error`
does. -/
structure AgreesWith (thread : Event ρ GError) (value : ρ) (error : Option GError) : Prop where
  /-- An operation the worker stored for is ready to be finished. -/
  completes : ∀ pre mid post,
    (∀ event ∈ pre ++ .start :: mid ++ thread :: post, event ≠ .finish ∧ event ≠ .destroy) →
    ((machine kind).run (scheduled kind) (pre ++ .start :: mid ++ thread :: post)).phase =
      .completed
  /-- Left alone, it delivers the outcome of the call. -/
  uncancelled : ∀ events, (∀ result e, .work result e ∈ events → .work result e = thread) →
    ((machine kind).run (scheduled kind) events).phase = .completed → .cancel ∉ events →
    Delivers kind events value error
  /-- Cancelled, whenever that was, it delivers the cancellation. -/
  cancelled : ∀ events, (∀ result e, .work result e ∈ events → .work result e = thread) →
    ((machine kind).run (scheduled kind) events).phase = .completed → .cancel ∈ events →
    Delivers kind events kind.empty (some kind.cancelled)
  /-- A value never comes with an error. -/
  exclusive : ∀ events value' error', Delivers kind events value' error' →
    value' = kind.empty ∨ error' = none

variable {kind}

theorem empty_or_none_of_delivers {events : List (Event ρ GError)} {value : ρ}
    {error : Option GError} (h : Delivers kind events value error) :
    value = kind.empty ∨ error = none := by
  obtain ⟨result, -, hresult⟩ := h
  cases result with
  | ok => exact Or.inr (congrArg Prod.snd hresult).symm
  | error => exact Or.inl (congrArg Prod.fst hresult).symm

/-- A worker that stores a value and an error, and an error only with `NULL`,
agrees with a call of that outcome. -/
theorem agreesWith_work {value : ρ} {error : Option GError}
    (hfinish : (kind.finish value).1 = value) (herror : error ≠ none → value = kind.empty) :
    AgreesWith kind (.work value error) value error := by
  have hstores : ∀ events : List (Event ρ GError),
      (∀ result e, .work result e ∈ events →
        Event.work result e = Event.work value error) → StoresOnly value error events := by
    intro events h result e hmem
    have heq := h result e hmem
    cases heq
    exact ⟨rfl, rfl⟩
  constructor
  · exact fun pre mid post h => phase_run_of_work h
  · intro events hwork hphase hcancel
    have hout := (out_finish_run (hstores events hwork) hphase).2 hcancel
    exact ⟨_, hout, delivered_answer hfinish herror⟩
  · intro events hwork hphase hcancel
    have hout := (out_finish_run (hstores events hwork) hphase).1 hcancel
    exact ⟨_, hout, rfl⟩
  · exact fun events value' error' h => empty_or_none_of_delivers h

end

/-- **The asynchronous operations agree with the synchronous ones**, for every
server and every order of the events.  Only the parser of a node type from
outside the library is asked to keep the `GError` convention. -/
theorem async_agrees_with_sync (env : Env) (user node : Node) (nodeType : GType)
    (authorizer : Authorizer) (hparse : env.types.KeepsConvention nodeType) :
    AgreesWith userGetMeTask (userGetMeAsyncThread env authorizer)
      (userGetMe env authorizer).node (userGetMe env authorizer).error ∧
    AgreesWith userGetAlbumsTask (userGetAlbumsAsyncThread env user authorizer)
      (userGetAlbums env user authorizer).nodes (userGetAlbums env user authorizer).error ∧
    AgreesWith nodeGetConnectionNodesTask
      (nodeGetConnectionNodesAsyncThread env node nodeType authorizer)
      (nodeGetConnectionNodes env node nodeType authorizer).nodes
      (nodeGetConnectionNodes env node nodeType authorizer).error := by
  refine ⟨?_, ?_, ?_⟩
  · exact agreesWith_work rfl node_fetchNode_of_error
  · exact agreesWith_work rfl nodes_getAlbums_of_error
  · exact agreesWith_work rfl (nodes_getConnectionNodes_of_error hparse)

/-- Albums of a user, cancelled or not while the server answers. -/
theorem async_agrees_with_sync_albums :
    Delivers nodeGetConnectionNodesTask
      [.start, nodeGetConnectionNodesAsyncThread albumListEnv (gObjectNew typeUser) typeAlbum
        .anonymous]
      (nodeGetConnectionNodes albumListEnv (gObjectNew typeUser) typeAlbum .anonymous).nodes
      (nodeGetConnectionNodes albumListEnv (gObjectNew typeUser) typeAlbum .anonymous).error ∧
    Delivers nodeGetConnectionNodesTask
      [.start, .cancel, nodeGetConnectionNodesAsyncThread albumListEnv (gObjectNew typeUser)
        typeAlbum .anonymous]
      [] (some .cancelled) := by
  have hagrees := (async_agrees_with_sync albumListEnv (gObjectNew typeUser) (gObjectNew typeUser)
    typeAlbum .anonymous (keepsConvention_default (albumConnectable _))).2.2
  constructor
  · refine hagrees.uncancelled _ ?_ rfl ?_
    · simp [nodeGetConnectionNodesAsyncThread]
    · simp [nodeGetConnectionNodesAsyncThread]
  · refine hagrees.cancelled _ ?_ rfl ?_
    · simp [nodeGetConnectionNodesAsyncThread]
    · simp

end GFBGraph
