import GFBGraph.Glib

/-!
# GFBGraph.Rest

The two kinds of HTTP request an authorizer is handed: librest's
`RestProxyCall` and libsoup's `SoupMessage`, with the setters the library
uses, and the authorizer interface over them.
-/

namespace GFBGraph

/-! ## librest -/

/-- A `RestProxyCall`.  A parameter value is the string pointer as it was
given; librest encodes the values when it sends the call. -/
structure RestProxyCall where
  method : String := "GET"
  function : Option String := none
  params : GHashTable (Option String) := gHashTableNew

/-- `rest_proxy_new_call`. -/
def restProxyNewCall : RestProxyCall := {}

/-- `rest_proxy_call_set_method`. -/
def restProxyCallSetMethod (call : RestProxyCall) (method : String) : RestProxyCall :=
  { call with method := method }

/-- `rest_proxy_call_set_function`. -/
def restProxyCallSetFunction (call : RestProxyCall) (function : String) : RestProxyCall :=
  { call with function := some function }

/-- `rest_proxy_call_add_param`: a parameter of the same name is replaced.  The
value has to be a string; that a caller gives `NULL` is recorded here, and what
librest makes of it is left open. -/
def restProxyCallAddParam (call : RestProxyCall) (name : String) (value : Option String) :
    RestProxyCall :=
  { call with params := gHashTableInsert call.params name value }

/-- The value of a parameter, if the call has it. -/
def RestProxyCall.param (call : RestProxyCall) (name : String) : Option (Option String) :=
  gHashTableLookup call.params name

@[simp] theorem param_restProxyNewCall (name : String) : restProxyNewCall.param name = none :=
  gHashTableLookup_new name

@[simp] theorem param_addParam (call : RestProxyCall) (name : String) (value : Option String) :
    (restProxyCallAddParam call name value).param name = some value :=
  gHashTableLookup_insert call.params name value

@[simp] theorem function_addParam (call : RestProxyCall) (name : String) (value : Option String) :
    (restProxyCallAddParam call name value).function = call.function := rfl

/-! ## libsoup -/

/-- A `SoupURI`. -/
structure SoupURI where
  scheme : String
  user : Option String := none
  password : Option String := none
  host : String
  port : Nat := 443
  path : String
  query : Option String := none
  fragment : Option String := none
  deriving DecidableEq, Repr

/-- `soup_uri_set_query`: the text is stored as it is. -/
def soupUriSetQuery (uri : SoupURI) (query : String) : SoupURI := { uri with query := some query }

/-- A `SoupMessage`. -/
structure SoupMessage where
  method : String
  uri : SoupURI
  deriving DecidableEq, Repr

/-! ## GFBGraphAuthorizer -/

/-- `GFBGraphAuthorizerInterface` over the private state `σ` of an
implementation; `ω` is what the services a refresh calls answer to it. -/
structure AuthorizerInterface (σ ω : Type) where
  processCall : σ → RestProxyCall → RestProxyCall
  processMessage : σ → SoupMessage → SoupMessage
  refreshAuthorization : σ → ω → σ × Bool × Option GError

/-- A `GFBGraphAuthorizer` in its present state, as its callers see it. -/
structure Authorizer where
  /-- `gfbgraph_authorizer_process_call`. -/
  processCall : RestProxyCall → RestProxyCall
  /-- `gfbgraph_authorizer_process_message`. -/
  processMessage : SoupMessage → SoupMessage

/-- An authorizer that attaches nothing. -/
def Authorizer.anonymous : Authorizer where
  processCall := id
  processMessage := id

/-- The authorizer of an implementation in a given state. -/
def AuthorizerInterface.at {σ ω : Type} (iface : AuthorizerInterface σ ω) (priv : σ) :
    Authorizer where
  processCall := iface.processCall priv
  processMessage := iface.processMessage priv

/-- `gfbgraph_new_rest_call`: a fresh call, processed by the authorizer. -/
def newRestCall (authorizer : Authorizer) : RestProxyCall :=
  authorizer.processCall restProxyNewCall

end GFBGraph
