import GFBGraph.Rest

/-!
# GFBGraph.Authorizer

The two authorizers of the library: `GFBGraphSimpleAuthorizer`, which is given
its token, and `GFBGraphGoaAuthorizer`, which obtains it from GNOME Online
Accounts.  Every operation runs under the authorizer's mutex, so an operation
is one step on its private state.
-/

namespace GFBGraph

/-- What `process_message` of either authorizer does: whatever the token holds
is put into the query as it is. -/
def processMessageWith (accessToken : Option String) (message : SoupMessage) : SoupMessage :=
  let authValue := gStrconcat [some "access_token=", accessToken, none]
  { message with uri := soupUriSetQuery message.uri authValue }

/-- A missing token leaves an empty value. -/
theorem gStrconcat_accessToken (accessToken : Option String) :
    gStrconcat [some "access_token=", accessToken, none] =
      "access_token=" ++ accessToken.getD "" := by
  cases accessToken with
  | none => rfl
  | some token => simp [gStrconcat]

/-! ## GFBGraphSimpleAuthorizer -/

/-- `GFBGraphSimpleAuthorizerPrivate`. -/
structure SimpleAuthorizerPrivate where
  accessToken : Option String := none
  deriving DecidableEq, Repr

/-- `gfbgraph_simple_authorizer_set_property` on its only property. -/
def simpleAuthorizerSetProperty (priv : SimpleAuthorizerPrivate) (value : Option String) :
    SimpleAuthorizerPrivate := { priv with accessToken := value }

/-- `gfbgraph_simple_authorizer_new`. -/
def simpleAuthorizerNew : Option String → Option SimpleAuthorizerPrivate
  | none => none
  | some accessToken => some (simpleAuthorizerSetProperty {} (some accessToken))

/-- `gfbgraph_simple_authorizer_process_call`. -/
def simpleAuthorizerProcessCall (priv : SimpleAuthorizerPrivate) (call : RestProxyCall) :
    RestProxyCall := restProxyCallAddParam call "access_token" priv.accessToken

/-- `gfbgraph_simple_authorizer_process_message`. -/
def simpleAuthorizerProcessMessage (priv : SimpleAuthorizerPrivate) (message : SoupMessage) :
    SoupMessage := processMessageWith priv.accessToken message

/-- `gfbgraph_simple_authorizer_refresh_authorization`. -/
def simpleAuthorizerRefreshAuthorization (priv : SimpleAuthorizerPrivate) (_ : Unit) :
    SimpleAuthorizerPrivate × Bool × Option GError := (priv, false, none)

/-- `gfbgraph_simple_authorizer_iface_init`. -/
def simpleAuthorizerIface : AuthorizerInterface SimpleAuthorizerPrivate Unit where
  processCall := simpleAuthorizerProcessCall
  processMessage := simpleAuthorizerProcessMessage
  refreshAuthorization := simpleAuthorizerRefreshAuthorization

/-! ## GFBGraphGoaAuthorizer -/

/-- A `GoaObject`: which of the two interfaces the authorizer needs it has. -/
structure GoaObject where
  account : Bool
  oauth2Based : Bool
  deriving DecidableEq, Repr

/-- `GFBGraphGoaAuthorizerPrivate`. -/
structure GoaAuthorizerPrivate where
  goaObject : Option GoaObject := none
  accessToken : Option String := none
  deriving DecidableEq, Repr

/-- What GNOME Online Accounts answers to one refresh.  The token is written to
the out parameter on success only. -/
structure GoaAnswer where
  /-- `goa_account_call_ensure_credentials_sync`. -/
  ensureCredentials : Except LibError Unit
  /-- `goa_oauth2_based_call_get_access_token_sync`. -/
  getAccessToken : Except LibError String

/-- `gfbgraph_goa_authorizer_set_goa_object`. -/
def goaAuthorizerSetGoaObject (priv : GoaAuthorizerPrivate) (goaObject : GoaObject) :
    GoaAuthorizerPrivate :=
  if goaObject.oauth2Based = false then priv
  else if goaObject.account = false then priv
  else { priv with goaObject := some goaObject }

/-- `gfbgraph_goa_authorizer_new`. -/
def goaAuthorizerNew (goaObject : GoaObject) : GoaAuthorizerPrivate :=
  goaAuthorizerSetGoaObject {} goaObject

/-- `gfbgraph_goa_authorizer_process_call`. -/
def goaAuthorizerProcessCall (priv : GoaAuthorizerPrivate) (call : RestProxyCall) :
    RestProxyCall :=
  match priv.accessToken with
  | none => call
  | some accessToken => restProxyCallAddParam call "access_token" (some accessToken)

/-- `gfbgraph_goa_authorizer_process_message`. -/
def goaAuthorizerProcessMessage (priv : GoaAuthorizerPrivate) (message : SoupMessage) :
    SoupMessage := processMessageWith priv.accessToken message

/-- `gfbgraph_goa_authorizer_refresh_authorization`.  Without an account a guard
of GIO refuses the first call, and sets no error. -/
def goaAuthorizerRefreshAuthorization (priv : GoaAuthorizerPrivate) (answer : GoaAnswer) :
    GoaAuthorizerPrivate × Bool × Option GError :=
  let priv := { priv with accessToken := none }
  match priv.goaObject with
  | none => (priv, false, none)
  | some _ =>
      match answer.ensureCredentials with
      | .error e => (priv, false, some (.goa e))
      | .ok () =>
          match answer.getAccessToken with
          | .error e => (priv, false, some (.goa e))
          | .ok accessToken => ({ priv with accessToken := some accessToken }, true, none)

/-- `gfbgraph_goa_authorizer_iface_init`. -/
def goaAuthorizerIface : AuthorizerInterface GoaAuthorizerPrivate GoaAnswer where
  processCall := goaAuthorizerProcessCall
  processMessage := goaAuthorizerProcessMessage
  refreshAuthorization := goaAuthorizerRefreshAuthorization

end GFBGraph
