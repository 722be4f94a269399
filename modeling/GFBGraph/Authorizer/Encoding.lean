import GFBGraph.Authorizer.Runs
import GFBGraph.Lib.Form

/-!
# GFBGraph.Authorizer.Encoding

Whether the two ways to authorize a request say the same.  `process_call`
hands the token to librest, which encodes it when the call is sent;
`process_message` concatenates it into the query of the message as it is.
What the server reads out of such a query is form decoding (`Lib.Form`), and
by the law of unencoded values it reads the token exactly when the token has
no `&`, `+` or `%`.
-/

namespace GFBGraph

open Lib

/-- The bytes of a text. -/
def utf8Bytes (s : String) : Form.Bytes := s.toUTF8.data.toList

/-- The value of a parameter in the query of a message, decoded as a form. -/
def formParam (message : SoupMessage) (name : String) : Option Form.Bytes :=
  message.uri.query.bind fun query => (Form.decode (utf8Bytes query)).lookup (utf8Bytes name)

/-- A fresh call and a message, both processed by the authorizer, carry the
same access token, or neither carries one. -/
def SameAuthorization (authorizer : Authorizer) (message : SoupMessage) : Prop :=
  formParam (authorizer.processMessage message) "access_token" =
    ((newRestCall authorizer).param "access_token").join.map utf8Bytes

theorem utf8Bytes_append (s t : String) : utf8Bytes (s ++ t) = utf8Bytes s ++ utf8Bytes t := by
  simp [utf8Bytes]

theorem plainName_accessToken : Form.PlainName (utf8Bytes "access_token") := by decide

/-- The query of a processed message is the token as an unencoded field; a
missing token leaves an empty value. -/
theorem query_processMessageWith (accessToken : Option String) (message : SoupMessage) :
    ∃ query, (processMessageWith accessToken message).uri.query = some query ∧
      utf8Bytes query =
        Form.field (utf8Bytes "access_token") (utf8Bytes (accessToken.getD "")) := by
  have hprefix : utf8Bytes "access_token=" = utf8Bytes "access_token" ++ [Form.equalsSign] := by
    decide
  refine ⟨_, rfl, ?_⟩
  rw [gStrconcat_accessToken, utf8Bytes_append, hprefix, Form.field, List.append_assoc,
    List.singleton_append]

/-- What the server reads from a processed message is the token, if that can
be written as it is. -/
theorem formParam_processMessageWith_iff (token : String) (message : SoupMessage) :
    formParam (processMessageWith (some token) message) "access_token" = some (utf8Bytes token) ↔
      Form.Verbatim (utf8Bytes token) := by
  obtain ⟨query, hquery, hfield⟩ := query_processMessageWith (some token) message
  rw [formParam, hquery, Option.bind_some, hfield]
  exact Form.lookup_decode_field_iff plainName_accessToken _

/-- Without a token the server reads an empty one. -/
theorem formParam_processMessageWith_none (message : SoupMessage) :
    formParam (processMessageWith none message) "access_token" = some [] := by
  obtain ⟨query, hquery, hfield⟩ := query_processMessageWith none message
  rw [formParam, hquery, Option.bind_some, hfield]
  exact (Form.lookup_decode_field_iff plainName_accessToken _).2 (by decide)

theorem sameAuthorization_simple_iff (token : String) (message : SoupMessage) :
    SameAuthorization (simpleAuthorizerIface.at { accessToken := some token }) message ↔
      Form.Verbatim (utf8Bytes token) := by
  have hcall : (newRestCall (simpleAuthorizerIface.at { accessToken := some token })).param
      "access_token" = some (some token) :=
    param_addParam restProxyNewCall "access_token" (some token)
  rw [SameAuthorization, hcall]
  exact formParam_processMessageWith_iff token message

theorem sameAuthorization_goa_iff (priv : GoaAuthorizerPrivate) (message : SoupMessage) :
    SameAuthorization (goaAuthorizerIface.at priv) message ↔
      ∃ token, priv.accessToken = some token ∧ Form.Verbatim (utf8Bytes token) := by
  rw [SameAuthorization, param_goaProcessCall_new]
  change formParam (processMessageWith priv.accessToken message) "access_token" = _ ↔ _
  cases htoken : priv.accessToken with
  | none =>
      rw [formParam_processMessageWith_none]
      simp
  | some token =>
      have hiff := formParam_processMessageWith_iff token message
      simpa using hiff

/-- **One authorization in two encodings**: for a simple authorizer with any
token, and for a GOA authorizer after any run, a processed call and a processed
message carry the same authorization exactly when there is a token and it has
no `&`, `+` or `%`. -/
theorem same_authorization_iff (message : SoupMessage) :
    (∀ token : String,
      SameAuthorization (simpleAuthorizerIface.at { accessToken := some token }) message ↔
        Form.Verbatim (utf8Bytes token)) ∧
    (∀ (goaObject : GoaObject) (ops : List (AuthorizerOp GoaAnswer)),
      let priv := goaMachine.run (goaAuthorizerNew goaObject) ops
      SameAuthorization (goaAuthorizerIface.at priv) message ↔
        ∃ token, priv.accessToken = some token ∧ Form.Verbatim (utf8Bytes token)) :=
  ⟨fun token => sameAuthorization_simple_iff token message,
    fun _ _ => sameAuthorization_goa_iff _ message⟩

/-- A message without a query. -/
def pictureMessage : SoupMessage where
  method := "GET"
  uri := { scheme := "https", host := "graph.facebook.com", path := "/me/picture" }

/-- The token `a&b`: the server reads `a` from the message. -/
theorem ampersand_token_cut :
    ¬ SameAuthorization (simpleAuthorizerIface.at { accessToken := some "a&b" })
      pictureMessage := by
  unfold SameAuthorization
  decide

end GFBGraph
