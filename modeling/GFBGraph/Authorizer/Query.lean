import GFBGraph.Authorizer
import GFBGraph.Lib.Query

/-!
# GFBGraph.Authorizer.Query

What `process_message` does to the query of a message.  It is documented to
add the authorization; it replaces the query by the token's field, so that the
parameters a message came with are gone.  They are all there again only if the
token itself spells them after an `&`.
-/

namespace GFBGraph

open Lib

/-- The marks of a query. -/
def queryMarks : Query.Marks Char where
  separator := '&'
  assignment := '='
  separator_ne := by decide

/-- The name of the parameter that carries a token. -/
def accessTokenName : List Char := "access_token".toList

/-- The pairs in the query of a URI. -/
def queryPairs (uri : SoupURI) : List (List Char × List Char) :=
  Query.pairs queryMarks (uri.query.getD "").toList

/-- The pairs that are not a token. -/
def otherPairs (uri : SoupURI) : List (List Char × List Char) :=
  (queryPairs uri).filter fun pair => pair.1 ≠ accessTokenName

/-- The message after is the message before with an authorization added: the
other pairs are still in the query, in their order, beside exactly one token,
and nothing else has changed. -/
def OnlyAddsAuthorization (before after : SoupMessage) : Prop :=
  (otherPairs before.uri).Sublist (queryPairs after.uri) ∧
    (queryPairs after.uri).countP (fun pair => pair.1 = accessTokenName) = 1 ∧
    after = { before with uri := { before.uri with query := after.uri.query } }

instance (before after : SoupMessage) : Decidable (OnlyAddsAuthorization before after) :=
  inferInstanceAs (Decidable (_ ∧ _))

/-- The pairs that a token spells after its first `&`. -/
def tokenPairs (accessToken : Option String) : List (List Char × List Char) :=
  Query.pairsAfter queryMarks (accessToken.getD "").toList

/-- The token spells the other pairs of the query, and no second token. -/
def TokenRestores (accessToken : Option String) (uri : SoupURI) : Prop :=
  (otherPairs uri).Sublist (tokenPairs accessToken) ∧
    ∀ pair ∈ tokenPairs accessToken, pair.1 ≠ accessTokenName

/-! ## queries -/

theorem plainName_accessTokenName : Query.PlainName queryMarks accessTokenName where
  separator := by decide
  assignment := by decide

/-- Every list of plain pairs can be a query. -/
theorem queryPairs_of_render {list : List (List Char × List Char)}
    (h : ∀ pair ∈ list, Query.PlainPair queryMarks pair) {uri : SoupURI}
    (hquery : uri.query = some (String.ofList (Query.render queryMarks list))) :
    queryPairs uri = list := by
  rw [queryPairs, hquery, Option.getD_some, String.toList_ofList]
  exact Query.pairs_render h

theorem name_ne_of_mem_otherPairs {uri : SoupURI} {pair : List Char × List Char}
    (h : pair ∈ otherPairs uri) : pair.1 ≠ accessTokenName :=
  of_decide_eq_true (List.mem_filter.1 h).2

/-- A token without `&` restores nothing: all pairs of the query must be
tokens. -/
theorem tokenRestores_iff_of_notMem {token : String} (h : '&' ∉ token.toList) (uri : SoupURI) :
    TokenRestores (some token) uri ↔ ∀ pair ∈ queryPairs uri, pair.1 = accessTokenName := by
  have hnil : tokenPairs (some token) = [] := Query.pairsAfter_of_notMem h
  rw [TokenRestores, hnil, List.sublist_nil, otherPairs, List.filter_eq_nil_iff]
  simp

/-! ## processed messages -/

/-- The query of a processed message: the token up to its first `&`, then what
the token spells. -/
theorem queryPairs_processMessageWith (accessToken : Option String) (message : SoupMessage) :
    queryPairs (processMessageWith accessToken message).uri =
      (accessTokenName, (accessToken.getD "").toList.takeWhile (· ≠ '&')) ::
        tokenPairs accessToken := by
  have hprefix : "access_token=".toList = accessTokenName ++ [queryMarks.assignment] := by decide
  have htext : ("access_token=" ++ accessToken.getD "").toList =
      Query.field queryMarks (accessTokenName, (accessToken.getD "").toList) := by
    rw [String.toList_append, hprefix, Query.field, List.append_assoc, List.singleton_append]
  rw [queryPairs, processMessageWith, soupUriSetQuery, Option.getD_some, gStrconcat_accessToken,
    htext]
  exact Query.pairs_field plainName_accessTokenName _

/-- **Spec lemma** of what both authorizers do to a message. -/
theorem onlyAddsAuthorization_processMessageWith_iff (accessToken : Option String)
    (message : SoupMessage) :
    OnlyAddsAuthorization message (processMessageWith accessToken message) ↔
      TokenRestores accessToken message.uri := by
  have hframe : processMessageWith accessToken message =
      { message with uri :=
        { message.uri with query := (processMessageWith accessToken message).uri.query } } := rfl
  rw [OnlyAddsAuthorization, queryPairs_processMessageWith, TokenRestores]
  constructor
  · intro h
    obtain ⟨hsublist, hcount, -⟩ := h
    constructor
    · cases List.sublist_cons_iff.1 hsublist with
      | inl htail => exact htail
      | inr hhead =>
          -- the token of the message is not one of the other pairs
          obtain ⟨rest, hrest, -⟩ := hhead
          have hmem : (accessTokenName, (accessToken.getD "").toList.takeWhile (· ≠ '&')) ∈
              otherPairs message.uri := by
            rw [hrest]
            exact List.mem_cons_self
          exact absurd rfl (name_ne_of_mem_otherPairs hmem)
    · rw [List.countP_cons_of_pos (by simp)] at hcount
      have hzero := List.countP_eq_zero.1 (Nat.succ.inj hcount)
      simpa using hzero
  · intro h
    refine ⟨List.Sublist.cons _ h.1, ?_, hframe⟩
    have hzero : (tokenPairs accessToken).countP (fun pair => pair.1 = accessTokenName) = 0 :=
      List.countP_eq_zero.2 (by simpa using h.2)
    rw [List.countP_cons_of_pos (by simp), hzero]

/-- A query that lists some pairs, under a token without `&`. -/
theorem onlyAddsAuthorization_render_iff {list : List (List Char × List Char)}
    (h : ∀ pair ∈ list, Query.PlainPair queryMarks pair) {token : String}
    (htoken : '&' ∉ token.toList) {message : SoupMessage}
    (hquery : message.uri.query = some (String.ofList (Query.render queryMarks list))) :
    OnlyAddsAuthorization message (processMessageWith (some token) message) ↔
      ∀ pair ∈ list, pair.1 = accessTokenName := by
  rw [onlyAddsAuthorization_processMessageWith_iff, tokenRestores_iff_of_notMem htoken,
    queryPairs_of_render h hquery]

/-- **Added or replaced**: for both authorizers, whatever their token, a
processed message has the authorization added exactly when the token restores
the pairs of its query — for a token without `&`, when the query has no pair
but tokens. -/
theorem process_message_adds_iff (message : SoupMessage) :
    (∀ priv : SimpleAuthorizerPrivate,
      OnlyAddsAuthorization message ((simpleAuthorizerIface.at priv).processMessage message) ↔
        TokenRestores priv.accessToken message.uri) ∧
    (∀ priv : GoaAuthorizerPrivate,
      OnlyAddsAuthorization message ((goaAuthorizerIface.at priv).processMessage message) ↔
        TokenRestores priv.accessToken message.uri) :=
  ⟨fun priv => onlyAddsAuthorization_processMessageWith_iff priv.accessToken message,
    fun priv => onlyAddsAuthorization_processMessageWith_iff priv.accessToken message⟩

/-- A message that asks for some fields. -/
def fieldsMessage : SoupMessage where
  method := "GET"
  uri := { scheme := "https", host := "graph.facebook.com", path := "/me",
           query := some "fields=name" }

/-- Its query is lost under the token `token`. -/
theorem process_message_drops_fields :
    ¬ OnlyAddsAuthorization fieldsMessage
      ((simpleAuthorizerIface.at { accessToken := some "token" }).processMessage
        fieldsMessage) := by
  decide

end GFBGraph
