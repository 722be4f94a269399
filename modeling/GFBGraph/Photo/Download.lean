import GFBGraph.Lib.Ledger
import GFBGraph.Photo
import GFBGraph.Rest
import GFBGraph.Types

/-!
# GFBGraph.Photo.Download

`gfbgraph_photo_download_default_size`: the image behind the photo's `source`,
fetched with a libsoup session of its own.  The session has to outlive the
stream that is returned, so the reference to it is left to a weak notify of the
stream.
-/

namespace GFBGraph

open Lib

/-- A `SoupRequest`. -/
structure SoupRequest where
  uri : Option String
  /-- It is a `SoupRequestHTTP`. -/
  http : Bool
  deriving DecidableEq, Repr

/-- A `GInputStream`, by what it delivers. -/
structure GInputStream where
  data : List UInt8
  deriving DecidableEq, Repr

/-- What libsoup answers. -/
structure Soup where
  /-- `soup_requester_request`. -/
  requesterRequest : Option String → Except LibError SoupRequest
  /-- `soup_request_send`. -/
  requestSend : SoupRequest → Except LibError GInputStream

/-- What a download returns and sets. -/
structure DownloadResult where
  stream : Option GInputStream
  error : Option LibError := none
  deriving DecidableEq, Repr

/-- The variables of `gfbgraph_photo_download_default_size` that hold references. -/
inductive DownloadRef where
  | session
  | requester
  | request
  | message
  | stream
  deriving DecidableEq, Repr

open Owning (acquire release give giveNew)

/-- `gfbgraph_photo_download_default_size`.  The authorizer is not used. -/
def photoDownloadDefaultSize (types : TypeRegistry) (soup : Soup) (photo : Node)
    (_authorizer : Authorizer) : Owning DownloadRef DownloadResult :=
  if types.isA photo.gtype typePhoto = false then pure { stream := none }
  else do
    acquire .session
    acquire .requester
    let result ← match soup.requesterRequest photo.photo.source with
      | .error e => pure { stream := none, error := some e }
      | .ok request => do
          acquire .request
          if request.http then acquire .message
          let result ← match soup.requestSend request with
            | .error e => pure { stream := none, error := some e }
            | .ok stream => do
                giveNew [.stream]
                -- the weak notify of the stream unrefs the session
                give .session
                pure { stream := some stream }
          if request.http then release .message
          release .request
          pure result
    release .requester
    pure result

/-- **References of a download**: all are released or the caller's, except that
the session is kept for ever when a download fails. -/
theorem settle_photoDownloadDefaultSize (types : TypeRegistry) (soup : Soup) (photo : Node)
    (authorizer : Authorizer) :
    RefAction.settle ∅ (photoDownloadDefaultSize types soup photo authorizer).actions =
      some (if (photoDownloadDefaultSize types soup photo authorizer).value.error = none then ∅
        else {.session}) := by
  unfold photoDownloadDefaultSize
  split
  · rfl
  · cases hrequest : soup.requesterRequest photo.photo.source with
    | error e => rfl
    | ok request =>
        obtain ⟨uri, http⟩ := request
        cases hsend : soup.requestSend ⟨uri, http⟩ with
        | error e => cases http <;> simp [hsend] <;> rfl
        | ok stream => cases http <;> simp [hsend] <;> rfl

end GFBGraph
