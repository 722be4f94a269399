import GFBGraph.Lib.Machine
import GFBGraph.Lib.Memo
import GFBGraph.Lib.Register
import GFBGraph.Lib.Task
import GFBGraph.Lib.Outcome
import GFBGraph.Lib.Session
import GFBGraph.Lib.Scan
import GFBGraph.Lib.Query
import GFBGraph.Lib.Form
import GFBGraph.Lib.Hierarchy
import GFBGraph.Lib.Record
import GFBGraph.Lib.Monitor
import GFBGraph.Lib.HeapField
import GFBGraph.Lib.LazyCell
import GFBGraph.Lib.Ledger
import GFBGraph.Lib.Owners
import GFBGraph.Lib.RefCount
import GFBGraph.Glib
import GFBGraph.Json
import GFBGraph.Object
import GFBGraph.Object.Properties
import GFBGraph.Photo
import GFBGraph.Photo.Cache
import GFBGraph.Photo.Selection
import GFBGraph.Photo.Threads
import GFBGraph.Photo.Order
import GFBGraph.Photo.Serializable
import GFBGraph.Photo.RoundTrip
import GFBGraph.Photo.Memory
import GFBGraph.Object.Decoding
import GFBGraph.Object.RoundTrip
import GFBGraph.Rest
import GFBGraph.Authorizer
import GFBGraph.Authorizer.Runs
import GFBGraph.Authorizer.Encoding
import GFBGraph.Authorizer.Query
import GFBGraph.Authorizer.Threads
import GFBGraph.Connectable
import GFBGraph.Types
import GFBGraph.Photo.Download
import GFBGraph.Graph
import GFBGraph.Graph.Gating
import GFBGraph.Graph.Parsing
import GFBGraph.Graph.Lists
import GFBGraph.Graph.Subtyping
import GFBGraph.Graph.Errors
import GFBGraph.Graph.Ids
import GFBGraph.Graph.Threads
import GFBGraph.Graph.PostParams
import GFBGraph.Graph.Inheritance
import GFBGraph.Graph.Authorization
import GFBGraph.Graph.Photos
import GFBGraph.Async
import GFBGraph.Graph.Ownership
import GFBGraph.Async.Agreement
import GFBGraph.Async.Sessions
import GFBGraph.Async.Lifetime
