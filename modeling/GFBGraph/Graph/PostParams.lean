import GFBGraph.Authorizer
import GFBGraph.Graph.Gating
import GFBGraph.Lib.Register
import GFBGraph.Photo.Cache

/-!
# GFBGraph.Graph.PostParams

What a `POST` carries.  Its parameters are those of the authorizer and then,
in whatever order the hash-table iterator yields them, the entries an
implementation of the interface made of the node's fields.  An entry is made of
the name of an album, and of a photo, whether it is set or not; so the call
carries the set fields exactly after the runs that leave the name set.
-/

namespace GFBGraph

open Lib

/-! ## the parameters of a call -/

/-- An authorizer that holds a token and attaches it to every call. -/
structure TokenAuthorizer where
  authorizer : Authorizer
  token : String
  processCall_eq : ∀ call, authorizer.processCall call =
    restProxyCallAddParam call "access_token" (some token)

/-- A simple authorizer with a token. -/
def simpleTokenAuthorizer (token : String) : TokenAuthorizer where
  authorizer := simpleAuthorizerIface.at { accessToken := some token }
  token := token
  processCall_eq _ := rfl

@[simp] theorem param_addParam_ne (call : RestProxyCall) {name name' : String}
    (value : Option String) (h : name ≠ name') :
    (restProxyCallAddParam call name' value).param name = call.param name :=
  gHashTableLookup_insert_ne call.params value h

/-- A parameter that is not among the entries is left alone. -/
theorem param_foldl_of_notMem {entries : List (String × Option String)} {name : String}
    (h : name ∉ entries.map Prod.fst) (call : RestProxyCall) :
    (entries.foldl (fun call entry => restProxyCallAddParam call entry.1 entry.2) call).param
        name = call.param name := by
  induction entries generalizing call with
  | nil => rfl
  | cons entry entries ih =>
      rw [List.map_cons, List.mem_cons, not_or] at h
      rw [List.foldl_cons, ih h.2, param_addParam_ne _ _ h.1]

/-- Entries of different names are all there in the end. -/
theorem param_foldl_of_mem {entries : List (String × Option String)} {name : String}
    {value : Option String} (hnodup : (entries.map Prod.fst).Nodup)
    (h : (name, value) ∈ entries) (call : RestProxyCall) :
    (entries.foldl (fun call entry => restProxyCallAddParam call entry.1 entry.2) call).param
        name = some value := by
  induction entries generalizing call with
  | nil => contradiction
  | cons entry entries ih =>
      rw [List.map_cons, List.nodup_cons] at hnodup
      rw [List.foldl_cons]
      cases List.mem_cons.1 h with
      | inl heq =>
          cases heq
          rw [param_foldl_of_notMem hnodup.1, param_addParam]
      | inr hlater => exact ih hnodup.2 hlater _

/-- **Spec lemma** of the loop: in every order of the entries, a parameter is
what the table says, or what it was before. -/
theorem param_addPostParams (env : Env) (table : GHashTable (Option String))
    (call : RestProxyCall) (name : String) :
    (addPostParams env (some table) call).param name =
      (gHashTableLookup table name).or (call.param name) := by
  have hperm := env.iter_perm table
  have hnodup : ((env.iter table).map Prod.fst).Nodup :=
    (hperm.map Prod.fst).nodup_iff.2 table.nodup_keys_pairs
  have hmem : ∀ value, (name, value) ∈ env.iter table ↔
      gHashTableLookup table name = some value :=
    fun value => hperm.mem_iff.trans (table.mem_pairs_iff name value)
  rw [addPostParams]
  cases hlookup : gHashTableLookup table name with
  | some value =>
      have hentry := (hmem value).2 hlookup
      have hsize : gHashTableSize (some table) > 0 := by
        have hpair := (table.mem_pairs_iff name value).2 hlookup
        have hlength := List.length_pos_of_mem hpair
        rwa [GHashTable.pairs, List.length_map] at hlength
      rw [if_pos hsize, param_foldl_of_mem hnodup hentry, Option.some_or]
  | none =>
      have hnotMem : name ∉ (env.iter table).map Prod.fst := by
        intro hin
        obtain ⟨entry, hentry, hname⟩ := List.mem_map.1 hin
        rw [← hname] at hmem hlookup
        rw [(hmem entry.2).1 hentry] at hlookup
        contradiction
      rw [Option.none_or]
      split
      · exact param_foldl_of_notMem hnotMem call
      · rfl

/-! ## the set fields -/

/-- What a call is expected to carry: the token, and a parameter for each field
that is set. -/
def expectedParams (token : String) (fields : String → Option String) : String → Option String :=
  fun name => if name = "access_token" then some token else fields name

/-- The field of an album that goes to a parameter. -/
def albumFields (album : Node) : String → Option String :=
  fun name =>
    if name = "name" then album.album.name
    else if name = "message" then album.album.description
    else none

/-- The field of a photo that goes to a parameter. -/
def photoFields (photo : Node) : String → Option String :=
  fun name => if name = "message" then photo.photo.name else none

/-- The `POST` that appends `connectNode` to `node` carries exactly the expected
parameters, and `rest_proxy_call_add_param` is given no `NULL` for it. -/
def CarriesExactly (env : Env) (holder : TokenAuthorizer) (node connectNode : Node)
    (fields : String → Option String) : Prop :=
  (∀ name, (appendCall env holder.authorizer node connectNode).param name =
    (expectedParams holder.token fields name).map some) ∧
  ∀ params, connectableGetConnectionPostParams env.types connectNode node.gtype = some params →
    ∀ entry ∈ env.iter params, entry.2 ≠ none

section

variable {env : Env} (holder : TokenAuthorizer)

/-- Reduced to the table of the implementation. -/
theorem carriesExactly_iff {node connectNode : Node} {table : GHashTable (Option String)}
    (h : connectableGetConnectionPostParams env.types connectNode node.gtype = some table)
    (fields : String → Option String) :
    CarriesExactly env holder node connectNode fields ↔
      (∀ name, (gHashTableLookup table name).or
          (if name = "access_token" then some (some holder.token) else none) =
        (expectedParams holder.token fields name).map some) ∧
      ∀ name, gHashTableLookup table name ≠ some none := by
  have hparam : ∀ name, (appendCall env holder.authorizer node connectNode).param name =
      (gHashTableLookup table name).or
        (if name = "access_token" then some (some holder.token) else none) := by
    intro name
    rw [appendCall, h, param_addPostParams]
    congr 1
    change (newRestCall holder.authorizer).param name = _
    rw [newRestCall, holder.processCall_eq]
    by_cases hname : name = "access_token"
    · rw [if_pos hname, hname, param_addParam]
    · rw [if_neg hname, param_addParam_ne _ _ hname, param_restProxyNewCall]
  have hentries : (∀ entry ∈ env.iter table, entry.2 ≠ none) ↔
      ∀ name, gHashTableLookup table name ≠ some none := by
    have hmem : ∀ entry, entry ∈ env.iter table ↔ gHashTableLookup table entry.1 = some entry.2 :=
      fun entry => (env.iter_perm table).mem_iff.trans (table.mem_pairs_iff entry.1 entry.2)
    constructor
    · exact fun hall name hnull => hall (name, none) ((hmem (name, none)).2 hnull) rfl
    · intro hall entry hentry hnull
      have hlookup := (hmem entry).1 hentry
      rw [hnull] at hlookup
      exact hall entry.1 hlookup
  rw [CarriesExactly, h]
  simp only [hparam, Option.some.injEq, forall_eq', hentries]

/-- A table with an entry for `key`, whether that field is set or not, and for
the other fields that are set: the call carries the set fields exactly when
`key` is one of them. -/
theorem carriesExactly_iff_of_entry {node connectNode : Node} {table : GHashTable (Option String)}
    (h : connectableGetConnectionPostParams env.types connectNode node.gtype = some table)
    {fields : String → Option String} {key : String}
    (hlookup : ∀ name, gHashTableLookup table name =
      if name = key then some (fields key) else (fields name).map some)
    (htoken : fields "access_token" = none) (hkey : key ≠ "access_token") :
    CarriesExactly env holder node connectNode fields ↔ fields key ≠ none := by
  rw [carriesExactly_iff holder h]
  simp only [hlookup, expectedParams]
  constructor
  · intro hall hnull
    have hentry := hall.2 key
    simp [hnull] at hentry
  · intro hset
    obtain ⟨value, hvalue⟩ := Option.ne_none_iff_exists'.1 hset
    constructor
    · intro name
      by_cases hname : name = key
      · simp [hname, hvalue, hkey]
      · by_cases haccess : name = "access_token"
        · simp [haccess, htoken, hkey.symm]
        · simp [hname, haccess]
    · intro name
      by_cases hname : name = key <;> simp [hname, hvalue]

/-- An album has an entry for its name, and one for its description if that is
set. -/
theorem lookup_albumParams (self : Node) (nodeType : GType) :
    ∃ table, albumGetConnectionPostParams self nodeType = some table ∧
      ∀ name, gHashTableLookup table name =
        if name = "name" then some (albumFields self "name")
        else (albumFields self name).map some := by
  have hname : ∀ name, gHashTableLookup (gHashTableInsert gHashTableNew "name" self.album.name)
      name = if name = "name" then some self.album.name else none := by
    intro name
    by_cases h : name = "name"
    · rw [if_pos h, h, gHashTableLookup_insert]
    · rw [if_neg h, gHashTableLookup_insert_ne _ _ h, gHashTableLookup_new]
  unfold albumGetConnectionPostParams albumFields
  cases self.album.description with
  | none =>
      refine ⟨_, rfl, fun name => ?_⟩
      rw [hname]
      by_cases h : name = "name" <;> simp [h]
  | some description =>
      refine ⟨_, rfl, fun name => ?_⟩
      by_cases h : name = "message"
      · simp [h]
      · rw [gHashTableLookup_insert_ne _ _ h, hname]
        by_cases h' : name = "name" <;> simp [h, h']

/-- A photo has an entry for its name. -/
theorem lookup_photoParams (self : Node) (nodeType : GType) :
    ∃ table, photoGetConnectionPostParams self nodeType = some table ∧
      ∀ name, gHashTableLookup table name =
        if name = "message" then some (photoFields self "message")
        else (photoFields self name).map some := by
  unfold photoGetConnectionPostParams photoFields
  refine ⟨_, rfl, fun name => ?_⟩
  by_cases h : name = "message"
  · simp [h]
  · rw [gHashTableLookup_insert_ne _ _ h, gHashTableLookup_new]
    simp [h]

/-- A connected pair passes the guards. -/
theorem getConnectionPostParams_of_connection {connectNode : Node} {nodeType : GType}
    {path : String} {iface : ConnectableInterface} (htype : env.types.isA nodeType typeNode = true)
    (hconn : env.types.connection connectNode.gtype nodeType = some path)
    (hiface : env.types.iface connectNode.gtype = some iface) :
    connectableGetConnectionPostParams env.types connectNode nodeType =
      iface.getConnectionPostParams connectNode nodeType := by
  rw [connectableGetConnectionPostParams, postParamsGuards_eq connectNode htype, hconn, hiface]
  rfl

theorem carriesExactly_album_iff (node : env.types.NodeInstance) {album : Node} {path : String}
    (halbum : album.gtype = typeAlbum)
    (hconn : env.types.connection typeAlbum node.node.gtype = some path) :
    CarriesExactly env holder node.node album (albumFields album) ↔ album.album.name ≠ none := by
  obtain ⟨table, htable, hlookup⟩ := lookup_albumParams album node.node.gtype
  have hiface : env.types.iface album.gtype = some albumConnectableIface := by
    rw [halbum, TypeRegistry.iface_typeAlbum]
  rw [← halbum] at hconn
  have hparams := (getConnectionPostParams_of_connection node.isNode hconn hiface).trans htable
  have htoken : albumFields album "access_token" = none := by simp [albumFields]
  exact carriesExactly_iff_of_entry holder hparams hlookup htoken (by decide)

theorem carriesExactly_photo_iff (node : env.types.NodeInstance) {photo : Node} {path : String}
    (hphoto : photo.gtype = typePhoto)
    (hconn : env.types.connection typePhoto node.node.gtype = some path) :
    CarriesExactly env holder node.node photo (photoFields photo) ↔ photo.photo.name ≠ none := by
  obtain ⟨table, htable, hlookup⟩ := lookup_photoParams photo node.node.gtype
  have hiface : env.types.iface photo.gtype = some photoConnectableIface := by
    rw [hphoto, TypeRegistry.iface_typePhoto]
  rw [← hphoto] at hconn
  have hparams := (getConnectionPostParams_of_connection node.isNode hconn hiface).trans htable
  have htoken : photoFields photo "access_token" = none := by simp [photoFields]
  exact carriesExactly_iff_of_entry holder hparams hlookup htoken (by decide)

end

/-! ## runs of an album and of a photo -/

/-- `gfbgraph_album_new`. -/
def albumNew : Node := gObjectNew typeAlbum

/-- The property writes of an album. -/
inductive AlbumOp where
  | setNodeProperty (property : NodeProperty)
  | setProperty (property : AlbumProperty)

/-- An album as a machine. -/
def albumMachine : Machine Node AlbumOp Unit where
  step album op :=
    match op with
    | .setNodeProperty property =>
        ({ album with priv := nodeSetProperty album.priv property }, ())
    | .setProperty property =>
        ({ album with album := albumSetProperty album.album property }, ())

/-- The name of an album is a register. -/
def albumNameRegister : albumMachine.Register (Option String) where
  get album := album.album.name
  write _ op :=
    match op with
    | .setProperty (.name value) => some value
    | _ => none
  get_next album op := by
    cases op with
    | setNodeProperty property => rfl
    | setProperty property => cases property <;> rfl

/-- The name of a photo is one. -/
def photoNameRegister : photoMachine.Register (Option String) where
  get photo := photo.photo.name
  write _ op :=
    match op with
    | .setProperty (.name value) => some value
    | _ => none
  get_next photo op := by
    cases op with
    | setProperty property => cases property <;> rfl
    | getImageHires =>
        obtain ⟨hiresImage, hphoto⟩ := photoGetImageHires_fst photo
        exact congrArg (fun photo => photo.photo.name) hphoto
    | _ => rfl

theorem gtype_albumRun (ops : List AlbumOp) :
    (albumMachine.run albumNew ops).gtype = typeAlbum := by
  have hstep : ∀ album op, album.gtype = typeAlbum →
      (albumMachine.next album op).gtype = typeAlbum := by
    intro album op h
    cases op <;> exact h
  exact albumMachine.run_of_step hstep rfl ops

theorem gtype_photoRun (ops : List PhotoOp) :
    (photoMachine.run photoNew ops).gtype = typePhoto := by
  have hstep : ∀ photo op, photo.gtype = typePhoto →
      (photoMachine.next photo op).gtype = typePhoto := by
    intro photo op h
    cases op with
    | getImageHires =>
        obtain ⟨hiresImage, hphoto⟩ := photoGetImageHires_fst photo
        exact (congrArg Node.gtype hphoto).trans h
    | _ => exact h
  exact photoMachine.run_of_step hstep rfl ops

/-- The last write of the name wrote one. -/
def LastNamed {σ ι ο : Type} {m : Machine σ ι ο} (reg : m.Register (Option String)) (new : σ)
    (ops : List ι) : Prop :=
  ∃ name, reg.LastWrite new ops (some name)

/-- A name that starts out `NULL` is set when its last write set it. -/
theorem get_run_ne_none_iff {σ ι ο : Type} {m : Machine σ ι ο} (reg : m.Register (Option String))
    {new : σ} (hnew : reg.get new = none) (ops : List ι) :
    reg.get (m.run new ops) ≠ none ↔ LastNamed reg new ops := by
  rw [Option.ne_none_iff_exists']
  refine exists_congr fun name => ?_
  rw [reg.get_run_iff, hnew]
  simp

/-- **A `POST` carries exactly the set fields** — for albums and photos after
any run of property writes, any authorizer that holds a token and any order of
iteration — exactly when the last write of the name wrote one. -/
theorem post_params_exact_iff (env : Env) (holder : TokenAuthorizer)
    (node : env.types.NodeInstance) :
    (∀ path, env.types.connection typeAlbum node.node.gtype = some path →
      ∀ ops : List AlbumOp,
        let album := albumMachine.run albumNew ops
        CarriesExactly env holder node.node album (albumFields album) ↔
          LastNamed albumNameRegister albumNew ops) ∧
    (∀ path, env.types.connection typePhoto node.node.gtype = some path →
      ∀ ops : List PhotoOp,
        let photo := photoMachine.run photoNew ops
        CarriesExactly env holder node.node photo (photoFields photo) ↔
          LastNamed photoNameRegister photoNew ops) := by
  constructor
  · intro path hconn ops
    rw [← get_run_ne_none_iff albumNameRegister rfl]
    exact carriesExactly_album_iff holder node (gtype_albumRun ops) hconn
  · intro path hconn ops
    rw [← get_run_ne_none_iff photoNameRegister rfl]
    exact carriesExactly_photo_iff holder node (gtype_photoRun ops) hconn

/-- An album that was given a name. -/
theorem post_params_named_album :
    let album := albumMachine.run albumNew [.setProperty (.name (some "Holidays"))]
    CarriesExactly (.answering "") (simpleTokenAuthorizer "token") (gObjectNew typeUser) album
      (albumFields album) := by
  let env : Env := .answering ""
  let user : env.types.NodeInstance := ⟨gObjectNew typeUser, TypeRegistry.isA_typeUser⟩
  have hconn : env.types.connection typeAlbum user.node.gtype = some "albums" := rfl
  refine ((post_params_exact_iff env (simpleTokenAuthorizer "token") user).1 _ hconn _).2 ?_
  exact ⟨"Holidays", [], _, [], rfl, rfl, trivial⟩

/-- A new album: `name` is added without a value. -/
theorem post_params_new_album :
    ¬ CarriesExactly (.answering "") (simpleTokenAuthorizer "token") (gObjectNew typeUser) albumNew
      (albumFields albumNew) := by
  intro h
  have hname := h.1 "name"
  exact absurd hname (by decide)

end GFBGraph
