import GFBGraph.Authorizer.Runs
import GFBGraph.Lib.HeapField

/-!
# GFBGraph.Authorizer.Threads

The authorizers below the level of operations.  `access_token` is a pointer to
a heap string; the operations test it, read it, free it and assign to it one
after the other, and other threads may move in between.  The interface
documents its three functions as thread safe.

Every function of `GFBGraphGoaAuthorizer` runs under its mutex, and every
schedule of any threads turns out to be a serial run of
`goaAuthorizerIface` (`goa_threads_serial`).  `GFBGraphSimpleAuthorizer` locks
in `process_call` and `process_message`, but not in the functions of its
property; which clients may share a new one is `simple_threads_safe_iff`.
-/

namespace GFBGraph

open Lib

/-! ## requests to an authorizer -/

/-- A call of one of the interface's functions. -/
inductive AuthorizerRequest (ω : Type) where
  | processCall (call : RestProxyCall)
  | processMessage (message : SoupMessage)
  | refreshAuthorization (answer : ω)

/-- What it leaves in its argument, or returns. -/
inductive AuthorizerReply where
  | call (call : RestProxyCall)
  | message (message : SoupMessage)
  | refreshed (success : Bool) (error : Option GError)

/-- The function of an implementation that a request reaches. -/
def AuthorizerInterface.serve {σ ω : Type} (iface : AuthorizerInterface σ ω) (priv : σ) :
    AuthorizerRequest ω → σ × AuthorizerReply
  | .processCall call => (priv, .call (iface.processCall priv call))
  | .processMessage message => (priv, .message (iface.processMessage priv message))
  | .refreshAuthorization answer =>
      let (priv', success, error) := iface.refreshAuthorization priv answer
      (priv', .refreshed success error)

/-- An implementation that serves requests one after the other. -/
def AuthorizerInterface.machine {σ ω : Type} (iface : AuthorizerInterface σ ω) :
    Machine σ (AuthorizerRequest ω) AuthorizerReply := ⟨iface.serve⟩

/-! ## GFBGraphGoaAuthorizer -/

/-- The private structure in memory. -/
structure GoaAuthorizerMemory where
  goaObject : Option GoaObject
  accessToken : HeapField String

namespace GoaAuthorizerMemory

/-- An access to the token. -/
def onToken (access : HeapField String → HeapField String) (memory : GoaAuthorizerMemory) :
    GoaAuthorizerMemory :=
  { memory with accessToken := access memory.accessToken }

/-- The memory that represents a private structure. -/
def ofPrivate (priv : GoaAuthorizerPrivate) : GoaAuthorizerMemory :=
  ⟨priv.goaObject, .own priv.accessToken⟩

end GoaAuthorizerMemory

open GoaAuthorizerMemory (onToken ofPrivate)

/-- `gfbgraph_goa_authorizer_process_call`, access by access. -/
def goaProcessCallCode (call : RestProxyCall) : Code GoaAuthorizerMemory AuthorizerReply :=
  -- the test of the pointer, then the string itself
  .access id fun memory =>
    if memory.accessToken.ptr = .null then .done (.call call)
    else .access (onToken HeapField.touch) fun memory =>
      .done (.call (restProxyCallAddParam call "access_token" memory.accessToken.value))

/-- `gfbgraph_goa_authorizer_process_message`, access by access. -/
def goaProcessMessageCode (message : SoupMessage) : Code GoaAuthorizerMemory AuthorizerReply :=
  .access (onToken HeapField.touch) fun memory =>
    .done (.message (processMessageWith memory.accessToken.value message))

/-- `gfbgraph_goa_authorizer_refresh_authorization`, access by access. -/
def goaRefreshAuthorizationCode (answer : GoaAnswer) : Code GoaAuthorizerMemory AuthorizerReply :=
  .access (onToken HeapField.free) fun _ =>
  .access (onToken (HeapField.store none)) fun _ =>
  .access id fun memory =>
    match memory.goaObject with
    | none => .done (.refreshed false none)
    | some _ =>
        match answer.ensureCredentials with
        | .error e => .done (.refreshed false (some (.goa e)))
        | .ok () =>
            match answer.getAccessToken with
            | .error e => .done (.refreshed false (some (.goa e)))
            | .ok accessToken =>
                -- the call writes through `&priv->access_token`
                .access (onToken (HeapField.store (some accessToken))) fun _ =>
                .done (.refreshed true none)

/-- The functions of `GFBGraphGoaAuthorizer`, each between `g_mutex_lock` and
`g_mutex_unlock`. -/
def goaMonitor : Monitor (AuthorizerRequest GoaAnswer) GoaAuthorizerMemory AuthorizerReply where
  guarded _ := true
  code
    | .processCall call => goaProcessCallCode call
    | .processMessage message => goaProcessMessageCode message
    | .refreshAuthorization answer => goaRefreshAuthorizationCode answer

/-- **Refinement** of one function: run without interruption, the accesses do
what the function of the interface does. -/
theorem goaMonitor_exec (priv : GoaAuthorizerPrivate) (request : AuthorizerRequest GoaAnswer) :
    goaMonitor.atomic.step (ofPrivate priv) request =
      (ofPrivate (goaAuthorizerIface.serve priv request).1,
        (goaAuthorizerIface.serve priv request).2) := by
  obtain ⟨goaObject, accessToken⟩ := priv
  cases request with
  | processCall call => cases accessToken <;> rfl
  | processMessage message => cases accessToken <;> rfl
  | refreshAuthorization answer =>
      obtain ⟨ensureCredentials, getAccessToken⟩ := answer
      cases accessToken <;> cases goaObject <;> cases ensureCredentials <;>
        cases getAccessToken <;> rfl

/-- Serving requests one after the other, in memory and as an interface. -/
theorem goa_atomic_run (priv : GoaAuthorizerPrivate)
    (requests : List (AuthorizerRequest GoaAnswer)) :
    goaMonitor.atomic.run (ofPrivate priv) requests =
      ofPrivate (goaAuthorizerIface.machine.run priv requests) :=
  Machine.run_of_step_eq goaMonitor_exec priv requests

theorem goa_atomic_outs (priv : GoaAuthorizerPrivate)
    (requests : List (AuthorizerRequest GoaAnswer)) :
    goaMonitor.atomic.outs (ofPrivate priv) requests =
      goaAuthorizerIface.machine.outs priv requests :=
  Machine.outs_of_step_eq goaMonitor_exec priv requests

/-- A fault stays. -/
theorem goaMonitor_keeps (request : AuthorizerRequest GoaAnswer) :
    (goaMonitor.code request).Keeps fun memory => memory.accessToken.Bad := by
  cases request with
  | processCall call =>
      refine ⟨fun _ h => h, fun memory => ?_⟩
      dsimp only
      split
      · trivial
      · exact ⟨fun _ h => h.touch, fun _ => trivial⟩
  | processMessage message => exact ⟨fun _ h => h.touch, fun _ => trivial⟩
  | refreshAuthorization answer =>
      refine ⟨fun _ h => h.free, fun _ => ⟨fun _ h => h.store none, fun _ => ⟨fun _ h => h, ?_⟩⟩⟩
      intro memory
      dsimp only
      split
      · trivial
      · split
        · trivial
        · split
          · trivial
          · exact ⟨fun _ h => h.store _, fun _ => trivial⟩

section

variable {τ : Type} [DecidableEq τ] (goaObject : GoaObject)
  (programs : τ → List (AuthorizerRequest GoaAnswer)) (schedule : List τ)

/-- What a schedule of threads that share a new GOA authorizer leads to. -/
def goaThreads :
    Monitor.State τ (AuthorizerRequest GoaAnswer) GoaAuthorizerMemory AuthorizerReply :=
  goaMonitor.machine.run (Monitor.start (ofPrivate (goaAuthorizerNew goaObject)) programs) schedule

theorem goaThreads_serial :
    goaMonitor.Serial (ofPrivate (goaAuthorizerNew goaObject))
      (goaThreads goaObject programs schedule) :=
  Monitor.serial_run (fun _ => rfl) _ programs schedule

/-- The answers are those of a serial run of the interface. -/
theorem answers_goaThreads :
    Monitor.answers (goaThreads goaObject programs schedule) =
      goaAuthorizerIface.machine.outs (goaAuthorizerNew goaObject)
        (Monitor.history (goaThreads goaObject programs schedule)) := by
  rw [(goaThreads_serial goaObject programs schedule).answers_eq, goa_atomic_outs]

/-- No schedule uses a freed token. -/
theorem fault_goaThreads :
    (goaThreads goaObject programs schedule).shared.accessToken.fault = false := by
  have hrespects : goaMonitor.Respects (fun memory => memory.accessToken.Bad)
      (Monitor.start (ofPrivate (goaAuthorizerNew goaObject)) programs) :=
    Monitor.respects_start fun _ request _ => goaMonitor_keeps request
  have hbad := (goaThreads_serial goaObject programs schedule).not_shared (hrespects.run schedule)
    fun requests => by
      rw [goa_atomic_run]
      exact HeapField.not_bad_own _
  exact Bool.eq_false_iff.2 hbad

/-- **Thread safety**: whatever threads share a GOA authorizer and however they
are scheduled, no freed token is read or freed again, every thread gets its
requests served in its own order, and the replies, together with the private
structure whenever the mutex is free, are those of the requests served one
after the other in the order in which they gave the mutex back. -/
theorem goa_threads_serial (goaObject : GoaObject)
    (programs : τ → List (AuthorizerRequest GoaAnswer)) (schedule : List τ) :
    let state := goaThreads goaObject programs schedule
    let requests := Monitor.history state
    state.shared.accessToken.fault = false ∧
    (∀ t, Monitor.issued state t = programs t) ∧
    Monitor.answers state =
      goaAuthorizerIface.machine.outs (goaAuthorizerNew goaObject) requests ∧
    (state.holder = none → state.shared =
      ofPrivate (goaAuthorizerIface.machine.run (goaAuthorizerNew goaObject) requests)) := by
  refine ⟨fault_goaThreads goaObject programs schedule, fun t => goaMonitor.issued_run _ _ _ t,
    answers_goaThreads goaObject programs schedule, fun hfree => ?_⟩
  rw [(goaThreads_serial goaObject programs schedule).free hfree, goa_atomic_run]

/-- **No deadlock**: every schedule of finitely many threads can be continued
until all of them have been served, still without using a freed token. -/
theorem goa_threads_finish [Finite τ] (goaObject : GoaObject)
    (programs : τ → List (AuthorizerRequest GoaAnswer)) (schedule : List τ) :
    ∃ more, let state := goaThreads goaObject programs (schedule ++ more)
      (∀ t, Monitor.answeredBy state.answered t = programs t) ∧
      state.shared.accessToken.fault = false ∧
      Monitor.answers state = goaAuthorizerIface.machine.outs (goaAuthorizerNew goaObject)
        (Monitor.history state) := by
  obtain ⟨more, hmore⟩ := Monitor.exists_finish (M := goaMonitor) (fun _ => rfl)
    (ofPrivate (goaAuthorizerNew goaObject)) programs schedule
  exact ⟨more, hmore, fault_goaThreads goaObject programs _,
    answers_goaThreads goaObject programs _⟩

/-! ### the token the threads are given -/

omit [DecidableEq τ]

/-- The token held after a request, read off its reply. -/
def heldAfter (held : Option String) :
    AuthorizerRequest GoaAnswer → AuthorizerReply → Option String
  | .refreshAuthorization answer, .refreshed true _ => answer.getAccessToken.toOption
  | .refreshAuthorization _, _ => none
  | _, _ => held

/-- The token that the last refresh among answered requests obtained, if there
is one and it obtained one. -/
def tokenAfter (answered : List (τ × AuthorizerRequest GoaAnswer × AuthorizerReply)) :
    Option String :=
  answered.foldl (fun held entry => heldAfter held entry.2.1 entry.2.2) none

/-- What the reply to a request says when `held` is the token obtained last. -/
def RepliesWith (held : Option String) : AuthorizerRequest GoaAnswer → AuthorizerReply → Prop
  | .processCall call, reply =>
      reply = .call (held.elim call fun token =>
        restProxyCallAddParam call "access_token" (some token))
  | .processMessage message, reply =>
      reply = .message { message with
        uri := soupUriSetQuery message.uri ("access_token=" ++ held.getD "") }
  | .refreshAuthorization answer, reply =>
      ∃ success error, reply = .refreshed success error ∧
        (success = true → ∃ token, answer.getAccessToken = .ok token)

theorem heldAfter_serve (priv : GoaAuthorizerPrivate) (request : AuthorizerRequest GoaAnswer) :
    heldAfter priv.accessToken request (goaAuthorizerIface.serve priv request).2 =
      (goaAuthorizerIface.serve priv request).1.accessToken := by
  cases request with
  | processCall call => rfl
  | processMessage message => rfl
  | refreshAuthorization answer =>
      have hcases := goaRefresh_cases priv answer
      cases hresult : goaAuthorizerRefreshAuthorization priv answer with
      | mk priv' result =>
          obtain ⟨success, error⟩ := result
          rw [hresult] at hcases
          have hserve : goaAuthorizerIface.serve priv (.refreshAuthorization answer) =
              (priv', .refreshed success error) := by
            simp [AuthorizerInterface.serve, goaAuthorizerIface, hresult]
          rw [hserve]
          cases hcases with
          | inl hfailed =>
              obtain ⟨rfl, hnone⟩ : success = false ∧ priv'.accessToken = none := hfailed
              exact hnone.symm
          | inr hsuccess =>
              obtain ⟨token, hanswer, hboth⟩ := hsuccess
              obtain ⟨rfl, hsome⟩ : success = true ∧ priv'.accessToken = some token := hboth
              rw [heldAfter, hanswer, hsome]
              rfl

theorem repliesWith_serve (priv : GoaAuthorizerPrivate) (request : AuthorizerRequest GoaAnswer) :
    RepliesWith priv.accessToken request (goaAuthorizerIface.serve priv request).2 := by
  cases request with
  | processCall call =>
      obtain ⟨goaObject, accessToken⟩ := priv
      cases accessToken <;> rfl
  | processMessage message =>
      rw [RepliesWith, ← gStrconcat_accessToken]
      rfl
  | refreshAuthorization answer =>
      refine ⟨_, _, rfl, fun hsuccess => ?_⟩
      cases goaRefresh_cases priv answer with
      | inl hfailed => exact absurd (hfailed.1.symm.trans hsuccess) Bool.false_ne_true
      | inr hobtained =>
          obtain ⟨token, hanswer, -⟩ := hobtained
          exact ⟨token, hanswer⟩

/-- Replies of a serial run tell the token that is held after it. -/
theorem foldl_heldAfter (priv : GoaAuthorizerPrivate)
    (answered : List (τ × AuthorizerRequest GoaAnswer × AuthorizerReply))
    (houts : (answered.map fun entry => entry.2.2) =
      goaAuthorizerIface.machine.outs priv (answered.map fun entry => entry.2.1)) :
    answered.foldl (fun held entry => heldAfter held entry.2.1 entry.2.2) priv.accessToken =
      (goaAuthorizerIface.machine.run priv
        (answered.map fun entry => entry.2.1)).accessToken := by
  induction answered generalizing priv with
  | nil => rfl
  | cons entry answered ih =>
      simp only [List.map_cons, Machine.outs_cons, List.cons.injEq] at houts
      have hheld := heldAfter_serve priv entry.2.1
      rw [List.foldl_cons, List.map_cons, Machine.run_cons, houts.1]
      rw [show goaAuthorizerIface.machine.out priv entry.2.1 =
        (goaAuthorizerIface.serve priv entry.2.1).2 from rfl, hheld]
      exact ih _ houts.2

theorem accessToken_goaAuthorizerNew (goaObject : GoaObject) :
    (goaAuthorizerNew goaObject).accessToken = none := by
  unfold goaAuthorizerNew goaAuthorizerSetGoaObject
  split
  · rfl
  · split <;> rfl

/-- **Token freshness across threads**: in every schedule, every request that
is processed carries exactly the token of the last refresh that gave the mutex
back before it, whichever thread refreshed, and no token if that refresh failed
or there was none. -/
theorem goa_threads_token [DecidableEq τ] (goaObject : GoaObject)
    (programs : τ → List (AuthorizerRequest GoaAnswer)) (schedule : List τ)
    (pre post : List (τ × AuthorizerRequest GoaAnswer × AuthorizerReply)) (t : τ)
    (request : AuthorizerRequest GoaAnswer) (reply : AuthorizerReply)
    (hsplit : (goaThreads goaObject programs schedule).answered =
      pre ++ (t, request, reply) :: post) :
    RepliesWith (tokenAfter pre) request reply := by
  have houts := answers_goaThreads goaObject programs schedule
  rw [Monitor.answers, Monitor.history, hsplit] at houts
  simp only [List.map_append, List.map_cons, Machine.outs_append, Machine.outs_cons] at houts
  obtain ⟨hpre, hrest⟩ := List.append_inj houts (by simp [Machine.length_outs])
  have htoken := foldl_heldAfter _ pre hpre
  rw [accessToken_goaAuthorizerNew] at htoken
  rw [tokenAfter, htoken, (List.cons.inj hrest).1]
  exact repliesWith_serve _ request

end

/-- One thread refreshes, the other has a call processed. -/
def refreshAndCall : Bool → List (AuthorizerRequest GoaAnswer)
  | true => [.refreshAuthorization ⟨.ok (), .ok "t"⟩]
  | false => [.processCall restProxyNewCall]

/-- They finish. -/
theorem goa_threads_finish_two :
    ∃ more, let state := goaThreads ⟨true, true⟩ refreshAndCall ([true, false] ++ more)
      (∀ t, Monitor.answeredBy state.answered t = refreshAndCall t) ∧
      state.shared.accessToken.fault = false ∧
      Monitor.answers state = goaAuthorizerIface.machine.outs (goaAuthorizerNew ⟨true, true⟩)
        (Monitor.history state) :=
  goa_threads_finish ⟨true, true⟩ refreshAndCall [true, false]

/-- The second thread asks for the mutex in the middle of the refresh, and its
call carries the new token. -/
theorem goa_threads_token_two :
    RepliesWith
      (tokenAfter [(true, .refreshAuthorization ⟨.ok (), .ok "t"⟩, .refreshed true none)])
      (.processCall restProxyNewCall)
      (.call (restProxyCallAddParam restProxyNewCall "access_token" (some "t"))) :=
  goa_threads_token ⟨true, true⟩ refreshAndCall
    [true, true, false, true, true, true, true, false, false, false, false] _ [] false _ _ rfl

/-! ## GFBGraphSimpleAuthorizer -/

/-- A call of one of the interface's functions, or of the functions of the
property `access-token`. -/
inductive SimpleRequest where
  | iface (request : AuthorizerRequest Unit)
  | setProperty (value : Option String)
  | getProperty

/-- What it leaves in its argument, or returns. -/
inductive SimpleReply where
  | iface (reply : AuthorizerReply)
  | set
  | got (value : Option String)

/-- `gfbgraph_simple_authorizer_get_property`. -/
def simpleAuthorizerGetProperty (priv : SimpleAuthorizerPrivate) : Option String :=
  priv.accessToken

/-- The function that a request reaches. -/
def simpleAuthorizerServe (priv : SimpleAuthorizerPrivate) :
    SimpleRequest → SimpleAuthorizerPrivate × SimpleReply
  | .iface request =>
      let (priv', reply) := simpleAuthorizerIface.serve priv request
      (priv', .iface reply)
  | .setProperty value => (simpleAuthorizerSetProperty priv value, .set)
  | .getProperty => (priv, .got (simpleAuthorizerGetProperty priv))

/-- A simple authorizer that serves requests one after the other. -/
def simpleAuthorizerMachine : Machine SimpleAuthorizerPrivate SimpleRequest SimpleReply :=
  ⟨simpleAuthorizerServe⟩

/-- What a request does with `priv->access_token`. -/
def simpleTokenOp : SimpleRequest → FieldOp String SimpleReply
  | .iface (.processCall call) =>
      .read fun accessToken =>
        .iface (.call (restProxyCallAddParam call "access_token" accessToken))
  | .iface (.processMessage message) =>
      .read fun accessToken => .iface (.message (processMessageWith accessToken message))
  | .iface (.refreshAuthorization _) => .skip (.iface (.refreshed false none))
  | .setProperty value => .write value .set
  | .getProperty => .read .got

/-- The requests that lock the mutex. -/
def simpleGuarded : SimpleRequest → Bool
  | .iface (.processCall _) | .iface (.processMessage _) => true
  | _ => false

/-- The function that a request reaches does with the private structure what
the request does with the token. -/
theorem simpleAuthorizerServe_eq (accessToken : Option String) (request : SimpleRequest) :
    simpleAuthorizerServe ⟨accessToken⟩ request =
      (⟨((simpleTokenOp request).serve accessToken).1⟩,
        ((simpleTokenOp request).serve accessToken).2) := by
  cases request with
  | setProperty value => rfl
  | getProperty => rfl
  | iface request =>
      cases request with
      | processCall call => rfl
      | processMessage message => rfl
      | refreshAuthorization answer => rfl

/-- Serving requests one after the other, on the token and on the private
structure. -/
theorem outs_simpleTokenOp (accessToken : Option String) (requests : List SimpleRequest) :
    (fieldMachine simpleTokenOp).outs accessToken requests =
      simpleAuthorizerMachine.outs ⟨accessToken⟩ requests :=
  (Machine.outs_of_step_eq simpleAuthorizerServe_eq accessToken requests).symm

/-- What a schedule of threads that share a simple authorizer leads to. -/
def simpleThreads {τ : Type} [DecidableEq τ] (priv : SimpleAuthorizerPrivate)
    (programs : τ → List SimpleRequest) (schedule : List τ) :
    Monitor.State τ SimpleRequest (HeapField String) SimpleReply :=
  fieldThreads simpleGuarded simpleTokenOp priv.accessToken programs schedule

/-- An authorizer that `gfbgraph_simple_authorizer_new` returns holds a token. -/
theorem accessToken_of_new {accessToken : Option String} {priv : SimpleAuthorizerPrivate}
    (h : simpleAuthorizerNew accessToken = some priv) : ∃ token, priv.accessToken = some token := by
  cases accessToken with
  | none => contradiction
  | some token =>
      obtain rfl := Option.some.inj h
      exact ⟨token, rfl⟩

/-- **Who may share a simple authorizer**: threads that share a new one, which
holds a token, never use a freed token, in any schedule, exactly when no thread
sets the property while another thread uses the token; then every thread is
served as if it were alone.  The property's functions do not take the mutex, so
the locks of the others do not help. -/
theorem simple_threads_safe_iff {τ : Type} [DecidableEq τ] {accessToken : Option String}
    {priv : SimpleAuthorizerPrivate} (hnew : simpleAuthorizerNew accessToken = some priv)
    (programs : τ → List SimpleRequest) :
    ((∀ schedule, (simpleThreads priv programs schedule).shared.fault = false) ↔
      ¬FieldConflict simpleTokenOp programs) ∧
    (¬FieldConflict simpleTokenOp programs → ∀ schedule t,
      Monitor.answersTo (simpleThreads priv programs schedule).answered t =
        simpleAuthorizerMachine.outs priv
          (Monitor.answeredBy (simpleThreads priv programs schedule).answered t)) := by
  have hguarded : ∀ request, (simpleTokenOp request).writes = true →
      simpleGuarded request = false := by
    intro request hwrites
    cases request with
    | setProperty value => rfl
    | getProperty => rfl
    | iface request => cases request <;> contradiction
  obtain ⟨token, htoken⟩ := accessToken_of_new hnew
  constructor
  · unfold simpleThreads
    rw [htoken]
    exact fault_eq_false_iff hguarded token
  · intro hconflict schedule t
    rw [← outs_simpleTokenOp]
    exact answersTo_of_not_conflict hconflict priv.accessToken schedule t

/-- One thread has a call processed, the other sets the token. -/
def callWhileSetting : Bool → List SimpleRequest
  | true => [.iface (.processCall restProxyNewCall)]
  | false => [.setProperty (some "t'")]

/-- Some schedule puts a freed token into the call. -/
theorem simple_threads_safe_iff_setting :
    ¬∀ schedule, (simpleThreads (simpleAuthorizerSetProperty {} (some "t")) callWhileSetting
      schedule).shared.fault = false := by
  have hnew : simpleAuthorizerNew (some "t") = some (simpleAuthorizerSetProperty {} (some "t")) :=
    rfl
  rw [(simple_threads_safe_iff hnew callWhileSetting).1, not_not]
  exact ⟨false, true, by decide, ⟨_, List.mem_singleton_self _, rfl⟩,
    ⟨_, List.mem_singleton_self _, rfl⟩⟩

end GFBGraph
