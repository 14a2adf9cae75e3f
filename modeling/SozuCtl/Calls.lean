import SozuCtl.CommandManager

/-! The calls of `CommandManager` and what holds of every one of them, on every argument and in
every world. Every method has one shape: results of this layer passed through `?`, then one
order handed to the transport. From that shape alone: no partial success (a call either stops
with an error of this layer before reaching the transport, the state as it was, or ends exactly
as one invocation of the transport ends). From the same shape with a context at every `?`: no
silent failure (an error of this layer is a `bail!` message or carries a context). Last, a
two-world statement: of the file system, a call reads only the paths it is given. -/
namespace SozuCtl

/-- The methods of `CommandManager` that build a request, each with its arguments. -/
inductive Call
  | saveState (path : String)
  | loadState (path : String)
  | dumpState (json : Bool)
  | softStop
  | hardStop
  | status (json : Bool)
  | configureMetrics (cmd : MetricsCmd)
  | reloadConfiguration (path : Option String) (json : Bool)
  | listFrontends (http https tcp : Bool) (domain : Option String)
  | events
  | backendCommand (cmd : BackendCmd)
  | clusterCommand (cmd : ClusterCmd)
  | tcpFrontendCommand (cmd : TcpFrontendCmd)
  | httpFrontendCommand (cmd : HttpFrontendCmd)
  | httpsFrontendCommand (cmd : HttpFrontendCmd)
  | httpsListenerCommand (cmd : HttpsListenerCmd)
  | httpListenerCommand (cmd : HttpListenerCmd)
  | tcpListenerCommand (cmd : TcpListenerCmd)
  | listListeners
  | removeListener (address : String) (proxy : ListenerType)
  | activateListener (address : String) (proxy : ListenerType)
  | deactivateListener (address : String) (proxy : ListenerType)
  | loggingFilter (filter : LoggingLevel)
  | addCertificate (address certificatePath certificateChainPath keyPath : String)
      (versions : List TlsVersion)
  | replaceCertificate (address newCertificatePath newCertificateChainPath newKeyPath : String)
      (oldCertificatePath oldFingerprint : Option String) (versions : List TlsVersion)
  | removeCertificate (address : String) (certificatePath fingerprint : Option String)

/-- The method a call runs. -/
def Call.invoke (env : Env) : Call → Ctl Unit
  | .saveState path => SozuCtl.saveState env path
  | .loadState path => SozuCtl.loadState env path
  | .dumpState json => SozuCtl.dumpState env json
  | .softStop => SozuCtl.softStop env
  | .hardStop => SozuCtl.hardStop env
  | .status json => SozuCtl.status env json
  | .configureMetrics cmd => SozuCtl.configureMetrics env cmd
  | .reloadConfiguration path json => SozuCtl.reloadConfiguration env path json
  | .listFrontends http https tcp domain => SozuCtl.listFrontends env http https tcp domain
  | .events => SozuCtl.events env
  | .backendCommand cmd => SozuCtl.backendCommand env cmd
  | .clusterCommand cmd => SozuCtl.clusterCommand env cmd
  | .tcpFrontendCommand cmd => SozuCtl.tcpFrontendCommand env cmd
  | .httpFrontendCommand cmd => SozuCtl.httpFrontendCommand env cmd
  | .httpsFrontendCommand cmd => SozuCtl.httpsFrontendCommand env cmd
  | .httpsListenerCommand cmd => SozuCtl.httpsListenerCommand env cmd
  | .httpListenerCommand cmd => SozuCtl.httpListenerCommand env cmd
  | .tcpListenerCommand cmd => SozuCtl.tcpListenerCommand env cmd
  | .listListeners => SozuCtl.listListeners env
  | .removeListener address proxy => SozuCtl.removeListener env address proxy
  | .activateListener address proxy => SozuCtl.activateListener env address proxy
  | .deactivateListener address proxy => SozuCtl.deactivateListener env address proxy
  | .loggingFilter filter => SozuCtl.loggingFilter env filter
  | .addCertificate address certificatePath certificateChainPath keyPath versions =>
    SozuCtl.addCertificate env address certificatePath certificateChainPath keyPath versions
  | .replaceCertificate address newCertificatePath newCertificateChainPath newKeyPath
      oldCertificatePath oldFingerprint versions =>
    SozuCtl.replaceCertificate env address newCertificatePath newCertificateChainPath newKeyPath
      oldCertificatePath oldFingerprint versions
  | .removeCertificate address certificatePath fingerprint =>
    SozuCtl.removeCertificate env address certificatePath fingerprint

/-- The files a call may read: the certificate paths it is given, and the answer pages of an
HTTP or HTTPS listener, which `to_http` and `to_tls` read. The paths of `save_state`,
`load_state` and `reload_configuration` go to the proxy in the order; this layer never opens
them. -/
def Call.localPaths : Call → List String
  | .addCertificate _ certificatePath certificateChainPath keyPath _ =>
    [certificatePath, certificateChainPath, keyPath]
  | .replaceCertificate _ newCertificatePath newCertificateChainPath newKeyPath
      oldCertificatePath _ _ =>
    oldCertificatePath.toList ++ [newCertificatePath, newCertificateChainPath, newKeyPath]
  | .removeCertificate _ certificatePath _ => certificatePath.toList
  | .httpListenerCommand (.add _ _ answer404 answer503 _ _ _ _ _ _) =>
    answer404.toList ++ answer503.toList
  | .httpsListenerCommand (.add _ _ answer404 answer503 _ _ _ _ _ _ _ _) =>
    answer404.toList ++ answer503.toList
  | _ => []

/-! ### The shape of a call -/

/-- The shape of a request builder: results of this layer passed through `?`, each meeting
`Site`, then one order handed to the transport. -/
inductive RequestBuilder (env : Env) (Site : (α : Type) → Except Error α → Prop) :
    Ctl Unit → Prop
  | send (o : Order) : RequestBuilder env Site (send env o)
  | propagate {α : Type} {x : Except Error α} (hx : Site α x) {f : α → Ctl Unit}
      (h : ∀ a, RequestBuilder env Site (f a)) : RequestBuilder env Site (propagate x >>= f)
  | discard {m : Ctl Unit} (h : RequestBuilder env Site m) :
      RequestBuilder env Site (m >>= fun _ => pure ())

/-- Every method of `CommandManager` is a request builder, whatever its `?` sites hold. -/
theorem call_requestBuilder (env : Env) (c : Call) :
    RequestBuilder env (fun _ _ => True) (c.invoke env) := by
  cases c <;> (try rename_i cmd; cases cmd) <;>
    simp only [Call.invoke, saveState, loadState, dumpState, softStop, hardStop, status,
      configureMetrics, reloadConfiguration, listFrontends, events, backendCommand,
      clusterCommand, tcpFrontendCommand, httpFrontendCommand, httpsFrontendCommand,
      frontendCommand, httpsListenerCommand, httpListenerCommand, tcpListenerCommand,
      listListeners, removeListener, activateListener, deactivateListener, listenerOrder,
      loggingFilter, addCertificate, replaceCertificate, removeCertificate, orderRequest,
      orderRequestToAllWorkers] <;>
    repeat (first
      | exact .send _
      | apply RequestBuilder.discard
      | (apply RequestBuilder.propagate trivial; intro))

/-! ### No partial success -/

section
variable (env : Env)

/-- One invocation of the transport records its order and returns the proxy's answer. -/
theorem send_run (o : Order) (s : CommandManager) :
    (send env o).run s = match env.answer s.sent o with
      | .ok () => .ok () ⟨s.sent ++ [o]⟩
      | .error msg => .error (.transport msg) ⟨s.sent ++ [o]⟩ := rfl

/-- What a call may do: stop with an error of this layer, the state as it was, or behave as
one invocation of the transport. -/
def AtMostOneOrder (m : Ctl Unit) : Prop :=
  ∀ s, (∃ e, m.run s = .error (.layer e) s) ∨ ∃ o, m.run s = (send env o).run s

theorem RequestBuilder.atMostOneOrder {Site : (α : Type) → Except Error α → Prop}
    {m : Ctl Unit} (h : RequestBuilder env Site m) : AtMostOneOrder env m := by
  induction h with
  | send o => exact fun _ => .inr ⟨o, rfl⟩
  | @propagate α x _ f _ ih =>
    intro s
    cases x with
    | error e => exact .inl ⟨e, rfl⟩
    | ok a => exact ih a s
  | discard _ ih => rwa [bind_pure]

/-- A call that stops in this layer has sent nothing. -/
theorem AtMostOneOrder.layer_error {m : Ctl Unit} (h : AtMostOneOrder env m)
    {s s' : CommandManager} {e : Error} (he : m.run s = .error (.layer e) s') : s' = s := by
  rcases h s with ⟨e', h'⟩ | ⟨o, h'⟩
  · rw [h'] at he; cases he; rfl
  · rw [h', send_run] at he
    split at he <;> cases he

/-- A call adds at most one order to those sent. -/
theorem AtMostOneOrder.sent {m : Ctl Unit} (h : AtMostOneOrder env m) (s : CommandManager) :
    (∃ e, m.run s = .error (.layer e) s) ∨
      ∃ o, (∃ s', m.run s = .ok () s' ∧ s'.sent = s.sent ++ [o]) ∨
        ∃ msg s', m.run s = .error (.transport msg) s' ∧ s'.sent = s.sent ++ [o] := by
  rcases h s with h | ⟨o, ho⟩
  · exact .inl h
  · refine .inr ⟨o, ?_⟩
    rw [ho, send_run]
    split
    · exact .inl ⟨_, rfl, rfl⟩
    · exact .inr ⟨_, _, rfl, rfl⟩

end

/-- Every call sends at most one order, and none when it fails in this layer. -/
theorem call_atMostOneOrder (env : Env) (c : Call) :
    AtMostOneOrder env (c.invoke env) ∧
      ∀ s e s', (c.invoke env).run s = .error (.layer e) s' → s' = s :=
  have h := (call_requestBuilder env c).atMostOneOrder env
  ⟨h, fun _ _ _ he => h.layer_error env he⟩

/-! ### No silent failure -/

/-- An error that says what failed: a `bail!` message, or a cause under a context. -/
def Error.Explained (e : Error) : Prop := (∃ msg, e.cause = .bail msg) ∨ e.context ≠ []

/-- A result whose error, if any, says what failed. -/
def ExplainedExcept {α : Type} (x : Except Error α) : Prop := ∀ e, x = .error e → e.Explained

theorem explainedExcept_withContext {α : Type} (x : Except Error α) (msg : String) :
    ExplainedExcept (withContext x msg) := by
  intro e h
  cases x with
  | error e' => cases h; exact .inr (List.cons_ne_nil _ _)
  | ok a => cases h

theorem explainedExcept_bail {α : Type} (msg : String) :
    ExplainedExcept (bail msg : Except Error α) :=
  fun _ h => by cases h; exact .inl ⟨msg, rfl⟩

theorem explainedExcept_ok {α : Type} (a : α) : ExplainedExcept (.ok a : Except Error α) :=
  fun _ h => by cases h

theorem explainedExcept_certificateIdentity (env : Env) (bothOrNeither pathContext : String)
    (p f : Option String) :
    ExplainedExcept (certificateIdentity env bothOrNeither pathContext p f) := by
  match p, f with
  | none, none | some _, some _ => exact explainedExcept_bail _
  | some _, none | none, some _ => exact explainedExcept_withContext _ _

/-- Every `?` of every method of `CommandManager` passes a `bail!` or a result under a
context. -/
theorem call_explainedBuilder (env : Env) (c : Call) :
    RequestBuilder env (fun _ x => ExplainedExcept x) (c.invoke env) := by
  cases c <;> (try rename_i cmd; cases cmd) <;>
    simp only [Call.invoke, saveState, loadState, dumpState, softStop, hardStop, status,
      configureMetrics, reloadConfiguration, listFrontends, events, backendCommand,
      clusterCommand, tcpFrontendCommand, httpFrontendCommand, httpsFrontendCommand,
      frontendCommand, httpsListenerCommand, httpListenerCommand, tcpListenerCommand,
      listListeners, removeListener, activateListener, deactivateListener, listenerOrder,
      loggingFilter, addCertificate, replaceCertificate, removeCertificate, orderRequest,
      orderRequestToAllWorkers] <;>
    repeat (first
      | exact .send _
      | apply RequestBuilder.discard
      | (apply RequestBuilder.propagate
         · first
           | exact explainedExcept_withContext _ _
           | exact explainedExcept_bail _
           | exact explainedExcept_ok _
           | exact explainedExcept_certificateIdentity env _ _ _ _
         intro))

/-- A call whose errors of this layer all say what failed. -/
def ExplainsErrors (m : Ctl Unit) : Prop :=
  ∀ s e s', m.run s = .error (.layer e) s' → e.Explained

theorem RequestBuilder.explainsErrors {env : Env} {m : Ctl Unit}
    (h : RequestBuilder env (fun _ x => ExplainedExcept x) m) : ExplainsErrors m := by
  induction h with
  | send o =>
    intro s e s' he
    rw [send_run] at he
    split at he <;> cases he
  | @propagate α x hx f _ ih =>
    intro s e s' he
    cases x with
    | error e' => cases he; exact hx _ rfl
    | ok a => exact ih a s e s' he
  | discard _ ih => rwa [bind_pure]

/-- No silent failure: every error a call raises in this layer is a `bail!` message or carries
a context saying what failed. -/
theorem call_explainsErrors (env : Env) (c : Call) : ExplainsErrors (c.invoke env) :=
  (call_explainedBuilder env c).explainsErrors

/-! ### What a call reads -/

/-- A call reads the file system at the paths it is given and nowhere else: a certificate's
files, and a listener's answer pages. A file system that agrees with the world's there gives the
same call. -/
theorem call_reads_only_its_paths (env : Env) (c : Call) (files : String → Option (List UInt8))
    (h : ∀ p ∈ c.localPaths, files p = env.files p) :
    c.invoke { env with files := files } = c.invoke env := by
  cases c with
  | addCertificate address certificatePath certificateChainPath keyPath versions =>
    simp only [Call.invoke, addCertificate, loadFullCertificate_frame versions h]
    rfl
  | replaceCertificate address newCertificatePath newCertificateChainPath newKeyPath
      oldCertificatePath oldFingerprint versions =>
    simp only [Call.localPaths, List.mem_append] at h
    simp only [Call.invoke, replaceCertificate,
      certificateIdentity_frame env _ _ _ _ fun p hp => h p (.inl hp),
      loadFullCertificate_frame versions fun p hp => h p (.inr hp)]
    rfl
  | removeCertificate address certificatePath fingerprint =>
    simp only [Call.invoke, removeCertificate, certificateIdentity_frame env _ _ _ _ h]
    rfl
  | httpListenerCommand cmd =>
    cases cmd with
    | add =>
      simp only [Call.invoke, httpListenerCommand, ListenerBuilder.toHttp]
      rw [ListenerBuilder.toConfig_frame]
      exacts [rfl, h]
    | _ => rfl
  | httpsListenerCommand cmd =>
    cases cmd with
    | add =>
      simp only [Call.invoke, httpsListenerCommand, ListenerBuilder.toTls]
      rw [ListenerBuilder.toConfig_frame]
      exacts [rfl, h]
    | _ => rfl
  | _ => rfl

/-- Removal by a path, in a world whose file system is changed everywhere but at that path. -/
theorem call_reads_only_its_paths_removal :
    let env : Env :=
      { files := fun _ => some (asBytes "c"), calculateFingerprint := Except.ok,
        splitCertificateChain := fun s => [s], finishHttp := fun _ _ _ => .error "",
        finishTls := fun _ _ _ => .error "", toTcp := fun _ => .error "",
        answer := fun _ _ => .ok () }
    let files : String → Option (List UInt8) :=
      fun p => if p = "cert.pem" then some (asBytes "c") else none
    let c := Call.removeCertificate "0.0.0.0:443" (some "cert.pem") none
    (∀ p ∈ c.localPaths, files p = env.files p) ∧
      c.invoke { env with files := files } = c.invoke env := by
  intro env files c
  have h : ∀ p ∈ c.localPaths, files p = env.files p := by decide
  exact ⟨h, call_reads_only_its_paths env c files h⟩

end SozuCtl
