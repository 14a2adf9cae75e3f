import SozuCtl.Certificate

/-! `CommandManager`'s request builders (`ctl/request_builder.rs`). A call runs over the
manager's state, which this model keeps as the orders handed to the transport so far: a call
either stops on an error of this layer, or hands an order to the transport, which records it
and returns the proxy's answer. What the calls print is not modelled. -/
namespace SozuCtl

/-- `CommandManager`, as the orders it has handed to the transport, oldest first. -/
structure CommandManager where
  sent : List Order

/-- Where a failed call's error came from: this layer, or the transport. -/
inductive CtlError
  | layer (e : Error)
  | transport (msg : String)
  deriving DecidableEq

/-- A method of `CommandManager` returning `anyhow::Result<()>`. -/
abbrev Ctl := EStateM CtlError CommandManager

/-- The `?` operator on a result of this layer: an error ends the call, the state as it was. -/
def propagate {α : Type} (x : Except Error α) : Ctl α := fun s =>
  match x with
  | .ok a => .ok a s
  | .error e => .error (.layer e) s

@[simp] theorem propagate_ok_bind {α β : Type} (a : α) (f : α → Ctl β) :
    propagate (.ok a) >>= f = f a := rfl

@[simp] theorem propagate_error_bind_run {α β : Type} (e : Error) (f : α → Ctl β)
    (s : CommandManager) : (propagate (.error e) >>= f).run s = .error (.layer e) s := rfl

/-- `str::to_lowercase` on ASCII text. -/
def toLowercase (s : String) : String := ⟨s.data.map Char.toLower⟩

section
variable (env : Env)

/-- One invocation of the transport: the order goes out, and the proxy's answer decides the
call's result. -/
def send (o : Order) : Ctl Unit := fun s =>
  match env.answer s.sent o with
  | .ok () => .ok () ⟨s.sent ++ [o]⟩
  | .error msg => .error (.transport msg) ⟨s.sent ++ [o]⟩

/-- `order_request`. -/
def orderRequest (request : Request) : Ctl Unit := send env (.request request)

/-- `order_request_to_all_workers`. -/
def orderRequestToAllWorkers (request : Request) (json : Bool) : Ctl Unit :=
  send env (.allWorkers request json)

def saveState (path : String) : Ctl Unit := orderRequest env (.saveState path)

def loadState (path : String) : Ctl Unit := orderRequest env (.loadState path)

def dumpState (json : Bool) : Ctl Unit := orderRequestToAllWorkers env .dumpState json

def softStop : Ctl Unit := orderRequestToAllWorkers env .softStop false

def hardStop : Ctl Unit := orderRequestToAllWorkers env .hardStop false

def status (json : Bool) : Ctl Unit := orderRequestToAllWorkers env .status json

def configureMetrics (cmd : MetricsCmd) : Ctl Unit := do
  let configuration ← propagate (match cmd with
    | .enable => .ok .enabled
    | .disable => .ok .disabled
    | .clear => .ok .clear
    | _ => bail "The command passed to the configure_metrics function is wrong.")
  orderRequest env (.configureMetrics configuration)

def reloadConfiguration (path : Option String) (json : Bool) : Ctl Unit :=
  orderRequestToAllWorkers env (.reloadConfiguration path) json

def listFrontends (http https tcp : Bool) (domain : Option String) : Ctl Unit :=
  orderRequest env (.listFrontends { http, https, tcp, domain })

def events : Ctl Unit := orderRequest env .subscribeEvents

def backendCommand : BackendCmd → Ctl Unit
  | .add id backendId address stickyId backup =>
    orderRequest env (.addBackend
      { clusterId := id, address := address.toString, backendId := backendId,
        loadBalancingParameters := some {}, stickyId := stickyId, backup := backup })
  | .remove id backendId address =>
    orderRequest env (.removeBackend
      { clusterId := id, address := address.toString, backendId := backendId })

def clusterCommand : ClusterCmd → Ctl Unit
  | .add id stickySession httpsRedirect sendProxy expectProxy loadBalancingPolicy =>
    let proxyProtocol := match sendProxy, expectProxy with
      | true, true => some .relayHeader
      | true, false => some .sendHeader
      | false, true => some .expectHeader
      | _, _ => none
    orderRequest env (.addCluster
      { clusterId := id, stickySession := stickySession, httpsRedirect := httpsRedirect,
        proxyProtocol := proxyProtocol, loadBalancing := loadBalancingPolicy,
        answer503 := none })
  | .remove id => orderRequest env (.removeCluster id)

def tcpFrontendCommand : TcpFrontendCmd → Ctl Unit
  | .add id address tags =>
    orderRequest env
      (.addTcpFrontend { clusterId := id, address := address.toString, tags := tags })
  | .remove id address =>
    orderRequest env
      (.removeTcpFrontend { clusterId := id, address := address.toString, tags := none })

/-- `http_frontend_command` and `https_frontend_command`, which differ only in the requests
they wrap the frontend in. -/
def frontendCommand (add remove : RequestHttpFrontend → Request) : HttpFrontendCmd → Ctl Unit
  | .add hostname pathPrefix pathRegex pathEquals address method route tags =>
    orderRequest env (add
      { clusterId := route, address := address.toString, hostname := hostname,
        path := PathRule.fromCliOptions pathPrefix pathRegex pathEquals, method := method,
        position := .tree, tags := match tags with | some tags => tags | none => [] })
  | .remove hostname pathPrefix pathRegex pathEquals address method route =>
    orderRequest env (remove
      { clusterId := route, address := address.toString, hostname := hostname,
        path := PathRule.fromCliOptions pathPrefix pathRegex pathEquals, method := method,
        position := .tree, tags := [] })

def httpFrontendCommand : HttpFrontendCmd → Ctl Unit :=
  frontendCommand env .addHttpFrontend .removeHttpFrontend

def httpsFrontendCommand : HttpFrontendCmd → Ctl Unit :=
  frontendCommand env .addHttpsFrontend .removeHttpsFrontend

/-- `remove_listener`, `activate_listener` and `deactivate_listener`, which parse the address
alike and differ only in the request they send. -/
def listenerOrder (request : SocketAddr → Request) (address : String) : Ctl Unit := do
  let address ← propagate (withContext
    ((SocketAddr.fromStr address).mapError fun e => .ofCause (.addrParse e))
    "wrong socket address")
  orderRequest env (request address)

def removeListener (address : String) (proxy : ListenerType) : Ctl Unit :=
  listenerOrder env (fun address => .removeListener { address := address, proxy := proxy }) address

def activateListener (address : String) (proxy : ListenerType) : Ctl Unit :=
  listenerOrder env
    (fun address => .activateListener { address := address, proxy := proxy, fromScm := false })
    address

def deactivateListener (address : String) (proxy : ListenerType) : Ctl Unit :=
  listenerOrder env
    (fun address => .deactivateListener { address := address, proxy := proxy, toScm := false })
    address

def httpsListenerCommand : HttpsListenerCmd → Ctl Unit
  | .add address publicAddress answer404 answer503 tlsVersions cipherList expectProxy stickyName
      frontTimeout backTimeout requestTimeout connectTimeout => do
    let httpsListener ← propagate (withContext
      (ListenerBuilder.toTls env
        { ListenerBuilder.newHttps address with
          publicAddress := publicAddress, answer404 := answer404, answer503 := answer503,
          tlsVersions := some tlsVersions, cipherList := cipherList,
          expectProxy := some expectProxy, stickyName := stickyName,
          frontTimeout := frontTimeout, backTimeout := backTimeout,
          requestTimeout := requestTimeout, connectTimeout := connectTimeout })
      "Error creating HTTPS listener")
    orderRequest env (.addHttpsListener httpsListener)
  | .remove address => removeListener env address.toString .https
  | .activate address => activateListener env address.toString .https
  | .deactivate address => deactivateListener env address.toString .https

def httpListenerCommand : HttpListenerCmd → Ctl Unit
  | .add address publicAddress answer404 answer503 expectProxy stickyName frontTimeout
      backTimeout requestTimeout connectTimeout => do
    let httpListener ← propagate (withContext
      (ListenerBuilder.toHttp env
        { ListenerBuilder.newHttp address with
          publicAddress := publicAddress, answer404 := answer404, answer503 := answer503,
          expectProxy := some expectProxy, stickyName := stickyName,
          frontTimeout := frontTimeout, requestTimeout := requestTimeout,
          backTimeout := backTimeout, connectTimeout := connectTimeout })
      "Error creating HTTP listener")
    orderRequest env (.addHttpListener httpListener)
  | .remove address => removeListener env address.toString .http
  | .activate address => activateListener env address.toString .http
  | .deactivate address => deactivateListener env address.toString .http

def tcpListenerCommand : TcpListenerCmd → Ctl Unit
  | .add address publicAddress expectProxy => do
    let listener ← propagate (withContext
      (ListenerBuilder.toTcp env
        { ListenerBuilder.newTcp address with
          publicAddress := publicAddress, expectProxy := some expectProxy })
      "Could not create TCP listener")
    orderRequest env (.addTcpListener listener)
  | .remove address => removeListener env address.toString .tcp
  | .activate address => activateListener env address.toString .tcp
  | .deactivate address => deactivateListener env address.toString .tcp

def listListeners : Ctl Unit := orderRequest env .listListeners

def loggingFilter (filter : LoggingLevel) : Ctl Unit :=
  orderRequest env (.logging (toLowercase filter.display))

def addCertificate (address certificatePath certificateChainPath keyPath : String)
    (versions : List TlsVersion) : Ctl Unit := do
  let newCertificate ← propagate (withContext
    (loadFullCertificate env certificatePath certificateChainPath keyPath versions)
    "Could not load the full certificate")
  orderRequest env (.addCertificate
    { address := address, certificate := newCertificate, names := [], expiredAt := none })

/-- The identity match of `replace_certificate` and `remove_certificate`: exactly one of a
certificate's path and its fingerprint, with each flow's own two messages. -/
def certificateIdentity (bothOrNeither pathContext : String)
    (certificatePath fingerprint : Option String) : Except Error Fingerprint :=
  match certificatePath, fingerprint with
  | none, none | some _, some _ => bail bothOrNeither
  | some certificatePath, none =>
    withContext (getFingerprintFromCertificatePath env certificatePath) pathContext
  | none, some fingerprint =>
    withContext (decodeFingerprint fingerprint) "Error decoding the given fingerprint"

theorem certificateIdentity_frame {files : String → Option (List UInt8)}
    (bothOrNeither pathContext : String) (certificatePath fingerprint : Option String)
    (h : ∀ p ∈ certificatePath.toList, files p = env.files p) :
    certificateIdentity { env with files := files } bothOrNeither pathContext certificatePath
        fingerprint =
      certificateIdentity env bothOrNeither pathContext certificatePath fingerprint := by
  match certificatePath, fingerprint with
  | none, none | none, some _ | some _, some _ => rfl
  | some path, none =>
    simp only [certificateIdentity,
      getFingerprintFromCertificatePath_frame (h path (List.mem_singleton_self path))]

def replaceCertificate (address newCertificatePath newCertificateChainPath newKeyPath : String)
    (oldCertificatePath oldFingerprint : Option String) (versions : List TlsVersion) :
    Ctl Unit := do
  let oldFingerprint ← propagate (certificateIdentity env
    "Error: Please provide either one, the old certificate's path OR its fingerprint"
    "Could not retrieve the fingerprint from the given certificate path"
    oldCertificatePath oldFingerprint)
  let newCertificate ← propagate (withContext
    (loadFullCertificate env newCertificatePath newCertificateChainPath newKeyPath versions)
    "Could not load the full certificate")
  orderRequest env (.replaceCertificate
    { address := address, newCertificate := newCertificate, oldFingerprint := oldFingerprint,
      newNames := [], newExpiredAt := none })
  pure ()

def removeCertificate (address : String) (certificatePath fingerprint : Option String) :
    Ctl Unit := do
  let fingerprint ← propagate (certificateIdentity env
    "Error: Please provide either one, the path OR the fingerprint of the certificate"
    "Could not retrieve the finger print from the given certificate path"
    certificatePath fingerprint)
  orderRequest env (.removeCertificate { address := address, fingerprint := fingerprint })

end

end SozuCtl
