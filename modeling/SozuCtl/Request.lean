import SozuCtl.Net.Addr

/-! The control protocol's requests, as far as this layer builds them, and the command-line
commands it builds them from. A map (`BTreeMap<String, String>`) is its list of entries in key
order. Types of the command library and of the command line whose code is not part of this
layer keep the fields this layer reads or writes. -/
namespace SozuCtl

/-- `Fingerprint`: a certificate's identity, its raw bytes. -/
structure Fingerprint where
  bytes : List UInt8
  deriving DecidableEq

inductive TlsVersion
  | sslV2 | sslV3 | tlsV10 | tlsV11 | tlsV12 | tlsV13
  deriving DecidableEq

/-- `CertificateAndKey`: a certificate ready to install. -/
structure CertificateAndKey where
  certificate : String
  certificateChain : List String
  key : String
  versions : List TlsVersion
  deriving DecidableEq

inductive ListenerType
  | http | https | tcp
  deriving DecidableEq

inductive ProxyProtocolConfig
  | expectHeader | sendHeader | relayHeader
  deriving DecidableEq

inductive LoadBalancingAlgorithms
  | roundRobin | random | leastLoaded | powerOfTwo
  deriving DecidableEq

/-- `LoadBalancingParams`; its derived `Default` has weight 0. -/
structure LoadBalancingParams where
  weight : Nat := 0
  deriving DecidableEq

inductive MetricsConfiguration
  | enabled | disabled | clear
  deriving DecidableEq

structure FrontendFilters where
  http : Bool
  https : Bool
  tcp : Bool
  domain : Option String
  deriving DecidableEq

inductive PathRuleKind
  | pre | regex | equals
  deriving DecidableEq

structure PathRule where
  kind : PathRuleKind
  value : String
  deriving DecidableEq

/-- Modelled from the spec: `PathRule::from_cli_options` builds the rule from the first option
given among a prefix, a regex and an exact path; with none it is the empty prefix, which every
path has. -/
def PathRule.fromCliOptions (pathPrefix pathRegex pathEquals : Option String) : PathRule :=
  match pathPrefix, pathRegex, pathEquals with
  | some p, _, _ => ⟨.pre, p⟩
  | none, some r, _ => ⟨.regex, r⟩
  | none, none, some e => ⟨.equals, e⟩
  | none, none, none => ⟨.pre, ""⟩

inductive RulePosition
  | pre | post | tree
  deriving DecidableEq

structure RequestHttpFrontend where
  clusterId : Option String
  address : String
  hostname : String
  path : PathRule
  method : Option String
  position : RulePosition
  tags : List (String × String)
  deriving DecidableEq

structure RequestTcpFrontend where
  clusterId : String
  address : String
  tags : Option (List (String × String))
  deriving DecidableEq

structure AddBackend where
  clusterId : String
  backendId : String
  address : String
  stickyId : Option String
  loadBalancingParameters : Option LoadBalancingParams
  backup : Option Bool
  deriving DecidableEq

structure RemoveBackend where
  clusterId : String
  backendId : String
  address : String
  deriving DecidableEq

/-- `Cluster`, without its `load_metric`, which this layer leaves unset. -/
structure Cluster where
  clusterId : String
  stickySession : Bool
  httpsRedirect : Bool
  proxyProtocol : Option ProxyProtocolConfig
  loadBalancing : LoadBalancingAlgorithms
  answer503 : Option String
  deriving DecidableEq

inductive ListenerProtocol
  | http | https | tcp
  deriving DecidableEq

/-- Modelled from the spec: `ListenerBuilder`, an accumulator of the listener's optional
fields for one protocol kind; each `with_*` setter stores its argument. -/
structure ListenerBuilder where
  address : SocketAddr
  protocol : ListenerProtocol
  publicAddress : Option SocketAddr := none
  answer404 : Option String := none
  answer503 : Option String := none
  tlsVersions : Option (List TlsVersion) := none
  cipherList : Option (List String) := none
  expectProxy : Option Bool := none
  stickyName : Option String := none
  frontTimeout : Option UInt32 := none
  backTimeout : Option UInt32 := none
  requestTimeout : Option UInt32 := none
  connectTimeout : Option UInt32 := none
  deriving DecidableEq

/-- `ListenerBuilder::new_http`. -/
def ListenerBuilder.newHttp (address : SocketAddr) : ListenerBuilder :=
  { address, protocol := .http }

/-- `ListenerBuilder::new_https`. -/
def ListenerBuilder.newHttps (address : SocketAddr) : ListenerBuilder :=
  { address, protocol := .https }

/-- `ListenerBuilder::new_tcp`. -/
def ListenerBuilder.newTcp (address : SocketAddr) : ListenerBuilder :=
  { address, protocol := .tcp }

/-- Modelled from the spec: the finalized listener descriptor (`HttpListenerConfig`,
`HttpsListenerConfig`, `TcpListenerConfig`), which this layer passes on unread. -/
structure ListenerConfig where
  protocol : ListenerProtocol
  address : SocketAddr
  publicAddress : Option SocketAddr
  answer404 : Option String
  answer503 : Option String
  versions : List TlsVersion
  cipherList : Option (List String)
  expectProxy : Bool
  stickyName : Option String
  frontTimeout : Option UInt32
  backTimeout : Option UInt32
  requestTimeout : Option UInt32
  connectTimeout : Option UInt32
  deriving DecidableEq

structure RemoveListener where
  address : SocketAddr
  proxy : ListenerType
  deriving DecidableEq

structure ActivateListener where
  address : SocketAddr
  proxy : ListenerType
  fromScm : Bool
  deriving DecidableEq

structure DeactivateListener where
  address : SocketAddr
  proxy : ListenerType
  toScm : Bool
  deriving DecidableEq

structure AddCertificate where
  address : String
  certificate : CertificateAndKey
  names : List String
  expiredAt : Option Int
  deriving DecidableEq

structure ReplaceCertificate where
  address : String
  newCertificate : CertificateAndKey
  oldFingerprint : Fingerprint
  newNames : List String
  newExpiredAt : Option Int
  deriving DecidableEq

structure RemoveCertificate where
  address : String
  fingerprint : Fingerprint
  deriving DecidableEq

/-- `Request`: the variants this layer builds. -/
inductive Request
  | saveState (path : String)
  | loadState (path : String)
  | dumpState
  | softStop
  | hardStop
  | status
  | configureMetrics (configuration : MetricsConfiguration)
  | reloadConfiguration (path : Option String)
  | listFrontends (filters : FrontendFilters)
  | subscribeEvents
  | addBackend (backend : AddBackend)
  | removeBackend (backend : RemoveBackend)
  | addCluster (cluster : Cluster)
  | removeCluster (clusterId : String)
  | addTcpFrontend (frontend : RequestTcpFrontend)
  | removeTcpFrontend (frontend : RequestTcpFrontend)
  | addHttpFrontend (frontend : RequestHttpFrontend)
  | removeHttpFrontend (frontend : RequestHttpFrontend)
  | addHttpsFrontend (frontend : RequestHttpFrontend)
  | removeHttpsFrontend (frontend : RequestHttpFrontend)
  | addHttpsListener (listener : ListenerConfig)
  | addHttpListener (listener : ListenerConfig)
  | addTcpListener (listener : ListenerConfig)
  | listListeners
  | removeListener (listener : RemoveListener)
  | activateListener (listener : ActivateListener)
  | deactivateListener (listener : DeactivateListener)
  | logging (filter : String)
  | addCertificate (certificate : AddCertificate)
  | replaceCertificate (certificate : ReplaceCertificate)
  | removeCertificate (certificate : RemoveCertificate)
  deriving DecidableEq

/-! ### Commands of the command line -/

inductive MetricsCmd
  | enable | disable | clear
  /-- `MetricsCmd::Get { .. }`, whose fields this layer does not read. -/
  | get
  deriving DecidableEq

inductive BackendCmd
  | add (id backendId : String) (address : SocketAddr) (stickyId : Option String)
      (backup : Option Bool)
  | remove (id backendId : String) (address : SocketAddr)
  deriving DecidableEq

inductive ClusterCmd
  | add (id : String) (stickySession httpsRedirect sendProxy expectProxy : Bool)
      (loadBalancingPolicy : LoadBalancingAlgorithms)
  | remove (id : String)
  deriving DecidableEq

inductive TcpFrontendCmd
  | add (id : String) (address : SocketAddr) (tags : Option (List (String × String)))
  | remove (id : String) (address : SocketAddr)
  deriving DecidableEq

inductive HttpFrontendCmd
  | add (hostname : String) (pathPrefix pathRegex pathEquals : Option String)
      (address : SocketAddr) (method clusterId : Option String)
      (tags : Option (List (String × String)))
  | remove (hostname : String) (pathPrefix pathRegex pathEquals : Option String)
      (address : SocketAddr) (method clusterId : Option String)
  deriving DecidableEq

inductive HttpsListenerCmd
  | add (address : SocketAddr) (publicAddress : Option SocketAddr)
      (answer404 answer503 : Option String) (tlsVersions : List TlsVersion)
      (cipherList : Option (List String)) (expectProxy : Bool) (stickyName : Option String)
      (frontTimeout backTimeout requestTimeout connectTimeout : Option UInt32)
  | remove (address : SocketAddr)
  | activate (address : SocketAddr)
  | deactivate (address : SocketAddr)
  deriving DecidableEq

inductive HttpListenerCmd
  | add (address : SocketAddr) (publicAddress : Option SocketAddr)
      (answer404 answer503 : Option String) (expectProxy : Bool) (stickyName : Option String)
      (frontTimeout backTimeout requestTimeout connectTimeout : Option UInt32)
  | remove (address : SocketAddr)
  | activate (address : SocketAddr)
  | deactivate (address : SocketAddr)
  deriving DecidableEq

inductive TcpListenerCmd
  | add (address : SocketAddr) (publicAddress : Option SocketAddr) (expectProxy : Bool)
  | remove (address : SocketAddr)
  | activate (address : SocketAddr)
  | deactivate (address : SocketAddr)
  deriving DecidableEq

/-- `LoggingLevel`, as the text its `Display` writes, the only thing this layer reads of it. -/
structure LoggingLevel where
  display : String
  deriving DecidableEq

end SozuCtl
