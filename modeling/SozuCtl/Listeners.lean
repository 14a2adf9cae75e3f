import SozuCtl.CommandManager
import SozuCtl.Net.RoundTrip

/-! The listener handlers hand `remove_listener`, `activate_listener` and `deactivate_listener`
the text of the command's address, which those parse back. Printing and parsing keep all of an
address but an IPv6 flow label, so the handlers never reach the "wrong socket address" branch,
and they send the address with its flow label cleared. -/
namespace SozuCtl

section
variable (env : Env)

/-- A listener order sends its request at the address its text parses to, and stops in this
layer, sending nothing, when the text does not parse. -/
theorem listenerOrder_run (request : SocketAddr → Request) (address : String)
    (s : CommandManager) :
    (listenerOrder env request address).run s = match SocketAddr.fromStr address with
      | .ok a => (orderRequest env (request a)).run s
      | .error e => .error (.layer ⟨.addrParse e, ["wrong socket address"]⟩) s := by
  unfold listenerOrder
  rcases SocketAddr.fromStr address with _ | _ <;> rfl

example : SocketAddr.fromStr "not-an-address" = .error .socket := by rfl

theorem listenerOrder_toString (request : SocketAddr → Request) {a : SocketAddr}
    (h : a.flowinfo = 0) : listenerOrder env request a.toString = orderRequest env (request a) := by
  simp only [listenerOrder, SocketAddr.fromStr_toString a h]
  rfl

/-- A listener order at an address's text sends its request at that address with its flow
label cleared. -/
theorem listenerOrder_clearFlowinfo (request : SocketAddr → Request) (a : SocketAddr) :
    listenerOrder env request a.toString = orderRequest env (request a.clearFlowinfo) := by
  simp only [listenerOrder, SocketAddr.fromStr_toString_clearFlowinfo a]
  rfl

end

/-- The listener handlers print the command's address and parse the text back, which keeps all
of it but an IPv6 flow label: for every address, each handler's removal, activation and
deactivation sends one request for the address with its flow label cleared. -/
theorem listener_handlers_clear_flowinfo (env : Env) (a : SocketAddr) :
    httpListenerCommand env (.remove a) =
      orderRequest env (.removeListener { address := a.clearFlowinfo, proxy := .http }) ∧
    httpListenerCommand env (.activate a) = orderRequest env
      (.activateListener { address := a.clearFlowinfo, proxy := .http, fromScm := false }) ∧
    httpListenerCommand env (.deactivate a) = orderRequest env
      (.deactivateListener { address := a.clearFlowinfo, proxy := .http, toScm := false }) ∧
    httpsListenerCommand env (.remove a) =
      orderRequest env (.removeListener { address := a.clearFlowinfo, proxy := .https }) ∧
    httpsListenerCommand env (.activate a) = orderRequest env
      (.activateListener { address := a.clearFlowinfo, proxy := .https, fromScm := false }) ∧
    httpsListenerCommand env (.deactivate a) = orderRequest env
      (.deactivateListener { address := a.clearFlowinfo, proxy := .https, toScm := false }) ∧
    tcpListenerCommand env (.remove a) =
      orderRequest env (.removeListener { address := a.clearFlowinfo, proxy := .tcp }) ∧
    tcpListenerCommand env (.activate a) = orderRequest env
      (.activateListener { address := a.clearFlowinfo, proxy := .tcp, fromScm := false }) ∧
    tcpListenerCommand env (.deactivate a) = orderRequest env
      (.deactivateListener { address := a.clearFlowinfo, proxy := .tcp, toScm := false }) := by
  refine ⟨?_, ?_, ?_, ?_, ?_, ?_, ?_, ?_, ?_⟩ <;> exact listenerOrder_clearFlowinfo env _ a

/-- Listener address round trip: an address with no flow label is printed and parsed back
unchanged, so each listener handler's removal, activation and deactivation sends one request
for that address and the handler's listener type. -/
theorem listener_address_round_trip (a : SocketAddr) (h : a.flowinfo = 0) :
    SocketAddr.fromStr a.toString = .ok a ∧ ∀ env : Env,
      httpListenerCommand env (.remove a) =
        orderRequest env (.removeListener { address := a, proxy := .http }) ∧
      httpListenerCommand env (.activate a) =
        orderRequest env (.activateListener { address := a, proxy := .http, fromScm := false }) ∧
      httpListenerCommand env (.deactivate a) =
        orderRequest env (.deactivateListener { address := a, proxy := .http, toScm := false }) ∧
      httpsListenerCommand env (.remove a) =
        orderRequest env (.removeListener { address := a, proxy := .https }) ∧
      httpsListenerCommand env (.activate a) =
        orderRequest env (.activateListener { address := a, proxy := .https, fromScm := false }) ∧
      httpsListenerCommand env (.deactivate a) =
        orderRequest env (.deactivateListener { address := a, proxy := .https, toScm := false }) ∧
      tcpListenerCommand env (.remove a) =
        orderRequest env (.removeListener { address := a, proxy := .tcp }) ∧
      tcpListenerCommand env (.activate a) =
        orderRequest env (.activateListener { address := a, proxy := .tcp, fromScm := false }) ∧
      tcpListenerCommand env (.deactivate a) =
        orderRequest env (.deactivateListener { address := a, proxy := .tcp, toScm := false }) := by
  refine ⟨SocketAddr.fromStr_toString a h, fun env => ?_⟩
  refine ⟨?_, ?_, ?_, ?_, ?_, ?_, ?_, ?_, ?_⟩ <;> exact listenerOrder_toString env _ h

theorem listener_address_round_trip_loopback :
    let a := SocketAddr.v6 ⟨Ipv6Addr.ofArray [0, 0, 0, 0, 0, 0, 0, 1], 8080, 0, 0⟩
    a.flowinfo = 0 ∧ SocketAddr.fromStr a.toString = .ok a ∧ ∀ env : Env,
      httpListenerCommand env (.remove a) =
        orderRequest env (.removeListener { address := a, proxy := .http }) ∧
      httpListenerCommand env (.activate a) =
        orderRequest env (.activateListener { address := a, proxy := .http, fromScm := false }) ∧
      httpListenerCommand env (.deactivate a) =
        orderRequest env (.deactivateListener { address := a, proxy := .http, toScm := false }) ∧
      httpsListenerCommand env (.remove a) =
        orderRequest env (.removeListener { address := a, proxy := .https }) ∧
      httpsListenerCommand env (.activate a) =
        orderRequest env (.activateListener { address := a, proxy := .https, fromScm := false }) ∧
      httpsListenerCommand env (.deactivate a) =
        orderRequest env (.deactivateListener { address := a, proxy := .https, toScm := false }) ∧
      tcpListenerCommand env (.remove a) =
        orderRequest env (.removeListener { address := a, proxy := .tcp }) ∧
      tcpListenerCommand env (.activate a) =
        orderRequest env (.activateListener { address := a, proxy := .tcp, fromScm := false }) ∧
      tcpListenerCommand env (.deactivate a) =
        orderRequest env (.deactivateListener { address := a, proxy := .tcp, toScm := false }) :=
  ⟨rfl, listener_address_round_trip _ rfl⟩

end SozuCtl
