import SozuCtl.CommandManager

/-! Routing requests: what an add creates and what the matching removal names. -/
namespace SozuCtl

section
variable (env : Env)

/-- A removal names exactly what the matching add creates. The HTTP and HTTPS frontends of one
command share their routing key: the route, the address's text, the hostname, the path rule of
the three path options, the method and the tree position; an add carries the command's tags, a
removal none. A TCP frontend's removal is its add without tags; a backend's removal carries its
add's cluster, backend id and address. -/
theorem removal_matches_add :
    (∀ (hostname : String) (pathPrefix pathRegex pathEquals : Option String)
      (address : SocketAddr) (method clusterId : Option String)
      (tags : Option (List (String × String))),
      let key : RequestHttpFrontend :=
        { clusterId := clusterId, address := address.toString, hostname := hostname,
          path := PathRule.fromCliOptions pathPrefix pathRegex pathEquals, method := method,
          position := .tree, tags := [] }
      httpFrontendCommand env
          (.add hostname pathPrefix pathRegex pathEquals address method clusterId tags) =
        orderRequest env (.addHttpFrontend { key with tags := tags.getD [] }) ∧
      httpFrontendCommand env
          (.remove hostname pathPrefix pathRegex pathEquals address method clusterId) =
        orderRequest env (.removeHttpFrontend key) ∧
      httpsFrontendCommand env
          (.add hostname pathPrefix pathRegex pathEquals address method clusterId tags) =
        orderRequest env (.addHttpsFrontend { key with tags := tags.getD [] }) ∧
      httpsFrontendCommand env
          (.remove hostname pathPrefix pathRegex pathEquals address method clusterId) =
        orderRequest env (.removeHttpsFrontend key)) ∧
    (∀ (id : String) (address : SocketAddr) (tags : Option (List (String × String))),
      let frontend : RequestTcpFrontend :=
        { clusterId := id, address := address.toString, tags := tags }
      tcpFrontendCommand env (.add id address tags) =
        orderRequest env (.addTcpFrontend frontend) ∧
      tcpFrontendCommand env (.remove id address) =
        orderRequest env (.removeTcpFrontend { frontend with tags := none })) ∧
    ∀ (id backendId : String) (address : SocketAddr) (stickyId : Option String)
      (backup : Option Bool),
      backendCommand env (.add id backendId address stickyId backup) =
        orderRequest env (.addBackend
          { clusterId := id, backendId := backendId, address := address.toString,
            stickyId := stickyId, loadBalancingParameters := some {}, backup := backup }) ∧
      backendCommand env (.remove id backendId address) =
        orderRequest env (.removeBackend
          { clusterId := id, backendId := backendId, address := address.toString }) := by
  refine ⟨fun _ _ _ _ _ _ _ tags => ?_, fun _ _ _ => ⟨rfl, rfl⟩,
    fun _ _ _ _ _ => ⟨rfl, rfl⟩⟩
  exact ⟨by cases tags <;> rfl, rfl, by cases tags <;> rfl, rfl⟩

end

end SozuCtl
