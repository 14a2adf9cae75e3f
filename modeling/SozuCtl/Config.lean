import SozuCtl.Request
import SozuCtl.Net.Parser
import SozuCtl.Hex
import SozuCtl.Utf8

/-! What this layer stands on: the file system, the command library's functions it calls, the
transport that delivers orders, and the errors of `anyhow`, each a cause under the contexts
the layer wraps it in. A failed read is an `io::Error`, which does not name the file; only the
contexts the callers add do. -/
namespace SozuCtl

/-- What the transport is handed: `order_request` sends to the proxy,
`order_request_to_all_workers` to every worker, with an output switch. -/
inductive Order
  | request (r : Request)
  | allWorkers (r : Request) (json : Bool)
  deriving DecidableEq

/-- The `io::Error` of a failed read, which does not name the file: the file system refused
it, or `read_to_string` found bytes that are not UTF-8 (`ErrorKind::InvalidData`). -/
inductive IoError
  | unreadable
  | invalidData
  deriving DecidableEq

/-- What an error of this layer started from. -/
inductive Cause
  /-- `bail!` with a message of this layer. -/
  | bail (msg : String)
  /-- The `io::Error` of `Config::load_file` or `Config::load_file_bytes`. -/
  | io (e : IoError)
  /-- An error of `calculate_fingerprint`. -/
  | fingerprint (msg : String)
  | hex (e : FromHexError)
  | addrParse (e : AddrParseError)
  /-- The command library's error for an answer page of
  `ListenerBuilder::get_404_503_answers` that cannot be read as text: the page's path and the
  `io::Error`. -/
  | answerPage (path : String) (e : IoError)
  /-- Any other error of `ListenerBuilder::to_http`, `to_tls` or `to_tcp`. -/
  | listener (msg : String)
  deriving DecidableEq

/-- `anyhow::Error`: a cause under the contexts added to it, the outermost first. -/
structure Error where
  cause : Cause
  context : List String
  deriving DecidableEq

def Error.ofCause (c : Cause) : Error := ⟨c, []⟩

/-- `Context::with_context`: the error, if any, gets `msg` as its outermost context. -/
def withContext {α : Type} (x : Except Error α) (msg : String) : Except Error α :=
  x.mapError fun e => { e with context := msg :: e.context }

/-- `bail!`. -/
def bail {α : Type} (msg : String) : Except Error α := .error (.ofCause (.bail msg))

/-- The world a call runs in. -/
structure Env where
  /-- The file system: a path's bytes, or nothing when it cannot be read. -/
  files : String → Option (List UInt8)
  calculateFingerprint : List UInt8 → Except String (List UInt8)
  splitCertificateChain : String → List String
  /-- `ListenerBuilder::to_http` past its reading of the answer pages: the builder and the 404
  and 503 pages read, `none` standing for the built-in page. -/
  finishHttp : ListenerBuilder → Option String → Option String → Except String ListenerConfig
  /-- `ListenerBuilder::to_tls` past its reading of the answer pages. -/
  finishTls : ListenerBuilder → Option String → Option String → Except String ListenerConfig
  /-- `ListenerBuilder::to_tcp`, which reads no file. -/
  toTcp : ListenerBuilder → Except String ListenerConfig
  /-- The proxy's answer to an order, given the orders sent before it. -/
  answer : List Order → Order → Except String Unit

section
variable (env : Env)

/-- `std::fs::read_to_string`: the file's text, or the `io::Error` it fails with. -/
def readToString (path : String) : Except IoError String :=
  match env.files path with
  | some bytes =>
    match String.fromUTF8? ⟨bytes.toArray⟩ with
    | some text => .ok text
    | none => .error .invalidData
  | none => .error .unreadable

/-- `Config::load_file_bytes`: `std::fs::read`. -/
def loadFileBytes (path : String) : Except Error (List UInt8) :=
  match env.files path with
  | some bytes => .ok bytes
  | none => .error (.ofCause (.io .unreadable))

/-- `Config::load_file`: `std::fs::read_to_string`. -/
def loadFile (path : String) : Except Error String :=
  (readToString env path).mapError fun e => .ofCause (.io e)

/-- One page of `ListenerBuilder::get_404_503_answers`: the file at the page's path read as
text, or with no path the built-in page. -/
def readAnswer : Option String → Except Error (Option String)
  | some path =>
    ((readToString env path).map some).mapError fun e => .ofCause (.answerPage path e)
  | none => .ok none

/-- `ListenerBuilder::to_http` and `to_tls`, which differ only in the checks after the answer
pages: the 404 and 503 pages, then `finish`. -/
def ListenerBuilder.toConfig
    (finish : ListenerBuilder → Option String → Option String → Except String ListenerConfig)
    (builder : ListenerBuilder) : Except Error ListenerConfig := do
  let answer404 ← readAnswer env builder.answer404
  let answer503 ← readAnswer env builder.answer503
  (finish builder answer404 answer503).mapError fun msg => .ofCause (.listener msg)

/-- `ListenerBuilder::to_http`. -/
def ListenerBuilder.toHttp (builder : ListenerBuilder) : Except Error ListenerConfig :=
  ListenerBuilder.toConfig env env.finishHttp builder

/-- `ListenerBuilder::to_tls`. -/
def ListenerBuilder.toTls (builder : ListenerBuilder) : Except Error ListenerConfig :=
  ListenerBuilder.toConfig env env.finishTls builder

/-- `ListenerBuilder::to_tcp`. -/
def ListenerBuilder.toTcp (builder : ListenerBuilder) : Except Error ListenerConfig :=
  (env.toTcp builder).mapError fun msg => .ofCause (.listener msg)

end

/-- `read_to_string` reads a file as a text exactly when the file's bytes are that text's
UTF-8. -/
theorem readToString_eq_ok {env : Env} {path s : String} :
    readToString env path = .ok s ↔ env.files path = some (asBytes s) := by
  unfold readToString
  constructor
  · intro h
    split at h
    next bytes hb =>
      split at h
      next text ht =>
        cases h
        rw [hb, asBytes_fromUTF8? ht]
      next => cases h
    next => cases h
  · intro h
    simp only [h, fromUTF8?_asBytes]

/-- `read_to_string` fails exactly when the file system refuses the file, or when its bytes are
no text's UTF-8. -/
theorem readToString_eq_error {env : Env} {path : String} {k : IoError} :
    readToString env path = .error k ↔
      env.files path = none ∧ k = .unreadable ∨
        ∃ bytes, env.files path = some bytes ∧ (∀ s, asBytes s ≠ bytes) ∧
          k = .invalidData := by
  unfold readToString
  rcases hf : env.files path with _ | bytes
  · simpa using eq_comm
  rcases hu : String.fromUTF8? ⟨bytes.toArray⟩ with _ | text
  · have hno : ∀ s, asBytes s ≠ bytes := fun s hs => by
      rw [← hs, fromUTF8?_asBytes] at hu
      cases hu
    simpa [hu, hno] using eq_comm
  · have hyes := asBytes_fromUTF8? hu
    simp only [hu, reduceCtorEq, false_iff]
    rintro (⟨h, -⟩ | ⟨b, hb, hno, -⟩)
    · cases h
    · cases hb
      exact hno text hyes

theorem loadFile_eq_ok {env : Env} {path s : String} :
    loadFile env path = .ok s ↔ env.files path = some (asBytes s) := by
  rw [← readToString_eq_ok, loadFile]
  cases readToString env path <;> simp [Except.mapError]

/-- `std::fs::read_to_string` reads the file system at its path only. -/
theorem readToString_frame {env : Env} {files : String → Option (List UInt8)} {path : String}
    (h : files path = env.files path) :
    readToString { env with files := files } path = readToString env path := by
  simp only [readToString, h]

/-- `load_file_bytes` reads the file system at its path only. -/
theorem loadFileBytes_frame {env : Env} {files : String → Option (List UInt8)} {path : String}
    (h : files path = env.files path) :
    loadFileBytes { env with files := files } path = loadFileBytes env path := by
  simp only [loadFileBytes, h]

theorem loadFile_frame {env : Env} {files : String → Option (List UInt8)} {path : String}
    (h : files path = env.files path) :
    loadFile { env with files := files } path = loadFile env path := by
  simp only [loadFile, readToString_frame h]

theorem readAnswer_frame {env : Env} {files : String → Option (List UInt8)}
    {page : Option String} (h : ∀ p ∈ page.toList, files p = env.files p) :
    readAnswer { env with files := files } page = readAnswer env page := by
  cases page with
  | none => rfl
  | some path =>
    simp only [readAnswer, readToString_frame (h path (List.mem_singleton_self path))]

/-- `to_http` and `to_tls` read the file system at the builder's answer pages only. -/
theorem ListenerBuilder.toConfig_frame {env : Env} {files : String → Option (List UInt8)}
    (finish : ListenerBuilder → Option String → Option String → Except String ListenerConfig)
    {builder : ListenerBuilder}
    (h : ∀ p ∈ builder.answer404.toList ++ builder.answer503.toList, files p = env.files p) :
    ListenerBuilder.toConfig { env with files := files } finish builder =
      ListenerBuilder.toConfig env finish builder := by
  simp only [List.mem_append] at h
  simp only [ListenerBuilder.toConfig, readAnswer_frame fun p hp => h p (.inl hp),
    readAnswer_frame fun p hp => h p (.inr hp)]

@[simp] theorem withContext_ok {α : Type} (a : α) (msg : String) :
    withContext (.ok a) msg = .ok a := rfl

@[simp] theorem withContext_error {α : Type} (e : Error) (msg : String) :
    withContext (.error e : Except Error α) msg = .error { e with context := msg :: e.context } :=
  rfl

theorem withContext_eq_ok {α : Type} {x : Except Error α} {msg : String} {a : α} :
    withContext x msg = .ok a ↔ x = .ok a := by
  cases x <;> simp [Except.ok.injEq]

end SozuCtl
