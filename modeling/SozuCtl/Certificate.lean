import SozuCtl.Config

/-! Certificates: a certificate's identity from its file or from a hex fingerprint, and the
bundle of certificate, chain and key read from three files. -/
namespace SozuCtl

section
variable (env : Env)

/-- `get_fingerprint_from_certificate_path`. -/
def getFingerprintFromCertificatePath (certificatePath : String) : Except Error Fingerprint := do
  let bytes ← withContext (loadFileBytes env certificatePath)
    ("could not load certificate file on path " ++ certificatePath)
  let parsedBytes ← withContext
    ((env.calculateFingerprint bytes).mapError fun msg => .ofCause (.fingerprint msg))
    ("could not calculate fingerprint for the certificate at " ++ certificatePath)
  pure ⟨parsedBytes⟩

/-- `load_full_certificate`. -/
def loadFullCertificate (certificatePath certificateChainPath keyPath : String)
    (versions : List TlsVersion) : Except Error CertificateAndKey := do
  let certificate ← withContext (loadFile env certificatePath)
    ("Could not load certificate file on path " ++ certificatePath)
  let certificateChain ← withContext
    ((loadFile env certificateChainPath).map env.splitCertificateChain)
    ("could not load certificate chain on path: " ++ certificateChainPath)
  let key ← withContext (loadFile env keyPath) ("Could not load key file on path " ++ keyPath)
  pure { certificate, certificateChain, key, versions }

end

/-- `decode_fingerprint`. -/
def decodeFingerprint (fingerprint : String) : Except Error Fingerprint := do
  let bytes ← withContext ((hexDecode (asBytes fingerprint)).mapError fun e => .ofCause (.hex e))
    "Failed at decoding the string (expected hexadecimal data)"
  pure ⟨bytes⟩

theorem getFingerprintFromCertificatePath_eq_ok {env : Env} {path : String} {fp : Fingerprint} :
    getFingerprintFromCertificatePath env path = .ok fp ↔
      ∃ bytes, env.files path = some bytes ∧ env.calculateFingerprint bytes = .ok fp.bytes := by
  obtain ⟨fp⟩ := fp
  unfold getFingerprintFromCertificatePath loadFileBytes
  rcases hf : env.files path with _ | bytes
  · simp [bind, Except.bind]
  · rcases hc : env.calculateFingerprint bytes with msg | v <;>
      simp [hc, bind, Except.bind, pure, Except.pure, Except.mapError, withContext]

theorem decodeFingerprint_eq_ok {s : String} {fp : Fingerprint} :
    decodeFingerprint s = .ok fp ↔ hexDecode (asBytes s) = .ok fp.bytes := by
  obtain ⟨fp⟩ := fp
  unfold decodeFingerprint
  rcases h : hexDecode (asBytes s) with e | v <;>
    simp [h, bind, Except.bind, pure, Except.pure, Except.mapError, withContext, eq_comm]

/-- `decode_fingerprint` accepts exactly the even-length strings of hex digits and gives half
as many bytes, which `hex::encode` writes back as the string in lower case; it reads back
what `hex::encode` and `hex::encode_upper` write. -/
theorem decodeFingerprint_codec :
    (∀ s : String, (∃ fp, decodeFingerprint s = .ok fp) ↔
      s.length % 2 = 0 ∧ ∀ c ∈ s.data, IsHexChar c) ∧
    (∀ (s : String) (fp : Fingerprint), decodeFingerprint s = .ok fp →
      fp.bytes.length = s.length / 2 ∧ (hexEncode fp.bytes).data = s.data.map Char.toLower) ∧
    ∀ b : List UInt8, decodeFingerprint (hexEncode b) = .ok ⟨b⟩ ∧
      decodeFingerprint (hexEncodeUpper b) = .ok ⟨b⟩ := by
  refine ⟨fun s => ?_, fun s fp h => hexDecode_lower (decodeFingerprint_eq_ok.mp h),
    fun b => ⟨decodeFingerprint_eq_ok.mpr (hexDecode_encodeChars hexCharsLower_table b),
      decodeFingerprint_eq_ok.mpr (hexDecode_encodeChars hexCharsUpper_table b)⟩⟩
  rw [← hexDecode_ok_iff]
  exact ⟨fun ⟨fp, h⟩ => ⟨fp.bytes, decodeFingerprint_eq_ok.mp h⟩,
    fun ⟨v, h⟩ => ⟨⟨v⟩, decodeFingerprint_eq_ok.mpr h⟩⟩

/-- `decode_fingerprint` fails with the error `hex::decode` owes the string's bytes, under its
one context. -/
theorem decodeFingerprint_error {s : String} {e : Error} (h : decodeFingerprint s = .error e) :
    ∃ he, e = ⟨.hex he, ["Failed at decoding the string (expected hexadecimal data)"]⟩ ∧
      HexError (asBytes s) he := by
  unfold decodeFingerprint at h
  rcases hd : hexDecode (asBytes s) with he | v <;> rw [hd] at h <;> cases h
  exact ⟨he, rfl, hexDecode_error hd⟩

theorem decodeFingerprint_error_letter :
    let e : Error := ⟨.hex (.invalidHexCharacter 'g' 1),
      ["Failed at decoding the string (expected hexadecimal data)"]⟩
    decodeFingerprint "0g" = .error e ∧
      ∃ he, e = ⟨.hex he, ["Failed at decoding the string (expected hexadecimal data)"]⟩ ∧
        HexError (asBytes "0g") he :=
  ⟨rfl, decodeFingerprint_error rfl⟩

/-- What a successful `load_full_certificate` returns: the certificate and the key as their
files' texts, the chain as its file's text split into certificates. -/
theorem files_of_loadFullCertificate {env : Env}
    {certificatePath certificateChainPath keyPath : String} {versions : List TlsVersion}
    {b : CertificateAndKey}
    (h : loadFullCertificate env certificatePath certificateChainPath keyPath versions = .ok b) :
    ∃ chain, env.files certificatePath = some (asBytes b.certificate) ∧
      env.files certificateChainPath = some (asBytes chain) ∧
      env.files keyPath = some (asBytes b.key) ∧
      b.certificateChain = env.splitCertificateChain chain ∧ b.versions = versions := by
  unfold loadFullCertificate at h
  rcases h1 : loadFile env certificatePath with e1 | c <;> rw [h1] at h
  · cases h
  rcases h2 : loadFile env certificateChainPath with e2 | cc <;> rw [h2] at h
  · cases h
  rcases h3 : loadFile env keyPath with e3 | k <;> rw [h3] at h
  · cases h
  cases h
  exact ⟨cc, loadFile_eq_ok.mp h1, loadFile_eq_ok.mp h2, loadFile_eq_ok.mp h3, rfl, rfl⟩

theorem loadFullCertificate_of_files {env : Env}
    {certificatePath certificateChainPath keyPath chain : String} {versions : List TlsVersion}
    {b : CertificateAndKey} (h1 : env.files certificatePath = some (asBytes b.certificate))
    (h2 : env.files certificateChainPath = some (asBytes chain))
    (h3 : env.files keyPath = some (asBytes b.key))
    (hc : b.certificateChain = env.splitCertificateChain chain) (hv : b.versions = versions) :
    loadFullCertificate env certificatePath certificateChainPath keyPath versions = .ok b := by
  unfold loadFullCertificate
  rw [loadFile_eq_ok.mpr h1, loadFile_eq_ok.mpr h2, loadFile_eq_ok.mpr h3]
  obtain ⟨c, cc, k, v⟩ := b
  dsimp only at hc hv
  subst hc hv
  rfl

/-- `load_full_certificate` succeeds exactly when its three files hold UTF-8 texts: the
certificate and the key as read, the chain as its text split into certificates. -/
theorem loadFullCertificate_eq_ok {env : Env}
    {certificatePath certificateChainPath keyPath : String} {versions : List TlsVersion}
    {b : CertificateAndKey} :
    loadFullCertificate env certificatePath certificateChainPath keyPath versions = .ok b ↔
      ∃ chain, env.files certificatePath = some (asBytes b.certificate) ∧
        env.files certificateChainPath = some (asBytes chain) ∧
        env.files keyPath = some (asBytes b.key) ∧
        b.certificateChain = env.splitCertificateChain chain ∧ b.versions = versions :=
  ⟨files_of_loadFullCertificate, fun ⟨_, h1, h2, h3, hc, hv⟩ =>
    loadFullCertificate_of_files h1 h2 h3 hc hv⟩

theorem getFingerprintFromCertificatePath_frame {env : Env}
    {files : String → Option (List UInt8)} {path : String} (h : files path = env.files path) :
    getFingerprintFromCertificatePath { env with files := files } path =
      getFingerprintFromCertificatePath env path := by
  simp only [getFingerprintFromCertificatePath, loadFileBytes_frame h]

theorem loadFullCertificate_frame {env : Env} {files : String → Option (List UInt8)}
    {certificatePath certificateChainPath keyPath : String} (versions : List TlsVersion)
    (h : ∀ p ∈ [certificatePath, certificateChainPath, keyPath], files p = env.files p) :
    loadFullCertificate { env with files := files } certificatePath certificateChainPath keyPath
      versions = loadFullCertificate env certificatePath certificateChainPath keyPath versions := by
  simp only [List.mem_cons, List.mem_singleton, List.not_mem_nil, or_false, forall_eq_or_imp,
    forall_eq] at h
  simp only [loadFullCertificate, loadFile_frame h.1, loadFile_frame h.2.1, loadFile_frame h.2.2]

/-- A failure to read a certificate's files is the `io::Error` of the first file that could
not be read, under the one context that names that file; the files before it were read. A
fingerprint by path fails on the unreadable file or on `calculate_fingerprint`'s error, under a
context naming the path. -/
theorem certificate_file_errors (env : Env) :
    (∀ certificatePath certificateChainPath keyPath versions e,
      loadFullCertificate env certificatePath certificateChainPath keyPath versions = .error e →
        (∃ k, readToString env certificatePath = .error k ∧
          e = ⟨.io k, ["Could not load certificate file on path " ++ certificatePath]⟩) ∨
        (∃ c k, readToString env certificatePath = .ok c ∧
          readToString env certificateChainPath = .error k ∧
          e = ⟨.io k,
            ["could not load certificate chain on path: " ++ certificateChainPath]⟩) ∨
        ∃ c cc k, readToString env certificatePath = .ok c ∧
          readToString env certificateChainPath = .ok cc ∧ readToString env keyPath = .error k ∧
          e = ⟨.io k, ["Could not load key file on path " ++ keyPath]⟩) ∧
    ∀ certificatePath e, getFingerprintFromCertificatePath env certificatePath = .error e →
      (env.files certificatePath = none ∧
        e = ⟨.io .unreadable,
          ["could not load certificate file on path " ++ certificatePath]⟩) ∨
      ∃ bytes msg, env.files certificatePath = some bytes ∧
        env.calculateFingerprint bytes = .error msg ∧
        e = ⟨.fingerprint msg,
          ["could not calculate fingerprint for the certificate at " ++ certificatePath]⟩ := by
  constructor
  · intro certificatePath certificateChainPath keyPath versions e h
    unfold loadFullCertificate loadFile at h
    rcases h1 : readToString env certificatePath with k | c <;> rw [h1] at h
    · cases h; exact .inl ⟨k, rfl, rfl⟩
    rcases h2 : readToString env certificateChainPath with k | cc <;> rw [h2] at h
    · cases h; exact .inr (.inl ⟨c, k, rfl, rfl, rfl⟩)
    rcases h3 : readToString env keyPath with k | key <;> rw [h3] at h
    · cases h; exact .inr (.inr ⟨c, cc, k, rfl, rfl, rfl, rfl⟩)
    · cases h
  · intro certificatePath e h
    unfold getFingerprintFromCertificatePath loadFileBytes at h
    rcases hf : env.files certificatePath with _ | bytes <;> rw [hf] at h
    · cases h; exact .inl ⟨rfl, rfl⟩
    dsimp only [bind, Except.bind, withContext, Except.mapError] at h
    rcases hc : env.calculateFingerprint bytes with msg | v <;> rw [hc] at h <;> cases h
    exact .inr ⟨bytes, msg, rfl, hc, rfl⟩

end SozuCtl
