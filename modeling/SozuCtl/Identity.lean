import SozuCtl.CommandManager

/-! Which certificate `replace_certificate` and `remove_certificate` act on. Each flow writes the
path-or-fingerprint match out on its own, with its own messages; both resolve the identity as
one function of the two options, and send what it resolves to. A certificate that
`add_certificate` sent is named again by its path and by its fingerprint in hex. -/
namespace SozuCtl

section
variable (env : Env)

/-- The identity of the certificate to replace or remove, as the contract states it: exactly
one of a path and a fingerprint string; a path's file hashed by `calculate_fingerprint`, a
string hex-decoded. -/
def resolveIdentity : Option String → Option String → Option Fingerprint
  | some path, none =>
    (env.files path).bind fun bytes => (env.calculateFingerprint bytes).toOption.map .mk
  | none, some s => (hexDecode (asBytes s)).toOption.map .mk
  | _, _ => none

/-- The identity match of either flow succeeds exactly with the resolved identity, whatever its
messages. -/
theorem certificateIdentity_eq_ok (bothOrNeither pathContext : String) (p f : Option String)
    (fp : Fingerprint) :
    certificateIdentity env bothOrNeither pathContext p f = .ok fp ↔
      resolveIdentity env p f = some fp := by
  obtain ⟨fp⟩ := fp
  match p, f with
  | none, none | some _, some _ => simp [certificateIdentity, bail, resolveIdentity]
  | some path, none =>
    simp only [certificateIdentity, withContext_eq_ok, getFingerprintFromCertificatePath_eq_ok,
      resolveIdentity]
    cases env.files path with
    | none => simp
    | some bytes =>
      rcases h : env.calculateFingerprint bytes with _ | _ <;> simp [h, Except.toOption]
  | none, some s =>
    simp only [certificateIdentity, withContext_eq_ok, decodeFingerprint_eq_ok, resolveIdentity]
    rcases h : hexDecode (asBytes s) with _ | _ <;> simp [h, Except.toOption]

/-- Certificate identity: both flows fail in this layer, sending nothing, when the identity
does not resolve; when it resolves, removal sends it, and replacement loads the new
certificate and sends it as the old fingerprint. -/
theorem certificate_identity
    (address newCertificatePath newCertificateChainPath newKeyPath : String) (p f : Option String)
    (versions : List TlsVersion) (s : CommandManager) :
    (resolveIdentity env p f = none →
      (∃ e, (removeCertificate env address p f).run s = .error (.layer e) s) ∧
      ∃ e, (replaceCertificate env address newCertificatePath newCertificateChainPath newKeyPath
        p f versions).run s = .error (.layer e) s) ∧
    ∀ fp, resolveIdentity env p f = some fp →
      removeCertificate env address p f =
        orderRequest env (.removeCertificate { address := address, fingerprint := fp }) ∧
      replaceCertificate env address newCertificatePath newCertificateChainPath newKeyPath
        p f versions = (do
          let newCertificate ← propagate (withContext
            (loadFullCertificate env newCertificatePath newCertificateChainPath newKeyPath versions)
            "Could not load the full certificate")
          orderRequest env (.replaceCertificate
            { address := address, newCertificate := newCertificate, oldFingerprint := fp,
              newNames := [], newExpiredAt := none })) := by
  constructor
  · intro hnone
    refine ⟨?_, ?_⟩ <;> simp only [removeCertificate, replaceCertificate] <;>
    · generalize hid : certificateIdentity env _ _ p f = x
      cases x with
      | ok fp => exact absurd ((certificateIdentity_eq_ok env _ _ p f fp).mp hid) (by simp [hnone])
      | error e => exact ⟨e, rfl⟩
  · intro fp hfp
    have hid := fun m1 m2 => (certificateIdentity_eq_ok env m1 m2 p f fp).mpr hfp
    refine ⟨by simp only [removeCertificate, hid, propagate_ok_bind], ?_⟩
    simp only [replaceCertificate, hid, propagate_ok_bind]
    exact congrArg _ (funext fun _ => bind_pure _)

/-- A certificate whose file holds `bytes` is named by its path as those bytes hash. -/
theorem resolveIdentity_path {path : String} {bytes fp : List UInt8}
    (hf : env.files path = some bytes) (hc : env.calculateFingerprint bytes = .ok fp) :
    resolveIdentity env (some path) none = some ⟨fp⟩ := by
  simp [resolveIdentity, hf, hc, Except.toOption]

/-- A fingerprint written in hex with either table names itself. -/
theorem resolveIdentity_hex {table : List Char} (htable : HexTable table) (fp : List UInt8) :
    resolveIdentity env none (some ⟨encodeChars table fp⟩) = some ⟨fp⟩ := by
  simp [resolveIdentity, hexDecode_encodeChars htable, Except.toOption]

theorem removeCertificate_of_resolve {p f : Option String} {fp : Fingerprint}
    (h : resolveIdentity env p f = some fp) (address : String) :
    removeCertificate env address p f =
      orderRequest env (.removeCertificate { address := address, fingerprint := fp }) := by
  simp only [removeCertificate, (certificateIdentity_eq_ok env _ _ p f fp).mpr h,
    propagate_ok_bind]

theorem replaceCertificate_of_resolve {p f : Option String} {fp : Fingerprint}
    (h : resolveIdentity env p f = some fp)
    (address newCertificatePath newCertificateChainPath newKeyPath : String)
    (versions : List TlsVersion) :
    replaceCertificate env address newCertificatePath newCertificateChainPath newKeyPath
        p f versions = (do
      let newCertificate ← propagate (withContext
        (loadFullCertificate env newCertificatePath newCertificateChainPath newKeyPath versions)
        "Could not load the full certificate")
      orderRequest env (.replaceCertificate
        { address := address, newCertificate := newCertificate, oldFingerprint := fp,
          newNames := [], newExpiredAt := none })) := by
  simp only [replaceCertificate, (certificateIdentity_eq_ok env _ _ p f fp).mpr h,
    propagate_ok_bind]
  exact congrArg _ (funext fun _ => bind_pure _)

/-- A certificate added from its files is named again by its path, and by its fingerprint in
hex of either case. `add_certificate` sends the text `load_file` read; removal by path hashes
the file's bytes, which are that text's UTF-8; `decode_fingerprint` reads back what
`hex::encode` and `hex::encode_upper` write. So removal and replacement by any of the three
send the same fingerprint. -/
theorem added_certificate_names
    (address certificatePath certificateChainPath keyPath : String) (versions : List TlsVersion)
    (b : CertificateAndKey) (fp : List UInt8)
    (hload : loadFullCertificate env certificatePath certificateChainPath keyPath versions = .ok b)
    (hfp : env.calculateFingerprint (asBytes b.certificate) = .ok fp) :
    addCertificate env address certificatePath certificateChainPath keyPath versions =
        orderRequest env (.addCertificate
          { address := address, certificate := b, names := [], expiredAt := none }) ∧
      ∀ p ∈ [(some certificatePath, none), (none, some (hexEncode fp)),
          (none, some (hexEncodeUpper fp))], ∀ address' : String,
        removeCertificate env address' p.1 p.2 =
          orderRequest env (.removeCertificate { address := address', fingerprint := ⟨fp⟩ }) ∧
        ∀ newCertificatePath newCertificateChainPath newKeyPath versions',
          replaceCertificate env address' newCertificatePath newCertificateChainPath newKeyPath
              p.1 p.2 versions' = (do
            let newCertificate ← propagate (withContext
              (loadFullCertificate env newCertificatePath newCertificateChainPath newKeyPath
                versions')
              "Could not load the full certificate")
            orderRequest env (.replaceCertificate
              { address := address', newCertificate := newCertificate, oldFingerprint := ⟨fp⟩,
                newNames := [], newExpiredAt := none })) := by
  obtain ⟨_, hcert, -⟩ := files_of_loadFullCertificate hload
  have hid : ∀ p ∈ [(some certificatePath, none), (none, some (hexEncode fp)),
      (none, some (hexEncodeUpper fp))], resolveIdentity env p.1 p.2 = some ⟨fp⟩ := by
    simp only [List.mem_cons, List.mem_singleton, List.not_mem_nil, or_false]
    rintro p (rfl | rfl | rfl)
    exacts [resolveIdentity_path env hcert hfp, resolveIdentity_hex env hexCharsLower_table fp,
      resolveIdentity_hex env hexCharsUpper_table fp]
  refine ⟨by simp only [addCertificate, hload, withContext_ok, propagate_ok_bind], ?_⟩
  exact fun p hp address' => ⟨removeCertificate_of_resolve env (hid p hp) address',
    replaceCertificate_of_resolve env (hid p hp) address'⟩

end

/-- Every path holds the text "c", and a certificate's fingerprint is its own bytes. -/
theorem added_certificate_names_sample :
    let env : Env :=
      { files := fun _ => some (asBytes "c"), calculateFingerprint := Except.ok,
        splitCertificateChain := fun s => [s], finishHttp := fun _ _ _ => .error "",
        finishTls := fun _ _ _ => .error "", toTcp := fun _ => .error "",
        answer := fun _ _ => .ok () }
    let b : CertificateAndKey :=
      { certificate := "c", certificateChain := ["c"], key := "c", versions := [] }
    loadFullCertificate env "cert.pem" "chain.pem" "key.pem" [] = .ok b ∧
      env.calculateFingerprint (asBytes b.certificate) = .ok (asBytes "c") ∧
      addCertificate env "0.0.0.0:443" "cert.pem" "chain.pem" "key.pem" [] =
          orderRequest env (.addCertificate
            { address := "0.0.0.0:443", certificate := b, names := [], expiredAt := none }) ∧
        ∀ p ∈ [(some "cert.pem", none), (none, some (hexEncode (asBytes "c"))),
            (none, some (hexEncodeUpper (asBytes "c")))], ∀ address' : String,
          removeCertificate env address' p.1 p.2 = orderRequest env (.removeCertificate
            { address := address', fingerprint := ⟨asBytes "c"⟩ }) ∧
          ∀ newCertificatePath newCertificateChainPath newKeyPath versions',
            replaceCertificate env address' newCertificatePath newCertificateChainPath newKeyPath
                p.1 p.2 versions' = (do
              let newCertificate ← propagate (withContext
                (loadFullCertificate env newCertificatePath newCertificateChainPath newKeyPath
                  versions')
                "Could not load the full certificate")
              orderRequest env (.replaceCertificate
                { address := address', newCertificate := newCertificate,
                  oldFingerprint := ⟨asBytes "c"⟩, newNames := [],
                  newExpiredAt := none })) := by
  intro env b
  have hload : loadFullCertificate env "cert.pem" "chain.pem" "key.pem" [] = .ok b :=
    loadFullCertificate_of_files rfl rfl rfl rfl rfl
  exact ⟨hload, rfl, added_certificate_names env "0.0.0.0:443" "cert.pem" "chain.pem" "key.pem" []
    b (asBytes "c") hload rfl⟩

end SozuCtl
