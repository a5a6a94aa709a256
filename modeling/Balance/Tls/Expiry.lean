import Balance.Tls.CertManager

/-! Certificates that are about to expire, among those that the server may show. -/

namespace Balance

namespace CertificateManager

section Listings

variable (heap : Nat → Certificate) (manager : CertificateManager)

/-- All certificates that are registered, each of them once. -/
def listCertificates (scan : Go.Scan manager.certificates) : List Nat :=
  scan.distinct fun _ => true

/-- The certificates that expire within a while, each of them once. -/
def checkExpiry (scan : Go.Scan manager.certificates) (now within : Int) : List Nat :=
  scan.distinct fun p => (heap p).notAfter < now + within

end Listings

variable {heap : Nat → Certificate} {manager : CertificateManager}

/-- What a client is shown is registered under some name, or for all other names. -/
theorem getCertificate_sound {scan : Go.Scan manager.certificates} {serverName : List UInt8}
    {p : Nat} (shown : manager.getCertificate scan serverName = .ok p) :
    (∃ name, manager.certificates name = some p) ∨ manager.defaultCert = some p := by
  -- Each way to answer reads one of the two.
  unfold getCertificate at shown
  split at shown
  · split at shown
    case h_1 fallback => cases shown; exact .inr fallback
    case h_2 => cases shown
  · split at shown
    case h_1 exactly => cases shown; exact .inl ⟨serverName, exactly⟩
    case h_2 =>
      split at shown
      case h_1 found =>
        cases shown
        obtain ⟨name, _, entry⟩ := Go.Scan.find_eq_some found
        exact .inl ⟨name, entry⟩
      case h_2 =>
        split at shown
        case h_1 fallback => cases shown; exact .inr fallback
        case h_2 => cases shown

/-- The check gives those of the listed certificates that expire in time. -/
theorem checkExpiry_perm (scan listing : Go.Scan manager.certificates) (now within : Int) :
    (manager.checkExpiry heap scan now within).Perm
      ((manager.listCertificates listing).filter fun p => (heap p).notAfter < now + within) := by
  -- Both give each certificate once, so that only membership counts.
  have once := (listing.nodup_distinct fun _ => true).filter fun p =>
    decide ((heap p).notAfter < now + within)
  refine (List.perm_ext_iff_of_nodup (scan.nodup_distinct _) once).mpr ?_
  intro p
  rw [List.mem_filter, Go.Scan.mem_distinct, Go.Scan.mem_distinct, and_iff_left rfl]

/-- The check gives each registered certificate that expires in time, and gives it once. -/
theorem count_checkExpiry_iff {scan : Go.Scan manager.certificates} {now within : Int} {p : Nat}
    (expires : (heap p).notAfter < now + within) :
    (manager.checkExpiry heap scan now within).count p = 1 ↔
      ∃ name, manager.certificates name = some p := by
  -- What is given is given once.
  have listed : p ∈ manager.checkExpiry heap scan now within ↔
      ∃ name, manager.certificates name = some p := by
    rw [checkExpiry, Go.Scan.mem_distinct, and_iff_left (decide_eq_true expires)]
  rw [← listed]
  constructor
  · intro single
    exact List.count_pos_iff.mp (by omega)
  · exact List.count_eq_one_of_mem (scan.nodup_distinct _)

/--
After any calls, every certificate that a client may be shown and that expires in time is given by
the check, once, if and only if the certificate for all other names is registered under some name
or does not expire in time.
-/
theorem expiry_monitored_iff (heap : Nat → Certificate) (calls : List CertificateCall)
    (scan : Go.Scan (after heap calls).certificates) (now within : Int) :
    (∀ (lookup : Go.Scan (after heap calls).certificates) (serverName : List UInt8) (p : Nat),
      (after heap calls).getCertificate lookup serverName = .ok p →
      (heap p).notAfter < now + within →
      ((after heap calls).checkExpiry heap scan now within).count p = 1) ↔
    ∀ p, (after heap calls).defaultCert = some p → (heap p).notAfter < now + within →
      ∃ name, (after heap calls).certificates name = some p := by
  constructor
  · -- A client that asks for no name is shown the certificate for all other names.
    intro monitored p fallback expires
    have shown : (after heap calls).getCertificate scan [] = .ok p := by
      rw [getCertificate, if_pos rfl, fallback]
    exact (count_checkExpiry_iff expires).mp (monitored scan [] p shown expires)
  · intro registered lookup serverName p shown expires
    rw [count_checkExpiry_iff expires]
    rcases getCertificate_sound shown with named | fallback
    · exact named
    · exact registered p fallback expires

/-- A certificate that is set for all other names is shown and expires, and is never given. -/
theorem default_certificate_unmonitored :
    let heap : Nat → Certificate := fun _ => certificateFor (bytesOf "a.org") 1
    let manager := after heap [.setDefaultCertificate 0 (some 7)]
    (∃ scan, manager.getCertificate scan [] = .ok 7) ∧ (heap 7).notAfter < 50 + 60 ∧
      ∀ scan, manager.checkExpiry heap scan 50 60 = [] := by
  -- Nothing is registered under a name.
  intro heap manager
  have nothing (name : List UInt8) : manager.certificates name = none := rfl
  refine ⟨⟨⟨[], List.nodup_nil, by simp [nothing]⟩, rfl⟩, by decide, ?_⟩
  intro scan
  rw [List.eq_nil_iff_forall_not_mem]
  intro p given
  obtain ⟨⟨name, entry⟩, _⟩ := Go.Scan.mem_distinct.mp given
  rw [nothing] at entry
  cases entry

end CertificateManager

end Balance
