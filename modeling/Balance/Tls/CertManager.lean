import Balance.Go.Collections
import Balance.Go.Order
import Balance.Proxy.Request

/-! The certificates of the server, and which of them answers to a server name. -/

namespace Balance

/--
A certificate with the names it is for.

The keys stay out: what a client is shown is the chain of the certificate.
-/
structure Certificate where
  parsed : Bool
  tlsCert : List (List UInt8)
  domains : List (List UInt8)
  notBefore : Int
  notAfter : Int

/-- Why a certificate is not taken, or none is found. -/
inductive CertificateError where
  | missing
  | unparsed
  | notYetValid (notBefore : Int)
  | expired (notAfter : Int)
  | noDefault
  | notFound (serverName : List UInt8)

/-- The text of an error, with instants as the given function writes them. -/
def CertificateError.message (written : Int → List UInt8) : CertificateError → List UInt8
  | .missing => bytesOf "certificate is nil"
  | .unparsed => bytesOf "certificate x509 cert is nil"
  | .notYetValid notBefore =>
    bytesOf "certificate is not yet valid (valid from " ++ written notBefore ++ bytesOf ")"
  | .expired notAfter =>
    bytesOf "certificate has expired (expired on " ++ written notAfter ++ bytesOf ")"
  | .noDefault => bytesOf "no default certificate configured"
  | .notFound serverName => bytesOf "no certificate found for " ++ serverName

/-- The byte between the labels of a name. -/
def dot : UInt8 := 46

/-- The byte that stands for a label of any name. -/
def star : UInt8 := 42

/-- The pattern for the subdomains of a domain. -/
def wildcard (domain : List UInt8) : List UInt8 := star :: dot :: domain

/-- A text that begins like a wildcard, and with all but its star ends a name. -/
theorem wildcard_suffix_iff {pattern name : List UInt8} :
    [star, dot].isPrefixOf pattern ∧ (pattern.drop 1).isSuffixOf name ↔
      ∃ domain, pattern = wildcard domain ∧ dot :: domain <:+ name := by
  -- What follows the star is the dot and the domain.
  rw [List.isPrefixOf_iff_prefix, List.isSuffixOf_iff_suffix]
  constructor
  · rintro ⟨⟨domain, rfl⟩, ends⟩
    exact ⟨domain, rfl, ends⟩
  · rintro ⟨domain, rfl, ends⟩
    exact ⟨⟨domain, rfl⟩, ends⟩

/-- A name lies below a domain. -/
def Below (domain name : List UInt8) : Prop := ∃ part, part ≠ [] ∧ name = part ++ dot :: domain

/--
The certificates by the names they are registered under, and the one for all other names.

They are pointers, and what a pointer leads to is never written after it has been loaded.
-/
structure CertificateManager where
  certificates : List UInt8 → Option Nat
  defaultCert : Option Nat

/-- A manager without certificates. -/
def newCertificateManager : CertificateManager where
  certificates _ := none
  defaultCert := none

/-- Whether the scan for wildcards takes a registered name for a server name. -/
def wildcardMatches (domain serverName : List UInt8) : Bool :=
  if 2 < domain.length ∧ domain[0]? = some star ∧ domain[1]? = some dot then
    let suffix := domain.drop 1
    let start := serverName.length - suffix.length
    if suffix.length < serverName.length ∧ serverName.drop start = suffix then
      (serverName.take start).getLast? = some dot
    else false
  else false

namespace CertificateManager

variable (heap : Nat → Certificate) (manager : CertificateManager)

/-- The checks of a certificate before it is taken. -/
def validateCertificate (now : Int) : Option Nat → Except CertificateError Nat
  | none => .error .missing
  | some p =>
    let cert := heap p
    if ¬ cert.parsed then .error .unparsed
    else if now < cert.notBefore then .error (.notYetValid cert.notBefore)
    else if now > cert.notAfter then .error (.expired cert.notAfter)
    else .ok p

/-- Registers a certificate under each of its names. -/
def addCertificate (now : Int) (cert : Option Nat) :
    Except CertificateError CertificateManager := do
  let p ← validateCertificate heap now cert
  return {
    certificates :=
      Go.writeAll ((heap p).domains.map fun domain => (domain, p)) manager.certificates
    defaultCert := some (manager.defaultCert.getD p) }

/-- Replaces the certificate for all other names. -/
def setDefaultCertificate (now : Int) (cert : Option Nat) :
    Except CertificateError CertificateManager := do
  let p ← validateCertificate heap now cert
  return { manager with defaultCert := some p }

/-- Removes what is registered under a name. -/
def removeCertificate (domain : List UInt8) : CertificateManager where
  certificates := Function.update manager.certificates domain none
  defaultCert := manager.defaultCert

/-- The certificate of the first wildcard that a scan of the map takes for a server name. -/
def findWildcardCertificate (scan : Go.Scan manager.certificates) (serverName : List UInt8) :
    Option Nat :=
  scan.find fun domain => wildcardMatches domain serverName

/-- The certificate that a client which asks for a server name is shown. -/
def getCertificate (scan : Go.Scan manager.certificates) (serverName : List UInt8) :
    Except CertificateError Nat :=
  if serverName = [] then
    match manager.defaultCert with
    | some p => .ok p
    | none => .error .noDefault
  else
    match manager.certificates serverName with
    | some p => .ok p
    | none =>
      match manager.findWildcardCertificate scan serverName with
      | some p => .ok p
      | none =>
        match manager.defaultCert with
        | some p => .ok p
        | none => .error (.notFound serverName)

/-- The chain that such a client is shown, which is all that it sees of the certificate. -/
def chainFor (scan : Go.Scan manager.certificates) (serverName : List UInt8) :
    Except CertificateError (List (List UInt8)) :=
  (manager.getCertificate scan serverName).map fun p => (heap p).tlsCert

end CertificateManager

/-- A call that changes what is registered, with the certificate as a pointer that may be nil. -/
inductive CertificateCall where
  | addCertificate (now : Int) (cert : Option Nat)
  | setDefaultCertificate (now : Int) (cert : Option Nat)
  | removeCertificate (domain : List UInt8)

namespace CertificateManager

variable (heap : Nat → Certificate) {manager : CertificateManager}

/-- What a call leaves, which is the state before it if the call fails. -/
def apply (manager : CertificateManager) : CertificateCall → CertificateManager
  | .addCertificate now cert => ((manager.addCertificate heap now cert).toOption).getD manager
  | .setDefaultCertificate now cert =>
    ((manager.setDefaultCertificate heap now cert).toOption).getD manager
  | .removeCertificate domain => manager.removeCertificate domain

/-- The state that calls lead to. -/
def after (calls : List CertificateCall) : CertificateManager :=
  calls.foldl (apply heap) newCertificateManager

/-- A call registers finitely many names. -/
theorem apply_finite (finite : {name | (manager.certificates name).isSome}.Finite)
    (call : CertificateCall) :
    {name | ((manager.apply heap call).certificates name).isSome}.Finite := by
  rcases call with ⟨now, cert⟩ | ⟨now, cert⟩ | domain
  · simp only [apply, addCertificate]
    rcases validateCertificate heap now cert with refused | p
    · exact finite
    · -- A name is registered afterwards if it was before or is one of the certificate.
      refine (finite.union (List.finite_toSet (heap p).domains)).subset ?_
      intro name present
      by_cases named : name ∈ (heap p).domains
      · exact .inr named
      · left
        have absent : ∀ entry ∈ (heap p).domains.map fun domain => (domain, p),
            entry.1 ≠ name := by
          intro entry member same
          obtain ⟨domain, listed, rfl⟩ := List.mem_map.mp member
          exact named (same ▸ listed)
        have kept := Go.writeAll_of_not_mem absent manager.certificates
        change (Go.writeAll _ manager.certificates name).isSome at present
        rwa [kept] at present
  · simp only [apply, setDefaultCertificate]
    rcases validateCertificate heap now cert with refused | p
    · exact finite
    · exact finite
  · -- A removal leaves some of the names.
    refine finite.subset ?_
    intro name present
    change (Function.update manager.certificates domain none name).isSome at present
    by_cases removed : name = domain
    · simp [removed] at present
    · rwa [Function.update_of_ne removed] at present

/-- After any calls there is an order for a scan to meet the names in. -/
theorem exists_scan (calls : List CertificateCall) :
    Nonempty (Go.Scan (after heap calls).certificates) := by
  -- Each call leaves finitely many names.
  apply Go.Scan.nonempty_of_finite
  induction calls using List.reverseRecOn with
  | nil => simp [after, newCertificateManager]
  | append_singleton earlier call ih =>
    rw [after, List.foldl_append]
    exact apply_finite heap ih call

end CertificateManager

/-- A registered name that a scan takes is a wildcard, and what stands before its domain ends
with a dot. -/
theorem wildcardMatches_sound {domain serverName : List UInt8}
    (matched : wildcardMatches domain serverName) :
    ∃ parent part, domain = wildcard parent ∧ serverName = part ++ dot :: parent ∧
      part.getLast? = some dot := by
  unfold wildcardMatches at matched
  split at matched
  case isFalse => cases matched
  case isTrue shaped =>
    -- The first two bytes are the star and the dot, so what is compared begins with the dot.
    obtain ⟨long, first, second⟩ := shaped
    obtain ⟨parent, rfl⟩ : ∃ parent, domain = wildcard parent := by
      match domain with
      | head :: next :: parent =>
        simp only [List.getElem?_cons_zero, List.getElem?_cons_succ,
          Option.some.injEq] at first second
        exact ⟨parent, by rw [first, second, wildcard]⟩
    dsimp only at matched
    split at matched
    case isFalse => cases matched
    case isTrue ends =>
      refine ⟨parent, _, rfl, ?_, of_decide_eq_true matched⟩
      conv_lhs => rw [← List.take_append_drop _ serverName, ends.2]
      rfl

namespace CertificateManager

variable {manager : CertificateManager} {scan : Go.Scan manager.certificates}
  {serverName : List UInt8}

/-- A certificate found by the scan is registered for a wildcard, and what stands before the
domain of the wildcard ends with a dot. -/
theorem findWildcardCertificate_sound {cert : Nat}
    (found : manager.findWildcardCertificate scan serverName = some cert) :
    ∃ parent part, manager.certificates (wildcard parent) = some cert ∧
      serverName = part ++ dot :: parent ∧ part.getLast? = some dot := by
  -- The scan stops at a name that it takes.
  obtain ⟨domain, taken, registered⟩ := Go.Scan.find_eq_some found
  obtain ⟨parent, part, rfl, split, doubled⟩ := wildcardMatches_sound taken
  exact ⟨parent, part, registered, split, doubled⟩

/-- A text whose last byte is the dot is not empty and has a dot. -/
theorem dot_mem_of_getLast? {part : List UInt8} (last : part.getLast? = some dot) :
    part ≠ [] ∧ dot ∈ part :=
  ⟨List.ne_nil_of_mem (List.mem_of_getLast? last), List.mem_of_getLast? last⟩

/-- No wildcard is found for a single label below a domain, unless another wildcard is for it. -/
theorem findWildcardCertificate_label {domain label : List UInt8} (single : dot ∉ label)
    (alone : ∀ other, (manager.certificates (wildcard other)).isSome →
      Below other (label ++ dot :: domain) → other = domain) :
    manager.findWildcardCertificate scan (label ++ dot :: domain) = none := by
  rw [Option.eq_none_iff_forall_ne_some]
  intro cert found
  obtain ⟨parent, part, registered, split, doubled⟩ := findWildcardCertificate_sound found
  obtain ⟨nonempty, dotted⟩ := dot_mem_of_getLast? doubled
  -- The wildcard found is that of the domain, so a dot would have to end the label.
  obtain rfl := alone parent (by rw [registered]; rfl) ⟨part, nonempty, split⟩
  obtain rfl := List.append_cancel_right split
  exact single dotted

/--
After any calls, a single label below a domain with a wildcard of its own is answered with the
certificate of that wildcard exactly if that is the certificate for all other names too; and the
scan for wildcards answers only with the certificate of a wildcard that the name lies below.
-/
theorem wildcard_selected_iff (heap : Nat → Certificate) (calls : List CertificateCall)
    (scan : Go.Scan (after heap calls).certificates) :
    (∀ (domain label : List UInt8) (cert : Nat), label ≠ [] → dot ∉ label →
      (after heap calls).certificates (wildcard domain) = some cert →
      (after heap calls).certificates (label ++ dot :: domain) = none →
      (∀ other, ((after heap calls).certificates (wildcard other)).isSome →
        Below other (label ++ dot :: domain) → other = domain) →
      ((after heap calls).chainFor heap scan (label ++ dot :: domain) =
          .ok (heap cert).tlsCert ↔
        ∃ fallback, (after heap calls).defaultCert = some fallback ∧
          (heap fallback).tlsCert = (heap cert).tlsCert)) ∧
      ∀ serverName cert, (after heap calls).findWildcardCertificate scan serverName = some cert →
        ∃ domain, (after heap calls).certificates (wildcard domain) = some cert ∧
          Below domain serverName := by
  refine ⟨?_, ?_⟩
  · -- Neither the name itself nor the scan gives a certificate, and only the default is left.
    intro domain label cert _ single _ unregistered alone
    have named : label ++ dot :: domain ≠ [] := by simp
    rw [chainFor, getCertificate, if_neg named, unregistered,
      findWildcardCertificate_label single alone]
    rcases (after heap calls).defaultCert with nothing | fallback
    · simp [Except.map]
    · simp [Except.map]
  · -- What stands before the domain ends with a dot, so that there is something.
    intro serverName cert found
    obtain ⟨domain, part, registered, split, doubled⟩ := findWildcardCertificate_sound found
    exact ⟨domain, registered, part, (dot_mem_of_getLast? doubled).1, split⟩

/-- A certificate for one name, valid for a while. -/
def certificateFor (domain : List UInt8) (chain : UInt8) : Certificate where
  parsed := true
  tlsCert := [[chain]]
  domains := [domain]
  notBefore := 0
  notAfter := 100

/-- Two certificates, each for one name. -/
def certificatesFor (first second : List UInt8) (p : Nat) : Certificate :=
  if p = 1 then certificateFor first 1 else certificateFor second 2

/-- What is registered once both have been added, one after the other. -/
def registering (first second : List UInt8) : CertificateManager :=
  after (certificatesFor first second) [.addCertificate 0 (some 1), .addCertificate 0 (some 2)]

/-- Each of them is registered under its name. -/
theorem registering_certificates (first second name : List UInt8) :
    (registering first second).certificates name =
      if name = second then some 2 else if name = first then some 1 else none := by
  -- Both certificates are valid, and each is written under its one name.
  change Function.update (Function.update (fun _ => none) first _) second _ name = _
  rw [Function.update_apply, Function.update_apply]

/-- Exactly the two names are registered. -/
theorem registering_isSome {first second name : List UInt8} :
    ((registering first second).certificates name).isSome ↔ name = second ∨ name = first := by
  -- The later name is looked at first, as it may be the same as the earlier one.
  rw [registering_certificates]
  split
  case isTrue later => simp [later]
  case isFalse earlier =>
    simp only [earlier, false_or]
    split <;> simp_all

/-- The scan that meets the later name first. -/
def scanTwo {first second : List UInt8} (distinct : second ≠ first) :
    Go.Scan (registering first second).certificates where
  order := [second, first]
  once := by simp [distinct]
  registered := by
    intro name
    rw [registering_isSome]
    simp

/-- A domain of which there is a wildcard. -/
def exampleCom : List UInt8 := bytesOf "example.com"

/-- A domain with a certificate of its own. -/
def exampleOrg : List UInt8 := bytesOf "example.org"

/-- The second domain is no wildcard. -/
theorem exampleOrg_ne_wildcard (domain : List UInt8) : exampleOrg ≠ wildcard domain := by
  intro same
  have first : exampleOrg.head? = some star := by rw [same]; rfl
  revert first
  decide +kernel

/-- Beside the certificate of the second domain, a wildcard is alone for its subdomains. -/
theorem wildcard_alone {first second other : List UInt8}
    (names : second = wildcard exampleCom ∧ first = exampleOrg ∨
      second = exampleOrg ∧ first = wildcard exampleCom)
    (registered : ((registering first second).certificates (wildcard other)).isSome) :
    other = exampleCom := by
  -- Of the two names one begins with the star.
  have injective : ∀ {domain : List UInt8}, wildcard other = wildcard domain → other = domain := by
    intro domain same
    exact List.cons_injective (List.cons_injective same)
  rcases names with ⟨rfl, rfl⟩ | ⟨rfl, rfl⟩ <;>
    rcases registering_isSome.mp registered with same | same
  · exact injective same
  · exact absurd same.symm (exampleOrg_ne_wildcard other)
  · exact absurd same.symm (exampleOrg_ne_wildcard other)
  · exact injective same

/-- With the wildcard added first, a subdomain is answered with its certificate. -/
theorem subdomain_of_default_selected :
    (registering (wildcard exampleCom) exampleOrg).chainFor
      (certificatesFor (wildcard exampleCom) exampleOrg)
      (scanTwo (exampleOrg_ne_wildcard exampleCom)) (bytesOf "www.example.com") = .ok [[1]] := by
  -- The certificate added first is the one for all other names.
  have split : bytesOf "www.example.com" = bytesOf "www" ++ dot :: exampleCom := by decide +kernel
  rw [split]
  refine ((wildcard_selected_iff _ _ _).1 exampleCom (bytesOf "www") 1 ?_ ?_ ?_ ?_ ?_).mpr ?_
  · decide +kernel
  · decide +kernel
  · refine (registering_certificates _ _ _).trans ?_
    rw [if_neg (exampleOrg_ne_wildcard exampleCom).symm, if_pos rfl]
  · refine Option.not_isSome_iff_eq_none.mp (mt registering_isSome.mp ?_)
    decide +kernel
  · intro other registered _
    exact wildcard_alone (.inr ⟨rfl, rfl⟩) registered
  · exact ⟨1, rfl, rfl⟩

/--
With the wildcard added second, a subdomain is answered with the certificate of another domain.

The wildcard is registered and the name itself is not, and no other wildcard is registered.
-/
theorem subdomain_gets_other_certificate :
    let manager := registering exampleOrg (wildcard exampleCom)
    manager.certificates (wildcard exampleCom) = some 2 ∧
      (certificatesFor exampleOrg (wildcard exampleCom) 2).tlsCert = [[2]] ∧
      manager.certificates (bytesOf "www.example.com") = none ∧
      (∀ other, (manager.certificates (wildcard other)).isSome → other = exampleCom) ∧
      ∀ scan, manager.chainFor (certificatesFor exampleOrg (wildcard exampleCom)) scan
        (bytesOf "www.example.com") = .ok [[1]] := by
  intro manager
  have split : bytesOf "www.example.com" = bytesOf "www" ++ dot :: exampleCom := by decide +kernel
  have single : dot ∉ bytesOf "www" := by decide +kernel
  have alone : ∀ other, (manager.certificates (wildcard other)).isSome → other = exampleCom := by
    intro other registered
    exact wildcard_alone (.inl ⟨rfl, rfl⟩) registered
  have unregistered : manager.certificates (bytesOf "www.example.com") = none := by
    rw [← Option.not_isSome_iff_eq_none, registering_isSome]
    decide +kernel
  refine ⟨?_, rfl, unregistered, alone, ?_⟩
  · rw [registering_certificates, if_pos rfl]
  · -- The name is not registered and no wildcard is found, so the first certificate answers.
    intro scan
    have named : bytesOf "www.example.com" ≠ [] := by decide +kernel
    have missed : manager.findWildcardCertificate scan (bytesOf "www.example.com") = none := by
      rw [split]
      exact findWildcardCertificate_label single fun other registered _ => alone other registered
    rw [chainFor, getCertificate, if_neg named, unregistered, missed]
    rfl

end CertificateManager

end Balance
