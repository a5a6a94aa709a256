import Balance.Go.Time
import Mathlib.Data.List.Basic

/-! The configuration: its defaults, and what is accepted. -/

namespace Balance

open Go

/-- A configured backend. -/
structure BackendConfig where
  name : String
  address : String
  weight : Int

/-- The configured balancing algorithm. -/
structure LoadBalancerConfig where
  algorithm : String
  hashKey : String

/-- Settings of the HTTP mode. -/
structure HTTPConfig where
  enableWebSocket : Bool
  enableHTTP2 : Bool
  maxIdleConnsPerHost : Int
  idleConnTimeout : Int

/-- Settings of the passive health checks. -/
structure PassiveHealthCheckConfig where
  enabled : Bool
  consecutiveFailures : Int
  window : Int

/-- Settings of the health checks. -/
structure HealthCheckConfig where
  enabled : Bool
  interval : Int
  timeout : Int
  unhealthyThreshold : Int
  healthyThreshold : Int
  type : String
  passiveChecks : Option PassiveHealthCheckConfig

/-- The files of a certificate. -/
structure CertificateConfig where
  certFile : String
  keyFile : String

/-- Settings of the TLS termination. -/
structure TLSConfig where
  enabled : Bool
  certificates : List CertificateConfig
  certFile : String
  keyFile : String
  minVersion : String
  maxVersion : String
  clientAuth : String

/-- Settings of the rate limit. -/
structure RateLimitConfig where
  enabled : Bool
  type : String

/-- The part of the configuration that decides what is accepted and how a server is built. -/
structure Config where
  mode : String
  listen : String
  backends : List BackendConfig
  loadBalancer : LoadBalancerConfig
  http : Option HTTPConfig
  tls : Option TLSConfig
  healthCheck : Option HealthCheckConfig
  rateLimit : Option RateLimitConfig

/-- A text, or a default for the empty text. -/
def orDefault (text fallback : String) : String := if text = "" then fallback else text

/-- A number, or a default for zero. -/
def orNumber (number fallback : Int) : Int := if number = 0 then fallback else number

/-- The defaults of the passive health checks, where they are enabled. -/
def PassiveHealthCheckConfig.setDefaults (passive : PassiveHealthCheckConfig) :
    PassiveHealthCheckConfig :=
  if passive.enabled then
    { passive with
      consecutiveFailures := orNumber passive.consecutiveFailures 5
      window := orNumber passive.window (60 * second) }
  else passive

/-- The defaults of the health checks, where they are enabled. -/
def HealthCheckConfig.setDefaults (health : HealthCheckConfig) : HealthCheckConfig :=
  if health.enabled then
    { health with
      interval := orNumber health.interval (10 * second)
      timeout := orNumber health.timeout (3 * second)
      unhealthyThreshold := orNumber health.unhealthyThreshold 3
      healthyThreshold := orNumber health.healthyThreshold 2
      type := orDefault health.type "tcp"
      passiveChecks := health.passiveChecks.map PassiveHealthCheckConfig.setDefaults }
  else health

/-- The settings of the HTTP mode for a configuration that gives none. -/
def defaultHTTPConfig : HTTPConfig where
  enableWebSocket := true
  enableHTTP2 := true
  maxIdleConnsPerHost := 100
  idleConnTimeout := 90 * second

/-- The defaults of the HTTP settings. -/
def HTTPConfig.setDefaults (http : HTTPConfig) : HTTPConfig :=
  { http with
    maxIdleConnsPerHost := orNumber http.maxIdleConnsPerHost 100
    idleConnTimeout := orNumber http.idleConnTimeout (90 * second) }

namespace Config

/-- Fill in what the configuration leaves open. -/
def setDefaults (c : Config) : Config :=
  let mode := orDefault c.mode "tcp"
  { c with
    mode := mode
    listen := orDefault c.listen ":8080"
    loadBalancer :=
      { c.loadBalancer with
        algorithm := orDefault c.loadBalancer.algorithm "round-robin" }
    backends := c.backends.map fun b => { b with weight := orNumber b.weight 1 }
    healthCheck := c.healthCheck.map HealthCheckConfig.setDefaults
    -- HTTP settings are made up in HTTP mode only.
    http :=
      (if mode = "http" ∧ c.http.isNone then some defaultHTTPConfig else c.http).map
        HTTPConfig.setDefaults }

/-- What is wrong with one backend. -/
def checkBackend (i : Nat) (b : BackendConfig) : Option String :=
  if b.address = "" then some ("backend " ++ toString i ++ ": address is required")
  else if b.weight < 0 then some ("backend " ++ toString i ++ ": weight must be non-negative")
  else none

/-- The algorithms that can be configured. -/
def validAlgorithms : List String :=
  ["round-robin", "least-connections", "consistent-hash", "bounded-consistent-hash",
    "weighted-round-robin", "weighted-least-connections"]

/-- What is wrong with one certificate. -/
def checkCertificate (i : Nat) (certificate : CertificateConfig) : Option String :=
  if certificate.certFile = "" then
    some ("TLS certificate " ++ toString i ++ ": cert_file is required")
  else if certificate.keyFile = "" then
    some ("TLS certificate " ++ toString i ++ ": key_file is required")
  else none

/-- What is wrong with one bound on the TLS version, under the name of its field. -/
def checkVersion (field version : String) : Option String :=
  if version = "" ∨ version ∈ ["1.0", "1.1", "1.2", "1.3"] then none
  else some ("invalid TLS " ++ field ++ ": " ++ version ++ " (must be 1.0, 1.1, 1.2, or 1.3)")

/-- What is wrong with the TLS settings. -/
def checkTLS (tls : TLSConfig) : Option String :=
  if !tls.enabled then none
  else if tls.certificates = [] ∧ (tls.certFile = "" ∨ tls.keyFile = "") then
    some "TLS certificates or cert_file/key_file is required when TLS is enabled"
  else
    (tls.certificates.zipIdx.findSome? fun (certificate, i) => checkCertificate i certificate).or <|
      (checkVersion "min_version" tls.minVersion).or <|
      (checkVersion "max_version" tls.maxVersion).or <|
      if tls.clientAuth ∈ ["", "none", "request", "require", "verify", "require-and-verify"] then
        none
      else some ("invalid TLS client_auth: " ++ tls.clientAuth)

/-- What is wrong with the rate limit. -/
def checkRateLimit (rateLimit : RateLimitConfig) : Option String :=
  if rateLimit.enabled ∧ rateLimit.type ≠ "token-bucket" ∧ rateLimit.type ≠ "sliding-window" then
    some ("invalid rate limit type: " ++ rateLimit.type ++
      " (must be 'token-bucket' or 'sliding-window')")
  else none

/-- Refuse what cannot be served, and give the hash algorithms a key. -/
def validate (c : Config) : Except String Config :=
  if c.mode ≠ "tcp" ∧ c.mode ≠ "http" then
    .error ("invalid mode: " ++ c.mode ++ " (must be 'tcp' or 'http')")
  else if c.backends.length = 0 then .error "at least one backend is required"
  else
    match c.backends.zipIdx.findSome? fun (b, i) => checkBackend i b with
    | some message => .error message
    | none =>
      if c.loadBalancer.algorithm ∉ validAlgorithms then
        .error ("invalid load balancer algorithm: " ++ c.loadBalancer.algorithm)
      else
        let hashed := c.loadBalancer.algorithm ∈ ["consistent-hash", "bounded-consistent-hash"]
        let hashKey :=
          if hashed then orDefault c.loadBalancer.hashKey "source-ip" else c.loadBalancer.hashKey
        match (c.tls.bind checkTLS).or (c.rateLimit.bind checkRateLimit) with
        | some message => .error message
        | none => .ok { c with loadBalancer := { c.loadBalancer with hashKey := hashKey } }

/-- What is accepted has a known mode and algorithm and backends that pass their checks. -/
theorem validate_ok {c config : Config} (validated : c.validate = .ok config) :
    (c.mode = "tcp" ∨ c.mode = "http") ∧ c.backends ≠ [] ∧ (∀ b ∈ c.backends, 0 ≤ b.weight) ∧
      c.loadBalancer.algorithm ∈ validAlgorithms ∧ ∃ hashKey,
        config = { c with loadBalancer := { c.loadBalancer with hashKey := hashKey } } := by
  -- Every check that fails ends in an error.
  unfold validate at validated
  split at validated
  · cases validated
  · rename_i mode
    split at validated
    · cases validated
    · rename_i some_backend
      split at validated
      · cases validated
      · rename_i checked
        split at validated
        · cases validated
        · rename_i algorithm
          dsimp only at validated
          split at validated
          · cases validated
          · refine ⟨by tauto, ?_, ?_, not_not.mp algorithm, _, (Except.ok.inj validated).symm⟩
            · intro empty
              exact some_backend (by rw [empty]; rfl)
            · intro b listed
              obtain ⟨i, place⟩ := List.getElem?_of_mem listed
              have found : (b, i) ∈ c.backends.zipIdx := List.mk_mem_zipIdx_iff_getElem?.mpr place
              have passes := List.findSome?_eq_none_iff.mp checked (b, i) found
              simp only [checkBackend] at passes
              split at passes
              · cases passes
              · split at passes
                · cases passes
                · omega

/-- No backend is left without a weight. -/
theorem setDefaults_weight {c : Config} {b : BackendConfig} (listed : b ∈ c.setDefaults.backends) :
    b.weight ≠ 0 := by
  -- The weights are the one thing that is filled in for a backend.
  obtain ⟨given, _, rfl⟩ := List.mem_map.mp listed
  simp only [orNumber]
  split
  · decide
  · assumption

/-- In HTTP mode there are HTTP settings. -/
theorem setDefaults_http {c : Config} (mode : c.setDefaults.mode = "http") :
    c.setDefaults.http.isSome = true := by
  simp only [setDefaults] at mode ⊢
  cases given : c.http with
  | none => simp [mode]
  | some http => simp

end Config

end Balance
