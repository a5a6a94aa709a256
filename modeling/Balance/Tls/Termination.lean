import Balance.Machine.Run
import Mathlib.Data.List.Basic

/-! The TLS settings of the server, and under which of them a connection is accepted. -/

namespace Balance

/-- The number of TLS 1.0. -/
def versionTLS10 : UInt16 := 0x0301

/-- The number of TLS 1.2. -/
def versionTLS12 : UInt16 := 0x0303

/-- The number of TLS 1.3. -/
def versionTLS13 : UInt16 := 0x0304

/-- The settings of the server for TLS, where no list stands for the defaults of the library. -/
structure Tls.Config where
  minVersion : UInt16
  maxVersion : UInt16
  cipherSuites : Option (List UInt16)
  preferServerCipherSuites : Bool
  sessionTicketsDisabled : Bool
  sessionTicketKey : BitVec 256
  clientAuth : Int
  nextProtos : Option (List String)
  insecureSkipVerify : Bool
  renegotiation : Int
  deriving DecidableEq

/-- The settings as the library takes them. -/
structure StdConfig where
  minVersion : UInt16
  maxVersion : UInt16
  cipherSuites : Option (List UInt16)
  preferServerCipherSuites : Bool
  sessionTicketsDisabled : Bool
  sessionTicketKeys : List (BitVec 256)
  clientAuth : Int
  nextProtos : Option (List String)
  insecureSkipVerify : Bool
  renegotiation : Int
  deriving DecidableEq

/-- The cipher suites that the defaults allow. -/
def secureCipherSuites : List UInt16 := [0xC02F, 0xC030, 0xC02B, 0xC02C, 0xCCA8, 0xCCA9]

/-- The settings used where none are given. -/
def Tls.defaultConfig : Tls.Config where
  minVersion := versionTLS12
  maxVersion := versionTLS13
  cipherSuites := some secureCipherSuites
  preferServerCipherSuites := true
  sessionTicketsDisabled := false
  sessionTicketKey := 0
  clientAuth := 0
  nextProtos := some ["h2", "http/1.1"]
  insecureSkipVerify := false
  renegotiation := 0

/-- Why settings are refused, or a call of the terminator fails. -/
inductive TLSError where
  | invalidMinimum (version : UInt16)
  | invalidMaximum (version : UInt16)
  | minimumAboveMaximum (least greatest : UInt16)
  | managerRequired
  | listenFailed (cause : String)
  | notInitialized
  | acceptFailed (cause : String)
  deriving DecidableEq

/-- The text of an error. -/
def TLSError.message : TLSError → String
  | .invalidMinimum version =>
    "invalid TLS config: invalid minimum TLS version: " ++ toString version
  | .invalidMaximum version =>
    "invalid TLS config: invalid maximum TLS version: " ++ toString version
  | .minimumAboveMaximum least greatest =>
    "invalid TLS config: minimum TLS version (" ++ toString least ++
      ") cannot be greater than maximum version (" ++ toString greatest ++ ")"
  | .managerRequired => "certificate manager is required"
  | .listenFailed cause => "failed to create listener: " ++ cause
  | .notInitialized => "listener not initialized"
  | .acceptFailed cause => cause

namespace Tls.Config

/-- The first objection to the settings, if there is one. -/
def validate (config : Tls.Config) : Option TLSError :=
  if config.minVersion < versionTLS10 ∨ config.minVersion > versionTLS13 then
    some (.invalidMinimum config.minVersion)
  else if config.maxVersion ≠ 0 ∧
      (config.maxVersion < versionTLS10 ∨ config.maxVersion > versionTLS13) then
    some (.invalidMaximum config.maxVersion)
  else if config.maxVersion ≠ 0 ∧ config.minVersion > config.maxVersion then
    some (.minimumAboveMaximum config.minVersion config.maxVersion)
  else none

/-- The settings in the form of the library. -/
def toStdConfig (config : Tls.Config) : StdConfig where
  minVersion := config.minVersion
  maxVersion := config.maxVersion
  cipherSuites := config.cipherSuites
  preferServerCipherSuites := config.preferServerCipherSuites
  sessionTicketsDisabled := config.sessionTicketsDisabled
  sessionTicketKeys := []
  clientAuth := config.clientAuth
  nextProtos := config.nextProtos
  insecureSkipVerify := config.insecureSkipVerify
  renegotiation := config.renegotiation

/-- The settings in the form of the library, with the key for session tickets. -/
def buildTLSConfig (config : Tls.Config) : StdConfig :=
  let tlsConfig := config.toStdConfig
  if config.sessionTicketsDisabled then tlsConfig
  else
    let tlsConfig := { tlsConfig with sessionTicketsDisabled := false }
    if config.sessionTicketKey ≠ 0 then
      { tlsConfig with sessionTicketKeys := [config.sessionTicketKey] }
    else tlsConfig

end Tls.Config

/-- The defaults pass their own checks. -/
theorem Tls.defaultConfig_valid : Tls.defaultConfig.validate = none := by decide

/--
What terminates TLS for the server.

A listener is known by the settings it was made with, which it uses for every connection.
-/
structure Terminator where
  config : Tls.Config
  tlsConfig : StdConfig
  listener : Option StdConfig
  totalConnections : Int
  activeConnections : Int

/-- A terminator with the given settings, or with the defaults. -/
def newTerminator (config : Option Tls.Config) (managed : Bool) : Except TLSError Terminator :=
  let config := config.getD Tls.defaultConfig
  match config.validate with
  | some error => .error error
  | none =>
    if ¬ managed then .error .managerRequired
    else .ok ⟨config, config.buildTLSConfig, none, 0, 0⟩

namespace Terminator

/-- Listens with the settings that are there now, unless the network refuses. -/
def listen (t : Terminator) (refusal : Option String) : Terminator × Option TLSError :=
  match refusal with
  | some cause => (t, some (.listenFailed cause))
  | none => ({ t with listener := some t.tlsConfig }, none)

/-- Accepts a connection, with the settings for its handshake, unless the network fails. -/
def accept (t : Terminator) (failure : Option String) : Terminator × Except TLSError StdConfig :=
  match t.listener with
  | none => (t, .error .notInitialized)
  | some settings =>
    match failure with
    | some cause => (t, .error (.acceptFailed cause))
    | none =>
      ({ t with
          totalConnections := t.totalConnections + 1
          activeConnections := t.activeConnections + 1 }, .ok settings)

/-- Replaces the settings. -/
def updateConfig (t : Terminator) (config : Tls.Config) : Terminator × Option TLSError :=
  match config.validate with
  | some error => (t, some error)
  | none => ({ t with config := config, tlsConfig := config.buildTLSConfig }, none)

end Terminator

/-- A call of the terminator, with what the network makes of it. -/
inductive TerminatorCall where
  | listen (refusal : Option String)
  | updateConfig (config : Tls.Config)
  | accept (failure : Option String)

/--
A terminator with its history.

Beside it stand the settings of the last update that succeeded, and for each connection accepted
the settings of its handshake with those of the last update before it.
-/
structure Termination where
  terminator : Terminator
  latest : Option Tls.Config
  accepted : List (StdConfig × Option Tls.Config)

namespace Termination

/-- A terminator that has not been called. -/
def start (terminator : Terminator) : Termination := ⟨terminator, none, []⟩

/-- The calls that are possible, which are all of them at any time. -/
def step (history : Termination) : TerminatorCall → Option Termination
  | .listen refusal =>
    some { history with terminator := (history.terminator.listen refusal).1 }
  | .updateConfig config =>
    let updated := history.terminator.updateConfig config
    some {
      history with
      terminator := updated.1
      latest := if updated.2.isNone then some config else history.latest }
  | .accept failure =>
    let accepted := history.terminator.accept failure
    some {
      history with
      terminator := accepted.1
      accepted := match accepted.2 with
        | .ok settings => (settings, history.latest) :: history.accepted
        | .error _ => history.accepted }

/-- What a call may do. -/
inductive Moves (history : Termination) : TerminatorCall → Termination → Prop
  | refused {cause : String} : Moves history (.listen (some cause)) history
  | listened : Moves history (.listen none)
      { history with
        terminator := { history.terminator with listener := some history.terminator.tlsConfig } }
  | rejected {config : Tls.Config} {error : TLSError} (invalid : config.validate = some error) :
      Moves history (.updateConfig config) history
  | updated {config : Tls.Config} (valid : config.validate = none) :
      Moves history (.updateConfig config)
        { history with
          terminator := { history.terminator with
            config := config
            tlsConfig := config.buildTLSConfig }
          latest := some config }
  | uninitialized {failure : Option String} (deaf : history.terminator.listener = none) :
      Moves history (.accept failure) history
  | failed {cause : String} : Moves history (.accept (some cause)) history
  | accepted {settings : StdConfig} (listening : history.terminator.listener = some settings) :
      Moves history (.accept none)
        { history with
          terminator := { history.terminator with
            totalConnections := history.terminator.totalConnections + 1
            activeConnections := history.terminator.activeConnections + 1 }
          accepted := (settings, history.latest) :: history.accepted }

variable {history next : Termination} {call : TerminatorCall}

/-- A call leaves the state that is stated for it. -/
theorem step_of_moves (moves : history.Moves call next) : history.step call = some next := by
  cases moves with
  | rejected invalid => simp [step, Terminator.updateConfig, invalid]
  | updated valid => simp [step, Terminator.updateConfig, valid]
  | uninitialized deaf => simp [step, Terminator.accept, deaf]
  | @failed cause =>
    -- Without a listener the call fails for that reason, and leaves as little.
    cases listening : history.terminator.listener with
    | none => simp [step, Terminator.accept, listening]
    | some settings => simp [step, Terminator.accept, listening]
  | accepted listening => simp [step, Terminator.accept, listening]
  | refused => rfl
  | listened => rfl

/-- Some move is stated for every call. -/
theorem exists_moves (history : Termination) (call : TerminatorCall) :
    ∃ next, history.Moves call next := by
  -- The splits are those of the code: the network, the checks, and whether there is a listener.
  cases call with
  | listen refusal =>
    cases refusal with
    | some cause => exact ⟨_, .refused⟩
    | none => exact ⟨_, .listened⟩
  | updateConfig config =>
    cases checked : config.validate with
    | some error => exact ⟨_, .rejected checked⟩
    | none => exact ⟨_, .updated checked⟩
  | accept failure =>
    cases listening : history.terminator.listener with
    | none => exact ⟨_, .uninitialized listening⟩
    | some settings =>
      cases failure with
      | some cause => exact ⟨_, .failed⟩
      | none => exact ⟨_, .accepted listening⟩

/-- Every call makes one of the moves stated. -/
theorem moves_of_step (taken : history.step call = some next) : history.Moves call next := by
  obtain ⟨other, moves⟩ := history.exists_moves call
  obtain rfl : other = next := Option.some.inj ((step_of_moves moves).symm.trans taken)
  exact moves

/-- Every connection accepted after an update has its handshake under the latest one. -/
def Reloaded (history : Termination) : Prop :=
  ∀ settings config, (settings, some config) ∈ history.accepted → settings = config.buildTLSConfig

/-- An update that succeeds while there is a listener has the settings it was made with. -/
def KeepsListener (history : Termination) : TerminatorCall → Prop
  | .updateConfig config => config.validate = none →
      ∀ settings, history.terminator.listener = some settings → settings = config.buildTLSConfig
  | _ => True

/-- The settings at hand and those of the listener are the latest. -/
structure Current (history : Termination) : Prop where
  handshakes : history.Reloaded
  prepared : ∀ config, history.latest = some config →
    history.terminator.tlsConfig = config.buildTLSConfig
  listening : ∀ config settings, history.latest = some config →
    history.terminator.listener = some settings → settings = config.buildTLSConfig

/-- A history without updates is current. -/
theorem start_current (terminator : Terminator) : (start terminator).Current := by
  refine ⟨?_, ?_, ?_⟩
  · intro settings config member
    cases member
  · intro config latest
    cases latest
  · intro config settings latest
    cases latest

/-- A call that keeps what the listener was made with keeps everything current. -/
theorem step_current (current : history.Current) (keeps : history.KeepsListener call)
    (taken : history.step call = some next) : next.Current := by
  cases moves_of_step taken with
  | listened =>
    -- The new listener is made with the settings at hand.
    refine ⟨current.handshakes, current.prepared, ?_⟩
    intro config settings latest listening
    obtain rfl := Option.some.inj listening
    exact current.prepared config latest
  | updated valid =>
    -- What is built now is the latest, and the listener was made with nothing else.
    refine ⟨current.handshakes, ?_, ?_⟩
    · intro latest same
      obtain rfl := Option.some.inj same
      rfl
    · intro latest settings same listening
      obtain rfl := Option.some.inj same
      exact keeps valid settings listening
  | accepted listening =>
    -- The new connection has the settings of the listener, which are the latest.
    refine ⟨?_, current.prepared, current.listening⟩
    intro shaken config member
    rcases List.mem_cons.mp member with new | old
    · obtain ⟨rfl, latest⟩ := Prod.mk.inj new
      exact current.listening config shaken latest.symm listening
    · exact current.handshakes shaken config old
  | _ => exact current

/-- After an update that the listener does not follow, the next connection shows it. -/
theorem strays_of_update (taken : history.step call = some next)
    (strays : ¬ history.KeepsListener call) :
    ∃ final, Machine.Leads step KeepsListener next final ∧ ¬ final.Reloaded := by
  cases call with
  | listen => exact absurd trivial strays
  | accept => exact absurd trivial strays
  | updateConfig config =>
    simp only [KeepsListener, Classical.not_imp, not_forall] at strays
    obtain ⟨valid, settings, listening, differs⟩ := strays
    cases moves_of_step taken with
    | rejected invalid => cases valid.symm.trans invalid
    | updated _ =>
      -- The listener hands its own settings to the next connection.
      refine ⟨_, Machine.Leads.head (.accept none) trivial (step_of_moves (.accepted listening))
        (Machine.Leads.refl _), ?_⟩
      intro reloaded
      exact differs (reloaded settings config List.mem_cons_self)

/--
Connections are accepted under the latest settings exactly as long as no update changes what a
listener was made with; and an update that fails leaves everything as it was.
-/
theorem reload_guarded (terminator : Terminator) :
    Machine.Guards step KeepsListener Reloaded (start terminator) ∧
      ∀ (history : Termination) (config : Tls.Config) (error : TLSError),
        (history.terminator.updateConfig config).2 = some error →
          history.step (.updateConfig config) = some history := by
  refine ⟨?_, ?_⟩
  · exact Machine.guards_of_invariant Current
      (fun _ _ _ current keeps taken => step_current current keeps taken)
      (fun _ current => current.handshakes)
      (fun _ _ _ _ taken strays => strays_of_update taken strays) (start_current terminator)
  · -- Only settings that are refused give an error.
    intro history config error failed
    cases checked : config.validate with
    | some cause => exact step_of_moves (.rejected checked)
    | none => simp [Terminator.updateConfig, checked] at failed

/-- Settings that allow nothing older than TLS 1.3. -/
def strictConfig : Tls.Config := { Tls.defaultConfig with minVersion := versionTLS13 }

/-- Settings given before the server listens are those of the connections it accepts. -/
theorem update_before_listen_applies :
    ∃ terminator history, newTerminator none true = .ok terminator ∧
      Machine.exec step (start terminator)
        [.updateConfig strictConfig, .listen none, .accept none] = some history ∧
      history.accepted.map (·.1.minVersion) = [versionTLS13] ∧ history.Reloaded := by
  -- No listener is there at the update, so that the condition holds all along.
  refine ⟨⟨Tls.defaultConfig, Tls.defaultConfig.buildTLSConfig, none, 0, 0⟩, _, rfl, rfl, rfl, ?_⟩
  refine (reload_guarded _).1.keeps _
    ⟨[.updateConfig strictConfig, .listen none, .accept none], ⟨?_, ?_⟩, rfl⟩
  · intro _ settings listening
    cases listening
  · rintro _ ⟨⟩
    refine ⟨trivial, ?_⟩
    rintro _ ⟨⟩
    refine ⟨trivial, ?_⟩
    rintro _ ⟨⟩
    trivial

/-- Settings given while the server listens are not: it goes on with TLS 1.2. -/
theorem update_while_listening_ignored :
    ∃ terminator history, newTerminator none true = .ok terminator ∧
      (terminator.updateConfig strictConfig).2 = none ∧
      Machine.exec step (start terminator)
        [.listen none, .updateConfig strictConfig, .accept none] = some history ∧
      history.accepted.map (·.1.minVersion) = [versionTLS12] ∧ ¬ history.Reloaded := by
  -- The handshake and the latest settings differ in the oldest version they allow.
  refine ⟨⟨Tls.defaultConfig, Tls.defaultConfig.buildTLSConfig, none, 0, 0⟩, _, rfl, rfl, rfl, rfl,
    ?_⟩
  intro reloaded
  have same := reloaded Tls.defaultConfig.buildTLSConfig strictConfig List.mem_cons_self
  exact absurd (congrArg StdConfig.minVersion same) (by decide)

end Termination

end Balance
