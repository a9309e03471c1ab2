/-
Module: DnsProxyServer.Conf.Survival
Purpose: The getters of numbers and texts, and what the requests of a client mean for all
  settings: none of them ever changes what a getter returns.
Trusted boundary: translation of WebServerPort, DnsServerPort, LogLevel, LogFile, GetHostname,
  GetDpsDomain and getConf of conf/conf.go; an upper or lower case is that of UTF-8 text as
  far as the compared texts show it
Main exports: Variables, CommandLine, logKeyToSyslogCode, logFile, getConf, Answers, answers,
  settings_of_run, settings_survive_requests
-/
import DnsProxyServer.Conf.Settings
import DnsProxyServer.Local.Keys

namespace DnsProxyServer

namespace Conf

open LoadStore (after)
open Local (Clock Clocks ConfFile Configuration Represents Request loadConfiguration requestStep)

/-! ### Numbers and texts -/

structure Variables extends Environ where
  mgLogLevel : GoString := []
  mgLogFile : GoString := []
  mgHostMachineHostname : GoString := []
  mgDomain : GoString := []

structure CommandLine extends FlagSet where
  webServerPort : Int := 5380
  dnsServerPort : Int := 53
  logLevel : GoString := "INFO".toList
  logToFile : GoString := "console".toList
  hostMachineHostname : GoString := "host.docker".toList
  domain : GoString := "docker".toList

/-- A port: a positive field decides, else the flag. -/
def portOr (field : Configuration → Int) (flag : Int) (conf : Option Configuration) : Int :=
  match conf with
  | some conf => if field conf > 0 then field conf else flag
  | none => flag

def webServerPort (flags : CommandLine) : Option Configuration → Int :=
  portOr Configuration.webServerPort flags.webServerPort

def dnsServerPort (flags : CommandLine) : Option Configuration → Int :=
  portOr Configuration.dnsServerPort flags.dnsServerPort

/-- A name: a non-blank variable decides, else a field that is not empty, else the flag. -/
def nameOr (v : GoString) (field : Configuration → GoString) (flag : GoString)
    (conf : Option Configuration) : GoString :=
  if !trimSpaceEmpty v then v
  else
    match conf with
    | some conf => if (field conf).length ≠ 0 then field conf else flag
    | none => flag

def getHostname (environ : Variables) (flags : CommandLine) : Option Configuration → GoString :=
  nameOr environ.mgHostMachineHostname Configuration.hostMachineHostname
    flags.hostMachineHostname

def getDpsDomain (environ : Variables) (flags : CommandLine) : Option Configuration → GoString :=
  nameOr environ.mgDomain Configuration.domain flags.domain

/-- `strings.ToUpper(s) == upper` for an ASCII text: of the other letters only the dotless i and
the long s have an upper case in ASCII. -/
def toUpperEq : GoString → GoString → Bool
  | '\xc4' :: '\xb1' :: s, 'I' :: upper => toUpperEq s upper
  | '\xc5' :: '\xbf' :: s, 'S' :: upper => toUpperEq s upper
  | a :: s, b :: upper => a.toUpper == b && toUpperEq s upper
  | [], [] => true
  | _, _ => false

/-- The levels of the vendored logging. -/
def logKeyToSyslogCode (key : GoString) : Except Failure Int :=
  if toUpperEq key "DEBUG".toList then .ok 7
  else if toUpperEq key "INFO".toList then .ok 6
  else if toUpperEq key "WARNING".toList then .ok 4
  else if toUpperEq key "ERROR".toList then .ok 3
  else .error (.panic (.raised ("Unknown log level: ".toList ++ key)))

def logLevel (environ : Variables) (flags : CommandLine) (conf : Option Configuration) :
    Except Failure Int :=
  if environ.mgLogLevel ≠ [] then logKeyToSyslogCode environ.mgLogLevel
  else
    match conf with
    | some conf =>
        if conf.logLevel ≠ [] then logKeyToSyslogCode conf.logLevel
        else logKeyToSyslogCode flags.logLevel
    | none => logKeyToSyslogCode flags.logLevel

def getString (value defaultValue : GoString) : GoString :=
  if value.length = 0 then defaultValue else value

/-- The text of the field counts where the variable is empty. -/
def logFileText (environ : Variables) (conf : Option Configuration) : GoString :=
  match conf with
  | some conf =>
      if environ.mgLogFile = [] ∧ conf.logFile ≠ [] then conf.logFile else environ.mgLogFile
  | none => environ.mgLogFile

/-- No letter outside ASCII has a lower case that stands in the two words. -/
def logFile (environ : Variables) (flags : CommandLine) (conf : Option Configuration) :
    GoString :=
  let f := getString (logFileText environ conf) flags.logToFile
  if f.map Char.toLower = "true".toList then "/var/log/dns-proxy-server.log".toList
  else if f.map Char.toLower = "false".toList then []
  else f

/-! ### All getters -/

/-- The first result of `LoadConfiguration`, which is nil when there is an error. -/
def getConf (clock : Clock) (file : ConfFile) : Except Failure (Option Configuration) :=
  match (loadConfiguration clock file).result with
  | .ok conf => .ok (some conf)
  | .error (.error _) => .ok none
  | .error (.panic cause) => .error (.panic cause)

structure Answers where
  webServerPort : Int
  dnsServerPort : Int
  setupResolvConf : Except Failure Bool
  logLevel : Except Failure Int
  logFile : GoString
  shouldRegisterContainerNames : Except Failure Bool
  getHostname : GoString
  getDpsDomain : GoString
  dpsNetwork : Except Failure Bool
  dpsNetworkAutoConnect : Except Failure Bool

def answers (environ : Variables) (flags : CommandLine) (conf : Option Configuration) :
    Answers where
  webServerPort := webServerPort flags conf
  dnsServerPort := dnsServerPort flags conf
  setupResolvConf := setupResolvConf flags.toFlagSet conf
  logLevel := logLevel environ flags conf
  logFile := logFile environ flags conf
  shouldRegisterContainerNames :=
    shouldRegisterContainerNames environ.toEnviron flags.toFlagSet conf
  getHostname := getHostname environ flags conf
  getDpsDomain := getDpsDomain environ flags conf
  dpsNetwork := dpsNetwork environ.toEnviron flags.toFlagSet conf conf
  dpsNetworkAutoConnect := dpsNetworkAutoConnect environ.toEnviron flags.toFlagSet conf

/-- A configuration without what the requests change. -/
def settings (c : Configuration) : Configuration := { c with envs := [], activeEnv := [] }

/-- No getter reads an env. -/
theorem answers_settings (environ : Variables) (flags : CommandLine)
    (conf : Option Configuration) :
    answers environ flags (conf.map settings) = answers environ flags conf := by
  cases conf <;> rfl

theorem settings_of_same {c c' : Configuration}
    (same : c' = { c with envs := c'.envs, activeEnv := c'.activeEnv }) :
    settings c' = settings c := by
  rw [same]
  rfl

/-! ### Requests -/

section Requests

variable {file : ConfFile} {clocks : Clocks} {request : Request}

theorem loadConfiguration_missing : ∃ d, ∀ clock,
    loadConfiguration clock .missing =
      .save (.document d) (Local.Abstract.replenish Local.defaultConfig) := by
  have storable : Local.Storable Local.defaultConfig :=
    Or.inr ⟨rfl, by simp [Local.defaultConfig]⟩
  obtain ⟨d, saved, -⟩ := Local.saveConfiguration_of_storable storable
  exact ⟨d, fun _ => saved⟩

/-- The readings of a load decide about ids only. -/
theorem settings_of_load (file : ConfFile) (clock clock' : Clock) :
    (loadConfiguration clock' file).result.map settings =
      (loadConfiguration clock file).result.map settings := by
  cases file with
  | missing => rfl
  | unreadable failure => rfl
  | document d =>
      cases read : Local.loadVersionedConfiguration d with
      | error failure => simp only [loadConfiguration, read]
      | ok c =>
          rw [Local.loadConfiguration_document read, Local.loadConfiguration_document read]
          rfl

/-- A file that cannot be loaded is not written. -/
theorem saves_of_error {clock : Clock} {failure : Failure}
    (failed : (loadConfiguration clock file).result = .error failure) :
    (loadConfiguration clock file).saves = [] := by
  cases file with
  | missing =>
      obtain ⟨d, load⟩ := loadConfiguration_missing
      rw [load] at failed
      cases failed
  | unreadable failure => rfl
  | document d =>
      cases read : Local.loadVersionedConfiguration d with
      | error failure =>
          simp only [loadConfiguration, read]
          rfl
      | ok c =>
          rw [Local.loadConfiguration_document read] at failed
          cases failed

theorem withConfiguration_eq_bind (change : Configuration → Except Failure Configuration)
    (clock : Clock) : ∃ rest, ∀ file,
      Local.withConfiguration change clock file = (loadConfiguration clock file).bind rest :=
  ⟨_, fun _ => rfl⟩

/-- A request loads the configuration and goes on with what it has loaded. -/
theorem serve_eq_bind (clocks : Clocks) (request : Request) :
    ∃ rest, ∀ file,
      request.serve clocks file = (loadConfiguration clocks.load file).bind rest := by
  cases calls : request.operation clocks with
  | none =>
      exists fun _ => .ofExcept (.ok ())
      intro file
      rw [Request.serve, calls]
  | some operation =>
      obtain ⟨rest, loads⟩ := withConfiguration_eq_bind operation.change clocks.load
      exists rest
      intro file
      rw [Request.serve, calls]
      exact (operation.perform_eq clocks.load file).trans (loads file)

theorem next_of_error {failure : Failure}
    (failed : (loadConfiguration clocks.load file).result = .error failure) :
    request.next clocks file = file := by
  obtain ⟨rest, serves⟩ := serve_eq_bind clocks request
  rw [Request.next, serves, LoadStore.Access.bind_of_error failed, saves_of_error failed]
  rfl

/-- A request on a file does what it does once the file has been loaded. -/
theorem next_of_load {c : Configuration}
    (loaded : (loadConfiguration clocks.load file).result = .ok c) :
    request.next clocks file =
      request.next clocks (after file (loadConfiguration clocks.load file).saves) := by
  obtain ⟨rest, serves⟩ := serve_eq_bind clocks request
  have again : (loadConfiguration clocks.load
      (after file (loadConfiguration clocks.load file).saves)) = .ofExcept (.ok c) :=
    Local.loadConfiguration_of_represents (Local.represents_of_load loaded) clocks.load
  rw [Request.next, serves, LoadStore.Access.bind_of_ok loaded, LoadStore.after_append,
    Request.next, serves, again]
  rfl

theorem settings_of_abstract (clocks : Clocks) (request : Request) (c : Configuration) :
    settings (Local.Abstract.next clocks request c) = settings c := by
  cases served : Local.Abstract.serve clocks request c with
  | error refusal => rw [Local.Abstract.next, served]
  | ok c' =>
      rw [Local.Abstract.next, served]
      cases calls : request.operation clocks with
      | none =>
          rw [Local.Abstract.serve, calls] at served
          cases served
          rfl
      | some operation =>
          rw [Local.Abstract.serve, calls] at served
          exact settings_of_same (Local.Abstract.settings_of_apply served)

/-- One request, whatever the file holds before it. -/
theorem settings_of_next (clock : Clock) :
    (loadConfiguration clock (request.next clocks file)).result.map settings =
      (loadConfiguration clock file).result.map settings := by
  rw [settings_of_load file clocks.load clock]
  cases loaded : (loadConfiguration clocks.load file).result with
  | error failure =>
      rw [next_of_error loaded, settings_of_load file clocks.load clock, loaded]
  | ok c =>
      obtain ⟨-, represents⟩ :=
        Local.serve_refines (Local.represents_of_load loaded) clocks request
      rw [next_of_load loaded, Local.loadConfiguration_of_represents represents clock]
      exact congrArg Except.ok (settings_of_abstract clocks request c)

end Requests

/-- Whatever the file holds, what a load finds in it after any requests has the settings that
it had before them. -/
theorem settings_of_run {file final : ConfFile} {requests : List (Clocks × Request)}
    (ran : Runs.run requestStep file requests = some final) (clock clock' : Clock) :
    (loadConfiguration clock' final).result.map settings =
      (loadConfiguration clock file).result.map settings := by
  rw [settings_of_load final clock clock']
  apply Runs.invariant (I := fun later => (loadConfiguration clock later).result.map settings =
    (loadConfiguration clock file).result.map settings) ?_ ran rfl
  rintro before ⟨clocks, request⟩ later stepped same
  cases stepped
  rw [settings_of_next clock, same]

/-- A getter sees of a load what the settings of its result are. -/
theorem getConf_map (environ : Variables) (flags : CommandLine) (clock : Clock)
    (file : ConfFile) :
    (getConf clock file).map (answers environ flags) =
      match (loadConfiguration clock file).result.map settings with
      | .ok conf => .ok (answers environ flags (some conf))
      | .error (.error _) => .ok (answers environ flags none)
      | .error (.panic cause) => .error (.panic cause) := by
  rw [getConf]
  cases (loadConfiguration clock file).result with
  | ok conf => exact congrArg Except.ok (answers_settings environ flags (some conf)).symm
  | error failure => cases failure <;> rfl

/-- What a blank variable leaves off. -/
def switchedOn (v : GoString) : Bool := (meaning v).getD false

/-- Where the field is off the flag is not asked. -/
theorem switchedOn_of_off (v : GoString) (flag : Bool) :
    ((meaning v).or (some false)).getD flag = switchedOn v := by
  rw [switchedOn]
  cases meaning v with
  | none => rfl
  | some on => rfl

/-- The configuration that is made where there is none switches the network off. -/
theorem dpsNetwork_of_default (environ : Environ) (flags : FlagSet) {c : Configuration}
    (made : settings c = settings Local.defaultConfig) :
    dpsNetwork environ flags (some c) (some c) =
      .ok (switchedOn environ.mgDpsNetworkAutoConnect || switchedOn environ.mgDpsNetwork) := by
  have off : c.dpsNetwork = some false := congrArg Configuration.dpsNetwork made
  have offToo : c.dpsNetworkAutoConnect = some false :=
    congrArg Configuration.dpsNetworkAutoConnect made
  have resolved : Resolved environ flags (some c) := {
    autoConnect := dpsNetworkAutoConnect_eq_iff.mpr fun _ => ⟨c, rfl, by simp [offToo],
      by simp [off]⟩
    network := dpsNetwork0_eq_iff.mpr fun _ => rfl
    containerNames := shouldRegisterContainerNames_eq environ flags (some c)
    resolvConf := setupResolvConf_eq flags (some c) }
  rw [dpsNetwork_eq resolved]
  simp only [Setting.value, autoConnectSetting, networkSetting, Option.bind_some, off, offToo,
    switchedOn_of_off]

/-- Whatever the configuration file holds, a broken one or none at all, and whatever requests
come: every getter returns afterwards what it returned before, for any variables and flags. With
a file that the program has made itself the network is what the variables say, and the flags for
it have no effect. -/
theorem settings_survive_requests (environ : Variables) (flags : CommandLine)
    {file final : ConfFile} {requests : List (Clocks × Request)}
    (ran : Runs.run requestStep file requests = some final) (clock clock' : Clock) :
    (getConf clock' final).map (answers environ flags) =
        (getConf clock file).map (answers environ flags) ∧
      (file = .missing → ∃ conf, getConf clock' final = .ok (some conf) ∧
        dpsNetwork environ.toEnviron flags.toFlagSet (some conf) (some conf) =
          .ok (switchedOn environ.mgDpsNetworkAutoConnect ||
            switchedOn environ.mgDpsNetwork)) := by
  have kept := settings_of_run ran clock clock'
  constructor
  · rw [getConf_map, getConf_map, kept]
  · intro missing
    obtain ⟨d, load⟩ := loadConfiguration_missing
    rw [missing, load clock] at kept
    cases loaded : (loadConfiguration clock' final).result with
    | error failure =>
        rw [loaded] at kept
        cases kept
    | ok conf =>
        rw [loaded] at kept
        have made : settings conf = settings Local.defaultConfig := Except.ok.inj kept
        exact ⟨conf, by rw [getConf, loaded], dpsNetwork_of_default _ _ made⟩

/-- The first requests of a new installation. -/
def freshRequests : List (Clocks × Request) :=
  [(⟨Local.stillClock, Local.stillClock, Local.stillClock⟩,
      .postEnv { name := "dev".toList, hostnames := [] }),
    (⟨Local.stillClock, Local.stillClock, Local.stillClock⟩,
      .putEnvActive { name := "dev".toList, hostnames := [] })]

theorem settings_survive_requests_fresh :
    ∃ final, Runs.run requestStep .missing freshRequests = some final ∧
      (getConf Local.stillClock final).map (answers {} { dpsNetwork := true }) =
        (getConf Local.stillClock .missing).map (answers {} { dpsNetwork := true }) ∧
      ∃ conf, getConf Local.stillClock final = .ok (some conf) ∧
        dpsNetwork {} { dpsNetwork := true } (some conf) (some conf) = .ok false := by
  obtain ⟨final, ran⟩ : ∃ final, Runs.run requestStep .missing freshRequests = some final :=
    ⟨_, rfl⟩
  obtain ⟨same, fresh⟩ := settings_survive_requests {} { dpsNetwork := true } ran
    Local.stillClock Local.stillClock
  exact ⟨final, ran, same, fresh rfl⟩

end Conf

end DnsProxyServer
