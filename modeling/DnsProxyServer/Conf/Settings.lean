/-
Module: DnsProxyServer.Conf.Settings
Purpose: The switches that have an environment variable, a field of the configuration and
  a flag: which of the three decides, and when reading one panics.
Trusted boundary: translation of SetupResolvConf, ShouldRegisterContainerNames, DpsNetwork,
  dpsNetwork0 and DpsNetworkAutoConnect of conf/conf.go and of flags/flags.go; what
  LoadConfiguration returns is arbitrary
Main exports: Environ, FlagSet, setupResolvConf, shouldRegisterContainerNames, dpsNetwork0,
  dpsNetworkAutoConnect, dpsNetwork, Setting, Resolved, Guarded, settings_resolve_iff,
  network_without_autoConnect_panics
-/
import DnsProxyServer.Local.File

namespace DnsProxyServer.Conf

open Local (Configuration)

/-! ### The getters -/

/-- `os.Getenv` of the variables; the text of one that is not set is empty. -/
structure Environ where
  mgRegisterContainerNames : GoString := []
  mgDpsNetwork : GoString := []
  mgDpsNetworkAutoConnect : GoString := []

/-- The parsed command line. -/
structure FlagSet where
  setupResolvconf : Bool := true
  registerContainerNames : Bool := false
  dpsNetwork : Bool := false
  dpsNetworkAutoConnect : Bool := false

namespace Flags

def registerContainerNames (flags : FlagSet) : Bool := flags.registerContainerNames

def dpsNetworkAutoConnect (flags : FlagSet) : Bool := flags.dpsNetworkAutoConnect

def dpsNetwork (flags : FlagSet) : Bool := flags.dpsNetwork || dpsNetworkAutoConnect flags

end Flags

/-- `*p`. -/
def deref {α : Type} : Option α → Except Failure α
  | some a => .ok a
  | none => .error (.panic .nilDereference)

/-- A non-blank variable decides; else the getter goes on. -/
def getenvOr (v : GoString) (next : Except Failure Bool) : Except Failure Bool :=
  if !trimSpaceEmpty v then .ok (v == "1".toList) else next

/-- `conf` is the first result of `getConf`, which is nil when there is an error. -/
def setupResolvConf (flags : FlagSet) (conf : Option Configuration) : Except Failure Bool :=
  match conf with
  | some conf =>
      if conf.defaultDns.isSome then deref conf.defaultDns else .ok flags.setupResolvconf
  | none => .ok flags.setupResolvconf

def shouldRegisterContainerNames (environ : Environ) (flags : FlagSet)
    (conf : Option Configuration) : Except Failure Bool :=
  getenvOr environ.mgRegisterContainerNames <|
    match conf with
    | some conf =>
        if conf.registerContainerNames.isSome then deref conf.registerContainerNames
        else .ok (Flags.registerContainerNames flags)
    | none => .ok (Flags.registerContainerNames flags)

def dpsNetwork0 (environ : Environ) (flags : FlagSet) (conf : Option Configuration) :
    Except Failure Bool :=
  getenvOr environ.mgDpsNetwork do
    let conf ← deref conf
    if conf.dpsNetwork.isSome then deref conf.dpsNetwork else .ok (Flags.dpsNetwork flags)

/-- The field that is tested is not the one that is returned. -/
def dpsNetworkAutoConnect (environ : Environ) (flags : FlagSet) (conf : Option Configuration) :
    Except Failure Bool :=
  getenvOr environ.mgDpsNetworkAutoConnect do
    let conf ← deref conf
    if conf.dpsNetwork.isSome then deref conf.dpsNetworkAutoConnect
    else .ok (Flags.dpsNetworkAutoConnect flags)

/-- Each getter loads the configuration for itself. -/
def dpsNetwork (environ : Environ) (flags : FlagSet) (conf conf0 : Option Configuration) :
    Except Failure Bool := do
  if ← dpsNetworkAutoConnect environ flags conf then .ok true
  else dpsNetwork0 environ flags conf0

/-! ### The rule -/

/-- A switch: the text of its variable, if it has one, its field and the value of its flag. -/
structure Setting where
  text : Option GoString
  field : Configuration → Option Bool
  flag : Bool

/-- What the text of a variable says; a blank one says nothing. -/
def meaning (v : GoString) : Option Bool :=
  if trimSpaceEmpty v then none else some (v == "1".toList)

/-- The variable, else the field, else the flag. -/
def Setting.value (setting : Setting) (conf : Option Configuration) : Bool :=
  ((setting.text.bind meaning).or (conf.bind setting.field)).getD setting.flag

def resolvConfSetting (flags : FlagSet) : Setting where
  text := none
  field := Configuration.defaultDns
  flag := flags.setupResolvconf

def containerNamesSetting (environ : Environ) (flags : FlagSet) : Setting where
  text := some environ.mgRegisterContainerNames
  field := Configuration.registerContainerNames
  flag := Flags.registerContainerNames flags

def networkSetting (environ : Environ) (flags : FlagSet) : Setting where
  text := some environ.mgDpsNetwork
  field := Configuration.dpsNetwork
  flag := Flags.dpsNetwork flags

def autoConnectSetting (environ : Environ) (flags : FlagSet) : Setting where
  text := some environ.mgDpsNetworkAutoConnect
  field := Configuration.dpsNetworkAutoConnect
  flag := Flags.dpsNetworkAutoConnect flags

/-- The four getters return what the rule gives. -/
structure Resolved (environ : Environ) (flags : FlagSet) (conf : Option Configuration) : Prop where
  autoConnect : dpsNetworkAutoConnect environ flags conf =
    .ok ((autoConnectSetting environ flags).value conf)
  network : dpsNetwork0 environ flags conf = .ok ((networkSetting environ flags).value conf)
  containerNames : shouldRegisterContainerNames environ flags conf =
    .ok ((containerNamesSetting environ flags).value conf)
  resolvConf : setupResolvConf flags conf = .ok ((resolvConfSetting flags).value conf)

/-- The configuration counts only where the variable is blank. -/
structure Guarded (environ : Environ) (flags : FlagSet) (conf : Option Configuration) : Prop where
  network : trimSpaceEmpty environ.mgDpsNetwork = true → conf.isSome = true
  autoConnect : trimSpaceEmpty environ.mgDpsNetworkAutoConnect = true → ∃ c, conf = some c ∧
    (c.dpsNetwork.isSome = true → c.dpsNetworkAutoConnect.isSome = true) ∧
    (c.dpsNetwork = none → ∀ b, c.dpsNetworkAutoConnect = some b →
      b = Flags.dpsNetworkAutoConnect flags)

/-! ### One getter -/

/-- A getter with a variable follows the rule if it does so where the variable is blank. -/
theorem getenvOr_eq_value_iff {setting : Setting} {v : GoString} (named : setting.text = some v)
    {conf : Option Configuration} {next : Except Failure Bool} :
    getenvOr v next = .ok (setting.value conf) ↔
      (trimSpaceEmpty v = true → next = .ok ((conf.bind setting.field).getD setting.flag)) := by
  cases blank : trimSpaceEmpty v <;> simp [getenvOr, Setting.value, meaning, named, blank]

theorem setupResolvConf_eq (flags : FlagSet) (conf : Option Configuration) :
    setupResolvConf flags conf = .ok ((resolvConfSetting flags).value conf) := by
  cases conf with
  | none => rfl
  | some c =>
      simp only [setupResolvConf, Setting.value, resolvConfSetting, Option.bind_none,
        Option.none_or, Option.bind_some]
      cases c.defaultDns <;> rfl

theorem shouldRegisterContainerNames_eq (environ : Environ) (flags : FlagSet)
    (conf : Option Configuration) :
    shouldRegisterContainerNames environ flags conf =
      .ok ((containerNamesSetting environ flags).value conf) := by
  refine (getenvOr_eq_value_iff rfl).mpr fun _ => ?_
  cases conf with
  | none => rfl
  | some c =>
      simp only [containerNamesSetting, Option.bind_some]
      cases c.registerContainerNames <;> rfl

/-- The configuration is dereferenced without a test. -/
theorem dpsNetwork0_eq_iff {environ : Environ} {flags : FlagSet} {conf : Option Configuration} :
    dpsNetwork0 environ flags conf = .ok ((networkSetting environ flags).value conf) ↔
      (trimSpaceEmpty environ.mgDpsNetwork = true → conf.isSome = true) := by
  refine (getenvOr_eq_value_iff rfl).trans (imp_congr_right fun _ => ?_)
  cases conf with
  | none => exact iff_of_false (by simp [deref, bind, Except.bind]) (by simp)
  | some c =>
      refine iff_of_true ?_ rfl
      simp only [networkSetting, deref, bind, Except.bind, Option.bind_some]
      cases c.dpsNetwork <;> rfl

theorem dpsNetworkAutoConnect_eq_iff {environ : Environ} {flags : FlagSet}
    {conf : Option Configuration} :
    dpsNetworkAutoConnect environ flags conf =
        .ok ((autoConnectSetting environ flags).value conf) ↔
      (trimSpaceEmpty environ.mgDpsNetworkAutoConnect = true → ∃ c, conf = some c ∧
        (c.dpsNetwork.isSome = true → c.dpsNetworkAutoConnect.isSome = true) ∧
        (c.dpsNetwork = none → ∀ b, c.dpsNetworkAutoConnect = some b →
          b = Flags.dpsNetworkAutoConnect flags)) := by
  refine (getenvOr_eq_value_iff rfl).trans (imp_congr_right fun _ => ?_)
  cases conf with
  | none => exact iff_of_false (by simp [deref, bind, Except.bind]) (by simp)
  | some c =>
      simp only [autoConnectSetting, deref, bind, Except.bind, Option.bind_some,
        Option.some.injEq, exists_eq_left']
      cases c.dpsNetwork with
      | none =>
          -- the flag is returned, whatever the field has
          cases c.dpsNetworkAutoConnect <;> simp [eq_comm]
      | some b =>
          -- the field is dereferenced because the other one is present
          cases c.dpsNetworkAutoConnect <;> simp

/-! ### All getters -/

/-- The getters return what the rule gives, without a panic, if and only if a blank variable
finds a configuration in which the field of auto-connect is there whenever the network's is, and
otherwise does not differ from the flag. -/
theorem settings_resolve_iff (environ : Environ) (flags : FlagSet)
    (conf : Option Configuration) :
    Resolved environ flags conf ↔ Guarded environ flags conf := by
  constructor
  · rintro ⟨autoConnect, network, -, -⟩
    exact ⟨dpsNetwork0_eq_iff.mp network, dpsNetworkAutoConnect_eq_iff.mp autoConnect⟩
  · rintro ⟨network, autoConnect⟩
    exact ⟨dpsNetworkAutoConnect_eq_iff.mpr autoConnect, dpsNetwork0_eq_iff.mpr network,
      shouldRegisterContainerNames_eq environ flags conf, setupResolvConf_eq flags conf⟩

/-- What the docker goroutine then reads is one of the two switches. -/
theorem dpsNetwork_eq {environ : Environ} {flags : FlagSet} {conf : Option Configuration}
    (resolved : Resolved environ flags conf) :
    dpsNetwork environ flags conf conf =
      .ok ((autoConnectSetting environ flags).value conf ||
        (networkSetting environ flags).value conf) := by
  rw [dpsNetwork, resolved.autoConnect, resolved.network]
  simp only [bind, Except.bind]
  cases (autoConnectSetting environ flags).value conf <;> rfl

/-- A version 2 file that turns the network on and does not speak of auto-connect. -/
def networkOnly : Local.StorageV2.ConfigurationV2 where
  version := 2
  remoteDnsServers := []
  envs := []
  activeEnv := []
  webServerPort := 0
  dnsServerPort := 0
  defaultDns := none
  logLevel := []
  logFile := []
  registerContainerNames := none
  hostMachineHostname := []
  domain := []
  dpsNetwork := some true
  dpsNetworkAutoConnect := none

/-- A file with the network and without auto-connect ends in a panic, and so does any file that
cannot be loaded; auto-connect alone in a file does nothing. -/
theorem network_without_autoConnect_panics :
    (∃ c, (Local.loadConfiguration Local.stillClock (.document (.v2 networkOnly))).result = .ok c ∧
      dpsNetworkAutoConnect {} {} (some c) = .error (.panic .nilDereference) ∧
      ¬ Resolved {} {} (some c)) ∧
    (∃ c, (Local.loadConfiguration Local.stillClock
        (.document (.v2 { networkOnly with
          dpsNetwork := none
          dpsNetworkAutoConnect := some true }))).result = .ok c ∧
      dpsNetworkAutoConnect {} {} (some c) = .ok false ∧
      (autoConnectSetting {} {}).value (some c) = true) ∧
    dpsNetwork0 {} {} none = .error (.panic .nilDereference) ∧
    dpsNetworkAutoConnect {} {} none = .error (.panic .nilDereference) := by
  refine ⟨⟨_, rfl, rfl, fun resolved => ?_⟩, ⟨_, rfl, rfl, rfl⟩, rfl, rfl⟩
  cases resolved.autoConnect

end DnsProxyServer.Conf
