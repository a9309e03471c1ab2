/-
Module: DnsProxyServer.ResolvConf.Process
Purpose: The line classifier of resolv.conf, the two line handlers and the pass
  that rewrites the file.
Trusted boundary: translation of resolvconf/*.go; the file is its content and
  every read and write succeeds
Main exports: DnsEntry, getDnsEntryType, DnsHandler, processResolvconf,
  setMachineDnsServer, restoreResolvconfToDefault, processResolvconf_eq,
  processResolvconf_isOk_iff
-/
import DnsProxyServer.Go.Text

namespace DnsProxyServer.ResolvConf

open Occurrence (unlines)

inductive DnsEntry where
  | comment
  | commentedServer
  | server
  | proxy
  | search
  | elseEntry
deriving Repr, DecidableEq

def getDnsEntryType (line : GoString) : DnsEntry :=
  if hasSuffix line "# dps-entry".toList then .proxy
  else if hasPrefix line "# nameserver ".toList && hasSuffix line "# dps-comment".toList then
    .commentedServer
  else if hasPrefix line "#".toList then .comment
  else if hasPrefix line "nameserver".toList then .server
  else if hasPrefix line "search".toList then .search
  else .elseEntry

/-- The interface `DnsHandler`: `none` for a nil line, which is not written. -/
structure DnsHandler where
  process : GoString → DnsEntry → Except Failure (Option GoString)
  afterProcess : (hasContent foundDnsProxy : Bool) → Option GoString

def getDNSLine (serverIP : GoString) : GoString :=
  "nameserver ".toList ++ serverIP ++ " # dps-entry".toList

/-- `fmt.Sprintf("# %s # dps-comment", line)`. -/
def commentOut (line : GoString) : GoString :=
  "# ".toList ++ line ++ " # dps-comment".toList

def newSetMachineDnsServerHandler (serverIP : GoString) : DnsHandler where
  process line entryType :=
    match entryType with
    | .proxy => .ok (some (getDNSLine serverIP))
    | .server => .ok (some (commentOut line))
    | _ => .ok (some line)
  afterProcess hasContent foundDnsProxy :=
    if !hasContent || !foundDnsProxy then some (getDNSLine serverIP) else none

def newDNSServerCleanerHandler : DnsHandler where
  process line entryType :=
    match entryType with
    | .proxy => .ok none
    | .commentedServer =>
        -- `line[2: strings.Index(line, " # dps-comment")]`; index -1 is out of bounds
        match index line " # dps-comment".toList with
        | some stop => (slice line 2 stop).map some
        | none => .error (.panic .sliceBounds)
    | .server => .ok (some line)
    | _ => .ok (some line)
  afterProcess _ _ := none

/-- The variables of the loop in `ProcessResolvconf`. -/
structure Pass where
  newResolvConfBuff : GoString := []
  hasContent : Bool := false
  foundDnsProxyEntry : Bool := false

def writeLine (buff : GoString) : Option GoString → GoString
  | some r => buff ++ r ++ ['\n']
  | none => buff

def processLine (handler : DnsHandler) (pass : Pass) (line : GoString) :
    Except Failure Pass := do
  let entryType := getDnsEntryType line
  let r ← handler.process line entryType
  return {
    newResolvConfBuff := writeLine pass.newResolvConfBuff r
    hasContent := true
    foundDnsProxyEntry := pass.foundDnsProxyEntry || entryType == .proxy }

/-- One pass over the content of the file; the result is written back to it.
The error of the scanner is never looked at. -/
def processResolvconf (handler : DnsHandler) (content : GoString) :
    Except Failure GoString := do
  let pass ← (scanLines content).foldlM (processLine handler) {}
  return writeLine pass.newResolvConfBuff
    (handler.afterProcess pass.hasContent pass.foundDnsProxyEntry)

def setMachineDnsServer (serverIP content : GoString) : Except Failure GoString :=
  processResolvconf (newSetMachineDnsServerHandler serverIP) content

def restoreResolvconfToDefault (content : GoString) : Except Failure GoString :=
  processResolvconf newDNSServerCleanerHandler content

/-! ### Closed form of a pass

A handler that returns on every line of the file turns the loop into one map
over the lines. -/

private theorem foldlM_processLine {handler : DnsHandler}
    {result : GoString → Option GoString} {lines : List GoString}
    (returns : ∀ line ∈ lines,
      handler.process line (getDnsEntryType line) = .ok (result line))
    (pass : Pass) :
    lines.foldlM (processLine handler) pass =
      .ok {
        newResolvConfBuff := pass.newResolvConfBuff ++ unlines '\n' (lines.filterMap result)
        hasContent := pass.hasContent || !lines.isEmpty
        foundDnsProxyEntry :=
          pass.foundDnsProxyEntry || lines.any (getDnsEntryType · == .proxy) } := by
  induction lines generalizing pass with
  | nil => simp; rfl
  | cons line lines inductionHypothesis =>
      have here := returns line (by simp)
      have later := inductionHypothesis fun other member => returns other (by simp [member])
      rw [List.foldlM_cons]
      simp only [processLine, here]
      change lines.foldlM (processLine handler) _ = _
      rw [later]
      cases resultEq : result line with
      | none => simp [resultEq, writeLine, Bool.or_assoc]
      | some r => simp [resultEq, writeLine, Bool.or_assoc]

/-- What a pass writes when the handler returns on every delivered line. -/
theorem processResolvconf_eq {handler : DnsHandler} {result : GoString → Option GoString}
    {content : GoString}
    (returns : ∀ line ∈ scanLines content,
      handler.process line (getDnsEntryType line) = .ok (result line)) :
    processResolvconf handler content =
      .ok (unlines '\n' ((scanLines content).filterMap result ++
        (handler.afterProcess (!(scanLines content).isEmpty)
          ((scanLines content).any (getDnsEntryType · == .proxy))).toList)) := by
  rw [processResolvconf, foldlM_processLine returns]
  cases after : handler.afterProcess (!(scanLines content).isEmpty)
      ((scanLines content).any (getDnsEntryType · == .proxy)) with
  | none => simp [writeLine, after, bind, Except.bind, pure, Except.pure]
  | some r => simp [writeLine, after, bind, Except.bind, pure, Except.pure, unlines]

private theorem process_of_foldlM {handler : DnsHandler} {lines : List GoString} :
    ∀ {pass pass' : Pass}, lines.foldlM (processLine handler) pass = .ok pass' →
      ∀ line ∈ lines, ∃ r, handler.process line (getDnsEntryType line) = .ok r := by
  induction lines with
  | nil => simp
  | cons first lines inductionHypothesis =>
      intro pass pass' folded line member
      rw [List.foldlM_cons] at folded
      cases here : handler.process first (getDnsEntryType first) with
      | error failure =>
          simp only [processLine, here, bind, Except.bind] at folded
          cases folded
      | ok r =>
          rcases List.mem_cons.mp member with rfl | later
          · exact ⟨r, here⟩
          · simp only [processLine, here] at folded
            exact inductionHypothesis folded line later

/-- A pass returns exactly when its handler does on every delivered line. -/
theorem processResolvconf_isOk_iff {handler : DnsHandler} {content : GoString} :
    (∃ written, processResolvconf handler content = .ok written) ↔
      ∀ line ∈ scanLines content, ∃ r, handler.process line (getDnsEntryType line) = .ok r := by
  constructor
  · rintro ⟨written, returned⟩
    rw [processResolvconf] at returned
    cases folded : (scanLines content).foldlM (processLine handler) {} with
    | error failure =>
        simp only [folded, bind, Except.bind] at returned
        cases returned
    | ok pass => exact process_of_foldlM folded
  · intro each
    have returns : ∀ line ∈ scanLines content,
        handler.process line (getDnsEntryType line) =
          .ok (handler.process line (getDnsEntryType line)).toOption.join := by
      intro line member
      obtain ⟨r, value⟩ := each line member
      rw [value]
      rfl
    exact ⟨_, processResolvconf_eq returns⟩

end DnsProxyServer.ResolvConf
