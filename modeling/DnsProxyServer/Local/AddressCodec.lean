/-
Module: DnsProxyServer.Local.AddressCodec
Purpose: The regular expression of the server addresses, that the matcher of the model is
  its leftmost greedy match, and that addresses survive saving and loading.
Trusted boundary: translation of the expression in toDnsServer of
  events/local/localvo/dnsserver.go
Main exports: dnsServerRegexp, find_dnsServerRegexp, roundStep, address_codec_stable
-/
import DnsProxyServer.Lib.Regexp
import DnsProxyServer.Local.Load

namespace DnsProxyServer.Local

open LoadStore (Access after)
open Regexp (Expr Way)
open Abstract (replenish)

/-! ### The regular expression -/

/-- `\d+\.\d+\.\d+\.\d+` -/
def quadRegexp : Expr Char :=
  .seq (.plus Char.isDigit) (.seq (.one (· == '.'))
    (.seq (.plus Char.isDigit) (.seq (.one (· == '.'))
      (.seq (.plus Char.isDigit) (.seq (.one (· == '.'))
        (.plus Char.isDigit))))))

/-- `(\d+\.\d+\.\d+\.\d+):?(\d*)` -/
def dnsServerRegexp : Expr Char :=
  .seq (.group quadRegexp) (.seq (.opt (· == ':')) (.group (.star Char.isDigit)))

theorem first_digits (s : GoString) :
    Regexp.first (.plus Char.isDigit) s =
      (takeDigits s).map fun m => ({ taken := m.1, rest := m.2 } : Way Char) := by
  rw [Regexp.first_plus, takeDigits]
  by_cases none : s.takeWhile Char.isDigit = []
  · rw [if_pos none, if_pos (List.isEmpty_iff.mpr none)]
    rfl
  · rw [if_neg none, if_neg fun empty => none (List.isEmpty_iff.mp empty)]
    rfl

theorem first_dot (s : GoString) :
    Regexp.first (.one (· == '.')) s =
      (takeDot s).map fun rest => ({ taken := ['.'], rest := rest } : Way Char) := by
  rw [Regexp.first_one]
  cases s with
  | nil => rfl
  | cons c s =>
      by_cases dot : c = '.'
      · subst dot
        rfl
      · have other : takeDot (c :: s) = none := by
          unfold takeDot
          split
          · rename_i rest same
            exact absurd (List.cons.inj same).1 dot
          · rfl
        simp [dot, other]

/-- A dot is not a digit, so a run of digits before one is as long as it can be. -/
theorem committed_digits_dot (r : Expr Char) :
    Regexp.Committed (.plus Char.isDigit) (.seq (.one (· == '.')) r) := by
  refine Regexp.committed_plus fun c s isDigit => Regexp.ways_seq_of_nil ?_ r
  have other : c ≠ '.' := by
    rintro rfl
    exact absurd isDigit (by decide)
  simp [other]

/-- One run of digits with its dot. -/
theorem first_digits_dot (r : Expr Char) (s : GoString) :
    Regexp.first (.seq (.plus Char.isDigit) (.seq (.one (· == '.')) r)) s =
      (takeDigits s).bind fun m => (takeDot m.2).bind fun rest =>
        (Regexp.first r rest).map fun w => { w with taken := m.1 ++ '.' :: w.taken } := by
  rw [Regexp.first_seq (Or.inr (committed_digits_dot r)), first_digits]
  cases takeDigits s with
  | none => rfl
  | some m =>
      simp only [Option.map_some, Option.bind_some]
      rw [Regexp.first_seq (Or.inr (Regexp.committed_one _ _)), first_dot]
      cases takeDot m.2 with
      | none => rfl
      | some rest => cases found : Regexp.first r rest <;> simp [found, Way.append]

theorem first_quadRegexp (s : GoString) :
    Regexp.first quadRegexp s =
      (matchIp s).map fun m => ({ taken := m.1, rest := m.2 } : Way Char) := by
  -- both sides are the same chain of binds
  simp only [quadRegexp, first_digits_dot, first_digits, matchIp, Option.bind_eq_bind,
    Option.pure_def, Option.map_eq_bind, Option.bind_assoc, Option.bind_some,
    Function.comp_def, List.append_assoc, List.cons_append]

/-- The optional colon and the digits behind it. -/
theorem first_port (s : GoString) :
    ∃ w, Regexp.first (.seq (.opt (· == ':')) (.group (.star Char.isDigit))) s = some w ∧
      w.groups = [matchPort s] := by
  rw [Regexp.first_seq (Or.inl (Regexp.total_star Char.isDigit).group)]
  simp only [Regexp.first_group, Regexp.first_star, Option.map_some]
  cases s with
  | nil => exact ⟨_, rfl, rfl⟩
  | cons c s =>
      by_cases colon : c = ':'
      · subst colon
        exact ⟨_, rfl, rfl⟩
      · have digits : matchPort (c :: s) = (c :: s).takeWhile Char.isDigit := by
          unfold matchPort
          split
          · rename_i after same
            exact absurd (List.cons.inj same).1 colon
          · rfl
        refine ⟨_, by simp [Regexp.first, colon]; rfl, ?_⟩
        rw [digits]
        rfl

theorem first_dnsServerRegexp (s : GoString) :
    (Regexp.first dnsServerRegexp s).map Way.groups =
      (matchIp s).map fun m => [m.1, matchPort m.2] := by
  have total := (Regexp.total_opt (· == ':')).seq (Regexp.total_star Char.isDigit).group
  rw [dnsServerRegexp, Regexp.first_seq (Or.inl total), Regexp.first_group, first_quadRegexp]
  cases matchIp s with
  | none => rfl
  | some m =>
      obtain ⟨w, found, groups⟩ := first_port m.2
      simp [Way.grouped, Way.append, found, groups]

/-- The matcher finds what the expression matches leftmost and greedily. -/
theorem find_dnsServerRegexp (s : GoString) :
    (Regexp.find dnsServerRegexp s).map Way.groups =
      (findStringSubmatch s).map fun groups => [groups.1, groups.2] := by
  induction s with
  | nil => rfl
  | cons c s inductionHypothesis =>
      have here := first_dnsServerRegexp (c :: s)
      rw [Regexp.find, findStringSubmatch]
      cases matched : matchIp (c :: s) with
      | none =>
          rw [matched, Option.map_none, Option.map_eq_none_iff] at here
          simp only [here, inductionHypothesis]
      | some m =>
          rw [matched, Option.map_some, Option.map_eq_some_iff] at here
          obtain ⟨w, found, groups⟩ := here
          simp only [found, Option.map_some, groups]

example : (Regexp.find dnsServerRegexp "1.2.x 10.0.0.1053:077a".toList).map Way.groups =
    some ["10.0.0.1053".toList, "077".toList] := by decide

/-! ### What is read -/

/-- Where the expression matches, the server is read from its two groups. -/
theorem toDnsServer_of_find {s : GoString} {w : Way Char}
    (found : Regexp.find dnsServerRegexp s = some w) :
    ∃ ip port, w.groups = [ip, port] ∧
      toDnsServer s = .ok { ip := ip, port := parseIntDnsServer port } := by
  have groups := find_dnsServerRegexp s
  rw [found, Option.map_some] at groups
  cases matched : findStringSubmatch s with
  | none =>
      rw [matched] at groups
      cases groups
  | some m =>
      rw [matched, Option.map_some, Option.some.injEq] at groups
      exact ⟨m.1, m.2, groups, by simp only [toDnsServer, matched]⟩

/-- A dotted quad alone, or with a colon and a number behind it. -/
theorem toDnsServer_quad {quad : GoString} (dotted : DottedQuad quad) :
    toDnsServer quad = .ok { ip := quad, port := 53 } := by
  apply toDnsServer_of_writes ?_ (by simp [maxInt64])
  refine ⟨[], [], by simp, dotted, by simp [StopsDigits], ?_, fun _ _ _ _ _ => Nat.zero_le _⟩
  exact Or.inr ⟨fun c rest absurdity => absurd absurdity (by simp), rfl⟩

theorem toDnsServer_quad_port {quad p : GoString} {n : ℕ} (dotted : DottedQuad quad)
    (port : parseDigits p = some n) (fits : (n : Int) ≤ maxInt64) :
    toDnsServer (quad ++ ':' :: p) = .ok { ip := quad, port := n } := by
  apply toDnsServer_of_writes ?_ fits
  refine ⟨[], ':' :: p, rfl, dotted, ?_, ?_, fun _ _ _ _ _ => Nat.zero_le _⟩
  · intro c member
    cases member
    rfl
  · exact Or.inl ⟨p, [], n, by rw [List.append_nil], by simp [StopsDigits], port, rfl⟩

/-! ### Rounds of loading and saving -/

/-- One round: the configuration is loaded and saved as it is. -/
def loadAndSave (clock : Clock) (file : ConfFile) : FileAccess Configuration :=
  (loadConfiguration clock file).bind saveConfiguration

def roundStep (file : ConfFile) (clock : Clock) : Option ConfFile :=
  some (after file (loadAndSave clock file).saves)

/-- The file is loaded with these servers, whatever the clock says. -/
def Serves (servers : List DNSServer) (file : ConfFile) : Prop :=
  ∀ clock, ∃ c, (loadConfiguration clock file).result = .ok c ∧ c.remoteDnsServers = servers

theorem remoteDnsServers_replenish (c : Configuration) :
    (replenish c).remoteDnsServers = c.remoteDnsServers := by
  rw [Abstract.settings_of_replenish]

/-- The clock has no part in the servers. -/
theorem serves_of_load {clock : Clock} {file : ConfFile} {c : Configuration}
    (loaded : (loadConfiguration clock file).result = .ok c) : Serves c.remoteDnsServers file := by
  intro clock'
  cases file with
  | missing => exact ⟨c, loaded, rfl⟩
  | unreadable failure => cases loaded
  | document d =>
      obtain ⟨c₀, read, rfl⟩ := loadConfiguration_document_eq_ok loaded
      exact ⟨_, loadConfiguration_document read clock', rfl⟩

theorem serves_roundStep {servers : List DNSServer} {file : ConfFile} {clock : Clock}
    (serves : Serves servers file) :
    ∃ file', roundStep file clock = some file' ∧ Serves servers file' := by
  obtain ⟨c, loaded, same⟩ := serves clock
  obtain ⟨settled, -⟩ := represents_of_load loaded
  obtain ⟨d, saved, represents⟩ := represents_of_save settled.storable settled.identified
  refine ⟨_, rfl, fun observer => ⟨replenish c, ?_, ?_⟩⟩
  · rw [loadAndSave, Access.bind_of_ok loaded, saved]
    simp only [Access.save, LoadStore.after_append_singleton,
      loadConfiguration_of_represents represents, Access.ofExcept]
  · rw [remoteDnsServers_replenish, same]

/-- Where the expression matches, the server has a dotted quad and a port of at least zero,
and its address is read as itself; rounds of loading and saving keep the servers of a file;
and an address alone, with or without a port, is read as it is written. -/
theorem address_codec_stable :
    (∀ s w, Regexp.find dnsServerRegexp s = some w → ∃ d, toDnsServer s = .ok d ∧
      DottedQuad d.ip ∧ 0 ≤ d.port ∧ toDnsServer d.getAddress = .ok d) ∧
    (∀ file clock c rounds, (loadConfiguration clock file).result = .ok c →
      ∃ file', Runs.run roundStep file rounds = some file' ∧ Serves c.remoteDnsServers file') ∧
    (∀ quad, DottedQuad quad → toDnsServer quad = .ok { ip := quad, port := 53 }) ∧
    ∀ quad p n, DottedQuad quad → parseDigits p = some n → (n : Int) ≤ maxInt64 →
      toDnsServer (quad ++ ':' :: p) = .ok { ip := quad, port := n } := by
  refine ⟨fun s w found => ?_, fun file clock c rounds loaded => ?_,
    fun quad dotted => toDnsServer_quad dotted,
    fun quad p n dotted port fits => toDnsServer_quad_port dotted port fits⟩
  · obtain ⟨ip, port, -, read⟩ := toDnsServer_of_find found
    have canonical := canonical_of_toDnsServer read
    exact ⟨_, read, canonical.1, canonical.2.1, toDnsServer_getAddress canonical⟩
  · exact Runs.exists_run (fun _ _ serves => serves_roundStep serves) (serves_of_load loaded)
      rounds

end DnsProxyServer.Local
