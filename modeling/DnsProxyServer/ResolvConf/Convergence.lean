/-
Module: DnsProxyServer.ResolvConf.Convergence
Purpose: The passes that install the server converge: whatever was installed before, a
  pass gives what it gives on the original lines, and leaves foreign lines in place.
Trusted boundary: none
Main exports: setLines, setMachineDnsServer_eq_setLines, setLines_setLines,
  scanLines_setLines, setting_converges
-/
import DnsProxyServer.ResolvConf.Restore

namespace DnsProxyServer.ResolvConf

open Occurrence (unlines)

/-- The lines an installing pass writes. -/
def setLines (serverIP : GoString) (lines : List GoString) : List GoString :=
  lines.map (setLine serverIP) ++
    if lines.any (getDnsEntryType · == .proxy) then [] else [getDNSLine serverIP]

theorem setMachineDnsServer_eq_setLines (serverIP content : GoString) :
    setMachineDnsServer serverIP content =
      .ok (unlines '\n' (setLines serverIP (scanLines content))) :=
  setMachineDnsServer_eq serverIP content

/-! ### One line -/

theorem prefix_of_server {line : GoString} (server : getDnsEntryType line = .server) :
    "nameserver".toList <+: line := by
  unfold getDnsEntryType at server
  split_ifs at server with _ _ _ keyword
  exact hasPrefix_iff.mp keyword

/-- A server line that was commented out is neither a server line nor an entry. -/
theorem getDnsEntryType_commentOut_of_server {line : GoString}
    (server : getDnsEntryType line = .server) :
    getDnsEntryType (commentOut line) = .commentedServer ∨
      getDnsEntryType (commentOut line) = .comment := by
  rw [getDnsEntryType_commentOut (prefix_of_server server)]
  split_ifs
  · exact Or.inl rfl
  · exact Or.inr rfl

theorem setLine_of_proxy {line : GoString} (proxy : getDnsEntryType line = .proxy)
    (serverIP : GoString) : setLine serverIP line = getDNSLine serverIP := by
  rw [setLine, proxy]

theorem setLine_of_server {line : GoString} (server : getDnsEntryType line = .server)
    (serverIP : GoString) : setLine serverIP line = commentOut line := by
  rw [setLine, server]

theorem setLine_of_other {line : GoString} (notProxy : getDnsEntryType line ≠ .proxy)
    (notServer : getDnsEntryType line ≠ .server) (serverIP : GoString) :
    setLine serverIP line = line := by
  unfold setLine
  split
  · exact absurd ‹_› notProxy
  · exact absurd ‹_› notServer
  · rfl

/-- A written line is the entry with this address, or neither an entry nor a server
line. -/
theorem getDnsEntryType_setLine (serverIP line : GoString) :
    getDnsEntryType (setLine serverIP line) ≠ .server ∧
      (getDnsEntryType (setLine serverIP line) = .proxy ↔ getDnsEntryType line = .proxy) := by
  by_cases proxy : getDnsEntryType line = .proxy
  · rw [setLine_of_proxy proxy, getDnsEntryType_getDNSLine]
    exact ⟨by decide, iff_of_true rfl proxy⟩
  · by_cases server : getDnsEntryType line = .server
    · rw [setLine_of_server server]
      rcases getDnsEntryType_commentOut_of_server server with commented | comment
      · simp [commented, proxy]
      · simp [comment, proxy]
    · rw [setLine_of_other proxy server]
      exact ⟨server, Iff.rfl⟩

/-- A later pass finds each line as if the earlier one had not been. -/
theorem setLine_setLine (a b line : GoString) :
    setLine b (setLine a line) = setLine b line := by
  by_cases proxy : getDnsEntryType line = .proxy
  · rw [setLine_of_proxy proxy, setLine_of_proxy proxy,
      setLine_of_proxy (getDnsEntryType_getDNSLine a)]
  · by_cases server : getDnsEntryType line = .server
    · have written := getDnsEntryType_setLine a line
      rw [setLine_of_server server] at written ⊢
      rw [setLine_of_server server, setLine_of_other (mt written.2.mp proxy) written.1]
    · rw [setLine_of_other proxy server]

/-! ### All lines -/

theorem mem_setLines {serverIP line : GoString} {lines : List GoString}
    (member : line ∈ setLines serverIP lines) :
    (∃ original ∈ lines, setLine serverIP original = line) ∨ line = getDNSLine serverIP := by
  rcases List.mem_append.mp member with kept | added
  · exact Or.inl (List.mem_map.mp kept)
  · split_ifs at added
    · cases added
    · exact Or.inr (List.mem_singleton.mp added)

theorem exists_proxy_setLines (serverIP : GoString) (lines : List GoString) :
    (setLines serverIP lines).any (getDnsEntryType · == .proxy) = true := by
  rw [setLines, List.any_append, List.any_map]
  have same : (fun line => getDnsEntryType (setLine serverIP line) == .proxy) =
      (getDnsEntryType · == .proxy) := by
    funext line
    rw [Bool.eq_iff_iff, beq_iff_eq, beq_iff_eq]
    exact (getDnsEntryType_setLine serverIP line).2
  cases found : lines.any (getDnsEntryType · == .proxy) with
  | true =>
      change (lines.any (fun line => getDnsEntryType (setLine serverIP line) == .proxy) || _) = _
      rw [same, found]
      rfl
  | false => simp [getDnsEntryType_getDNSLine]

/-- Installing another address over an installed one. -/
theorem setLines_setLines (a b : GoString) (lines : List GoString) :
    setLines b (setLines a lines) = setLines b lines := by
  have again : setLines b (setLines a lines) = (setLines a lines).map (setLine b) := by
    rw [setLines, exists_proxy_setLines, if_pos rfl, List.append_nil]
  have kept : (lines.map (setLine a)).map (setLine b) = lines.map (setLine b) := by
    rw [List.map_map]
    exact List.map_congr_left fun line _ => setLine_setLine a b line
  rw [again, setLines, setLines, List.map_append, kept]
  split_ifs
  · rfl
  · rw [List.map_singleton, setLine_of_proxy (getDnsEntryType_getDNSLine a)]

/-- The file that was written is scanned to the lines that were written, unless a line
ends with a carriage return or does not fit the buffer. -/
theorem scanLines_setLines {serverIP content : GoString} (free : '\n' ∉ serverIP)
    (tidy : ∀ line ∈ setLines serverIP (scanLines content),
      line.length < maxScanTokenSize ∧ line.getLast? ≠ some '\r') :
    scanLines (unlines '\n' (setLines serverIP (scanLines content))) =
      setLines serverIP (scanLines content) := by
  have newlineFree : ∀ line ∈ setLines serverIP (scanLines content), '\n' ∉ line := by
    intro line member
    rcases mem_setLines member with ⟨original, originalMember, rfl⟩ | rfl
    · have originalFree := (of_mem_scanLines originalMember).1
      unfold setLine
      split
      · exact getDNSLine_newline_free free
      · simpa [commentOut] using originalFree
      · exact originalFree
    · exact getDNSLine_newline_free free
  rw [scanLines_unlines newlineFree,
    List.takeWhile_eq_self_iff.mpr fun line member => decide_eq_true (tidy line member).1]
  refine (List.map_congr_left fun line member => ?_).trans (List.map_id _)
  exact dropCR_eq_self.mpr (tidy line member).2

/-- Over a tidy file a second pass writes what it would have written without the first. -/
theorem setMachineDnsServer_again {a b content : GoString} (free : '\n' ∉ a)
    (tidy : ∀ line ∈ setLines a (scanLines content),
      line.length < maxScanTokenSize ∧ line.getLast? ≠ some '\r') :
    ∃ written, setMachineDnsServer a content = .ok written ∧
      setMachineDnsServer b written = setMachineDnsServer b content := by
  refine ⟨_, setMachineDnsServer_eq_setLines a content, ?_⟩
  rw [setMachineDnsServer_eq_setLines, setMachineDnsServer_eq_setLines,
    scanLines_setLines free tidy, setLines_setLines]

/-- What becomes of a line of the file. -/
def Rewritten (serverIP line written : GoString) : Prop :=
  match getDnsEntryType line with
  | .proxy => written = "nameserver ".toList ++ serverIP ++ " # dps-entry".toList
  | .server => written = "# ".toList ++ line ++ " # dps-comment".toList
  | _ => written = line

theorem rewritten_setLine (serverIP line : GoString) :
    Rewritten serverIP line (setLine serverIP line) := by
  unfold Rewritten
  split
  · rename_i proxy
    exact setLine_of_proxy proxy serverIP
  · rename_i server
    exact setLine_of_server server serverIP
  · rename_i notProxy notServer
    exact setLine_of_other notProxy notServer serverIP

/-- A pass writes the lines `setLines`. A later pass with any address gives the same on
them as on the original lines. They have no server line, and an entry, which all entries
equal; each line stays in its place, and at most one is added, at the end. -/
theorem setting_converges (a : GoString) :
    (∀ content, setMachineDnsServer a content =
      .ok (unlines '\n' (setLines a (scanLines content)))) ∧
    ∀ lines,
      (∀ b, setLines b (setLines a lines) = setLines b lines) ∧
      setLines a (setLines a lines) = setLines a lines ∧
      (∀ line ∈ setLines a lines, getDnsEntryType line ≠ .server) ∧
      (∃ line ∈ setLines a lines, getDnsEntryType line = .proxy) ∧
      (∀ line ∈ setLines a lines, getDnsEntryType line = .proxy →
        line = "nameserver ".toList ++ a ++ " # dps-entry".toList) ∧
      ∃ kept added, setLines a lines = kept ++ added ∧
        List.Forall₂ (Rewritten a) lines kept ∧ added.length ≤ 1 := by
  refine ⟨setMachineDnsServer_eq_setLines a, fun lines => ⟨fun b => setLines_setLines a b lines,
    setLines_setLines a a lines, ?_, ?_, ?_, ?_⟩⟩
  · intro line member
    rcases mem_setLines member with ⟨original, -, rfl⟩ | rfl
    · exact (getDnsEntryType_setLine a original).1
    · rw [getDnsEntryType_getDNSLine]
      decide
  · obtain ⟨line, member, proxy⟩ := List.any_eq_true.mp (exists_proxy_setLines a lines)
    exact ⟨line, member, beq_iff_eq.mp proxy⟩
  · intro line member proxy
    rcases mem_setLines member with ⟨original, -, rfl⟩ | rfl
    · exact setLine_of_proxy ((getDnsEntryType_setLine a original).2.mp proxy) a
    · rfl
  · refine ⟨lines.map (setLine a), _, rfl, ?_, ?_⟩
    · rw [List.forall₂_map_right_iff, List.forall₂_same]
      exact fun line _ => rewritten_setLine a line
    · split_ifs <;> simp

end DnsProxyServer.ResolvConf
