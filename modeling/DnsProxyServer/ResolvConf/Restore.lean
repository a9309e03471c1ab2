/-
Module: DnsProxyServer.ResolvConf.Restore
Purpose: When shutdown undoes startup on resolv.conf: any number of passes that
  install the server, then the pass that removes it.
Trusted boundary: none
Main exports: Unmarked, Restorable, startup, shutdown, Tracks,
  shutdown_restores_iff, tab_separated_nameserver_is_not_restored
-/
import DnsProxyServer.ResolvConf.Process
import Mathlib.Data.List.Forall2

namespace DnsProxyServer.ResolvConf

open Occurrence (unlines)

/-- A line without the two marks the server writes. -/
def Unmarked (line : GoString) : Prop :=
  ¬ "# dps-entry".toList <:+: line ∧ ¬ "# dps-comment".toList <:+: line

/-- The shape of a nameserver line that the restoring pass recognises once it
is commented out. -/
def Separated (line : GoString) : Prop :=
  line = "nameserver".toList ∨ "nameserver ".toList <+: line

/-- The lines that come back. A final carriage return is lost by the scanner of
the next pass, a nameserver line must be separated by a space, and with the
sixteen bytes of the comment it must still fit the scanner's buffer. -/
def Restorable (line : GoString) : Prop :=
  line.getLast? ≠ some '\r' ∧
    ("nameserver".toList <+: line →
      Separated line ∧ line.length + 16 < maxScanTokenSize)

instance (line : GoString) : Decidable (Unmarked line) :=
  inferInstanceAs (Decidable (_ ∧ _))

instance (line : GoString) : Decidable (Separated line) :=
  inferInstanceAs (Decidable (_ ∨ _))

instance (line : GoString) : Decidable (Restorable line) :=
  inferInstanceAs (Decidable (_ ∧ (_ → _)))

/-- Successive `SetMachineDnsServer` calls, one for each address. -/
def startup (serverIPs : List GoString) (content : GoString) : Except Failure GoString :=
  serverIPs.foldlM (fun current serverIP => setMachineDnsServer serverIP current) content

/-- A run of the process as resolv.conf sees it. -/
def shutdown (serverIPs : List GoString) (content : GoString) : Except Failure GoString := do
  restoreResolvconfToDefault (← startup serverIPs content)

/-! ### Classification of the lines the passes meet -/

theorem Unmarked.of_prefix {line kept : GoString} (unmarked : Unmarked line)
    (keptFirst : kept <+: line) : Unmarked kept :=
  ⟨fun h => unmarked.1 (h.trans keptFirst.isInfix),
    fun h => unmarked.2 (h.trans keptFirst.isInfix)⟩

private theorem not_hash_prefix_of_nameserver {line : GoString}
    (server : "nameserver".toList <+: line) : ¬ "#".toList <+: line := by
  intro hash
  have both : "#".toList <+: "nameserver".toList :=
    List.prefix_of_prefix_length_le hash server (by decide)
  exact absurd both (by decide)

/-- Without marks a line is a server line exactly when it starts with the keyword. -/
theorem getDnsEntryType_of_unmarked {line : GoString} (unmarked : Unmarked line) :
    getDnsEntryType line ≠ .proxy ∧ getDnsEntryType line ≠ .commentedServer ∧
      (getDnsEntryType line = .server ↔ "nameserver".toList <+: line) := by
  have notEntry : hasSuffix line "# dps-entry".toList = false :=
    Bool.eq_false_iff.mpr fun h => unmarked.1 (hasSuffix_iff.mp h).isInfix
  have notComment : hasSuffix line "# dps-comment".toList = false :=
    Bool.eq_false_iff.mpr fun h => unmarked.2 (hasSuffix_iff.mp h).isInfix
  rw [← hasPrefix_iff]
  by_cases hash : hasPrefix line "#".toList = true
  · have notServer : hasPrefix line "nameserver".toList = false :=
      Bool.eq_false_iff.mpr fun h =>
        not_hash_prefix_of_nameserver (hasPrefix_iff.mp h) (hasPrefix_iff.mp hash)
    simp only [getDnsEntryType, notEntry, notComment, hash, notServer]
    simp
  · simp only [getDnsEntryType, notEntry, notComment, hash]
    cases hasPrefix line "nameserver".toList <;> cases hasPrefix line "search".toList <;> simp

theorem getDnsEntryType_getDNSLine (serverIP : GoString) :
    getDnsEntryType (getDNSLine serverIP) = .proxy := by
  have marked : hasSuffix (getDNSLine serverIP) "# dps-entry".toList = true :=
    hasSuffix_iff.mpr
      (List.IsSuffix.trans (by decide : "# dps-entry".toList <:+ " # dps-entry".toList)
        (List.suffix_append _ _))
  simp only [getDnsEntryType, marked, if_true]

private theorem hasSuffix_entry_commentOut (line : GoString) :
    hasSuffix (commentOut line) "# dps-entry".toList = false := by
  refine Bool.eq_false_iff.mpr fun marked => ?_
  have both : "# dps-entry".toList <:+ " # dps-comment".toList :=
    List.suffix_of_suffix_length_le (hasSuffix_iff.mp marked)
      (List.suffix_append _ _) (by decide)
  exact absurd both (by decide)

private theorem hasSuffix_comment_commentOut (line : GoString) :
    hasSuffix (commentOut line) "# dps-comment".toList = true :=
  hasSuffix_iff.mpr
    (List.IsSuffix.trans (by decide : "# dps-comment".toList <:+ " # dps-comment".toList)
      (List.suffix_append _ _))

/-- After the keyword, the space that the reader of commented lines wants is
there at once or comes from the comment itself. -/
private theorem keyword_space_iff {line : GoString} (server : "nameserver".toList <+: line) :
    "# nameserver ".toList <+: commentOut line ↔ Separated line := by
  obtain ⟨tail, rfl⟩ := server
  have strip : "# nameserver ".toList <+: commentOut ("nameserver".toList ++ tail) ↔
      " ".toList <+: tail ++ " # dps-comment".toList := by
    have left : "# nameserver ".toList = "# nameserver".toList ++ " ".toList := by decide
    have right : commentOut ("nameserver".toList ++ tail) =
        "# nameserver".toList ++ (tail ++ " # dps-comment".toList) := by
      simp [commentOut]
    rw [left, right, List.prefix_append_right_inj]
  rw [strip]
  cases tail with
  | nil => simp [Separated]
  | cons c rest =>
      have split : "nameserver ".toList = "nameserver".toList ++ " ".toList := by decide
      have notBare : "nameserver".toList ++ c :: rest ≠ "nameserver".toList := by simp
      rw [Separated, split, List.prefix_append_right_inj]
      simp [List.cons_prefix_cons]

theorem getDnsEntryType_commentOut {line : GoString}
    (server : "nameserver".toList <+: line) :
    getDnsEntryType (commentOut line) =
      if Separated line then .commentedServer else .comment := by
  have hash : hasPrefix (commentOut line) "#".toList = true :=
    hasPrefix_iff.mpr
      (List.IsPrefix.trans (by decide : "#".toList <+: "# ".toList)
        (by rw [commentOut, List.append_assoc]; exact List.prefix_append _ _))
  by_cases separated : Separated line
  · have recognised : hasPrefix (commentOut line) "# nameserver ".toList = true :=
      hasPrefix_iff.mpr ((keyword_space_iff server).mpr separated)
    simp only [getDnsEntryType, hasSuffix_entry_commentOut, hasSuffix_comment_commentOut,
      recognised, separated]
    simp
  · have missed : hasPrefix (commentOut line) "# nameserver ".toList = false :=
      Bool.eq_false_iff.mpr fun h =>
        separated ((keyword_space_iff server).mp (hasPrefix_iff.mp h))
    simp only [getDnsEntryType, hasSuffix_entry_commentOut, hasSuffix_comment_commentOut,
      missed, hash, separated]
    simp

/-- Cutting a commented line at the first mark gives the line back. -/
theorem process_commentOut {line : GoString} (unmarked : Unmarked line) :
    newDNSServerCleanerHandler.process (commentOut line) .commentedServer =
      .ok (some line) := by
  have absent : ¬ " # dps-comment".toList <:+: "# ".toList ++ line := by
    have spaced : " # dps-comment".toList = ' ' :: "# dps-comment".toList := by decide
    have hashed : "# ".toList ++ line = '#' :: ' ' :: line := rfl
    rw [spaced, hashed, List.infix_cons_iff, List.infix_cons_iff]
    rintro (atHash | atSpace | inLine)
    · exact absurd (List.cons_prefix_cons.mp atHash).1 (by decide)
    · exact unmarked.2 (List.cons_prefix_cons.mp atSpace).2.isInfix
    · exact unmarked.2 ((List.suffix_cons _ _).isInfix.trans inLine)
  have position : index (commentOut line) " # dps-comment".toList =
      some ("# ".toList ++ line).length :=
    Occurrence.index?_append_of_unbordered (by decide) absent
  simp only [newDNSServerCleanerHandler, position]
  simp [slice, commentOut, Except.map]

/-! ### What a run keeps of each line

`Derived line kept` relates an original line to what later passes hold of it.
A server line is commented out by the first pass and stays so.  Any other line
stays as it is, except that each scan may take a carriage return off its end. -/

inductive Derived (line kept : GoString) : Prop where
  | commented (server : "nameserver".toList <+: line) (shape : kept = commentOut line)
  | other (notServer : ¬ "nameserver".toList <+: line) (shorter : kept <+: line)
      (exact_of_no_cr : line.getLast? ≠ some '\r' → kept = line)

theorem dropCR_commentOut (line : GoString) : dropCR (commentOut line) = commentOut line := by
  have ends : " # dps-comment".toList.getLast? = some 't' := by decide
  have last : (commentOut line).getLast? = some 't' := by
    unfold commentOut
    rw [List.getLast?_append, ends, Option.some_or]
  rw [dropCR_eq_self, last]
  decide

theorem dropCR_getDNSLine (serverIP : GoString) :
    dropCR (getDNSLine serverIP) = getDNSLine serverIP := by
  have ends : " # dps-entry".toList.getLast? = some 'y' := by decide
  have last : (getDNSLine serverIP).getLast? = some 'y' := by
    unfold getDNSLine
    rw [List.getLast?_append, ends, Option.some_or]
  rw [dropCR_eq_self, last]
  decide

theorem Derived.of_scan {line kept : GoString} (derived : Derived line kept) :
    Derived line (dropCR kept) := by
  cases derived with
  | commented server shape =>
      subst shape
      exact .commented server (dropCR_commentOut line)
  | other notServer shorter exact_of_no_cr =>
      refine .other notServer ((dropCR_isPrefix kept).trans shorter) fun noCR => ?_
      rw [exact_of_no_cr noCR]
      exact dropCR_eq_self.mpr noCR

theorem Derived.newline_free {line kept : GoString} (derived : Derived line kept)
    (free : '\n' ∉ line) : '\n' ∉ kept := by
  cases derived with
  | commented server shape =>
      subst shape
      simpa [commentOut] using free
  | other notServer shorter exact_of_no_cr =>
      exact fun inside => free (shorter.subset inside)

/-- The line an installing pass writes for a delivered line. -/
def setLine (serverIP line : GoString) : GoString :=
  match getDnsEntryType line with
  | .proxy => getDNSLine serverIP
  | .server => commentOut line
  | _ => line

theorem derived_setLine {line : GoString} (unmarked : Unmarked line) (serverIP : GoString) :
    Derived line (setLine serverIP line) := by
  obtain ⟨notProxy, notCommented, server_iff⟩ := getDnsEntryType_of_unmarked unmarked
  by_cases server : "nameserver".toList <+: line
  · exact .commented server (by rw [setLine, server_iff.mpr server])
  · have kept : setLine serverIP line = line := by
      have notServer := mt server_iff.mp server
      unfold setLine
      split <;> simp_all
    exact .other server (by rw [kept]) fun _ => kept

/-- Later installing passes leave a derived line alone. -/
theorem Derived.setLine_eq {line kept : GoString} (derived : Derived line kept)
    (unmarked : Unmarked line) (serverIP : GoString) :
    getDnsEntryType kept ≠ .proxy ∧ setLine serverIP kept = kept := by
  cases derived with
  | commented server shape =>
      subst shape
      have entryType := getDnsEntryType_commentOut server
      constructor
      · rw [entryType]; split <;> simp
      · rw [setLine, entryType]; split_ifs <;> rfl
  | other notServer shorter exact_of_no_cr =>
      obtain ⟨notProxy, notCommented, server_iff⟩ :=
        getDnsEntryType_of_unmarked (unmarked.of_prefix shorter)
      have stillNotServer : getDnsEntryType kept ≠ .server := fun server =>
        notServer ((server_iff.mp server).trans shorter)
      refine ⟨notProxy, ?_⟩
      unfold setLine
      split <;> simp_all

/-- What the restoring pass writes for a line, when it returns. -/
def restoreLine (line : GoString) : Option GoString :=
  (newDNSServerCleanerHandler.process line (getDnsEntryType line)).toOption.join

theorem length_commentOut (line : GoString) : (commentOut line).length = line.length + 16 := by
  have before : "# ".toList.length = 2 := by decide
  have after : " # dps-comment".toList.length = 14 := by decide
  rw [commentOut, List.length_append, List.length_append, before, after]
  omega

/-- The restoring pass and the next scan give a line back exactly when it is
restorable. -/
theorem Derived.restored_iff {line kept : GoString} (derived : Derived line kept)
    (unmarked : Unmarked line) (fits : kept.length < maxScanTokenSize) :
    ∃ restored,
      newDNSServerCleanerHandler.process kept (getDnsEntryType kept) = .ok (some restored) ∧
      (restored = kept ∨ restored = line ∧ line.length ≤ kept.length) ∧
      (dropCR restored = line ↔ Restorable line) := by
  cases derived with
  | commented server shape =>
      subst shape
      rw [length_commentOut] at fits
      rw [getDnsEntryType_commentOut server]
      by_cases separated : Separated line
      · refine ⟨line, ?_, Or.inr ⟨rfl, by rw [length_commentOut]; omega⟩, ?_⟩
        · rw [if_pos separated]
          exact process_commentOut unmarked
        · rw [dropCR_eq_self]
          exact ⟨fun noCR => ⟨noCR, fun _ => ⟨separated, fits⟩⟩, fun restorable => restorable.1⟩
      · refine ⟨commentOut line, ?_, Or.inl rfl, ?_⟩
        · rw [if_neg separated]
          rfl
        · rw [dropCR_commentOut]
          refine iff_of_false (fun same => ?_) fun restorable =>
            separated (restorable.2 server).1
          have lengths := congrArg List.length same
          rw [length_commentOut] at lengths
          omega
  | other notServer shorter exact_of_no_cr =>
      obtain ⟨notProxy, notCommented, -⟩ :=
        getDnsEntryType_of_unmarked (unmarked.of_prefix shorter)
      refine ⟨kept, ?_, Or.inl rfl, ?_⟩
      · cases entryType : getDnsEntryType kept <;> simp_all [newDNSServerCleanerHandler]
      · constructor
        · intro same
          have longer : line <+: kept := same ▸ dropCR_isPrefix kept
          have equal : kept = line := shorter.eq_of_length_le longer.length_le
          exact ⟨dropCR_eq_self.mp (equal ▸ same), fun server => absurd server notServer⟩
        · intro restorable
          rw [exact_of_no_cr restorable.1]
          exact dropCR_eq_self.mpr restorable.1

/-! ### Lists of lines

`Tracks original kept` is the invariant of the installing passes: `kept` derives
line by line from an initial part of the original, which is all of it when every
line is restorable. -/

def Tracks (original kept : List GoString) : Prop :=
  ∃ covered, covered <+: original ∧ List.Forall₂ Derived covered kept ∧
    ((∀ line ∈ original, Restorable line) → covered = original)

private theorem exists_of_mem_right {α β : Type*} {R : α → β → Prop} {as : List α}
    {bs : List β} (related : List.Forall₂ R as bs) {b : β} (member : b ∈ bs) :
    ∃ a ∈ as, R a b := by
  induction related with
  | nil => simp at member
  | @cons a b' as bs here _ inductionHypothesis =>
      rcases List.mem_cons.mp member with rfl | later
      · exact ⟨a, by simp, here⟩
      · obtain ⟨source, sourceMember, fromSource⟩ := inductionHypothesis later
        exact ⟨source, by simp [sourceMember], fromSource⟩

/-- The lines of a file before the first pass. -/
def Original (lines : List GoString) : Prop :=
  ∀ line ∈ lines, Unmarked line ∧ '\n' ∉ line ∧ line.length < maxScanTokenSize

/-- The lines a scan delivers of `kept` followed by more lines. -/
def rescan (kept : List GoString) : List GoString :=
  (kept.takeWhile (·.length < maxScanTokenSize)).map dropCR

theorem Derived.fits_of_restorable {line kept : GoString} (derived : Derived line kept)
    (short : line.length < maxScanTokenSize) (restorable : Restorable line) :
    kept.length < maxScanTokenSize := by
  cases derived with
  | commented server shape =>
      rw [shape, length_commentOut]
      exact (restorable.2 server).2
  | other notServer shorter exact_of_no_cr =>
      exact lt_of_le_of_lt shorter.length_le short

/-- A scan keeps the invariant: it may cut the list short, then it strips
carriage returns. -/
theorem Tracks.rescan {original kept : List GoString} (isOriginal : Original original)
    (tracks : Tracks original kept) : Tracks original (rescan kept) := by
  obtain ⟨covered, isPrefix, derived, complete⟩ := tracks
  have cut := List.takeWhile_prefix (l := kept) fun line : GoString =>
    decide (line.length < maxScanTokenSize)
  refine ⟨covered.take (kept.takeWhile (·.length < maxScanTokenSize)).length,
    (List.take_prefix _ _).trans isPrefix, ?_, ?_⟩
  · have cutDerived := List.forall₂_take
      (kept.takeWhile (·.length < maxScanTokenSize)).length derived
    rw [← List.prefix_iff_eq_take.mp cut] at cutDerived
    exact List.forall₂_map_right_iff.mpr (cutDerived.imp fun _ _ h => h.of_scan)
  · intro restorable
    have all : covered = original := complete restorable
    have fits : ∀ line ∈ kept, decide (line.length < maxScanTokenSize) = true := by
      intro line member
      obtain ⟨source, sourceMember, fromSource⟩ := exists_of_mem_right derived member
      rw [all] at sourceMember
      exact decide_eq_true (fromSource.fits_of_restorable (isOriginal source sourceMember).2.2
        (restorable source sourceMember))
    rw [List.takeWhile_eq_self_iff.mpr fits, ← List.Forall₂.length_eq derived,
      List.take_length, all]

theorem Tracks.newline_free {original kept : List GoString} (isOriginal : Original original)
    (tracks : Tracks original kept) : ∀ line ∈ kept, '\n' ∉ line := by
  obtain ⟨covered, isPrefix, derived, -⟩ := tracks
  intro line member
  obtain ⟨source, sourceMember, fromSource⟩ := exists_of_mem_right derived member
  exact fromSource.newline_free (isOriginal source (isPrefix.subset sourceMember)).2.1

/-- Later installing passes find no entry of their own among the kept lines and
change none of them. -/
theorem Tracks.set_eq {original kept : List GoString} (isOriginal : Original original)
    (tracks : Tracks original kept) (serverIP : GoString) :
    kept.any (getDnsEntryType · == .proxy) = false ∧ kept.map (setLine serverIP) = kept := by
  obtain ⟨covered, isPrefix, derived, -⟩ := tracks
  have each : ∀ line ∈ kept, getDnsEntryType line ≠ .proxy ∧ setLine serverIP line = line := by
    intro line member
    obtain ⟨source, sourceMember, fromSource⟩ := exists_of_mem_right derived member
    exact fromSource.setLine_eq (isOriginal source (isPrefix.subset sourceMember)).1 serverIP
  constructor
  · exact List.any_eq_false.mpr fun line member => by simpa using (each line member).1
  · exact (List.map_congr_left fun line member => (each line member).2).trans
      (List.map_id' kept)

/-- What an installing pass writes. -/
theorem setMachineDnsServer_eq (serverIP content : GoString) :
    setMachineDnsServer serverIP content =
      .ok (unlines '\n' ((scanLines content).map (setLine serverIP) ++
        if (scanLines content).any (getDnsEntryType · == .proxy) then []
        else [getDNSLine serverIP])) := by
  have returns : ∀ line ∈ scanLines content,
      (newSetMachineDnsServerHandler serverIP).process line (getDnsEntryType line) =
        .ok (some (setLine serverIP line)) := by
    intro line _
    unfold setLine newSetMachineDnsServerHandler
    cases getDnsEntryType line <;> rfl
  rw [setMachineDnsServer, processResolvconf_eq returns]
  cases scanLines content with
  | nil => simp [newSetMachineDnsServerHandler]
  | cons line lines =>
      cases found : (line :: lines).any (getDnsEntryType · == .proxy) <;>
        simp [newSetMachineDnsServerHandler]

/-! ### Runs

After at least one installing pass the file holds the kept lines and one entry
of the server at the end. -/

def Installed (original : List GoString) (content : GoString) : Prop :=
  ∃ serverIP kept, '\n' ∉ serverIP ∧ Tracks original kept ∧
    content = unlines '\n' (kept ++ [getDNSLine serverIP])

theorem getDNSLine_newline_free {serverIP : GoString} (free : '\n' ∉ serverIP) :
    '\n' ∉ getDNSLine serverIP := by
  have before : '\n' ∉ "nameserver ".toList := by decide
  have after : '\n' ∉ " # dps-entry".toList := by decide
  intro inside
  rcases List.mem_append.mp inside with front | back
  · rcases List.mem_append.mp front with keyword | address
    · exact before keyword
    · exact free address
  · exact after back

/-- A scan of an installed file delivers kept lines, then the entry unless the
scan stopped before it. -/
theorem scanLines_installed {original kept : List GoString} (isOriginal : Original original)
    (tracks : Tracks original kept) {serverIP : GoString} (free : '\n' ∉ serverIP) :
    ∃ rest, (rest = [] ∨ rest = [getDNSLine serverIP]) ∧
      scanLines (unlines '\n' (kept ++ [getDNSLine serverIP])) = rescan kept ++ rest := by
  have newlineFree : ∀ line ∈ kept ++ [getDNSLine serverIP], '\n' ∉ line := by
    intro line member
    rcases List.mem_append.mp member with inKept | last
    · exact tracks.newline_free isOriginal line inKept
    · rw [List.mem_singleton.mp last]
      exact getDNSLine_newline_free free
  rw [scanLines_unlines newlineFree, List.takeWhile_append]
  split_ifs with whole
  · by_cases short : (getDNSLine serverIP).length < maxScanTokenSize
    · refine ⟨[getDNSLine serverIP], Or.inr rfl, ?_⟩
      have cut : kept.takeWhile (·.length < maxScanTokenSize) = kept :=
        (List.takeWhile_prefix _).eq_of_length whole
      simp [rescan, cut, short, dropCR_getDNSLine]
    · refine ⟨[], Or.inl rfl, ?_⟩
      have cut : kept.takeWhile (·.length < maxScanTokenSize) = kept :=
        (List.takeWhile_prefix _).eq_of_length whole
      simp [rescan, cut, short]
  · exact ⟨[], Or.inl rfl, by simp [rescan]⟩

/-- The first installing pass over an unmarked file. -/
theorem installed_of_original {content serverIP : GoString}
    (isOriginal : Original (scanLines content)) (free : '\n' ∉ serverIP) :
    ∃ next, setMachineDnsServer serverIP content = .ok next ∧
      Installed (scanLines content) next := by
  have notFound : (scanLines content).any (getDnsEntryType · == .proxy) = false :=
    List.any_eq_false.mpr fun line member => by
      simpa using (getDnsEntryType_of_unmarked (isOriginal line member).1).1
  refine ⟨_, setMachineDnsServer_eq serverIP content, serverIP, _, free, ?_, by
    rw [notFound]; rfl⟩
  refine ⟨scanLines content, List.prefix_rfl, ?_, fun _ => rfl⟩
  rw [List.forall₂_map_right_iff, List.forall₂_same]
  exact fun line member => derived_setLine (isOriginal line member).1 serverIP

/-- Every later installing pass keeps the invariant. -/
theorem Installed.set {original : List GoString} {content serverIP : GoString}
    (isOriginal : Original original) (installed : Installed original content)
    (free : '\n' ∉ serverIP) :
    ∃ next, setMachineDnsServer serverIP content = .ok next ∧ Installed original next := by
  obtain ⟨oldIP, kept, oldFree, tracks, rfl⟩ := installed
  obtain ⟨rest, restEq, scanned⟩ := scanLines_installed isOriginal tracks oldFree
  have again := tracks.rescan isOriginal
  obtain ⟨notFound, unchanged⟩ := again.set_eq isOriginal serverIP
  refine ⟨_, setMachineDnsServer_eq _ _, serverIP, rescan kept, free, again, ?_⟩
  have entry : setLine serverIP (getDNSLine oldIP) = getDNSLine serverIP := by
    rw [setLine, getDnsEntryType_getDNSLine]
  rcases restEq with rfl | rfl
  · rw [scanned, List.append_nil, unchanged, notFound]
    rfl
  · rw [scanned, List.map_append, unchanged, List.any_append, notFound]
    simp [getDnsEntryType_getDNSLine, entry]

theorem Installed.startup {original : List GoString} (isOriginal : Original original)
    {serverIPs : List GoString} (free : ∀ serverIP ∈ serverIPs, '\n' ∉ serverIP) :
    ∀ {content : GoString}, Installed original content →
      ∃ next, startup serverIPs content = .ok next ∧ Installed original next := by
  induction serverIPs with
  | nil => exact fun installed => ⟨_, rfl, installed⟩
  | cons serverIP serverIPs inductionHypothesis =>
      intro content installed
      obtain ⟨middle, stepEq, middleInstalled⟩ :=
        installed.set isOriginal (free serverIP (by simp))
      obtain ⟨next, runEq, nextInstalled⟩ :=
        inductionHypothesis (fun other member => free other (by simp [member])) middleInstalled
      refine ⟨next, ?_, nextInstalled⟩
      rw [ResolvConf.startup, List.foldlM_cons, stepEq]
      exact runEq

/-! ### Restoring -/

/-- The restoring pass returns on derived lines, and the scan after it delivers
the covered originals exactly when each of them is restorable. -/
theorem restore_derived {covered kept : List GoString} (derived : List.Forall₂ Derived covered kept)
    (isOriginal : Original covered) (fits : ∀ line ∈ kept, line.length < maxScanTokenSize) :
    (∀ line ∈ kept, newDNSServerCleanerHandler.process line (getDnsEntryType line) =
      .ok (restoreLine line)) ∧
    (∀ line ∈ kept.filterMap restoreLine, '\n' ∉ line ∧ line.length < maxScanTokenSize) ∧
    (kept.filterMap restoreLine).length = covered.length ∧
    ((kept.filterMap restoreLine).map dropCR = covered ↔ ∀ line ∈ covered, Restorable line) := by
  induction derived with
  | nil => simp
  | @cons source line covered kept here _ inductionHypothesis =>
      obtain ⟨unmarked, free, -⟩ := isOriginal source (by simp)
      have fitsHere := fits line (by simp)
      obtain ⟨restored, returned, shape, back⟩ := here.restored_iff unmarked fitsHere
      obtain ⟨tailReturns, tailLines, tailLength, tailBack⟩ := inductionHypothesis
        (fun other member => isOriginal other (by simp [member]))
        (fun other member => fits other (by simp [member]))
      have resultEq : restoreLine line = some restored := by
        simp [restoreLine, returned, Except.toOption]
      refine ⟨?_, ?_, ?_, ?_⟩
      · intro other member
        rcases List.mem_cons.mp member with rfl | later
        · rw [returned, resultEq]
        · exact tailReturns other later
      · rw [List.filterMap_cons_some resultEq]
        intro other member
        rcases List.mem_cons.mp member with rfl | later
        · rcases shape with rfl | ⟨rfl, shorter⟩
          · exact ⟨here.newline_free free, fitsHere⟩
          · exact ⟨free, lt_of_le_of_lt shorter fitsHere⟩
        · exact tailLines other later
      · rw [List.filterMap_cons_some resultEq]
        simp [tailLength]
      · rw [List.filterMap_cons_some resultEq]
        simp [back, tailBack]

theorem restoreLine_getDNSLine (serverIP : GoString) :
    newDNSServerCleanerHandler.process (getDNSLine serverIP)
        (getDnsEntryType (getDNSLine serverIP)) = .ok (restoreLine (getDNSLine serverIP)) ∧
      restoreLine (getDNSLine serverIP) = none := by
  simp only [restoreLine, getDnsEntryType_getDNSLine]
  exact ⟨rfl, rfl⟩

/-- Restoring an installed file. -/
theorem Installed.restore {original : List GoString} {content : GoString}
    (isOriginal : Original original) (installed : Installed original content) :
    ∃ final, restoreResolvconfToDefault content = .ok final ∧
      (scanLines final = original ↔ ∀ line ∈ original, Restorable line) := by
  obtain ⟨serverIP, kept, free, tracks, rfl⟩ := installed
  obtain ⟨rest, restEq, scanned⟩ := scanLines_installed isOriginal tracks free
  obtain ⟨covered, isPrefix, derived, complete⟩ := tracks.rescan isOriginal
  have fits : ∀ line ∈ rescan kept, line.length < maxScanTokenSize := by
    intro line member
    obtain ⟨raw, rawMember, rfl⟩ := List.mem_map.mp member
    exact lt_of_le_of_lt (dropCR_isPrefix raw).length_le
      (by simpa using List.mem_takeWhile_imp rawMember)
  obtain ⟨returns, lines, length, back⟩ := restore_derived derived
    (fun line member => isOriginal line (isPrefix.subset member)) fits
  have entry := restoreLine_getDNSLine serverIP
  have passReturns : ∀ line ∈ scanLines (unlines '\n' (kept ++ [getDNSLine serverIP])),
      newDNSServerCleanerHandler.process line (getDnsEntryType line) =
        .ok (restoreLine line) := by
    rw [scanned]
    intro line member
    rcases List.mem_append.mp member with inKept | inRest
    · exact returns line inKept
    · rcases restEq with rfl | rfl
      · simp at inRest
      · rw [List.mem_singleton.mp inRest]
        exact entry.1
  have written : (rescan kept ++ rest).filterMap restoreLine =
      (rescan kept).filterMap restoreLine := by
    rcases restEq with rfl | rfl
    · simp
    · simp [List.filterMap_append, entry.2]
  refine ⟨_, processResolvconf_eq passReturns, ?_⟩
  have after : ∀ hasContent found,
      (newDNSServerCleanerHandler.afterProcess hasContent found).toList = [] := fun _ _ => rfl
  rw [after, List.append_nil, scanned, written,
    scanLines_unlines fun line member => (lines line member).1,
    List.takeWhile_eq_self_iff.mpr fun line member => decide_eq_true (lines line member).2]
  constructor
  · intro same
    have lengths : covered.length = original.length := by
      rw [← congrArg List.length same, List.length_map, length]
    have whole : covered = original := isPrefix.eq_of_length lengths
    exact whole ▸ back.mp (whole ▸ same)
  · intro restorable
    have whole : covered = original := complete restorable
    exact (back.mpr (whole ▸ restorable)).trans whole

/-- Shutdown undoes startup on an unmarked resolv.conf exactly when each of its
lines is restorable; it never fails. -/
theorem shutdown_restores_iff (content : GoString) (serverIPs : List GoString)
    (unmarked : ∀ line ∈ scanLines content, Unmarked line) (nonempty : serverIPs ≠ [])
    (free : ∀ serverIP ∈ serverIPs, '\n' ∉ serverIP) :
    (∃ final, shutdown serverIPs content = .ok final ∧ scanLines final = scanLines content) ↔
      ∀ line ∈ scanLines content, Restorable line := by
  have isOriginal : Original (scanLines content) := fun line member =>
    ⟨unmarked line member, of_mem_scanLines member⟩
  cases serverIPs with
  | nil => exact absurd rfl nonempty
  | cons serverIP serverIPs =>
      obtain ⟨first, firstEq, installed⟩ :=
        installed_of_original isOriginal (free serverIP (by simp))
      have freeLater : ∀ other ∈ serverIPs, '\n' ∉ other :=
        fun other member => free other (by simp [member])
      obtain ⟨last, lastEq, lastInstalled⟩ := installed.startup isOriginal freeLater
      obtain ⟨final, finalEq, back⟩ := lastInstalled.restore isOriginal
      have run : shutdown (serverIP :: serverIPs) content = .ok final := by
        rw [shutdown, startup, List.foldlM_cons, firstEq]
        change (startup serverIPs first >>= restoreResolvconfToDefault) = _
        rw [lastEq]
        exact finalEq
      rw [← back, run]
      simp

/-- A file with comments and two tidy nameserver lines comes back. -/
theorem shutdown_restores_tidy_file :
    ∃ final, shutdown ["9.9.9.9".toList, "8.8.4.4".toList]
        "# Provided by test\nnameserver 8.8.8.8\nsearch acme.com\n".toList = .ok final ∧
      scanLines final =
        scanLines "# Provided by test\nnameserver 8.8.8.8\nsearch acme.com\n".toList :=
  (shutdown_restores_iff _ _ (by decide) (by decide) (by decide)).mpr (by decide)

/-- A nameserver line separated by a tab stays commented out after shutdown. -/
theorem tab_separated_nameserver_is_not_restored :
    ¬ ∀ (content : GoString) (serverIPs : List GoString),
      (∀ line ∈ scanLines content, Unmarked line) → serverIPs ≠ [] →
      (∀ serverIP ∈ serverIPs, '\n' ∉ serverIP) →
      ∃ final, shutdown serverIPs content = .ok final ∧
        scanLines final = scanLines content := by
  intro restores
  obtain ⟨final, run, same⟩ := restores "nameserver\t8.8.8.8\n".toList ["9.9.9.9".toList]
    (by decide) (by decide) (by decide)
  have computed : shutdown ["9.9.9.9".toList] "nameserver\t8.8.8.8\n".toList =
      .ok "# nameserver\t8.8.8.8 # dps-comment\n".toList := by decide
  rw [computed] at run
  rw [← Except.ok.inj run] at same
  exact absurd same (by decide)

end DnsProxyServer.ResolvConf
