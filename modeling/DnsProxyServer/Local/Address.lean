/-
Module: DnsProxyServer.Local.Address
Purpose: IP texts, IP bytes and remote server addresses, with the round trips
  that saving and loading rely on.
Trusted boundary: translation of utils/iputils/iputils.go and
  events/local/localvo/dnsserver.go
Main exports: IpArray, toIpByteArray, toIpString, toIpByteArray_toIpString,
  DNSServer, toDnsServer, DNSServer.Canonical, toDnsServer_getAddress,
  toDnsServer_toIpString, canonical_of_toDnsServer, Writes, toDnsServer_of_writes
-/
import DnsProxyServer.Go.Text

namespace DnsProxyServer

/-! ### Package iputils -/

/-- The Go type `[4]byte`. -/
structure IpArray where
  b0 : UInt8 := 0
  b1 : UInt8 := 0
  b2 : UInt8 := 0
  b3 : UInt8 := 0
deriving Repr, DecidableEq

/-- `byteArray[j] = value`, which panics from index four on. -/
def IpArray.set (byteArray : IpArray) (j : Nat) (value : UInt8) : Except Failure IpArray :=
  match j with
  | 0 => .ok { byteArray with b0 := value }
  | 1 => .ok { byteArray with b1 := value }
  | 2 => .ok { byteArray with b2 := value }
  | 3 => .ok { byteArray with b3 := value }
  | _ => .error (.panic .indexOutOfRange)

/-- The conversion `byte(n)` of an `int`. -/
def toByte (n : Int) : UInt8 := UInt8.ofNat (n % 256).toNat

/-- The loop of `ToIpByteArray` from piece `j` on. -/
def fillIpByteArray (byteArray : IpArray) (j : Nat) : List GoString → Except Failure IpArray
  | [] => .ok byteArray
  | ipPiece :: ipStringArray =>
      match atoi ipPiece with
      | none => .error (.panic (.raised ("invalid syntax: ".toList ++ ipPiece)))
      | some intIpPiece => do
          let byteArray ← byteArray.set j (toByte intIpPiece)
          fillIpByteArray byteArray (j + 1) ipStringArray

def toIpByteArray (byteArray : IpArray) (ip : GoString) : Except Failure IpArray :=
  if trimSpaceEmpty ip then .ok byteArray
  else
    let ip :=
      match index ip ":".toList with
      | some i => ip.take i
      | none => ip
    fillIpByteArray byteArray 0 (split ip '.')

/-- `fmt.Sprintf("%d.%d.%d.%d", ...)`. -/
def toIpString (ipArray : IpArray) : GoString :=
  itoa ipArray.b0.toNat ++ '.' :: itoa ipArray.b1.toNat ++ '.' :: itoa ipArray.b2.toNat ++
    '.' :: itoa ipArray.b3.toNat

theorem itoa_natCast (n : ℕ) : itoa (n : Int) = Nat.toDigits 10 n := rfl

@[simp] theorem toByte_natCast_toNat (b : UInt8) : toByte (b.toNat : Int) = b := by
  have small : b.toNat < 256 := b.toNat_lt
  have reduced : ((b.toNat : Int) % 256).toNat = b.toNat := by omega
  simp [toByte, reduced]

/-- A run of decimal digits. -/
def Digits (s : GoString) : Prop := s ≠ [] ∧ ∀ c ∈ s, c.isDigit = true

theorem digits_toDigits (n : ℕ) : Digits (Nat.toDigits 10 n) :=
  ⟨Nat.toDigits_ne_nil, fun _ member => isDigit_of_mem_toDigits member⟩

theorem Digits.not_mem {s : GoString} (digits : Digits s) {c : Char}
    (notDigit : c.isDigit = false) : c ∉ s := fun member => by
  simp [digits.2 c member] at notDigit

/-- Four digit runs joined by dots. -/
def DottedQuad (ip : GoString) : Prop :=
  ∃ d0 d1 d2 d3, Digits d0 ∧ Digits d1 ∧ Digits d2 ∧ Digits d3 ∧
    ip = d0 ++ '.' :: d1 ++ '.' :: d2 ++ '.' :: d3

theorem dottedQuad_toIpString (ipArray : IpArray) : DottedQuad (toIpString ipArray) :=
  ⟨_, _, _, _, digits_toDigits _, digits_toDigits _, digits_toDigits _, digits_toDigits _, rfl⟩

theorem DottedQuad.split_eq {d0 d1 d2 d3 : GoString} (h0 : Digits d0) (h1 : Digits d1)
    (h2 : Digits d2) (h3 : Digits d3) :
    split (d0 ++ '.' :: d1 ++ '.' :: d2 ++ '.' :: d3) '.' = [d0, d1, d2, d3] := by
  have dot : '.'.isDigit = false := by decide
  simp only [split, List.append_assoc, List.cons_append]
  rw [List.splitOn_append_cons_self_of_not_mem (h0.not_mem dot),
    List.splitOn_append_cons_self_of_not_mem (h1.not_mem dot),
    List.splitOn_append_cons_self_of_not_mem (h2.not_mem dot),
    List.splitOn_eq_singleton (h3.not_mem dot)]

theorem DottedQuad.not_mem_colon {ip : GoString} (quad : DottedQuad ip) : ':' ∉ ip := by
  obtain ⟨d0, d1, d2, d3, h0, h1, h2, h3, rfl⟩ := quad
  have colon : ':'.isDigit = false := by decide
  simp [h0.not_mem colon, h1.not_mem colon, h2.not_mem colon, h3.not_mem colon]

theorem DottedQuad.not_blank {ip : GoString} (quad : DottedQuad ip) :
    trimSpaceEmpty ip = false := by
  obtain ⟨d0, d1, d2, d3, ⟨nonempty, digits⟩, -, -, -, rfl⟩ := quad
  cases d0 with
  | nil => exact absurd rfl nonempty
  | cons c rest => exact trimSpaceEmpty_of_digit (digits c (by simp)) _

private theorem index_colon_eq_none {s : GoString} (absent : ':' ∉ s) :
    index s ":".toList = none :=
  Occurrence.index?_eq_none fun occurs => absent (occurs.subset (by decide))

private theorem atoi_byte (b : UInt8) : atoi (itoa b.toNat) = some (b.toNat : Int) := by
  have small : b.toNat < 256 := b.toNat_lt
  rw [itoa_natCast]
  exact atoi_toDigits (by unfold maxInt64; omega)

/-- Bytes survive being written as text and read back, whatever array they are
read into. -/
theorem toIpByteArray_toIpString (target ipArray : IpArray) :
    toIpByteArray target (toIpString ipArray) = .ok ipArray := by
  have quad := dottedQuad_toIpString ipArray
  rw [toIpByteArray, quad.not_blank, index_colon_eq_none quad.not_mem_colon]
  have pieces : split (toIpString ipArray) '.' =
      [itoa ipArray.b0.toNat, itoa ipArray.b1.toNat, itoa ipArray.b2.toNat,
        itoa ipArray.b3.toNat] :=
    DottedQuad.split_eq (digits_toDigits _) (digits_toDigits _) (digits_toDigits _)
      (digits_toDigits _)
  simp only [Bool.false_eq_true, if_false, pieces, fillIpByteArray, atoi_byte,
    toByte_natCast_toNat]
  rfl

/-- Reading an address returns no error value: it succeeds or panics. -/
theorem fillIpByteArray_error {pieces : List GoString} {failure : Failure} :
    ∀ {target : IpArray} {j : Nat}, fillIpByteArray target j pieces = .error failure →
      ∃ cause, failure = .panic cause := by
  induction pieces with
  | nil => exact fun fails => absurd fails (by simp [fillIpByteArray])
  | cons piece rest inductionHypothesis =>
      intro target j fails
      rw [fillIpByteArray] at fails
      split at fails
      · exact ⟨_, (Except.error.inj fails).symm⟩
      · rename_i value parsed
        cases written : target.set j (toByte value) with
        | error cause =>
            simp only [written, bind, Except.bind] at fails
            cases fails
            unfold IpArray.set at written
            split at written <;> simp only [Except.error.injEq, reduceCtorEq] at written
            exact ⟨_, written.symm⟩
        | ok next =>
            simp only [written, bind, Except.bind] at fails
            exact inductionHypothesis fails

theorem toIpByteArray_error {target : IpArray} {ip : GoString} {failure : Failure}
    (fails : toIpByteArray target ip = .error failure) : ∃ cause, failure = .panic cause := by
  unfold toIpByteArray at fails
  split_ifs at fails
  exact fillIpByteArray_error fails

/-! ### Package localvo, dnsserver.go -/

structure DNSServer where
  ip : GoString
  port : Int
deriving Repr, DecidableEq

def DNSServer.getIpArray (server : DNSServer) : Except Failure IpArray :=
  toIpByteArray {} server.ip

/-- `fmt.Sprintf("%s:%d", s.Ip, s.Port)`. -/
def DNSServer.getAddress (server : DNSServer) : GoString :=
  server.ip ++ ':' :: itoa server.port

/-- The part `\d+` of the regular expression: a longest nonempty run of digits
and the text after it. -/
def takeDigits (s : GoString) : Option (GoString × GoString) :=
  if (s.takeWhile Char.isDigit).isEmpty then none
  else some (s.takeWhile Char.isDigit, s.dropWhile Char.isDigit)

def takeDot : GoString → Option GoString
  | '.' :: rest => some rest
  | _ => none

/-- The group `(\d+\.\d+\.\d+\.\d+)` at the start of a text. Digits and dots are
disjoint, so the greedy runs never have to give anything back. -/
def matchIp (s : GoString) : Option (GoString × GoString) := do
  let (d0, s) ← takeDigits s
  let s ← takeDot s
  let (d1, s) ← takeDigits s
  let s ← takeDot s
  let (d2, s) ← takeDigits s
  let s ← takeDot s
  let (d3, s) ← takeDigits s
  return (d0 ++ '.' :: d1 ++ '.' :: d2 ++ '.' :: d3, s)

/-- The rest `:?(\d*)` of the regular expression, reduced to its group. -/
def matchPort : GoString → GoString
  | ':' :: after => after.takeWhile Char.isDigit
  | after => after.takeWhile Char.isDigit

/-- The leftmost match of `(\d+\.\d+\.\d+\.\d+):?(\d*)`: its two groups. -/
def findStringSubmatch : GoString → Option (GoString × GoString)
  | [] => none
  | c :: rest =>
      match matchIp (c :: rest) with
      | some (ip, after) => some (ip, matchPort after)
      | none => findStringSubmatch rest

def parseIntDnsServer (str : GoString) : Int := (atoi str).getD 53

/-- Without a match `matches` is nil and `matches[1]` panics. -/
def toDnsServer (dnsAddress : GoString) : Except Failure DNSServer :=
  match findStringSubmatch dnsAddress with
  | some (ip, port) => .ok { ip := ip, port := parseIntDnsServer port }
  | none => .error (.panic .indexOutOfRange)

def toIpsByteArray (servers : List DNSServer) : Except Failure (List IpArray) :=
  servers.mapM DNSServer.getIpArray

def toIpsStringArray (servers : List DNSServer) : List GoString :=
  servers.map DNSServer.getAddress

def byteArrayToDnsServer (byteArrayServers : List IpArray) : Except Failure (List DNSServer) :=
  byteArrayServers.mapM fun byteArrayServer => toDnsServer (toIpString byteArrayServer)

def stringArrayToDnsServer (stringArrayServers : List GoString) :
    Except Failure (List DNSServer) :=
  stringArrayServers.mapM toDnsServer

/-- The servers `toDnsServer` makes: a dotted quad and a port that is an `int`
of at least zero. -/
def DNSServer.Canonical (server : DNSServer) : Prop :=
  DottedQuad server.ip ∧ 0 ≤ server.port ∧ server.port ≤ maxInt64

/-! ### The matcher on texts that match -/

/-- Text that does not start with a digit. -/
def StopsDigits (s : GoString) : Prop := ∀ c ∈ s.head?, c.isDigit = false

theorem takeDigits_append {d rest : GoString} (digits : Digits d) (stops : StopsDigits rest) :
    takeDigits (d ++ rest) = some (d, rest) := by
  have all : ∀ c ∈ d, c.isDigit = true := digits.2
  have taken : (d ++ rest).takeWhile Char.isDigit = d := by
    rw [List.takeWhile_append_of_pos all]
    cases rest with
    | nil => simp
    | cons c rest => simp [stops c (by simp)]
  have dropped : (d ++ rest).dropWhile Char.isDigit = rest := by
    rw [List.dropWhile_append_of_pos all]
    cases rest with
    | nil => rfl
    | cons c rest => simp [stops c (by simp)]
  rw [takeDigits, taken, dropped, if_neg (by simpa using digits.1)]

private theorem stopsDigits_dot (s : GoString) : StopsDigits ('.' :: s) := by
  intro c member
  have same : '.' = c := by simpa using member
  rw [← same]
  decide

/-- Behind three runs of digits with their dots the last run decides. -/
theorem matchIp_of_runs {d0 d1 d2 : GoString} (h0 : Digits d0) (h1 : Digits d1) (h2 : Digits d2)
    (s : GoString) :
    matchIp (d0 ++ '.' :: d1 ++ '.' :: d2 ++ '.' :: s) =
      (takeDigits s).map fun m => (d0 ++ '.' :: d1 ++ '.' :: d2 ++ '.' :: m.1, m.2) := by
  simp only [List.append_assoc, List.cons_append, matchIp]
  rw [takeDigits_append h0 (stopsDigits_dot _)]
  simp only [takeDot, Option.bind_eq_bind, Option.bind_some]
  rw [takeDigits_append h1 (stopsDigits_dot _)]
  simp only [Option.bind_some]
  rw [takeDigits_append h2 (stopsDigits_dot _)]
  simp only [Option.bind_some, Option.pure_def, Option.map_eq_bind, Function.comp_def]

theorem matchIp_append {ip rest : GoString} (quad : DottedQuad ip) (stops : StopsDigits rest) :
    matchIp (ip ++ rest) = some (ip, rest) := by
  obtain ⟨d0, d1, d2, d3, h0, h1, h2, h3, rfl⟩ := quad
  have text : d0 ++ '.' :: d1 ++ '.' :: d2 ++ '.' :: d3 ++ rest =
      d0 ++ '.' :: d1 ++ '.' :: d2 ++ '.' :: (d3 ++ rest) := by simp
  rw [text, matchIp_of_runs h0 h1 h2, takeDigits_append h3 stops]
  rfl

/-- A match at the very start is the leftmost one. -/
theorem findStringSubmatch_of_matchIp {s : GoString} {m : GoString × GoString}
    (matched : matchIp s = some m) : findStringSubmatch s = some (m.1, matchPort m.2) := by
  cases s with
  | nil => cases matched
  | cons c rest => rw [findStringSubmatch, matched]

theorem findStringSubmatch_append {ip rest : GoString} (quad : DottedQuad ip)
    (stops : StopsDigits rest) :
    findStringSubmatch (ip ++ rest) = some (ip, matchPort rest) :=
  findStringSubmatch_of_matchIp (matchIp_append quad stops)

/-- Saving and loading a canonical address gives the same server. -/
theorem toDnsServer_getAddress {server : DNSServer} (canonical : server.Canonical) :
    toDnsServer server.getAddress = .ok server := by
  obtain ⟨quad, nonneg, fits⟩ := canonical
  obtain ⟨n, portEq⟩ := Int.eq_ofNat_of_zero_le nonneg
  have stops : StopsDigits (':' :: itoa server.port) := by
    intro c member
    have same : ':' = c := by simpa using member
    rw [← same]
    decide
  have digits : matchPort (':' :: itoa server.port) = itoa server.port := by
    rw [portEq]
    exact List.takeWhile_eq_self_iff.mpr (digits_toDigits n).2
  have port : parseIntDnsServer (itoa server.port) = server.port := by
    rw [portEq] at fits ⊢
    simp [parseIntDnsServer, itoa_natCast, atoi_toDigits fits]
  rw [toDnsServer, DNSServer.getAddress, findStringSubmatch_append quad stops]
  simp [digits, port]

/-- An address written from bytes is read with the default port. -/
theorem toDnsServer_toIpString (ipArray : IpArray) :
    toDnsServer (toIpString ipArray) = .ok { ip := toIpString ipArray, port := 53 } := by
  have stops : StopsDigits [] := by simp [StopsDigits]
  have found := findStringSubmatch_append (dottedQuad_toIpString ipArray) stops
  rw [List.append_nil] at found
  rw [toDnsServer, found]
  rfl

/-! ### What matches -/

theorem takeDigits_eq_append {s d rest : GoString} (taken : takeDigits s = some (d, rest)) :
    s = d ++ rest := by
  unfold takeDigits at taken
  split_ifs at taken
  cases taken
  exact (List.takeWhile_append_dropWhile).symm

theorem takeDot_eq_cons {s rest : GoString} (taken : takeDot s = some rest) :
    s = '.' :: rest := by
  unfold takeDot at taken
  split at taken
  · cases taken
    rfl
  · cases taken

/-- The group is the beginning of the text. -/
theorem matchIp_eq_append {s ip rest : GoString} (matched : matchIp s = some (ip, rest)) :
    s = ip ++ rest := by
  simp only [matchIp, Option.bind_eq_bind, Option.bind_eq_some_iff, Option.pure_def,
    Option.some.injEq, Prod.mk.injEq, Prod.exists] at matched
  obtain ⟨d0, s1, taken0, s2, dot1, d1, s3, taken1, s4, dot2, d2, s5, taken2, s6, dot3, d3, s7,
    taken3, rfl, rfl⟩ := matched
  rw [takeDigits_eq_append taken0, takeDot_eq_cons dot1, takeDigits_eq_append taken1,
    takeDot_eq_cons dot2, takeDigits_eq_append taken2, takeDot_eq_cons dot3,
    takeDigits_eq_append taken3]
  simp

theorem takeDigits_isSome {d : GoString} (digits : Digits d) (rest : GoString) :
    ∃ taken, takeDigits (d ++ rest) = some taken := by
  obtain ⟨nonempty, all⟩ := digits
  cases d with
  | nil => exact absurd rfl nonempty
  | cons c d =>
      rw [List.cons_append, takeDigits,
        if_neg (by simp [List.takeWhile_cons_of_pos (all c List.mem_cons_self)])]
      exact ⟨_, rfl⟩

/-- Whatever follows four runs of digits, there is a match. -/
theorem matchIp_isSome {quad : GoString} (dotted : DottedQuad quad) (rest : GoString) :
    ∃ matched, matchIp (quad ++ rest) = some matched := by
  obtain ⟨d0, d1, d2, d3, h0, h1, h2, h3, rfl⟩ := dotted
  have text : d0 ++ '.' :: d1 ++ '.' :: d2 ++ '.' :: d3 ++ rest =
      d0 ++ '.' :: d1 ++ '.' :: d2 ++ '.' :: (d3 ++ rest) := by simp
  obtain ⟨m, taken⟩ := takeDigits_isSome h3 rest
  rw [text, matchIp_of_runs h0 h1 h2, taken]
  exact ⟨_, rfl⟩

theorem findStringSubmatch_isSome {quad : GoString} (dotted : DottedQuad quad)
    (rest : GoString) : ∀ before : GoString,
      ∃ found, findStringSubmatch (before ++ (quad ++ rest)) = some found := by
  intro before
  induction before with
  | nil =>
      obtain ⟨m, matched⟩ := matchIp_isSome dotted rest
      exact ⟨_, findStringSubmatch_of_matchIp matched⟩
  | cons c before inductionHypothesis =>
      rw [List.cons_append, findStringSubmatch]
      split
      · exact ⟨_, rfl⟩
      · exact inductionHypothesis

theorem infix_of_findStringSubmatch {s ip port : GoString}
    (found : findStringSubmatch s = some (ip, port)) : ip <:+: s := by
  induction s with
  | nil => simp [findStringSubmatch] at found
  | cons c rest inductionHypothesis =>
      rw [findStringSubmatch] at found
      split at found
      · rename_i quad after matched
        cases found
        rw [matchIp_eq_append matched]
        exact (List.prefix_append _ _).isInfix
      · exact (inductionHypothesis found).trans (List.suffix_cons c rest).isInfix

/-! ### Every address read is canonical -/

private theorem digits_of_takeDigits {s d rest : GoString}
    (taken : takeDigits s = some (d, rest)) : Digits d := by
  unfold takeDigits at taken
  split_ifs at taken with nonempty
  obtain ⟨rfl, -⟩ := Prod.mk.inj (Option.some.inj taken)
  exact ⟨by simpa using nonempty, fun _ member => List.mem_takeWhile_imp member⟩

theorem dottedQuad_of_matchIp {s ip rest : GoString} (matched : matchIp s = some (ip, rest)) :
    DottedQuad ip := by
  simp only [matchIp, Option.bind_eq_bind, Option.bind_eq_some_iff, Option.pure_def,
    Option.some.injEq, Prod.mk.injEq, Prod.exists] at matched
  obtain ⟨d0, s1, taken0, s2, -, d1, s3, taken1, s4, -, d2, s5, taken2, s6, -, d3, s7, taken3,
    rfl, -⟩ := matched
  exact ⟨d0, d1, d2, d3, digits_of_takeDigits taken0, digits_of_takeDigits taken1,
    digits_of_takeDigits taken2, digits_of_takeDigits taken3, by simp⟩

theorem dottedQuad_of_findStringSubmatch {s ip port : GoString}
    (found : findStringSubmatch s = some (ip, port)) :
    DottedQuad ip ∧ ∀ c ∈ port, c.isDigit = true := by
  induction s with
  | nil => simp [findStringSubmatch] at found
  | cons c rest inductionHypothesis =>
      rw [findStringSubmatch] at found
      split at found
      · rename_i quad after matched
        obtain ⟨rfl, rfl⟩ := Prod.mk.inj (Option.some.inj found)
        refine ⟨dottedQuad_of_matchIp matched, fun c member => ?_⟩
        unfold matchPort at member
        split at member <;> exact List.mem_takeWhile_imp member
      · exact inductionHypothesis found

theorem parseIntDnsServer_bounds {s : GoString} (digits : ∀ c ∈ s, c.isDigit = true) :
    0 ≤ parseIntDnsServer s ∧ parseIntDnsServer s ≤ maxInt64 := by
  cases parsed : atoi s with
  | none => simp [parseIntDnsServer, parsed, maxInt64]
  | some value =>
      simpa [parseIntDnsServer, parsed] using atoi_of_digits digits parsed

/-- A server text is read exactly when four runs of digits joined by dots are in it. -/
theorem toDnsServer_isOk_iff {dnsAddress : GoString} :
    (∃ server, toDnsServer dnsAddress = .ok server) ↔
      ∃ quad, DottedQuad quad ∧ quad <:+: dnsAddress := by
  unfold toDnsServer
  constructor
  · rintro ⟨server, read⟩
    cases found : findStringSubmatch dnsAddress with
    | none => simp [found] at read
    | some groups =>
        exact ⟨groups.1, (dottedQuad_of_findStringSubmatch found).1,
          infix_of_findStringSubmatch found⟩
  · rintro ⟨quad, dotted, before, after, rfl⟩
    obtain ⟨groups, found⟩ := findStringSubmatch_isSome dotted after before
    rw [List.append_assoc, found]
    exact ⟨_, rfl⟩

theorem canonical_of_toDnsServer {dnsAddress : GoString} {server : DNSServer}
    (read : toDnsServer dnsAddress = .ok server) : server.Canonical := by
  unfold toDnsServer at read
  split at read
  · rename_i ip port found
    obtain ⟨quad, digits⟩ := dottedQuad_of_findStringSubmatch found
    cases read
    exact ⟨quad, parseIntDnsServer_bounds digits⟩
  · exact absurd read (by simp)

/-! ### The address that is written in a text -/

/-- The port behind an address: the number after a colon, and 53 where there is none. -/
def PortAfter (after : GoString) (port : Int) : Prop :=
  (∃ digits rest n, after = ':' :: (digits ++ rest) ∧ StopsDigits rest ∧
      parseDigits digits = some n ∧ port = n) ∨
    (∀ c rest, after = ':' :: c :: rest → c.isDigit = false) ∧ port = 53

/-- The first dotted quad in the text is the address, and the port stands behind it. -/
def Writes (text : GoString) (server : DNSServer) : Prop :=
  ∃ before after, text = before ++ (server.ip ++ after) ∧ DottedQuad server.ip ∧
    StopsDigits after ∧ PortAfter after server.port ∧
    ∀ before' quad after', text = before' ++ (quad ++ after') → DottedQuad quad →
      before.length ≤ before'.length

/-- The leftmost match is the first dotted quad. -/
theorem findStringSubmatch_first {ip after : GoString} (dotted : DottedQuad ip)
    (stops : StopsDigits after) : ∀ before : GoString,
      (∀ before' quad after', before ++ (ip ++ after) = before' ++ (quad ++ after') →
        DottedQuad quad → before.length ≤ before'.length) →
      findStringSubmatch (before ++ (ip ++ after)) = some (ip, matchPort after) := by
  intro before
  induction before with
  | nil => exact fun _ => findStringSubmatch_append dotted stops
  | cons c before inductionHypothesis =>
      intro first
      have none : matchIp (c :: (before ++ (ip ++ after))) = none := by
        cases matched : matchIp (c :: (before ++ (ip ++ after))) with
        | none => rfl
        | some groups =>
            have start : c :: (before ++ (ip ++ after)) = groups.1 ++ groups.2 :=
              matchIp_eq_append matched
            have earlier := first [] groups.1 groups.2 start (dottedQuad_of_matchIp matched)
            exact absurd earlier (by simp)
      rw [List.cons_append, findStringSubmatch, none]
      apply inductionHypothesis
      intro before' quad after' same dotted'
      have later := first (c :: before') quad after' (by rw [List.cons_append, same]; rfl) dotted'
      simpa using later

theorem parseIntDnsServer_matchPort {after : GoString} {port : Int} (stops : StopsDigits after)
    (written : PortAfter after port) (fits : port ≤ maxInt64) :
    parseIntDnsServer (matchPort after) = port := by
  rcases written with ⟨digits, rest, n, rfl, stopsRest, parsed, rfl⟩ | ⟨noDigit, rfl⟩
  · have run : Digits digits := by
      unfold parseDigits at parsed
      split_ifs at parsed with run
      exact ⟨run.1, List.all_eq_true.mp run.2⟩
    have taken := takeDigits_append run stopsRest
    unfold takeDigits at taken
    split_ifs at taken
    have inRange : minInt64 ≤ (n : Int) ∧ (n : Int) ≤ maxInt64 :=
      ⟨by unfold minInt64; omega, fits⟩
    rw [parseIntDnsServer, matchPort, (Prod.mk.inj (Option.some.inj taken)).1, atoi,
      parseSigned_of_digits run.2, parsed, Option.map_some, Option.filter_some]
    simp [inRange]
  · have nothing : matchPort after = [] := by
      unfold matchPort
      split
      · rename_i rest
        cases rest with
        | nil => rfl
        | cons c rest => exact List.takeWhile_cons_of_neg (by simp [noDigit c rest rfl])
      · cases after with
        | nil => rfl
        | cons c rest => exact List.takeWhile_cons_of_neg (by simp [stops c rfl])
    rw [nothing]
    rfl

/-- A server text is read as the address that is written in it. -/
theorem toDnsServer_of_writes {text : GoString} {server : DNSServer}
    (written : Writes text server) (fits : server.port ≤ maxInt64) :
    toDnsServer text = .ok server := by
  obtain ⟨before, after, rfl, dotted, stops, port, first⟩ := written
  rw [toDnsServer, findStringSubmatch_first dotted stops before first]
  simp only [parseIntDnsServer_matchPort stops port fits]

/-- An address alone, as `GetAddress` writes it, is the address in its text. -/
theorem writes_getAddress {server : DNSServer} (canonical : server.Canonical) :
    Writes server.getAddress server := by
  obtain ⟨dotted, nonneg, -⟩ := canonical
  obtain ⟨n, portEq⟩ := Int.eq_ofNat_of_zero_le nonneg
  refine ⟨[], ':' :: itoa server.port, rfl, dotted, ?_, ?_, fun _ _ _ _ _ => Nat.zero_le _⟩
  · intro c member
    cases member
    rfl
  · refine Or.inl ⟨itoa server.port, [], n, by rw [List.append_nil], ?_, ?_, portEq⟩
    · simp [StopsDigits]
    · rw [portEq]
      exact parseDigits_toDigits n

theorem writes_toIpString (ipArray : IpArray) :
    Writes (toIpString ipArray) { ip := toIpString ipArray, port := 53 } := by
  refine ⟨[], [], by simp, dottedQuad_toIpString ipArray, by simp [StopsDigits], ?_,
    fun _ _ _ _ _ => Nat.zero_le _⟩
  exact Or.inr ⟨fun c rest none => absurd none (by simp), rfl⟩

end DnsProxyServer
