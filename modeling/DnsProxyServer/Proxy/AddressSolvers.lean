/-
Module: DnsProxyServer.Proxy.AddressSolvers
Purpose: The two solvers that answer with one address: the one that knows the machine,
  and the one that looks a name up in the registry of containers.
Trusted boundary: translation of proxy/docker.go and proxy/system.go; the names of the
  machine and the address of its gateway are parameters, and a registry call is one
  atomic step
Main exports: ipMsg, DockerDnsSolver.solve, System, SystemDnsSolver.solve, QuadOf,
  toIpByteArray_of_quadOf, ipMsg_of_quadOf, quadOf_toIpString
-/
import DnsProxyServer.Docker.Hostnames
import DnsProxyServer.Local.File
import DnsProxyServer.Proxy.Message

namespace DnsProxyServer.Proxy

open Cache (LRUCache)
open Docker (Registry)

/-! ### The answer with an address -/

/-- `byte(i)` of `i, _ := strconv.Atoi(piece)`, which reads as `ParseInt` does. -/
def ipByte (piece : GoString) : UInt8 := toByte (Local.Vo.parseInt piece)

/-- The body the two `getMsg` share. -/
def ipMsg (ip : GoString) (question : Question) : Except Failure Msg :=
  match split ip '.' with
  | i1 :: i2 :: i3 :: i4 :: _ =>
      .ok {
        answer := [.a
          { name := question.name, rrtype := typeA, rrclass := classINET, ttl := 0 }
          { b0 := ipByte i1, b1 := ipByte i2, b2 := ipByte i3, b3 := ipByte i4 }] }
  | _ => .error (.panic .indexOutOfRange)

/-! ### The registry of containers -/

namespace DockerDnsSolver

def getMsg (c : Registry) (key : GoString) (question : Question) :
    Except Failure Msg × Registry :=
  match LRUCache.get c key with
  | (some ip, c) => (ipMsg ip question, c)
  | (none, c) => (.error (.panic .typeAssertion), c)

/-- The line that logs the address reads it once more. -/
def doSolve (c : Registry) (k : GoString) (q : Question) : Except Failure Msg × Registry :=
  getMsg (LRUCache.get c k).2 k q

/-- The loop over the candidate names. -/
def solveHosts (c : Registry) (question : Question) (questionName : GoString) :
    List GoString → Except Failure Msg × Registry
  | [] => (.error (.error ("hostname not found ".toList ++ questionName)), c)
  | host :: rest =>
      if LRUCache.containsKey c host then doSolve c host question
      else solveHosts c question questionName rest

def solve (c : Registry) (question : Question) : Outcome × Registry :=
  if question.name = [] then (.panicked .sliceBounds, c)
  else
    let questionName := question.name.dropLast
    let (result, c) := solveHosts c question questionName (getAllHosts ('.' :: questionName))
    (.ofExcept result, c)

end DockerDnsSolver

/-! ### The machine -/

/-- What packages conf and resolvconf answer: the host name of the machine, the same
name in the search domain, and the address of the gateway. -/
structure System where
  hostname : GoString
  domainHostname : GoString
  gatewayIP : GoString
  gatewayErr : Option GoString

namespace SystemDnsSolver

def getMsg (ip : GoString) (question : Question) : Except Failure Msg := ipMsg ip question

def solve (system : System) (question : Question) : Outcome :=
  if question.name = [] then .panicked .sliceBounds
  else
    let questionName := question.name.dropLast
    if questionName = system.hostname ∨ questionName = system.domainHostname then
      match getMsg system.gatewayIP question with
      | .ok msg => .returned (some msg) system.gatewayErr
      | .error (.error message) => .returned none (some message)
      | .error (.panic cause) => .panicked cause
    else .returned none (some "host not found".toList)

end SystemDnsSolver

/-! ### Dotted quads -/

/-- Four decimal numbers of at most 255, and their bytes. -/
def QuadOf (ip : GoString) (bytes : IpArray) : Prop :=
  ∃ d0 d1 d2 d3, ip = d0 ++ '.' :: d1 ++ '.' :: d2 ++ '.' :: d3 ∧
    (Digits d0 ∧ parseDigits d0 = some bytes.b0.toNat) ∧
    (Digits d1 ∧ parseDigits d1 = some bytes.b1.toNat) ∧
    (Digits d2 ∧ parseDigits d2 = some bytes.b2.toNat) ∧
    Digits d3 ∧ parseDigits d3 = some bytes.b3.toNat

theorem parseSigned_of_byte {piece : GoString} {b : UInt8} (digits : Digits piece)
    (value : parseDigits piece = some b.toNat) : parseSigned piece = some (b.toNat : Int) := by
  rw [parseSigned_of_digits digits.2, value]
  rfl

theorem atoi_of_byte {piece : GoString} {b : UInt8} (digits : Digits piece)
    (value : parseDigits piece = some b.toNat) : atoi piece = some (b.toNat : Int) := by
  have small : b.toNat < 256 := b.toNat_lt
  have inRange : minInt64 ≤ (b.toNat : Int) ∧ (b.toNat : Int) ≤ maxInt64 := by
    unfold minInt64 maxInt64
    omega
  rw [atoi, parseSigned_of_byte digits value]
  simp [inRange]

theorem ipByte_of_byte {piece : GoString} {b : UInt8} (digits : Digits piece)
    (value : parseDigits piece = some b.toNat) : ipByte piece = b := by
  have small : b.toNat < 256 := b.toNat_lt
  have clamped : max minInt64 (min maxInt64 (b.toNat : Int)) = b.toNat := by
    unfold minInt64 maxInt64
    omega
  simp only [ipByte, Local.Vo.parseInt, parseSigned_of_byte digits value, clamped,
    toByte_natCast_toNat]

theorem quadOf_toIpString (ipArray : IpArray) : QuadOf (toIpString ipArray) ipArray :=
  ⟨_, _, _, _, rfl, ⟨digits_toDigits _, parseDigits_toDigits _⟩,
    ⟨digits_toDigits _, parseDigits_toDigits _⟩, ⟨digits_toDigits _, parseDigits_toDigits _⟩,
    digits_toDigits _, parseDigits_toDigits _⟩

/-- Both ways to read an address read the bytes of a dotted quad. -/
theorem ipMsg_of_quadOf {ip : GoString} {bytes : IpArray} (quad : QuadOf ip bytes)
    (question : Question) :
    ipMsg ip question = .ok {
      answer := [.a
        { name := question.name, rrtype := typeA, rrclass := classINET, ttl := 0 } bytes] } := by
  obtain ⟨d0, d1, d2, d3, rfl, ⟨digits0, value0⟩, ⟨digits1, value1⟩, ⟨digits2, value2⟩, digits3,
    value3⟩ := quad
  simp only [ipMsg, DottedQuad.split_eq digits0 digits1 digits2 digits3,
    ipByte_of_byte digits0 value0, ipByte_of_byte digits1 value1, ipByte_of_byte digits2 value2,
    ipByte_of_byte digits3 value3]

theorem toIpByteArray_of_quadOf {ip : GoString} {bytes : IpArray} (quad : QuadOf ip bytes)
    (target : IpArray) : toIpByteArray target ip = .ok bytes := by
  obtain ⟨d0, d1, d2, d3, rfl, ⟨digits0, value0⟩, ⟨digits1, value1⟩, ⟨digits2, value2⟩, digits3,
    value3⟩ := quad
  have dotted : DottedQuad (d0 ++ '.' :: d1 ++ '.' :: d2 ++ '.' :: d3) :=
    ⟨d0, d1, d2, d3, digits0, digits1, digits2, digits3, rfl⟩
  have noPort : index (d0 ++ '.' :: d1 ++ '.' :: d2 ++ '.' :: d3) ":".toList = none :=
    Occurrence.index?_singleton_eq_none dotted.not_mem_colon
  rw [toIpByteArray, dotted.not_blank, noPort]
  simp only [Bool.false_eq_true, if_false, DottedQuad.split_eq digits0 digits1 digits2 digits3,
    fillIpByteArray, atoi_of_byte digits0 value0, atoi_of_byte digits1 value1,
    atoi_of_byte digits2 value2, atoi_of_byte digits3 value3, toByte_natCast_toNat]
  rfl

end DnsProxyServer.Proxy
