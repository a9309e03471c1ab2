/-
Module: DnsProxyServer.Proxy.Message
Purpose: DNS questions and messages as far as the solvers read them, and the
  names a question is looked up under.
Trusted boundary: translation of the types of the dns library and of
  proxy/proxy.go; header flags, the compression flag and the other sections of a
  message are left out
Main exports: Question, RRHeader, RR, Msg, Msg.withoutTtl, getTtl,
  getHostnameKey, getHostnameKey_inj, getAllHosts, hostSuffixes_fuel
-/
import DnsProxyServer.Local.Address

namespace DnsProxyServer.Proxy

/-- The conversion `uint32(n)` of an `int`. -/
def toUInt32 (n : Int) : UInt32 := UInt32.ofNat (n % 4294967296).toNat

structure Question where
  name : GoString
  qtype : UInt16
  qclass : UInt16
deriving DecidableEq

def typeA : UInt16 := 1
def typeCNAME : UInt16 := 5
def classINET : UInt16 := 1

/-- `dns.RR_Header`. -/
structure RRHeader where
  name : GoString
  rrtype : UInt16
  rrclass : UInt16
  ttl : UInt32
deriving DecidableEq

/-- A resource record; records of other types are opaque data. -/
inductive RR where
  | a (hdr : RRHeader) (ip : IpArray)
  | cname (hdr : RRHeader) (target : GoString)
  | other (hdr : RRHeader) (rdata : GoString)
deriving DecidableEq

def RR.header : RR → RRHeader
  | .a hdr _ => hdr
  | .cname hdr _ => hdr
  | .other hdr _ => hdr

/-- The assignment `v.Header().Ttl = ttl`. -/
def RR.setTtl (ttl : UInt32) : RR → RR
  | .a hdr ip => .a { hdr with ttl := ttl } ip
  | .cname hdr target => .cname { hdr with ttl := ttl } target
  | .other hdr rdata => .other { hdr with ttl := ttl } rdata

/-- `dns.Msg`. -/
structure Msg where
  id : UInt16 := 0
  rcode : Int := 0
  answer : List RR := []
deriving DecidableEq

def rcodeSuccess : Int := 0

def Msg.setTtls (ttl : UInt32) (msg : Msg) : Msg :=
  { msg with answer := msg.answer.map (RR.setTtl ttl) }

/-- A message up to the TTL fields of its answers. -/
def Msg.withoutTtl (msg : Msg) : Msg := msg.setTtls 0

@[simp] theorem RR.setTtl_setTtl (first second : UInt32) (rr : RR) :
    (rr.setTtl first).setTtl second = rr.setTtl second := by
  cases rr <;> rfl

@[simp] theorem Msg.withoutTtl_setTtls (ttl : UInt32) (msg : Msg) :
    (msg.setTtls ttl).withoutTtl = msg.withoutTtl := by
  simp [Msg.withoutTtl, Msg.setTtls, Function.comp_def]

/-- What a call of `Solve` does. -/
inductive Outcome where
  | returned (msg : Option Msg) (err : Option GoString)
  | panicked (cause : PanicCause)
deriving DecidableEq

def Outcome.ofExcept : Except Failure Msg → Outcome
  | .ok msg => .returned (some msg) none
  | .error (.error message) => .returned none (some message)
  | .error (.panic cause) => .panicked cause

/-- The answer section up to TTLs of a message returned without an error. -/
def Outcome.answer : Outcome → Option (List RR)
  | .returned (some msg) none => some msg.withoutTtl.answer
  | _ => none

/-- The TTL of the first answer, five seconds without an answer. -/
def getTtl (msg : Msg) : UInt32 :=
  match msg.answer with
  | answer :: _ => answer.header.ttl
  | [] => 5

/-- `fmt.Sprintf("%s-%d", question.Name, question.Qtype)`. -/
def getHostnameKey (question : Question) : GoString :=
  question.name ++ '-' :: itoa question.qtype.toNat

/-- The digits at the end of a key are those after its last dash. -/
private theorem trailing_digits {name digits : GoString}
    (isDigits : ∀ c ∈ digits, c.isDigit = true) :
    ((name ++ '-' :: digits).reverse).takeWhile Char.isDigit = digits.reverse := by
  have reversed : (name ++ '-' :: digits).reverse = digits.reverse ++ '-' :: name.reverse := by
    simp
  have dash : '-'.isDigit = false := by decide
  rw [reversed,
    List.takeWhile_append_of_pos fun c member => isDigits c (List.mem_reverse.mp member)]
  simp [dash]

/-- Different names or types have different keys. -/
theorem getHostnameKey_inj {question question' : Question}
    (same : getHostnameKey question = getHostnameKey question') :
    question.name = question'.name ∧ question.qtype = question'.qtype := by
  unfold getHostnameKey at same
  have tails := congrArg (fun key => (List.reverse key).takeWhile Char.isDigit) same
  simp only [itoa_natCast] at same tails
  rw [trailing_digits fun _ member => isDigit_of_mem_toDigits member,
    trailing_digits fun _ member => isDigit_of_mem_toDigits member] at tails
  have digits := List.reverse_injective tails
  rw [digits] at same
  refine ⟨List.append_cancel_right same, UInt16.toNat_inj.mp ?_⟩
  have values := congrArg (Nat.ofDigitChars 10 · 0) digits
  simpa [Nat.ofDigitChars_ten_toDigits] using values

/-! ### Candidate names -/

/-- The loop of `getAllHosts` on the rest `str`, for at most `fuel` rounds. -/
def hostSuffixes : Nat → GoString → List GoString
  | 0, _ => []
  | fuel + 1, str =>
      match index str ".".toList with
      | none => []
      | some actual =>
          if actual + 1 ≥ str.length then []
          else str.drop actual :: hostSuffixes fuel (str.drop (actual + 1))

/-- The name without its first byte, then each of its suffixes from a dot on. -/
def getAllHosts (hostname : GoString) : List GoString :=
  hostname.drop 1 :: hostSuffixes hostname.length hostname

/-- Each round consumes a byte, so the loop ends before the fuel does. -/
theorem hostSuffixes_fuel {fuel : Nat} {str : GoString} (enough : str.length ≤ fuel) :
    hostSuffixes (fuel + 1) str = hostSuffixes fuel str := by
  induction fuel generalizing str with
  | zero =>
      obtain rfl := List.length_eq_zero_iff.mp (Nat.le_zero.mp enough)
      rfl
  | succ fuel inductionHypothesis =>
      rw [hostSuffixes, hostSuffixes]
      cases index str ".".toList with
      | none => rfl
      | some actual =>
          have shorter : (str.drop (actual + 1)).length ≤ fuel := by
            rw [List.length_drop]
            omega
          simp only [inductionHypothesis shorter]

end DnsProxyServer.Proxy
