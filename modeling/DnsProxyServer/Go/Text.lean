/-
Module: DnsProxyServer.Go.Text
Purpose: Go strings and the functions of strings, strconv and bufio that the
  server calls, as their documentation states them.
Trusted boundary: human-reviewed reading of the Go standard library
Main exports: GoString, Failure, hasPrefix, hasSuffix, index, contains, split,
  trimSpaceEmpty, slice, itoa, atoi, scanLines, atoi_toDigits, scanLines_unlines
-/
import DnsProxyServer.Lib.Occurrence
import Mathlib.Data.List.TakeWhile

namespace DnsProxyServer

/-- A Go string is a sequence of bytes; one character stands for one byte. -/
abbrev GoString := List Char

/-- Run-time panics the modelled code can raise. -/
inductive PanicCause where
  | sliceBounds
  | indexOutOfRange
  | nilDereference
  | typeAssertion
  | raised (message : GoString)
deriving Repr, DecidableEq

/-- A call that does not return normally either returns an error value or panics. -/
inductive Failure where
  | error (message : GoString)
  | panic (cause : PanicCause)
deriving Repr, DecidableEq

/-! ### Package strings -/

def hasPrefix (s pre : GoString) : Bool := pre.isPrefixOf s

def hasSuffix (s suffix : GoString) : Bool := suffix.isSuffixOf s

/-- `strings.Index`, with `none` for the result `-1`. -/
def index (s pattern : GoString) : Option Nat := Occurrence.index? pattern s

def contains (s pattern : GoString) : Bool := (index s pattern).isSome

/-- `strings.Split` at a separator of one byte. -/
def split (s : GoString) (separator : Char) : List GoString := s.splitOn separator

/-- The one-byte, two-byte and three-byte encodings of white space
(`unicode.IsSpace` on UTF-8). -/
def isSpace1 (a : Char) : Bool := a ∈ ['\t', '\n', '\x0b', '\x0c', '\r', ' ']

def isSpace2 (a b : Char) : Bool := a = '\xc2' && (b = '\x85' || b = '\xa0')

def isSpace3 (a b c : Char) : Bool :=
  (a, b, c) ∈ [('\xe1', '\x9a', '\x80'), ('\xe2', '\x80', '\xa8'), ('\xe2', '\x80', '\xa9'),
    ('\xe2', '\x80', '\xaf'), ('\xe2', '\x81', '\x9f'), ('\xe3', '\x80', '\x80')] ||
  (a = '\xe2' && b = '\x80' && '\x80' ≤ c && c ≤ '\x8a')

/-- `len(strings.TrimSpace(s)) == 0`. -/
def trimSpaceEmpty : GoString → Bool
  | a :: b :: c :: rest =>
      if isSpace1 a then trimSpaceEmpty (b :: c :: rest)
      else if isSpace2 a b then trimSpaceEmpty (c :: rest)
      else if isSpace3 a b c then trimSpaceEmpty rest
      else false
  | [a, b] => (isSpace1 a && isSpace1 b) || isSpace2 a b
  | [a] => isSpace1 a
  | [] => true

/-- The slice expression `s[low:high]`. -/
def slice (s : GoString) (low high : Nat) : Except Failure GoString :=
  if low ≤ high ∧ high ≤ s.length then .ok ((s.take high).drop low)
  else .error (.panic .sliceBounds)

@[simp] theorem hasPrefix_iff {s pre : GoString} : hasPrefix s pre = true ↔ pre <+: s :=
  List.isPrefixOf_iff_prefix

@[simp] theorem hasSuffix_iff {s suffix : GoString} :
    hasSuffix s suffix = true ↔ suffix <:+ s :=
  List.isSuffixOf_iff_suffix

@[simp] theorem contains_iff {s pattern : GoString} :
    contains s pattern = true ↔ pattern <:+: s := Occurrence.index?_isSome_iff

/-- Text that starts with a digit is not blank. -/
theorem trimSpaceEmpty_of_digit {a : Char} (digit : a.isDigit = true) (rest : GoString) :
    trimSpaceEmpty (a :: rest) = false := by
  have bounds : 48 ≤ a.toNat ∧ a.toNat ≤ 57 := by
    simpa [Char.isDigit, UInt32.le_iff_toNat_le] using digit
  have not1 : isSpace1 a = false := by
    refine Bool.eq_false_iff.mpr fun space => ?_
    simp only [isSpace1, List.mem_cons, decide_eq_true_eq] at space
    rcases space with rfl | rfl | rfl | rfl | rfl | rfl | absurdity <;> simp_all
  have high : ∀ c ∈ ['\xc2', '\xe1', '\xe2', '\xe3'], a ≠ c := by
    rintro c member rfl
    simp only [List.mem_cons, List.not_mem_nil, or_false] at member
    rcases member with rfl | rfl | rfl | rfl <;> simp at bounds
  have not2 : ∀ b, isSpace2 a b = false := fun b => by simp [isSpace2, high]
  have not3 : ∀ b c, isSpace3 a b c = false := fun b c => by simp [isSpace3, high]
  match rest with
  | [] => simp [trimSpaceEmpty, not1]
  | [b] => simp [trimSpaceEmpty, not1, not2]
  | b :: c :: rest => simp [trimSpaceEmpty, not1, not2, not3]

/-! ### Package strconv -/

/-- `strconv.Itoa`, also the verb `%d` on an `int`. -/
def itoa : Int → GoString
  | .ofNat n => Nat.toDigits 10 n
  | .negSucc n => '-' :: Nat.toDigits 10 (n + 1)

/-- The value of a nonempty run of decimal digits. -/
def parseDigits (digits : GoString) : Option Nat :=
  if digits ≠ [] ∧ digits.all Char.isDigit then some (Nat.ofDigitChars 10 digits 0) else none

def maxInt64 : Int := 9223372036854775807
def minInt64 : Int := -9223372036854775808

/-- Decimal digits after an optional sign. -/
def parseSigned : GoString → Option Int
  | '-' :: digits => (parseDigits digits).map fun n : Nat => -(n : Int)
  | '+' :: digits => (parseDigits digits).map fun n : Nat => (n : Int)
  | digits => (parseDigits digits).map fun n : Nat => (n : Int)

/-- `strconv.Atoi` on a 64-bit platform, where the value must fit an `int`;
`none` stands for a non-nil error. -/
def atoi (s : GoString) : Option Int :=
  (parseSigned s).filter fun value => minInt64 ≤ value ∧ value ≤ maxInt64

theorem parseDigits_toDigits (n : ℕ) : parseDigits (Nat.toDigits 10 n) = some n := by
  have digits : (Nat.toDigits 10 n).all Char.isDigit = true :=
    List.all_eq_true.mpr fun _ member =>
      Nat.isDigit_of_mem_toDigits (by decide) (by decide) member
  simp [parseDigits, Nat.toDigits_ne_nil, digits, Nat.ofDigitChars_ten_toDigits]

theorem isDigit_of_mem_toDigits {n : ℕ} {c : Char} (member : c ∈ Nat.toDigits 10 n) :
    c.isDigit = true :=
  Nat.isDigit_of_mem_toDigits (by decide) (by decide) member

/-- Text of digits alone is read without a sign. -/
theorem parseSigned_of_digits {s : GoString} (digits : ∀ c ∈ s, c.isDigit = true) :
    parseSigned s = (parseDigits s).map fun n : Nat => (n : Int) := by
  unfold parseSigned
  split
  · exact absurd (digits '-' (by simp)) (by decide)
  · exact absurd (digits '+' (by simp)) (by decide)
  · rfl

/-- A number is read as it is written, with its sign. -/
theorem parseSigned_itoa (n : Int) : parseSigned (itoa n) = some n := by
  cases n with
  | ofNat n =>
      rw [itoa, parseSigned_of_digits fun _ member => isDigit_of_mem_toDigits member,
        parseDigits_toDigits]
      rfl
  | negSucc n =>
      rw [itoa, parseSigned, parseDigits_toDigits]
      rfl

theorem atoi_of_digits {s : GoString} {value : Int} (digits : ∀ c ∈ s, c.isDigit = true)
    (parsed : atoi s = some value) : 0 ≤ value ∧ value ≤ maxInt64 := by
  rw [atoi, parseSigned_of_digits digits] at parsed
  obtain ⟨isValue, inRange⟩ := Option.filter_eq_some_iff.mp parsed
  obtain ⟨n, -, rfl⟩ := Option.map_eq_some_iff.mp isValue
  simp only [decide_eq_true_eq] at inRange
  omega

theorem atoi_toDigits {n : ℕ} (fits : (n : Int) ≤ maxInt64) :
    atoi (Nat.toDigits 10 n) = some (n : Int) := by
  have inRange : minInt64 ≤ (n : Int) ∧ (n : Int) ≤ maxInt64 :=
    ⟨by unfold minInt64; omega, fits⟩
  rw [atoi, parseSigned_of_digits fun _ member => isDigit_of_mem_toDigits member,
    parseDigits_toDigits]
  simp [inRange]

/-! ### Package bufio

`Scanner` with the default `ScanLines`: a line loses one trailing carriage
return, and a line that does not fit the token buffer ends the scan. -/

def maxScanTokenSize : Nat := 64 * 1024

def dropCR (data : GoString) : GoString :=
  if data.getLast? = some '\r' then data.dropLast else data

/-- The lines a `bufio.Scanner` over `data` delivers. -/
def scanLines (data : GoString) : List GoString :=
  ((Occurrence.pieces '\n' data).takeWhile (·.length < maxScanTokenSize)).map dropCR

theorem dropCR_isPrefix (line : GoString) : dropCR line <+: line := by
  unfold dropCR
  split
  · exact List.dropLast_prefix line
  · exact List.prefix_rfl

theorem dropCR_eq_self {line : GoString} : dropCR line = line ↔ line.getLast? ≠ some '\r' := by
  unfold dropCR
  split
  · rename_i ends
    have nonempty : line ≠ [] := by rintro rfl; simp at ends
    have shorter : line.dropLast ≠ line := fun same => by
      have positive := List.length_pos_of_ne_nil nonempty
      have lengths := congrArg List.length same
      rw [List.length_dropLast] at lengths
      omega
    exact iff_of_false shorter fun notCR => notCR ends
  · rename_i ends
    exact iff_of_true rfl ends

/-- What a scanner delivers of lines that were each written with a newline. -/
theorem scanLines_unlines {lines : List GoString} (free : ∀ line ∈ lines, '\n' ∉ line) :
    scanLines (Occurrence.unlines '\n' lines) =
      (lines.takeWhile (·.length < maxScanTokenSize)).map dropCR := by
  rw [scanLines, Occurrence.pieces_unlines free]

/-- A delivered line has no newline and fits the buffer. -/
theorem of_mem_scanLines {data line : GoString} (member : line ∈ scanLines data) :
    '\n' ∉ line ∧ line.length < maxScanTokenSize := by
  obtain ⟨raw, rawMember, rfl⟩ := List.mem_map.mp member
  have short := List.mem_takeWhile_imp rawMember
  have inPieces := (List.takeWhile_prefix _).subset rawMember
  refine ⟨fun inside => ?_, ?_⟩
  · exact Occurrence.not_mem_of_mem_pieces inPieces ((dropCR_isPrefix raw).subset inside)
  · exact lt_of_le_of_lt (dropCR_isPrefix raw).length_le (by simpa using short)

end DnsProxyServer
