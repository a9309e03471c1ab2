/-
Module: DnsProxyServer.ResolvConf.SearchDomain
Purpose: The search domain that is read from resolv.conf, and on which files reading it
  panics.
Trusted boundary: translation of GetSearchDomainEntry of resolvconf/resolvconf.go
Main exports: getSearchDomainEntry, searchLine, getSearchDomainEntry_isOk_iff,
  getSearchDomainEntry_of_separated
-/
import DnsProxyServer.ResolvConf.Process

namespace DnsProxyServer.ResolvConf

/-- The text of the constant `Search`. -/
def searchText : GoString := "SEARCH".toList

/-- The loop over the lines. -/
def firstSearchDomain : List GoString → Except Failure GoString
  | [] => .ok []
  | line :: lines =>
      match getDnsEntryType line with
      | .search => slice line (searchText.length + 1) line.length
      | _ => firstSearchDomain lines

/-- The file is its content, or the error of opening it. -/
def getSearchDomainEntry : Except GoString GoString → Except Failure GoString
  | .error err => .error (.error err)
  | .ok content => firstSearchDomain (scanLines content)

/-- The first line that is classified as a search line. -/
def searchLine (lines : List GoString) : Option GoString :=
  lines.find? (getDnsEntryType · == .search)

theorem firstSearchDomain_eq (lines : List GoString) :
    firstSearchDomain lines =
      match searchLine lines with
      | some line => slice line 7 line.length
      | none => .ok [] := by
  induction lines with
  | nil => rfl
  | cons line lines inductionHypothesis =>
      rw [firstSearchDomain, searchLine, List.find?_cons]
      cases entryType : getDnsEntryType line <;> first | exact inductionHypothesis | rfl

/-- The line starts with the keyword. -/
theorem exists_of_searchLine {lines : List GoString} {line : GoString}
    (found : searchLine lines = some line) : ∃ rest, line = "search".toList ++ rest := by
  have search : getDnsEntryType line = .search := by simpa using List.find?_some found
  unfold getDnsEntryType at search
  split_ifs at search with _ _ _ _ keyword
  obtain ⟨rest, same⟩ := hasPrefix_iff.mp keyword
  exact ⟨rest, same.symm⟩

theorem slice_search (c : Char) (rest : GoString) :
    slice ("search".toList ++ c :: rest) 7 ("search".toList ++ c :: rest).length = .ok rest := by
  have keyword : "search".toList = ['s', 'e', 'a', 'r', 'c', 'h'] := by decide
  simp [slice, keyword]

/-- Reading the keyword alone is slicing out of bounds. -/
theorem getSearchDomainEntry_of_bare {content : GoString}
    (bare : searchLine (scanLines content) = some "search".toList) :
    getSearchDomainEntry (.ok content) = .error (.panic .sliceBounds) := by
  rw [getSearchDomainEntry, firstSearchDomain_eq, bare]
  decide

/-- The domain is read unless the first search line is the keyword alone. -/
theorem getSearchDomainEntry_isOk_iff (content : GoString) :
    (∃ entry, getSearchDomainEntry (.ok content) = .ok entry) ↔
      searchLine (scanLines content) ≠ some "search".toList := by
  constructor
  · rintro ⟨entry, read⟩ bare
    rw [getSearchDomainEntry_of_bare bare] at read
    cases read
  · intro notBare
    rw [getSearchDomainEntry, firstSearchDomain_eq]
    cases found : searchLine (scanLines content) with
    | none => exact ⟨[], rfl⟩
    | some line =>
        obtain ⟨rest, rfl⟩ := exists_of_searchLine found
        cases rest with
        | nil => exact absurd found notBare
        | cons c rest => exact ⟨rest, slice_search c rest⟩

/-- The domain is the text after the blank. -/
theorem getSearchDomainEntry_of_separated {content domain : GoString} {blank : Char}
    (separated : searchLine (scanLines content) = some ("search".toList ++ blank :: domain)) :
    getSearchDomainEntry (.ok content) = .ok domain := by
  rw [getSearchDomainEntry, firstSearchDomain_eq, separated]
  exact slice_search blank domain

end DnsProxyServer.ResolvConf
