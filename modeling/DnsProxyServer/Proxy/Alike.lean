/-
Module: DnsProxyServer.Proxy.Alike
Purpose: Outcomes that are equal but for the TTLs of their messages, and that two lists of
  solvers whose outcomes are alike on a question resolve it alike.
Trusted boundary: none
Main exports: Outcome.withoutTtl, outline, alike_cases, resolve_congr, resolve_eq_of_attempts
-/
import DnsProxyServer.Proxy.DnsServer

namespace DnsProxyServer.Proxy

def Outcome.withoutTtl : Outcome → Outcome
  | .returned msg err => .returned (msg.map Msg.withoutTtl) err
  | .panicked cause => .panicked cause

/-- What an attempt finds, up to TTLs. -/
def outline {σ : Type} (found : Option (Outcome × σ)) : Option Outcome :=
  found.map fun result => result.1.withoutTtl

section Outline

variable {σ τ : Type}

theorem Outcome.decides_withoutTtl (outcome : Outcome) :
    outcome.withoutTtl.decides = outcome.decides := by
  cases outcome with
  | returned msg err => cases msg <;> rfl
  | panicked cause => rfl

theorem Outcome.answer_withoutTtl (outcome : Outcome) :
    outcome.withoutTtl.answer = outcome.answer := by
  cases outcome with
  | panicked cause => rfl
  | returned msg err =>
      cases msg with
      | none => rfl
      | some msg =>
          cases err with
          | some text => rfl
          | none => simp only [Outcome.withoutTtl, Option.map_some, Outcome.answer, Msg.withoutTtl,
              Msg.setTtls, List.map_map, Function.comp_def, RR.setTtl_setTtl]

theorem decides_congr {outcome outcome' : Outcome}
    (alike : outcome.withoutTtl = outcome'.withoutTtl) : outcome.decides = outcome'.decides := by
  rw [← Outcome.decides_withoutTtl, alike, Outcome.decides_withoutTtl]

theorem Msg.isInternal_withoutTtl (msg : Msg) : msg.withoutTtl.isInternal = msg.isInternal := by
  unfold Msg.isInternal Msg.withoutTtl Msg.setTtls
  cases msg.answer with
  | nil => rfl
  | cons rr rest => cases rr <;> rfl

/-- Outcomes that are alike are equal, but for the TTLs of their messages. -/
theorem alike_cases {outcome outcome' : Outcome}
    (alike : outcome.withoutTtl = outcome'.withoutTtl) :
    (outcome = outcome' ∧ ∀ msg err, outcome ≠ .returned (some msg) err) ∨
      ∃ msg msg' err, outcome = .returned (some msg) err ∧ outcome' = .returned (some msg') err ∧
        msg.withoutTtl = msg'.withoutTtl := by
  cases outcome with
  | panicked cause =>
      cases outcome' with
      | panicked cause' =>
          cases alike
          exact Or.inl ⟨rfl, by simp⟩
      | returned msg' err' => cases alike
  | returned msg err =>
      cases outcome' with
      | panicked cause' => cases alike
      | returned msg' err' =>
          obtain ⟨messages, rfl⟩ := Outcome.returned.inj alike
          cases msg with
          | none =>
              cases msg' with
              | none => exact Or.inl ⟨rfl, by simp⟩
              | some msg' => cases messages
          | some msg =>
              cases msg' with
              | none => cases messages
              | some msg' => exact Or.inr ⟨msg, msg', err, rfl, rfl, Option.some.inj messages⟩

theorem outline_cases {found : Option (Outcome × σ)} {found' : Option (Outcome × τ)}
    (same : outline found = outline found') :
    (found = none ∧ found' = none) ∨ ∃ outcome t outcome' t', found = some (outcome, t) ∧
      found' = some (outcome', t') ∧ outcome.withoutTtl = outcome'.withoutTtl := by
  cases found with
  | none =>
      cases found' with
      | none => exact Or.inl ⟨rfl, rfl⟩
      | some result' => cases same
  | some result =>
      cases found' with
      | none => cases same
      | some result' => exact Or.inr ⟨_, _, _, _, rfl, rfl, Option.some.inj same⟩

theorem cname_congr {hdr : RRHeader} {target : GoString} {rr : RR}
    (alike : (RR.cname hdr target).setTtl 0 = rr.setTtl 0) :
    ∃ hdr', rr = .cname hdr' target ∧ hdr'.name = hdr.name := by
  cases rr with
  | a hdr' ip => cases alike
  | other hdr' rdata => cases alike
  | cname hdr' target' =>
      obtain ⟨headers, rfl⟩ := RR.cname.inj alike
      obtain ⟨name, -⟩ := RRHeader.mk.inj headers
      exact ⟨hdr', rfl, name.symm⟩

theorem followed_congr {msg msg' : Msg} (alike : msg.withoutTtl = msg'.withoutTtl)
    {hdr hdr' : RRHeader} (name : hdr'.name = hdr.name) (target : GoString)
    {found : Option (Outcome × σ)} {found' : Option (Outcome × τ)}
    (same : outline found = outline found') :
    (followed msg hdr target found).withoutTtl = (followed msg' hdr' target found').withoutTtl := by
  have asked : Outcome.withoutTtl (.returned (some msg) none) =
      Outcome.withoutTtl (.returned (some msg') none) := by
    simp only [Outcome.withoutTtl, Option.map_some, alike]
  rcases outline_cases same with ⟨rfl, rfl⟩ | ⟨outcome, t, outcome', t', rfl, rfl, outcomes⟩
  · exact asked
  · rcases alike_cases outcomes with ⟨rfl, silent⟩ | ⟨second, second', err, rfl, rfl, messages⟩
    · cases outcome with
      | panicked cause => rfl
      | returned second err =>
          cases second with
          | none => exact asked
          | some second => exact absurd rfl (silent second err)
    · cases err with
      | some text => rfl
      | none =>
          have answers : second.answer.map (RR.setTtl 0) = second'.answer.map (RR.setTtl 0) :=
            congrArg Msg.answer messages
          simp [followed, Outcome.withoutTtl, Msg.withoutTtl, Msg.setTtls, RR.setTtl, name,
            answers]

theorem resolve_of_absent {question : Question} {solvers : List (Solver σ)} {s : σ}
    (absent : attempt solvers question s = none) : (resolve question solvers s).1 =
      .returned none (some ("Not solver for the question ".toList ++ question.name)) := by
  unfold resolve CnameDnsSolverFactory.solve
  rw [DefaultDnsSolverFactory.solve_eq, absent]
  rfl

section Resolve

variable {question : Question} {solvers : List (Solver σ)} {solvers' : List (Solver τ)} {s t : σ}
  {s' t' : τ} {msg msg' : Msg}

/-- Messages that are alike are both returned, or followed to the same target. -/
theorem resolve_of_alike (found : attempt solvers question s = some (.returned (some msg) none, t))
    (found' : attempt solvers' question s' = some (.returned (some msg') none, t'))
    (alike : msg.withoutTtl = msg'.withoutTtl)
    (second : msg.isInternal = true → msg'.isInternal = true → ∀ hdr target later,
      msg.answer = .cname hdr target :: later →
        outline (attempt solvers { question with name := target } t) =
          outline (attempt solvers' { question with name := target } t')) :
    (resolve question solvers s).1.withoutTtl = (resolve question solvers' s').1.withoutTtl := by
  have marks : msg.isInternal = msg'.isInternal := by
    rw [← Msg.isInternal_withoutTtl, alike, Msg.isInternal_withoutTtl]
  cases internal : msg.isInternal with
  | false =>
      rw [resolve_of_plain found internal, resolve_of_plain found' (marks.symm.trans internal)]
      simp only [Outcome.withoutTtl, Option.map_some, alike]
  | true =>
      have internal' := marks.symm.trans internal
      have lists : msg.answer.map (RR.setTtl 0) = msg'.answer.map (RR.setTtl 0) :=
        congrArg Msg.answer alike
      cases answer : msg.answer with
      | nil => simp [Msg.isInternal, answer] at internal
      | cons rr rest =>
          cases answer' : msg'.answer with
          | nil => simp [Msg.isInternal, answer'] at internal'
          | cons rr' rest' =>
              rw [answer, answer', List.map_cons, List.map_cons] at lists
              obtain ⟨heads, -⟩ := List.cons.inj lists
              by_cases cname : ∃ hdr target, rr = .cname hdr target
              · obtain ⟨hdr, target, rfl⟩ := cname
                obtain ⟨hdr', rfl, name⟩ := cname_congr heads
                rw [resolve_of_internal found answer internal,
                  resolve_of_internal found' answer' internal']
                exact followed_congr alike name target
                  (second internal internal' hdr target rest answer)
              · have other : ∀ hdr target, rr' ≠ .cname hdr target := by
                  rintro hdr target rfl
                  obtain ⟨hdr', rfl, -⟩ := cname_congr heads.symm
                  exact cname ⟨hdr', target, rfl⟩
                rw [resolve_of_mislabelled found answer internal
                    fun hdr target same => cname ⟨hdr, target, same⟩,
                  resolve_of_mislabelled found' answer' internal' other]

/-- Two lists of solvers whose attempts are alike, for the question and for the target of an
internal CNAME, resolve it alike. -/
theorem resolve_congr
    (first : outline (attempt solvers question s) = outline (attempt solvers' question s'))
    (second : ∀ msg msg' t t', attempt solvers question s = some (.returned (some msg) none, t) →
      attempt solvers' question s' = some (.returned (some msg') none, t') →
      msg.isInternal = true → msg'.isInternal = true → ∀ hdr target later,
        msg.answer = .cname hdr target :: later →
          outline (attempt solvers { question with name := target } t) =
            outline (attempt solvers' { question with name := target } t')) :
    (resolve question solvers s).1.withoutTtl = (resolve question solvers' s').1.withoutTtl := by
  rcases outline_cases first with ⟨absent, absent'⟩ | ⟨outcome, t, outcome', t', found, found',
    outcomes⟩
  · rw [resolve_of_absent absent, resolve_of_absent absent']
  · rcases alike_cases outcomes with ⟨rfl, silent⟩ | ⟨msg, msg', err, rfl, rfl, alike⟩
    · cases outcome with
      | panicked cause => rw [resolve_of_panicked found, resolve_of_panicked found']
      | returned msg err =>
          cases msg with
          | none => exact absurd found attempt_ne_nil
          | some msg => exact absurd rfl (silent msg err)
    · cases err with
      | some text =>
          rw [resolve_of_error found, resolve_of_error found']
          exact outcomes
      | none => exact resolve_of_alike found found' alike (second _ _ _ _ found found')

theorem solve_of_attempt {result : Outcome × σ} (found : attempt solvers question s = some result) :
    DefaultDnsSolverFactory.solve question solvers s = result := by
  rw [DefaultDnsSolverFactory.solve_eq, found]
  rfl

/-- Solvers that are not asked make no difference. -/
theorem resolve_eq_of_attempts {others : List (Solver σ)} {result : Outcome × σ}
    (found : attempt solvers question s = some result)
    (found' : attempt others question s = some result)
    (second : ∀ msg hdr target rest, result.1 = .returned (some msg) none → msg.isInternal = true →
      msg.answer = .cname hdr target :: rest → ∃ result',
        attempt solvers { question with name := target } result.2 = some result' ∧
          attempt others { question with name := target } result.2 = some result') :
    resolve question solvers s = resolve question others s := by
  unfold resolve CnameDnsSolverFactory.solve
  rw [solve_of_attempt found, solve_of_attempt found']
  split
  · rfl
  · rfl
  · rfl
  · rename_i msg t
    cases answer : msg.answer with
    | nil => rfl
    | cons rr rest =>
        simp only
        split_ifs with header
        · cases rr with
          | a hdr ip => rfl
          | other hdr rdata => rfl
          | cname hdr target =>
              have internal : msg.isInternal = true := by
                rw [Msg.isInternal, answer]
                exact decide_eq_true header
              obtain ⟨result', next, next'⟩ := second msg hdr target rest rfl internal answer
              simp only [solve_of_attempt next, solve_of_attempt next']
        · rfl

end Resolve

end Outline

end DnsProxyServer.Proxy
