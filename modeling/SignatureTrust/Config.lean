import SignatureTrust.Source.Entry
import SignatureTrust.Structure.Mask

/-!
# `Config` — what a validation is told

Which of several possible issuers is taken, which structural checks run, whether supervision of
services counts, how far discovery may go, and whether timestamps and counter-signatures are
followed. Every setting has a default, so a configuration says only what it wants otherwise.
-/

set_option autoImplicit false

namespace SignatureTrust

inductive IssuerPolicy where
  | firstMatch
  | latestNotBefore
  | preferTrustedList
deriving DecidableEq, Repr

namespace IssuerPolicy

def all : List IssuerPolicy := [.firstMatch, .latestNotBefore, .preferTrustedList]

def tag : IssuerPolicy → String
  | .firstMatch => "FirstMatch"
  | .latestNotBefore => "LatestNotBefore"
  | .preferTrustedList => "PreferTrustedList"

/-- The first of the entries whose validity starts last, `best` being the best so far. -/
def latest (best : Entry) : List Entry → Entry
  | [] => best
  | e :: rest =>
      if best.certificate.notBefore < e.certificate.notBefore then latest e rest
        else latest best rest

def select (policy : IssuerPolicy) (candidates : List Entry) : Option Entry :=
  match policy, candidates with
  | _, [] => none
  | .firstMatch, e :: _ => some e
  | .latestNotBefore, e :: rest => some (latest e rest)
  | .preferTrustedList, e :: rest => some (((e :: rest).find? (·.isTrusted)).getD e)

/-- Whatever the policy, the entry taken is one of the candidates. -/
theorem mem_of_select {policy : IssuerPolicy} {candidates : List Entry} {e : Entry}
    (h : policy.select candidates = some e) : e ∈ candidates := by
  have latest_mem : ∀ (rest : List Entry) (best : Entry), latest best rest ∈ best :: rest := by
    intro rest
    induction rest with
    | nil => intro best; simp [latest]
    | cons a rest ih =>
        intro best
        simp only [latest]
        split
        · exact List.mem_cons_of_mem _ (ih a)
        · rcases List.mem_cons.1 (ih best) with same | later
          · rw [same]
            exact List.mem_cons_self
          · exact List.mem_cons_of_mem _ (List.mem_cons_of_mem _ later)
  match policy, candidates with
  | .firstMatch, a :: rest => simp_all [select]
  | .latestNotBefore, a :: rest =>
      simp only [select, Option.some.injEq] at h
      exact h ▸ latest_mem rest a
  | .preferTrustedList, a :: rest =>
      simp only [select, Option.some.injEq] at h
      cases found : (a :: rest).find? (·.isTrusted) with
      | none => rw [found] at h; exact h ▸ List.mem_cons_self
      | some b => rw [found] at h; exact h ▸ List.mem_of_find?_eq_some found

/-- Whatever the policy, one is taken if there is one. -/
theorem select_eq_none_iff {policy : IssuerPolicy} {candidates : List Entry} :
    policy.select candidates = none ↔ candidates = [] := by
  cases candidates with
  | nil => simp [select]
  | cons e rest => cases policy <;> simp [select]

end IssuerPolicy

structure Config where
  issuerPolicy : IssuerPolicy := .firstMatch
  structuralChecks : Structure.Mask := .all
  stopOnFirstFailure : Bool := false
  checkServiceWindow : Bool := true
  -- how many passes discovery may take
  maxPasses : Nat := 64
  verifyTimestampSigners : Bool := true
  validateCounterSignatures : Bool := true
deriving DecidableEq, Repr

end SignatureTrust
