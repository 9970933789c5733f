import SignatureTrust.Text.CaseTable

/-!
# `Text.CaseMapping` — upper and lower case of a text

The mappings are the **full** ones: `ß` becomes `SS` and `İ` becomes an `i` and a dot above, so a
text may change its length. They do not depend on a language, and only one depends on the
neighbours: a capital sigma at the end of a word becomes the final small sigma. The end of a word is
the standard's `Final_Sigma` condition — a cased letter stands before and none after, where
case-ignorable characters do not count.

ASCII is answered without the tables; above it a character is looked up among the expansions first.
-/

set_option autoImplicit false

namespace SignatureTrust.Text

def CaseRun.shift? (run : CaseRun) (n : Nat) : Option Nat :=
  if run.first ≤ n && n ≤ run.last && (n - run.first) % run.step == 0
  then some (Int.toNat (n + run.shift)) else none

/-- The image of a character: its expansion, else the shift of its run, else itself. -/
def mapped (expansions : List (Nat × List Nat)) (runs : List CaseRun) (c : Char) : List Char :=
  match expansions.lookup c.toNat with
  | some image => image.map Char.ofNat
  | none =>
      match runs.findSome? (·.shift? c.toNat) with
      | some image => [Char.ofNat image]
      | none => [c]

def upperChar (c : Char) : List Char :=
  if c.toNat < 0x80 then [c.toUpper] else mapped upperExpansions upperRuns c

/-- The full lower-case mapping of one character that does not depend on its neighbours. -/
def lowerChar (c : Char) : List Char :=
  if c.toNat < 0x80 then [c.toLower] else mapped lowerExpansions lowerRuns c

def upper (cs : List Char) : List Char := cs.flatMap upperChar

/-! ## The final sigma -/

def inRanges (ranges : List CodeRange) (c : Char) : Bool :=
  ranges.any fun r => r.first ≤ c.toNat && c.toNat ≤ r.last

def isCased (c : Char) : Bool := inRanges casedRanges c

def isCaseIgnorable (c : Char) : Bool := inRanges caseIgnorableRanges c

/-- Whether the first character that is not case-ignorable is cased. -/
def leadsToCased (cs : List Char) : Bool :=
  match cs.dropWhile isCaseIgnorable with
  | [] => false
  | c :: _ => isCased c

/-- The small sigma between the characters before it, nearest first, and those after it. -/
def smallSigma (before after : List Char) : Char :=
  if leadsToCased before && !leadsToCased after then 'ς' else 'σ'

/-- Lower-cases what follows `before`, which holds the characters already passed, nearest first. -/
def lowerAfter : List Char → List Char → List Char
  | _, [] => []
  | before, c :: cs =>
      (if c = 'Σ' then [smallSigma before cs] else lowerChar c) ++ lowerAfter (c :: before) cs

def lower (cs : List Char) : List Char := lowerAfter [] cs

end SignatureTrust.Text
