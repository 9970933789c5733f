import SignatureTrust.Json.Reader
import SignatureTrust.Json.Writer
import SignatureTrust.Proofs.Text.Decimal

/-!
# `Proofs.Json` — what is written is read back

> **a document is read back from its compact text** (`read?_compact`), as long as its numerals are
> numerals.

The tree keeps a number the way it is written, so all that has to be asked is that what stands after
a point is digits (`IsLiteral`). Reading goes from left to right and has to know where a value ends.
All but numbers end by themselves, and a number ends where no digit, point or exponent follows. What
follows a value in a compact text is a comma, a closing bracket or nothing (`EndsValue`), and that
is the condition under which the functions of the reader undo those of the writer.

The fuel of the reader is spent twice for each level of nesting; a text has two characters a level
at least, and the length of the text is what the induction is counted in.
-/

set_option autoImplicit false

namespace SignatureTrust

open Text (isDigit decimal isDigit_of_mem_decimal head?_decimal)

/-- What stands after the point is digits. -/
def Numeral.IsLiteral (n : Numeral) : Prop := ∀ c ∈ n.fraction, isDigit c = true

namespace Json

mutual

/-- All numerals in the document are. -/
def IsLiteral : Json → Prop
  | .number n => n.IsLiteral
  | .array items => AreLiteral items
  | .object members => HaveLiteral members
  | .null | .bool _ | .string _ => True

def AreLiteral : List Json → Prop
  | [] => True
  | item :: items => item.IsLiteral ∧ AreLiteral items

def HaveLiteral : List (Option String × Json) → Prop
  | [] => True
  | (_, value) :: members => value.IsLiteral ∧ HaveLiteral members

end

theorem haveLiteral_of_forall {members : List (Option String × Json)}
    (h : ∀ m ∈ members, m.2.IsLiteral) :
    HaveLiteral members := by
  induction members with
  | nil => trivial
  | cons m members ih =>
      obtain ⟨hm, hmembers⟩ := List.forall_mem_cons.1 h
      exact ⟨hm, ih hmembers⟩

variable {c : Char} {cs rest : List Char} {n : Nat}

/-! ## Where a value ends -/

/-- A comma, a closing bracket, or nothing more. -/
def EndsValue (rest : List Char) : Prop :=
  ∀ c, rest.head? = some c → c = ',' ∨ c = ']' ∨ c = '}'

theorem endsValue_nil : EndsValue [] := nofun

theorem endsValue_cons (h : c = ',' ∨ c = ']' ∨ c = '}') : EndsValue (c :: rest) := by
  rintro _ ⟨⟩
  exact h

theorem skipSpace_cons (h : isSpace c = false) : skipSpace (c :: cs) = c :: cs :=
  List.dropWhile_cons_of_neg (by rw [h]; decide)

/-! ## Numbers -/

/-- No digit follows. -/
def EndsDigits (rest : List Char) : Prop := ∀ c, rest.head? = some c → isDigit c = false

theorem digitRun_append {digits : List Char} (h : ∀ c ∈ digits, isDigit c = true)
    (hrest : EndsDigits rest) :
    digitRun (digits ++ rest) = (digits, rest) := by
  have hnone : rest.takeWhile isDigit = [] ∧ rest.dropWhile isDigit = rest := by
    cases rest with
    | nil => exact ⟨rfl, rfl⟩
    | cons c rest =>
        have hc : isDigit c = false := hrest c rfl
        exact ⟨List.takeWhile_cons_of_neg (by simp [hc]),
          List.dropWhile_cons_of_neg (by simp [hc])⟩
  rw [digitRun, List.takeWhile_append_of_pos h, List.dropWhile_append_of_pos h, hnone.1, hnone.2,
    List.append_nil]

theorem digitRun_decimal (hrest : EndsDigits rest) :
    digitRun (decimal n ++ rest) = (decimal n, rest) :=
  digitRun_append (fun _ => isDigit_of_mem_decimal) hrest

theorem exists_decimal_eq_cons (n : Nat) : ∃ d ds, decimal n = d :: ds ∧ isDigit d = true := by
  obtain ⟨d, ds, hds⟩ : ∃ d ds, decimal n = d :: ds :=
    List.exists_cons_of_ne_nil Nat.toDigits_ne_nil
  exact ⟨d, ds, hds, isDigit_of_mem_decimal (n := n) (by rw [hds]; exact List.mem_cons_self)⟩

theorem readWhole?_decimal (hrest : EndsDigits rest) :
    readWhole? (decimal n ++ rest) = some (n, rest) := by
  by_cases hn : n = 0
  · rw [hn]
    rfl
  · obtain ⟨d, ds, hds, -⟩ := exists_decimal_eq_cons n
    have hd : d ≠ '0' := by
      rintro rfl
      apply head?_decimal hn
      rw [hds]
      rfl
    have hrun : digitRun (d :: ds ++ rest) = (d :: ds, rest) := hds ▸ digitRun_decimal hrest
    rw [hds, List.cons_append, readWhole?]
    · rw [← List.cons_append, hrun]
      show some (Nat.ofDigitChars 10 (d :: ds) 0, rest) = some (n, rest)
      rw [← hds, decimal, Nat.ofDigitChars_ten_toDigits]
    · rintro _ ⟨⟩
      exact hd rfl

/-- What the writer puts after the whole part. -/
def fractionText (fraction : List Char) : List Char :=
  if fraction.isEmpty then [] else '.' :: fraction

def exponentText : Option Int → List Char
  | none => []
  | some e => 'e' :: (if e < 0 then ['-'] else []) ++ decimal e.natAbs

theorem numeralText_eq (n : Numeral) : numeralText n =
    (if n.negative then ['-'] else []) ++
      (decimal n.whole ++ (fractionText n.fraction ++ exponentText n.exponent)) := by
  obtain ⟨negative, whole, fraction, exponent⟩ := n
  cases exponent <;> simp [numeralText, fractionText, exponentText]

/-- A point stands only before a fraction, and an exponent is none of the digits before it. -/
theorem head?_exponentText (e : Option Int) (hrest : EndsValue rest) (c : Char)
    (hc : (exponentText e ++ rest).head? = some c) : isDigit c = false ∧ c ≠ '.' := by
  cases e with
  | none =>
      obtain rfl | rfl | rfl := hrest c hc <;> decide
  | some e =>
      cases hc
      decide

theorem readExponentDigits?_decimal (negative : Bool) (hrest : EndsDigits rest) :
    readExponentDigits? negative (decimal n ++ rest) =
      some (some (if negative then -(n : Int) else n), rest) := by
  obtain ⟨d, ds, hds, -⟩ := exists_decimal_eq_cons n
  have hvalue : Nat.ofDigitChars 10 (d :: ds) 0 = n := by
    rw [← hds, decimal, Nat.ofDigitChars_ten_toDigits]
  rw [readExponentDigits?, digitRun_decimal hrest, hds]
  dsimp only
  rw [hvalue]

theorem readExponent?_exponentText (e : Option Int) (hrest : EndsValue rest) :
    readExponent? (exponentText e ++ rest) = some (e, rest) := by
  have hdigits : EndsDigits rest := fun c hc => (head?_exponentText none hrest c hc).1
  cases e with
  | none =>
      cases rest with
      | nil => rfl
      | cons c rest => obtain rfl | rfl | rfl := hrest c rfl <;> rfl
  | some e =>
      by_cases he : e < 0
      · have htext : exponentText (some e) ++ rest = 'e' :: '-' :: (decimal e.natAbs ++ rest) := by
          simp [exponentText, he]
        rw [htext]
        show readExponentDigits? true (decimal e.natAbs ++ rest) = _
        rw [readExponentDigits?_decimal true hdigits, if_pos rfl]
        have habs : -(e.natAbs : Int) = e := by omega
        rw [habs]
      · have htext : exponentText (some e) ++ rest = 'e' :: (decimal e.natAbs ++ rest) := by
          simp [exponentText, he]
        have habs : (e.natAbs : Int) = e := by omega
        have hread := readExponentDigits?_decimal (n := e.natAbs) false hdigits
        obtain ⟨d, ds, hds, hd⟩ := exists_decimal_eq_cons e.natAbs
        rw [htext]
        rw [hds, List.cons_append] at hread ⊢
        rw [readExponent?]
        dsimp only
        split
        · next heq =>
            cases heq
            cases hd
        · next heq =>
            cases heq
            cases hd
        · rw [hread, if_neg (by decide), habs]

theorem readFraction?_fractionText {fraction tail : List Char}
    (h : ∀ c ∈ fraction, isDigit c = true)
    (htail : ∀ c, tail.head? = some c → isDigit c = false ∧ c ≠ '.') :
    readFraction? (fractionText fraction ++ tail) = some (fraction, tail) := by
  cases fraction with
  | nil =>
      rw [fractionText, List.isEmpty_nil, if_pos rfl, List.nil_append, readFraction?]
      rintro _ rfl
      exact (htail '.' rfl).2 rfl
  | cons d ds =>
      have hrun : digitRun (d :: ds ++ tail) = (d :: ds, tail) :=
        digitRun_append h fun c hc => (htail c hc).1
      show readFraction? ('.' :: (d :: ds ++ tail)) = some (d :: ds, tail)
      rw [readFraction?, hrun]

/-- A numeral after its sign. -/
def readMagnitude? (negative : Bool) (cs : List Char) : Option (Numeral × List Char) := do
  let (whole, cs) ← readWhole? cs
  let (fraction, cs) ← readFraction? cs
  let (exponent, cs) ← readExponent? cs
  return (⟨negative, whole, fraction, exponent⟩, cs)

theorem readNumeral?_of_unsigned (h : ∀ rest, cs ≠ '-' :: rest) :
    readNumeral? cs = readMagnitude? false cs := by
  rw [readNumeral?]
  · rfl
  · exact h

theorem readNumeral?_numeralText {n : Numeral} (hn : n.IsLiteral) (hrest : EndsValue rest) :
    readNumeral? (numeralText n ++ rest) = some (n, rest) := by
  have htail := head?_exponentText n.exponent hrest
  have hafter : EndsDigits (fractionText n.fraction ++ (exponentText n.exponent ++ rest)) := by
    cases n.fraction with
    | nil => exact fun c hc => (htail c hc).1
    | cons d ds =>
        rintro _ ⟨⟩
        decide
  have hmagnitude : ∀ negative, readMagnitude? negative
      (decimal n.whole ++ (fractionText n.fraction ++ (exponentText n.exponent ++ rest))) =
        some (⟨negative, n.whole, n.fraction, n.exponent⟩, rest) := by
    intro negative
    simp only [readMagnitude?, readWhole?_decimal hafter, readFraction?_fractionText hn htail,
      readExponent?_exponentText n.exponent hrest, Option.bind_eq_bind, Option.bind_some]
    rfl
  rw [numeralText_eq, List.append_assoc, List.append_assoc, List.append_assoc]
  obtain ⟨negative, whole, fraction, exponent⟩ := n
  cases negative with
  | true => exact hmagnitude true
  | false =>
      obtain ⟨d, ds, hds, hd⟩ := exists_decimal_eq_cons whole
      show readNumeral? (decimal whole ++ _) = _
      rw [readNumeral?_of_unsigned]
      · exact hmagnitude false
      · rw [hds]
        rintro _ ⟨⟩
        cases hd

/-! ## Strings -/

/-- The digits that the writer gives a control character. -/
theorem hexUnit?_control : ∀ n < 0x20,
    hexUnit? '0' '0' (Nat.digitChar (n / 16)) (Nat.digitChar (n % 16)) = some n := by decide

theorem readUnits?_letter {e : Char} (hu : e ≠ 'u') (he : escaped? e = some c) :
    readUnits? ('\\' :: e :: cs) = (readUnits? cs).map (onto c.toNat) := by
  rw [readUnits?]
  · rw [he]
    cases readUnits? cs <;> rfl
  · rintro _ _ _ _ _ rfl
    exact fun _ => hu rfl

theorem readUnits?_control (h : c.toNat < 0x20) :
    readUnits? ('\\' :: 'u' :: '0' :: '0' :: Nat.digitChar (c.toNat / 16) ::
      Nat.digitChar (c.toNat % 16) :: cs) =
      (readUnits? cs).map (onto c.toNat) := by
  rw [readUnits?, hexUnit?_control c.toNat h]
  cases readUnits? cs <;> rfl

theorem readUnits?_plain (hquote : c ≠ '"') (hslash : c ≠ '\\') (h : ¬ c.toNat < 0x20) :
    readUnits? (c :: cs) = (readUnits? cs).map (onto c.toNat) := by
  rw [readUnits?]
  · rw [if_neg (by simp [h, hslash])]
    cases readUnits? cs <;> rfl
  · exact fun h => hquote h
  · rintro _ _ _ _ _ rfl
    exact fun _ => hslash rfl
  · rintro _ _ rfl
    exact fun _ => hslash rfl

/-- A character is one unit, however it is escaped. -/
theorem readUnits?_escape (c : Char) (cs : List Char) :
    readUnits? (escape c ++ cs) = (readUnits? cs).map (onto c.toNat) := by
  unfold escape
  split
  case h_8 hquote hslash _ _ _ _ _ =>
    split
    · next h => exact readUnits?_control h
    · next h => exact readUnits?_plain hquote hslash h
  all_goals exact readUnits?_letter (by decide) rfl

theorem readUnits?_escaped (chars cs : List Char) :
    readUnits? (chars.flatMap escape ++ '"' :: cs) = some (chars.map Char.toNat, cs) := by
  induction chars with
  | nil => rfl
  | cons c chars ih =>
      rw [List.flatMap_cons, List.append_assoc, readUnits?_escape, ih]
      rfl

/-- No character is half of a pair. -/
theorem not_surrogate (c : Char) :
    isHighSurrogate c.toNat = false ∧ isLowSurrogate c.toNat = false := by
  have hvalid : c.toNat < 0xD800 ∨ 0xDFFF < c.toNat ∧ c.toNat < 0x110000 := c.valid
  simp only [isHighSurrogate, isLowSurrogate, Bool.and_eq_false_iff, decide_eq_false_iff_not]
  omega

theorem charsOfUnits?_toNat (chars : List Char) :
    charsOfUnits? (chars.map Char.toNat) = some chars := by
  induction chars with
  | nil => rfl
  | cons c chars ih =>
      obtain ⟨hhigh, hlow⟩ := not_surrogate c
      cases chars with
      | nil => simp [charsOfUnits?, hhigh, hlow]
      | cons d chars =>
          rw [List.map_cons] at ih
          simp [charsOfUnits?, hhigh, hlow, ih]

/-- After its opening quote a string is read back, what denotes no text too. -/
theorem exists_quoted_eq_cons (s : Option String) :
    ∃ body, quoted s = '"' :: body ∧ ∀ cs, readString? (body ++ cs) = some (s, cs) := by
  cases s with
  | none => exact ⟨_, rfl, fun _ => rfl⟩
  | some s =>
      refine ⟨s.toList.flatMap escape ++ ['"'], rfl, fun cs => ?_⟩
      rw [List.append_assoc, List.singleton_append, readString?, readUnits?_escaped]
      simp [charsOfUnits?_toNat]

/-! ## Documents -/

theorem exists_numeralText_eq_cons (n : Numeral) :
    ∃ c cs, numeralText n = c :: cs ∧ (c = '-' ∨ isDigit c = true) := by
  rw [numeralText_eq]
  cases n.negative with
  | true => exact ⟨'-', _, rfl, .inl rfl⟩
  | false =>
      obtain ⟨d, ds, hds, hd⟩ := exists_decimal_eq_cons n.whole
      rw [hds]
      exact ⟨d, _, rfl, .inr hd⟩

/-- A sign or a digit is no space, and nothing else begins with it. -/
theorem ne_of_numeral (h : c = '-' ∨ isDigit c = true) :
    ∀ d ∈ [' ', '\t', '\n', '\r', 'n', 't', 'f', '"', '[', '{', ']'], c ≠ d := by
  have hnone : [' ', '\t', '\n', '\r', 'n', 't', 'f', '"', '[', '{', ']'].all
      (fun d => !(d == '-' || isDigit d)) = true := by
    decide
  rintro d hd rfl
  have hc := List.all_eq_true.1 hnone c hd
  obtain rfl | hdigit := h
  · cases hc
  · rw [hdigit, Bool.or_true] at hc
    cases hc

theorem isSpace_of_numeral (h : c = '-' ∨ isDigit c = true) : isSpace c = false := by
  cases hspace : isSpace c with
  | false => rfl
  | true =>
      simp only [isSpace, Bool.or_eq_true, beq_iff_eq] at hspace
      obtain ((rfl | rfl) | rfl) | rfl := hspace <;> exact absurd h (by decide)

/-- No value begins with a space or with a closing bracket. -/
theorem exists_compactChars_eq_cons (j : Json) :
    ∃ c cs, compactChars j = c :: cs ∧ isSpace c = false ∧ c ≠ ']' := by
  cases j with
  | null => exact ⟨'n', _, rfl, by decide⟩
  | bool b => cases b <;> exact ⟨_, _, rfl, by decide⟩
  | number n =>
      obtain ⟨c, cs, hcs, hc⟩ := exists_numeralText_eq_cons n
      exact ⟨c, cs, hcs, isSpace_of_numeral hc, ne_of_numeral hc ']' (by decide)⟩
  | string s =>
      obtain ⟨body, hbody, -⟩ := exists_quoted_eq_cons s
      exact ⟨'"', body, hbody, by decide⟩
  | array items => exact ⟨'[', _, rfl, by decide⟩
  | object members => exact ⟨'{', _, rfl, by decide⟩

variable {fuel : Nat} {cs' : List Char} {item value : Json} {items : List Json}
  {name : Option String} {members : List (Option String × Json)}

/-- What begins with a sign or a digit is read as a number. -/
theorem readValue?_of_numeral (h : c = '-' ∨ isDigit c = true) :
    readValue? (fuel + 1) (c :: cs) = (readNumeral? (c :: cs)).map fun (n, rest) =>
      (.number n, rest) := by
  have hne := ne_of_numeral h
  simp only [List.forall_mem_cons] at hne
  obtain ⟨-, -, -, -, hn, ht, hf, hquote, hbracket, hbrace, -⟩ := hne
  rw [readValue?, skipSpace_cons (isSpace_of_numeral h)]
  split
  case h_7 => cases readNumeral? (c :: cs) <;> rfl
  all_goals next heq =>
    cases heq
    contradiction

theorem readValue?_of_string {s : Option String} (h : readString? cs = some (s, rest)) :
    readValue? (fuel + 1) ('"' :: cs) = some (.string s, rest) := by
  show (readString? cs).bind _ = _
  rw [h]
  rfl

theorem readValue?_of_array (h : readItems? fuel (c :: cs) = some (items, rest))
    (hspace : isSpace c = false) (hc : c ≠ ']') :
    readValue? (fuel + 1) ('[' :: c :: cs) = some (.array items, rest) := by
  rw [readValue?, skipSpace_cons (by decide)]
  split
  case h_5 heq =>
    cases heq
    rw [skipSpace_cons hspace]
    split
    · next heq => exact absurd (List.cons.inj heq).1 hc
    · rw [h]
      rfl
  case h_7 hbracket _ => exact absurd rfl (hbracket (c :: cs))
  all_goals next heq => cases heq

theorem readValue?_of_object (h : readMembers? fuel ('"' :: cs) = some (members, rest)) :
    readValue? (fuel + 1) ('{' :: '"' :: cs) = some (.object members, rest) := by
  show (readMembers? fuel ('"' :: cs)).bind _ = _
  rw [h]
  rfl

theorem readItems?_last (h : readValue? fuel cs = some (item, ']' :: rest)) :
    readItems? (fuel + 1) cs = some ([item], rest) := by
  rw [readItems?, h]
  rfl

theorem readItems?_more (h : readValue? fuel cs = some (item, ',' :: cs'))
    (hmore : readItems? fuel cs' = some (items, rest)) :
    readItems? (fuel + 1) cs = some (item :: items, rest) := by
  rw [readItems?, h]
  show (readItems? fuel cs').bind _ = _
  rw [hmore]
  rfl

theorem readMembers?_last (hname : readString? cs = some (name, ':' :: cs'))
    (h : readValue? fuel cs' = some (value, '}' :: rest)) :
    readMembers? (fuel + 1) ('"' :: cs) = some ([(name, value)], rest) := by
  show (readString? cs).bind _ = _
  rw [hname]
  show (readValue? fuel cs').bind _ = _
  rw [h]
  rfl

theorem readMembers?_more {cs'' : List Char} (hname : readString? cs = some (name, ':' :: cs'))
    (h : readValue? fuel cs' = some (value, ',' :: cs''))
    (hmore : readMembers? fuel cs'' = some (members, rest)) :
    readMembers? (fuel + 1) ('"' :: cs) = some ((name, value) :: members, rest) := by
  show (readString? cs).bind _ = _
  rw [hname]
  show (readValue? fuel cs').bind _ = _
  rw [h]
  show (readMembers? fuel cs'').bind _ = _
  rw [hmore]
  rfl

theorem compactItems_cons_cons (item item' : Json) (items : List Json) :
    compactItems (item :: item' :: items) =
        compactChars item ++ ',' :: compactItems (item' :: items) :=
  rfl

theorem compactMembers_cons_cons (name : Option String) (value : Json)
    (member : Option String × Json) (members : List (Option String × Json)) :
    compactMembers ((name, value) :: member :: members) =
      quoted name ++ ':' :: compactChars value ++ ',' :: compactMembers (member :: members) := rfl

theorem exists_compactItems_eq (item : Json) (items : List Json) :
    ∃ tail, compactItems (item :: items) = compactChars item ++ tail := by
  cases items <;> exact ⟨_, rfl⟩

theorem exists_compactMembers_eq (name : Option String) (value : Json)
    (members : List (Option String × Json)) :
    ∃ tail, compactMembers ((name, value) :: members) = '"' :: tail := by
  obtain ⟨body, hbody, -⟩ := exists_quoted_eq_cons name
  cases members with
  | nil => exact ⟨_, by rw [compactMembers, hbody]; rfl⟩
  | cons member members => exact ⟨_, by rw [compactMembers_cons_cons, hbody]; rfl⟩

mutual

/-- A value is read, and what follows it is left. -/
theorem readValue?_compactChars :
    ∀ (j : Json) (fuel : Nat) (rest : List Char), j.IsLiteral → EndsValue rest →
      2 * (compactChars j).length ≤ fuel →
        readValue? fuel (compactChars j ++ rest) = some (j, rest)
  | .null, fuel + 1, rest, _, _, _ => rfl
  | .bool true, fuel + 1, rest, _, _, _ => rfl
  | .bool false, fuel + 1, rest, _, _, _ => rfl
  | .number n, fuel + 1, rest, hn, hrest, _ => by
      have hread := readNumeral?_numeralText hn hrest
      obtain ⟨c, cs, hcs, hc⟩ := exists_numeralText_eq_cons n
      rw [hcs, List.cons_append] at hread
      rw [compactChars, hcs, List.cons_append, readValue?_of_numeral hc, hread]
      rfl
  | .string s, fuel + 1, rest, _, _, _ => by
      obtain ⟨body, hbody, hread⟩ := exists_quoted_eq_cons s
      rw [compactChars, hbody, List.cons_append]
      exact readValue?_of_string (hread rest)
  | .array [], fuel + 1, rest, _, _, _ => rfl
  | .array (item :: items), fuel + 1, rest, h, _, hfuel => by
      rw [compactChars, List.length_cons] at hfuel
      have hread := readItems?_compactItems item items fuel rest h (by omega)
      obtain ⟨c, cs, hcs, hspace, hc⟩ := exists_compactChars_eq_cons item
      obtain ⟨tail, htail⟩ := exists_compactItems_eq item items
      rw [hcs] at htail
      rw [htail] at hread
      rw [compactChars, htail]
      exact readValue?_of_array hread hspace hc
  | .object [], fuel + 1, rest, _, _, _ => rfl
  | .object ((name, value) :: members), fuel + 1, rest, h, _, hfuel => by
      rw [compactChars, List.length_cons] at hfuel
      have hread := readMembers?_compactMembers name value members fuel rest h (by omega)
      obtain ⟨tail, htail⟩ := exists_compactMembers_eq name value members
      rw [htail] at hread
      rw [compactChars, htail]
      exact readValue?_of_object hread
  | j, 0, _, _, _, hfuel => by
      obtain ⟨c, cs, hcs, -⟩ := exists_compactChars_eq_cons j
      rw [hcs] at hfuel
      cases hfuel

theorem readItems?_compactItems :
    ∀ (item : Json) (items : List Json) (fuel : Nat) (rest : List Char),
      AreLiteral (item :: items) → 2 * (compactItems (item :: items)).length ≤ fuel →
        readItems? fuel (compactItems (item :: items) ++ rest) = some (item :: items, rest)
  | item, [], fuel + 1, rest, h, hfuel => by
      rw [compactItems, List.length_append, List.length_singleton] at hfuel
      rw [compactItems, List.append_assoc]
      exact readItems?_last (readValue?_compactChars item fuel _ h.1 (endsValue_cons (by decide))
        (by omega))
  | item, item' :: items, fuel + 1, rest, h, hfuel => by
      rw [compactItems_cons_cons, List.length_append, List.length_cons] at hfuel
      rw [compactItems_cons_cons, List.append_assoc]
      exact readItems?_more (readValue?_compactChars item fuel _ h.1 (endsValue_cons (by decide))
        (by omega)) (readItems?_compactItems item' items fuel rest h.2 (by omega))
  | item, items, 0, _, _, hfuel => by
      obtain ⟨c, cs, hcs, -⟩ := exists_compactChars_eq_cons item
      obtain ⟨tail, htail⟩ := exists_compactItems_eq item items
      rw [htail, hcs] at hfuel
      cases hfuel

theorem readMembers?_compactMembers :
    ∀ (name : Option String) (value : Json) (members : List (Option String × Json))
      (fuel : Nat) (rest : List Char), HaveLiteral ((name, value) :: members) →
        2 * (compactMembers ((name, value) :: members)).length ≤ fuel →
          readMembers? fuel (compactMembers ((name, value) :: members) ++ rest) =
            some ((name, value) :: members, rest)
  | name, value, [], fuel + 1, rest, h, hfuel => by
      obtain ⟨body, hbody, hread⟩ := exists_quoted_eq_cons name
      rw [compactMembers, hbody] at hfuel ⊢
      simp only [List.length_cons, List.length_append] at hfuel
      simp only [List.cons_append, List.append_assoc]
      exact readMembers?_last (hread _)
        (readValue?_compactChars value fuel _ h.1 (endsValue_cons (by decide)) (by omega))
  | name, value, (name', value') :: members, fuel + 1, rest, h, hfuel => by
      obtain ⟨body, hbody, hread⟩ := exists_quoted_eq_cons name
      rw [compactMembers_cons_cons, hbody] at hfuel ⊢
      simp only [List.length_cons, List.length_append] at hfuel
      simp only [List.cons_append, List.append_assoc]
      exact readMembers?_more (hread _)
        (readValue?_compactChars value fuel _ h.1 (endsValue_cons (by decide)) (by omega))
        (readMembers?_compactMembers name' value' members fuel rest h.2 (by omega))
  | name, value, members, 0, _, _, hfuel => by
      obtain ⟨tail, htail⟩ := exists_compactMembers_eq name value members
      rw [htail] at hfuel
      cases hfuel

end

/-- **A document is read back from its compact text.** -/
theorem read?_compact {j : Json} (h : j.IsLiteral) : read? j.compact = some j := by
  have hread :=
    readValue?_compactChars j (2 * (compactChars j).length + 2) [] h endsValue_nil (by omega)
  rw [List.append_nil] at hread
  rw [read?, compact, String.toList_ofList, hread]
  rfl

end Json
end SignatureTrust
