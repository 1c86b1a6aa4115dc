import BooksGateway.Number.Numeral
import BooksGateway.Proofs.Trimming
import Mathlib.Data.Nat.Digits.Defs
import Mathlib.Data.Rat.Defs
import Mathlib.Tactic.Common

/-!
# Numbers in decimal notation

The notation that the readers of numbers accept, written down as a grammar: a sign or none, digits
of any script with single underscores between them, at most one point, an exponent or none, and
white space around all of it. The readers accept exactly what the grammar derives, so a text denotes
one number at most.

* `Digits`, `Sign`, `Mantissa`, `Exponent`: the parts of a number;
* `readDecimal?_eq_some_iff`: a text is read as a decimal number iff it is written as one;
* `readWhole_eq_ok_iff`: a text is read as a whole number iff it is a sign and few enough digits;
* `Denotes`: the number that a text with white space around it denotes, and `Denotes.unique`.
-/

namespace BooksGateway.Numeral

open BooksGateway.Text

/-! ## 1. The notation -/

/-- Digits, with at most one underscore between two of them. -/
inductive Digits : List Char → List Nat → Prop where
  /-- One digit. -/
  | last {c : Char} {d : Nat} (hc : digitValue? c = some d) : Digits [c] [d]
  /-- A digit before others. -/
  | next {c : Char} {d : Nat} {cs : List Char} {ds : List Nat} (hc : digitValue? c = some d)
    (hrest : Digits cs ds) : Digits (c :: cs) (d :: ds)
  /-- A digit and an underscore before others. -/
  | spaced {c : Char} {d : Nat} {cs : List Char} {ds : List Nat} (hc : digitValue? c = some d)
    (hrest : Digits cs ds) : Digits (c :: '_' :: cs) (d :: ds)

/-- A sign, and whether it is a minus. -/
inductive Sign : List Char → Bool → Prop where
  /-- No sign. -/
  | none : Sign [] false
  /-- A plus. -/
  | plus : Sign ['+'] false
  /-- A minus. -/
  | minus : Sign ['-'] true

/-- Digits with a point among them or none: all digits, and how many stand after the point. -/
inductive Mantissa : List Char → List Nat → Nat → Prop where
  /-- Digits without a point. -/
  | whole {cs : List Char} {ds : List Nat} (h : Digits cs ds) : Mantissa cs ds 0
  /-- Digits before a point. -/
  | before {cs : List Char} {ds : List Nat} (h : Digits cs ds) : Mantissa (cs ++ ['.']) ds 0
  /-- Digits on both sides of a point. -/
  | around {cs fs : List Char} {ds es : List Nat} (h : Digits cs ds) (hf : Digits fs es) :
    Mantissa (cs ++ '.' :: fs) (ds ++ es) es.length
  /-- Digits after a point. -/
  | after {fs : List Char} {es : List Nat} (hf : Digits fs es) : Mantissa ('.' :: fs) es es.length

/-- An exponent, and its value. -/
inductive Exponent : List Char → Int → Prop where
  /-- No exponent. -/
  | none : Exponent [] 0
  /-- The letter, a sign and digits. -/
  | some {e : Char} {sign cs : List Char} {negative : Bool} {ds : List Nat} (he : e = 'e' ∨ e = 'E')
    (hsign : Sign sign negative) (h : Digits cs ds) :
    Exponent (e :: (sign ++ cs)) (signed negative (ofDigits ds))

/-- A decimal number as it is written. -/
inductive Decimal : List Char → Written → Prop where
  /-- A sign, digits with a point among them or none, and an exponent or none. -/
  | mk {sign mantissa exponent : List Char} {negative : Bool} {ds : List Nat} {places : Nat}
    {power : Int} (hsign : Sign sign negative) (hmantissa : Mantissa mantissa ds places)
    (hexponent : Exponent exponent power) :
    Decimal (sign ++ (mantissa ++ exponent)) ⟨negative, ofDigits ds, power - places⟩

/-- A whole number as it is written: a sign, and no more digits than are converted. -/
inductive Whole : List Char → Int → Prop where
  /-- A sign and digits. -/
  | mk {sign cs : List Char} {negative : Bool} {ds : List Nat} (hsign : Sign sign negative)
    (h : Digits cs ds) (hshort : ds.length ≤ digitLimit) :
    Whole (sign ++ cs) (signed negative (ofDigits ds))

/-- The number that a decimal notation stands for. -/
def Written.value (w : Written) : Rat :=
  if w.negative then -(w.coefficient * 10 ^ w.exponent) else w.coefficient * 10 ^ w.exponent

/-- The value of a row of digits is its value in base ten. -/
theorem ofDigits_eq (ds : List Nat) : ofDigits ds = Nat.ofDigits 10 ds.reverse := by
  rw [Nat.ofDigits_eq_foldr, List.foldr_reverse, ofDigits]
  congr 1
  funext n d
  rw [Nat.cast_id]
  omega

theorem natAbs_signed (negative : Bool) (n : Nat) : (signed negative n).natAbs = n := by
  cases negative <;> simp [signed]

/-- Digits stand for a number below the power of ten with as many zeros. -/
theorem ofDigits_lt {ds : List Nat} (h : ∀ d ∈ ds, d < 10) : ofDigits ds < 10 ^ ds.length := by
  rw [ofDigits_eq, ← List.length_reverse]
  exact Nat.ofDigits_lt_base_pow_length (by decide) fun d hd => h d (List.mem_reverse.mp hd)

/-! ## 2. The characters of numbers -/

theorem exists_of_digitValue? {c : Char} {d : Nat} (h : digitValue? c = some d) :
    ∃ start ∈ digitZeros, start ≤ c.toNat ∧ c.toNat < start + 10 ∧ d = c.toNat - start := by
  unfold digitValue? at h
  by_cases hascii : c.toNat < 0x80
  · rw [if_pos hascii] at h
    split at h
    · cases h
      exact ⟨0x30, by decide, by omega, by omega, rfl⟩
    · cases h
  · rw [if_neg hascii, Option.map_eq_some_iff] at h
    obtain ⟨start, hstart, hvalue⟩ := h
    have hcovers := List.find?_some hstart
    simp only [Bool.and_eq_true, decide_eq_true_eq] at hcovers
    exact ⟨start, List.mem_of_find?_eq_some hstart, hcovers.1, hcovers.2, hvalue.symm⟩

theorem lt_ten_of_digitValue? {c : Char} {d : Nat} (h : digitValue? c = some d) : d < 10 := by
  obtain ⟨start, _, _, _, rfl⟩ := exists_of_digitValue? h
  omega

theorem Digits.lt_ten {cs : List Char} {ds : List Nat} (h : Digits cs ds) : ∀ d ∈ ds, d < 10 := by
  induction h with
  | last hc => exact List.forall_mem_singleton.mpr (lt_ten_of_digitValue? hc)
  | next hc _ ih | spaced hc _ ih => exact List.forall_mem_cons.mpr ⟨lt_ten_of_digitValue? hc, ih⟩

/-- A digit is no other character of a number. -/
theorem ne_of_digitValue? {c other : Char} {d : Nat} (h : digitValue? c = some d)
    (hother : digitValue? other = none) : c ≠ other := by
  rintro rfl
  rw [h] at hother
  cases hother

theorem exists_of_inRanges {ranges : List (Nat × Nat)} {code : Nat}
    (h : inRanges ranges code = true) : ∃ r ∈ ranges, r.1 ≤ code ∧ code ≤ r.2 := by
  induction ranges with
  | nil => cases h
  | cons r ranges ih =>
    unfold inRanges at h
    split at h
    · cases h
    split at h
    · exact ⟨r, List.mem_cons_self, by omega, by omega⟩
    · obtain ⟨other, hother, hcode⟩ := ih h
      exact ⟨other, List.mem_cons_of_mem _ hother, hcode⟩

/-- **No digit is white space**, whatever its script. -/
theorem not_isBlank_of_digitValue? {c : Char} {d : Nat} (h : digitValue? c = some d) :
    isBlank c = false := by
  have hapart : ∀ start ∈ digitZeros, ∀ r ∈ blankRanges, start + 10 ≤ r.1 ∨ r.2 < start := by
    decide +kernel
  obtain ⟨start, hstart, hlow, hhigh, _⟩ := exists_of_digitValue? h
  refine Bool.eq_false_iff.mpr fun hblank => ?_
  obtain ⟨r, hr, hfirst, hlast⟩ := exists_of_inRanges hblank
  have := hapart start hstart r hr
  omega

/-- Texts without white space. -/
def Solid (cs : List Char) : Prop := ∀ c ∈ cs, isBlank c = false

theorem solid_append {cs ds : List Char} : Solid (cs ++ ds) ↔ Solid cs ∧ Solid ds :=
  List.forall_mem_append

theorem solid_cons {c : Char} {cs : List Char} :
    Solid (c :: cs) ↔ isBlank c = false ∧ Solid cs := List.forall_mem_cons

theorem solid_nil : Solid [] := fun _ h => by cases h

theorem Digits.solid {cs : List Char} {ds : List Nat} (h : Digits cs ds) : Solid cs := by
  induction h with
  | last hc => exact solid_cons.mpr ⟨not_isBlank_of_digitValue? hc, solid_nil⟩
  | next hc _ ih => exact solid_cons.mpr ⟨not_isBlank_of_digitValue? hc, ih⟩
  | spaced hc _ ih =>
    exact solid_cons.mpr ⟨not_isBlank_of_digitValue? hc, solid_cons.mpr ⟨by decide, ih⟩⟩

theorem Sign.solid {cs : List Char} {negative : Bool} (h : Sign cs negative) : Solid cs := by
  cases h with
  | none => exact solid_nil
  | plus | minus => exact solid_cons.mpr ⟨by decide, solid_nil⟩

theorem Mantissa.solid {cs : List Char} {ds : List Nat} {places : Nat}
    (h : Mantissa cs ds places) : Solid cs := by
  cases h with
  | whole h => exact h.solid
  | before h => exact solid_append.mpr ⟨h.solid, solid_cons.mpr ⟨by decide, solid_nil⟩⟩
  | around h hf => exact solid_append.mpr ⟨h.solid, solid_cons.mpr ⟨by decide, hf.solid⟩⟩
  | after hf => exact solid_cons.mpr ⟨by decide, hf.solid⟩

theorem Exponent.solid {cs : List Char} {power : Int} (h : Exponent cs power) : Solid cs := by
  cases h with
  | none => exact solid_nil
  | some he hsign h =>
    refine solid_cons.mpr ⟨?_, solid_append.mpr ⟨hsign.solid, h.solid⟩⟩
    rcases he with rfl | rfl <;> decide

theorem Decimal.solid {cs : List Char} {w : Written} (h : Decimal cs w) : Solid cs := by
  cases h with
  | mk hsign hmantissa hexponent =>
    exact solid_append.mpr ⟨hsign.solid, solid_append.mpr ⟨hmantissa.solid, hexponent.solid⟩⟩

theorem Whole.solid {cs : List Char} {n : Int} (h : Whole cs n) : Solid cs := by
  cases h with
  | mk hsign h => exact solid_append.mpr ⟨hsign.solid, h.solid⟩

/-! ## 3. Reading signs and digits -/

theorem Digits.exists_cons {cs : List Char} {ds : List Nat} (h : Digits cs ds) :
    ∃ c d rest, cs = c :: rest ∧ digitValue? c = some d := by
  cases h with
  | last hc => exact ⟨_, _, _, rfl, hc⟩
  | next hc _ => exact ⟨_, _, _, rfl, hc⟩
  | spaced hc _ => exact ⟨_, _, _, rfl, hc⟩

theorem Digits.ne_nil {cs : List Char} {ds : List Nat} (h : Digits cs ds) : ds ≠ [] := by
  cases h <;> exact List.cons_ne_nil _ _

theorem exists_of_readSign {cs rest : List Char} {negative : Bool}
    (h : readSign cs = (negative, rest)) : ∃ sign, Sign sign negative ∧ cs = sign ++ rest := by
  unfold readSign at h
  split at h
  · cases h
    exact ⟨_, .minus, rfl⟩
  · cases h
    exact ⟨_, .plus, rfl⟩
  · cases h
    exact ⟨_, .none, rfl⟩

/-- A sign is read off before anything that does not begin with one. -/
theorem readSign_append {sign rest : List Char} {negative : Bool} (h : Sign sign negative)
    (hrest : ∀ c, rest.head? = some c → c ≠ '-' ∧ c ≠ '+') :
    readSign (sign ++ rest) = (negative, rest) := by
  cases h with
  | plus => rfl
  | minus => rfl
  | none =>
    cases rest with
    | nil => rfl
    | cons c rest =>
      obtain ⟨hminus, hplus⟩ := hrest c rfl
      rw [List.nil_append, readSign]
      · rintro _ ⟨⟩
        exact hminus rfl
      · rintro _ ⟨⟩
        exact hplus rfl

/-- Where digits stop: at the end, or before what is neither a digit nor an underscore. -/
def Stops (rest : List Char) : Prop := ∀ c, rest.head? = some c → digitValue? c = none ∧ c ≠ '_'

theorem stops_nil : Stops [] := fun _ h => by cases h

theorem stops_cons {c : Char} {rest : List Char} (hc : digitValue? c = none) (hmark : c ≠ '_') :
    Stops (c :: rest) := by
  rintro _ ⟨⟩
  exact ⟨hc, hmark⟩

theorem readDigits_cons {c : Char} {d : Nat} {rest : List Char} (hc : digitValue? c = some d)
    (hrest : rest.head? ≠ some '_') :
    readDigits (c :: rest) = (d :: (readDigits rest).1, (readDigits rest).2) := by
  rw [readDigits]
  · rw [hc]
  · rintro _ _ rfl
    exact hrest rfl

theorem readDigits_spaced {c next : Char} {d e : Nat} {rest : List Char}
    (hc : digitValue? c = some d) (hnext : digitValue? next = some e) :
    readDigits (c :: '_' :: next :: rest) =
      (d :: (readDigits (next :: rest)).1, (readDigits (next :: rest)).2) := by
  rw [readDigits, hc, hnext]

theorem readDigits_of_stops {rest : List Char} (h : Stops rest) : readDigits rest = ([], rest) := by
  unfold readDigits
  split
  · rfl
  · rename_i c next rest
    rw [(h c rfl).1]
  · rename_i c rest _
    rw [(h c rfl).1]

/-- **Digits are read off before anything that stops them.** -/
theorem readDigits_append {cs rest : List Char} {ds : List Nat} (h : Digits cs ds)
    (hrest : Stops rest) : readDigits (cs ++ rest) = (ds, rest) := by
  induction h with
  | last hc =>
    rw [List.singleton_append, readDigits_cons hc fun hmark => (hrest _ hmark).2 rfl,
      readDigits_of_stops hrest]
  | next hc h ih =>
    obtain ⟨c, d, more, rfl, hd⟩ := h.exists_cons
    rw [List.cons_append, readDigits_cons hc, ih]
    rintro ⟨⟩
    exact ne_of_digitValue? hd (by decide) rfl
  | spaced hc h ih =>
    obtain ⟨c, d, more, rfl, hd⟩ := h.exists_cons
    rw [List.cons_append, List.cons_append, List.cons_append, readDigits_spaced hc hd,
      ← List.cons_append, ih]

theorem readDigits_ne_nil {c : Char} {d : Nat} {rest : List Char}
    (hc : digitValue? c = some d) : (readDigits (c :: rest)).1 ≠ [] := by
  unfold readDigits
  split
  · contradiction
  · rename_i first next more heq
    cases heq
    cases hnext : digitValue? next <;> rw [hc] <;> exact List.cons_ne_nil _ _
  · rename_i first more _ heq
    cases heq
    rw [hc]
    exact List.cons_ne_nil _ _

/-- Digits, or nothing. -/
inductive Row : List Char → List Nat → Prop where
  /-- Nothing. -/
  | empty : Row [] []
  /-- Digits. -/
  | full {cs : List Char} {ds : List Nat} (h : Digits cs ds) : Row cs ds

theorem Row.digits {cs : List Char} {ds : List Nat} (h : Row cs ds) (hds : ds ≠ []) :
    Digits cs ds := by
  cases h with
  | empty => exact absurd rfl hds
  | full h => exact h

/-- A digit before a row of digits. -/
theorem Row.cons {c : Char} {d : Nat} {cs : List Char} {ds : List Nat} (h : Row cs ds)
    (hc : digitValue? c = some d) : Digits (c :: cs) (d :: ds) := by
  cases h with
  | empty => exact .last hc
  | full h => exact .next hc h

/-- What is read off as digits is digits, or nothing. -/
theorem exists_of_readDigits (cs : List Char) :
    ∃ front, Row front (readDigits cs).1 ∧ cs = front ++ (readDigits cs).2 := by
  -- on the reading: an underscore is read off only before another digit
  fun_induction readDigits cs with
  | case1 => exact ⟨[], .empty, rfl⟩
  | case2 c next rest d e hnext hc ds tail hread ih =>
    have hds : (readDigits (next :: rest)).1 ≠ [] := readDigits_ne_nil hnext
    rw [hread] at ih hds
    obtain ⟨front, hrow, hfront⟩ := ih
    exact ⟨c :: '_' :: front, .full (.spaced hc (hrow.digits hds)), by rw [hfront]; rfl⟩
  | case3 c next rest d hnext hc => exact ⟨[c], .full (.last hc), rfl⟩
  | case4 c next rest hc => exact ⟨[], .empty, rfl⟩
  | case5 c rest _ d hc ds tail hread ih =>
    rw [hread] at ih
    obtain ⟨front, hrow, hfront⟩ := ih
    exact ⟨c :: front, .full (hrow.cons hc), by rw [hfront]; rfl⟩
  | case6 c rest _ hc => exact ⟨[], .empty, rfl⟩

/-! ## 4. Reading decimal numbers -/

/-- Reads a decimal number with its sign. -/
def readDecimal? (cs : List Char) : Option Written :=
  readUnsigned? (readSign cs).1 (readSign cs).2

theorem Mantissa.exists_cons {cs : List Char} {ds : List Nat} {places : Nat}
    (h : Mantissa cs ds places) :
    ∃ c rest, cs = c :: rest ∧ (c = '.' ∨ ∃ d, digitValue? c = some d) := by
  cases h with
  | whole h =>
    obtain ⟨c, d, rest, rfl, hc⟩ := h.exists_cons
    exact ⟨c, rest, rfl, .inr ⟨d, hc⟩⟩
  | before h =>
    obtain ⟨c, d, rest, rfl, hc⟩ := h.exists_cons
    exact ⟨c, _, rfl, .inr ⟨d, hc⟩⟩
  | around h hf =>
    obtain ⟨c, d, rest, rfl, hc⟩ := h.exists_cons
    exact ⟨c, _, rfl, .inr ⟨d, hc⟩⟩
  | after hf => exact ⟨'.', _, rfl, .inl rfl⟩

/-- What a number begins with after its sign is no sign. -/
theorem ne_sign_of_digitValue? {c : Char} {d : Nat} (h : digitValue? c = some d) :
    c ≠ '-' ∧ c ≠ '+' := ⟨ne_of_digitValue? h (by decide), ne_of_digitValue? h (by decide)⟩

theorem Digits.readSign_append {sign cs : List Char} {negative : Bool} {ds : List Nat}
    (hsign : Sign sign negative) (h : Digits cs ds) : readSign (sign ++ cs) = (negative, cs) := by
  obtain ⟨c, d, rest, rfl, hc⟩ := h.exists_cons
  refine Numeral.readSign_append hsign ?_
  rintro _ ⟨⟩
  exact ne_sign_of_digitValue? hc

theorem Mantissa.readSign_append {sign cs rest : List Char} {negative : Bool} {ds : List Nat}
    {places : Nat} (hsign : Sign sign negative) (h : Mantissa cs ds places) :
    readSign (sign ++ (cs ++ rest)) = (negative, cs ++ rest) := by
  obtain ⟨c, more, rfl, hc⟩ := h.exists_cons
  refine Numeral.readSign_append hsign ?_
  rintro _ ⟨⟩
  rcases hc with rfl | ⟨d, hc⟩
  · decide
  · exact ne_sign_of_digitValue? hc

theorem Exponent.stops {cs : List Char} {power : Int} (h : Exponent cs power) : Stops cs := by
  cases h with
  | none => exact stops_nil
  | some he _ _ => rcases he with rfl | rfl <;> exact stops_cons (by decide) (by decide)

theorem readExponent_of_exponent {cs : List Char} {power : Int} (h : Exponent cs power) :
    readExponent cs = some power := by
  cases h with
  | none => rfl
  | @some e sign cs negative ds he hsign h =>
    have hread := readDigits_append h stops_nil
    rw [List.append_nil] at hread
    obtain ⟨d, more, hds⟩ := List.exists_cons_of_ne_nil h.ne_nil
    rw [readExponent, if_pos he, h.readSign_append hsign]
    dsimp only
    rw [hread, hds]

theorem exponent_of_readExponent {cs : List Char} {power : Int}
    (h : readExponent cs = some power) : Exponent cs power := by
  unfold readExponent at h
  split at h
  · cases h
    exact .none
  · rename_i e rest
    split at h
    · rename_i he
      cases hsign : readSign rest with
      | mk negative body =>
        rw [hsign] at h
        obtain ⟨sign, hsigned, rfl⟩ := exists_of_readSign hsign
        obtain ⟨front, hrow, hfront⟩ := exists_of_readDigits body
        cases hdigits : readDigits body with
        | mk ds tail =>
          simp only [hdigits] at h hrow hfront
          split at h
          · rename_i d more heq
            cases heq
            cases h
            rw [hfront, List.append_nil]
            exact .some he hsigned (hrow.digits (List.cons_ne_nil _ _))
          · cases h
    · cases h

/-- **What is written as a number after its sign is read as it.** -/
theorem readUnsigned?_append {cs exponent : List Char} {ds : List Nat} {places : Nat} {power : Int}
    (negative : Bool) (h : Mantissa cs ds places) (hexponent : Exponent exponent power) :
    readUnsigned? negative (cs ++ exponent) = some ⟨negative, ofDigits ds, power - places⟩ := by
  have hstops := hexponent.stops
  have hread := readExponent_of_exponent hexponent
  have hpoint : ∀ rest, Stops ('.' :: rest) := fun rest => stops_cons (by decide) (by decide)
  have hfraction : readFraction exponent = ([], exponent) := by
    cases hexponent with
    | none => rfl
    | some he _ _ => rcases he with rfl | rfl <;> rfl
  unfold readUnsigned?
  cases h with
  | whole h =>
    obtain ⟨d, more, rfl⟩ := List.exists_cons_of_ne_nil h.ne_nil
    simp only [readDigits_append h hstops, hfraction, hread]
    simp
  | @before cs ds h =>
    obtain ⟨d, more, rfl⟩ := List.exists_cons_of_ne_nil h.ne_nil
    rw [List.append_assoc, List.singleton_append]
    simp only [readDigits_append h (hpoint exponent), readFraction, readDigits_of_stops hstops,
      hread]
    simp
  | @around cs fs ds es h hf =>
    obtain ⟨d, more, rfl⟩ := List.exists_cons_of_ne_nil h.ne_nil
    rw [List.append_assoc, List.cons_append]
    simp only [readDigits_append h (hpoint _), readFraction, readDigits_append hf hstops, hread]
    simp
  | @after fs es hf =>
    obtain ⟨d, more, rfl⟩ := List.exists_cons_of_ne_nil hf.ne_nil
    rw [List.cons_append]
    simp only [readDigits_of_stops (hpoint _), readFraction, readDigits_append hf hstops, hread]
    simp

/-- Digits on at least one side of a point. -/
theorem Row.mantissa {front back : List Char} {whole fraction : List Nat} (hwhole : Row front whole)
    (hfraction : Row back fraction) (hsome : ¬(whole = [] ∧ fraction = [])) :
    Mantissa (front ++ '.' :: back) (whole ++ fraction) fraction.length := by
  cases hwhole with
  | empty =>
    cases hfraction with
    | empty => exact absurd ⟨rfl, rfl⟩ hsome
    | full hf => exact .after hf
  | full hw =>
    cases hfraction with
    | empty =>
      rw [List.append_nil]
      exact .before hw
    | full hf => exact .around hw hf

/-- What is read off as digits, and as a point with digits behind them. -/
theorem exists_of_readFraction {front : List Char} {whole : List Nat} (rest : List Char)
    (hwhole : Row front whole) (hsome : ¬(whole = [] ∧ (readFraction rest).1 = [])) :
    ∃ mantissa, Mantissa mantissa (whole ++ (readFraction rest).1) (readFraction rest).1.length ∧
      front ++ rest = mantissa ++ (readFraction rest).2 := by
  unfold readFraction at *
  split
  · rename_i more
    obtain ⟨back, hfraction, hback⟩ := exists_of_readDigits more
    refine ⟨_, hwhole.mantissa hfraction hsome, ?_⟩
    rw [List.append_assoc, List.cons_append, ← hback]
  · rename_i hpoint
    split at hsome
    · exact absurd rfl (hpoint _)
    · rw [List.append_nil]
      exact ⟨front, .whole (hwhole.digits fun h => hsome ⟨h, rfl⟩), rfl⟩

/-- What is read as a number after its sign is written as one. -/
theorem exists_of_readUnsigned? {negative : Bool} {cs : List Char} {w : Written}
    (h : readUnsigned? negative cs = some w) :
    ∃ mantissa exponent ds places power, Mantissa mantissa ds places ∧ Exponent exponent power ∧
      cs = mantissa ++ exponent ∧ w = ⟨negative, ofDigits ds, power - places⟩ := by
  obtain ⟨front, hwhole, hfront⟩ := exists_of_readDigits cs
  unfold readUnsigned? at h
  dsimp only at h
  split at h
  · cases h
  · rename_i hsome
    rw [Bool.and_eq_true, List.isEmpty_iff, List.isEmpty_iff] at hsome
    obtain ⟨power, hpower, rfl⟩ := Option.map_eq_some_iff.mp h
    obtain ⟨mantissa, hmantissa, hrest⟩ := exists_of_readFraction _ hwhole hsome
    exact ⟨mantissa, _, _, _, power, hmantissa, exponent_of_readExponent hpower,
      hfront.trans hrest, rfl⟩

/-- **A text is read as a decimal number iff it is written as one.** -/
theorem readDecimal?_eq_some_iff {cs : List Char} {w : Written} :
    readDecimal? cs = some w ↔ Decimal cs w := by
  constructor
  · intro h
    obtain ⟨sign, hsign, hcs⟩ := exists_of_readSign (Prod.eta (readSign cs)).symm
    obtain ⟨mantissa, exponent, ds, places, power, hmantissa, hexponent, hrest, rfl⟩ :=
      exists_of_readUnsigned? h
    have hdecimal := Decimal.mk hsign hmantissa hexponent
    rw [← hrest, ← hcs] at hdecimal
    exact hdecimal
  · intro h
    cases h with
    | mk hsign hmantissa hexponent =>
      rw [readDecimal?, hmantissa.readSign_append hsign]
      exact readUnsigned?_append _ hmantissa hexponent

/-! ## 5. Reading trimmed texts -/

theorem isPadding_of_not_isBlank {c : Char} (h : isBlank c = false) : isPadding c = false := by
  rw [isPadding, h, Bool.false_and]

/-- A trimmed text has no white space around it that a reader would drop. -/
theorem stripPadding_strip (cs : List Char) : stripPadding (strip cs) = strip cs := by
  have hfirst : (strip cs).dropWhile isPadding = strip cs := by
    cases h : strip cs with
    | nil => rfl
    | cons c rest =>
      have hc : isPadding c = false := isPadding_of_not_isBlank (head?_strip (by rw [h]; rfl))
      rw [List.dropWhile_cons_of_neg (by rw [hc]; decide)]
  have hlast : ∀ c, (strip cs).getLast? = some c → isPadding c = false := fun c hc =>
    isPadding_of_not_isBlank (getLast?_strip hc)
  have hnone : ∀ c ∈ ([] : List Char), isPadding c = true := fun _ hc => by cases hc
  have hdrop := dropEnd_append hnone hlast
  rw [List.append_nil] at hdrop
  rw [stripPadding, hfirst, hdrop]

/-- **A trimmed text is read as a whole number iff it is a sign and few enough digits.** -/
theorem readWhole_eq_ok_iff {cs : List Char} (hcs : stripPadding cs = cs) {n : Int} :
    readWhole cs = .ok n ↔ Whole cs n := by
  unfold readWhole
  rw [hcs]
  constructor
  · intro h
    obtain ⟨sign, hsign, hrest⟩ := exists_of_readSign (Prod.eta (readSign cs)).symm
    obtain ⟨front, hrow, hfront⟩ := exists_of_readDigits (readSign cs).2
    dsimp only at h
    split at h
    · cases h
    · rename_i hsome
      simp only [Bool.or_eq_true, not_or, List.isEmpty_iff] at hsome
      split at h
      · cases h
      · rename_i hshort
        split at h
        · rename_i hend
          rw [List.isEmpty_iff] at hend
          cases h
          have hwhole := Whole.mk hsign (hrow.digits hsome.1) (not_lt.mp hshort)
          rw [hend, List.append_nil] at hfront
          rw [← hfront, ← hrest] at hwhole
          exact hwhole
        · cases h
  · intro h
    cases h with
    | @mk sign cs negative ds hsign h hshort =>
      have hdigits := readDigits_append h stops_nil
      rw [List.append_nil] at hdigits
      obtain ⟨d, more, rfl⟩ := List.exists_cons_of_ne_nil h.ne_nil
      rw [h.readSign_append hsign]
      simp only [hdigits]
      exact (if_neg Bool.false_ne_true).trans (if_neg (not_lt.mpr hshort))

theorem toLower_of_digitValue? {c : Char} {d : Nat} (h : digitValue? c = some d) :
    c.toLower = c := by
  unfold Char.toLower
  split
  · rename_i hupper
    obtain ⟨hlow, hhigh⟩ := hupper
    have hfirst : 0x41 ≤ c.toNat := hlow
    have hlast : c.toNat ≤ 0x5A := hhigh
    unfold digitValue? at h
    rw [if_pos (by omega), if_neg (by omega)] at h
    cases h
  · rfl

/-- A number does not begin like the words for an infinity and for what is not a number. -/
theorem Mantissa.ne_word {cs rest : List Char} {ds : List Nat} {places : Nat}
    (h : Mantissa cs ds places) {first : Char} {word : List Char}
    (hfirst : first = 'i' ∨ first = 'n') :
    String.ofList ((cs ++ rest).map Char.toLower) ≠ String.ofList (first :: word) := by
  obtain ⟨c, more, rfl, hc⟩ := h.exists_cons
  intro heq
  have hhead : c.toLower = first := by
    have hlist := String.ofList_injective heq
    exact (List.cons.inj hlist).1
  rcases hc with rfl | ⟨d, hc⟩
  · rcases hfirst with rfl | rfl <;> cases hhead
  · rw [toLower_of_digitValue? hc] at hhead
    rcases hfirst with rfl | rfl <;> exact ne_of_digitValue? hc (by decide) hhead

/-- **A number is read as the nearest one of the format.** -/
theorem readFloat?_of_decimal {cs : List Char} (hcs : stripPadding cs = cs) {w : Written}
    (h : Decimal cs w) :
    readFloat? cs = some (Binary64.ofDecimal w.negative w.coefficient w.exponent) := by
  have hread := readDecimal?_eq_some_iff.mpr h
  unfold readFloat?
  rw [hcs]
  cases h with
  | mk hsign hmantissa hexponent =>
    rw [readDecimal?, hmantissa.readSign_append hsign] at hread
    rw [hmantissa.readSign_append hsign]
    dsimp only at hread ⊢
    rw [if_neg (not_or.mpr ⟨hmantissa.ne_word (.inl rfl), hmantissa.ne_word (.inl rfl)⟩),
      if_neg (hmantissa.ne_word (.inr rfl)), hread]
    rfl

/-- What is read as a finite number is written as a decimal number. -/
theorem decimal_of_readFloat? {cs : List Char} (hcs : stripPadding cs = cs) {x : Binary64}
    (h : readFloat? cs = some x) (hx : x.isFinite = true) :
    ∃ w, Decimal cs w ∧ x = Binary64.ofDecimal w.negative w.coefficient w.exponent := by
  unfold readFloat? at h
  rw [hcs] at h
  dsimp only at h
  split at h
  · cases h
    cases hx
  split at h
  · cases h
    cases hx
  · obtain ⟨w, hw, rfl⟩ := Option.map_eq_some_iff.mp h
    exact ⟨w, readDecimal?_eq_some_iff.mp hw, rfl⟩

/-! ## 6. Texts with white space around a number -/

/-- A text that is something with white space around it. -/
def Around (p : List Char → Prop) (s : String) : Prop :=
  ∃ before cs after, s.toList = before ++ cs ++ after ∧ (∀ c ∈ before, isBlank c = true) ∧
    (∀ c ∈ after, isBlank c = true) ∧ p cs

/-- Trimming leaves what the white space stands around. -/
theorem around_iff {p : List Char → Prop} (hsolid : ∀ cs, p cs → Solid cs) {s : String} :
    Around p s ↔ p (strip s.toList) := by
  constructor
  · rintro ⟨before, cs, after, hs, hbefore, hafter, hp⟩
    rw [hs, strip_surrounded hbefore hafter]
    · exact hp
    · exact fun c hc => hsolid cs hp c (List.mem_of_mem_head? hc)
    · exact fun c hc => hsolid cs hp c (List.mem_of_mem_getLast? hc)
  · intro h
    obtain ⟨before, after, hs, hbefore, hafter⟩ := exists_strip s.toList
    exact ⟨before, _, after, hs, hbefore, hafter, h⟩

/-- The number that a text denotes in decimal notation. -/
def Denotes (s : String) (w : Written) : Prop := Around (Decimal · w) s

/-- A text with a whole number, written with a sign or none and no more digits than are
    converted. -/
def IsShortWhole (s : String) : Prop := Around (fun cs => ∃ n, Whole cs n) s

theorem denotes_iff {s : String} {w : Written} : Denotes s w ↔ Decimal (strip s.toList) w :=
  around_iff fun _ h => h.solid

theorem isShortWhole_iff {s : String} : IsShortWhole s ↔ ∃ n, Whole (strip s.toList) n :=
  around_iff fun _ h => h.choose_spec.solid

/-- **A text denotes one number at most.** -/
theorem Denotes.unique {s : String} {w other : Written} (h : Denotes s w)
    (hother : Denotes s other) : w = other := by
  rw [denotes_iff, ← readDecimal?_eq_some_iff] at h hother
  exact Option.some.inj (h.symm.trans hother)

/-- A whole number is a decimal number, of the same value. -/
theorem Whole.decimal {cs : List Char} {n : Int} (h : Whole cs n) :
    ∃ w, Decimal cs w ∧ w.value = n := by
  cases h with
  | @mk sign cs negative ds hsign h =>
    have hdecimal := Decimal.mk hsign (.whole h) .none
    rw [List.append_nil] at hdecimal
    refine ⟨_, hdecimal, ?_⟩
    cases negative <;> simp [Written.value, signed]

end BooksGateway.Numeral
