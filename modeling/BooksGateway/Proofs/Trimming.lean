import BooksGateway.Text.Case
import BooksGateway.Text.Words

/-!
# Trimmed texts and the words before them

What is left of a text when its ends are dropped, and what a text looks like whose lower case begins
with a word. The letters of the word that stands before a token, and the blank behind it, are the
lower case of ASCII characters only.

* `exists_dropEnd`, `dropEnd_append`: a text is what is left and what was dropped;
* `strip_ne_nil`: a text with a character that is not blank has something left;
* `exists_strip`, `strip_surrounded`: what is left of a text stands between white space;
* `lowerRest_ascii`, `exists_of_lowerRest_prefix`: texts that begin with a word in any letter case.
-/

namespace BooksGateway.Text

/-! ## 1. The end of a text -/

/-- A text is what is left and what was dropped. -/
theorem exists_dropEnd (p : Char → Bool) (cs : List Char) :
    ∃ dropped, cs = dropEnd p cs ++ dropped ∧ ∀ c ∈ dropped, p c = true := by
  refine ⟨(cs.reverse.takeWhile p).reverse, ?_, fun c hc => ?_⟩
  · unfold dropEnd
    rw [← List.reverse_append, List.takeWhile_append_dropWhile, List.reverse_reverse]
  · exact List.all_eq_true.mp List.all_takeWhile c (List.mem_reverse.mp hc)

/-- What is left does not end in a character that is dropped. -/
theorem getLast?_dropEnd {p : Char → Bool} {cs : List Char} {c : Char}
    (h : (dropEnd p cs).getLast? = some c) : p c = false := by
  rw [dropEnd, List.getLast?_reverse] at h
  have hfirst := List.head?_dropWhile_not p cs.reverse
  rw [h] at hfirst
  exact hfirst

theorem dropEnd_append {p : Char → Bool} {cs dropped : List Char}
    (hdropped : ∀ c ∈ dropped, p c = true) (hleft : ∀ c, cs.getLast? = some c → p c = false) :
    dropEnd p (cs ++ dropped) = cs := by
  have hreverse : ∀ c ∈ dropped.reverse, p c = true := fun c hc =>
    hdropped c (List.mem_reverse.mp hc)
  have hkept : cs.reverse.dropWhile p = cs.reverse := by
    cases h : cs.reverse with
    | nil => rfl
    | cons c rest =>
      have hlast : cs.getLast? = some c := by
        rw [← List.head?_reverse, h]
        rfl
      rw [List.dropWhile_cons_of_neg (by rw [hleft c hlast]; decide)]
  rw [dropEnd, List.reverse_append, List.dropWhile_append_of_pos hreverse, hkept,
    List.reverse_reverse]

theorem begins_iff {start s : String} : begins start s = true ↔ ∃ rest, s = start ++ rest := by
  rw [begins, List.isPrefixOf_iff_prefix]
  constructor
  · rintro ⟨rest, hrest⟩
    refine ⟨String.ofList rest, String.toList_inj.mp ?_⟩
    rw [String.toList_append, String.toList_ofList, hrest]
  · rintro ⟨rest, rfl⟩
    rw [String.toList_append]
    exact List.prefix_append _ _

/-! ## 2. White space at the ends -/

/-- What is left of a text stands in it. -/
theorem strip_infix (cs : List Char) : strip cs <:+: cs := by
  obtain ⟨dropped, hdropped, _⟩ := exists_dropEnd isBlank (cs.dropWhile isBlank)
  have hleft : strip cs <+: cs.dropWhile isBlank := ⟨dropped, hdropped.symm⟩
  exact hleft.isInfix.trans (List.dropWhile_suffix isBlank).isInfix

theorem getLast?_strip {cs : List Char} {c : Char} (h : (strip cs).getLast? = some c) :
    isBlank c = false := getLast?_dropEnd h

theorem head?_strip {cs : List Char} {c : Char} (h : (strip cs).head? = some c) :
    isBlank c = false := by
  obtain ⟨dropped, hdropped, _⟩ := exists_dropEnd isBlank (cs.dropWhile isBlank)
  have hfirst := List.head?_dropWhile_not isBlank cs
  have hleft : (dropEnd isBlank (cs.dropWhile isBlank)).head? = some c := h
  rw [hdropped, List.head?_append, hleft] at hfirst
  exact hfirst

/-- **What is left of a text stands between white space.** -/
theorem exists_strip (cs : List Char) :
    ∃ before after, cs = before ++ strip cs ++ after ∧
      (∀ c ∈ before, isBlank c = true) ∧ ∀ c ∈ after, isBlank c = true := by
  obtain ⟨after, hafter, hblank⟩ := exists_dropEnd isBlank (cs.dropWhile isBlank)
  refine ⟨cs.takeWhile isBlank, after, ?_, fun c hc => ?_, hblank⟩
  · rw [List.append_assoc]
    exact (List.takeWhile_append_dropWhile.symm).trans (congrArg (cs.takeWhile isBlank ++ ·) hafter)
  · exact List.all_eq_true.mp List.all_takeWhile c hc

/-- **White space around a text that begins and ends with other characters is dropped.** -/
theorem strip_surrounded {before cs after : List Char} (hbefore : ∀ c ∈ before, isBlank c = true)
    (hafter : ∀ c ∈ after, isBlank c = true) (hfirst : ∀ c, cs.head? = some c → isBlank c = false)
    (hlast : ∀ c, cs.getLast? = some c → isBlank c = false) :
    strip (before ++ cs ++ after) = cs := by
  have hstart : (before ++ cs ++ after).dropWhile isBlank = (cs ++ after).dropWhile isBlank := by
    rw [List.append_assoc, List.dropWhile_append_of_pos hbefore]
  rw [strip, hstart]
  cases cs with
  | nil =>
    rw [List.nil_append, ← List.append_nil after, List.dropWhile_append_of_pos hafter]
    rfl
  | cons c rest =>
    rw [List.cons_append, List.dropWhile_cons_of_neg (by rw [hfirst c rfl]; decide),
      ← List.cons_append, dropEnd_append hafter hlast]

/-- **A text with a character that is not blank has something left.** -/
theorem strip_ne_nil {cs : List Char} {c : Char} (hmem : c ∈ cs) (hc : isBlank c = false) :
    strip cs ≠ [] := by
  intro hnil
  obtain ⟨dropped, hdropped, hblank⟩ := exists_dropEnd isBlank (cs.dropWhile isBlank)
  rw [show dropEnd isBlank (cs.dropWhile isBlank) = [] from hnil, List.nil_append] at hdropped
  rw [← List.takeWhile_append_dropWhile (p := isBlank) (l := cs), List.mem_append] at hmem
  have htrue : isBlank c = true := by
    rcases hmem with hstart | hrest
    · exact List.all_eq_true.mp List.all_takeWhile c hstart
    · exact hblank c (hdropped ▸ hrest)
  rw [hc] at htrue
  cases htrue

/-! ## 3. Words in any letter case -/

/-- The lower case of a character in a text. -/
def lowered (inWord : Bool) (c : Char) (rest : List Char) : List Char :=
  if c.toNat = 0x3A3 then [Char.ofNat (if inWord && !meetsCased rest then 0x3C2 else 0x3C3)]
  else lowerChar c

theorem lowerRest_cons (inWord : Bool) (c : Char) (rest : List Char) :
    lowerRest inWord (c :: rest) =
      lowered inWord c rest ++ lowerRest (if isSkipped c then inWord else isCased c) rest := rfl

theorem lowered_ne_nil (inWord : Bool) (c : Char) (rest : List Char) :
    lowered inWord c rest ≠ [] := by
  unfold lowered lowerChar
  split
  · exact List.cons_ne_nil _ _
  split
  · exact List.cons_ne_nil _ _
  split <;> exact List.cons_ne_nil _ _

/-- The lower case of an ASCII character. -/
theorem lowered_ascii {c : Char} (hc : c.toNat < 0x80) (inWord : Bool) (rest : List Char) :
    lowered inWord c rest = [c.toLower] := by
  have hall : ∀ n < 0x80, lowerChar (Char.ofNat n) = [(Char.ofNat n).toLower] := by decide +kernel
  have hchar := hall c.toNat hc
  rw [Char.ofNat_toNat] at hchar
  rw [lowered, if_neg (by omega), hchar]

theorem lowerRest_ascii {word : List Char} (hword : ∀ c ∈ word, c.toNat < 0x80) (inWord : Bool)
    (rest : List Char) :
    ∃ inside, lowerRest inWord (word ++ rest) = word.map Char.toLower ++ lowerRest inside rest := by
  induction word generalizing inWord with
  | nil => exact ⟨inWord, rfl⟩
  | cons c word ih =>
    obtain ⟨inside, hinside⟩ := ih (fun d hd => hword d (List.mem_cons_of_mem _ hd))
      (if isSkipped c then inWord else isCased c)
    refine ⟨inside, ?_⟩
    rw [List.cons_append, lowerRest_cons, lowered_ascii (hword c List.mem_cons_self), hinside]
    rfl

/-- Only ASCII characters turn into others. -/
theorem toLower_cases (c : Char) :
    c.toLower = c ∨ 0x41 ≤ c.toNat ∧ c.toNat ≤ 0x5A ∧ c.toLower.toNat = c.toNat + 0x20 := by
  by_cases hupper : 'A' ≤ c ∧ c ≤ 'Z'
  · refine .inr ⟨hupper.1, hupper.2, ?_⟩
    have hall : ∀ n ≤ 0x5A, 0x41 ≤ n → (Char.ofNat n).toLower.toNat = n + 0x20 := by decide +kernel
    have hchar := hall c.toNat hupper.2 hupper.1
    rwa [Char.ofNat_toNat] at hchar
  · exact .inl (dif_neg hupper)

/-- The code points of the blank and of the letters of the word before a token. -/
def plainCodes : List Nat := [0x20, 0x61, 0x62, 0x65, 0x72]

/-- None of these is a partner beyond ASCII. -/
theorem partner_lowerRuns_not_mem {code : Nat} (h : 0x80 ≤ code) :
    partner lowerRuns code ∉ plainCodes := by
  have hapart : ∀ plain ∈ plainCodes, plain < 0x80 ∧ ∀ r ∈ lowerRuns,
      (plain : Int) - r.shift < 0x80 ∨ (plain : Int) - r.shift < r.first ∨
        (r.last : Int) < plain - r.shift := by decide +kernel
  intro hmem
  obtain ⟨hascii, hruns⟩ := hapart _ hmem
  cases hfind : lowerRuns.find? (·.covers code) with
  | none =>
    have hpartner : partner lowerRuns code = code := by unfold partner; rw [hfind]
    omega
  | some r =>
    have hpartner : partner lowerRuns code = ((code : Int) + r.shift).toNat := by
      unfold partner; rw [hfind]
    have hrun := hruns r (List.mem_of_find?_eq_some hfind)
    have hcovers := List.find?_some hfind
    have hpositive : 0 < partner lowerRuns code :=
      (show ∀ plain ∈ plainCodes, 0 < plain by decide) _ hmem
    simp only [CaseRun.covers, Bool.and_eq_true, decide_eq_true_eq] at hcovers
    omega

theorem toNat_ofNat_cases (n : Nat) : (Char.ofNat n).toNat = n ∨ (Char.ofNat n).toNat = 0 := by
  unfold Char.ofNat
  by_cases hvalid : n.isValidChar
  · rw [dif_pos hvalid]
    exact .inl rfl
  · rw [dif_neg hvalid]
    exact .inr rfl

/-- **The blank and the letters of the word before a token are the lower case of ASCII characters
    only.** -/
theorem ascii_of_lowered {inWord : Bool} {c d : Char} {rest more : List Char}
    (hd : d.toNat ∈ plainCodes) (h : lowered inWord c rest = d :: more) :
    c.toNat < 0x80 ∧ c.toLower = d := by
  by_cases hascii : c.toNat < 0x80
  · rw [lowered_ascii hascii, List.cons.injEq] at h
    exact ⟨hascii, h.1⟩
  · exfalso
    unfold lowered at h
    by_cases hsigma : c.toNat = 0x3A3
    · rw [if_pos hsigma, List.cons.injEq] at h
      rw [← h.1] at hd
      revert hd
      split <;> decide
    rw [if_neg hsigma, lowerChar, if_neg hascii] at h
    by_cases hdotted : c.toNat = 0x130
    · rw [if_pos hdotted, List.cons.injEq] at h
      rw [← h.1] at hd
      revert hd
      decide
    · rw [if_neg hdotted, List.cons.injEq] at h
      rw [← h.1] at hd
      rcases toNat_ofNat_cases (partner lowerRuns c.toNat) with hcode | hcode
      · rw [hcode] at hd
        exact partner_lowerRuns_not_mem (by omega) hd
      · rw [hcode] at hd
        revert hd
        decide

/-- **Where the lower case of a text begins with a plain word, the text begins with that word** in
    some letter case. -/
theorem exists_of_lowerRest_prefix {word : List Char} (hword : ∀ d ∈ word, d.toNat ∈ plainCodes)
    {inWord : Bool} {cs : List Char} (h : word <+: lowerRest inWord cs) :
    ∃ start rest, cs = start ++ rest ∧ start.map Char.toLower = word := by
  -- on the word: each of its characters is the lower case of one ASCII character
  induction word generalizing inWord cs with
  | nil => exact ⟨[], cs, rfl, rfl⟩
  | cons d word ih =>
    cases cs with
    | nil => cases List.prefix_nil.mp h
    | cons c rest =>
      rw [lowerRest_cons] at h
      obtain ⟨e, more, hlowered⟩ := List.exists_cons_of_ne_nil (lowered_ne_nil inWord c rest)
      have hfirst : d = e := by
        rw [hlowered] at h
        exact (List.cons_prefix_cons.mp h).1
      obtain ⟨hascii, hlower⟩ :=
        ascii_of_lowered (hword d List.mem_cons_self) (hfirst ▸ hlowered)
      rw [lowered_ascii hascii] at h
      obtain ⟨start, rest, rfl, hstart⟩ :=
        ih (fun f hf => hword f (List.mem_cons_of_mem _ hf)) (List.cons_prefix_cons.mp h).2
      exact ⟨c :: start, rest, rfl, by rw [List.map_cons, hlower, hstart]⟩

end BooksGateway.Text
