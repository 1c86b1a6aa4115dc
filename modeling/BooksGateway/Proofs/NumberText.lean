import BooksGateway.Value.Display

/-!
# The characters of numbers in text

The text of a number consists of digits, signs, points and the letters of `e`, `inf` and `nan`, and
it is never empty. So it can stand bare wherever none of these characters ends a literal.
-/

namespace BooksGateway

/-- The characters in texts of numbers. -/
def Numeral.isTextChar (c : Char) : Bool :=
  c.isDigit || ['-', '+', '.', 'e', 'i', 'n', 'f', 'a'].contains c

/-- A row of characters that stands in texts of numbers. -/
def Numeral.OnlyText (cs : List Char) : Prop := ∀ c ∈ cs, isTextChar c = true

instance (cs : List Char) : Decidable (Numeral.OnlyText cs) :=
  decidable_of_iff (cs.all Numeral.isTextChar = true) List.all_eq_true

namespace Numeral

theorem onlyText_append {cs ds : List Char} :
    OnlyText (cs ++ ds) ↔ OnlyText cs ∧ OnlyText ds := List.forall_mem_append

theorem onlyText_cons {c : Char} {cs : List Char} :
    OnlyText (c :: cs) ↔ isTextChar c = true ∧ OnlyText cs := List.forall_mem_cons

theorem onlyText_replicate_zero (n : Nat) : OnlyText (List.replicate n '0') := by
  intro c hc
  rw [List.eq_of_mem_replicate hc]
  rfl

theorem onlyText_digits (n : Nat) : OnlyText (Nat.toDigits 10 n) := by
  intro c hc
  unfold isTextChar
  rw [Nat.isDigit_of_mem_toDigits (by decide) (by decide) hc, Bool.true_or]

/-! ## 1. Whole numbers -/

theorem toList_toString_nat (n : Nat) : (toString (n : Int)).toList = Nat.toDigits 10 n :=
  Nat.toList_repr

theorem toString_int_ne_nil (n : Int) : (toString n).toList ≠ [] := by
  cases n with
  | ofNat n =>
    rw [Int.ofNat_eq_natCast, toList_toString_nat]
    exact Nat.toDigits_ne_nil
  | negSucc n =>
    have htext : toString (Int.negSucc n) = "-" ++ (n + 1).repr := rfl
    rw [htext, String.toList_append]
    exact List.cons_ne_nil _ _

theorem onlyText_int (n : Int) : OnlyText (toString n).toList := by
  cases n with
  | ofNat n =>
    rw [Int.ofNat_eq_natCast, toList_toString_nat]
    exact onlyText_digits n
  | negSucc n =>
    have htext : toString (Int.negSucc n) = "-" ++ (n + 1).repr := rfl
    rw [htext, String.toList_append, onlyText_append, Nat.toList_repr]
    exact ⟨by decide, onlyText_digits _⟩

/-! ## 2. Floating-point numbers -/

theorem onlyText_exponent (power : Int) : OnlyText (Binary64.renderExponent power) := by
  have hdigits := onlyText_digits power.natAbs
  unfold Binary64.renderExponent decimalDigits
  simp only [onlyText_cons]
  refine ⟨rfl, ?_, ?_⟩
  · split <;> rfl
  · split
    · exact onlyText_cons.mpr ⟨rfl, hdigits⟩
    · exact hdigits

theorem onlyText_layOut (style : FloatStyle) {ds : List Char} (h : OnlyText ds) (power : Int) :
    OnlyText (Binary64.layOut style ds power) := by
  have htake : ∀ n, OnlyText (ds.take n) := fun n c hc => h c (List.mem_of_mem_take hc)
  have hdrop : ∀ n, OnlyText (ds.drop n) := fun n c hc => h c (List.mem_of_mem_drop hc)
  unfold Binary64.layOut
  split
  · split
    · rename_i p _
      refine onlyText_append.mpr ⟨onlyText_append.mpr ⟨htake _, onlyText_replicate_zero _⟩, ?_⟩
      refine onlyText_cons.mpr ⟨rfl, ?_⟩
      split
      · exact onlyText_replicate_zero 1
      · exact hdrop _
    · refine onlyText_cons.mpr ⟨rfl, onlyText_cons.mpr ⟨rfl, ?_⟩⟩
      exact onlyText_append.mpr ⟨onlyText_replicate_zero _, h⟩
  · refine onlyText_append.mpr ⟨onlyText_append.mpr ⟨htake _, ?_⟩, onlyText_exponent power⟩
    split
    · exact onlyText_replicate_zero 0
    · exact onlyText_cons.mpr ⟨rfl, hdrop _⟩

theorem layOut_ne_nil (style : FloatStyle) (ds : List Char) (power : Int) :
    Binary64.layOut style ds power ≠ [] := by
  unfold Binary64.layOut Binary64.renderExponent
  split
  · split <;> simp
  · simp

theorem onlyText_renderUnits (style : FloatStyle) (units : Nat) :
    OnlyText (Binary64.renderUnits style units) := by
  unfold Binary64.renderUnits
  split
  · decide
  · refine onlyText_layOut style (fun c hc => ?_) _
    refine onlyText_digits (Binary64.shortest units).digits c ?_
    have hmem := List.mem_reverse.mp hc
    exact List.mem_reverse.mp ((List.dropWhile_sublist _).mem hmem)

theorem renderUnits_ne_nil (style : FloatStyle) (units : Nat) :
    Binary64.renderUnits style units ≠ [] := by
  unfold Binary64.renderUnits
  split
  · exact List.cons_ne_nil _ _
  · exact layOut_ne_nil _ _ _

theorem onlyText_sign (negative : Bool) :
    OnlyText (if negative then "-" else "" : String).toList := by
  cases negative <;> decide

theorem onlyText_float (x : Binary64) : OnlyText (Value.floatText x).toList := by
  unfold Value.floatText Binary64.render
  cases x with
  | nan => decide
  | infinite negative =>
    simp only [String.toList_append]
    exact onlyText_append.mpr ⟨onlyText_sign negative, by decide⟩
  | finite negative units =>
    simp only [String.toList_append, String.toList_ofList]
    exact onlyText_append.mpr ⟨onlyText_sign negative, onlyText_renderUnits _ units⟩

theorem floatText_ne_nil (x : Binary64) : (Value.floatText x).toList ≠ [] := by
  unfold Value.floatText Binary64.render
  cases x with
  | nan => decide
  | infinite negative => cases negative <;> decide
  | finite negative units =>
    simp only [String.toList_append, String.toList_ofList]
    exact List.append_ne_nil_of_right_ne_nil _ (renderUnits_ne_nil _ units)

end Numeral

end BooksGateway
