import BooksGateway.Proofs.NumberText
import BooksGateway.Proofs.Reading
import BooksGateway.Proofs.Soundness

/-!
# Reading literals back

A rendered literal with anything after it that ends a literal is read back as what it stands for,
and nothing of what stands after it is lost.

* `readQuoted_flatMap`: what quoting escapes is read back, whatever follows the last quote;
* `readItems_map`: the items of a list are read back up to the closing parenthesis;
* `readLiteral_of_fits`: a value that fits an operator is read back.
-/

namespace BooksGateway.Reading

open Validation

/-! ## 1. Marks and runs of characters -/

theorem after?_append (mark : String) (rest : List Char) :
    after? mark (mark.toList ++ rest) = some rest := by
  unfold after?
  rw [if_pos (List.isPrefixOf_iff_prefix.mpr (List.prefix_append _ _)), List.drop_left]

/-- What stands next, if anything, does not satisfy `p`. -/
def Stops (p : Char → Bool) (rest : List Char) : Prop := ∀ c, rest.head? = some c → p c = false

theorem stops_cons {p : Char → Bool} {c : Char} (h : p c = false) (rest : List Char) :
    Stops p (c :: rest) := by
  intro d hd
  cases hd
  exact h

theorem takeWhile_of_stops {p : Char → Bool} {rest : List Char} (h : Stops p rest) :
    rest.takeWhile p = [] := by
  cases rest with
  | nil => rfl
  | cons c cs => exact List.takeWhile_cons_of_neg (by simp [h c rfl])

theorem dropWhile_of_stops {p : Char → Bool} {rest : List Char} (h : Stops p rest) :
    rest.dropWhile p = rest := by
  cases rest with
  | nil => rfl
  | cons c cs => exact List.dropWhile_cons_of_neg (by simp [h c rfl])

theorem readWhile_append {p : Char → Bool} {cs rest : List Char} (hne : cs ≠ [])
    (hcs : ∀ c ∈ cs, p c = true) (hrest : Stops p rest) :
    readWhile p (cs ++ rest) = some (cs, rest) := by
  unfold readWhile
  rw [List.takeWhile_append_of_pos hcs, List.dropWhile_append_of_pos hcs, takeWhile_of_stops hrest,
    dropWhile_of_stops hrest, List.append_nil, if_neg (by simpa using hne)]

/-! ## 2. Quoted literals -/

/-- A character that neither ends a quoted literal nor escapes its end stands for itself. -/
theorem readQuoted_cons {c : Char} {cs : List Char} (hquote : c ≠ '\'')
    (hslash : c = '\\' → cs.head? ≠ some '\'') :
    readQuoted (c :: cs) = (readQuoted cs).map fun (s, tail) => (c :: s, tail) := by
  rw [readQuoted]
  · exact hquote
  · rintro rest rfl rfl
    exact hslash rfl rfl

/-- What is escaped begins with no quote. -/
theorem head?_flatMap_ne_quote {s : List Char} (hne : s ≠ []) (rest : List Char) :
    (s.flatMap Literal.quotedChar ++ rest).head? ≠ some '\'' := by
  cases s with
  | nil => exact absurd rfl hne
  | cons c cs =>
    unfold Literal.quotedChar
    by_cases hc : c = '\'' <;> simp [hc]

/-- **What quoting escapes is read back**, unless it ends in a backslash, which would escape the
    last quote. -/
theorem readQuoted_flatMap {s : List Char} (hlast : s.getLast? ≠ some '\\') (rest : List Char) :
    readQuoted (s.flatMap Literal.quotedChar ++ '\'' :: rest) = some (s, rest) := by
  induction s with
  | nil => rfl
  | cons c cs ih =>
    have hrest : readQuoted (cs.flatMap Literal.quotedChar ++ '\'' :: rest) = some (cs, rest) := by
      refine ih fun h => hlast ?_
      rw [List.getLast?_cons, h]
      rfl
    rw [List.flatMap_cons, List.append_assoc]
    by_cases hquote : c = '\''
    · subst hquote
      show (readQuoted (cs.flatMap Literal.quotedChar ++ '\'' :: rest)).map _ = _
      rw [hrest]
      rfl
    · rw [Literal.quotedChar, if_neg hquote, List.singleton_append, readQuoted_cons hquote, hrest]
      · rfl
      · -- a backslash is not the last character, so what follows it was escaped as well
        rintro rfl
        refine head?_flatMap_ne_quote (fun hnil => hlast ?_) _
        rw [hnil]
        rfl

/-! ## 3. Single literals -/

/-- What the literal of a single value is read back as. -/
def single : Value → ReadLiteral
  | .str s => .quoted s
  | v => .bare (Literal.render v)

/-- What the literal of a value is read back as. -/
def literalOf : Value → ReadLiteral
  | .list items => .list (items.map single)
  | v => single v

/-- The texts in a value: itself, or the items of a list. -/
def texts : Value → List String
  | .str s => [s]
  | .list items => items.filterMap Value.str?
  | _ => []

/-- No text in a value ends in a backslash. -/
def IsClosed (v : Value) : Prop := ∀ s ∈ texts v, s.toList.getLast? ≠ some '\\'

instance (v : Value) : Decidable (IsClosed v) :=
  inferInstanceAs (Decidable (∀ s ∈ texts v, s.toList.getLast? ≠ some '\\'))

theorem isClosed_of_mem {items : List Value} (h : IsClosed (.list items)) {v : Value}
    (hv : v ∈ items) : ∀ s, v = .str s → s.toList.getLast? ≠ some '\\' := by
  rintro s rfl
  exact h s (List.mem_filterMap.mpr ⟨_, hv, rfl⟩)

/-- A character of a text that can stand bare: it neither ends a bare literal nor opens a literal of
    another form. -/
def isPlain (c : Char) : Bool := isBare c && c != '\'' && c != '('

theorem isBare_of_isPlain {c : Char} (h : isPlain c = true) : isBare c = true := by
  simp only [isPlain, Bool.and_eq_true] at h
  exact h.1.1

theorem isPlain_of_isTextChar {c : Char} (h : Numeral.isTextChar c = true) : isPlain c = true := by
  simp only [isPlain, isBare, Bool.and_eq_true, bne_iff_ne]
  refine ⟨⟨⟨⟨?_, ?_⟩, ?_⟩, ?_⟩, ?_⟩
  all_goals
    rintro rfl
    cases h

/-- A text that can stand bare. -/
structure IsBareText (cs : List Char) : Prop where
  /-- It is not empty. -/
  ne_nil : cs ≠ []
  /-- All its characters are plain. -/
  plain : cs.all isPlain = true

theorem IsBareText.of_onlyText {cs : List Char} (hne : cs ≠ []) (h : Numeral.OnlyText cs) :
    IsBareText cs where
  ne_nil := hne
  plain := List.all_eq_true.mpr fun c hc => isPlain_of_isTextChar (h c hc)

theorem IsBareText.of_flag (b : Bool) :
    IsBareText (if b then "true" else "false" : String).toList := by
  cases b <;> exact ⟨List.cons_ne_nil _ _, rfl⟩

/-- Numbers and truth values stand bare. -/
theorem isBareText_render {kind : FieldKind} {v : Value} (hkind : IsOfKind kind v)
    (hstr : ∀ s, v ≠ .str s) : IsBareText (Literal.render v).toList := by
  cases hkind with
  | text s | date s => exact absurd rfl (hstr s)
  | whole n =>
    rw [Literal.render]
    exact .of_onlyText (Numeral.toString_int_ne_nil n) (Numeral.onlyText_int n)
  | decimal x =>
    rw [Literal.render]
    exact .of_onlyText (Numeral.floatText_ne_nil x) (Numeral.onlyText_float x)
  | flag b =>
    rw [Literal.render]
    exact .of_flag b

theorem readLiteral_bare {cs rest : List Char} (hcs : IsBareText cs) (hrest : Stops isBare rest)
    (room : Nat) :
    readLiteral (room + 1) (cs ++ rest) = some (.bare (String.ofList cs), rest) := by
  have hplain := List.all_eq_true.mp hcs.plain
  obtain ⟨c, tail, rfl⟩ := List.exists_cons_of_ne_nil hcs.ne_nil
  have hfirst := hplain c List.mem_cons_self
  rw [readLiteral, readWhile_append hcs.ne_nil (fun d hd => isBare_of_isPlain (hplain d hd)) hrest]
  · rfl
  · rintro _ ⟨⟩
    cases hfirst
  · rintro _ ⟨⟩
    cases hfirst

theorem readLiteral_quote {s : String} (hlast : s.toList.getLast? ≠ some '\\') (room : Nat)
    (rest : List Char) :
    readLiteral (room + 1) ((Literal.quote s).toList ++ rest) = some (.quoted s, rest) := by
  have hchars : (Literal.quote s).toList ++ rest =
      '\'' :: (s.toList.flatMap Literal.quotedChar ++ '\'' :: rest) := by
    simp [Literal.quote]
  rw [hchars, readLiteral, readQuoted_flatMap hlast, Option.map_some]
  show some (ReadLiteral.quoted (String.ofList s.toList), rest) = _
  rw [String.ofList_toList]

/-- **The literal of a single value is read back.** -/
theorem readLiteral_single {kind : FieldKind} {v : Value} (hkind : IsOfKind kind v)
    (hlast : ∀ s, v = .str s → s.toList.getLast? ≠ some '\\') {rest : List Char}
    (hrest : Stops isBare rest) (room : Nat) :
    readLiteral (room + 1) ((Literal.render v).toList ++ rest) = some (single v, rest) := by
  by_cases hstr : ∃ s, v = .str s
  · obtain ⟨s, rfl⟩ := hstr
    rw [Literal.render, readLiteral_quote (hlast s rfl)]
    rfl
  · have hne : ∀ s, v ≠ .str s := fun s hs => hstr ⟨s, hs⟩
    rw [readLiteral_bare (isBareText_render hkind hne) hrest, String.ofList_toList]
    cases v with
    | str s => exact absurd rfl (hne s)
    | _ => rfl

/-! ## 4. Lists -/

theorem joined_cons_cons (separator part next : String) (rest : List String) :
    Value.joined separator (part :: next :: rest) =
      part ++ separator ++ Value.joined separator (next :: rest) := rfl

/-- There are hardly more parts than characters. -/
theorem length_le_joined {separator : String} (hne : separator.toList ≠ []) (parts : List String) :
    parts.length ≤ (Value.joined separator parts).toList.length + 1 := by
  have hpos := List.length_pos_iff.mpr hne
  induction parts with
  | nil => exact Nat.zero_le _
  | cons part rest ih =>
    cases rest with
    | nil => exact Nat.le_add_left _ _
    | cons next more =>
      rw [joined_cons_cons, List.length_cons]
      simp only [String.toList_append, List.length_append]
      omega

/-- **The items of a list are read back** up to the closing parenthesis. -/
theorem readItems_map {kind : FieldKind} {items : List Value} (hne : items ≠ [])
    (hkind : ∀ v ∈ items, IsOfKind kind v)
    (hlast : ∀ v ∈ items, ∀ s, v = .str s → s.toList.getLast? ≠ some '\\') (rest : List Char)
    {room : Nat} (hroom : items.length < room) :
    readItems room ((Value.joined ", " (items.map Literal.render)).toList ++ ')' :: rest) =
      some (items.map single, rest) := by
  induction items generalizing room with
  | nil => exact absurd rfl hne
  | cons v more ih =>
    obtain ⟨room, rfl⟩ : ∃ left, room = left + 2 := ⟨room - 2, by simp at hroom; omega⟩
    have hitem := fun tail (htail : Stops isBare tail) =>
      readLiteral_single (hkind v List.mem_cons_self) (hlast v List.mem_cons_self) htail room
    cases more with
    | nil =>
      rw [readItems, List.map_singleton, Value.joined, hitem _ (stops_cons rfl rest)]
      rfl
    | cons w others =>
      have hless : (w :: others).length < room + 1 := Nat.lt_of_succ_lt_succ hroom
      have hmore := ih (List.cons_ne_nil _ _) (fun u hu => hkind u (List.mem_cons_of_mem _ hu))
        (fun u hu => hlast u (List.mem_cons_of_mem _ hu)) hless
      have hcomma : (", " : String).toList = [',', ' '] := rfl
      rw [readItems, List.map_cons, List.map_cons, joined_cons_cons, ← List.map_cons]
      simp only [String.toList_append, List.append_assoc, hcomma, List.cons_append,
        List.nil_append]
      rw [hitem _ (stops_cons rfl _)]
      simp only [hmore]
      rfl

/-- **The literal of a value that fits an operator is read back.** -/
theorem readLiteral_of_fits {kind : FieldKind} {operator : String} {v : Value}
    (hfits : Fits kind operator v) (hclosed : IsClosed v) {rest : List Char}
    (hrest : Stops isBare rest) {room : Nat} (hroom : (Literal.render v).toList.length ≤ room) :
    readLiteral (room + 1) ((Literal.render v).toList ++ rest) = some (literalOf v, rest) := by
  cases hfits with
  | @items items hne hkind =>
    have hrender : (Literal.render (.list items)).toList =
        '(' :: (Value.joined ", " (items.map Literal.render)).toList ++ [')'] := by
      rw [Literal.render, Literal.renderAll_eq_map]
      simp
    have hlength := length_le_joined (show (", " : String).toList ≠ [] by decide)
      (items.map Literal.render)
    rw [hrender] at hroom ⊢
    simp only [List.length_map, List.cons_append, List.length_cons, List.length_append]
      at hlength hroom
    simp only [List.cons_append, List.append_assoc, List.nil_append]
    rw [readLiteral, readItems_map hne hkind (fun v => isClosed_of_mem hclosed) rest (by omega)]
    rfl
  | single hop hkind =>
    have hlast : ∀ s, v = .str s → s.toList.getLast? ≠ some '\\' := by
      rintro s rfl
      exact hclosed s List.mem_cons_self
    rw [readLiteral_single hkind hlast hrest]
    cases v with
    | list => cases hkind
    | _ => rfl

end BooksGateway.Reading
