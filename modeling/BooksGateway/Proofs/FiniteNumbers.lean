import BooksGateway.Proofs.Enforcement
import BooksGateway.Proofs.Precision
import BooksGateway.Proofs.Shortest
import BooksGateway.Proofs.Soundness

/-!
# Which numbers reach a query

A number in a condition is written in decimal notation exactly if it is finite. A text that is given
for a number never brings in another: it is read as a finite number or turned down, however the
criteria are written. A floating-point number that is given as such is not looked at, so what is not
finite stands in the query by its name.

* `Literal.exists_decimal_of_finite`, `Literal.not_decimal_of_notFinite`: the literals of numbers;
* `FieldKind.isOfKind_numberOfText_iff`: the texts that are read as numbers;
* `exists_givesNumber`, `exists_condition_of_givesNumber`: where the numbers in a query come from;
* `onlyFinite_iff`: which numbers reach a query.
-/

namespace BooksGateway

open Binary64 Validation

/-! ## 1. Literals of numbers -/

namespace Value

/-- The numbers that are not finite. -/
inductive NotFinite : Value → Prop where
  /-- What is not a number. -/
  | nan : NotFinite (.float .nan)
  /-- An infinity. -/
  | infinite (negative : Bool) : NotFinite (.float (.infinite negative))

theorem NotFinite.isNumber {v : Value} (h : v.NotFinite) : v.isNumber = true := by
  cases h <;> rfl

/-- What a comparison looks at one by one: the items of a list, or else the value itself. -/
def parts : Value → List Value
  | .list items => items
  | v => [v]

end Value

namespace Literal

/-- The number that decimal notation stands for, as a value: a whole number is the value of the
    notation, and a floating-point number of the format is what the notation is read back as. -/
inductive StandsFor (w : Numeral.Written) : Value → Prop where
  /-- A whole number. -/
  | whole {n : Int} (h : w.value = n) : StandsFor w (.int n)
  /-- A floating-point number. -/
  | decimal {negative : Bool} {units : Nat}
    (h : IsMagnitude units → units < unitsLimit →
      ofDecimal w.negative w.coefficient w.exponent = .finite negative units) :
    StandsFor w (.float (.finite negative units))

variable {v : Value}

theorem exists_decimal_of_finite (hnumber : v.isNumber = true) (h : ¬ v.NotFinite) :
    ∃ w, Numeral.Decimal (render v).toList w ∧ StandsFor w v := by
  cases v with
  | int n =>
    obtain ⟨w, hw, hvalue⟩ := Numeral.exists_decimal_int n
    rw [render]
    exact ⟨w, hw, .whole hvalue⟩
  | float x =>
    cases x with
    | nan => exact absurd .nan h
    | infinite negative => exact absurd (.infinite negative) h
    | finite negative units =>
      obtain ⟨w, hw, hback⟩ := exists_decimal_finite negative units
      rw [render]
      exact ⟨w, hw, .decimal hback⟩
  | _ => cases hnumber

/-- The names of numbers that are not finite are not decimal notation. -/
theorem not_decimal_of_notFinite (h : v.NotFinite) (w : Numeral.Written) :
    ¬ Numeral.Decimal (render v).toList w := by
  intro hw
  have hread := Numeral.readDecimal?_eq_some_iff.mpr hw
  have hnone : Numeral.readDecimal? (render v).toList = none := by
    cases h with
    | nan => rfl
    | infinite negative => cases negative <;> rfl
  rw [hnone] at hread
  cases hread

end Literal

/-! ## 2. Texts given for numbers -/

/-- What is of a kind is a single value. -/
theorem Validation.parts_of_isOfKind {kind : FieldKind} {v : Value} (h : IsOfKind kind v) :
    v.parts = [v] := by
  cases h <;> rfl

/-- A text that is read as a finite number: a whole number of few enough digits, or decimal notation
    that is rounded to a finite number. -/
def Numeral.IsNumberText (s : String) : Prop :=
  IsShortWhole s ∨
    ∃ w, Denotes s w ∧ (ofDecimal w.negative w.coefficient w.exponent).isFinite = true

/-- A text that names a number that is not finite: a sign or none, and one of three words in any
    letter case, with white space around them. -/
def Numeral.NamesNotFinite (s : String) : Prop :=
  String.ofList ((readSign (Text.strip s.toList)).2.map Char.toLower) ∈ ["inf", "infinity", "nan"]

instance (s : String) : Decidable (Numeral.NamesNotFinite s) :=
  inferInstanceAs (Decidable (_ ∈ ["inf", "infinity", "nan"]))

theorem Numeral.NamesNotFinite.not_isNumberText {s : String} (h : NamesNotFinite s) :
    ¬ IsNumberText s := by
  intro htext
  obtain ⟨w, hw⟩ : ∃ w, Decimal (Text.strip s.toList) w := by
    rcases htext with hshort | ⟨w, hw, _⟩
    · obtain ⟨n, hn⟩ := isShortWhole_iff.mp hshort
      obtain ⟨w, hw, _⟩ := hn.decimal
      exact ⟨w, hw⟩
    · exact ⟨w, denotes_iff.mp hw⟩
  unfold NamesNotFinite at h
  generalize Text.strip s.toList = cs at hw h
  cases hw with
  | mk hsign hmantissa hexponent =>
    rw [hmantissa.readSign_append hsign] at h
    simp only [List.mem_cons, List.not_mem_nil, or_false] at h
    rcases h with h | h | h
    · exact hmantissa.ne_word (.inl rfl) h
    · exact hmantissa.ne_word (.inl rfl) h
    · exact hmantissa.ne_word (.inr rfl) h

namespace FieldKind

/-- **A text is read as a finite number, or stays as it is.** -/
theorem numberOfText_read_or_kept (s : String) :
    Numeral.IsNumberText s ∧ IsOfKind .number (numberOfText s) ∧
        ¬ (numberOfText s).NotFinite ∨
      ¬ Numeral.IsNumberText s ∧ numberOfText s = .str s := by
  by_cases hshort : Numeral.IsShortWhole s
  · obtain ⟨n, hn⟩ := Numeral.isShortWhole_iff.mp hshort
    rw [numberOfText_of_whole hn]
    exact .inl ⟨.inl hshort, .whole n, nofun⟩
  by_cases hread : ∀ x, Numeral.readFloat? (Text.strip s.toList) = some x → x.isFinite = false
  · refine .inr ⟨?_, numberOfText_of_not_finite hshort hread⟩
    rintro (hwhole | ⟨w, hw, hfinite⟩)
    · exact hshort hwhole
    · have hdecimal := Numeral.readFloat?_of_decimal (Numeral.stripPadding_strip _)
        (Numeral.denotes_iff.mp hw)
      rw [hread _ hdecimal] at hfinite
      cases hfinite
  · simp only [not_forall, Bool.not_eq_false] at hread
    obtain ⟨x, hx, hfinite⟩ := hread
    obtain ⟨w, hw, hrounds⟩ :=
      Numeral.decimal_of_readFloat? (Numeral.stripPadding_strip _) hx hfinite
    refine .inl ⟨.inr ⟨w, Numeral.denotes_iff.mpr hw, hrounds ▸ hfinite⟩, ?_⟩
    obtain ⟨fault, hfault⟩ := exists_fault_of_not_isShortWhole hshort
    unfold numberOfText
    rw [hfault, hx]
    dsimp only
    rw [if_pos hfinite]
    cases x.toInt? with
    | some n => exact ⟨.whole n, nofun⟩
    | none =>
      refine ⟨.decimal x, ?_⟩
      rintro (_ | _) <;> cases hfinite

theorem isOfKind_numberOfText_iff {s : String} :
    IsOfKind .number (numberOfText s) ↔ Numeral.IsNumberText s := by
  rcases numberOfText_read_or_kept s with ⟨htext, hkind, _⟩ | ⟨hnot, hsame⟩
  · exact iff_of_true hkind htext
  · rw [hsame]
    exact iff_of_false nofun hnot

/-- Turning values into numbers neither makes nor removes a number that is not finite. -/
theorem notFinite_toNumber_iff {v : Value} : (toNumber v).NotFinite ↔ v.NotFinite := by
  cases v with
  | str s =>
    refine iff_of_false ?_ nofun
    rcases numberOfText_read_or_kept s with ⟨_, _, hfinite⟩ | ⟨_, hsame⟩
    · exact hfinite
    · show ¬ (numberOfText s).NotFinite
      rw [hsame]
      exact nofun
  | bool b => exact iff_of_false nofun nofun
  | _ => exact Iff.rfl

/-- Turning a value into numbers turns its parts. -/
theorem parts_coerce_number (v : Value) :
    (FieldKind.number.coerce v).parts = v.parts.map toNumber := by
  cases v with
  | str s =>
    show (numberOfText s).parts = [numberOfText s]
    rcases numberOfText_read_or_kept s with ⟨_, hkind, _⟩ | ⟨_, hsame⟩
    · exact parts_of_isOfKind hkind
    · rw [hsame]
      rfl
  | _ => rfl

end FieldKind

/-! ## 3. Where the numbers in a query come from -/

theorem Validation.isOfKind_of_mem_parts {kind : FieldKind} {operator : String} {v part : Value}
    (h : Fits kind operator v) (hpart : part ∈ v.parts) : IsOfKind kind part := by
  cases h with
  | items _ hkind => exact hkind part hpart
  | single _ hkind =>
    rw [parts_of_isOfKind hkind] at hpart
    rw [List.mem_singleton.mp hpart]
    exact hkind

theorem Validation.kind_of_isNumber {kind : FieldKind} {v : Value} (hkind : IsOfKind kind v)
    (hnumber : v.isNumber = true) : kind = .number := by
  cases hkind with
  | whole | decimal => rfl
  | _ => cases hnumber

namespace Enforcement

/-- A value that an entry gives, by itself or in a list, for a field that holds numbers. -/
inductive GivesNumber (e : Entity) : Value → Value → Prop where
  /-- The entry names the field. -/
  | intro {entry : Fields} {name : String} {spec : FieldSpec} {v : Value}
    (hfield : Entry.field entry = .str name) (hspec : e.fields.find? name = some spec)
    (hkind : spec.kind = .number) (hv : v ∈ (Entry.value entry).parts) :
    GivesNumber e (.obj entry) v

variable {e : Entity} {raw : Value} {criteria : Criteria} {q : Query}

theorem parts_of_conditionOf? {entry : Fields} {name : String} {spec : FieldSpec} {c : Condition}
    (hfield : Entry.field entry = .str name) (hspec : e.fields.find? name = some spec)
    (hkind : spec.kind = .number) (hc : conditionOf? e (.obj entry) = some c) :
    c.value.parts = (Entry.value entry).parts.map FieldKind.toNumber := by
  cases hc
  rw [hfield]
  show (coerceFor (e.fields.find? name) (Entry.value entry)).parts = _
  rw [hspec]
  show (spec.kind.coerce (Entry.value entry)).parts = _
  rw [hkind, FieldKind.parts_coerce_number]

/-- In accepted criteria every listed condition fits its field. -/
theorem fits_of_listed (hprepare : Query.prepare e raw = .ok criteria) {entry : Value}
    (hentry : entry ∈ listed raw) {c : Condition} (hc : conditionOf? e entry = some c) :
    ∃ name spec operator, c.field = .str name ∧ e.fields.find? name = some spec ∧
      Fits spec.kind operator c.value := by
  have hentries := wellFormed_of_prepare hprepare
  have hmem := List.mem_map_of_mem (f := conditionOf? e) hentry
  rw [← map_conditionOf?_normalize hentries] at hmem
  obtain ⟨kept, hkept, hsame⟩ := List.mem_map.mp hmem
  obtain ⟨hnormal, hcondition⟩ := List.mem_filter.mp hkept
  rw [hc] at hsame
  cases kept with
  | obj fields =>
    have hdirective : Entry.isDirective fields = false := by simpa [isCondition] using hcondition
    have hwell := hentries _ hnormal
    rw [FieldTable.coerceEntry, if_neg (Bool.eq_false_iff.mp hdirective)] at hwell
    have hfilter : Query.isFilter (e.fields.coerceFilter fields) = true := by
      rw [FieldTable.isFilter_coerceFilter]
      simpa [Entry.isDirective_eq_not_isFilter] using hdirective
    have hcond : c = Query.conditionOf (e.fields.coerceFilter fields) := by
      rw [FieldTable.conditionOf_coerceFilter]
      exact (Option.some.inj hsame).symm
    cases hwell with
    | directive hd _ => simp [Query.isFilter, hd] at hfilter
    | filter hfits =>
      rw [hcond]
      exact ⟨_, _, _, hfits.field, hfits.known, hfits.value⟩
  | _ => cases hsame

/-- A number in a condition is what was given for its field, turned into a number. -/
theorem exists_givesNumber (hprepare : Query.prepare e raw = .ok criteria)
    (hquery : Query.ofCriteria e.name criteria = .ok q) (hrows : q.countOnly = false)
    {c : Condition} (hc : c ∈ q.conditions) {v : Value} (hv : v ∈ c.value.parts)
    (hnumber : v.isNumber = true) :
    ∃ entry ∈ listed raw, ∃ given, GivesNumber e entry given ∧ FieldKind.toNumber given = v := by
  have hmem := List.mem_map_of_mem (f := some) hc
  rw [conditions_of_prepare hprepare hquery hrows] at hmem
  obtain ⟨entry, hentry, hcond⟩ := List.mem_map.mp hmem
  obtain ⟨name, spec, operator, hfield, hspec, hfits⟩ := fits_of_listed hprepare hentry hcond
  have hkind := kind_of_isNumber (isOfKind_of_mem_parts hfits hv) hnumber
  cases entry with
  | obj fields =>
    have hname : Entry.field fields = .str name := by
      cases hcond
      exact hfield
    rw [parts_of_conditionOf? hname hspec hkind hcond] at hv
    obtain ⟨given, hgiven, hturned⟩ := List.mem_map.mp hv
    exact ⟨_, hentry, given, .intro hname hspec hkind hgiven, hturned⟩
  | _ => cases hcond

/-- What is given for a field that holds numbers stands in a condition, turned into a number. -/
theorem exists_condition_of_givesNumber (hprepare : Query.prepare e raw = .ok criteria)
    (hquery : Query.ofCriteria e.name criteria = .ok q) (hrows : q.countOnly = false)
    {entry given : Value} (hentry : entry ∈ listed raw) (hgives : GivesNumber e entry given) :
    ∃ c ∈ q.conditions, FieldKind.toNumber given ∈ c.value.parts := by
  have hmem := List.mem_map_of_mem (f := conditionOf? e) hentry
  rw [← conditions_of_prepare hprepare hquery hrows] at hmem
  obtain ⟨c, hc, hcond⟩ := List.mem_map.mp hmem
  cases hgives with
  | intro hfield hspec hkind hv =>
    refine ⟨c, hc, ?_⟩
    rw [parts_of_conditionOf? hfield hspec hkind hcond.symm]
    exact List.mem_map_of_mem hv

/-- A text that is no number is turned down where a number has to stand. -/
theorem rejected_of_not_isNumberText {entry : Value} (hentry : entry ∈ listed raw) {s : String}
    (hgives : GivesNumber e entry (.str s)) (h : ¬ Numeral.IsNumberText s) :
    ∃ reasons, Query.prepare e raw = .error (.rejected reasons) := by
  rcases prepare_cases e raw with hrejected | ⟨criteria, hprepare⟩
  · exact hrejected
  · exfalso
    cases hgives with
    | @intro fields name spec _ hfield hspec hkind hv =>
      obtain ⟨c, hcond⟩ : ∃ c, conditionOf? e (.obj fields) = some c := ⟨_, rfl⟩
      obtain ⟨other, found, operator, hname, hfound, hfits⟩ := fits_of_listed hprepare hentry hcond
      have hsame : found = spec := by
        cases hcond
        rw [hfield] at hname
        cases hname
        exact Option.some.inj (hfound.symm.trans hspec)
      have hpart : FieldKind.toNumber (.str s) ∈ c.value.parts := by
        rw [parts_of_conditionOf? hfield hspec hkind hcond]
        exact List.mem_map_of_mem hv
      have hnumber := isOfKind_of_mem_parts hfits hpart
      rw [hsame, hkind] at hnumber
      exact h (FieldKind.isOfKind_numberOfText_iff.mp hnumber)

/-! ## 4. Finite numbers -/

/-- **Which numbers reach a query.** In whatever shape criteria are written, a text that is given
    for a field that holds numbers, by itself or in a list, and is not read as a finite number turns
    them down. In a query for rows every decimal notation of a number stands for this number. All
    numbers in its conditions are in decimal notation if and only if no floating-point number that
    is not finite was given as such for a field that holds numbers; validation does not look for
    these. -/
theorem onlyFinite_iff :
    (∀ entry ∈ listed raw, ∀ s, GivesNumber e entry (.str s) → ¬ Numeral.IsNumberText s →
      ∃ reasons, Query.prepare e raw = .error (.rejected reasons)) ∧
    ∀ criteria q, Query.prepare e raw = .ok criteria → Query.ofCriteria e.name criteria = .ok q →
      q.countOnly = false →
      (∀ c ∈ q.conditions, ∀ v ∈ c.value.parts, v.isNumber = true →
        ∀ w, Numeral.Decimal (Literal.render v).toList w → Literal.StandsFor w v) ∧
      ((∀ c ∈ q.conditions, ∀ v ∈ c.value.parts, v.isNumber = true →
          ∃ w, Numeral.Decimal (Literal.render v).toList w) ↔
        ∀ entry ∈ listed raw, ∀ v, GivesNumber e entry v → ¬ v.NotFinite) := by
  refine ⟨fun entry hentry s hgives h => rejected_of_not_isNumberText hentry hgives h,
    fun criteria q hprepare hquery hrows => ⟨?_, ?_⟩⟩
  · intro c _ v _ hnumber w hw
    by_cases hfinite : v.NotFinite
    · exact absurd hw (Literal.not_decimal_of_notFinite hfinite w)
    · obtain ⟨found, hfound, hstands⟩ := Literal.exists_decimal_of_finite hnumber hfinite
      rw [← Numeral.readDecimal?_eq_some_iff] at hw hfound
      rw [hw] at hfound
      cases hfound
      exact hstands
  · constructor
    · intro hall entry hentry v hgives hnot
      obtain ⟨c, hc, hv⟩ :=
        exists_condition_of_givesNumber hprepare hquery hrows hentry hgives
      have hturned := FieldKind.notFinite_toNumber_iff.mpr hnot
      obtain ⟨w, hw⟩ := hall c hc _ hv hturned.isNumber
      exact Literal.not_decimal_of_notFinite hturned w hw
    · intro hall c hc v hv hnumber
      obtain ⟨entry, hentry, given, hgives, rfl⟩ :=
        exists_givesNumber hprepare hquery hrows hc hv hnumber
      have hfinite : ¬ (FieldKind.toNumber given).NotFinite := fun h =>
        hall entry hentry given hgives (FieldKind.notFinite_toNumber_iff.mp h)
      obtain ⟨w, hw, _⟩ := Literal.exists_decimal_of_finite hnumber hfinite
      exact ⟨w, hw⟩

/-- Balances of which one lies below every number. -/
def boundlessBalance : Value :=
  .list [.obj [("field", .str "Balance"), ("operator", .str "IN"),
    ("value", .list [.float (.infinite true), .str "5"])]]

/-- The same balances, with the name of the first one as a text. -/
def namedBalance : Value :=
  .obj [("filters", .list [.obj [("field", .str "Balance"), ("operator", .str "IN"),
    ("value", .list [.str " -Inf ", .str "5"])]])]

theorem onlyFinite_iff_boundlessBalance :
    Entity.all[6].name = "Invoice" ∧
    (∃ criteria q, Query.prepare Entity.all[6] boundlessBalance = .ok criteria ∧
      Query.ofCriteria Entity.all[6].name criteria = .ok q ∧ q.countOnly = false ∧
      q.render = "SELECT * FROM Invoice WHERE Balance IN (-inf, 5)" ∧
      ¬ ∀ c ∈ q.conditions, ∀ v ∈ c.value.parts, v.isNumber = true →
        ∃ w, Numeral.Decimal (Literal.render v).toList w) ∧
    ∃ reasons, Query.prepare Entity.all[6] namedBalance = .error (.rejected reasons) := by
  have hgives : GivesNumber Entity.all[6] (.obj [("field", .str "Balance"), ("operator", .str "IN"),
      ("value", .list [.float (.infinite true), .str "5"])]) (.float (.infinite true)) :=
    .intro rfl rfl rfl List.mem_cons_self
  have hnamed : GivesNumber Entity.all[6] (.obj [("field", .str "Balance"), ("operator", .str "IN"),
      ("value", .list [.str " -Inf ", .str "5"])]) (.str " -Inf ") :=
    .intro rfl rfl rfl List.mem_cons_self
  have hname : Numeral.NamesNotFinite " -Inf " := by decide +kernel
  have hprepare : Query.prepare Entity.all[6] boundlessBalance =
      .ok ((Criteria.normalize boundlessBalance).coerce Entity.all[6]) := rfl
  refine ⟨rfl, ⟨_, _, hprepare, rfl, rfl, rfl, fun hall => ?_⟩, ?_⟩
  · have hiff := (onlyFinite_iff.2 _ _ hprepare rfl rfl).2
    exact hiff.mp hall _ List.mem_cons_self _ hgives (.infinite true)
  · exact onlyFinite_iff.1 _ List.mem_cons_self " -Inf " hnamed hname.not_isNumberText

end Enforcement

end BooksGateway
