import BooksGateway.Criteria.Directive
import BooksGateway.Entity.Lookup

/-!
# The registry of entities

What all entities of the registry have in common, and what looking one up gives.

* `get_text_cases`: a text either names an entity of the registry, or is turned down;
* `reserved_of_find?`: no field of an entity has a reserved name;
* `word_of_find?`, `word_of_sortable`: names of fields are words, that is, they are not empty and
  hold no space.
-/

namespace BooksGateway.Entity

/-! ## 1. Looking up -/

theorem mem_all_of_ofName? {name : String} {e : Entity} (h : ofName? name = some e) : e ∈ all := by
  unfold ofName? at h
  split at h
  · rename_i found hfound
    cases h
    exact List.mem_of_find?_eq_some hfound
  · exact List.mem_of_find?_eq_some h

/-- **A text names an entity of the registry, or it is turned down**; nothing else can happen. -/
theorem get_text_cases (name : String) :
    (∃ reasons, get (.str name) = .error (.rejected reasons)) ∨
      ∃ e ∈ all, get (.str name) = .ok e := by
  cases hname : ofName? name with
  | none =>
    refine Or.inl ⟨[unknownText (.str name)], ?_⟩
    simp only [get, find?, hname]
    rfl
  | some e =>
    refine Or.inr ⟨e, mem_all_of_ofName? hname, ?_⟩
    simp only [get, find?, hname]
    rfl

/-! ## 2. Names of fields -/

/-- Whether a text is a word: it is not empty and holds no space. -/
def isWord (s : String) : Bool := s != "" && s.toList.all (· != ' ')

theorem isWord_ne_nil {s : String} (h : isWord s = true) : s.toList ≠ [] := by
  simp only [isWord, Bool.and_eq_true, bne_iff_ne] at h
  intro hs
  exact h.1 (String.toList_eq_nil_iff.mp hs)

theorem isWord_no_space {s : String} (h : isWord s = true) : ∀ c ∈ s.toList, c ≠ ' ' := by
  simp only [isWord, Bool.and_eq_true, List.all_eq_true, bne_iff_ne] at h
  exact h.2

/-- Whether a name is fit for a field: a word that is not reserved. -/
def isFieldName (name : String) : Bool := isWord name && !Directive.isReserved name

/-- Every name in the registry is fit for what it names. -/
theorem registry_names :
    (all.all fun e => isWord e.name && e.fields.all fun field => isFieldName field.1) = true := by
  decide +kernel

theorem word_of_mem {e : Entity} (he : e ∈ all) : isWord e.name = true := by
  have h := List.all_eq_true.mp registry_names e he
  rw [Bool.and_eq_true] at h
  exact h.1

theorem isFieldName_of_mem {e : Entity} (he : e ∈ all) {field : String × FieldSpec}
    (hfield : field ∈ e.fields) : isFieldName field.1 = true := by
  have h := List.all_eq_true.mp registry_names e he
  rw [Bool.and_eq_true] at h
  exact List.all_eq_true.mp h.2 field hfield

theorem mem_of_find? {table : FieldTable} {name : String} {spec : FieldSpec}
    (h : table.find? name = some spec) : (name, spec) ∈ table := by
  obtain ⟨before, after, htable, _⟩ := List.lookup_eq_some_iff.mp h
  rw [htable]
  exact List.mem_append_right _ List.mem_cons_self

theorem reserved_of_find? {e : Entity} (he : e ∈ all) {name : String} {spec : FieldSpec}
    (h : e.fields.find? name = some spec) : Directive.isReserved name = false := by
  have hname := isFieldName_of_mem he (mem_of_find? h)
  simp only [isFieldName, Bool.and_eq_true, Bool.not_eq_true'] at hname
  exact hname.2

theorem word_of_find? {e : Entity} (he : e ∈ all) {name : String} {spec : FieldSpec}
    (h : e.fields.find? name = some spec) : isWord name = true := by
  have hname := isFieldName_of_mem he (mem_of_find? h)
  simp only [isFieldName, Bool.and_eq_true] at hname
  exact hname.1

theorem word_of_sortable {e : Entity} (he : e ∈ all) {name : String} (h : name ∈ e.sortable) :
    isWord name = true := by
  unfold sortable FieldTable.sortable at h
  obtain ⟨field, hfield, rfl⟩ := List.mem_map.mp h
  have hname := isFieldName_of_mem he (List.mem_filter.mp hfield).1
  simp only [isFieldName, Bool.and_eq_true] at hname
  exact hname.1

end BooksGateway.Entity
