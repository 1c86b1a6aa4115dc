import BooksGateway.Proofs.Encoding.Directives

/-!
# One search in several shapes

The shapes in which criteria are written are encodings of the same searches. A list of filters
beside directives as keys says what the filters and the directives say in one list, in whatever
order the keys stand. A flat mapping says the same, each thing once, in the order of its keys.

* `sayings_array`, `sayings_advanced`: what filters beside directives say;
* `IsFlat.sayings_perm`: what a flat mapping says;
* `encodings_agree`: the outcomes of criteria in different shapes.
-/

namespace BooksGateway

namespace Encoding

open Saying (Alike SaysOnce combined_of_perm)

/-! ## 1. Filters in a list -/

/-- What the entries of criteria in normal form say. -/
def sayings (e : Entity) (raw : Value) : List Saying :=
  (Criteria.normalize raw).asEntries.map (Saying.ofRaw e)

theorem sayings_array (e : Entity) (items : List Value) (options : Options) :
    sayings e (.list (items ++ entriesOf options)) =
      items.map (Saying.ofRaw e) ++ directiveSayings e options := by
  rw [← map_ofRaw_entriesOf, ← List.map_append]
  rfl

theorem sayings_advanced (e : Entity) {fields : Fields} {items : List Value} {options : Options}
    (h : fields.Perm ((Directive.filtersKey, .list items) :: pairs options))
    (heffective : AllEffective options) :
    sayings e (.obj fields) = items.map (Saying.ofRaw e) ++ directiveSayings e options := by
  have hshape : Shape.ofFields fields = .advanced items (Shape.options fields) := by
    rw [Shape.ofFields, get?_filtersKey_advanced h]
    rfl
  have hitems : (items.map Criteria.fullEntry).map (Saying.ofRaw e) =
      items.map (Saying.ofRaw e) := by
    rw [List.map_map]
    exact List.map_congr_left fun v _ => ofRaw_fullEntry e v
  show ((Criteria.ofShape (Shape.ofFields fields)).asEntries).map _ = _
  rw [hshape, Criteria.ofShape, Criteria.asEntries_ofEntries, List.map_append, hitems,
    map_ofRaw_options e (get?_key_advanced h) heffective]

/-! ## 2. A flat mapping -/

/-- What a key of a flat mapping says. -/
def keySaying (e : Entity) (field : String × Value) : Saying :=
  Saying.ofRaw e (Criteria.mixedEntry field.1 field.2)

/-- Whether a key of a mapping never names a field. -/
def isReservedField (field : String × Value) : Bool := Directive.isReserved field.1

/-- A flat mapping of directives with their values and other fields, in any order. -/
structure IsFlat (flat fields : Fields) (options : Options) : Prop where
  /-- The other fields keep their order. -/
  free : (flat.filter fun field => !isReservedField field) = fields
  /-- The reserved keys are those of the directives. -/
  reserved : (flat.filter isReservedField).Perm (pairs options)

section Flat

variable {flat fields : Fields} {options : Options}

/-- A reserved key of a flat mapping is that of a directive. -/
theorem IsFlat.exists_directive (h : IsFlat flat fields options) {field : String × Value}
    (hfield : field ∈ flat) (hreserved : isReservedField field = true) :
    ∃ d v, field = (Directive.key d, v) ∧ options d = some v := by
  have hpair := h.reserved.mem_iff.mp (List.mem_filter.mpr ⟨hfield, hreserved⟩)
  obtain ⟨d, hkey, hvalue⟩ := exists_of_mem_pairs hpair
  exact ⟨d, field.2, Prod.ext hkey rfl, hvalue⟩

theorem IsFlat.get?_filtersKey (h : IsFlat flat fields options) :
    flat.get? Directive.filtersKey = none := by
  cases hget : flat.get? Directive.filtersKey with
  | none => rfl
  | some v =>
    have hreserved : Directive.isReserved Directive.filtersKey = true := by decide
    obtain ⟨d, _, hfield, _⟩ := h.exists_directive (Fields.mem_of_get? hget) hreserved
    exact absurd (congrArg Prod.fst hfield).symm (key_ne_filtersKey d)

theorem keySaying_free (e : Entity) {field : String × Value}
    (h : isReservedField field = false) :
    keySaying e field = Saying.ofRaw e (Entry.equality field.1 field.2) :=
  congrArg (Saying.ofRaw e) (if_neg (Bool.eq_false_iff.mp h))

/-- A flat mapping that is not made of reserved keys only has an entry for each of its keys. -/
theorem sayings_flat (e : Entity) (hfilters : flat.get? Directive.filtersKey = none)
    (hfree : flat.all isReservedField = false) :
    sayings e (.obj flat) = flat.map (keySaying e) := by
  have hempty : flat.isEmpty = false := by
    cases flat with
    | nil => cases hfree
    | cons => rfl
  have hshape : Shape.ofFields flat =
      if flat.any isReservedField then .mixed flat else .simple flat := by
    rw [Shape.ofFields, hfilters]
    show (if flat.isEmpty then _ else if flat.all isReservedField then _ else _) = _
    rw [hempty, hfree]
    rfl
  show ((Criteria.ofShape (Shape.ofFields flat)).asEntries).map _ = _
  rw [hshape]
  by_cases hany : flat.any isReservedField = true
  · rw [if_pos hany, Criteria.ofShape, Criteria.asEntries_ofEntries, List.map_map]
    rfl
  · rw [if_neg hany]
    show (flat.map fun field => Entry.equality field.1 field.2).map _ = _
    rw [List.map_map]
    refine List.map_congr_left fun field hfield => (keySaying_free e ?_).symm
    simp only [List.any_eq_true, not_exists, not_and, Bool.not_eq_true] at hany
    exact hany field hfield

theorem map_keySaying_free (e : Entity)
    (h : ∀ field ∈ fields, isReservedField field = false) :
    fields.map (keySaying e) = (bareEntries fields).map (Saying.ofRaw e) := by
  unfold bareEntries
  rw [List.map_map]
  refine List.map_congr_left fun field hfield => ?_
  rw [keySaying_free e (h field hfield)]
  exact ofRaw_fullEntry e (Entry.bare field.1 field.2)

theorem map_keySaying_pairs (e : Entity) (heffective : AllEffective options) :
    (pairs options).map (keySaying e) = directiveSayings e options := by
  unfold pairs directiveSayings
  rw [List.map_filterMap]
  congr 1
  funext d
  cases h : options d with
  | none => rfl
  | some v => exact congrArg some (ofRaw_mixedEntry_key e (heffective d v h))

theorem IsFlat.eq_false_of_mem (h : IsFlat flat fields options) :
    ∀ field ∈ fields, isReservedField field = false := by
  intro field hfield
  rw [← h.free] at hfield
  simpa using (List.mem_filter.mp hfield).2

theorem IsFlat.eq_nil_of_all (h : IsFlat flat fields options)
    (hall : flat.all isReservedField = true) : fields = [] := by
  rw [← h.free, List.filter_eq_nil_iff]
  intro field hfield
  simp [List.all_eq_true.mp hall field hfield]

/-- A flat mapping of reserved keys only says what its directives say. -/
theorem IsFlat.sayings_of_all (e : Entity) (h : IsFlat flat fields options)
    (heffective : AllEffective options) (hall : flat.all isReservedField = true) :
    sayings e (.obj flat) = directiveSayings e options := by
  have hperm : flat.Perm (pairs options) := by
    have hself : flat.filter isReservedField = flat :=
      List.filter_eq_self.mpr (List.all_eq_true.mp hall)
    rw [← hself]
    exact h.reserved
  have hoptions : ∀ d : Directive, flat.get? d.key = options d := fun d =>
    (Fields.get?_of_perm hperm (nodup_keys_pairs options) d.key).trans (get?_key_pairs options d)
  rw [← map_ofRaw_options e hoptions heffective]
  show ((Criteria.ofShape (Shape.ofFields flat)).asEntries).map _ = _
  rw [Shape.ofFields, h.get?_filtersKey]
  show ((Criteria.ofShape (if flat.isEmpty then _ else if flat.all isReservedField then _
    else _)).asEntries).map _ = _
  rw [hall]
  cases flat with
  | nil => rfl
  | cons field rest =>
    show ((Criteria.ofEntries _).asEntries).map _ = _
    rw [Criteria.asEntries_ofEntries]
    rfl

theorem isFlat_pairs (options : Options) : IsFlat (pairs options) [] options := by
  have hreserved : ∀ field ∈ pairs options, isReservedField field = true := by
    intro field hfield
    obtain ⟨d, hkey, _⟩ := exists_of_mem_pairs hfield
    rw [isReservedField, hkey]
    exact isReserved_key d
  constructor
  · rw [List.filter_eq_nil_iff]
    intro field hfield
    simp [hreserved field hfield]
  · rw [List.filter_eq_self.mpr hreserved]

/-- **A flat mapping is taken key by key**, in an order of its keys that keeps that of its
    fields. -/
theorem IsFlat.exists_order (e : Entity) (h : IsFlat flat fields options)
    (heffective : AllEffective options) :
    ∃ order, IsFlat order fields options ∧ sayings e (.obj flat) = order.map (keySaying e) ∧
      (flat = fields ++ pairs options → order = flat) := by
  by_cases hall : flat.all isReservedField = true
  -- directives without fields are taken in their own order, whatever that of the mapping
  · have hnone := h.eq_nil_of_all hall
    subst hnone
    refine ⟨pairs options, isFlat_pairs options, ?_, Eq.symm⟩
    rw [h.sayings_of_all e heffective hall, map_keySaying_pairs e heffective]
  · exact ⟨flat, h, sayings_flat e h.get?_filtersKey (Bool.eq_false_iff.mpr hall), fun _ => rfl⟩

/-- What the filters and the directives say that a flat mapping is made of. -/
def partSayings (e : Entity) (fields : Fields) (options : Options) : List Saying :=
  (bareEntries fields).map (Saying.ofRaw e) ++ directiveSayings e options

theorem partSayings_eq (e : Entity) (hfree : ∀ field ∈ fields, isReservedField field = false)
    (heffective : AllEffective options) :
    partSayings e fields options = (fields ++ pairs options).map (keySaying e) := by
  rw [partSayings, List.map_append, map_keySaying_free e hfree, map_keySaying_pairs e heffective]

/-- **A flat mapping says what its parts say**, in some order. -/
theorem IsFlat.sayings_perm (e : Entity) (h : IsFlat flat fields options)
    (heffective : AllEffective options) :
    (sayings e (.obj flat)).Perm (partSayings e fields options) := by
  obtain ⟨order, horder, hsayings, _⟩ := h.exists_order e heffective
  rw [hsayings, partSayings_eq e h.eq_false_of_mem heffective]
  refine List.Perm.map _ ?_
  have hsplit := List.filter_append_perm (fun field => !isReservedField field) order
  simp only [Bool.not_not] at hsplit
  rw [horder.free] at hsplit
  exact hsplit.symm.trans (horder.reserved.append_left fields)

/-- When the directives stand last and in their order, so do their sayings. -/
theorem IsFlat.sayings_eq (e : Entity) (h : IsFlat flat fields options)
    (heffective : AllEffective options) (hlast : flat = fields ++ pairs options) :
    sayings e (.obj flat) = partSayings e fields options := by
  obtain ⟨order, _, hsayings, hsame⟩ := h.exists_order e heffective
  rw [hsayings, hsame hlast, partSayings_eq e h.eq_false_of_mem heffective, hlast]

/-- What directives say sets no condition. -/
theorem condition_directiveSaying (e : Entity) (d : Directive) (v : Value) :
    (directiveSaying e d v).condition = none := by
  cases d <;> rfl

theorem filterMap_condition_directiveSayings (e : Entity) (options : Options) :
    (directiveSayings e options).filterMap (·.condition) = [] := by
  unfold directiveSayings
  rw [List.filterMap_filterMap, List.filterMap_eq_nil_iff]
  intro d _
  cases options d with
  | none => rfl
  | some v => exact condition_directiveSaying e d v

/-- **The conditions of a flat mapping are those of its other fields**, in their order. -/
theorem IsFlat.filterMap_condition (e : Entity) (h : IsFlat flat fields options)
    (heffective : AllEffective options) :
    (sayings e (.obj flat)).filterMap (·.condition) =
      (partSayings e fields options).filterMap (·.condition) := by
  obtain ⟨order, horder, hsayings, _⟩ := h.exists_order e heffective
  rw [hsayings, partSayings, List.filterMap_append, filterMap_condition_directiveSayings,
    List.append_nil, ← map_keySaying_free e h.eq_false_of_mem, List.filterMap_map,
    List.filterMap_map, ← horder.free, List.filterMap_filter]
  refine List.filterMap_congr fun field hfield => ?_
  by_cases hreserved : isReservedField field = true
  · obtain ⟨d, v, rfl, hv⟩ := horder.exists_directive hfield hreserved
    rw [if_neg (by rw [hreserved]; decide)]
    show (Saying.ofRaw e (Criteria.mixedEntry d.key v)).condition = none
    rw [ofRaw_mixedEntry_key e (heffective d v hv), condition_directiveSaying]
  · rw [if_pos (by rw [Bool.eq_false_iff.mpr hreserved]; decide)]

end Flat

/-! ## 3. Directives tell each thing once -/

theorem length_filterMap_le_one {α β : Type} {l : List α} (hnodup : l.Nodup) {f : α → Option β}
    (only : α) (h : ∀ a, a ≠ only → f a = none) : (l.filterMap f).length ≤ 1 := by
  induction l with
  | nil => simp
  | cons a rest ih =>
    obtain ⟨hnot, hrest⟩ := List.nodup_cons.mp hnodup
    by_cases ha : a = only
    · subst ha
      have hnone : rest.filterMap f = [] :=
        List.filterMap_eq_nil_iff.mpr fun b hb => h b fun hab => hnot (hab ▸ hb)
      rw [List.filterMap_cons]
      cases f a with
      | none => simp [hnone]
      | some x => simp [hnone]
    · rw [List.filterMap_cons_none (h a ha)]
      exact ih hrest

section Once

variable {β : Type} {options : Options} {tells : Saying → Option β}

/-- What no condition tells, and one directive only, is told at most once. -/
theorem length_told_le_one (e : Entity) {fields : Fields}
    (hfree : ∀ field ∈ fields, isReservedField field = false)
    (hcondition : ∀ fault condition, tells { fault, condition } = none) (only : Directive)
    (honly : ∀ d v, d ≠ only → options d = some v → tells (directiveSaying e d v) = none) :
    ((partSayings e fields options).filterMap tells).length ≤ 1 := by
  have hfields : ((bareEntries fields).map (Saying.ofRaw e)).filterMap tells = [] := by
    rw [← map_keySaying_free e hfree, List.filterMap_map, List.filterMap_eq_nil_iff]
    intro field hfield
    obtain ⟨fault, condition, hsaying⟩ := ofRaw_equality e (hfree field hfield) field.2
    show tells (keySaying e field) = none
    rw [keySaying_free e (hfree field hfield), hsaying, hcondition]
  rw [partSayings, List.filterMap_append, hfields, List.nil_append, directiveSayings,
    List.filterMap_filterMap]
  refine length_filterMap_le_one (by decide) only fun d hd => ?_
  cases h : options d with
  | none => rfl
  | some v => exact honly d v hd h

/-- **A flat mapping and its parts tell each thing once**, unless both sort orders are asked for. -/
theorem saysOnce_partSayings (e : Entity) {fields : Fields}
    (hfree : ∀ field ∈ fields, isReservedField field = false)
    (hsort : options .ascending = none ∨ options .descending = none) :
    SaysOnce (partSayings e fields options) where
  sort := by
    rcases hsort with hnone | hnone
    · refine length_told_le_one e hfree (fun _ _ => rfl) .descending fun d v hd hv => ?_
      cases d with
      | ascending => rw [hnone] at hv; cases hv
      | descending => exact absurd rfl hd
      | _ => rfl
    · refine length_told_le_one e hfree (fun _ _ => rfl) .ascending fun d v hd hv => ?_
      cases d with
      | ascending => exact absurd rfl hd
      | descending => rw [hnone] at hv; cases hv
      | _ => rfl
  limit := length_told_le_one e hfree (fun _ _ => rfl) .limit fun d v hd _ => by
    cases d with
    | limit => exact absurd rfl hd
    | _ => rfl
  offset := length_told_le_one e hfree (fun _ _ => rfl) .offset fun d v hd _ => by
    cases d with
    | offset => exact absurd rfl hd
    | _ => rfl
  pages := length_told_le_one e hfree (fun _ _ => rfl) .fetchAll fun d v hd _ => by
    cases d with
    | fetchAll => exact absurd rfl hd
    | _ => rfl

end Once

/-! ## 4. Encodings of one search -/

/-- **The shapes of criteria are encodings of the same searches.** Filters in a list beside
    directives as keys, in any order of the keys, come to the same as the filters followed by the
    directives in one list, the reasons for turning them down included. A flat mapping of fields and
    directives comes to the same as the fields in a list of filters beside the directives: with the
    same query, and with the same reasons, which stand in the order of the keys. -/
theorem encodings_agree (e : Entity) {options : Options} (heffective : AllEffective options) :
    (∀ (items : List Value) (fields : Fields),
      fields.Perm ((Directive.filtersKey, .list items) :: pairs options) →
        Search.plan e (.obj fields) = Search.plan e (.list (items ++ entriesOf options))) ∧
    ∀ free flat fields : Fields, IsFlat flat free options →
      fields.Perm ((Directive.filtersKey, .list (bareEntries free)) :: pairs options) →
        (options .ascending = none ∨ options .descending = none →
          Alike (Search.plan e (.obj flat)) (Search.plan e (.obj fields))) ∧
        (flat = free ++ pairs options →
          Search.plan e (.obj flat) = Search.plan e (.obj fields)) := by
  refine ⟨fun items fields h => ?_,
    fun free flat fields hflat h => ⟨fun hsort => ?_, fun hlast => ?_⟩⟩
  · rw [Search.plan_eq_combined, Search.plan_eq_combined]
    exact congrArg _ ((sayings_advanced e h heffective).trans (sayings_array e items options).symm)
  · rw [Search.plan_eq_combined, Search.plan_eq_combined]
    have hadvanced : (Criteria.normalize (.obj fields)).asEntries.map (Saying.ofRaw e) =
        partSayings e free options := sayings_advanced e h heffective
    rw [hadvanced]
    exact combined_of_perm e.name (hflat.sayings_perm e heffective)
      (hflat.filterMap_condition e heffective) (saysOnce_partSayings e hflat.eq_false_of_mem hsort)
  · rw [Search.plan_eq_combined, Search.plan_eq_combined]
    exact congrArg _ ((hflat.sayings_eq e heffective hlast).trans
      (sayings_advanced e h heffective).symm)

/-- Directives of a search: by name, five rows on a page, all pages. -/
def byName : Options
  | .ascending => some (.str "DisplayName")
  | .limit => some (.int 5)
  | .fetchAll => some (.int 1)
  | _ => none

/-- Fields of a search for customers. -/
def namedAnn : Fields := [("Active", .str "true"), ("GivenName", .str "Ann")]

/-- These directives and fields side by side. -/
def annByName : Fields :=
  [("limit", .int 5), ("Active", .str "true"), ("asc", .str "DisplayName"),
    ("GivenName", .str "Ann"), ("fetchAll", .int 1)]

/-- These directives beside a list of filters. -/
def annFilteredByName : Fields :=
  [("limit", .int 5), ("filters", .list (bareEntries namedAnn)), ("fetchAll", .int 1),
    ("asc", .str "DisplayName")]

theorem encodings_agree_annByName :
    AllEffective byName ∧
    annFilteredByName.Perm ((Directive.filtersKey, .list (bareEntries namedAnn)) :: pairs byName) ∧
    IsFlat annByName namedAnn byName ∧ byName .descending = none ∧
    Search.plan Entity.all[3] (.obj annFilteredByName) =
      Search.plan Entity.all[3] (.list (bareEntries namedAnn ++ entriesOf byName)) ∧
    Alike (Search.plan Entity.all[3] (.obj annByName))
      (Search.plan Entity.all[3] (.obj annFilteredByName)) ∧
    Search.plan Entity.all[3] (.obj annByName) =
      .ok ({ entity := "Customer"
             conditions := [⟨.str "Active", .str "=", .bool true⟩,
               ⟨.str "GivenName", .str "=", .str "Ann"⟩]
             order := some (.str "DisplayName", .rising), limit := some 5 }, true) := by
  have heffective : AllEffective byName := by
    intro d v h
    cases d <;> cases h <;> rfl
  have hfiltered : annFilteredByName.Perm
      ((Directive.filtersKey, .list (bareEntries namedAnn)) :: pairs byName) := by
    refine (List.Perm.swap _ _ _).trans (.cons _ ?_)
    exact (List.Perm.cons _ (.swap _ _ _)).trans (.swap _ _ _)
  have hflat : IsFlat annByName namedAnn byName := ⟨rfl, List.Perm.swap _ _ _⟩
  obtain ⟨hlisted, hkeys⟩ := encodings_agree Entity.all[3] heffective
  exact ⟨heffective, hfiltered, hflat, rfl, hlisted _ _ hfiltered,
    (hkeys _ _ _ hflat hfiltered).1 (.inr rfl), rfl⟩

end Encoding

end BooksGateway
