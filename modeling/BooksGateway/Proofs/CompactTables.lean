import BooksGateway.Entity
import BooksGateway.Proofs.Splitting

/-!
# Tables in compact notation

A table of fields is written as tokens with white space between them, a token for each field.
Reading stores one token after another: a name keeps the place where it came first and takes what
its last token says. A token with a letter that stands for no kind spoils the whole table.

* `Token.IsProper`, `Written`: the grammar of the notation;
* `Describes`: the table that tokens stand for, said without reading them one by one;
* `Describes.put`, `putTokens_of_known`: what storing one token preserves, and so storing all;
* `Lists`: the names with a mark, in the order of the table;
* `ofText_exact`: what is read of a text in compact notation;
* `registry_fields`: the tables of the registry are read from their texts.
-/

namespace BooksGateway

/-! ## 1. Letters for kinds -/

namespace FieldKind

/-- **The letters for kinds**; no letter stands for a text. -/
inductive StandsFor : List Char → FieldKind → Prop where
  /-- No letter. -/
  | nothing : StandsFor [] .text
  /-- The letter for a text. -/
  | s : StandsFor ['s'] .text
  /-- The letter for a number. -/
  | n : StandsFor ['n'] .number
  /-- The letter for a truth value. -/
  | b : StandsFor ['b'] .flag
  /-- The letter for a date. -/
  | d : StandsFor ['d'] .date

theorem ofLetter?_eq_some_iff {code : List Char} {kind : FieldKind} :
    ofLetter? code = some kind ↔ StandsFor code kind := by
  constructor
  · intro h
    unfold ofLetter? at h
    split at h
    · cases h
      exact .nothing
    · cases h
      exact .s
    · cases h
      exact .n
    · cases h
      exact .b
    · cases h
      exact .d
    · cases h
  · intro h
    cases h <;> rfl

end FieldKind

namespace FieldTable

/-! ## 2. Storing a field -/

/-- The names of the fields of a table, in order. -/
def names (table : FieldTable) : List String := table.map (·.1)

theorem names_cons (field : String × FieldSpec) (rest : FieldTable) :
    names (field :: rest) = field.1 :: names rest := rfl

section Put

variable (table : FieldTable) (name : String) (spec : FieldSpec)

/-- Storing keeps the names that are there; a new name comes last. -/
theorem names_put :
    (table.put name spec).names = if name ∈ table.names then table.names
      else table.names ++ [name] := by
  induction table with
  | nil => rfl
  | cons field rest ih =>
    obtain ⟨other, known⟩ := field
    rw [put, names_cons]
    by_cases hother : other = name
    · rw [if_pos hother, names_cons, if_pos (hother ▸ List.mem_cons_self)]
    · rw [if_neg hother, names_cons, ih]
      by_cases hrest : name ∈ names rest
      · rw [if_pos hrest, if_pos (List.mem_cons_of_mem other hrest)]
      · have hnew : name ∉ other :: names rest :=
          fun hmem => (List.mem_cons.mp hmem).elim (Ne.symm hother) hrest
        rw [if_neg hrest, if_neg hnew, List.cons_append]

theorem nodup_put (h : table.names.Nodup) : (table.put name spec).names.Nodup := by
  rw [names_put]
  split
  · exact h
  · rename_i hnew
    refine List.nodup_append.mpr ⟨h, List.pairwise_singleton _ name, ?_⟩
    intro other hother last hlast heq
    rw [heq, List.mem_singleton.mp hlast] at hother
    exact hnew hother

/-- What is in a table after storing is what was stored, or was there under another name. -/
theorem mem_put {field : String × FieldSpec} (hnodup : table.names.Nodup)
    (h : field ∈ table.put name spec) :
    field = (name, spec) ∨ field ∈ table ∧ field.1 ≠ name := by
  induction table with
  | nil => exact .inl (List.mem_singleton.mp h)
  | cons first rest ih =>
    obtain ⟨other, known⟩ := first
    obtain ⟨hfirst, hrest⟩ := List.nodup_cons.mp hnodup
    rw [put] at h
    by_cases hother : other = name
    · rw [if_pos hother] at h
      rcases List.mem_cons.mp h with rfl | hmem
      · exact .inl (by rw [hother])
      -- the name does not come again
      · refine .inr ⟨List.mem_cons_of_mem _ hmem, fun hname => hfirst ?_⟩
        exact List.mem_map.mpr ⟨field, hmem, hname.trans hother.symm⟩
    · rw [if_neg hother] at h
      rcases List.mem_cons.mp h with rfl | hmem
      · exact .inr ⟨List.mem_cons_self, hother⟩
      · rcases ih hrest hmem with hnew | ⟨hold, hname⟩
        · exact .inl hnew
        · exact .inr ⟨List.mem_cons_of_mem _ hold, hname⟩

end Put

/-! ## 3. Tokens -/

/-- A token for a field. -/
inductive Token where
  /-- Only a name. -/
  | bare (name : List Char)
  /-- A name, and a letter for the kind. -/
  | lettered (name code : List Char)
  /-- A name, a letter for the kind, and flags. -/
  | flagged (name code flags : List Char)

namespace Token

/-- The name in a token. -/
def name : Token → List Char
  | .bare name => name
  | .lettered name _ => name
  | .flagged name _ _ => name

/-- What stands in the place of the letter. -/
def code : Token → List Char
  | .bare _ => []
  | .lettered _ code => code
  | .flagged _ code _ => code

/-- The flags of a token. -/
def flags : Token → List Char
  | .bare _ => []
  | .lettered _ _ => []
  | .flagged _ _ flags => flags

/-- A token as it is written. -/
def text : Token → List Char
  | .bare name => name
  | .lettered name code => name ++ ':' :: code
  | .flagged name code flags => name ++ ':' :: (code ++ ':' :: flags)

/-- The name of the field that a token is for. -/
def field (token : Token) : String := String.ofList token.name

/-- **A token in order.** It has a name, there is no white space in it, and no colon but the ones
    that set its parts apart; flags may hold colons. -/
structure IsProper (token : Token) : Prop where
  /-- The name is not empty. -/
  name_ne_nil : token.name ≠ []
  /-- The name holds no colon. -/
  name_closed : ':' ∉ token.name
  /-- The name holds no white space. -/
  name_solid : ∀ c ∈ token.name, Text.isBlank c = false
  /-- What stands for the letter holds no colon. -/
  code_closed : ':' ∉ token.code
  /-- What stands for the letter holds no white space. -/
  code_solid : ∀ c ∈ token.code, Text.isBlank c = false
  /-- The flags hold no white space. -/
  flags_solid : ∀ c ∈ token.flags, Text.isBlank c = false

/-- Whether the letter of a token, if there is one, stands for a kind. -/
def IsKnown (token : Token) : Prop := ∃ kind, FieldKind.StandsFor token.code kind

/-- **What a token says of its field.** The flag `o` closes it to filtering, the flag `f` to
    sorting. -/
structure Tells (token : Token) (spec : FieldSpec) : Prop where
  /-- The kind is that of the letter. -/
  kind : FieldKind.StandsFor token.code spec.kind
  /-- Rows can be chosen by the field unless it is for sorting only. -/
  filterable : spec.filterable = true ↔ 'o' ∉ token.flags
  /-- Rows can be sorted by the field unless it is for filtering only. -/
  sortable : spec.sortable = true ↔ 'f' ∉ token.flags

section Proper

variable {token : Token}

theorem isProper_iff : token.IsProper ↔ token.name ≠ [] ∧ ':' ∉ token.name ∧ ':' ∉ token.code ∧
    (token.name ++ token.code ++ token.flags).all (fun c => !Text.isBlank c) = true := by
  simp only [List.all_append, Bool.and_eq_true, List.all_eq_true, Bool.not_eq_true']
  constructor
  · intro h
    exact ⟨h.name_ne_nil, h.name_closed, h.code_closed, ⟨h.name_solid, h.code_solid⟩, h.flags_solid⟩
  · rintro ⟨hne, hname, hcode, ⟨hnameSolid, hcodeSolid⟩, hflags⟩
    exact ⟨hne, hname, hnameSolid, hcode, hcodeSolid, hflags⟩

instance : Decidable token.IsProper := decidable_of_iff _ isProper_iff.symm

theorem isKnown_iff : token.IsKnown ↔ (FieldKind.ofLetter? token.code).isSome = true := by
  rw [Option.isSome_iff_exists]
  exact exists_congr fun _ => FieldKind.ofLetter?_eq_some_iff.symm

instance : Decidable token.IsKnown := decidable_of_iff _ isKnown_iff.symm

theorem IsProper.text_ne_nil (h : token.IsProper) : token.text ≠ [] := by
  cases token with
  | bare name => exact h.name_ne_nil
  | lettered name code => exact List.append_ne_nil_of_right_ne_nil _ (List.cons_ne_nil _ _)
  | flagged name code flags => exact List.append_ne_nil_of_right_ne_nil _ (List.cons_ne_nil _ _)

theorem IsProper.text_solid (h : token.IsProper) : ∀ c ∈ token.text, Text.isBlank c = false := by
  have hcolon : Text.isBlank ':' = false := by decide
  cases token with
  | bare name => exact h.name_solid
  | lettered name code =>
    exact List.forall_mem_append.mpr ⟨h.name_solid, List.forall_mem_cons.mpr ⟨hcolon, h.code_solid⟩⟩
  | flagged name code flags =>
    refine List.forall_mem_append.mpr ⟨h.name_solid, List.forall_mem_cons.mpr ⟨hcolon, ?_⟩⟩
    exact List.forall_mem_append.mpr
      ⟨h.code_solid, List.forall_mem_cons.mpr ⟨hcolon, h.flags_solid⟩⟩

/-- The parts of a token are found at its first two colons. -/
theorem IsProper.cut_text (h : token.IsProper) :
    ∃ after, Text.cut ':' token.text = (token.name, after) ∧
      Text.cut ':' after = (token.code, token.flags) := by
  cases token with
  | bare name => exact ⟨[], Text.cut_of_not_mem h.name_closed, rfl⟩
  | lettered name code =>
    exact ⟨code, Text.cut_append h.name_closed _, Text.cut_of_not_mem h.code_closed⟩
  | flagged name code flags =>
    exact ⟨code ++ ':' :: flags, Text.cut_append h.name_closed _, Text.cut_append h.code_closed _⟩

/-- A token whose letter stands for a kind is read as what it says. -/
theorem IsProper.readToken_of_known (h : token.IsProper) (hknown : token.IsKnown) :
    ∃ spec, readToken token.text = .ok (token.field, spec) ∧ token.Tells spec := by
  obtain ⟨after, hname, hcode⟩ := h.cut_text
  obtain ⟨kind, hkind⟩ := hknown
  refine ⟨⟨kind, !token.flags.contains 'o', !token.flags.contains 'f'⟩, ?_, hkind, ?_, ?_⟩
  · simp only [readToken, hname, hcode, FieldKind.ofLetter?_eq_some_iff.mpr hkind]
    rfl
  · simp
  · simp

/-- A token with another letter is not read. -/
theorem IsProper.readToken_of_unknown (h : token.IsProper) (hunknown : ¬ token.IsKnown) :
    readToken token.text = .error .missingKey := by
  obtain ⟨after, hname, hcode⟩ := h.cut_text
  have hnone : FieldKind.ofLetter? token.code = none := by
    rwa [isKnown_iff, Option.not_isSome_iff_eq_none] at hunknown
  simp only [readToken, hname, hcode, hnone]

end Proper

end Token

/-! ## 4. The table of some tokens -/

/-- The last of some tokens that is for a field with a name. -/
def lastFor (tokens : List Token) (name : String) : Option Token :=
  (tokens.filter (·.field == name)).getLast?

theorem lastFor_concat (tokens : List Token) (token : Token) (name : String) :
    lastFor (tokens ++ [token]) name =
      if token.field = name then some token else lastFor tokens name := by
  unfold lastFor
  rw [List.filter_append]
  by_cases hname : token.field = name
  · simp [hname]
  · simp [hname]

theorem mem_of_lastFor {tokens : List Token} {name : String} {token : Token}
    (h : lastFor tokens name = some token) : token ∈ tokens ∧ token.field = name := by
  obtain ⟨hmem, hname⟩ := List.mem_filter.mp (List.mem_of_getLast? h)
  exact ⟨hmem, beq_iff_eq.mp hname⟩

/-- **The table that some tokens describe**: their names in the order in which they come first, each
    once, and each with what its last token says. -/
structure Describes (tokens : List Token) (table : FieldTable) : Prop where
  /-- The names stand in the order in which they come first. -/
  names : table.names = (tokens.map Token.field).eraseDups
  /-- No name stands twice. -/
  once : table.names.Nodup
  /-- Every field is as the last token for it says. -/
  last : ∀ field ∈ table, ∃ token, lastFor tokens field.1 = some token ∧ token.Tells field.2

theorem Describes.nil : Describes [] [] where
  names := rfl
  once := List.nodup_nil
  last := fun _ h => by cases h

section Describes

variable {done tokens : List Token} {table : FieldTable}

theorem Describes.mem_names (h : Describes tokens table) {name : String} :
    name ∈ table.names ↔ ∃ token ∈ tokens, token.field = name := by
  rw [h.names, List.mem_eraseDups, List.mem_map]

theorem eraseDups_concat (before : List String) (name : String) :
    (before ++ [name]).eraseDups =
      if name ∈ before then before.eraseDups else before.eraseDups ++ [name] := by
  rw [List.eraseDups_append]
  by_cases hmem : name ∈ before
  · simp [List.removeAll, hmem]
  · simp [List.removeAll, List.eraseDups_cons, hmem]

/-- **Storing what one more token says** gives the table that the tokens describe together with
    it. -/
theorem Describes.put (h : Describes done table) {token : Token} {spec : FieldSpec}
    (htells : token.Tells spec) : Describes (done ++ [token]) (table.put token.field spec) where
  names := by
    have hmem : token.field ∈ table.names ↔ token.field ∈ done.map Token.field := by
      rw [h.names, List.mem_eraseDups]
    rw [names_put, List.map_append, List.map_singleton, eraseDups_concat, ← h.names]
    exact if_congr hmem rfl rfl
  once := nodup_put table token.field spec h.once
  last := fun field hfield => by
    rw [lastFor_concat]
    rcases mem_put table token.field spec h.once hfield with rfl | ⟨hold, hname⟩
    · exact ⟨token, if_pos rfl, htells⟩
    · rw [if_neg (Ne.symm hname)]
      exact h.last field hold

/-- **Storing all tokens**, if their letters stand for kinds, gives the table that they describe. -/
theorem putTokens_of_known (h : Describes done table) (hproper : ∀ token ∈ tokens, token.IsProper)
    (hknown : ∀ token ∈ tokens, token.IsKnown) :
    ∃ result, putTokens table (tokens.map Token.text) = .ok result ∧
      Describes (done ++ tokens) result := by
  -- what is kept from token to token: the table describes the tokens that are done
  induction tokens generalizing done table with
  | nil => exact ⟨table, rfl, by rwa [List.append_nil]⟩
  | cons token rest ih =>
    obtain ⟨hfirst, hrest⟩ := List.forall_mem_cons.mp hproper
    obtain ⟨hletter, hletters⟩ := List.forall_mem_cons.mp hknown
    obtain ⟨spec, hread, htells⟩ := hfirst.readToken_of_known hletter
    obtain ⟨result, hresult, hdescribes⟩ := ih (h.put htells) hrest hletters
    refine ⟨result, ?_, by rwa [List.append_assoc] at hdescribes⟩
    rw [List.map_cons, putTokens, hread]
    exact hresult

/-- One token with another letter is enough for no table at all, whatever was stored before. -/
theorem putTokens_of_unknown (hproper : ∀ token ∈ tokens, token.IsProper)
    (hunknown : ∃ token ∈ tokens, ¬ token.IsKnown) (table : FieldTable) :
    putTokens table (tokens.map Token.text) = .error .missingKey := by
  induction tokens generalizing table with
  | nil =>
    obtain ⟨_, hmem, _⟩ := hunknown
    cases hmem
  | cons token rest ih =>
    obtain ⟨hfirst, hrest⟩ := List.forall_mem_cons.mp hproper
    rw [List.map_cons, putTokens]
    by_cases hletter : token.IsKnown
    · obtain ⟨spec, hread, _⟩ := hfirst.readToken_of_known hletter
      have hlater : ∃ later ∈ rest, ¬ later.IsKnown := by
        obtain ⟨later, hlater, hodd⟩ := hunknown
        rcases List.mem_cons.mp hlater with rfl | hlater
        · exact absurd hletter hodd
        · exact ⟨later, hlater, hodd⟩
      rw [hread]
      exact ih hrest hlater (table.put token.field spec)
    · rw [hfirst.readToken_of_unknown hletter]
      rfl

/-! ## 5. Names with a mark -/

/-- **The names whose last token has a mark**: exactly those, in the order of the table, each
    once. -/
structure Lists (tokens : List Token) (table : FieldTable) (mark : Token → Prop)
    (listed : List String) : Prop where
  /-- A name is listed exactly if its last token has the mark. -/
  mem_iff : ∀ name, name ∈ listed ↔ ∃ token, lastFor tokens name = some token ∧ mark token
  /-- The names stand in the order of the table. -/
  ordered : listed.Sublist table.names
  /-- No name stands twice. -/
  once : listed.Nodup

/-- Where a mark of the tokens tells a part of the specification, the fields with this part in a
    table that tokens describe are those with the mark. -/
theorem Describes.lists (h : Describes tokens table) {part : FieldSpec → Bool}
    {mark : Token → Prop}
    (hpart_iff : ∀ {token : Token} {spec}, token.Tells spec → (part spec = true ↔ mark token)) :
    Lists tokens table mark ((table.filter fun field => part field.2).map (·.1)) where
  mem_iff := fun name => by
    constructor
    · intro hname
      obtain ⟨field, hfield, rfl⟩ := List.mem_map.mp hname
      obtain ⟨hmem, hpart⟩ := List.mem_filter.mp hfield
      obtain ⟨token, htoken, htells⟩ := h.last field hmem
      exact ⟨token, htoken, (hpart_iff htells).mp hpart⟩
    · rintro ⟨token, htoken, hmark⟩
      have hname : name ∈ table.names := h.mem_names.mpr ⟨token, mem_of_lastFor htoken⟩
      obtain ⟨field, hmem, rfl⟩ := List.mem_map.mp hname
      obtain ⟨other, hother, htells⟩ := h.last field hmem
      -- a name has one last token only, so the field says what this token does
      rw [htoken, Option.some.injEq] at hother
      have hpart : part field.2 = true := (hpart_iff htells).mpr (hother ▸ hmark)
      exact List.mem_map_of_mem (List.mem_filter.mpr ⟨hmem, hpart⟩)
  ordered := List.filter_sublist.map _
  once := h.once.sublist (List.filter_sublist.map _)

end Describes

/-! ## 6. Texts in compact notation -/

/-- **A text that holds some tokens, one after another**, with white space between every two of
    them; there may be more of it before and behind. -/
inductive Written : List Token → List Char → Prop where
  /-- Nothing is left. -/
  | nothing : Written [] []
  /-- White space comes first. -/
  | blank {tokens : List Token} {c : Char} {rest : List Char} (hc : Text.isBlank c = true)
      (hrest : Written tokens rest) : Written tokens (c :: rest)
  /-- A single token is left. -/
  | last {token : Token} (h : token.IsProper) : Written [token] token.text
  /-- A token comes first, and white space follows. -/
  | next {token : Token} {tokens : List Token} {c : Char} {rest : List Char} (h : token.IsProper)
      (hc : Text.isBlank c = true) (hrest : Written tokens rest) :
      Written (token :: tokens) (token.text ++ c :: rest)

section Written

variable {tokens : List Token} {cs : List Char}

/-- There may be any white space before the tokens. -/
theorem Written.blanks (gap : List Char) (hgap : ∀ c ∈ gap, Text.isBlank c = true)
    (h : Written tokens cs) : Written tokens (gap ++ cs) := by
  induction gap with
  | nil => exact h
  | cons c more ih =>
    obtain ⟨hc, hmore⟩ := List.forall_mem_cons.mp hgap
    exact .blank hc (ih hmore)

/-- There may be any white space between tokens that is not empty. -/
theorem Written.spaced {token : Token} (h : token.IsProper) (gap : List Char) (hne : gap ≠ [])
    (hgap : ∀ c ∈ gap, Text.isBlank c = true) (hrest : Written tokens cs) :
    Written (token :: tokens) (token.text ++ (gap ++ cs)) := by
  cases gap with
  | nil => exact absurd rfl hne
  | cons c more =>
    obtain ⟨hc, hmore⟩ := List.forall_mem_cons.mp hgap
    exact .next h hc (hrest.blanks more hmore)

theorem Written.isProper (h : Written tokens cs) : ∀ token ∈ tokens, token.IsProper := by
  induction h with
  | nothing => exact fun _ hmem => by cases hmem
  | blank _ _ ih => exact ih
  | last h => exact List.forall_mem_singleton.mpr h
  | next h _ _ ih => exact List.forall_mem_cons.mpr ⟨h, ih⟩

/-- **The words of such a text are its tokens.** -/
theorem Written.words_eq (h : Written tokens cs) : Text.words cs = tokens.map Token.text := by
  induction h with
  | nothing => rfl
  | blank hc _ ih => rw [Text.words_cons_blank hc, ih]
  | last h => exact Text.words_of_solid h.text_ne_nil h.text_solid
  | next h hc _ ih =>
    rw [Text.words_append_blank hc, Text.words_of_solid h.text_ne_nil h.text_solid, ih]
    rfl

end Written

/-- **Tables in compact notation are read exactly.** A text that holds some tokens is read as the
    table that they describe if their letters stand for kinds, and as no table otherwise. An entity
    with such a table has rows chosen by the names without the flag `o`, and sorted by those without
    the flag `f`, where the last token for a name counts. -/
theorem ofText_exact {tokens : List Token} {text : String} (h : Written tokens text.toList) :
    ((∀ token ∈ tokens, token.IsKnown) →
      ∃ table, ofText text = .ok table ∧ Describes tokens table ∧
        ∀ e : Entity, e.fields = table →
          Lists tokens table (fun token => 'o' ∉ token.flags) e.filterable ∧
          Lists tokens table (fun token => 'f' ∉ token.flags) e.sortable) ∧
    ((∃ token ∈ tokens, ¬ token.IsKnown) → ofText text = .error .missingKey) := by
  rw [ofText, h.words_eq]
  constructor
  · intro hknown
    obtain ⟨table, htable, hdescribes⟩ := putTokens_of_known .nil h.isProper hknown
    refine ⟨table, htable, hdescribes, ?_⟩
    rintro e rfl
    exact ⟨hdescribes.lists Token.Tells.filterable, hdescribes.lists Token.Tells.sortable⟩
  · intro hunknown
    exact putTokens_of_unknown h.isProper hunknown []

/-- A name that comes twice keeps its place and takes what its last token says; a letter that stands
    for no kind spoils the table. -/
theorem ofText_exact_repeated :
    (∃ tokens table, Written tokens "Id:s Balance:n:o  Name Id:d:f".toList ∧
      (∀ token ∈ tokens, token.IsKnown) ∧
      table = [("Id", ⟨.date, true, false⟩), ("Balance", ⟨.number, false, true⟩), ("Name", {})] ∧
      ofText "Id:s Balance:n:o  Name Id:d:f" = .ok table ∧ Describes tokens table ∧
      ∀ e : Entity, e.fields = table →
        Lists tokens table (fun token => 'o' ∉ token.flags) e.filterable ∧
        Lists tokens table (fun token => 'f' ∉ token.flags) e.sortable) ∧
    ∃ tokens, Written tokens "Name Id:x".toList ∧ (∃ token ∈ tokens, ¬ token.IsKnown) ∧
      ofText "Name Id:x" = .error .missingKey := by
  have hspace : Text.isBlank ' ' = true := by decide
  constructor
  · have hgap : ∀ c ∈ [' ', ' '], Text.isBlank c = true := by simp [hspace]
    have hwritten : Written [.lettered "Id".toList ['s'], .flagged "Balance".toList ['n'] ['o'],
        .bare "Name".toList, .flagged "Id".toList ['d'] ['f']]
        "Id:s Balance:n:o  Name Id:d:f".toList :=
      .next (by decide) hspace <| .spaced (by decide) [' ', ' '] (by decide) hgap <|
        .next (by decide) hspace <| .last (by decide)
    have hknown : ∀ token ∈ [Token.lettered "Id".toList ['s'],
        .flagged "Balance".toList ['n'] ['o'], .bare "Name".toList,
        .flagged "Id".toList ['d'] ['f']], token.IsKnown := by decide
    obtain ⟨table, htable, hdescribes⟩ := (ofText_exact hwritten).1 hknown
    have hread : ofText "Id:s Balance:n:o  Name Id:d:f" =
      .ok [("Id", ⟨.date, true, false⟩), ("Balance", ⟨.number, false, true⟩), ("Name", {})] := rfl
    refine ⟨_, table, hwritten, hknown, ?_, htable, hdescribes⟩
    rw [hread] at htable
    exact (Except.ok.inj htable).symm
  · have hwritten : Written [.bare "Name".toList, .lettered "Id".toList ['x']]
        "Name Id:x".toList := .next (by decide) hspace (.last (by decide))
    have hunknown : ∃ token ∈ [Token.bare "Name".toList, .lettered "Id".toList ['x']],
        ¬ token.IsKnown := by decide
    exact ⟨_, hwritten, hunknown, (ofText_exact hwritten).2 hunknown⟩

/-! ## 7. The tables of the registry -/

/-- The fields that every entity has, in compact notation. -/
def commonText : String := "Id:s MetaData.CreateTime:d MetaData.LastUpdatedTime:d"

/-- The other fields of the entities of the registry in compact notation, in order. -/
def registryTexts : List String :=
  [ "Name:s SubAccount:b ParentRef:s Description:s Active:b:f Classification:s:f AccountType:s:f "
      ++ "CurrentBalance:n",
    "SyncToken:s TxnDate:d DueDate:d Balance:n TotalAmt:n VendorRef:s APAccountRef:s DocNumber:s "
      ++ "PrivateNote:s ExchangeRate:n DepartmentRef:s CurrencyRef:s",
    "TxnDate:d DocNumber:s VendorRef:s PayType:s TotalAmt:n PrivateNote:s DepartmentRef:s "
      ++ "CurrencyRef:s",
    "DisplayName:s GivenName:s FamilyName:s CompanyName:s PrimaryEmailAddr:s PrimaryPhone:s "
      ++ "Balance:n Active:b",
    "DisplayName:s GivenName:s FamilyName:s PrimaryEmailAddr:s PrimaryPhone:s EmployeeNumber:s "
      ++ "Active:b HiredDate:d ReleasedDate:d",
    "DocNumber:s TxnDate:d TxnStatus:s CustomerRef:s TotalAmt:n",
    "DocNumber:s TxnDate:d DueDate:d:f CustomerRef:s:f ClassRef:s:f DepartmentRef:s:f Balance:n "
      ++ "TotalAmt:n",
    "Name:s Active:b:f Type:s Sku:s:f ParentRef:s:o PrefVendorRef:s:o UnitPrice:n:o QtyOnHand:n:o",
    "DocNumber:s TxnDate:d PrivateNote:s Adjustment:b TotalAmt:n CurrencyRef:s",
    "DocNumber:s TxnDate:d PaymentType:s AccountRef:s EntityRef:s TotalAmt:n PrivateNote:s "
      ++ "DepartmentRef:s Credit:b",
    "SyncToken:s GivenName:s MiddleName:s FamilyName:s CompanyName:s DisplayName:s "
      ++ "PrintOnCheckName:s Active:b PrimaryPhone:s AlternatePhone:s Mobile:s Fax:s "
      ++ "PrimaryEmailAddr:s WebAddr:s Title:s Balance:n BillRate:n AcctNum:s Vendor1099:b" ]

/-- **The tables of the registry are those in compact notation**, each read from its own text. -/
theorem registry_fields :
    registryTexts.map (fun text => ofText (commonText ++ " " ++ text)) =
      Entity.all.map fun e => .ok e.fields := by
  -- Appending characters evaluates much faster than taking an appended text apart.
  simp only [registryTexts, commonText, List.map_cons, List.map_nil, ofText, String.toList_append,
    String.reduceToList]
  decide +kernel

end FieldTable

end BooksGateway
