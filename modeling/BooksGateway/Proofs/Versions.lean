import BooksGateway.Proofs.Admission

/-!
# Versions of objects

An update and a deletion both name a version of an object, by its id and its version token, and both
are turned down when one of the two is missing. They agree on what is an id. They do not agree on
what is a version token: an update takes for missing whatever does not count as given, a deletion
only null and the empty text. So the two part at zero, the token of an object that was never
changed, and at few other values.

* `Value.isHollow_iff`: the tokens at which the two part;
* `incomplete_update_iff`, `incomplete_delete_iff`: when the two are turned down;
* `refusals_agree_iff`: when they agree.
-/

namespace BooksGateway

/-! ## 1. Values that hold nothing -/

/-- **The values that do not count as given, but are neither null nor the empty text.** -/
inductive Value.IsHollow : Value → Prop where
  /-- A truth value. -/
  | no : IsHollow (.bool false)
  /-- A whole number. -/
  | zero : IsHollow (.int 0)
  /-- The floating-point zeros. -/
  | floatZero (negative : Bool) : IsHollow (.float (.finite negative 0))
  /-- A list. -/
  | noItems : IsHollow (.list [])
  /-- A mapping. -/
  | noFields : IsHollow (.obj [])

namespace Value

theorem IsHollow.not_isTruthy {v : Value} (h : v.IsHollow) : v.isTruthy = false := by
  cases h <;> rfl

theorem isHollow_iff {v : Value} :
    v.IsHollow ↔ v.isTruthy = false ∧ v ≠ .null ∧ v ≠ .str "" := by
  constructor
  · intro h
    refine ⟨h.not_isTruthy, ?_, ?_⟩
    · rintro rfl
      cases h
    · rintro rfl
      cases h
  · rintro ⟨hempty, hnull, htext⟩
    cases v with
    | null => exact absurd rfl hnull
    | bool b =>
      obtain rfl : b = false := hempty
      exact .no
    | int n =>
      obtain rfl : n = 0 := by simpa [isTruthy] using hempty
      exact .zero
    | float x =>
      cases x with
      | finite negative units =>
        obtain rfl : units = 0 := by simpa [isTruthy, Binary64.isNonzero] using hempty
        exact .floatZero negative
      | nan => cases hempty
      | infinite negative => cases hempty
    | str s =>
      obtain rfl : s = "" := by simpa [isTruthy] using hempty
      exact absurd rfl htext
    | list items =>
      obtain rfl : items = [] := by simpa [isTruthy] using hempty
      exact .noItems
    | obj fields =>
      obtain rfl : fields = [] := by simpa [isTruthy] using hempty
      exact .noFields

end Value

/-! ## 2. Calls that name a version -/

/-- The failures of calls that name no version of an object. -/
inductive Failure.IsIncomplete : Failure → Prop where
  /-- An update lacks these keys. -/
  | update (label : String) (missing : List String) : IsIncomplete (.updateIncomplete label missing)
  /-- A deletion lacks the id or the token. -/
  | deletion (label : String) : IsIncomplete (.deleteIncomplete label)

theorem Failure.IsIncomplete.isRefusal {f : Failure} (h : f.IsIncomplete) : f.IsRefusal := by
  cases h with
  | update label missing => exact .updateIncomplete label missing
  | deletion label => exact .deleteIncomplete label

/-- Access is refused only for want of a token or of a company. -/
theorem Access.resolve_eq_error {settings : Settings} {credentials : Option Credentials}
    {realm : Value} {f : Failure} (h : resolve settings credentials realm = .error f) :
    f = .noToken ∨ f = .noCompany := by
  unfold resolve at h
  split at h
  · split at h
    · split at h
      · exact .inl (Except.error.inj h).symm
      · dsimp only at h
        split at h
        · cases h
        · exact .inr (Except.error.inj h).symm
    · exact .inl (Except.error.inj h).symm
  · exact .inl (Except.error.inj h).symm

namespace Call

open Gateway

theorem isNoVersion_iff {v : Value} : isNoVersion v = true ↔ v = .null ∨ v = .str "" := by
  cases v <;> simp [isNoVersion]

/-- The keys that an update lacks when it says this id and this token. -/
def lacking (id version : Value) : List String :=
  (if id.isTruthy then [] else ["Id"]) ++ if version.isTruthy then [] else ["SyncToken"]

theorem lacking_eq_nil_iff {id version : Value} :
    lacking id version = [] ↔ id.isTruthy = true ∧ version.isTruthy = true := by
  unfold lacking
  cases id.isTruthy <;> cases version.isTruthy <;> simp

theorem missingKeys_obj {fields : Fields} {id version : Value} (hid : fields.getD "Id" = id)
    (hversion : fields.getD "SyncToken" = version) :
    missingKeys (.obj fields) = .ok (lacking id version) := by
  rw [missingKeys, versionKeys, lacking, List.filter_cons, List.filter_cons, hid, hversion]
  cases id.isTruthy <;> cases version.isTruthy <;> rfl

/-- A call that was turned down because it names no version. -/
def Incomplete (outcome : Except Failure Value) : Prop := ∃ f, outcome = .error f ∧ f.IsIncomplete

variable {σ : Type} (server : Server σ) (sandbox : Option Bool) (realm : Value)

/-- An inquiry about an object fails in many ways, but never for want of a version. -/
theorem not_incomplete_inquireObject (e : Entity) (shown : Fields) (inquiry : Inquiry)
    (s : Session σ) :
    ¬ Incomplete ((inquireObject server sandbox realm e shown inquiry).execute s).1 := by
  rintro ⟨f, hf, hincomplete⟩
  unfold inquireObject at hf
  rw [execute_bind, execute_access] at hf
  cases haccess : Access.resolve s.settings s.credentials realm with
  | error g =>
    rw [haccess] at hf
    cases hf
    obtain rfl | rfl := Access.resolve_eq_error haccess <;> cases hincomplete
  | ok access =>
    rw [haccess] at hf
    refine (Within.bind (asksOnly_inquire server access sandbox inquiry) (fun data => ?_) s).2 f hf
      hincomplete.isRefusal
    exact .bind (within_ofMisuse _) fun object => within_pure _

/-! ## 3. Updates and deletions -/

variable {entity : Value} {e : Entity} {fields : Fields} {id version : Value}

/-- An update that lacks a key is turned down and changes nothing; any other goes on. -/
theorem execute_update (hget : Entity.get entity = .ok e) (hid : fields.getD "Id" = id)
    (hversion : fields.getD "SyncToken" = version) (s : Session σ) :
    ((update entity (.obj fields)).perform server sandbox realm).execute s =
      if lacking id version = [] then
        (inquireObject server sandbox realm e []
          { method := "POST", path := e.endpoint, body := .obj fields }).execute s
      else (.error (.updateIncomplete e.singular (lacking id version)), s) := by
  rw [perform, execute_bind, execute_ofExcept, hget]
  dsimp only
  rw [execute_bind, execute_ofExcept, checkUpdate, missingKeys_obj hid hversion]
  cases lacking id version <;> rfl

/-- A deletion without an id or a token is turned down and changes nothing; any other goes on. -/
theorem execute_delete (hget : Entity.get entity = .ok e) (s : Session σ) :
    ((delete entity id version).perform server sandbox realm).execute s =
      if id.isTruthy && !isNoVersion version then
        (inquireObject server sandbox realm e [("id", id)]
          { method := "POST", path := e.endpoint
            params := [("operation", .str "delete")]
            body := .obj [("Id", id), ("SyncToken", version)] }).execute s
      else (.error (.deleteIncomplete e.singular), s) := by
  rw [perform, execute_bind, execute_ofExcept, hget]
  dsimp only
  rw [execute_bind, execute_ofExcept, checkDelete]
  cases id.isTruthy && !isNoVersion version <;> rfl

theorem incomplete_update_iff (hget : Entity.get entity = .ok e) (hid : fields.getD "Id" = id)
    (hversion : fields.getD "SyncToken" = version) (s : Session σ) :
    Incomplete (((update entity (.obj fields)).perform server sandbox realm).execute s).1 ↔
      ¬ (id.isTruthy = true ∧ version.isTruthy = true) := by
  rw [execute_update server sandbox realm hget hid hversion, ← lacking_eq_nil_iff]
  by_cases hlacking : lacking id version = []
  · rw [if_pos hlacking]
    exact iff_of_false (not_incomplete_inquireObject server sandbox realm e _ _ s)
      (not_not_intro hlacking)
  · rw [if_neg hlacking]
    exact iff_of_true ⟨_, rfl, .update _ _⟩ hlacking

theorem incomplete_delete_iff (hget : Entity.get entity = .ok e) (s : Session σ) :
    Incomplete (((delete entity id version).perform server sandbox realm).execute s).1 ↔
      ¬ (id.isTruthy = true ∧ version ≠ .null ∧ version ≠ .str "") := by
  rw [execute_delete server sandbox realm hget]
  have hgiven : (id.isTruthy && !isNoVersion version) = true ↔
      id.isTruthy = true ∧ version ≠ .null ∧ version ≠ .str "" := by
    rw [Bool.and_eq_true, Bool.not_eq_true', ← Bool.not_eq_true, isNoVersion_iff, not_or]
  rw [← hgiven]
  by_cases hcheck : (id.isTruthy && !isNoVersion version) = true
  · rw [if_pos hcheck]
    exact iff_of_false (not_incomplete_inquireObject server sandbox realm e _ _ s)
      (not_not_intro hcheck)
  · rw [if_neg hcheck]
    exact iff_of_true ⟨_, rfl, .deletion _⟩ hcheck

/-- **When an update and a deletion agree on what names a version.** Take an update whose object
    says an id and a token, and a deletion with the same id and token. Each is turned down for want
    of a version under a condition on the two values alone. They agree unless the id counts as given
    and the token is false, a zero, an empty list or an empty mapping; then the update is turned
    down, with the token as the one missing key, and the deletion goes on with that token. -/
theorem refusals_agree_iff (hget : Entity.get entity = .ok e) (hid : fields.getD "Id" = id)
    (hversion : fields.getD "SyncToken" = version) (s : Session σ) :
    let updated := ((update entity (.obj fields)).perform server sandbox realm).execute s
    let deleted := ((delete entity id version).perform server sandbox realm).execute s
    (Incomplete updated.1 ↔ ¬ (id.isTruthy = true ∧ version.isTruthy = true)) ∧
    (Incomplete deleted.1 ↔ ¬ (id.isTruthy = true ∧ version ≠ .null ∧ version ≠ .str "")) ∧
    ((Incomplete updated.1 ↔ Incomplete deleted.1) ↔ ¬ (id.isTruthy = true ∧ version.IsHollow)) ∧
    (id.isTruthy = true → version.IsHollow →
      updated = (.error (.updateIncomplete e.singular ["SyncToken"]), s) ∧
      deleted = (inquireObject server sandbox realm e [("id", id)]
        { method := "POST", path := e.endpoint
          params := [("operation", .str "delete")]
          body := .obj [("Id", id), ("SyncToken", version)] }).execute s) := by
  intro updated deleted
  have hupdated := incomplete_update_iff server sandbox realm hget hid hversion s
  have hdeleted : Incomplete deleted.1 ↔ _ := incomplete_delete_iff server sandbox realm hget s
  refine ⟨hupdated, hdeleted, ?_, fun hgiven hhollow => ?_⟩
  · rw [hupdated, hdeleted, Value.isHollow_iff]
    have htruthy : version.isTruthy = true → version ≠ .null ∧ version ≠ .str "" := by
      intro htrue
      constructor
      · rintro rfl
        cases htrue
      · rintro rfl
        cases htrue
    cases hgiven : id.isTruthy
    · simp
    · cases htrue : version.isTruthy
      · simp
      · simp [htruthy htrue]
  · have hlacking : lacking id version = ["SyncToken"] := by
      rw [lacking, hgiven, hhollow.not_isTruthy]
      rfl
    obtain ⟨_, hnull, htext⟩ := Value.isHollow_iff.mp hhollow
    constructor
    · show ((update entity (.obj fields)).perform server sandbox realm).execute s = _
      rw [execute_update server sandbox realm hget hid hversion, hlacking, if_neg nofun]
    · show ((delete entity id version).perform server sandbox realm).execute s = _
      rw [execute_delete server sandbox realm hget, if_pos]
      rw [hgiven, Bool.true_and, Bool.not_eq_true', ← Bool.not_eq_true, isNoVersion_iff, not_or]
      exact ⟨hnull, htext⟩

theorem refusals_agree_iff_neverChanged :
    ∃ e, ∃ fields : Fields, Entity.get (.str "Customer") = .ok e ∧ fields.getD "Id" = .str "7" ∧
      fields.getD "SyncToken" = .int 0 ∧
      ((update (.str "Customer") (.obj fields)).perform Server.queued none .null).execute
        Step.caller = (.error (.updateIncomplete "customer" ["SyncToken"]), Step.caller) ∧
      ¬ Incomplete (((delete (.str "Customer") (.str "7") (.int 0)).perform Server.queued none
        .null).execute Step.caller).1 := by
  obtain ⟨e, hget, hsingular⟩ :
      ∃ e, Entity.get (.str "Customer") = .ok e ∧ e.singular = "customer" := ⟨_, rfl, rfl⟩
  have hid : Fields.getD [("Id", .str "7"), ("SyncToken", .int 0)] "Id" = .str "7" := rfl
  have hversion : Fields.getD [("Id", .str "7"), ("SyncToken", .int 0)] "SyncToken" = .int 0 := rfl
  obtain ⟨_, hdeleted, _, hhollow⟩ :=
    refusals_agree_iff Server.queued none .null hget hid hversion Step.caller
  refine ⟨e, _, hget, hid, hversion, ?_, ?_⟩
  · rw [(hhollow rfl .zero).1, hsingular]
  · rw [hdeleted]
    exact not_not_intro ⟨rfl, nofun, nofun⟩

end Call

end BooksGateway
