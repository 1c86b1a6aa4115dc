import BooksGateway.Proofs.Admission
import BooksGateway.Proofs.Reading.Unambiguous
import BooksGateway.Proofs.Windows
import Mathlib.Data.List.Nodup

/-!
# The spelling of names

An entity is found under its name in any letter case, and under no other text. A call on an entity
uses the name that it is given to find the entity and never afterwards. So it makes no difference to
a call in which letter case the entity is named: what is sent and what comes of it is the same, and
queries hold the name as the registry spells it.

* `ofName?_eq_some_iff`: the texts that name an entity;
* `OnEntity.exists_rest`: what a call on an entity does once the entity is found;
* `Query.Names`, `asksFor_run`: the queries of a search hold the name of the entity;
* `spelling_irrelevant`: calls on an entity in two spellings.
-/

namespace BooksGateway

/-! ## 1. Finding an entity -/

namespace Entity

/-- In lower case, too, no two entities have the same name. -/
theorem lower_names_nodup : (all.map fun e => Text.lower e.name).Nodup := by decide +kernel

theorem eq_of_lower_eq {e other : Entity} (he : e ∈ all) (hother : other ∈ all)
    (h : Text.lower e.name = Text.lower other.name) : e = other :=
  List.inj_on_of_nodup_map lower_names_nodup he hother h

/-- **A text names an entity exactly if it is its name but for letter case.** -/
theorem ofName?_eq_some_iff {name : String} {e : Entity} :
    ofName? name = some e ↔ e ∈ all ∧ Text.lower e.name = Text.lower name := by
  have hunique : ∀ {found : Entity}, found ∈ all → Text.lower found.name = Text.lower name →
      (found = e ↔ e ∈ all ∧ Text.lower e.name = Text.lower name) := by
    intro found hfound hname
    constructor
    · rintro rfl
      exact ⟨hfound, hname⟩
    · rintro ⟨he, hlower⟩
      exact eq_of_lower_eq hfound he (hname.trans hlower.symm)
  unfold ofName?
  cases hexact : named? name with
  | some found =>
    -- the name as it stands is found first, and lower case would lead to the same entity
    have hname : found.name = name := by simpa using List.find?_some hexact
    rw [Option.some.injEq]
    exact hunique (List.mem_of_find?_eq_some hexact) (congrArg Text.lower hname)
  | none =>
    dsimp only
    cases hlower : namedInLower? (Text.lower name) with
    | some found =>
      have hname : Text.lower found.name = Text.lower name := by simpa using List.find?_some hlower
      rw [Option.some.injEq]
      exact hunique (List.mem_of_find?_eq_some hlower) hname
    | none =>
      constructor
      · rintro ⟨⟩
      · rintro ⟨he, hname⟩
        exact absurd (beq_iff_eq.mpr hname) (List.find?_eq_none.mp hlower e he)

theorem get_of_lower_eq {name : String} {e : Entity} (he : e ∈ all)
    (h : Text.lower e.name = Text.lower name) : get (.str name) = .ok e := by
  rw [get, find?, ofName?_eq_some_iff.mpr ⟨he, h⟩]
  rfl

/-- A text that is no entity's name in any letter case is turned down, with a message that shows it
    as it stands. -/
theorem get_of_unknown {name : String} (h : ∀ e ∈ all, Text.lower e.name ≠ Text.lower name) :
    get (.str name) = .error (.rejected [unknownText (.str name)]) := by
  have hnone : ofName? name = none := by
    refine Option.eq_none_iff_forall_ne_some.mpr fun e hsome => ?_
    obtain ⟨he, hname⟩ := ofName?_eq_some_iff.mp hsome
    exact h e he hname
  rw [get, find?, hnone]
  rfl

end Entity

/-! ## 2. Calls on an entity -/

namespace Call

open Gateway

/-- The calls on an entity, by the value that names the entity; all else that is given is fixed. -/
inductive OnEntity : (Value → Call) → Prop where
  /-- Search its rows. -/
  | search (criteria : Value) : OnEntity fun entity => .search entity criteria
  /-- Create an object. -/
  | create (payload : Value) : OnEntity fun entity => .create entity payload
  /-- Read an object. -/
  | get (id : Value) : OnEntity fun entity => .get entity id
  /-- Update an object. -/
  | update (payload : Value) : OnEntity fun entity => .update entity payload
  /-- Delete a version of an object. -/
  | delete (id version : Value) : OnEntity fun entity => .delete entity id version

variable {σ : Type} (server : Server σ) (sandbox : Option Bool) (realm : Value)

/-- **A call on an entity finds the entity first**, and what it does then hangs on the entity only,
    not on how it was named. -/
theorem OnEntity.exists_rest {op : Value → Call} (h : OnEntity op) :
    ∃ rest : Entity → Gateway σ Value, ∀ entity,
      (op entity).perform server sandbox realm = ofExcept (Entity.get entity) >>= rest := by
  cases h <;> exact ⟨_, fun _ => rfl⟩

theorem OnEntity.execute_of_error {op : Value → Call} (h : OnEntity op) {entity : Value}
    {f : Failure} (hget : Entity.get entity = .error f) (s : Session σ) :
    ((op entity).perform server sandbox realm).execute s = (.error f, s) := by
  obtain ⟨rest, hrest⟩ := h.exists_rest server sandbox realm
  rw [hrest, execute_bind, execute_ofExcept, hget]

theorem OnEntity.perform_congr {op : Value → Call} (h : OnEntity op) {entity other : Value}
    (hget : Entity.get entity = Entity.get other) :
    (op entity).perform server sandbox realm = (op other).perform server sandbox realm := by
  obtain ⟨rest, hrest⟩ := h.exists_rest server sandbox realm
  rw [hrest, hrest, hget]

end Call

/-! ## 3. The name in a query -/

namespace Query

/-- **A text that asks for the rows of an entity, or for their number.** Its name is followed by
    nothing or by a clause. -/
inductive Names (e : Entity) : String → Prop where
  /-- It asks for rows. -/
  | rows {clauses : String} (h : Reading.Opens ['W', 'O', 'M', 'S'] clauses.toList) :
    Names e ("SELECT * FROM " ++ e.name ++ clauses)
  /-- It asks for their number. -/
  | count : Names e ("SELECT COUNT(*) FROM " ++ e.name)

variable {e : Entity} {q : Query} {text : String}

theorem names_text (hentity : q.entity = e.name) (h : q.text = .ok text) : Names e text := by
  have hrender : text = q.statement.render := by
    unfold Query.text at h
    split at h
    · cases h
      rfl
    · cases h
  have hname : q.statement.entity = e.name := hentity
  by_cases hcount : q.statement.countOnly = true
  · rw [hrender, Statement.render, if_pos hcount, hname]
    exact .count
  · rw [hrender, Statement.render_rows (Bool.eq_false_iff.mpr hcount), hname]
    simp only [String.append_assoc]
    rw [← String.append_assoc]
    refine .rows ?_
    simp only [String.toList_append]
    exact (Reading.opens_whereClause _).append <| (Reading.opens_orderClause _).append <|
      (Reading.opens_limitClause _).append (Reading.opens_firstClause _)

theorem entity_take {entry : Fields} {next : Query} (h : q.take entry = .ok next) :
    next.entity = q.entity := by
  unfold take at h
  dsimp only at h
  split at h
  · cases h
    rfl
  · cases h
    rfl
  · obtain ⟨_, _, hnext⟩ := exists_of_bind h
    cases hnext
    rfl
  · obtain ⟨_, _, hnext⟩ := exists_of_bind h
    cases hnext
    rfl
  all_goals
    cases h
    rfl

theorem entity_foldlM_take {entries : List Fields} {last : Query}
    (h : entries.foldlM take q = .ok last) : last.entity = q.entity := by
  induction entries generalizing q with
  | nil =>
    cases h
    rfl
  | cons entry rest ih =>
    rw [List.foldlM_cons] at h
    obtain ⟨next, hnext, hlast⟩ := exists_of_bind h
    rw [ih hlast, entity_take hnext]

/-- Whatever criteria say, their query is about the entity that it is made for. -/
theorem entity_ofCriteria {entity : String} {criteria : Criteria}
    (h : ofCriteria entity criteria = .ok q) : q.entity = entity := by
  cases criteria with
  | equalities fields =>
    cases h
    rfl
  | entries items =>
    rw [ofCriteria, ofEntries] at h
    split at h
    · cases h
      rfl
    · exact entity_foldlM_take h

theorem names_compile {criteria : Criteria} (h : compile e criteria = .ok text) :
    Names e text := by
  obtain ⟨_, _, h⟩ := exists_of_bind h
  obtain ⟨q, hq, htext⟩ := exists_of_bind h
  exact names_text (entity_ofCriteria hq) htext

end Query

/-- A request whose query names an entity. -/
def Request.AsksFor (e : Entity) (request : Request) : Prop :=
  ∃ text, Fields.get? request.params "query" = some (.str text) ∧ Query.Names e text

namespace Search

open Gateway

variable {σ : Type} (server : Server σ) (sandbox : Option Bool) {e : Entity}

theorem anyFailure {α : Type} (r : Except Failure α) : FailsOnly (fun _ => True) r :=
  fun _ _ => True.intro

theorem asksFor_ask (access : Access) {text : String} (h : Query.Names e text) :
    Within (·.AsksFor e) (fun _ => True) (ask server access sandbox (.str text)) := by
  refine within_inquire server access sandbox (fun settings request hrequest => ?_)
    (fun _ => anyFailure _) fun _ => anyFailure _
  rw [request_query] at hrequest
  exact ⟨text, query_of_queryRequest hrequest, h⟩

/-- **All queries of a search name the entity as the registry does**, those of all pages too. -/
theorem asksFor_run (realm criteria : Value) {entity : Value} (hget : Entity.get entity = .ok e) :
    Within (·.AsksFor e) (fun _ => True) (run server sandbox realm entity criteria) := by
  refine within_ofExcept_bind (anyFailure _) fun found hfound => ?_
  rw [hget] at hfound
  cases hfound
  refine .bind (within_ofExcept (anyFailure _)) fun canonical => ?_
  refine .bind (.bind within_session fun s => within_ofExcept (anyFailure _)) fun access => ?_
  refine within_ofExcept_bind (anyFailure _) fun q hq => ?_
  refine within_ofExcept_bind (anyFailure _) fun text htext => ?_
  have hask := asksFor_ask server sandbox access
    (Query.names_text (Query.entity_ofCriteria hq) htext)
  split
  · refine .bind hask fun data => ?_
    exact .bind (within_ofExcept (anyFailure _)) fun total => within_pure _
  · dsimp only
    split
    · refine .bind (.bind within_session fun s => ?_) fun pages =>
        within_ofExcept (anyFailure _)
      refine .bind (within_ofExcept (anyFailure _)) fun cap => ?_
      exact within_fetchPages server access sandbox (fun _ => anyFailure _)
        (fun _ _ hcompile => asksFor_ask server sandbox access (Query.names_compile hcompile))
        (fun _ => True.intro) _ _
    · refine .bind hask fun data => ?_
      refine .bind (within_ofExcept (anyFailure _)) fun rows => ?_
      exact .bind (within_ofExcept (anyFailure _)) fun parts => within_pure _

end Search

/-! ## 4. Two spellings of a name -/

namespace Call

/-- **The spelling of a name does not matter.** Two texts that are equal in lower case never name
    two entities. Either no entity has such a name, and every call on either is turned down for that
    reason and leaves the session as it is. Or both name the same entity, and every call on the one
    does in every session exactly what the same call on the other does; the queries of a search
    name the entity as the registry spells it. -/
theorem spelling_irrelevant {name other : String} (h : Text.lower name = Text.lower other)
    {σ : Type} (server : Server σ) (sandbox : Option Bool) (realm : Value) :
    (∀ e found, Entity.get (.str name) = .ok e → Entity.get (.str other) = .ok found →
      e = found) ∧
    ((∀ op, OnEntity op → ∀ spelling, spelling = name ∨ spelling = other → ∀ s : Session σ,
        ((op (.str spelling)).perform server sandbox realm).execute s =
          (.error (.rejected [Entity.unknownText (.str spelling)]), s)) ∨
      ∃ e ∈ Entity.all, Entity.get (.str name) = .ok e ∧ Entity.get (.str other) = .ok e ∧
        (∀ op, OnEntity op → ∀ s : Session σ,
          ((op (.str name)).perform server sandbox realm).execute s =
            ((op (.str other)).perform server sandbox realm).execute s) ∧
        ∀ (criteria : Value) (s : Session σ), ∃ requests,
          (((Call.search (.str name) criteria).perform server sandbox realm).execute s).2.sent =
            s.sent ++ requests ∧
          ∀ request ∈ requests, request.AsksFor e) := by
  by_cases hknown : ∃ e ∈ Entity.all, Text.lower e.name = Text.lower name
  · obtain ⟨e, he, hname⟩ := hknown
    have hget := Entity.get_of_lower_eq he hname
    have hother := Entity.get_of_lower_eq he (hname.trans h)
    refine ⟨?_, .inr ⟨e, he, hget, hother, fun op hop s => ?_, fun criteria s => ?_⟩⟩
    · rw [hget, hother]
      rintro _ _ ⟨⟩ ⟨⟩
      rfl
    · rw [hop.perform_congr server sandbox realm (hget.trans hother.symm)]
    · exact (Search.asksFor_run server sandbox realm criteria hget s).1.sent
  · have hunknown : ∀ e ∈ Entity.all, Text.lower e.name ≠ Text.lower name :=
      fun e he hname => hknown ⟨e, he, hname⟩
    have hget := Entity.get_of_unknown hunknown
    have hother := Entity.get_of_unknown (fun e he hname => hunknown e he (hname.trans h.symm))
    refine ⟨?_, .inl ?_⟩
    · rw [hget]
      rintro _ _ ⟨⟩
    · rintro op hop _ (rfl | rfl) s
      · exact hop.execute_of_error server sandbox realm hget s
      · exact hop.execute_of_error server sandbox realm hother s

theorem spelling_irrelevant_billPayment :
    Text.lower "billpayment" = Text.lower "BILLPayment" ∧
    ∃ e, e.name = "BillPayment" ∧ Entity.get (.str "billpayment") = .ok e ∧
      Entity.get (.str "BILLPayment") = .ok e ∧
      ∃ requests,
        (((Call.search (.str "billpayment") .null).perform Server.queued none .null).execute
          Step.caller).2.sent = requests ∧
        (((Call.search (.str "BILLPayment") .null).perform Server.queued none .null).execute
          Step.caller).2.sent = requests ∧
        requests.length = 1 ∧ ∀ request ∈ requests, request.AsksFor e := by
  have hlower : Text.lower "billpayment" = Text.lower "BILLPayment" := by decide
  obtain ⟨_, hunknown | ⟨e, _, hget, hother, hsame, hasks⟩⟩ :=
    spelling_irrelevant hlower Server.queued none .null
  · -- the search is carried out, so it was not turned down
    have hresult := congrArg (fun outcome => outcome.1.isOk)
      (hunknown _ (.search .null) "billpayment" (.inl rfl) Step.caller)
    have hok : (((Call.search (.str "billpayment") .null).perform Server.queued none .null).execute
        Step.caller).1.isOk = true := rfl
    rw [hok] at hresult
    cases hresult
  · have hname : (Entity.get (.str "billpayment")).map Entity.name = .ok "BillPayment" := rfl
    rw [hget] at hname
    obtain ⟨requests, hsent, hrequests⟩ := hasks .null Step.caller
    have hlength : (((Call.search (.str "billpayment") .null).perform Server.queued none
        .null).execute Step.caller).2.sent.length = 1 := rfl
    have hempty : Step.caller.sent = [] := rfl
    rw [hempty, List.nil_append] at hsent
    refine ⟨hlower, e, Except.ok.inj hname, hget, hother, requests, hsent, ?_, ?_, hrequests⟩
    · rw [← hsame _ (.search .null) Step.caller, hsent]
    · rw [← hsent, hlength]

end Call

end BooksGateway
