import BooksGateway.Proofs.Assembly
import BooksGateway.Proofs.Bearer
import BooksGateway.Proofs.Sending
import BooksGateway.Session.Script

/-!
# Nothing is sent for calls that are not admissible

A call sends requests only when its entity is known, what it is given passes the checks, the current
credentials hold a token, and a company is found. All its requests carry that token and go to that
company. A call that is turned down leaves the session as it is.

* `perform_actsOnlyIf`: what a call does;
* `Access.resolve_eq_ok`: what access needs;
* `Reached`: the sessions that come about by steps;
* `run_isShown`, `isShown_of_reached`: the tokens of their callers;
* `sends_only_if_admissible`: calls in these sessions.
-/

namespace BooksGateway

/-! ## 1. What a call does -/

namespace Gateway

variable {σ α β : Type}

/-- A computation whose failures are handled; what was changed by then stays changed. -/
theorem execute_tryCatch (g : Gateway σ α) (handle : Failure → Gateway σ α) (s : Session σ) :
    (tryCatch g handle : Gateway σ α).execute s =
      match g.execute s with
      | (.ok a, after) => (.ok a, after)
      | (.error f, after) => (handle f).execute after := by
  simp only [tryCatch, tryCatchThe, MonadExceptOf.tryCatch, ExceptT.tryCatch, execute, ExceptT.run,
    ExceptT.mk, bind, StateT.bind]
  rcases g s with ⟨f | a, after⟩ <;> rfl

/-- A computation that changes nothing in a session, unless it is admitted: then it finds access,
    sends nothing but requests for it, and turns nothing down. -/
def ActsOnlyIf (admitted : Prop) (realm : Value) (g : Gateway σ α) (s : Session σ) : Prop :=
  (g.execute s).2 = s ∨
    admitted ∧ ∃ access, Access.resolve s.settings s.credentials realm = .ok access ∧
      Session.Extends (·.IsFor access) s (g.execute s).2 ∧ NeverRefuses (g.execute s).1

namespace ActsOnlyIf

variable {admitted : Prop} {realm : Value} {s : Session σ}

/-- A check that stands first changes nothing when it fails. -/
theorem ofExcept_bind {r : Except Failure α} {next : α → Gateway σ β}
    (hnext : ∀ a, r = .ok a → ActsOnlyIf admitted realm (next a) s) :
    ActsOnlyIf admitted realm (ofExcept r >>= next) s := by
  unfold ActsOnlyIf
  rw [execute_bind, execute_ofExcept]
  cases r with
  | ok a => exact hnext a rfl
  | error f => exact .inl rfl

/-- What is admitted seeks access, and changes nothing when there is none. -/
theorem access_bind {next : Access → Gateway σ α} (hadmitted : admitted)
    (hnext : ∀ access, AsksOnly access (next access)) :
    ActsOnlyIf admitted realm (access realm >>= next) s := by
  unfold ActsOnlyIf
  rw [execute_bind, execute_access]
  cases hresolve : Access.resolve s.settings s.credentials realm with
  | ok a => exact .inr ⟨hadmitted, a, rfl, hnext a s⟩
  | error f => exact .inl rfl

end ActsOnlyIf

end Gateway

/-- Reporting the failures of a computation does not change what it does to the session. -/
theorem Tool.execute_guarded {σ α : Type} (operation : String) (g : Gateway σ α) (s : Session σ) :
    (guarded operation g).execute s =
      ((g.execute s).1.mapError (wrapped s.settings operation), (g.execute s).2) := by
  rw [guarded, Gateway.execute_bind, Gateway.execute_session]
  dsimp only
  rw [Gateway.execute_tryCatch]
  rcases g.execute s with ⟨f | a, after⟩ <;> rfl

namespace Call

open Gateway

/-- The checks that a call passes before access is sought. -/
def IsAdmissible : Call → Prop
  | .query _ => True
  | .search entity criteria =>
    ∃ e canonical, Entity.get entity = .ok e ∧ Query.prepare e criteria = .ok canonical ∧
      Validation.Valid e canonical
  | .create entity _ => ∃ e, Entity.get entity = .ok e
  | .get entity id => ∃ e, Entity.get entity = .ok e ∧ id.isTruthy = true
  | .update entity payload =>
    ∃ e fields, Entity.get entity = .ok e ∧ payload = .obj fields ∧
      (Fields.getD fields "Id").isTruthy = true ∧ (Fields.getD fields "SyncToken").isTruthy = true
  | .delete entity id version =>
    ∃ e, Entity.get entity = .ok e ∧ id.isTruthy = true ∧ version ≠ .null ∧ version ≠ .str ""

theorem checkGet_eq_ok {e : Entity} {id : Value} (h : checkGet e id = .ok ()) :
    id.isTruthy = true := by
  unfold checkGet at h
  split at h
  · assumption
  · cases h

theorem checkUpdate_eq_ok {e : Entity} {payload : Value} (h : checkUpdate e payload = .ok ()) :
    ∃ fields, payload = .obj fields ∧ (Fields.getD fields "Id").isTruthy = true ∧
      (Fields.getD fields "SyncToken").isTruthy = true := by
  cases payload with
  | obj fields =>
    rw [checkUpdate, missingKeys] at h
    cases hmissing : versionKeys.filter fun key => !(Fields.getD fields key).isTruthy with
    | cons key rest =>
      rw [hmissing] at h
      cases h
    | nil =>
      have hgiven : ∀ key ∈ versionKeys, (Fields.getD fields key).isTruthy = true := by
        intro key hkey
        simpa using List.filter_eq_nil_iff.mp hmissing key hkey
      exact ⟨fields, rfl, hgiven "Id" (by decide), hgiven "SyncToken" (by decide)⟩
  | _ => cases h

theorem checkDelete_eq_ok {e : Entity} {id version : Value}
    (h : checkDelete e id version = .ok ()) :
    id.isTruthy = true ∧ version ≠ .null ∧ version ≠ .str "" := by
  unfold checkDelete at h
  split at h
  · rename_i hgiven
    rw [Bool.and_eq_true, Bool.not_eq_true'] at hgiven
    refine ⟨hgiven.1, ?_, ?_⟩
    · rintro rfl
      cases hgiven.2
    · rintro rfl
      cases hgiven.2
  · cases h

variable {σ : Type} (server : Server σ) (sandbox : Option Bool) (realm : Value)

theorem inquireObject_actsOnlyIf {admitted : Prop} (hadmitted : admitted) (e : Entity)
    (shown : Fields) (inquiry : Inquiry) (s : Session σ) :
    ActsOnlyIf admitted realm (inquireObject server sandbox realm e shown inquiry) s := by
  refine .access_bind hadmitted fun access => ?_
  refine .bind (asksOnly_inquire server access sandbox inquiry) fun data => ?_
  exact .bind (within_ofMisuse _) fun object => within_pure _

/-- **A call changes nothing unless it is admissible**; then it finds access, and sends nothing but
    requests for it. -/
theorem perform_actsOnlyIf (call : Call) (s : Session σ) :
    ActsOnlyIf call.IsAdmissible realm (call.perform server sandbox realm) s := by
  cases call with
  | query text =>
    refine .access_bind True.intro fun access => ?_
    exact .bind (asksOnly_ask server access sandbox text) fun data => within_pure _
  | search entity criteria =>
    refine .ofExcept_bind fun e he => .ofExcept_bind fun canonical haccept => ?_
    have hprepare := Query.prepare_of_accept haccept
    have hvalid := (Query.prepare_spec hprepare).1
    refine .access_bind ⟨e, canonical, he, hprepare, hvalid⟩ fun access => ?_
    -- from here on nothing is turned down: the query, and one of three ways to ask it
    refine .bind (within_ofExcept (neverRefuses_ofCriteria _ _)) fun query => ?_
    refine .bind (within_ofExcept (neverRefuses_text query)) fun text => ?_
    split
    · refine .bind (asksOnly_ask server access sandbox _) fun data => ?_
      exact .bind (within_ofMisuse _) fun total => within_pure _
    · dsimp only
      split
      · refine .bind (Search.asksOnly_fetchAll server access sandbox e _) fun pages => ?_
        exact within_ofMisuse _
      · refine .bind (asksOnly_ask server access sandbox _) fun data => ?_
        refine .bind (within_ofMisuse _) fun rows => ?_
        exact .bind (within_ofMisuse _) fun parts => within_pure _
  | create entity payload =>
    refine .ofExcept_bind fun e he => ?_
    exact inquireObject_actsOnlyIf server sandbox realm ⟨e, he⟩ e _ _ s
  | get entity id =>
    refine .ofExcept_bind fun e he => .ofExcept_bind fun _ hcheck => ?_
    exact inquireObject_actsOnlyIf server sandbox realm ⟨e, he, checkGet_eq_ok hcheck⟩ e _ _ s
  | update entity payload =>
    refine .ofExcept_bind fun e he => .ofExcept_bind fun _ hcheck => ?_
    obtain ⟨fields, hpayload⟩ := checkUpdate_eq_ok hcheck
    exact inquireObject_actsOnlyIf server sandbox realm ⟨e, fields, he, hpayload⟩ e _ _ s
  | delete entity id version =>
    refine .ofExcept_bind fun e he => .ofExcept_bind fun _ hcheck => ?_
    exact inquireObject_actsOnlyIf server sandbox realm ⟨e, he, checkDelete_eq_ok hcheck⟩ e _ _ s

end Call

/-! ## 2. Access -/

/-- The company of a call: the one that it names when that counts as given, else that of the
    credentials, else that of the settings. -/
inductive IsCompany (settings : Settings) (c : Credentials) (realm : Value) : Value → Prop
  | named (h : realm.isTruthy = true) : IsCompany settings c realm realm
  | shown (h : realm.isTruthy = false) {own : String} (hown : c.realm = some own) (hne : own ≠ "") :
      IsCompany settings c realm (.str own)
  | configured (h : realm.isTruthy = false) (hown : c.realm = none ∨ c.realm = some "")
      {company : String} (hcompany : settings.company = some company) (hne : company ≠ "") :
      IsCompany settings c realm (.str company)

theorem isTruthy_str {text : String} : (Value.str text).isTruthy = true ↔ text ≠ "" :=
  bne_iff_ne

/-- A text that may be missing counts as given when it is there and not empty. -/
theorem Credentials.optional_isTruthy {text : Option String}
    (h : (optional text).isTruthy = true) : ∃ t, text = some t ∧ t ≠ "" := by
  cases text with
  | none => cases h
  | some t => exact ⟨t, rfl, isTruthy_str.mp h⟩

theorem Access.isCompany_realmOf {settings : Settings} {c : Credentials} {realm : Value}
    (h : (realmOf settings c realm).isTruthy = true) :
    IsCompany settings c realm (realmOf settings c realm) := by
  unfold realmOf Value.orElse at h ⊢
  by_cases hrealm : realm.isTruthy = true
  · rw [if_pos hrealm]
    exact .named hrealm
  · have hnot := Bool.eq_false_iff.mpr hrealm
    rw [if_neg hrealm] at h ⊢
    by_cases hown : (Credentials.optional c.realm).isTruthy = true
    · rw [if_pos hown]
      obtain ⟨own, heq, hne⟩ := Credentials.optional_isTruthy hown
      rw [heq]
      exact .shown hnot heq hne
    · rw [if_neg hown] at h ⊢
      obtain ⟨company, heq, hne⟩ := Credentials.optional_isTruthy h
      rw [heq]
      refine .configured hnot ?_ heq hne
      cases howned : c.realm with
      | none => exact .inl rfl
      | some own =>
        rw [howned] at hown
        by_cases hempty : own = ""
        · exact .inr (congrArg some hempty)
        · exact absurd (isTruthy_str.mpr hempty) hown

/-- **Access needs a caller with a token, and a company.** -/
theorem Access.resolve_eq_ok {settings : Settings} {credentials : Option Credentials}
    {realm : Value} {access : Access} (h : resolve settings credentials realm = .ok access) :
    ∃ c, credentials = some c ∧ c.token = some access.token ∧ access.token ≠ "" ∧
      IsCompany settings c realm access.realm := by
  unfold resolve at h
  cases credentials with
  | none => cases h
  | some c =>
    cases htoken : c.token with
    | none =>
      simp only [htoken] at h
      cases h
    | some token =>
      simp only [htoken] at h
      split at h
      · cases h
      · rename_i hne
        split at h
        · rename_i hrealm
          cases h
          exact ⟨c, rfl, htoken, hne, isCompany_realmOf hrealm⟩
        · cases h

/-! ## 3. The sessions that come about -/

namespace Step

open Gateway (Within within_ofExcept within_pure within_session asksOnly_inquire)

/-- A session whose caller, if there is one, showed a token that holds more than white space, or
    none. -/
def IsShown (s : Desk) : Prop := ∀ c, s.credentials = some c → c.IsShown

/-- A computation that leaves settings and credentials as they are. -/
abbrev LeavesCaller {α : Type} (g : Gateway (List Delivery) α) : Prop :=
  Within (fun _ => True) (fun _ => True) g

section Computations

variable (server : Server (List Delivery))

theorem leavesCaller_perform (call : Call) (sandbox : Option Bool) (realm : Value) :
    LeavesCaller (call.perform server sandbox realm) := by
  intro s
  refine ⟨?_, fun _ _ => True.intro⟩
  rcases call.perform_actsOnlyIf server sandbox realm s with h | ⟨_, _, _, hextends, _⟩
  · rw [h]
    exact .refl s
  · exact hextends.mono fun _ _ => True.intro

theorem leavesCaller_ofExcept {α : Type} (r : Except Failure α) :
    LeavesCaller (Gateway.ofExcept r : Gateway (List Delivery) α) :=
  within_ofExcept fun _ _ => True.intro

theorem leavesCaller_inquire (access : Access) (sandbox : Option Bool) (inquiry : Inquiry) :
    LeavesCaller (Gateway.inquire server access sandbox inquiry) := fun s =>
  ⟨(asksOnly_inquire server access sandbox inquiry s).1.mono fun _ _ => True.intro,
    fun _ _ => True.intro⟩

theorem leavesCaller_inquireWith (method path token realm params body : Value)
    (sandbox : Option Bool) :
    LeavesCaller (inquireWith server method path token realm params body sandbox) := by
  refine .bind (leavesCaller_ofExcept _) fun path => ?_
  refine .bind (leavesCaller_ofExcept _) fun params => ?_
  refine .bind (leavesCaller_ofExcept _) fun token => ?_
  refine .bind (leavesCaller_ofExcept _) fun method => ?_
  exact leavesCaller_inquire server _ _ _

theorem leavesCaller_useNamed (name : String) (args : Value) :
    LeavesCaller (useNamed server name args) := by
  unfold useNamed
  split
  · refine .bind (leavesCaller_ofExcept _) fun args => ?_
    unfold Tool.use
    split
    · intro s
      rw [Tool.execute_guarded]
      exact ⟨(leavesCaller_perform server _ _ _ s).1, fun _ _ => True.intro⟩
    · exact leavesCaller_ofExcept _
  · exact leavesCaller_ofExcept _

end Computations

theorem isShown_answerOf {g : Gateway (List Delivery) Value} (hg : LeavesCaller g) {s : Desk}
    (h : IsShown s) : IsShown (answerOf g s).2 := by
  intro c hc
  refine h c ?_
  rw [← (hg s).1.credentials]
  exact hc

theorem isShown_shown {headers : Value} {credentials : Option Credentials}
    (h : shown headers = .ok credentials) : ∀ c, credentials = some c → c.IsShown := by
  rintro c rfl
  unfold shown at h
  split at h
  · cases h
  · cases hvalue : Credentials.ofValue headers with
    | error cause =>
      rw [hvalue] at h
      cases h
    | ok found =>
      rw [hvalue] at h
      cases h
      exact Credentials.isShown_ofValue hvalue

mutual

/-- **No step makes a caller whose token holds nothing**, however visits are nested. -/
theorem run_isShown (server : Server (List Delivery)) {s : Desk} (h : IsShown s) :
    (step : Step) → IsShown (run server step s).2
  | .configure changes => h
  | .prepare deliveries => h
  | .present headers => by
    rw [run]
    cases hshown : shown headers with
    | ok credentials => exact isShown_shown hshown
    | error cause => exact h
  | .access realm => by
    refine isShown_answerOf (.bind ?_ fun access => within_pure _) h
    exact .bind within_session fun s => leavesCaller_ofExcept _
  | .call wanted realm sandbox =>
    isShown_answerOf (leavesCaller_perform server wanted sandbox realm) h
  | .useTool name args => isShown_answerOf (leavesCaller_useNamed server name args) h
  | .inquire method path token realm params body sandbox =>
    isShown_answerOf (leavesCaller_inquireWith server method path token realm params body sandbox) h
  | .visit scope steps breaksDown => by
    rw [run]
    split
    · exact h
    · exact h
    -- only what passes as it is may leave another caller behind
    · exact runAll_isShown server h steps
    · exact h

/-- No steps, one after another, make such a caller. -/
theorem runAll_isShown (server : Server (List Delivery)) {s : Desk} (h : IsShown s) :
    (steps : List Step) → IsShown (runAll server steps s).2
  | [] => h
  | step :: rest => runAll_isShown server (run_isShown server h step) rest

end

/-- The sessions that come about: nobody has shown credentials at first, steps are made, and the
    application behind the front door runs with the credentials of a request. -/
inductive Reached (server : Server (List Delivery)) : Desk → Prop
  | start (settings : Settings) (deliveries : List Delivery) :
      Reached server { settings, server := deliveries }
  | step {s : Desk} (h : Reached server s) (step : Step) : Reached server (run server step s).2
  | behind {s : Desk} (h : Reached server s) {scope : Scope} {c : Credentials}
      (hpassage : scope.passage s.settings = .ok (.credited c)) :
      Reached server { s with credentials := some c }

theorem credentials_of_credited {settings : Settings} {scope : Scope} {c : Credentials}
    (h : scope.passage settings = .ok (.credited c)) : c = scope.credentials := by
  unfold Scope.passage at h
  split at h
  · cases h
  · obtain ⟨path, _, h⟩ := exists_of_bind h
    split at h
    · split at h
      · cases h
      · exact (Scope.Passage.credited.inj (Except.ok.inj h)).symm
    · cases h
  · cases h

/-- **The caller of a session that comes about showed no token, or one that holds more than white
    space.** -/
theorem isShown_of_reached {server : Server (List Delivery)} {s : Desk} (h : Reached server s) :
    IsShown s := by
  induction h with
  | start settings deliveries => exact fun _ hc => by cases hc
  | step _ step ih => exact run_isShown server ih step
  | behind _ hpassage _ =>
    rintro _ ⟨⟩
    rw [credentials_of_credited hpassage]
    exact Credentials.isShown_ofHeaders _

/-! ## 4. Calls in these sessions -/

/-- **Nothing is sent for calls that are not admissible.** A call that sends requests is admissible,
    its caller has a token, and a company is found; all its requests carry what that token holds,
    and go to an address under that company. A call that is turned down leaves the session as it
    is. -/
theorem sends_only_if_admissible {server : Server (List Delivery)} {s : Desk}
    (h : Reached server s) (call : Call) (realm : Value) (sandbox : Option Bool) :
    (∃ requests,
      ((call.perform server sandbox realm).execute s).2.sent = s.sent ++ requests ∧
      (requests ≠ [] → call.IsAdmissible ∧
        ∃ c token company t, s.credentials = some c ∧ c.token = some token ∧ token ≠ "" ∧
          IsCompany s.settings c realm company ∧ t ≠ "" ∧ t.toList <:+: token.toList ∧
          ∀ request ∈ requests,
            request.headers.lookup "Authorization" = some ("Bearer " ++ t) ∧
            ∃ host rest, (host = Inquiry.sandboxHost ∨ host = Inquiry.liveHost) ∧
              request.url = host ++ "/v3/company/" ++ company.display ++ "/" ++ rest)) ∧
    ∀ f, ((call.perform server sandbox realm).execute s).1 = .error f → f.IsRefusal →
      ((call.perform server sandbox realm).execute s).2 = s := by
  rcases call.perform_actsOnlyIf server sandbox realm s with
    hsame | ⟨hcall, access, haccess, hextends, hnever⟩
  · refine ⟨⟨[], ?_, fun hne => absurd rfl hne⟩, fun _ _ _ => hsame⟩
    rw [hsame, List.append_nil]
  · obtain ⟨requests, hsent, hrequests⟩ := hextends.sent
    obtain ⟨c, hcaller, htoken, hne, hcompany⟩ := Access.resolve_eq_ok haccess
    obtain ⟨t, ht, htne, hinfix⟩ :=
      exists_authorization (isShown_of_reached h c hcaller access.token htoken)
    refine ⟨⟨requests, hsent, fun _ => ⟨hcall, c, access.token, access.realm, t, hcaller, htoken,
      hne, hcompany, htne, hinfix, fun request hmem => ?_⟩⟩, fun f hf hrefusal => ?_⟩
    · obtain ⟨hheader, haddress⟩ := hrequests request hmem
      exact ⟨by rw [hheader, ht], haddress⟩
    · exact absurd hrefusal (hnever f hf)

/-- A caller with a token and a company. -/
def caller : Desk :=
  (run Server.queued
    (.present (.obj [("authorization", .str "bearer tok"), ("x-quickbooks-realm-id", .str "9130")]))
    { server := [] }).2

theorem sends_only_if_admissible_get :
    Reached Server.queued caller ∧
    ∃ request t, (((Call.get (.str "Customer") (.str "7")).perform Server.queued none .null).execute
        caller).2.sent = [request] ∧
      t ≠ "" ∧ request.headers.lookup "Authorization" = some ("Bearer " ++ t) := by
  have hreached : Reached Server.queued caller := .step (.start {} []) _
  obtain ⟨⟨requests, hsent, hrequests⟩, _⟩ := sends_only_if_admissible hreached
    (.get (.str "Customer") (.str "7")) .null none
  have hlength : (((Call.get (.str "Customer") (.str "7")).perform Server.queued none .null).execute
      caller).2.sent.length = 1 := rfl
  have hempty : caller.sent = [] := rfl
  rw [hsent, hempty, List.nil_append] at hlength
  obtain ⟨request, rfl⟩ := List.length_eq_one_iff.mp hlength
  obtain ⟨_, c, token, company, t, _, _, _, _, htne, _, hall⟩ := hrequests (List.cons_ne_nil _ _)
  rw [hempty, List.nil_append] at hsent
  exact ⟨hreached, request, t, hsent, htne, (hall request List.mem_cons_self).1⟩

end Step

end BooksGateway
