import BooksGateway.Proofs.Trimming
import BooksGateway.Proofs.Wholes
import BooksGateway.Session.Call

/-!
# What a computation may send

A computation in a session leaves settings and credentials as they are. What it sends is added to
what was sent before, and once access is there it fails only in ways in which no call is turned
down.

* `Failure.IsRefusal`: the ways in which a call is turned down;
* `Gateway.Within`: what a computation may send, and how it may fail;
* `Request.IsFor`: requests with the token of an access, under its company;
* `within_inquire`, `within_fetchPages`: what inquiries and pages may do;
* `asksOnly_inquire`, `asksOnly_fetchPages`: they send only requests for their access.
-/

namespace BooksGateway

/-! ## 1. Ways to fail -/

/-- The failures of calls that are turned down before anything is sent. -/
inductive Failure.IsRefusal : Failure → Prop
  | rejected (reasons : List String) : IsRefusal (.rejected reasons)
  | noToken : IsRefusal .noToken
  | noCompany : IsRefusal .noCompany
  | idMissing (label : String) : IsRefusal (.idMissing label)
  | updateIncomplete (label : String) (missing : List String) :
      IsRefusal (.updateIncomplete label missing)
  | deleteIncomplete (label : String) : IsRefusal (.deleteIncomplete label)

/-- A result that, if it is a failure, is one of some sort. -/
def FailsOnly {α : Type} (fails : Failure → Prop) (r : Except Failure α) : Prop :=
  ∀ f, r = .error f → fails f

namespace FailsOnly

variable {α β : Type} {fails : Failure → Prop}

theorem ok (a : α) : FailsOnly fails (.ok a) := fun _ h => by cases h

theorem error {f : Failure} (h : fails f) : FailsOnly fails (.error f : Except Failure α) := by
  intro f' h'
  cases h'
  exact h

theorem bind {r : Except Failure α} {next : α → Except Failure β} (hr : FailsOnly fails r)
    (hnext : ∀ a, FailsOnly fails (next a)) : FailsOnly fails (r >>= next) := by
  cases r with
  | ok a => exact hnext a
  | error f => exact error (hr f rfl)

theorem map {r : Except Failure α} (hr : FailsOnly fails r) (g : α → β) :
    FailsOnly fails (r.map g) := by
  cases r with
  | ok a => exact ok _
  | error f => exact error (hr f rfl)

theorem ofMisuse (hmisuse : ∀ cause, fails (.misuse cause)) (r : Except Misuse α) :
    FailsOnly fails (Failure.ofMisuse r) := by
  cases r with
  | ok a => exact ok a
  | error cause => exact error (hmisuse cause)

end FailsOnly

/-! ## 2. Results that turn nothing down -/

/-- A result that is no refusal. -/
abbrev NeverRefuses {α : Type} (r : Except Failure α) : Prop :=
  FailsOnly (fun f => ¬ f.IsRefusal) r

theorem neverRefuses_ofMisuse {α : Type} (r : Except Misuse α) :
    NeverRefuses (Failure.ofMisuse r) :=
  .ofMisuse (fun _ h => by cases h) r

theorem neverRefuses_timeout (settings : Settings) : NeverRefuses settings.timeout := by
  unfold Settings.timeout
  dsimp only
  split
  · exact .ok _
  · exact .error nofun

theorem neverRefuses_pageCap (settings : Settings) : NeverRefuses settings.pageCap := by
  unfold Settings.pageCap
  dsimp only
  split
  · exact .ok _
  · exact .error nofun

theorem neverRefuses_shown (v : Value) : NeverRefuses v.shown := by
  unfold Value.shown
  split
  · exact .ok _
  · exact .error nofun

theorem neverRefuses_request (inquiry : Inquiry) (settings : Settings) (access : Access)
    (sandbox : Option Bool) : NeverRefuses (inquiry.request settings access sandbox) := by
  refine .bind (neverRefuses_shown _) fun object => .bind (neverRefuses_shown _) fun company => ?_
  exact .bind (neverRefuses_timeout settings) fun seconds => .ok _

theorem neverRefuses_wholePart (v : Value) : NeverRefuses (Query.wholePart v) := by
  unfold Query.wholePart
  split
  · exact .ok _
  · split
    · exact .ok _
    · split
      · exact .error nofun
      · exact .error nofun
  · exact .ok _

theorem neverRefuses_take (q : Query) (entry : Fields) : NeverRefuses (q.take entry) := by
  unfold Query.take
  dsimp only
  split
  · exact .ok _
  · exact .ok _
  · exact .bind (neverRefuses_wholePart _) fun _ => .ok _
  · exact .bind (neverRefuses_wholePart _) fun _ => .ok _
  · exact .ok _
  · exact .ok _
  · exact .ok _

theorem neverRefuses_foldlM_take (entries : List Fields) (q : Query) :
    NeverRefuses (entries.foldlM Query.take q) := by
  induction entries generalizing q with
  | nil => exact .ok _
  | cons entry rest ih =>
    rw [List.foldlM_cons]
    exact .bind (neverRefuses_take q entry) ih

theorem neverRefuses_ofCriteria (entity : String) (criteria : Criteria) :
    NeverRefuses (Query.ofCriteria entity criteria) := by
  cases criteria with
  | entries items =>
    show NeverRefuses (if _ then _ else _)
    split
    · exact .ok _
    · exact neverRefuses_foldlM_take _ _
  | equalities fields => exact .ok _

theorem neverRefuses_text (q : Query) : NeverRefuses q.text := by
  unfold Query.text
  split
  · exact .ok _
  · exact .error nofun

theorem neverRefuses_checkWritable (wholes : List Int) :
    NeverRefuses (Query.checkWritable wholes) := by
  unfold Query.checkWritable
  split
  · exact .ok _
  · exact .error nofun

theorem neverRefuses_compile (e : Entity) (criteria : Criteria) :
    NeverRefuses (Query.compile e criteria) :=
  .bind (neverRefuses_checkWritable _) fun _ => .bind (neverRefuses_ofCriteria _ _) neverRefuses_text

/-! ## 3. Answers of the server -/

theorem neverRefuses_jsonText (r : Reply) : NeverRefuses r.jsonText := by
  unfold Reply.jsonText
  split
  · split
    · exact .ok _
    · exact .error nofun
  · exact .ok _

theorem neverRefuses_document (r : Reply) : NeverRefuses r.document := by
  refine .bind (neverRefuses_jsonText r) fun text => ?_
  split
  · exact .ok _
  · exact .error nofun

theorem neverRefuses_replyText (r : Reply) : NeverRefuses r.text := by
  unfold Reply.text
  split
  · exact .ok _
  · split
    · exact .ok _
    · exact .error nofun

theorem neverRefuses_errorPayload (r : Reply) : NeverRefuses r.errorPayload := by
  unfold Reply.errorPayload
  split
  · exact .ok _
  · exact .error nofun
  · exact (neverRefuses_replyText r).map _

theorem neverRefuses_replyResult (r : Reply) : NeverRefuses r.result := by
  unfold Reply.result
  split
  · refine .bind (neverRefuses_errorPayload r) fun payload => ?_
    split
    · exact .error nofun
    · exact .error nofun
  · split
    · exact .ok _
    · split
      · exact neverRefuses_document r
      · exact .bind (neverRefuses_replyText r) fun _ => .ok _

/-- **What is delivered is no refusal** of the gateway. -/
theorem neverRefuses_result (d : Delivery) : NeverRefuses d.result := by
  have hreply : NeverRefuses d.reply := by
    cases d with
    | answered reply =>
      unfold Delivery.reply
      dsimp only
      split
      · exact .error nofun
      · exact .ok _
    | failed kind message => exact .error nofun
  exact .bind hreply neverRefuses_replyResult

/-! ## 4. What a computation may do -/

/-- A session after requests of some sort were sent: settings and credentials are as before. -/
structure Session.Extends {σ : Type} (sends : Request → Prop) (s after : Session σ) : Prop where
  /-- The settings are the same. -/
  settings : after.settings = s.settings
  /-- The credentials are the same. -/
  credentials : after.credentials = s.credentials
  /-- What was sent comes after what was sent before. -/
  sent : ∃ requests, after.sent = s.sent ++ requests ∧ ∀ request ∈ requests, sends request

namespace Session.Extends

variable {σ : Type} {sends : Request → Prop} {s next after : Session σ}

theorem refl (s : Session σ) : Extends sends s s :=
  ⟨rfl, rfl, [], (List.append_nil _).symm, fun _ h => absurd h List.not_mem_nil⟩

/-- What was sent is of every wider sort. -/
theorem mono {others : Request → Prop} (h : Extends sends s after)
    (hothers : ∀ request, sends request → others request) : Extends others s after := by
  obtain ⟨requests, hsent, hrequests⟩ := h.sent
  exact ⟨h.settings, h.credentials, requests, hsent, fun request hmem =>
    hothers request (hrequests request hmem)⟩

theorem trans (h : Extends sends s next) (h' : Extends sends next after) :
    Extends sends s after := by
  obtain ⟨requests, hsent, hrequests⟩ := h.sent
  obtain ⟨more, hmore, hothers⟩ := h'.sent
  refine ⟨h'.settings.trans h.settings, h'.credentials.trans h.credentials, requests ++ more, ?_,
    fun request hmem => ?_⟩
  · rw [hmore, hsent, List.append_assoc]
  · rcases List.mem_append.mp hmem with hmem | hmem
    · exact hrequests request hmem
    · exact hothers request hmem

end Session.Extends

namespace Gateway

variable {σ α β : Type} {sends : Request → Prop} {fails : Failure → Prop}

/-- A computation that sends only requests of one sort and fails only in ways of one sort. -/
def Within (sends : Request → Prop) (fails : Failure → Prop) (g : Gateway σ α) : Prop :=
  ∀ s, Session.Extends sends s (g.execute s).2 ∧ FailsOnly fails (g.execute s).1

theorem within_pure (a : α) : Within sends fails (pure a : Gateway σ α) :=
  fun s => ⟨.refl s, .ok a⟩

theorem within_session : Within sends fails (session : Gateway σ _) :=
  fun s => ⟨.refl s, .ok s⟩

theorem within_ofExcept {r : Except Failure α} (h : FailsOnly fails r) :
    Within sends fails (ofExcept r : Gateway σ α) :=
  fun s => ⟨.refl s, h⟩

/-- One computation after another does what both do. -/
theorem Within.bind {g : Gateway σ α} {next : α → Gateway σ β} (hg : Within sends fails g)
    (hnext : ∀ a, Within sends fails (next a)) : Within sends fails (g >>= next) := by
  intro s
  obtain ⟨hextends, hfails⟩ := hg s
  rw [execute_bind]
  rcases hexecute : g.execute s with ⟨f | a, after⟩
  · rw [hexecute] at hextends hfails
    exact ⟨hextends, .error (hfails f rfl)⟩
  · rw [hexecute] at hextends
    exact ⟨hextends.trans (hnext a after).1, (hnext a after).2⟩

theorem within_ofMisuse (r : Except Misuse α) :
    Within sends (fun f => ¬ f.IsRefusal) (ofMisuse r : Gateway σ α) :=
  within_ofExcept (neverRefuses_ofMisuse r)

/-- What comes after a result only has to do with the value of this result. -/
theorem within_ofExcept_bind {r : Except Failure α} {next : α → Gateway σ β}
    (hr : FailsOnly fails r) (hnext : ∀ a, r = .ok a → Within sends fails (next a)) :
    Within sends fails (ofExcept r >>= next) := by
  intro s
  rw [execute_bind, execute_ofExcept]
  cases r with
  | ok a => exact hnext a rfl s
  | error f => exact ⟨.refl s, .error (hr f rfl)⟩

end Gateway

/-! ## 5. Inquiries -/

/-- A request with the token of an access, to an address under its company. -/
def Request.IsFor (access : Access) (request : Request) : Prop :=
  request.headers.lookup "Authorization" = some (authorization access.token) ∧
  ∃ host rest, (host = Inquiry.sandboxHost ∨ host = Inquiry.liveHost) ∧
    request.url = host ++ "/v3/company/" ++ access.realm.display ++ "/" ++ rest

theorem Inquiry.exists_rooted (path : String) : ∃ rest, rooted path = "/" ++ rest := by
  unfold rooted
  by_cases h : Text.begins "/" path = true
  · rw [if_pos h]
    exact Text.begins_iff.mp h
  · rw [if_neg h]
    exact ⟨path, rfl⟩

theorem Inquiry.host_cases (settings : Settings) (sandbox : Option Bool) :
    host settings sandbox = sandboxHost ∨ host settings sandbox = liveHost := by
  unfold host
  split
  · exact .inl rfl
  · exact .inr rfl

/-- **A request carries the token of its access**, and its address is made of one of two hosts, the
    company, and the path of the inquiry. -/
theorem Inquiry.request_eq_ok {inquiry : Inquiry} {settings : Settings} {access : Access}
    {sandbox : Option Bool} {request : Request}
    (h : inquiry.request settings access sandbox = .ok request) :
    request.headers.lookup "Authorization" = some (authorization access.token) ∧
      request.url = host settings sandbox ++ "/v3/company/" ++ access.realm.display ++
        rooted (inquiry.path ++ inquiry.object.display) := by
  obtain ⟨object, hobject, h⟩ := exists_of_bind h
  obtain ⟨company, hcompany, h⟩ := exists_of_bind h
  obtain ⟨seconds, _, h⟩ := exists_of_bind h
  obtain ⟨_, rfl⟩ := Value.shown_eq_ok_iff.mp hobject
  obtain ⟨_, rfl⟩ := Value.shown_eq_ok_iff.mp hcompany
  cases h
  exact ⟨rfl, rfl⟩

/-- **Every inquiry is made with the token of its access, under its company.** -/
theorem Inquiry.isFor_request {inquiry : Inquiry} {settings : Settings} {access : Access}
    {sandbox : Option Bool} {request : Request}
    (h : inquiry.request settings access sandbox = .ok request) : request.IsFor access := by
  obtain ⟨hheader, hurl⟩ := request_eq_ok h
  obtain ⟨rest, hrest⟩ := exists_rooted (inquiry.path ++ inquiry.object.display)
  refine ⟨hheader, host settings sandbox, rest, host_cases settings sandbox, ?_⟩
  rw [hurl, hrest, ← String.append_assoc]

namespace Gateway

variable {σ α : Type} (server : Server σ) (access : Access) (sandbox : Option Bool)

/-- A computation that sends nothing but requests for an access, and turns nothing down. -/
abbrev AsksOnly (g : Gateway σ α) : Prop := Within (·.IsFor access) (fun f => ¬ f.IsRefusal) g

/-- An inquiry sends the request that is made for it, or nothing. -/
theorem within_inquire {sends : Request → Prop} {fails : Failure → Prop} {inquiry : Inquiry}
    (hsends : ∀ settings request, inquiry.request settings access sandbox = .ok request →
      sends request)
    (hrequest : ∀ settings, FailsOnly fails (inquiry.request settings access sandbox))
    (hresult : ∀ delivery : Delivery, FailsOnly fails delivery.result) :
    Within sends fails (inquire server access sandbox inquiry) := by
  intro s
  rw [execute_inquire]
  cases hmade : inquiry.request s.settings access sandbox with
  | error f => exact ⟨.refl s, .error (hrequest s.settings f hmade)⟩
  | ok request =>
    refine ⟨⟨rfl, rfl, [request], rfl, fun other hmem => ?_⟩, hresult _⟩
    rw [List.mem_singleton.mp hmem]
    exact hsends s.settings request hmade

theorem asksOnly_inquire (inquiry : Inquiry) :
    AsksOnly access (inquire server access sandbox inquiry) :=
  within_inquire server access sandbox (fun _ _ => Inquiry.isFor_request)
    (fun settings => neverRefuses_request inquiry settings access sandbox) neverRefuses_result

theorem asksOnly_ask (query : Value) : AsksOnly access (ask server access sandbox query) :=
  asksOnly_inquire server access sandbox _

end Gateway

/-! ## 6. Pages -/

namespace Search

open Gateway

variable {σ : Type} (server : Server σ) (access : Access) (sandbox : Option Bool)

/-- **Fetching pages does what asking for each page does**, however many pages there are. -/
theorem within_fetchPages {sends : Request → Prop} {fails : Failure → Prop} {e : Entity}
    {items : List Value} {size : Int}
    (hcompile : ∀ offset,
      FailsOnly fails (Query.compile e (.entries (pageEntries items size offset))))
    (hask : ∀ offset text, Query.compile e (.entries (pageEntries items size offset)) = .ok text →
      Within sends fails (ask server access sandbox (.str text)))
    (hmisuse : ∀ cause, fails (.misuse cause)) (budget : Nat) (offset : Int) :
    Within sends fails (fetchPages server access sandbox e items size budget offset) := by
  induction budget generalizing offset with
  | zero => exact within_pure _
  | succ budget ih =>
    refine within_ofExcept_bind (hcompile offset) fun text htext => ?_
    refine .bind (hask offset text htext) fun data => ?_
    refine .bind (within_ofExcept (.ofMisuse hmisuse _)) fun batch => ?_
    split
    · exact within_pure _
    · exact .bind (ih _) fun more => within_pure _

/-- Fetching pages sends nothing but requests for its access. -/
theorem asksOnly_fetchPages (e : Entity) (items : List Value) (size : Int) (budget : Nat)
    (offset : Int) :
    AsksOnly access (fetchPages server access sandbox e items size budget offset) :=
  within_fetchPages server access sandbox (fun _ => neverRefuses_compile e _)
    (fun _ _ _ => asksOnly_ask server access sandbox _) (fun _ h => by cases h) budget offset

theorem asksOnly_fetchAll (e : Entity) (items : List Value) :
    AsksOnly access (fetchAll server access sandbox e items) :=
  .bind within_session fun s => .bind (within_ofExcept (neverRefuses_pageCap s.settings)) fun _ =>
    asksOnly_fetchPages server access sandbox e items _ _ _

end Search

end BooksGateway
