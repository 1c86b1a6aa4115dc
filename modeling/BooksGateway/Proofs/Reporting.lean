import BooksGateway.Proofs.Admission
import BooksGateway.Proofs.Faults
import BooksGateway.Proofs.Windows.Course

/-!
# Error answers reach the caller of a tool

A failure that is delivered ends every call, at whichever of its requests it comes, and is the
outcome of the call. A tool tells its caller of it if it can be told.

* `Gateway.PassesOn`: computations whose outcome is the failure that is delivered to them;
* `passesOn_inquire`, `passesOn_fetchPages`, `Call.passesOn_perform`: all calls are such;
* `error_answer_told`: what comes of an error answer to a request of a tool.
-/

namespace BooksGateway

/-! ## 1. What is delivered in a row -/

namespace Server

variable {σ : Type} (server : Server σ)

/-- The state after requests that are sent one after another. -/
def after : List Request → σ → σ
  | [], state => state
  | request :: rest, state => after rest (server.handle request state).2

theorem after_append (requests more : List Request) (state : σ) :
    server.after (requests ++ more) state = server.after more (server.after requests state) := by
  induction requests generalizing state with
  | nil => rfl
  | cons request rest ih => exact ih _

theorem deliveries_append (requests more : List Request) (state : σ) :
    server.deliveries (requests ++ more) state =
      server.deliveries requests state ++ server.deliveries more (server.after requests state) := by
  induction requests generalizing state with
  | nil => rfl
  | cons request rest ih => exact congrArg (List.cons _) (ih _)

end Server

/-! ## 2. Computations that pass failures on -/

namespace Gateway

variable {σ α β : Type} (server : Server σ)

/-- What a computation does with a session: it sends requests, and a failure that is delivered for
    one of them is its outcome. -/
structure PassesOnAt (s : Session σ) (requests : List Request) (outcome : Except Failure α)
    (after : Session σ) : Prop where
  /-- The requests are noted. -/
  sent : after.sent = s.sent ++ requests
  /-- The server has moved on by them. -/
  moved : after.server = server.after requests s.server
  /-- A failure that is delivered is the outcome. -/
  passed : ∀ d ∈ server.deliveries requests s.server, ∀ f, d.result = .error f → outcome = .error f

/-- **A computation that passes on what fails**: it sends requests, and a failure that is delivered
    for one of them is its outcome. -/
def PassesOn (g : Gateway σ α) : Prop :=
  ∀ s, ∃ requests, PassesOnAt server s requests (g.execute s).1 (g.execute s).2

variable {server}

theorem PassesOnAt.quiet (s : Session σ) (outcome : Except Failure α) :
    PassesOnAt server s [] outcome s where
  sent := (List.append_nil _).symm
  moved := rfl
  passed _ h := absurd h List.not_mem_nil

theorem passesOn_ofExcept (r : Except Failure α) : PassesOn server (ofExcept r : Gateway σ α) :=
  fun s => ⟨[], .quiet s r⟩

theorem passesOn_ofMisuse (r : Except Misuse α) : PassesOn server (ofMisuse r : Gateway σ α) :=
  passesOn_ofExcept _

theorem passesOn_pure (a : α) : PassesOn server (pure a : Gateway σ α) := fun s => ⟨[], .quiet s _⟩

theorem passesOn_session : PassesOn server (session : Gateway σ _) := fun s => ⟨[], .quiet s _⟩

theorem passesOn_access (realm : Value) : PassesOn server (access realm : Gateway σ _) :=
  fun s => ⟨[], .quiet s _⟩

/-- One computation after another passes on what fails: a failure that is delivered to the first one
    ends both. -/
theorem PassesOn.bind {g : Gateway σ α} {next : α → Gateway σ β} (hg : PassesOn server g)
    (hnext : ∀ a, PassesOn server (next a)) : PassesOn server (g >>= next) := by
  intro s
  obtain ⟨requests, hfirst⟩ := hg s
  rw [execute_bind]
  rcases hexecute : g.execute s with ⟨f | a, after⟩
  · rw [hexecute] at hfirst
    refine ⟨requests, hfirst.sent, hfirst.moved, fun d hd f' hf' => ?_⟩
    obtain rfl := Except.error.inj (hfirst.passed d hd f' hf')
    rfl
  · rw [hexecute] at hfirst
    obtain ⟨more, hrest⟩ := hnext a after
    refine ⟨requests ++ more, ?_, ?_, fun d hd f hf => ?_⟩
    · rw [hrest.sent, hfirst.sent, List.append_assoc]
    · rw [hrest.moved, hfirst.moved, Server.after_append]
    · rw [Server.deliveries_append] at hd
      rcases List.mem_append.mp hd with hd | hd
      · -- the first one came to a value, so no failure was delivered to it
        cases hfirst.passed d hd f hf
      · rw [← hfirst.moved] at hd
        exact hrest.passed d hd f hf

theorem passesOn_inquire (access : Access) (sandbox : Option Bool) (inquiry : Inquiry) :
    PassesOn server (inquire server access sandbox inquiry) := by
  intro s
  rw [execute_inquire]
  cases inquiry.request s.settings access sandbox with
  | error f => exact ⟨[], .quiet s _⟩
  | ok request =>
    refine ⟨[request], rfl, rfl, fun d hd f hf => ?_⟩
    rw [Server.deliveries, Server.deliveries, List.mem_singleton] at hd
    rw [hd] at hf
    exact hf

theorem passesOn_ask (access : Access) (sandbox : Option Bool) (query : Value) :
    PassesOn server (ask server access sandbox query) :=
  passesOn_inquire access sandbox _

end Gateway

/-! ## 3. Calls -/

open Gateway

variable {σ : Type} {server : Server σ}

/-- **Fetching pages passes on what fails**, at whichever page it comes. -/
theorem Search.passesOn_fetchPages (access : Access) (sandbox : Option Bool) (e : Entity)
    (items : List Value) (size : Int) (budget : Nat) (offset : Int) :
    PassesOn server (fetchPages server access sandbox e items size budget offset) := by
  induction budget generalizing offset with
  | zero => exact passesOn_pure _
  | succ budget ih =>
    refine .bind (passesOn_ofExcept _) fun text => ?_
    refine .bind (passesOn_ask access sandbox _) fun data => ?_
    refine .bind (passesOn_ofMisuse _) fun batch => ?_
    split
    · exact passesOn_pure _
    · exact .bind (ih _) fun more => passesOn_pure _

theorem Search.passesOn_run (sandbox : Option Bool) (realm entity criteria : Value) :
    PassesOn server (run server sandbox realm entity criteria) := by
  refine .bind (passesOn_ofExcept _) fun e => ?_
  refine .bind (passesOn_ofExcept _) fun canonical => ?_
  refine .bind (passesOn_access realm) fun access => ?_
  refine .bind (passesOn_ofExcept _) fun query => ?_
  refine .bind (passesOn_ofExcept _) fun text => ?_
  split
  · refine .bind (passesOn_ask access sandbox _) fun data => ?_
    exact .bind (passesOn_ofMisuse _) fun total => passesOn_pure _
  · dsimp only
    split
    · refine .bind (.bind passesOn_session fun s => .bind (passesOn_ofExcept _) fun cap => ?_)
        fun pages => passesOn_ofMisuse _
      exact passesOn_fetchPages access sandbox e _ _ _ _
    · refine .bind (passesOn_ask access sandbox _) fun data => ?_
      refine .bind (passesOn_ofMisuse _) fun rows => ?_
      exact .bind (passesOn_ofMisuse _) fun parts => passesOn_pure _

namespace Call

theorem passesOn_inquireObject (sandbox : Option Bool) (realm : Value) (e : Entity)
    (shown : Fields) (inquiry : Inquiry) :
    PassesOn server (inquireObject server sandbox realm e shown inquiry) := by
  refine .bind (passesOn_access realm) fun access => ?_
  refine .bind (passesOn_inquire access sandbox inquiry) fun data => ?_
  exact .bind (passesOn_ofMisuse _) fun object => passesOn_pure _

/-- **Every call passes on what fails.** -/
theorem passesOn_perform (call : Call) (sandbox : Option Bool) (realm : Value) :
    PassesOn server (call.perform server sandbox realm) := by
  cases call with
  | query text =>
    refine .bind (passesOn_access realm) fun access => ?_
    exact .bind (passesOn_ask access sandbox text) fun data => passesOn_pure _
  | search entity criteria => exact Search.passesOn_run sandbox realm entity criteria
  | create entity payload =>
    exact .bind (passesOn_ofExcept _) fun e => passesOn_inquireObject sandbox realm e _ _
  | get entity id =>
    refine .bind (passesOn_ofExcept _) fun e => .bind (passesOn_ofExcept _) fun _ => ?_
    exact passesOn_inquireObject sandbox realm e _ _
  | update entity payload =>
    refine .bind (passesOn_ofExcept _) fun e => .bind (passesOn_ofExcept _) fun _ => ?_
    exact passesOn_inquireObject sandbox realm e _ _
  | delete entity id version =>
    refine .bind (passesOn_ofExcept _) fun e => .bind (passesOn_ofExcept _) fun _ => ?_
    exact passesOn_inquireObject sandbox realm e _ _

end Call

/-! ## 4. Tools -/

/-- **What comes of an error answer.** A tool fails when one of its requests is answered with an
    error status. If the answer can be told, then the failure is what the caller reads, and it
    begins by naming the operation; otherwise the caller is told nothing. -/
theorem error_answer_told (server : Server σ) (tool : Tool) (args : Fields) (s : Session σ) :
    ∃ requests, ((tool.use server args).execute s).2.sent = s.sent ++ requests ∧
      ∀ reply, .answered reply ∈ server.deliveries requests s.server → 400 ≤ reply.status →
        ∃ f, ((tool.use server args).execute s).1 = .error f ∧
          (reply.IsTold →
            ∃ rest, f = .tool ("Error while trying to " ++ tool.operation ++ ":" ++ rest)) ∧
          (¬ reply.IsTold → ∀ message, f ≠ .tool message) := by
  unfold Tool.use
  split
  · have hcall : PassesOn server
        ((tool.call args).perform server none (args.getD Tool.realmName)) :=
      (tool.call args).passesOn_perform none _
    obtain ⟨requests, hpasses⟩ := hcall s
    rw [Tool.execute_guarded]
    refine ⟨requests, hpasses.sent, fun reply hreply hstatus => ?_⟩
    obtain ⟨f, hresult, htells⟩ := tool.exists_tellsOf s.settings hstatus
    refine ⟨_, ?_, htells.told, htells.untold⟩
    rw [hpasses.passed _ hreply f hresult]
    rfl
  · exact ⟨[], (List.append_nil _).symm, fun reply hreply => absurd hreply List.not_mem_nil⟩

/-- A caller whose next request is answered so. -/
def facing (reply : Reply) : Step.Desk := { Step.caller with server := [.answered reply] }

/-- An error answer with a text. -/
def goneReply : Reply := ⟨404, none, "gone"⟩

/-- An error answer whose fault is no mapping. -/
def oddReply : Reply := ⟨400, some "application/json", "\x7b\"Fault\": \"oops\"\x7d"⟩

theorem isTold_goneReply : goneReply.IsTold := by
  have hpayload : goneReply.errorPayload = .ok (.str "gone") := rfl
  exact .readable hpayload ⟨[], .plain nofun, .inl rfl⟩

theorem not_isTold_oddReply : ¬ oddReply.IsTold := by
  have hpayload : oddReply.errorPayload = .ok (.obj [("Fault", .str "oops")]) := rfl
  intro h
  cases h with
  | barred hfault => cases hfault
  | readable hread htellable =>
    obtain rfl := Except.ok.inj (hpayload.symm.trans hread)
    obtain ⟨error, hfirst, _⟩ := htellable
    cases ApiFault.firstFault_eq_ok.mpr hfirst
  | unreadable hread => cases hpayload.symm.trans hread

theorem answered_of_facing {reply : Reply} {requests : List Request}
    (h : requests.length = 1) :
    .answered reply ∈ Server.queued.deliveries requests (facing reply).server := by
  obtain ⟨request, rfl⟩ := List.length_eq_one_iff.mp h
  exact List.mem_singleton_self _

theorem error_answer_told_get :
    (∃ rest, ((Tool.use Server.queued (.on .get Entity.all[3]) [("entity_id", .str "7")]).execute
        (facing goneReply)).1 = .error (.tool ("Error while trying to get customer:" ++ rest))) ∧
    ∃ f, ((Tool.use Server.queued (.on .get Entity.all[3]) [("entity_id", .str "7")]).execute
        (facing oddReply)).1 = .error f ∧ ∀ message, f ≠ .tool message := by
  constructor
  · obtain ⟨requests, hsent, hanswer⟩ := error_answer_told Server.queued (.on .get Entity.all[3])
      [("entity_id", .str "7")] (facing goneReply)
    have hlength : requests.length = 1 := (congrArg List.length hsent).symm
    obtain ⟨f, hfailure, htold, _⟩ := hanswer _ (answered_of_facing hlength) (by decide)
    obtain ⟨rest, rfl⟩ := htold isTold_goneReply
    exact ⟨rest, hfailure⟩
  · obtain ⟨requests, hsent, hanswer⟩ := error_answer_told Server.queued (.on .get Entity.all[3])
      [("entity_id", .str "7")] (facing oddReply)
    have hlength : requests.length = 1 := (congrArg List.length hsent).symm
    obtain ⟨f, hfailure, _, huntold⟩ := hanswer _ (answered_of_facing hlength) (by decide)
    exact ⟨f, hfailure, huntold not_isTold_oddReply⟩

end BooksGateway
