import BooksGateway.Proofs.Trimming
import BooksGateway.Session.Script

/-!
# Callers are kept apart

A request for tools that comes in through the front door is turned away, or the application runs for
it with the credentials of its own headers. Whatever the application does meanwhile, the credentials
afterwards are those before, and nothing that is answered or sent hangs on them.

* `IsToolPath`: the paths that lead to the tools;
* `passage_of_isForTools`: what becomes of a request for tools;
* `visit_isolated`: one request for tools;
* `runAll_visits`: requests for tools, one after another.
-/

namespace BooksGateway

/-! ## 1. Paths that lead to the tools -/

namespace Scope

/-- A path that is a root of the tools or lies under one. -/
def IsUnderRoot (path : String) : Prop :=
  ∃ root, (root = "/mcp" ∨ root = "/sse") ∧ (path = root ∨ ∃ rest, path = root ++ "/" ++ rest)

/-- A path that leads to the tools: what stands before the slashes at its end is a root of the tools
    or lies under one. -/
def IsToolPath (path : String) : Prop :=
  ∃ bare slashes : String, path = bare ++ slashes ∧ (∀ c ∈ slashes.toList, c = '/') ∧
    bare.toList.getLast? ≠ some '/' ∧ IsUnderRoot bare

theorem leadsToTools_iff {path : String} : leadsToTools path = true ↔ IsUnderRoot path := by
  simp only [leadsToTools, toolRoots, IsUnderRoot, List.any_eq_true, List.mem_cons,
    List.not_mem_nil, or_false, Bool.or_eq_true, beq_iff_eq, Text.begins_iff]

theorem bare_append {bare slashes : String} (hslashes : ∀ c ∈ slashes.toList, c = '/')
    (hbare : bare.toList.getLast? ≠ some '/') : Scope.bare (bare ++ slashes) = bare := by
  have hdrop : Text.dropEnd (· == '/') (bare.toList ++ slashes.toList) = bare.toList := by
    refine Text.dropEnd_append (fun c hc => beq_iff_eq.mpr (hslashes c hc)) fun c hc => ?_
    rw [beq_eq_false_iff_ne]
    rintro rfl
    exact hbare hc
  rw [Scope.bare, String.toList_append, hdrop, String.ofList_toList]

/-- **The paths that lead to the tools**, once slashes at the end are dropped. -/
theorem leadsToTools_bare_iff {path : String} :
    leadsToTools (bare path) = true ↔ IsToolPath path := by
  rw [leadsToTools_iff]
  constructor
  · intro h
    obtain ⟨dropped, hdropped, hslashes⟩ := Text.exists_dropEnd (· == '/') path.toList
    refine ⟨bare path, String.ofList dropped, ?_, fun c hc => ?_, fun hlast => ?_, h⟩
    · rw [← String.toList_inj, String.toList_append, bare, String.toList_ofList,
        String.toList_ofList, ← hdropped]
    · rw [String.toList_ofList] at hc
      exact beq_iff_eq.mp (hslashes c hc)
    · rw [bare, String.toList_ofList] at hlast
      have hslash := Text.getLast?_dropEnd hlast
      cases hslash
  · rintro ⟨bare, slashes, rfl, hslashes, hbare, h⟩
    rw [bare_append hslashes hbare]
    exact h

/-! ## 2. What becomes of a request for tools -/

/-- A request for tools. -/
structure IsForTools (scope : Scope) : Prop where
  /-- It comes over HTTP. -/
  kind : scope.kind = some (.str "http")
  /-- Its path leads to the tools. -/
  path : ∃ path, scope.path = .str path ∧ IsToolPath path

/-- A request for tools is turned away when a token is required and its headers hold none. -/
def IsRefused (settings : Settings) (scope : Scope) : Prop :=
  settings.requiresToken = true ∧ scope.credentials.token = none

theorem IsToolPath.ne_empty {path : String} (h : IsToolPath path) : path ≠ "" := by
  rintro rfl
  have hleads := leadsToTools_bare_iff.mpr h
  revert hleads
  decide

/-- **A request for tools is turned away, or passes with the credentials of its headers.** -/
theorem passage_of_isForTools {scope : Scope} (h : scope.IsForTools) (settings : Settings) :
    (IsRefused settings scope ∧ scope.passage settings = .ok .refused) ∨
      (¬ IsRefused settings scope ∧
        scope.passage settings = .ok (.credited scope.credentials)) := by
  obtain ⟨path, hpath, htools⟩ := h.path
  have htext : scope.pathText = .ok path := by
    have htruthy : (Value.str path).isTruthy = true := bne_iff_ne.mpr htools.ne_empty
    rw [pathText, hpath, if_pos htruthy]
    rfl
  have hpassage : scope.passage settings =
      if settings.requiresToken && scope.credentials.token.isNone then .ok .refused
      else .ok (.credited scope.credentials) := by
    unfold passage
    rw [h.kind, htext]
    show (if leadsToTools (bare path) then _ else _) = _
    rw [if_pos (leadsToTools_bare_iff.mpr htools)]
    rfl
  have hrefused : (settings.requiresToken && scope.credentials.token.isNone) = true ↔
      IsRefused settings scope := by
    rw [Bool.and_eq_true, Option.isNone_iff_eq_none]
    rfl
  by_cases hr : IsRefused settings scope
  · exact .inl ⟨hr, by rw [hpassage, if_pos (hrefused.mpr hr)]⟩
  · exact .inr ⟨hr, by rw [hpassage, if_neg (fun h => hr (hrefused.mp h))]⟩

end Scope

/-! ## 3. One request for tools -/

/-- An answer with other credentials afterwards. -/
def Answer.withAfter (after : Option Credentials) : Answer → Answer
  | .plain outcome requests => .plain outcome requests
  | .passed seen answers raised _ => .passed seen answers raised after
  | .stopped refusal raised _ => .stopped refusal raised after

namespace Step

open Scope

/-- A step that lets a request for tools come in. -/
inductive IsVisit : Step → Prop
  | visit {scope : Scope} (h : scope.IsForTools) (steps : List Step) (breaksDown : Bool) :
      IsVisit (.visit scope steps breaksDown)

section Visit

variable (server : Server (List Delivery)) {scope : Scope}

theorem run_visit_of_refused (h : scope.IsForTools) (steps : List Step) (breaksDown : Bool)
    {s : Desk} (hrefused : IsRefused s.settings scope) :
    run server (.visit scope steps breaksDown) s =
      (.stopped (some FrontDoor.refusal) none s.credentials, s) := by
  rcases passage_of_isForTools h s.settings with ⟨_, hpassage⟩ | ⟨hnot, _⟩
  · rw [run, hpassage]
  · exact absurd hrefused hnot

/-- **The application runs for a request for tools with the credentials of its headers**, and those
    of before are back afterwards. -/
theorem run_visit_of_passed (h : scope.IsForTools) (steps : List Step) (breaksDown : Bool)
    {s : Desk} (hpassed : ¬ IsRefused s.settings scope) {answers : List Answer} {inside : Desk}
    (hinside : runAll server steps { s with credentials := some scope.credentials } =
      (answers, inside)) :
    run server (.visit scope steps breaksDown) s =
      (.passed (some scope.credentials) answers (if breaksDown then some .crash else none)
        s.credentials, { inside with credentials := s.credentials }) := by
  rcases passage_of_isForTools h s.settings with ⟨hrefused, _⟩ | ⟨_, hpassage⟩
  · exact absurd hrefused hpassed
  · rw [run, hpassage]
    dsimp only
    rw [hinside]

/-- A step for a request for tools leaves the credentials as they are, and they have no other part
    in what it does than to be there afterwards. -/
theorem run_of_isVisit {step : Step} (h : IsVisit step) (s : Desk) :
    (run server step s).2.credentials = s.credentials ∧
    ∀ other : Option Credentials,
      run server step { s with credentials := other } =
        ((run server step s).1.withAfter other,
          { (run server step s).2 with credentials := other }) := by
  cases h with
  | @visit scope htools steps breaksDown =>
    by_cases hrefused : IsRefused s.settings scope
    · rw [run_visit_of_refused server htools steps breaksDown hrefused]
      refine ⟨rfl, fun other => ?_⟩
      rw [run_visit_of_refused server htools steps breaksDown (s := { s with credentials := other })
        hrefused]
      rfl
    -- the application starts from the same session, whatever the credentials before are
    · obtain ⟨⟨answers, inside⟩, hinside⟩ :
          ∃ r, runAll server steps { s with credentials := some scope.credentials } = r := ⟨_, rfl⟩
      rw [run_visit_of_passed server htools steps breaksDown hrefused hinside]
      refine ⟨rfl, fun other => ?_⟩
      rw [run_visit_of_passed server htools steps breaksDown (s := { s with credentials := other })
        hrefused hinside]
      rfl

/-- **A request for tools is turned away, or the application runs once, with the credentials of the
    request's own headers.** The first happens exactly when a token is required and the headers hold
    none. Afterwards the credentials are those before, and other credentials before would change
    nothing but that. -/
theorem visit_isolated (h : scope.IsForTools) (steps : List Step) (breaksDown : Bool) (s : Desk) :
    ((IsRefused s.settings scope ∧
        ∃ refusal : FrontDoor.Refusal, refusal.status = 401 ∧
          run server (.visit scope steps breaksDown) s =
            (.stopped (some refusal) none s.credentials, s)) ∨
      (¬ IsRefused s.settings scope ∧
        ∃ answers inside,
          runAll server steps { s with credentials := some scope.credentials } =
            (answers, inside) ∧
          run server (.visit scope steps breaksDown) s =
            (.passed (some scope.credentials) answers (if breaksDown then some .crash else none)
              s.credentials, { inside with credentials := s.credentials }))) ∧
    (run server (.visit scope steps breaksDown) s).2.credentials = s.credentials ∧
    ∀ other : Option Credentials,
      run server (.visit scope steps breaksDown) { s with credentials := other } =
        ((run server (.visit scope steps breaksDown) s).1.withAfter other,
          { (run server (.visit scope steps breaksDown) s).2 with credentials := other }) := by
  refine ⟨?_, run_of_isVisit server (.visit h steps breaksDown) s⟩
  by_cases hrefused : IsRefused s.settings scope
  · exact .inl ⟨hrefused, FrontDoor.refusal, rfl,
      run_visit_of_refused server h steps breaksDown hrefused⟩
  · exact .inr ⟨hrefused, _, _, rfl, run_visit_of_passed server h steps breaksDown hrefused rfl⟩

end Visit

/-- A request of a caller with a token of its own. -/
def ownVisit : Scope where
  kind := some (.str "http")
  path := .str "/mcp/tools/"
  headers := [("Authorization", "Bearer own"), ("Accept", "application/json")]

/-- A request of another caller, who has a token and a company. -/
def otherVisit : Scope where
  kind := some (.str "http")
  path := .str "/sse"
  headers := [("X-QuickBooks-Token", "other"), ("X-QuickBooks-Realm-Id", "9130")]

theorem isForTools_ownVisit : ownVisit.IsForTools := by
  refine ⟨rfl, _, rfl, "/mcp/tools", "/", rfl, fun c hc => List.mem_singleton.mp hc, ?_, "/mcp",
    .inl rfl, .inr ⟨"tools", rfl⟩⟩
  show some 's' ≠ some '/'
  decide

/-- Settings under which every request for tools needs a token. -/
def guarded : Desk where
  settings := ⟨[("REQUIRE_QUICKBOOKS_TOKEN", "Yes")]⟩
  credentials := some ⟨some "before", none⟩
  server := []

/-- A request that takes its credentials away and lets another one come in, before it breaks
    down. -/
theorem visit_isolated_guarded :
    ownVisit.IsForTools ∧
    ∃ answers, run Server.queued (.visit ownVisit [.present .null, .visit otherVisit [] false] true)
        guarded =
      (.passed (some ⟨some "own", none⟩) answers (some .crash) (some ⟨some "before", none⟩),
        guarded) := by
  have hcredentials : ownVisit.credentials = ⟨some "own", none⟩ := by decide +kernel
  obtain ⟨houtcome, _, _⟩ := visit_isolated Server.queued isForTools_ownVisit
    [.present .null, .visit otherVisit [] false] true guarded
  refine ⟨isForTools_ownVisit, ?_⟩
  rcases houtcome with ⟨hrefused, _⟩ | ⟨_, answers, inside, hinside, hrun⟩
  · rw [IsRefused, hcredentials] at hrefused
    cases hrefused.2
  · have hafter : (runAll Server.queued [.present .null, .visit otherVisit [] false]
        { guarded with credentials := some ownVisit.credentials }).2 =
          { guarded with credentials := none } := rfl
    rw [hinside] at hafter
    dsimp only at hafter
    refine ⟨answers, ?_⟩
    rw [hrun, hafter, hcredentials]
    rfl

/-! ## 4. Requests for tools, one after another -/

/-- **Callers are kept apart.** Requests for tools that come in one after another leave the
    credentials as they are, and other credentials before would change nothing but what they are
    afterwards. -/
theorem runAll_visits (server : Server (List Delivery)) {steps : List Step}
    (h : ∀ step ∈ steps, IsVisit step) (s : Desk) :
    (runAll server steps s).2.credentials = s.credentials ∧
    ∀ other : Option Credentials,
      runAll server steps { s with credentials := other } =
        ((runAll server steps s).1.map (·.withAfter other),
          { (runAll server steps s).2 with credentials := other }) := by
  induction steps generalizing s with
  | nil => exact ⟨rfl, fun _ => rfl⟩
  | cons step rest ih =>
    obtain ⟨hcredentials, hother⟩ := run_of_isVisit server (h step List.mem_cons_self) s
    obtain ⟨hrest, hothers⟩ := ih (fun step hmem => h step (List.mem_cons_of_mem _ hmem))
      (run server step s).2
    refine ⟨hrest.trans hcredentials, fun other => ?_⟩
    show ((run server step { s with credentials := other }).1 ::
        (runAll server rest (run server step { s with credentials := other }).2).1,
      (runAll server rest (run server step { s with credentials := other }).2).2) = _
    rw [hother other]
    dsimp only
    rw [hothers other]
    rfl

end Step

end BooksGateway
