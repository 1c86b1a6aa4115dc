import BooksGateway.Proofs.Admission
import Mathlib.Data.List.Nodup

/-!
# Tools do what their names say

The name of a tool spells a verb and an entity, and no two tools have the same name. Using a tool is
making the call that its name stands for: the session ends up the same, and so does the result. Only
failures differ: those that are foreseen are told in words, the others pass through as they are.

* `Encodes`: what a name stands for, and `encodes_iff`: the tools have exactly these names;
* `searches_eq`: the list of tools to search and the registry belong together;
* `Failure.IsForeseen`: the failures that are told in words;
* `Agrees`: what using a tool has to do with making its call;
* `execute_guarded_of_unreportable`: what becomes of a failure that cannot be told;
* `tools_agree`: every tool agrees with the call that its name stands for.
-/

namespace BooksGateway

/-! ## 1. Names -/

/-- What is offered under a name. -/
structure Offer where
  /-- The arguments that have to be given. -/
  required : List String
  /-- The arguments that may be left out. -/
  optional : List String
  /-- The call that is made for arguments. -/
  call : Fields → Call
  /-- The operation, as it stands in reports of failures. -/
  operation : String

namespace Tool

/-- A label as it stands in a name. -/
def hyphened (label : String) : String := Text.replaceChar ' ' '-' label

/-- **What a name stands for.** Searches are named for several objects of an entity, everything else
    for one. -/
inductive Encodes : String → Offer → Prop where
  /-- Run a query as it is. -/
  | query : Encodes "quickbooks-search-query"
      ⟨["sql"], ["realm_id"], fun args => .query (args.getD "sql"), "run query"⟩
  /-- Search the rows of an entity. -/
  | search {e : Entity} (he : e ∈ Entity.all) :
      Encodes ("quickbooks-search-" ++ hyphened e.plural)
        ⟨[], ["criteria", "realm_id"], fun args => .search (.str e.name) (args.getD "criteria"),
          "search " ++ e.plural⟩
  /-- Create an object. -/
  | create {e : Entity} (he : e ∈ Entity.all) :
      Encodes ("quickbooks-create-" ++ hyphened e.singular)
        ⟨["payload"], ["realm_id"], fun args => .create (.str e.name) (args.getD "payload"),
          "create " ++ e.singular⟩
  /-- Read an object. -/
  | get {e : Entity} (he : e ∈ Entity.all) :
      Encodes ("quickbooks-get-" ++ hyphened e.singular)
        ⟨["entity_id"], ["realm_id"], fun args => .get (.str e.name) (args.getD "entity_id"),
          "get " ++ e.singular⟩
  /-- Update an object. -/
  | update {e : Entity} (he : e ∈ Entity.all) :
      Encodes ("quickbooks-update-" ++ hyphened e.singular)
        ⟨["payload"], ["realm_id"], fun args => .update (.str e.name) (args.getD "payload"),
          "update " ++ e.singular⟩
  /-- Delete an object of an entity whose objects can be deleted. -/
  | delete {e : Entity} (he : e ∈ Entity.all) (hdeletable : e.name ∈ Entity.deletableNames) :
      Encodes ("quickbooks-delete-" ++ hyphened e.singular)
        ⟨["entity_id", "sync_token"], ["realm_id"],
          fun args => .delete (.str e.name) (args.getD "entity_id") (args.getD "sync_token"),
          "delete " ++ e.singular⟩

/-- The tool to search an entity, as its labels have it. -/
def searchOf (e : Entity) : SearchTool :=
  ⟨"quickbooks-search-" ++ hyphened e.plural, e.name, "search " ++ e.plural, e.name⟩

/-- **The tools to search are listed as the registry has the entities**, each for its own. -/
theorem searches_eq : SearchTool.all = Entity.all.map searchOf := by decide +kernel

theorem mem_searches_iff {row : SearchTool} :
    row ∈ SearchTool.all ↔ ∃ e ∈ Entity.all, searchOf e = row := by
  rw [searches_eq, List.mem_map]

/-- What a tool offers. -/
def offer (tool : Tool) : Offer := ⟨tool.required, tool.optional, tool.call, tool.operation⟩

/-- Whether there is a tool with a verb for an entity of the registry. -/
def IsOffered : Verb → Entity → Prop
  | .delete, e => e.name ∈ Entity.deletableNames
  | _, _ => True

theorem query_mem_all : Tool.query ∈ all := by simp [all]

/-- Every tool to search that is listed is there. -/
theorem search_mem_all {row : SearchTool} (listed : row ∈ SearchTool.all) :
    Tool.search row listed ∈ all := by
  simp [all, listed]

theorem on_mem_all_iff {verb : Verb} {e : Entity} :
    Tool.on verb e ∈ all ↔ e ∈ Entity.all ∧ IsOffered verb e := by
  unfold all forObjects IsOffered Entity.isDeletable
  cases verb <;> simp

/-- **The name of a tool to search** is the label of the entity that it searches. -/
theorem encodes_search {row : SearchTool} (listed : row ∈ SearchTool.all) :
    Encodes (Tool.search row listed).name (Tool.search row listed).offer := by
  obtain ⟨e, he, rfl⟩ := mem_searches_iff.mp listed
  exact .search he

/-- **The name of a tool for an entity** is its verb and its label. -/
theorem encodes_on {verb : Verb} {e : Entity} (he : e ∈ Entity.all) (hoffered : IsOffered verb e) :
    Encodes (Tool.on verb e).name (Tool.on verb e).offer := by
  cases verb with
  | create => exact .create he
  | get => exact .get he
  | update => exact .update he
  | delete => exact .delete he hoffered

/-- **The tools have exactly the names that stand for something**, and offer it. -/
theorem encodes_iff {name : String} {offer : Offer} :
    Encodes name offer ↔ ∃ tool ∈ all, tool.name = name ∧ tool.offer = offer := by
  constructor
  · intro h
    cases h with
    | query => exact ⟨.query, query_mem_all, rfl, rfl⟩
    | @search e he =>
      have listed := mem_searches_iff.mpr ⟨e, he, rfl⟩
      exact ⟨.search _ listed, search_mem_all listed, rfl, rfl⟩
    | @create e he => exact ⟨.on .create e, on_mem_all_iff.mpr ⟨he, trivial⟩, rfl, rfl⟩
    | @get e he => exact ⟨.on .get e, on_mem_all_iff.mpr ⟨he, trivial⟩, rfl, rfl⟩
    | @update e he => exact ⟨.on .update e, on_mem_all_iff.mpr ⟨he, trivial⟩, rfl, rfl⟩
    | @delete e he hdeletable =>
      exact ⟨.on .delete e, on_mem_all_iff.mpr ⟨he, hdeletable⟩, rfl, rfl⟩
  · rintro ⟨tool, htool, rfl, rfl⟩
    cases tool with
    | query => exact .query
    | search row listed => exact encodes_search listed
    | on verb e =>
      obtain ⟨he, hoffered⟩ := on_mem_all_iff.mp htool
      exact encodes_on he hoffered

/-- **No two tools have the same name.** -/
theorem names_nodup : (all.map name).Nodup := by decide +kernel

theorem eq_of_name_eq {tool other : Tool} (htool : tool ∈ all) (hother : other ∈ all)
    (h : tool.name = other.name) : tool = other :=
  List.inj_on_of_nodup_map names_nodup htool hother h

/-- A tool is found by its name. -/
theorem find?_name {tool : Tool} (htool : tool ∈ all) : find? tool.name = some tool := by
  cases hfind : find? tool.name with
  | none =>
    have hnot := List.find?_eq_none.mp hfind tool htool
    exact absurd (beq_self_eq_true tool.name) hnot
  | some other =>
    unfold find? at hfind
    have hname := List.find?_some hfind
    rw [eq_of_name_eq (List.mem_of_find?_eq_some hfind) htool (eq_of_beq hname)]

/-- In the registry the names for deletions are taken exactly where objects can be deleted. -/
theorem delete_names :
    (Entity.all.all fun e =>
      (all.any fun tool => tool.name == "quickbooks-delete-" ++ hyphened e.singular) ==
        Entity.deletableNames.contains e.name) = true := by decide +kernel

/-- **There is a tool to delete objects of an entity iff they can be deleted.** -/
theorem exists_delete_iff {e : Entity} (he : e ∈ Entity.all) :
    (∃ tool ∈ all, tool.name = "quickbooks-delete-" ++ hyphened e.singular) ↔
      e.name ∈ Entity.deletableNames := by
  have hnames := eq_of_beq (List.all_eq_true.mp delete_names e he)
  rw [← List.contains_iff_mem, ← hnames, List.any_eq_true]
  simp only [beq_iff_eq]

end Tool

/-! ## 2. Failures -/

/-- Failures to find a text for octets that are told in words. -/
inductive CharsetFault.IsForeseen : CharsetFault → Prop where
  /-- The name of the charset has a null character in it. -/
  | nullInName : IsForeseen .nullInName
  /-- A mark for the order of the octets is missing. -/
  | markMissing (isDouble : Bool) : IsForeseen (.markMissing isDouble)
  /-- The charset cannot mark damage. -/
  | noMarking : IsForeseen .noMarking
  /-- The charset has no text for any octets. -/
  | neverReadable : IsForeseen .neverReadable
  /-- A switch of sets goes on for too long. -/
  | overlong : IsForeseen (.unswitched .overlong)
  /-- Octets are damaged. -/
  | damaged (damage : Octets.Damage) : IsForeseen (.damaged damage)

/-- **Failures that are told in words**: values that are not right, answers that cannot be read, a
    missing token, and what goes wrong at the server or on the way to it. -/
inductive Failure.IsForeseen : Failure → Prop where
  /-- The criteria or the entity were turned down. -/
  | rejected (reasons : List String) : IsForeseen (.rejected reasons)
  /-- No company is named. -/
  | noCompany : IsForeseen .noCompany
  /-- An id is missing. -/
  | idMissing (label : String) : IsForeseen (.idMissing label)
  /-- Keys are missing for an update. -/
  | updateIncomplete (label : String) (missing : List String) :
    IsForeseen (.updateIncomplete label missing)
  /-- The id or the version is missing for a deletion. -/
  | deleteIncomplete (label : String) : IsForeseen (.deleteIncomplete label)
  /-- A setting is not made. -/
  | settingRefused (fault : SettingFault) : IsForeseen (.settingRefused fault)
  /-- A setting is not a whole number. -/
  | unreadableWhole (text : String) (fault : Numeral.Fault) :
    IsForeseen (.unreadableWhole text fault)
  /-- A setting is not a number. -/
  | unreadableNumber (text : String) : IsForeseen (.unreadableNumber text)
  /-- What is not a number has no whole part. -/
  | noWholePart : IsForeseen .noWholePart
  /-- A whole number is too long to be written. -/
  | unwritableWhole : IsForeseen .unwritableWhole
  /-- A part of a mapping is no pair. -/
  | notPair (position size : Nat) : IsForeseen (.notPair position size)
  /-- A header cannot hold its text. -/
  | unwritableHeader (fault : HeaderFault) : IsForeseen (.unwritableHeader fault)
  /-- The text of an answer is not JSON. -/
  | malformed (text : String) (what : Json.Complaint) (position : Nat) :
    IsForeseen (.unreadableBody text (.malformed what position))
  /-- A whole number in an answer is too long to be read. -/
  | tooLong (text : String) (digits : Nat) : IsForeseen (.unreadableBody text (.tooLong digits))
  /-- The octets of an answer have no text. -/
  | undecodable {fault : CharsetFault} (h : fault.IsForeseen) : IsForeseen (.undecodable fault)
  /-- No access token was sent along. -/
  | noToken : IsForeseen .noToken
  /-- The server answered with an error status. -/
  | api (fault : ApiFault) : IsForeseen (.api fault)
  /-- The server was not reached. -/
  | network (kind message : String) : IsForeseen (.network kind message)

theorem CharsetFault.isForeseen_iff {fault : CharsetFault} :
    fault.IsForeseen ↔ (charsetKind? fault).isSome = true := by
  constructor
  · intro h
    cases h <;> rfl
  · intro h
    unfold charsetKind? at h
    split at h
    · exact .nullInName
    · exact .markMissing _
    · exact .noMarking
    · exact .neverReadable
    · exact .damaged _
    · exact .overlong
    all_goals cases h

/-- The failures that are told are the ones that are reported as incidents. -/
theorem Failure.isForeseen_iff {f : Failure} : f.IsForeseen ↔ f.incident?.isSome = true := by
  constructor
  · intro h
    cases h with
    | undecodable h =>
      rw [Failure.incident?, Option.isSome_map]
      exact CharsetFault.isForeseen_iff.mp h
    | _ => rfl
  · intro h
    cases f with
    | rejected => exact .rejected _
    | noCompany => exact .noCompany
    | idMissing => exact .idMissing _
    | updateIncomplete => exact .updateIncomplete _ _
    | deleteIncomplete => exact .deleteIncomplete _
    | settingRefused => exact .settingRefused _
    | unreadableWhole => exact .unreadableWhole _ _
    | unreadableNumber => exact .unreadableNumber _
    | noWholePart => exact .noWholePart
    | unwritableWhole => exact .unwritableWhole
    | notPair => exact .notPair _ _
    | unwritableHeader => exact .unwritableHeader _
    | unreadableBody text fault =>
      cases fault with
      | malformed => exact .malformed _ _ _
      | tooLong => exact .tooLong _ _
      | tooDeep => cases h
    | undecodable fault =>
      rw [Failure.incident?, Option.isSome_map] at h
      exact .undecodable (CharsetFault.isForeseen_iff.mpr h)
    | noToken => exact .noToken
    | api => exact .api _
    | network => exact .network _ _
    | misuse => cases h
    | tool => cases h
    | crash => cases h

/-- The text in which a failure is told to the caller of an operation, if there is one. -/
def Failure.Tells (settings : Settings) (operation : String) (f : Failure) (text : String) : Prop :=
  ∃ incident, f.incident? = some incident ∧ incident.report settings (some operation) = .ok text

/-! ## 3. Using a tool -/

/-- **What using a tool has to do with making its call.** Each comes with its outcome and the
    session afterwards. -/
structure Agrees {σ : Type} (settings : Settings) (operation : String)
    (called used : Except Failure Value × Session σ) : Prop where
  /-- The session is the same: the requests that were sent, the server, and all else. -/
  session : used.2 = called.2
  /-- The results are the same. -/
  result : ∀ v, used.1 = .ok v ↔ called.1 = .ok v
  /-- A foreseen failure that can be told is told. -/
  told : ∀ f text, called.1 = .error f → f.IsForeseen → f.Tells settings operation text →
    used.1 = .error (.tool text)
  /-- Any other failure passes through unchanged. -/
  passed : ∀ f, called.1 = .error f → ¬ f.IsForeseen → used.1 = .error f

namespace Tool

variable {σ : Type} {settings : Settings} {operation : String} {f : Failure}

theorem wrapped_of_tells {text : String} (h : f.Tells settings operation text) :
    wrapped settings operation f = .tool text := by
  obtain ⟨incident, hincident, hreport⟩ := h
  unfold wrapped
  rw [hincident]
  dsimp only
  rw [hreport]

theorem wrapped_of_not_isForeseen (h : ¬ f.IsForeseen) : wrapped settings operation f = f := by
  rw [Failure.isForeseen_iff, Bool.not_eq_true, Option.isSome_eq_false_iff,
    Option.isNone_iff_eq_none] at h
  unfold wrapped
  rw [h]

theorem agrees_guarded (operation : String) (g : Gateway σ Value) (s : Session σ) :
    Agrees s.settings operation (g.execute s) ((guarded operation g).execute s) := by
  rw [execute_guarded]
  refine ⟨rfl, fun v => ?_, fun f text hf _ htells => ?_, fun f hf hunforeseen => ?_⟩
  · cases (g.execute s).1 with
    | ok a => exact Iff.rfl
    | error f => constructor <;> rintro ⟨⟩
  · rw [hf]
    exact congrArg Except.error (wrapped_of_tells htells)
  · rw [hf]
    exact congrArg Except.error (wrapped_of_not_isForeseen hunforeseen)

/-- A failure that is foreseen but cannot be told becomes a failure of the report. -/
theorem execute_guarded_of_unreportable {g : Gateway σ Value} {s : Session σ} {incident : Incident}
    {cause : Misuse} (hf : (g.execute s).1 = .error f) (hincident : f.incident? = some incident)
    (hreport : incident.report s.settings (some operation) = .error cause) :
    ((guarded operation g).execute s).1 = .error (.misuse cause) := by
  rw [execute_guarded, hf]
  show Except.error (wrapped s.settings operation f) = _
  unfold wrapped
  rw [hincident]
  dsimp only
  rw [hreport]

theorem accepts_iff {tool : Tool} {args : Fields} :
    tool.accepts args = true ↔ (∀ key ∈ tool.required, args.has key = true) ∧
      ∀ key ∈ args.keys, key ∈ tool.required ∨ key ∈ tool.optional := by
  unfold accepts arguments
  simp only [Bool.and_eq_true, List.all_eq_true, List.contains_iff_mem, List.mem_append]

/-- **Tools agree with the calls that their names stand for.** No two tools have the same name,
    every name stands for something, and there is a tool to delete objects of an entity exactly if
    they can be deleted. Whatever a name stands for, there is a tool with it. Used with any values
    for its arguments, in any session and with any server, it does what the call does, as `Agrees`
    says. -/
theorem tools_agree (server : Server σ) :
    (all.map name).Nodup ∧
    (∀ tool ∈ all, ∃ offer, Encodes tool.name offer) ∧
    (∀ e ∈ Entity.all, (∃ tool ∈ all, tool.name = "quickbooks-delete-" ++ hyphened e.singular) ↔
      e.name ∈ Entity.deletableNames) ∧
    ∀ name offer, Encodes name offer → ∃ tool, find? name = some tool ∧
      ∀ (args : Fields) (s : Session σ), (∀ key ∈ offer.required, args.has key = true) →
        (∀ key ∈ args.keys, key ∈ offer.required ∨ key ∈ offer.optional) →
        Agrees s.settings offer.operation
          (((offer.call args).perform server none (args.getD "realm_id")).execute s)
          ((tool.use server args).execute s) := by
  refine ⟨names_nodup, fun tool htool => ?_, fun e he => exists_delete_iff he,
    fun name offer h => ?_⟩
  · exact ⟨tool.offer, encodes_iff.mpr ⟨tool, htool, rfl, rfl⟩⟩
  · obtain ⟨tool, htool, rfl, rfl⟩ := encodes_iff.mp h
    refine ⟨tool, find?_name htool, fun args s hrequired hnone => ?_⟩
    have haccepts : tool.accepts args = true := accepts_iff.mpr ⟨hrequired, hnone⟩
    rw [use, if_pos haccepts]
    exact agrees_guarded tool.operation _ s

/-- Arguments for a deletion. -/
def deletion : Fields := [("entity_id", .str "7"), ("sync_token", .str "0")]

theorem tools_agree_deleteBillPayment :
    Entity.all[2].name = "BillPayment" ∧
    (∀ key ∈ ["entity_id", "sync_token"], deletion.has key = true) ∧
    ∃ tool, find? "quickbooks-delete-bill-payment" = some tool ∧
      ((tool.use Server.queued deletion).execute { server := [] }).2.sent = [] ∧
      ((tool.use Server.queued deletion).execute { server := [] }).1 =
        .error (.tool ("Error while trying to delete bill payment: " ++ Failure.noToken.message)) ∧
      ∃ v, ((tool.use Server.queued deletion).execute
        { Step.caller with server := [.answered ⟨200, none, "{}"⟩] }).1 = .ok v := by
  have hencodes := Encodes.delete (e := Entity.all[2]) (List.getElem_mem _) (by decide)
  have hname : "quickbooks-delete-" ++ hyphened Entity.all[2].singular =
      "quickbooks-delete-bill-payment" := by decide +kernel
  rw [hname] at hencodes
  have hgiven : ∀ key ∈ ["entity_id", "sync_token"], deletion.has key = true := by decide
  obtain ⟨_, _, _, hagrees⟩ := tools_agree Server.queued
  obtain ⟨tool, hfind, hagrees⟩ := hagrees _ _ hencodes
  have hnone := hagrees deletion { server := [] } hgiven (by decide)
  have hsome := hagrees deletion { Step.caller with server := [.answered ⟨200, none, "{}"⟩] }
    hgiven (by decide)
  refine ⟨rfl, hgiven, tool, hfind, ?_, ?_, _, (hsome.result _).mpr rfl⟩
  · exact (congrArg Session.sent hnone.session).trans rfl
  · have hreport : (Incident.exception "PermissionError" Failure.noToken.message).report {}
        (some ("delete " ++ Entity.all[2].singular)) =
        .ok ("Error while trying to delete bill payment: " ++ Failure.noToken.message) := by
      decide +kernel
    exact hnone.told .noToken _ rfl .noToken ⟨_, rfl, hreport⟩

end Tool

end BooksGateway
