import BooksGateway.Proofs.Admission
import BooksGateway.Proofs.Exactness

/-!
# Addresses of objects

The address of a read is a host and a path, in which the id stands at the end as it was given. A
path is read segment by segment, so an id is one segment only when it holds no slash; every slash in
it starts another segment.

* `segments`: a path between its slashes;
* `Entity.endpoint_eq`: the segment of an entity;
* `get_address`: the addresses of reads.
-/

namespace BooksGateway

/-! ## 1. Segments -/

/-- The segments of a path: what stands between its slashes. -/
def segments (path : String) : List String := (path.toList.splitOn '/').map String.ofList

theorem segments_slash (before after : String) :
    segments (before ++ "/" ++ after) = segments before ++ segments after := by
  have hchars : (before ++ "/" ++ after).toList = before.toList ++ '/' :: after.toList := by
    simp only [String.toList_append, List.append_assoc]
    rfl
  rw [segments, hchars, List.splitOn_append_cons_self, List.map_append]
  rfl

theorem segments_of_no_slash {text : String} (h : '/' ∉ text.toList) : segments text = [text] := by
  rw [segments, List.splitOn_eq_singleton h, List.map_singleton, String.ofList_toList]

theorem segments_ne_nil (text : String) : segments text ≠ [] := by
  rw [segments, Ne, List.map_eq_nil_iff]
  exact List.splitOn_ne_nil _ _

/-- A text is one segment exactly if it holds no slash. -/
theorem segments_eq_singleton_iff {text : String} :
    (∃ segment, segments text = [segment]) ↔ '/' ∉ text.toList := by
  constructor
  · rintro ⟨segment, hsegment⟩ hslash
    -- a slash would leave a segment on either side
    obtain ⟨before, after, hchars⟩ := List.append_of_mem hslash
    have hsplit : segments text =
        segments (String.ofList before) ++ segments (String.ofList after) := by
      rw [← segments_slash]
      congr 1
      exact String.toList_inj.mp (by simp [hchars])
    rw [hsplit] at hsegment
    rcases List.append_eq_singleton_iff.mp hsegment with ⟨hbefore, _⟩ | ⟨_, hafter⟩
    · exact segments_ne_nil _ hbefore
    · exact segments_ne_nil _ hafter
  · intro h
    exact ⟨text, segments_of_no_slash h⟩

/-! ## 2. Paths of entities -/

namespace Entity

theorem endpoints_named :
    ∀ e ∈ all, e.endpoint = "/" ++ Text.lower e.name ∧ '/' ∉ (Text.lower e.name).toList := by
  decide +kernel

/-- The path of an entity is its name in lower case. -/
theorem endpoint_eq {e : Entity} (he : e ∈ all) : e.endpoint = "/" ++ Text.lower e.name :=
  (endpoints_named e he).1

theorem no_slash_lower_name {e : Entity} (he : e ∈ all) : '/' ∉ (Text.lower e.name).toList :=
  (endpoints_named e he).2

end Entity

/-! ## 3. Reads -/

theorem Inquiry.rooted_slash (path : String) : rooted ("/" ++ path) = "/" ++ path :=
  if_pos (Text.begins_iff.mpr ⟨path, rfl⟩)

/-- What follows the host in the address of an object. -/
def objectPath (company : Value) (e : Entity) (id : String) : String :=
  "/v3/company/" ++ company.display ++ "/" ++ Text.lower e.name ++ "/" ++ id

/-- **The id stands at the end of a path, with all segments that it has.** -/
theorem segments_objectPath {company : Value} (hcompany : '/' ∉ company.display.toList)
    {e : Entity} (he : e ∈ Entity.all) (id : String) :
    segments (objectPath company e id) =
      ["", "v3", "company", company.display, Text.lower e.name] ++ segments id := by
  have hroot : "/v3/company/" = "/v3/company" ++ "/" := by decide
  have hsegments : segments "/v3/company" = ["", "v3", "company"] := by decide
  unfold objectPath
  rw [hroot, segments_slash, segments_slash, segments_slash, hsegments,
    segments_of_no_slash hcompany, segments_of_no_slash (Entity.no_slash_lower_name he)]
  rfl

namespace Call

open Gateway

variable {σ : Type} (server : Server σ) (sandbox : Option Bool) (realm : Value)

/-- The inquiry for an object. -/
def reading (e : Entity) (id : String) : Inquiry :=
  { method := "GET", path := e.endpoint ++ "/", object := .str id }

/-- What an inquiry about an object sends is the request that is made for it, if there is one. -/
theorem sent_inquireObject {s : Session σ} {access : Access}
    (haccess : Access.resolve s.settings s.credentials realm = .ok access) (e : Entity)
    (shown : Fields) (inquiry : Inquiry) :
    ((inquireObject server sandbox realm e shown inquiry).execute s).2.sent =
      s.sent ++ (inquiry.request s.settings access sandbox).toOption.toList := by
  rw [inquireObject, execute_bind, execute_access, haccess]
  dsimp only
  rw [execute_bind, execute_inquire]
  cases inquiry.request s.settings access sandbox with
  | error f => exact (List.append_nil _).symm
  | ok request =>
    dsimp only
    cases (server.handle request s.server).1.result with
    | error f => rfl
    | ok data =>
      dsimp only
      rw [execute_bind, execute_ofMisuse]
      cases Failure.ofMisuse (objectOf e data) <;> rfl

/-- A read without an id sends nothing; any other asks for the object under its id. -/
theorem sent_get {name : String} {e : Entity} (hget : Entity.get (.str name) = .ok e)
    {s : Session σ} {access : Access}
    (haccess : Access.resolve s.settings s.credentials realm = .ok access) {id : String}
    (hid : id ≠ "") :
    (((get (.str name) (.str id)).perform server sandbox realm).execute s).2.sent =
      s.sent ++ ((reading e id).request s.settings access sandbox).toOption.toList := by
  have hcheck : checkGet e (.str id) = .ok () := if_pos (isTruthy_str.mpr hid)
  rw [perform, execute_bind, execute_ofExcept, hget]
  dsimp only
  rw [execute_bind, execute_ofExcept, hcheck]
  exact sent_inquireObject server sandbox realm haccess e _ _

/-- **The addresses of reads.** A call that reads an object of an entity sends at most one request,
    to one of the two hosts. The segments of its path are those of the company and the entity, and
    then all those of the id. So there is one segment for the id if and only if the id holds no
    slash, and then this segment is the id itself. -/
theorem get_address {name : String} {e : Entity} (hget : Entity.get (.str name) = .ok e)
    {s : Session σ} {access : Access}
    (haccess : Access.resolve s.settings s.credentials realm = .ok access)
    (hcompany : '/' ∉ access.realm.display.toList) {id : String} (hid : id ≠ "") :
    ∃ requests,
      (((get (.str name) (.str id)).perform server sandbox realm).execute s).2.sent =
        s.sent ++ requests ∧
      requests.length ≤ 1 ∧
      ∀ request ∈ requests, ∃ host path,
        (host = Inquiry.sandboxHost ∨ host = Inquiry.liveHost) ∧ request.url = host ++ path ∧
        segments path =
          ["", "v3", "company", access.realm.display, Text.lower e.name] ++ segments id ∧
        ((∃ last, segments path =
            ["", "v3", "company", access.realm.display, Text.lower e.name, last]) ↔
          '/' ∉ id.toList) ∧
        ('/' ∉ id.toList → segments id = [id]) := by
  have he := Validation.mem_all_of_get hget
  refine ⟨_, sent_get server sandbox realm hget haccess hid, ?_, fun request hrequest => ?_⟩
  · cases (reading e id).request s.settings access sandbox with
    | error f => exact Nat.zero_le _
    | ok request => exact Nat.le_refl _
  · have hmade : (reading e id).request s.settings access sandbox = .ok request := by
      cases hcase : (reading e id).request s.settings access sandbox with
      | error f =>
        rw [hcase] at hrequest
        cases hrequest
      | ok found =>
        rw [hcase] at hrequest
        rw [List.mem_singleton.mp hrequest]
    have hsegments := segments_objectPath hcompany he id
    refine ⟨Inquiry.host s.settings sandbox, objectPath access.realm e id,
      Inquiry.host_cases s.settings sandbox, ?_, hsegments, ?_, segments_of_no_slash⟩
    · rw [(Inquiry.request_eq_ok hmade).2, reading, Entity.endpoint_eq he, Value.display]
      unfold objectPath
      simp only [String.append_assoc, Inquiry.rooted_slash]
    · rw [hsegments, ← segments_eq_singleton_iff]
      simp

/-- An id with slashes leads to an object of another company. -/
theorem get_address_elsewhere :
    ∃ e access, Entity.get (.str "Customer") = .ok e ∧
      Access.resolve Step.caller.settings Step.caller.credentials .null = .ok access ∧
      '/' ∉ access.realm.display.toList ∧ "../../9131/customer/7" ≠ "" ∧
      ∃ request,
        (((get (.str "Customer") (.str "../../9131/customer/7")).perform Server.queued none
          .null).execute Step.caller).2.sent = [request] ∧
        ∃ host path, request.url = host ++ path ∧
          segments path =
            ["", "v3", "company", "9130", "customer", "..", "..", "9131", "customer", "7"] := by
  obtain ⟨e, hget, hname⟩ :
      ∃ e, Entity.get (.str "Customer") = .ok e ∧ Text.lower e.name = "customer" :=
    ⟨_, rfl, by decide⟩
  obtain ⟨access, haccess, hrealm⟩ :
      ∃ access, Access.resolve Step.caller.settings Step.caller.credentials .null = .ok access ∧
        access.realm.display = "9130" := ⟨_, rfl, rfl⟩
  have hcompany : '/' ∉ access.realm.display.toList := by
    rw [hrealm]
    decide
  have hid : "../../9131/customer/7" ≠ "" := by decide
  obtain ⟨requests, hsent, _, hrequests⟩ :=
    get_address Server.queued none .null hget haccess hcompany hid
  have hlength : (((get (.str "Customer") (.str "../../9131/customer/7")).perform Server.queued none
      .null).execute Step.caller).2.sent.length = 1 := rfl
  have hempty : Step.caller.sent = [] := rfl
  rw [hsent, hempty, List.nil_append] at hlength
  obtain ⟨request, rfl⟩ := List.length_eq_one_iff.mp hlength
  obtain ⟨host, path, _, hurl, hsegments, _⟩ := hrequests request List.mem_cons_self
  have hparts : segments "../../9131/customer/7" = ["..", "..", "9131", "customer", "7"] := by
    decide
  rw [hrealm, hname, hparts] at hsegments
  exact ⟨e, access, hget, haccess, hcompany, hid, request, hsent, host, path, hurl, hsegments⟩

end Call

end BooksGateway
