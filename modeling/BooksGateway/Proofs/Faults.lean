import BooksGateway.Tool

/-!
# What is told of an error answer

The body of an answer with an error status may be any value. The way to its first fault is open only
where the kinds on it are those that the gateway counts on, and the report of that fault can only be
made if what it says is a text or does not count as given.

* `ApiFault.firstFault_eq_ok`: the bodies with a first fault, and what it is;
* `faultReport_isOk_iff`, `exists_of_faultReport`: when a fault can be told, and how its report
  begins;
* `Reply.IsTold`: the error answers that can be told;
* `Tool.exists_tellsOf`: the caller of a tool is told of these, and of no others.
-/

namespace BooksGateway

/-! ## 1. The first fault of a body -/

namespace ApiFault

/-- The value under a key in its first spelling, or else in the second one. -/
def spelled (fields : Fields) (key other : String) : Value :=
  (Fields.getD fields key).orElse (Fields.getD fields other)

/-- The first of the errors in a fault. It is empty when none are given, and when what stands there
    is no mapping. -/
inductive IsFirstError : Value → Fields → Prop
  /-- No errors are given. -/
  | nothing {v : Value} (h : v.isTruthy = false) : IsFirstError v []
  /-- The first character of a text is no mapping. -/
  | text (s : String) : IsFirstError (.str s) []
  /-- The first item of a list. -/
  | error (error : Fields) (rest : List Value) : IsFirstError (.list (.obj error :: rest)) error
  /-- A first item that is no mapping. -/
  | other {v : Value} (rest : List Value) (h : ∀ fields, v ≠ .obj fields) :
      IsFirstError (.list (v :: rest)) []

/-- **The first fault of a body.** It is empty for bodies that are no mappings, and for those
    without a fault. A fault that is no mapping, and errors that are neither a list nor a text, have
    no first one. -/
inductive IsFirstFault : Value → Fields → Prop
  /-- The body is no mapping. -/
  | plain {v : Value} (h : ∀ payload, v ≠ .obj payload) : IsFirstFault v []
  /-- No fault is given in it. -/
  | faultless {payload : Fields} (h : (spelled payload "Fault" "fault").isTruthy = false) :
      IsFirstFault (.obj payload) []
  /-- The fault is a mapping, and there is a first error in it. -/
  | fault {payload fields error : Fields} (h : spelled payload "Fault" "fault" = .obj fields)
      (herror : IsFirstError (spelled fields "Error" "error") error) :
      IsFirstFault (.obj payload) error

/-- The first of the errors in a fault, taken out of what stands there. -/
def firstError (errors : Value) : Except Misuse Fields := do
  if errors.isTruthy then
    match ← errors.part 0 with
    | .obj error => return error
    | _ => return []
  else return []

theorem firstError_str (s : String) : firstError (.str s) = .ok [] := by
  unfold firstError
  split
  · rename_i hgiven
    have hne : s.toList ≠ [] := fun hnil => bne_iff_ne.mp hgiven (String.toList_eq_nil_iff.mp hnil)
    obtain ⟨c, rest, hchars⟩ := List.exists_cons_of_ne_nil hne
    rw [Value.part, hchars]
    rfl
  · rfl

theorem firstError_eq_ok {errors : Value} {error : Fields} :
    firstError errors = .ok error ↔ IsFirstError errors error := by
  constructor
  · intro h
    cases errors with
    | str s =>
      rw [firstError_str] at h
      cases h
      exact .text s
    | list items =>
      cases items with
      | nil =>
        cases h
        exact .nothing rfl
      | cons v rest =>
        cases v with
        | obj fields =>
          cases h
          exact .error _ rest
        | _ =>
          cases h
          exact .other rest nofun
    | _ =>
      -- all other values have no parts, so they pass only when they do not count as given
      unfold firstError at h
      split at h
      · cases h
      · rename_i hgiven
        cases h
        exact .nothing (Bool.eq_false_iff.mpr hgiven)
  · intro h
    cases h with
    | nothing h =>
      rw [firstError, h]
      rfl
    | text s => exact firstError_str s
    | error error rest => rfl
    | @other v rest h =>
      cases v with
      | obj fields => exact absurd rfl (h fields)
      | _ => rfl

theorem firstFault_obj (payload : Fields) :
    firstFault (.obj payload) = (do
      let fault := (spelled payload "Fault" "fault").orElse (.obj [])
      let errors := (← fault.member "Error").orElse (← fault.member "error")
      firstError errors) := by
  have horElse : (spelled payload "Fault" "fault").orElse (.obj []) =
      (Fields.getD payload "Fault").orElse ((Fields.getD payload "fault").orElse (.obj [])) := by
    unfold spelled Value.orElse
    by_cases h : (Fields.getD payload "Fault").isTruthy = true
    · rw [if_pos h, if_pos h, if_pos h]
    · rw [if_neg h, if_neg h]
  rw [horElse]
  rfl

theorem firstFault_of_fault {payload fields : Fields}
    (h : (spelled payload "Fault" "fault").orElse (.obj []) = .obj fields) :
    firstFault (.obj payload) = firstError (spelled fields "Error" "error") := by
  rw [firstFault_obj, h]
  rfl

/-- **The first fault is found exactly where there is one.** -/
theorem firstFault_eq_ok {payload : Value} {error : Fields} :
    firstFault payload = .ok error ↔ IsFirstFault payload error := by
  constructor
  · intro h
    cases payload with
    | obj payload =>
      by_cases hgiven : (spelled payload "Fault" "fault").isTruthy = true
      · have hfault : (spelled payload "Fault" "fault").orElse (.obj []) =
            spelled payload "Fault" "fault" := if_pos hgiven
        cases hkind : spelled payload "Fault" "fault" with
        | obj fields =>
          rw [firstFault_of_fault (hfault.trans hkind)] at h
          exact .fault hkind (firstError_eq_ok.mp h)
        | _ =>
          rw [firstFault_obj, hfault, hkind] at h
          cases h
      · have hfault : (spelled payload "Fault" "fault").orElse (.obj []) = .obj [] := if_neg hgiven
        rw [firstFault_of_fault hfault] at h
        cases h
        exact .faultless (Bool.eq_false_iff.mpr hgiven)
    | _ =>
      cases h
      exact .plain nofun
  · intro h
    cases h with
    | plain h =>
      cases payload with
      | obj payload => exact absurd rfl (h payload)
      | _ => rfl
    | faultless h =>
      rw [firstFault_of_fault (if_neg (Bool.eq_false_iff.mp h))]
      rfl
    | @fault payload fields _ h herror =>
      have hfault : (spelled payload "Fault" "fault").orElse (.obj []) = .obj fields := by
        rw [h]
        cases fields <;> rfl
      rw [firstFault_of_fault hfault]
      exact firstError_eq_ok.mpr herror

/-- What a fault says can be told: it is a text, or does not count as given. -/
def IsPlain (message : Value) : Prop := message.isTruthy = false ∨ ∃ text, message = .str text

/-- **A body that can be told**: it has a first fault, and what that says can be told. -/
def IsTellable (payload : Value) : Prop :=
  ∃ error, IsFirstFault payload error ∧ IsPlain (Fields.getD error "Message")

theorem ofPayload_of_firstFault {payload : Value} {error : Fields}
    (h : firstFault payload = .ok error) (status : Int) :
    ∃ fault, ofPayload status payload = .ok fault ∧
      fault.message = Fields.getD error "Message" := by
  unfold ofPayload
  rw [h]
  exact ⟨_, rfl, rfl⟩

/-- A body can be told exactly if a fault is made of it whose message can be told. -/
theorem isTellable_iff (status : Int) (payload : Value) :
    IsTellable payload ↔
      ∃ fault, ofPayload status payload = .ok fault ∧ IsPlain fault.message := by
  constructor
  · rintro ⟨error, hfirst, hplain⟩
    obtain ⟨fault, hfault, hmessage⟩ :=
      ofPayload_of_firstFault (firstFault_eq_ok.mpr hfirst) status
    exact ⟨fault, hfault, hmessage ▸ hplain⟩
  · rintro ⟨fault, hfault, hplain⟩
    cases hfirst : firstFault payload with
    | error cause =>
      rw [ofPayload, hfirst] at hfault
      cases hfault
    | ok error =>
      obtain ⟨same, hsame, hmessage⟩ := ofPayload_of_firstFault hfirst status
      obtain rfl := Except.ok.inj (hfault.symm.trans hsame)
      exact ⟨error, firstFault_eq_ok.mp hfirst, hmessage ▸ hplain⟩

end ApiFault

/-! ## 2. Reports of faults -/

/-- Values can be joined when each is a text. -/
theorem Value.allTexts_isOk_iff (parts : List Value) :
    (∃ texts, allTexts parts = .ok texts) ↔ ∀ v ∈ parts, ∃ s, v = .str s := by
  induction parts with
  | nil => simp [allTexts]
  | cons v rest ih =>
    rw [List.forall_mem_cons, ← ih]
    cases v with
    | str s =>
      rw [allTexts]
      cases allTexts rest <;> simp [Except.map]
    | _ => simp [allTexts]

theorem Value.exists_joined_cons (separator part : String) (rest : List String) :
    ∃ more, joined separator (part :: rest) = part ++ more := by
  cases rest with
  | nil => exact ⟨"", (String.append_empty).symm⟩
  | cons next rest =>
    refine ⟨separator ++ joined separator (next :: rest), ?_⟩
    rw [joined, String.append_assoc]
    exact nofun

theorem exists_of_labelled {label : String} {v part : Value} (h : part ∈ labelled label v) :
    ∃ s, part = .str s := by
  unfold labelled at h
  split at h
  · exact ⟨_, List.mem_singleton.mp h⟩
  · cases h

theorem exists_of_adviceFor {code part : Value} (h : part ∈ adviceFor code) :
    ∃ s, part = .str s := by
  unfold adviceFor at h
  split at h
  · split at h
    · exact ⟨_, List.mem_singleton.mp h⟩
    · cases h
  · cases h

/-- What the report of a fault shows besides what the fault says. -/
def faultDetails (fault : ApiFault) : List Value :=
  labelled "\nDetails: " fault.detail
    ++ (labelled "\nError Code: " fault.code
    ++ (labelled "\nField: " fault.element
    ++ adviceFor fault.code))

theorem exists_of_faultDetails {fault : ApiFault} {part : Value} (h : part ∈ faultDetails fault) :
    ∃ s, part = .str s := by
  simp only [faultDetails, List.mem_append] at h
  rcases h with h | h | h | h
  · exact exists_of_labelled h
  · exact exists_of_labelled h
  · exact exists_of_labelled h
  · exact exists_of_adviceFor h

theorem faultReport_of_said {fault : ApiFault}
    (h : (fault.message.isTruthy || fault.detail.isTruthy) = true) (head : String) :
    faultReport head fault =
      (Value.allTexts (.str (head ++ ":")
        :: ((if fault.message.isTruthy then [fault.message] else [])
          ++ faultDetails fault))).map (Value.joined " ") := by
  rw [faultReport, if_pos h]
  simp only [faultDetails, List.cons_append, List.append_assoc]

theorem append_colon (head rest : String) :
    head ++ ": " ++ rest = head ++ ":" ++ (" " ++ rest) := by
  have hcolon : ": " = ":" ++ " " := rfl
  rw [hcolon]
  simp only [String.append_assoc]

theorem faultReport_of_silent {fault : ApiFault}
    (h : ¬ (fault.message.isTruthy || fault.detail.isTruthy) = true) (head : String) :
    ∃ rest, faultReport head fault = .ok (head ++ ":" ++ rest) := by
  rw [faultReport, if_neg h]
  split
  · exact ⟨_, congrArg Except.ok (append_colon head fault.description.display)⟩
  · exact ⟨_, congrArg Except.ok (append_colon head (statusText fault.status))⟩

/-- **A fault can be told exactly if what it says is a text or does not count as given.** -/
theorem faultReport_isOk_iff (head : String) (fault : ApiFault) :
    (∃ text, faultReport head fault = .ok text) ↔ ApiFault.IsPlain fault.message := by
  by_cases hsaid : (fault.message.isTruthy || fault.detail.isTruthy) = true
  · rw [faultReport_of_said hsaid]
    have hmap : ∀ r : Except Misuse (List String),
        (∃ text, r.map (Value.joined " ") = .ok text) ↔ ∃ texts, r = .ok texts := by
      rintro (_ | texts) <;> simp [Except.map]
    rw [hmap, Value.allTexts_isOk_iff, List.forall_mem_cons, List.forall_mem_append,
      and_iff_right ⟨_, rfl⟩, and_iff_left fun part => exists_of_faultDetails]
    by_cases hgiven : fault.message.isTruthy = true
    · simp [ApiFault.IsPlain, hgiven]
    · simp [ApiFault.IsPlain, hgiven]
  · obtain ⟨rest, hreport⟩ := faultReport_of_silent hsaid head
    rw [Bool.or_eq_true, not_or] at hsaid
    exact iff_of_true ⟨_, hreport⟩ (.inl (Bool.eq_false_iff.mpr hsaid.1))

/-- The report of a fault begins with its head and a colon. -/
theorem exists_of_faultReport {head text : String} {fault : ApiFault}
    (h : faultReport head fault = .ok text) : ∃ rest, text = head ++ ":" ++ rest := by
  by_cases hsaid : (fault.message.isTruthy || fault.detail.isTruthy) = true
  · rw [faultReport_of_said hsaid, Value.allTexts] at h
    cases hparts : Value.allTexts ((if fault.message.isTruthy then [fault.message] else [])
        ++ faultDetails fault) with
    | error cause =>
      rw [hparts] at h
      cases h
    | ok parts =>
      rw [hparts] at h
      cases h
      exact Value.exists_joined_cons " " (head ++ ":") parts
  · obtain ⟨rest, hreport⟩ := faultReport_of_silent hsaid head
    rw [h] at hreport
    exact ⟨rest, Except.ok.inj hreport⟩

/-! ## 3. Error answers -/

/-- **An error answer that can be told**: it does not arrive for a reason that can be told, or its
    body can be told, or why that has no text. -/
inductive Reply.IsTold (r : Reply) : Prop
  /-- The header cannot be written. -/
  | barred {fault : HeaderFault} (h : r.contentType.bind HeaderFault.ofText? = some fault)
  /-- The body is read, and can be told. -/
  | readable {payload : Value} (h : r.errorPayload = .ok payload)
      (htellable : ApiFault.IsTellable payload)
  /-- The octets of the body have no text, in a way that is foreseen. -/
  | unreadable {fault : CharsetFault} (h : r.errorPayload = .error (.undecodable fault))
      (hkind : (charsetKind? fault).isSome = true)

/-- The body of an error answer cannot be read when its octets have no text, or it is nested too
    deeply. -/
theorem Reply.errorPayload_eq_error {r : Reply} {f : Failure} (h : r.errorPayload = .error f) :
    (∃ fault, f = .undecodable fault) ∨ ∃ text, f = .unreadableBody text .tooDeep := by
  unfold errorPayload at h
  split at h
  · cases h
  · cases h
    exact .inr ⟨_, rfl⟩
  · unfold Reply.text at h
    split at h
    · cases h
    · split at h
      · cases h
      · cases h
        exact .inl ⟨_, rfl⟩

theorem Reply.result_of_payload {r : Reply} (h : 400 ≤ r.status) {payload : Value}
    (hpayload : r.errorPayload = .ok payload) :
    r.result =
      match ApiFault.ofPayload r.status payload with
      | .ok fault => .error (.api fault)
      | .error cause => .error (.misuse cause) := by
  rw [result, if_pos h, hpayload]
  show (match ApiFault.ofPayload r.status payload with | .ok fault => _ | .error cause => _) = _
  cases ApiFault.ofPayload r.status payload <;> rfl

theorem Reply.result_of_unreadable {r : Reply} (h : 400 ≤ r.status) {f : Failure}
    (hpayload : r.errorPayload = .error f) : r.result = .error f := by
  rw [result, if_pos h, hpayload]
  rfl

theorem Delivery.result_of_barred {r : Reply} {fault : HeaderFault}
    (h : r.contentType.bind HeaderFault.ofText? = some fault) :
    (answered r).result = .error (.unwritableHeader fault) := by
  rw [result, reply, h]
  rfl

theorem Delivery.result_of_arrived {r : Reply}
    (h : r.contentType.bind HeaderFault.ofText? = none) : (answered r).result = r.result := by
  rw [result, reply, h]
  rfl

/-! ## 4. What the caller of a tool is told -/

namespace Tool

/-- The words with which a tool begins to tell of a failure. -/
def opening (tool : Tool) : String := "Error while trying to " ++ tool.operation ++ ":"

/-- The failure is one that the caller of a tool is told of, in words that begin as they should. -/
def Tells (tool : Tool) (f : Failure) : Prop := ∃ rest, f = .tool (tool.opening ++ rest)

theorem operation_ne_empty (tool : Tool) : tool.operation ≠ "" := by
  cases tool with
  | query => decide
  | search row listed =>
    have hlisted : ∀ row ∈ SearchTool.all, row.operation ≠ "" := by decide
    exact hlisted row listed
  | on verb e =>
    intro h
    have hlength := congrArg String.length h
    rw [operation, String.length_append, String.length_append] at hlength
    have hblank : " ".length = 1 := rfl
    have hempty : "".length = 0 := rfl
    omega

theorem head_operation (tool : Tool) :
    Incident.report.head (some tool.operation) ++ ":" = tool.opening := by
  have hwords : operationText (some tool.operation) = " while trying to " ++ tool.operation :=
    if_neg tool.operation_ne_empty
  rw [Incident.report.head, hwords, ← String.append_assoc]
  rfl

variable (tool : Tool) (settings : Settings)

theorem tells_exception {f : Failure} {kind message : String}
    (h : f.incident? = some (.exception kind message)) :
    tool.Tells (wrapped settings tool.operation f) := by
  rw [wrapped, h]
  refine ⟨" " ++ (message ++ if settings.namesFailures then "\n\nException type: " ++ kind else ""),
    congrArg Failure.tool ?_⟩
  rw [← head_operation, ← append_colon, ← String.append_assoc]

theorem tells_api {fault : ApiFault} (h : ApiFault.IsPlain fault.message) :
    tool.Tells (wrapped settings tool.operation (.api fault)) := by
  obtain ⟨text, htext⟩ :=
    (faultReport_isOk_iff (Incident.report.head (some tool.operation)) fault).mpr h
  obtain ⟨rest, rfl⟩ := exists_of_faultReport htext
  rw [head_operation] at htext
  refine ⟨rest, ?_⟩
  simp only [wrapped, Failure.incident?, Incident.report, htext]

theorem wrapped_api_of_untold {fault : ApiFault}
    (h : ¬ ApiFault.IsPlain fault.message) :
    ∃ cause, wrapped settings tool.operation (.api fault) = .misuse cause := by
  rw [← faultReport_isOk_iff (Incident.report.head (some tool.operation))] at h
  cases hreport : faultReport (Incident.report.head (some tool.operation)) fault with
  | ok text => exact absurd ⟨text, hreport⟩ h
  | error cause =>
    refine ⟨cause, ?_⟩
    simp only [wrapped, Failure.incident?, Incident.report, hreport]

/-- The failure that an error answer is, and whether the caller of a tool is told of it. -/
structure TellsOf (r : Reply) (f : Failure) : Prop where
  /-- The caller is told of what can be told. -/
  told : r.IsTold → tool.Tells (wrapped settings tool.operation f)
  /-- Nothing else is what the caller of a tool reads. -/
  untold : ¬ r.IsTold → ∀ message, wrapped settings tool.operation f ≠ .tool message

theorem tellsOf_payload {r : Reply} (hheader : r.contentType.bind HeaderFault.ofText? = none)
    (h : 400 ≤ r.status) {payload : Value} (hpayload : r.errorPayload = .ok payload) :
    ∃ f, r.result = .error f ∧ tool.TellsOf settings r f := by
  have htold : r.IsTold ↔ ApiFault.IsTellable payload := by
    refine ⟨fun htold => ?_, .readable hpayload⟩
    cases htold with
    | barred hfault => cases hheader.symm.trans hfault
    | readable hread htellable =>
      obtain rfl := Except.ok.inj (hpayload.symm.trans hread)
      exact htellable
    | unreadable hread => cases hpayload.symm.trans hread
  rw [ApiFault.isTellable_iff r.status] at htold
  rw [Reply.result_of_payload h hpayload]
  cases hfault : ApiFault.ofPayload r.status payload with
  | error cause =>
    refine ⟨_, rfl, fun hr => ?_, fun _ _ => nofun⟩
    obtain ⟨fault, hsame, _⟩ := htold.mp hr
    cases hfault.symm.trans hsame
  | ok fault =>
    refine ⟨_, rfl, fun hr => ?_, fun hr message => ?_⟩
    · obtain ⟨same, hsame, hplain⟩ := htold.mp hr
      obtain rfl := Except.ok.inj (hfault.symm.trans hsame)
      exact tool.tells_api settings hplain
    · obtain ⟨cause, hwrapped⟩ := tool.wrapped_api_of_untold settings
        fun hplain => hr (htold.mpr ⟨fault, hfault, hplain⟩)
      rw [hwrapped]
      exact nofun

theorem tellsOf_unreadable {r : Reply} (hheader : r.contentType.bind HeaderFault.ofText? = none)
    {f : Failure} (hpayload : r.errorPayload = .error f) : tool.TellsOf settings r f := by
  rcases Reply.errorPayload_eq_error hpayload with ⟨fault, rfl⟩ | ⟨text, rfl⟩
  · cases hkind : charsetKind? fault with
    | some kind =>
      have hincident : (Failure.undecodable fault).incident? =
          some (.exception kind fault.message) := by
        rw [Failure.incident?, hkind]
        rfl
      refine ⟨fun _ => tool.tells_exception settings hincident, fun hr => absurd ?_ hr⟩
      exact .unreadable hpayload (by rw [hkind]; rfl)
    | none =>
      refine ⟨fun hr => ?_, fun _ message => ?_⟩
      · cases hr with
        | barred hfault => cases hheader.symm.trans hfault
        | readable hread => cases hpayload.symm.trans hread
        | unreadable hread hforeseen =>
          cases hpayload.symm.trans hread
          rw [hkind] at hforeseen
          cases hforeseen
      · rw [wrapped, Failure.incident?, hkind]
        exact nofun
  · refine ⟨fun hr => ?_, fun _ _ => nofun⟩
    cases hr with
    | barred hfault => cases hheader.symm.trans hfault
    | readable hread => cases hpayload.symm.trans hread
    | unreadable hread => cases hpayload.symm.trans hread

/-- **An error answer is a failure, and the caller of a tool is told of it exactly if it can be
    told.** -/
theorem exists_tellsOf {r : Reply} (h : 400 ≤ r.status) :
    ∃ f, (Delivery.answered r).result = .error f ∧ tool.TellsOf settings r f := by
  cases hheader : r.contentType.bind HeaderFault.ofText? with
  | some fault =>
    refine ⟨_, Delivery.result_of_barred hheader, fun _ => tool.tells_exception settings rfl,
      fun hr => absurd (.barred hheader) hr⟩
  | none =>
    rw [Delivery.result_of_arrived hheader]
    cases hpayload : r.errorPayload with
    | ok payload => exact tool.tellsOf_payload settings hheader h hpayload
    | error f =>
      exact ⟨f, Reply.result_of_unreadable h hpayload,
        tool.tellsOf_unreadable settings hheader hpayload⟩

end Tool

end BooksGateway
