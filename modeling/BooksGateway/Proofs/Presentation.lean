import BooksGateway.Proofs.Admission
import BooksGateway.Proofs.Splitting

/-!
# However a token is presented, it is sent on alike

A caller can show its token behind one word or two in the authorization header, or in a header of
its own, with or without the word, and with white space around it. All these come to the same: every
request that is made for the caller carries the token behind a single word.

* `Shows`: a token as it is written, and `authorization_of_shows`: how it is sent on;
* `Presents`: the headers that present a token, and `exists_token_of_presents`: what is taken from
  them;
* `trimmed_ofHeaders`: what is taken from any headers;
* `inquire_sendsAs`, `perform_sendsAs`, `use_sendsAs`: the requests of inquiries, calls and tools;
* `presented_alike`: all of this together.
-/

namespace BooksGateway

open Text

/-! ## 1. Tokens as they are written -/

/-- A text that is not empty and has no white space at its ends. -/
structure Trimmed (cs : List Char) : Prop where
  /-- It is not empty. -/
  ne_nil : cs ≠ []
  /-- It begins with no white space. -/
  first : ∀ c, cs.head? = some c → isBlank c = false
  /-- It ends in no white space. -/
  last : ∀ c, cs.getLast? = some c → isBlank c = false

/-- A token by itself, without the word before it. -/
structure IsBareToken (t : String) : Prop where
  /-- It is not empty, and there is no white space at its ends. -/
  trimmed : Trimmed t.toList
  /-- It does not begin with the word and a blank. -/
  bare : ∀ word rest, IsBearerWord word → t.toList ≠ word ++ ' ' :: rest

/-- White space and nothing else. -/
def AllBlank (cs : List Char) : Prop := ∀ c ∈ cs, isBlank c = true

/-- A token as it is written: by itself, or behind the word in any letter case and white space that
    begins with a blank. -/
inductive Shows (t : String) : List Char → Prop where
  /-- By itself. -/
  | bare : Shows t t.toList
  /-- Behind the word. -/
  | worded {word blanks : List Char} (hword : IsBearerWord word) (hblanks : AllBlank blanks) :
    Shows t (word ++ ' ' :: (blanks ++ t.toList))

theorem IsBearerWord.not_isBlank {word : List Char} (h : IsBearerWord word) :
    ∀ c ∈ word, isBlank c = false := by
  have hall : ∀ n < 0x80, (Char.ofNat n).toLower ∈ "bearer".toList →
      isBlank (Char.ofNat n) = false := by decide +kernel
  intro c hc
  have hchar := hall c.toNat (h.ascii c hc)
  rw [Char.ofNat_toNat] at hchar
  exact hchar (h ▸ List.mem_map_of_mem hc)

theorem IsBearerWord.exists_cons {word : List Char} (h : IsBearerWord word) :
    ∃ c rest, word = c :: rest ∧ isBlank c = false := by
  cases word with
  | nil => cases h
  | cons c rest => exact ⟨c, rest, rfl, h.not_isBlank c List.mem_cons_self⟩

theorem allBlank_nil : AllBlank [] := fun _ hc => by cases hc

theorem Trimmed.strip_surrounded {before cs after : List Char} (h : Trimmed cs)
    (hbefore : AllBlank before) (hafter : AllBlank after) : strip (before ++ cs ++ after) = cs :=
  Text.strip_surrounded hbefore hafter h.first h.last

theorem Trimmed.trim_eq {s : String} (h : Trimmed s.toList) : trim s = s := by
  have hstrip := h.strip_surrounded allBlank_nil allBlank_nil
  rw [List.nil_append, List.append_nil] at hstrip
  rw [trim, hstrip, String.ofList_toList]

section Token

variable {t : String} {shown : List Char}

/-- What is written of a token has no white space at its ends either. -/
theorem Shows.trimmed (ht : Trimmed t.toList) (h : Shows t shown) : Trimmed shown := by
  cases h with
  | bare => exact ht
  | @worded word blanks hword hblanks =>
    refine ⟨by simp, fun c hc => ?_, fun c hc => ?_⟩
    · obtain ⟨d, rest, rfl, hd⟩ := hword.exists_cons
      cases hc
      exact hd
    · rw [← List.cons_append, ← List.append_assoc, List.getLast?_append] at hc
      cases hlast : t.toList.getLast? with
      | none => exact absurd (List.getLast?_eq_none_iff.mp hlast) ht.ne_nil
      | some d =>
        rw [hlast] at hc
        cases hc
        exact ht.last c hlast

/-- Whatever word stands before it, **a token is sent on behind a single one**. -/
theorem authorization_of_shows (ht : IsBareToken t) (h : Shows t shown) :
    authorization (String.ofList shown) = "Bearer " ++ t := by
  have htrimmed := h.trimmed ht.trimmed
  rw [← String.toList_ofList (l := shown)] at htrimmed
  unfold authorization
  rw [htrimmed.trim_eq]
  dsimp only
  cases h with
  | bare =>
    have hbare : ¬ isBearer t = true := by
      rw [isBearer_iff]
      rintro ⟨word, rest, hword, hs⟩
      exact ht.bare word rest hword hs
    rw [String.ofList_toList, if_neg hbare]
  | @worded word blanks hword hblanks =>
    have hbearer : isBearer (String.ofList (word ++ ' ' :: (blanks ++ t.toList))) = true :=
      isBearer_iff.mpr ⟨word, _, hword, String.toList_ofList⟩
    have hdrop : (word ++ ' ' :: (blanks ++ t.toList)).drop bearerWord.length =
        blanks ++ t.toList := by
      have hlength : bearerWord.length = word.length + 1 := by rw [hword.length]; rfl
      rw [hlength, List.drop_append]
      simp
    have hstrip := ht.trimmed.strip_surrounded hblanks allBlank_nil
    rw [List.append_nil] at hstrip
    rw [if_pos hbearer, String.toList_ofList, hdrop, hstrip, String.ofList_toList]

end Token

/-! ## 2. Tokens in headers -/

namespace Credentials

section Extraction

variable {t text : String} {word blanks before shown after rest cs : List Char}

theorem nonempty?_strip (h : strip cs = shown) (hshown : Trimmed shown) :
    nonempty? (String.ofList (strip cs)) = some (String.ofList shown) := by
  rw [h, nonempty?, if_neg (ofList_ne_empty hshown.ne_nil)]

theorem bearerToken?_of_worded (hword : IsBearerWord word)
    (htext : text.toList = word ++ ' ' :: rest) :
    bearerToken? text = nonempty? (String.ofList (strip rest)) := by
  have hbearer : isBearer text = true := isBearer_iff.mpr ⟨word, rest, hword, htext⟩
  have hmark : ' ' ∉ word := by
    intro hmem
    have hblank := hword.not_isBlank ' ' hmem
    cases hblank
  rw [bearerToken?, if_pos hbearer, htext, cut_append hmark]

theorem bearerToken?_of_bare
    (h : ∀ word rest, IsBearerWord word → text.toList ≠ word ++ ' ' :: rest) :
    bearerToken? text = none := by
  have hbare : ¬ isBearer text = true := by
    rw [isBearer_iff]
    rintro ⟨word, rest, hword, hs⟩
    exact h word rest hword hs
  rw [bearerToken?, if_neg hbare]

end Extraction

/-- Headers whose authorization header shows no token: it is missing, or carries no word before a
    token, or nothing but white space behind it. -/
inductive LacksToken (headers : List (String × String)) : Prop where
  /-- There is no such header. -/
  | missing (h : headers.lookup "authorization" = none)
  /-- It is there for something else. -/
  | other {text : String} (h : headers.lookup "authorization" = some text)
    (hbare : ∀ word rest, IsBearerWord word → text.toList ≠ word ++ ' ' :: rest)
  /-- There is white space in the place of the token. -/
  | blank {text : String} {word blanks : List Char}
    (h : headers.lookup "authorization" = some text) (hword : IsBearerWord word)
    (hblanks : AllBlank blanks) (htext : text.toList = word ++ ' ' :: blanks)

/-- **Headers that present a token**: in the authorization header behind the word, whatever else
    there is, or in its own header when the authorization header shows none. In both places it can
    be written with the word before it. -/
inductive Presents (t : String) (headers : List (String × String)) : Prop where
  /-- In the authorization header. -/
  | authorization {text : String} {word blanks shown after : List Char}
    (h : headers.lookup "authorization" = some text) (hword : IsBearerWord word)
    (hblanks : AllBlank blanks) (hshown : Shows t shown) (hafter : AllBlank after)
    (htext : text.toList = word ++ ' ' :: (blanks ++ shown ++ after))
  /-- In a header of its own. -/
  | own {text : String} {before shown after : List Char} (hlacks : LacksToken headers)
    (h : headers.lookup "x-quickbooks-token" = some text) (hbefore : AllBlank before)
    (hshown : Shows t shown) (hafter : AllBlank after)
    (htext : text.toList = before ++ shown ++ after)

section Headers

variable {headers : List (String × String)} {t : String}

theorem header_of_lookup {name text : String} (h : headers.lookup name = some text) :
    header headers name = text := by
  rw [header, h, Option.getD_some]

theorem bearerToken?_of_lacksToken (h : LacksToken headers) :
    bearerToken? (header headers authorizationName) = none := by
  cases h with
  | missing h =>
    rw [header, authorizationName, h]
    rfl
  | other h hbare => rw [authorizationName, header_of_lookup h, bearerToken?_of_bare hbare]
  | @blank text word blanks h hword hblanks htext =>
    have hstrip : strip blanks = [] := by
      have hnone : ∀ c, ([] : List Char).head? = some c → isBlank c = false := by rintro _ ⟨⟩
      have hblank := Text.strip_surrounded hblanks allBlank_nil hnone hnone
      rwa [List.append_nil, List.append_nil] at hblank
    rw [authorizationName, header_of_lookup h, bearerToken?_of_worded hword htext, hstrip]
    rfl

/-- **The token that headers present is taken from them**, as it is written there. -/
theorem exists_token_of_presents (ht : Trimmed t.toList) (h : Presents t headers) :
    ∃ shown, Shows t shown ∧ (ofHeaders headers).token = some (String.ofList shown) := by
  unfold ofHeaders
  cases h with
  | @authorization text word blanks shown after h hword hblanks hshown hafter htext =>
    have htrimmed := hshown.trimmed ht
    refine ⟨shown, hshown, ?_⟩
    rw [authorizationName, header_of_lookup h, bearerToken?_of_worded hword htext,
      nonempty?_strip (htrimmed.strip_surrounded hblanks hafter) htrimmed]
  | @own text before shown after hlacks h hbefore hshown hafter htext =>
    have htrimmed := hshown.trimmed ht
    refine ⟨shown, hshown, ?_⟩
    rw [bearerToken?_of_lacksToken hlacks]
    dsimp only
    rw [tokenName, header_of_lookup h, trim, htext,
      nonempty?_strip (htrimmed.strip_surrounded hbefore hafter) htrimmed]

end Headers

theorem trimmed_strip {cs : List Char} {s : String}
    (h : nonempty? (String.ofList (strip cs)) = some s) : Trimmed s.toList := by
  unfold nonempty? at h
  split at h
  · cases h
  · rename_i hne
    cases h
    rw [String.toList_ofList]
    refine ⟨fun hnil => hne ?_, fun c hc => head?_strip hc, fun c hc => getLast?_strip hc⟩
    rw [hnil]

/-- **What is taken from headers is not empty and has no white space at its ends.** -/
theorem trimmed_ofHeaders {headers : List (String × String)} {s : String}
    (h : (ofHeaders headers).token = some s ∨ (ofHeaders headers).realm = some s) :
    Trimmed s.toList := by
  rcases h with h | h
  · unfold ofHeaders at h
    cases hbearer : bearerToken? (header headers authorizationName) with
    | none =>
      simp only [hbearer] at h
      exact trimmed_strip h
    | some token =>
      simp only [hbearer, Option.some.injEq] at h
      unfold bearerToken? at hbearer
      split at hbearer
      · exact h ▸ trimmed_strip hbearer
      · cases hbearer
  · exact trimmed_strip h

end Credentials

/-! ## 3. Requests -/

/-- Between two states of a session nothing is sent but requests with an authorization header. -/
def SendsAs {σ : Type} (value : String) (s after : Session σ) : Prop :=
  ∃ requests, after.sent = s.sent ++ requests ∧
    ∀ request ∈ requests, request.headers.lookup "Authorization" = some value

section Sending

variable {σ : Type} (server : Server σ) {s : Session σ} {c : Credentials} {token : String}

/-- What asks only for an access sends its requests with the token of the access. -/
theorem sendsAs_of_extends {access : Access} {after : Session σ}
    (h : Session.Extends (·.IsFor access) s after) :
    SendsAs (authorization access.token) s after := by
  obtain ⟨requests, hsent, hrequests⟩ := h.sent
  exact ⟨requests, hsent, fun request hmem => (hrequests request hmem).1⟩

theorem token_of_resolve (hcaller : s.credentials = some c) (htoken : c.token = some token)
    {realm : Value} {access : Access}
    (h : Access.resolve s.settings s.credentials realm = .ok access) : access.token = token := by
  obtain ⟨found, hfound, hown, _, _⟩ := Access.resolve_eq_ok h
  rw [hcaller, Option.some.injEq] at hfound
  rw [← hfound, htoken, Option.some.injEq] at hown
  exact hown.symm

/-- **An inquiry is sent with the token of the caller.** -/
theorem inquire_sendsAs (hcaller : s.credentials = some c) (htoken : c.token = some token)
    {realm : Value} {access : Access}
    (h : Access.resolve s.settings s.credentials realm = .ok access) (sandbox : Option Bool)
    (inquiry : Inquiry) :
    SendsAs (authorization token) s
      ((Gateway.inquire server access sandbox inquiry).execute s).2 := by
  rw [← token_of_resolve hcaller htoken h]
  exact sendsAs_of_extends (Gateway.asksOnly_inquire server access sandbox inquiry s).1

/-- **A call sends its requests with the token of the caller.** -/
theorem perform_sendsAs (hcaller : s.credentials = some c) (htoken : c.token = some token)
    (call : Call) (sandbox : Option Bool) (realm : Value) :
    SendsAs (authorization token) s ((call.perform server sandbox realm).execute s).2 := by
  rcases call.perform_actsOnlyIf server sandbox realm s with
    hsame | ⟨_, access, haccess, hextends, _⟩
  · exact ⟨[], by rw [hsame, List.append_nil], by nofun⟩
  · rw [← token_of_resolve hcaller htoken haccess]
    exact sendsAs_of_extends hextends

/-- **So does a tool.** -/
theorem use_sendsAs (hcaller : s.credentials = some c) (htoken : c.token = some token)
    (tool : Tool) (args : Fields) :
    SendsAs (authorization token) s ((tool.use server args).execute s).2 := by
  unfold Tool.use
  split
  · rw [Tool.execute_guarded]
    exact perform_sendsAs server hcaller htoken _ _ _
  · exact ⟨[], (List.append_nil _).symm, by nofun⟩

end Sending

/-! ## 4. Headers as values -/

namespace Credentials

/-- Headers as a mapping of texts. -/
def mapping (headers : List (String × String)) : Fields :=
  headers.map fun field => (field.1, .str field.2)

theorem get?_mapping (headers : List (String × String)) (name : String) :
    (mapping headers).get? name = (headers.lookup name).map Value.str := by
  induction headers with
  | nil => rfl
  | cons field rest ih =>
    obtain ⟨key, text⟩ := field
    by_cases h : key = name
    · rw [mapping, List.map_cons, Fields.get?, if_pos h, h, List.lookup_cons_self]
      rfl
    · have hne : (name == key) = false := beq_false_of_ne fun heq => h heq.symm
      rw [mapping, List.map_cons, Fields.get?, if_neg h, List.lookup_cons, hne]
      exact ih

theorem headerText_mapping (headers : List (String × String)) (name : String) :
    headerText (mapping headers) name = .ok (header headers name) := by
  unfold headerText header Fields.getD
  rw [get?_mapping]
  cases headers.lookup name with
  | none => rfl
  | some text =>
    by_cases h : text = ""
    · rw [h]
      rfl
    · have htruthy : (Value.str text).isTruthy = true := isTruthy_str.mpr h
      exact if_pos htruthy

/-- **A mapping of texts always gives credentials**, the same as the headers themselves. -/
theorem ofValue_mapping (headers : List (String × String)) :
    ofValue (.obj (mapping headers)) = .ok (ofHeaders headers) := by
  unfold ofValue ofHeaders
  simp only [headerText_mapping, bind, Except.bind]
  cases bearerToken? (header headers authorizationName) <;> rfl

end Credentials

/-! ## 5. Tokens that are presented -/

/-- Whatever is sent for a caller is sent with an authorization header: by inquiries that are made
    with its access, by calls, and by tools. -/
def SendsAllAs {σ : Type} (server : Server σ) (c : Credentials) (value : String) : Prop :=
  ∀ s : Session σ, s.credentials = some c →
    (∀ (realm : Value) (access : Access),
      Access.resolve s.settings s.credentials realm = .ok access →
      ∀ (sandbox : Option Bool) (inquiry : Inquiry),
        SendsAs value s ((Gateway.inquire server access sandbox inquiry).execute s).2) ∧
    (∀ (call : Call) (sandbox : Option Bool) (realm : Value),
      SendsAs value s ((call.perform server sandbox realm).execute s).2) ∧
    ∀ (tool : Tool) (args : Fields), SendsAs value s ((tool.use server args).execute s).2

theorem sendsAllAs_authorization {σ : Type} (server : Server σ) {c : Credentials} {token : String}
    (htoken : c.token = some token) : SendsAllAs server c (authorization token) := fun _ hcaller =>
  ⟨fun _ _ h => inquire_sendsAs server hcaller htoken h, perform_sendsAs server hcaller htoken,
    use_sendsAs server hcaller htoken⟩

open Credentials in
/-- **However a token is presented, it is sent on alike.** Headers always give credentials, also
    when they come as a value. The token and the company in them are not empty and have no white
    space at their ends. For a token that headers present in any way, every request that is sent for
    the caller carries this token behind a single word. And for any token in any headers, something
    stands behind the word. -/
theorem presented_alike {σ : Type} (server : Server σ) (headers : List (String × String)) :
    ofValue (.obj (mapping headers)) = .ok (ofHeaders headers) ∧
    (∀ s, (ofHeaders headers).token = some s ∨ (ofHeaders headers).realm = some s →
      Trimmed s.toList) ∧
    (∀ t, IsBareToken t → Presents t headers →
      ∃ token, (ofHeaders headers).token = some token ∧ authorization token = "Bearer " ++ t ∧
        SendsAllAs server (ofHeaders headers) ("Bearer " ++ t)) ∧
    ∀ token, (ofHeaders headers).token = some token →
      ∃ sent, sent ≠ "" ∧ authorization token = "Bearer " ++ sent ∧
        SendsAllAs server (ofHeaders headers) ("Bearer " ++ sent) := by
  refine ⟨ofValue_mapping headers, fun s => trimmed_ofHeaders, fun t ht h => ?_,
    fun token htoken => ?_⟩
  · obtain ⟨shown, hshown, htoken⟩ := exists_token_of_presents ht.trimmed h
    have hsent := authorization_of_shows ht hshown
    exact ⟨_, htoken, hsent, hsent ▸ sendsAllAs_authorization server htoken⟩
  · obtain ⟨sent, hsent, hne, _⟩ :=
      exists_authorization (isShown_ofHeaders headers token htoken)
    exact ⟨sent, hne, hsent, hsent ▸ sendsAllAs_authorization server htoken⟩

/-- Headers that show a token behind two words, the first one in odd letter case. -/
def doubledHeaders : List (String × String) :=
  [("authorization", "bEARER  Bearer tok "), ("x-quickbooks-realm-id", "9130")]

theorem presented_alike_doubled :
    IsBareToken "tok" ∧ Credentials.Presents "tok" doubledHeaders ∧
    ∃ token, (Credentials.ofHeaders doubledHeaders).token = some token ∧
      authorization token = "Bearer tok" ∧
      SendsAllAs Server.queued (Credentials.ofHeaders doubledHeaders) "Bearer tok" := by
  have htoken : IsBareToken "tok" := by
    refine ⟨⟨nofun, ?_, ?_⟩, fun word rest hword h => ?_⟩
    · rintro _ ⟨⟩
      rfl
    · rintro _ ⟨⟩
      rfl
    · have hlength := congrArg List.length h
      rw [List.length_append, hword.length] at hlength
      exact absurd hlength (by simp; omega)
  have hblank : AllBlank [' '] := by
    intro c hc
    rw [List.mem_singleton.mp hc]
    rfl
  have hshown : Shows "tok" _ := @Shows.worded "tok" "Bearer".toList [] rfl allBlank_nil
  have hpresents : Credentials.Presents "tok" doubledHeaders :=
    @Credentials.Presents.authorization "tok" doubledHeaders "bEARER  Bearer tok "
      "bEARER".toList [' '] _ [' '] rfl rfl hblank hshown hblank rfl
  obtain ⟨_, _, halike, _⟩ := presented_alike Server.queued doubledHeaders
  exact ⟨htoken, hpresents, halike "tok" htoken hpresents⟩

end BooksGateway
