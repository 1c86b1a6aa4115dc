import BooksGateway.Credentials
import BooksGateway.Proofs.Trimming

/-!
# The token that is sent on

The token of a caller comes from a header without the white space at its ends, so it holds more than
white space or is not there. What is sent on is the token without the word before it, and that is
never empty.

* `isBearer_iff`: the texts that carry the word before a token;
* `exists_authorization`: the token in the authorization header;
* `Credentials.isShown_ofHeaders`, `Credentials.isShown_ofValue`: the tokens of callers.
-/

namespace BooksGateway

/-! ## 1. The token that is sent on -/

/-- A text that holds more than white space. -/
def HasContent (s : String) : Prop := ∃ c ∈ s.toList, Text.isBlank c = false

theorem hasContent_ofList {cs : List Char} {c : Char} (h : cs.getLast? = some c)
    (hc : Text.isBlank c = false) : HasContent (String.ofList cs) := by
  refine ⟨c, ?_, hc⟩
  rw [String.toList_ofList]
  exact List.mem_of_getLast? h

/-- What is left of a text without the white space at its ends holds more than white space, if it is
    not empty. -/
theorem hasContent_strip {cs : List Char} {token : String}
    (h : nonempty? (String.ofList (Text.strip cs)) = some token) : HasContent token := by
  unfold nonempty? at h
  split at h
  · cases h
  · rename_i hne
    cases h
    cases hlast : (Text.strip cs).getLast? with
    | none =>
      rw [List.getLast?_eq_none_iff.mp hlast] at hne
      exact absurd rfl hne
    | some c => exact hasContent_ofList hlast (Text.getLast?_strip hlast)

/-- The word before a token, in any letter case. -/
def IsBearerWord (word : List Char) : Prop := word.map Char.toLower = "bearer".toList

theorem plain_of_mem_bearerWord {c : Char} (h : c ∈ bearerWord.toList) :
    c.toNat ∈ Text.plainCodes := by
  have hall : bearerWord.toList.all (fun d => Text.plainCodes.contains d.toNat) = true := rfl
  exact List.contains_iff_mem.mp (List.all_eq_true.mp hall c h)

theorem bearerWord_toList : bearerWord.toList = "bearer".toList ++ [' '] := rfl

theorem IsBearerWord.ascii {word : List Char} (h : IsBearerWord word) :
    ∀ c ∈ word, c.toNat < 0x80 := by
  intro c hc
  have hlower : c.toLower.toNat < 0x80 := by
    have hmem : c.toLower ∈ bearerWord.toList := by
      rw [bearerWord_toList, ← h]
      exact List.mem_append_left _ (List.mem_map_of_mem hc)
    have hplain : ∀ code ∈ Text.plainCodes, code < 0x80 := by decide
    exact hplain _ (plain_of_mem_bearerWord hmem)
  rcases Text.toLower_cases c with hsame | ⟨_, hhigh, _⟩
  · rwa [hsame] at hlower
  · omega

theorem IsBearerWord.length {word : List Char} (h : IsBearerWord word) : word.length = 6 :=
  List.length_map (f := Char.toLower) ▸ congrArg List.length h

/-- **A text carries the word before a token** iff it begins with that word, in any letter case, and
    a blank. -/
theorem isBearer_iff {s : String} :
    isBearer s = true ↔ ∃ word rest, IsBearerWord word ∧ s.toList = word ++ ' ' :: rest := by
  have hlower : (Text.lower s).toList = Text.lowerRest false s.toList := String.toList_ofList
  rw [isBearer, Text.begins, List.isPrefixOf_iff_prefix, hlower]
  constructor
  · intro h
    obtain ⟨start, rest, hs, hstart⟩ :=
      Text.exists_of_lowerRest_prefix (fun _ => plain_of_mem_bearerWord) h
    obtain ⟨word, last, rfl, hword, hlast⟩ :=
      List.map_eq_append_iff.mp (hstart.trans bearerWord_toList)
    obtain ⟨c, rfl, hc⟩ := List.map_eq_singleton_iff.mp hlast
    have hblank : c = ' ' := by
      rcases Text.toLower_cases c with hsame | ⟨hlow, _, hcode⟩
      · rw [← hsame, hc]
      · rw [hc] at hcode
        exact absurd (show 0x20 = c.toNat + 0x20 from hcode) (by omega)
    refine ⟨word, rest, hword, ?_⟩
    rw [hs, hblank, List.append_assoc]
    rfl
  · rintro ⟨word, rest, hword, hs⟩
    obtain ⟨inside, hinside⟩ := Text.lowerRest_ascii hword.ascii false (' ' :: rest)
    rw [hs, hinside, hword, Text.lowerRest_cons, Text.lowered_ascii (by decide)]
    exact ⟨_, List.append_assoc "bearer".toList [' '] _⟩

/-- Behind the word before a token something is left, when the text ends in no white space. -/
theorem exists_of_isBearer {s : String} (h : isBearer s = true) {c : Char}
    (hlast : s.toList.getLast? = some c) (hc : Text.isBlank c = false) :
    c ∈ s.toList.drop bearerWord.length := by
  obtain ⟨word, rest, hword, hs⟩ := isBearer_iff.mp h
  have hdrop : s.toList.drop bearerWord.length = rest := by
    have hlength : bearerWord.length = word.length + 1 := by rw [hword.length]; rfl
    rw [hs, hlength, List.drop_append]
    simp
  rw [hdrop]
  cases rest with
  | nil =>
    rw [hs, List.getLast?_concat, Option.some.injEq] at hlast
    rw [← hlast] at hc
    cases hc
  | cons d more =>
    rw [hs, List.getLast?_append, List.getLast?_cons_cons, List.getLast?_cons, Option.some_or,
      ← List.getLast?_cons] at hlast
    exact List.mem_of_getLast? hlast

theorem ofList_ne_empty {cs : List Char} (h : cs ≠ []) : String.ofList cs ≠ "" := fun hempty =>
  h (String.ofList_eq_empty_iff.mp hempty)

/-- **The authorization header holds a token** that stands in the token that was shown. -/
theorem exists_authorization {token : String} (h : HasContent token) :
    ∃ t, authorization token = "Bearer " ++ t ∧ t ≠ "" ∧ t.toList <:+: token.toList := by
  obtain ⟨c, hmem, hc⟩ := h
  have hne : Text.strip token.toList ≠ [] := Text.strip_ne_nil hmem hc
  have hinfix : Text.strip token.toList <:+: token.toList := Text.strip_infix _
  have htrim : (Text.trim token).toList = Text.strip token.toList := String.toList_ofList
  by_cases hbearer : isBearer (Text.trim token) = true
  · have hdrop : (Text.trim token).toList.drop bearerWord.length <:+: token.toList := by
      rw [htrim]
      exact (List.drop_suffix _ _).isInfix.trans hinfix
    refine ⟨_, by rw [authorization, if_pos hbearer], ?_, ?_⟩
    -- what is left ends in a character that is not blank, and that stands behind the word
    · cases hlast : (Text.strip token.toList).getLast? with
      | none => exact absurd (List.getLast?_eq_none_iff.mp hlast) hne
      | some d =>
        have hd := Text.getLast?_strip hlast
        rw [← htrim] at hlast
        exact ofList_ne_empty (Text.strip_ne_nil (exists_of_isBearer hbearer hlast hd) hd)
    · rw [String.toList_ofList]
      exact (Text.strip_infix _).trans hdrop
  · refine ⟨Text.trim token, ?_, ofList_ne_empty hne, ?_⟩
    · rw [authorization, if_neg hbearer]
    · rw [htrim]
      exact hinfix

/-! ## 2. The tokens of callers -/

namespace Credentials

/-- Credentials whose token, if there is one, holds more than white space. -/
def IsShown (c : Credentials) : Prop := ∀ token, c.token = some token → HasContent token

theorem hasContent_bearerToken? {text token : String} (h : bearerToken? text = some token) :
    HasContent token := by
  unfold bearerToken? at h
  split at h
  · exact hasContent_strip h
  · cases h

theorem isShown_ofHeaders (headers : List (String × String)) : (ofHeaders headers).IsShown := by
  intro token h
  rw [ofHeaders] at h
  cases hbearer : bearerToken? (header headers authorizationName) with
  | some found =>
    simp only [hbearer, Option.some.injEq] at h
    exact hasContent_bearerToken? (hbearer.trans (congrArg some h))
  | none =>
    simp only [hbearer] at h
    exact hasContent_strip h

theorem isShown_ofValue {headers : Value} {c : Credentials} (h : ofValue headers = .ok c) :
    c.IsShown := by
  cases headers with
  | obj fields =>
    obtain ⟨text, _, h⟩ := exists_of_bind h
    cases hbearer : bearerToken? text with
    | some token =>
      rw [hbearer] at h
      obtain ⟨found, hfound, h⟩ := exists_of_bind h
      obtain ⟨realm, _, h⟩ := exists_of_bind h
      intro other hother
      have hshown : c.token = found := congrArg Credentials.token (Except.ok.inj h).symm
      rw [hshown, ← Except.ok.inj hfound] at hother
      exact hasContent_bearerToken? (hbearer.trans hother)
    | none =>
      rw [hbearer] at h
      obtain ⟨other, _, h⟩ := exists_of_bind h
      obtain ⟨found, hfound, h⟩ := exists_of_bind h
      obtain ⟨realm, _, h⟩ := exists_of_bind h
      intro token htoken
      have hshown : c.token = found := congrArg Credentials.token (Except.ok.inj h).symm
      rw [hshown, ← Except.ok.inj hfound] at htoken
      exact hasContent_strip htoken
  | _ => cases h

end Credentials

end BooksGateway
