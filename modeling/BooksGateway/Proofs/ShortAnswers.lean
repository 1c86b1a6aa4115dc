import BooksGateway.Proofs.Decimals
import BooksGateway.Proofs.Faults
import BooksGateway.Proofs.Wholes
import Mathlib.Data.List.TakeWhile

/-!
# Numbers in answers

A whole number in JSON is read only when it has few enough digits, and then it can be written as
well. So whatever a server answers, what a fault says of it can be told.

* `Json.isShort_numberOf`: digits that are read as a whole number;
* `Json.ReadsShort`, `Json.readsShort`: what the reader preserves, for values, items and entries;
* `Json.hasShortWholes_read`: every whole number that is read can be written;
* `Reply.hasShortWholes_of_api`: so can those in every fault.
-/

namespace BooksGateway

open Value

/-! ## 1. Reading JSON -/

namespace Json

theorem isDigit_of_mem_wholeDigits {cs : List Char} {c : Char} (hc : c ∈ wholeDigits cs) :
    isDigit c = true := by
  unfold wholeDigits at hc
  split at hc
  · rw [List.mem_singleton.mp hc]
    decide
  · exact List.mem_takeWhile_imp hc

/-- A digit has a value below ten. -/
theorem lt_ten_of_isDigit {c : Char} (h : isDigit c = true) : c.toNat - '0'.toNat < 10 := by
  simp only [isDigit, Bool.and_eq_true, decide_eq_true_eq] at h
  have hlast : c.toNat ≤ '9'.toNat := h.2
  have hvalue : '9'.toNat - '0'.toNat = 9 := rfl
  omega

/-- A whole number with few enough digits can be written. -/
theorem isShort_numberOf {cs : List Char} (hshort : (wholeDigits cs).length ≤ Numeral.digitLimit)
    (negative : Bool) : Numeral.IsShort (Numeral.signed negative (numberOf (wholeDigits cs))) := by
  have hsmall : ∀ d ∈ (wholeDigits cs).map fun c => c.toNat - '0'.toNat, d < 10 := by
    intro d hd
    obtain ⟨c, hc, rfl⟩ := List.mem_map.mp hd
    exact lt_ten_of_isDigit (isDigit_of_mem_wholeDigits hc)
  have hlt := Numeral.ofDigits_lt hsmall
  rw [List.length_map] at hlt
  rw [Numeral.IsShort, Numeral.natAbs_signed]
  exact Nat.lt_of_lt_of_le hlt (Numeral.pow_le_writeLimit hshort)

theorem hasShortWholes_readNumber {p after : Place} {v : Value}
    (h : readNumber p = .ok (v, after)) : v.HasShortWholes := by
  unfold readNumber at h
  extract_lets negative unsigned whole at h
  split at h
  · cases h
  split at h
  · obtain ⟨rfl, -⟩ := Prod.mk.inj (Except.ok.inj h)
    nofun
  split at h
  · split at h
    · cases h
    · rename_i hshort
      obtain ⟨rfl, -⟩ := Prod.mk.inj (Except.ok.inj h)
      exact List.forall_mem_singleton.mpr (isShort_numberOf (Nat.not_lt.mp hshort) _)
  · obtain ⟨rfl, -⟩ := Prod.mk.inj (Except.ok.inj h)
    nofun

theorem hasShortWholes_readWord? {cs : List Char} {word : String} {v : Value}
    (h : readWord? cs = some (word, v)) : v.HasShortWholes := by
  have hall : ∀ entry ∈ wordValues, entry.2.HasShortWholes := by
    simp [wordValues, HasShortWholes, wholes]
  exact hall _ (List.mem_of_find?_eq_some h)

theorem hasShortWholes_ofPairs {pairs : List (String × Value)}
    (h : ∀ pair ∈ pairs, pair.2.HasShortWholes) : (obj (Fields.ofPairs pairs)).HasShortWholes := by
  have hfrom : ∀ fields : Fields, (obj fields).HasShortWholes →
      (obj (pairs.foldl (fun (stored : Fields) pair => stored.put pair.1 pair.2)
        fields)).HasShortWholes := by
    induction pairs with
    | nil => exact fun _ hfields => hfields
    | cons pair rest ih =>
      obtain ⟨hpair, hrest⟩ := List.forall_mem_cons.mp h
      exact fun fields hfields => ih hrest _ (hasShortWholes_put hfields _ hpair)
  exact hfrom [] nofun

/-- What the reader gives with a number of steps has short numbers only. -/
structure ReadsShort (fuel : Nat) : Prop where
  /-- So does every value. -/
  value : ∀ {room p v after}, readValue fuel room p = .ok (v, after) → v.HasShortWholes
  /-- So do all items of a list. -/
  items : ∀ {room p items after}, readItems fuel room p = .ok (items, after) →
    ∀ v ∈ items, v.HasShortWholes
  /-- So do the values of all entries of a mapping. -/
  entries : ∀ {room p pairs after}, readEntries fuel room p = .ok (pairs, after) →
    ∀ pair ∈ pairs, pair.2.HasShortWholes

section Step

variable {fuel : Nat} (ih : ReadsShort fuel)

include ih

theorem ReadsShort.value_succ {room : Nat} {p after : Place} {v : Value}
    (h : readValue (fuel + 1) room p = .ok (v, after)) : v.HasShortWholes := by
  unfold readValue at h
  split at h
  · obtain ⟨⟨s, _⟩, _, h⟩ := exists_of_bind h
    cases h
    exact hasShortWholes_str s
  · split at h
    · cases h
    · extract_lets first at h
      split at h
      · cases h
        nofun
      · obtain ⟨⟨items, _⟩, hitems, h⟩ := exists_of_bind h
        cases h
        exact hasShortWholes_list.mpr (ih.items hitems)
  · split at h
    · cases h
    · extract_lets first at h
      split at h
      · cases h
        nofun
      · obtain ⟨⟨pairs, _⟩, hpairs, h⟩ := exists_of_bind h
        cases h
        exact hasShortWholes_ofPairs (ih.entries hpairs)
  · split at h
    · rename_i hword
      cases h
      exact hasShortWholes_readWord? hword
    · exact hasShortWholes_readNumber h

theorem ReadsShort.items_succ {room : Nat} {p after : Place} {items : List Value}
    (h : readItems (fuel + 1) room p = .ok (items, after)) : ∀ v ∈ items, v.HasShortWholes := by
  unfold readItems at h
  obtain ⟨⟨v, _⟩, hv, h⟩ := exists_of_bind h
  have hfirst := ih.value hv
  dsimp only at h
  split at h
  · cases h
    exact List.forall_mem_singleton.mpr hfirst
  · obtain ⟨⟨more, _⟩, hmore, h⟩ := exists_of_bind h
    cases h
    exact List.forall_mem_cons.mpr ⟨hfirst, ih.items hmore⟩
  · cases h

theorem ReadsShort.entries_succ {room : Nat} {p after : Place} {pairs : List (String × Value)}
    (h : readEntries (fuel + 1) room p = .ok (pairs, after)) :
    ∀ pair ∈ pairs, pair.2.HasShortWholes := by
  unfold readEntries at h
  split at h
  · cases h
  obtain ⟨⟨key, _⟩, _, h⟩ := exists_of_bind h
  dsimp only at h
  split at h
  · cases h
  obtain ⟨⟨v, _⟩, hv, h⟩ := exists_of_bind h
  have hfirst := ih.value hv
  dsimp only at h
  split at h
  · cases h
    exact List.forall_mem_singleton.mpr hfirst
  · obtain ⟨⟨more, _⟩, hmore, h⟩ := exists_of_bind h
    cases h
    exact List.forall_mem_cons.mpr ⟨hfirst, ih.entries hmore⟩
  · cases h

end Step

/-- **The reader makes no number that is too long**, whatever it reads. -/
theorem readsShort (fuel : Nat) : ReadsShort fuel := by
  -- on the steps that are left: the parts of a value are read with one step less
  induction fuel with
  | zero => exact ⟨nofun, nofun, nofun⟩
  | succ fuel ih => exact ⟨ih.value_succ, ih.items_succ, ih.entries_succ⟩

/-- **Every whole number that is read from JSON can be written.** -/
theorem hasShortWholes_read {text : String} {v : Value} (h : read text = .ok v) :
    v.HasShortWholes := by
  unfold read at h
  obtain ⟨⟨w, _⟩, hread, h⟩ := exists_of_bind h
  dsimp only at h
  split at h
  · cases h
    exact (readsShort _).value hread
  · cases h

end Json

/-! ## 2. Faults -/

/-- Every whole number in what is told of a fault can be written. -/
structure ApiFault.HasShortWholes (fault : ApiFault) : Prop where
  /-- Those in its message. -/
  message : fault.message.HasShortWholes
  /-- Those in its detail. -/
  detail : fault.detail.HasShortWholes
  /-- Those in its code. -/
  code : fault.code.HasShortWholes
  /-- Those in the field that it is about. -/
  element : fault.element.HasShortWholes
  /-- Those in its description. -/
  description : fault.description.HasShortWholes

namespace ApiFault

theorem hasShortWholes_spelled {fields : Fields} (h : (obj fields).HasShortWholes)
    (key other : String) : (spelled fields key other).HasShortWholes := by
  unfold spelled orElse
  split <;> exact hasShortWholes_getD h _

theorem IsFirstError.hasShortWholes {errors : Value} {error : Fields}
    (h : IsFirstError errors error) (hshort : errors.HasShortWholes) :
    (obj error).HasShortWholes := by
  cases h with
  | nothing | text | other => nofun
  | error error rest => exact hasShortWholes_list.mp hshort _ List.mem_cons_self

/-- The first fault of a body is a part of it. -/
theorem IsFirstFault.hasShortWholes {payload : Value} {error : Fields}
    (h : IsFirstFault payload error) (hshort : payload.HasShortWholes) :
    (obj error).HasShortWholes := by
  cases h with
  | plain | faultless => nofun
  | @fault payload fields error hfields herror =>
    have hfault := hasShortWholes_spelled hshort "Fault" "fault"
    rw [hfields] at hfault
    exact herror.hasShortWholes (hasShortWholes_spelled hfault "Error" "error")

theorem hasShortWholes_ofPayload {status : Int} {payload : Value} {fault : ApiFault}
    (h : ofPayload status payload = .ok fault) (hshort : payload.HasShortWholes) :
    fault.HasShortWholes := by
  obtain ⟨error, hfirst, hrest⟩ := exists_of_bind h
  cases hrest
  have herror := (firstFault_eq_ok.mp hfirst).hasShortWholes hshort
  exact
    { message := hasShortWholes_getD herror _
      detail := hasShortWholes_getD herror _
      code := hasShortWholes_getD herror _
      element := hasShortWholes_getD herror _
      description := by
        cases payload with
        | obj fields => exact hasShortWholes_getD hshort _
        | _ => nofun }

end ApiFault

namespace Reply

theorem hasShortWholes_errorPayload {r : Reply} {payload : Value}
    (h : r.errorPayload = .ok payload) : payload.HasShortWholes := by
  unfold errorPayload at h
  split at h
  · rename_i v hdocument
    cases h
    obtain ⟨text, _, hread⟩ := exists_of_bind hdocument
    split at hread
    · cases hread
      exact Json.hasShortWholes_read ‹_›
    · cases hread
  · cases h
  · cases htext : r.text with
    | ok text =>
      rw [htext] at h
      cases h
      exact hasShortWholes_str text
    | error f =>
      rw [htext] at h
      cases h

/-- **Whatever an error answer holds, what is told of its fault can be written.** -/
theorem hasShortWholes_of_api {r : Reply} (hstatus : 400 ≤ r.status) {fault : ApiFault}
    (h : r.result = .error (.api fault)) : fault.HasShortWholes := by
  cases hpayload : r.errorPayload with
  | ok payload =>
    rw [result_of_payload hstatus hpayload] at h
    split at h
    · rename_i hfault
      cases h
      exact ApiFault.hasShortWholes_ofPayload hfault (hasShortWholes_errorPayload hpayload)
    · cases h
  | error f =>
    rw [result_of_unreadable hstatus hpayload] at h
    rcases errorPayload_eq_error hpayload with ⟨_, rfl⟩ | ⟨_, rfl⟩ <;> cases h

end Reply

end BooksGateway
