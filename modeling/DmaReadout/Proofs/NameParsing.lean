import DmaReadout.Card.DataSource
import DmaReadout.Card.GeneratorPattern
import DmaReadout.Named.Parse
import Mathlib.Tactic.Lemma

/-!
# Reading names of settings

A name is read up to the case of its ASCII letters, and nothing else is: not a part of it, not more
than it, and no character that only a wider notion of case would take for one of its letters.
-/

namespace DmaReadout

namespace Text

variable {s t : String} {c d : Char}

/-- The same character, or an ASCII letter in its two cases, which are 32 code points apart. -/
def SameLetter (c d : Char) : Prop :=
  c = d ∨ c.isUpper = true ∧ d.toNat = c.toNat + 32 ∨ d.isUpper = true ∧ c.toNat = d.toNat + 32

/-- The texts are of one length, and agree character by character up to ASCII case. -/
structure AgreeUpToCase (s t : String) : Prop where
  length_eq : s.length = t.length
  same : ∀ (n : Nat) c d, s.toList[n]? = some c → t.toList[n]? = some d → SameLetter c d

lemma toNat_toUpper (c : Char) :
    c.toUpper.toNat = if 97 ≤ c.toNat ∧ c.toNat ≤ 122 then c.toNat - 32 else c.toNat := by
  have hlower : 'a'.val ≤ c.val ∧ c.val ≤ 'z'.val ↔ 97 ≤ c.toNat ∧ c.toNat ≤ 122 := by
    rw [UInt32.le_iff_toNat_le, UInt32.le_iff_toNat_le]
    rfl
  unfold Char.toUpper
  by_cases h : 97 ≤ c.toNat ∧ c.toNat ≤ 122
  · -- The sum wraps: what is added is -32.
    have hsum : (c.val + ('A'.val - 'a'.val)).toNat = (c.toNat + 4294967264) % 4294967296 :=
      UInt32.toNat_add ..
    rw [dif_pos (hlower.2 h), if_pos h]
    exact hsum.trans (by omega)
  · rw [dif_neg ((not_congr hlower).2 h), if_neg h]

lemma isUpper_iff (c : Char) : c.isUpper = true ↔ 65 ≤ c.toNat ∧ c.toNat ≤ 90 := by
  unfold Char.isUpper
  rw [decide_eq_true_iff, ge_iff_le, UInt32.le_iff_toNat_le, UInt32.le_iff_toNat_le]
  rfl

lemma isLower_iff (c : Char) : c.isLower = true ↔ 97 ≤ c.toNat ∧ c.toNat ≤ 122 := by
  unfold Char.isLower
  rw [Bool.and_eq_true, decide_eq_true_iff, decide_eq_true_iff, ge_iff_le,
    UInt32.le_iff_toNat_le, UInt32.le_iff_toNat_le]
  rfl

lemma sameLetter_iff : SameLetter c d ↔ c.toNat = d.toNat ∨
    (65 ≤ c.toNat ∧ c.toNat ≤ 90) ∧ d.toNat = c.toNat + 32 ∨
    (65 ≤ d.toNat ∧ d.toNat ≤ 90) ∧ c.toNat = d.toNat + 32 := by
  rw [SameLetter, isUpper_iff, isUpper_iff, Char.toNat_inj]

/-- Two characters have one upper case only if they are the same up to ASCII case. -/
lemma toUpper_eq_iff : c.toUpper = d.toUpper ↔ SameLetter c d := by
  rw [sameLetter_iff, ← Char.toNat_inj, toNat_toUpper, toNat_toUpper]
  split <;> split <;> omega

lemma upperCase_eq_iff :
    upperCase s = upperCase t ↔ s.toList.map Char.toUpper = t.toList.map Char.toUpper :=
  String.ofList_inj

theorem agreeUpToCase_iff : AgreeUpToCase s t ↔ upperCase s = upperCase t := by
  rw [upperCase_eq_iff]
  constructor
  · intro h
    apply List.ext_getElem
    · rw [List.length_map, List.length_map, String.length_toList, String.length_toList]
      exact h.length_eq
    · intro n hs ht
      rw [List.getElem_map, List.getElem_map, toUpper_eq_iff]
      exact h.same n _ _ (List.getElem?_eq_getElem _) (List.getElem?_eq_getElem _)
  · intro h
    constructor
    · have hlength := congrArg List.length h
      rwa [List.length_map, List.length_map, String.length_toList, String.length_toList] at hlength
    · intro n c d hc hd
      have hplace := congrArg (·[n]?) h
      rw [List.getElem?_map, List.getElem?_map, hc, hd] at hplace
      exact toUpper_eq_iff.1 (Option.some.inj hplace)

/-- A character that names are made of. -/
def IsCapital (c : Char) : Prop :=
  c.isUpper = true ∨ c = '_'

lemma isCapital_iff : IsCapital c ↔ 65 ≤ c.toNat ∧ c.toNat ≤ 90 ∨ c.toNat = 95 := by
  rw [IsCapital, isUpper_iff, ← Char.toNat_inj]
  rfl

lemma toUpper_of_isCapital (h : IsCapital c) : c.toUpper = c := by
  rw [isCapital_iff] at h
  rw [← Char.toNat_inj, toNat_toUpper, if_neg (by omega)]

lemma upperCase_of_capitals (h : ∀ c ∈ s.toList, IsCapital c) : upperCase s = s := by
  have hsame : s.toList.map Char.toUpper = s.toList := by
    rw [List.map_congr_left fun c hc => toUpper_of_isCapital (h c hc), List.map_id']
  rw [upperCase, hsame, String.ofList_toList]

/-- Up to case, a capital is an ASCII letter or the underscore. -/
lemma isAlpha_of_sameLetter (h : SameLetter c d) (hd : IsCapital d) :
    c.isAlpha = true ∨ c = '_' := by
  rw [sameLetter_iff] at h
  rw [isCapital_iff] at hd
  have hunderscore : '_'.toNat = 95 := rfl
  change (c.isUpper || c.isLower) = true ∨ _
  rw [Bool.or_eq_true, isUpper_iff, isLower_iff, ← Char.toNat_inj, hunderscore]
  omega

end Text

lemma ReadoutError.message_unknownName (kind text : String) :
    (invalidParameter (.unknownName kind text)).message =
      s!"Invalid parameter: unknown {kind} '{text}'" := by
  unfold message
  simp only [toString, ← String.append_assoc]
  rfl

namespace Named

open Text (upperCase equalIgnoringCase AgreeUpToCase IsCapital)

/-- A kind of values with names that are written in capitals, each of which names its value. -/
class Lawful (α : Type) [Named α] [ToString α] : Prop where
  toString_eq : ∀ value : α, toString value = name value
  find?_name : ∀ value : α, find? (name value) = some value
  capitals : ∀ value : α, ∀ c ∈ (name value).toList, IsCapital c

instance : Lawful CardFamily where
  toString_eq _ := rfl
  find?_name value := by cases value <;> rfl
  capitals value := by cases value <;> simp [name, IsCapital]

instance : Lawful ResetLevel where
  toString_eq _ := rfl
  find?_name value := by cases value <;> rfl
  capitals value := by cases value <;> simp [name, IsCapital]

instance : Lawful LoopbackMode where
  toString_eq _ := rfl
  find?_name value := by cases value <;> rfl
  capitals value := by cases value <;> simp [name, IsCapital]

instance : Lawful GeneratorPattern where
  toString_eq _ := rfl
  find?_name value := by cases value <;> rfl
  capitals value := by cases value <;> simp [name, IsCapital]

instance : Lawful DataSource where
  toString_eq _ := rfl
  find?_name value := by cases value <;> rfl
  capitals value := by cases value <;> simp [name, IsCapital]

section Lawful

variable {α : Type} [Named α] {text : String} {value : α}

lemma find?_congr {text' : String} (h : upperCase text = upperCase text') :
    (find? text : Option α) = find? text' := by
  unfold find?
  congr 1
  funext value
  rw [Bool.eq_iff_iff, Text.equalIgnoringCase_iff, Text.equalIgnoringCase_iff, h]

lemma equal_of_find? (h : find? text = some value) :
    equalIgnoringCase text (name value) = true := by
  unfold find? at h
  have hfound := List.find?_some h
  exact hfound

lemma parse_eq_ok_iff_find? : parse text = .ok value ↔ find? text = some value := by
  unfold parse
  cases (find? text : Option α) with
  | none => simp
  | some found => simp

variable [ToString α] [Lawful α]

lemma upperCase_name (value : α) : upperCase (name value) = name value :=
  Text.upperCase_of_capitals (Lawful.capitals value)

/-- The value that is found is the one with this name, up to ASCII case. -/
lemma find?_eq_some_iff : find? text = some value ↔ upperCase text = name value := by
  constructor
  · intro h
    have hequal := Text.equalIgnoringCase_iff.1 (equal_of_find? h)
    rwa [upperCase_name] at hequal
  · intro h
    rw [← upperCase_name] at h
    rw [find?_congr h, Lawful.find?_name]

lemma agree_iff_find? : AgreeUpToCase text (toString value) ↔ find? text = some value := by
  rw [find?_eq_some_iff, Text.agreeUpToCase_iff, Lawful.toString_eq, upperCase_name]

/-- Whatever the order of the values, the first whose name agrees is the one that is found. -/
lemma find?_any_order {order : List α} (hall : ∀ value, value ∈ order) :
    order.find? (fun value => equalIgnoringCase text (toString value)) = find? text := by
  apply Option.ext
  intro value
  rw [find?_eq_some_iff]
  constructor
  · intro h
    have hfound := List.find?_some h
    rw [Text.equalIgnoringCase_iff, Lawful.toString_eq, upperCase_name] at hfound
    exact hfound
  · intro h
    have hequal (value' : α) : equalIgnoringCase text (toString value') = true ↔ value' = value := by
      rw [Text.equalIgnoringCase_iff, Lawful.toString_eq, upperCase_name, ← find?_eq_some_iff,
        find?_eq_some_iff.2 h, Option.some_inj, eq_comm]
    cases hfind : order.find? (fun value => equalIgnoringCase text (toString value)) with
    | none => exact absurd ((hequal value).2 rfl) (List.find?_eq_none.1 hfind value (hall value))
    | some first =>
      have hfirst := List.find?_some hfind
      rw [(hequal first).1 hfirst]

lemma parse_eq_ok_iff : parse text = .ok value ↔ AgreeUpToCase text (toString value) := by
  rw [parse_eq_ok_iff_find?, agree_iff_find?]

lemma letters_of_find? (h : find? text = some value) {c : Char} (hc : c ∈ text.toList) :
    c.isAlpha = true ∨ c = '_' := by
  rw [find?_eq_some_iff, ← upperCase_name, Text.upperCase_eq_iff] at h
  have hupper : c.toUpper ∈ (name value).toList.map Char.toUpper := by
    rw [← h]
    exact List.mem_map_of_mem hc
  obtain ⟨d, hd, hsame⟩ := List.mem_map.1 hupper
  exact Text.isAlpha_of_sameLetter (Text.toUpper_eq_iff.1 hsame.symm) (Lawful.capitals value d hd)

end Lawful

/-- Exactly the names are read, each as its value, and up to ASCII case. Since no text agrees with
two of them, they may be tried in any order. -/
structure ParsesExactly (α : Type) [Named α] [ToString α] : Prop where
  parse_eq_ok_iff : ∀ text (value : α),
    parse text = .ok value ↔ AgreeUpToCase text (toString value)
  unique : ∀ text (value value' : α), AgreeUpToCase text (toString value) →
    AgreeUpToCase text (toString value') → value = value'
  any_order : ∀ text (order : List α), (∀ value, value ∈ order) →
    order.find? (fun value => equalIgnoringCase text (toString value)) = (parse text).toOption
  parse_toString : ∀ value : α, parse (toString value) = .ok value
  toString_of_parse : ∀ text (value : α), parse text = .ok value → toString value = upperCase text
  refused : ∀ text, (∀ value : α, ¬AgreeUpToCase text (toString value)) →
    let refusal := ReadoutError.invalidParameter (.unknownName (kind α) text)
    (parse text : Except ReadoutError α) = .error refusal ∧ refusal.isFatal = false ∧
      refusal.message = s!"Invalid parameter: unknown {kind α} '{text}'"
  foreign : ∀ text, (∃ c ∈ text.toList, ¬(c.isAlpha = true ∨ c = '_')) →
    ∀ value : α, (parse text : Except ReadoutError α) ≠ .ok value

theorem parsesExactly (α : Type) [Named α] [ToString α] [Lawful α] : ParsesExactly α where
  parse_eq_ok_iff _ _ := parse_eq_ok_iff
  unique text value value' h h' := by
    rw [agree_iff_find?] at h h'
    exact Option.some.inj (h.symm.trans h')
  any_order text order hall := by
    rw [find?_any_order hall, parse]
    cases (find? text : Option α) with
    | none => rfl
    | some value => rfl
  parse_toString value := by
    rw [Lawful.toString_eq, parse_eq_ok_iff_find?, Lawful.find?_name]
  toString_of_parse text value h := by
    rw [parse_eq_ok_iff_find?, find?_eq_some_iff] at h
    rw [h, Lawful.toString_eq]
  refused text hother := by
    have hnone : (find? text : Option α) = none := by
      rw [Option.eq_none_iff_forall_ne_some]
      intro value hfind
      exact hother value (agree_iff_find?.2 hfind)
    intro refusal
    refine ⟨?_, rfl, ?_⟩
    · rw [parse, hnone]
    · exact ReadoutError.message_unknownName (kind α) text
  foreign text hforeign value h := by
    obtain ⟨c, hc, hother⟩ := hforeign
    exact hother (letters_of_find? (parse_eq_ok_iff_find?.1 h) hc)

/-- Each kind of setting reads exactly the names of its own values. -/
theorem settings_parse_exactly :
    ParsesExactly CardFamily ∧ ParsesExactly ResetLevel ∧ ParsesExactly LoopbackMode ∧
      ParsesExactly GeneratorPattern ∧ ParsesExactly DataSource :=
  ⟨parsesExactly _, parsesExactly _, parsesExactly _, parsesExactly _, parsesExactly _⟩

example : (parse "Internal_DIU" : Except ReadoutError ResetLevel) = .ok .internalDiu := rfl

/-- A long s is not an s, though S is the upper case of both. -/
example : (parse "ſIU" : Except ReadoutError DataSource) =
    .error (.invalidParameter (.unknownName "DataSource" "ſIU")) := rfl

end Named

end DmaReadout
