import ArtifactAudit.Encoding.Percent
import ArtifactAudit.Proofs.Encoding.Reading
import ArtifactAudit.Proofs.Text.Pieces

/-!
# Reading forms

A query is read as pairs: its parts between ampersands, each cut at its first equals sign,
with blanks for plus signs and escapes undone (`pairs`). One parameter in form encoding is
read as that one pair, whatever characters key and value hold (`pairs_parameter`): none of
theirs is written as an ampersand or an equals sign, and a plus sign is written for blanks
only.
-/

set_option autoImplicit false

namespace ArtifactAudit.Form

open Percent (isUnreserved)

/-- The pairs that a query is read as. A part without an equals sign is a key without a
value. -/
def pairs (query : List Char) : List (List Char × Option (List Char)) :=
  (Text.pieces '&' query).map fun part =>
    (decode (Text.before '=' part), (Text.after? '=' part).map decode)

/-! ## Keys and values -/

/-- What stands for itself once plus signs are read as blanks. -/
def keptOrBlank (c : Char) : Bool :=
  isUnreserved c || c == ' '

theorem hidesSign_keptOrBlank : Percent.HidesSign keptOrBlank where
  sign := by decide
  ascii c kept := by
    rcases Bool.or_eq_true_iff.mp kept with unreserved | blank
    · exact Percent.toNat_lt_of_isUnreserved unreserved
    · obtain rfl := beq_iff_eq.mp blank
      decide

/-- A character is written with unreserved characters and percent signs. -/
theorem mem_encodeChar {c d : Char} (among : d ∈ Percent.encodeChar isUnreserved c) :
    isUnreserved d = true ∨ d = '%' := by
  have escaped := Percent.isEscaped_encode (fun _ kept => kept) [c]
  rw [Percent.encode, List.flatMap_singleton] at escaped
  exact escaped.isUnreserved_of_mem among

/-- What a key or a value is written with: unreserved characters, escapes and plus signs. -/
theorem mem_encode {s : List Char} {c : Char} (among : c ∈ encode s) :
    isUnreserved c = true ∨ c = '%' ∨ c = '+' := by
  obtain ⟨d, _, part⟩ := List.mem_flatMap.mp among
  split at part
  · exact .inr (.inr (List.mem_singleton.mp part))
  · exact (mem_encodeChar part).imp_right .inl

theorem not_mem_encode {c : Char} (s : List Char) (reserved : isUnreserved c = false)
    (sign : c ≠ '%') (plus : c ≠ '+') : c ∉ encode s := by
  intro among
  rcases mem_encode among with unreserved | same | same
  · rw [reserved] at unreserved
    cases unreserved
  · exact sign same
  · exact plus same

/-- With blanks for plus signs a key or a value is the text with its blanks kept. -/
theorem map_encode (s : List Char) :
    (encode s).map (fun c => if c = '+' then ' ' else c) = Percent.encode keptOrBlank s := by
  induction s with
  | nil => rfl
  | cons c s ih =>
    rw [encode, List.flatMap_cons, List.map_append, Percent.encode_cons]
    congr 1
    by_cases blank : c = ' '
    · subst blank
      decide
    · have same : Percent.encodeChar keptOrBlank c = Percent.encodeChar isUnreserved c := by
        have other : (c == ' ') = false := beq_eq_false_iff_ne.mpr blank
        rw [Percent.encodeChar, keptOrBlank, other, Bool.or_false, Percent.encodeChar]
      rw [if_neg blank, same]
      refine (List.map_congr_left fun d among => if_neg ?_).trans (List.map_id' _)
      rintro rfl
      rcases mem_encodeChar among with impossible | impossible <;>
        exact absurd impossible (by decide)

/-- Reading undoes writing, whatever characters the text holds. -/
theorem decode_encode (s : List Char) : decode (encode s) = s := by
  rw [decode, map_encode, Percent.decode_encode_of_hidden hidesSign_keptOrBlank]

/-! ## Parameters -/

/-- A parameter is read as its key and its value. -/
theorem pairs_parameter (key value : String) :
    pairs (parameter key value) = [(key.toList, some value.toList)] := by
  have joined : '&' ∉ parameter key value := by
    rw [parameter, List.mem_append, List.mem_cons, not_or, not_or]
    exact ⟨not_mem_encode _ (by decide) (by decide) (by decide), by decide,
      not_mem_encode _ (by decide) (by decide) (by decide)⟩
  have cut : '=' ∉ encode key.toList := not_mem_encode _ (by decide) (by decide) (by decide)
  rw [pairs, Text.pieces_eq_singleton joined, List.map_singleton, parameter,
    Text.before_append cut, Text.after?_append cut, Option.map_some, decode_encode, decode_encode]

theorem mem_parameter {key value : String} {c : Char} (among : c ∈ parameter key value) :
    isUnreserved c = true ∨ c ∈ "%+=".toList := by
  have part : ∀ {s}, c ∈ encode s → isUnreserved c = true ∨ c ∈ "%+=".toList := by
    intro s among
    rcases mem_encode among with unreserved | rfl | rfl
    · exact .inl unreserved
    · exact .inr (by decide)
    · exact .inr (by decide)
  rcases List.mem_append.mp among with among | among
  · exact part among
  · rcases List.mem_cons.mp among with rfl | among
    · exact .inr (by decide)
    · exact part among

/-- A parameter is longer than its key and its value together. -/
theorem length_le_parameter (key value : String) :
    key.length + value.length < (parameter key value).length := by
  have written : ∀ s, s.length ≤ (encode s).length := fun s => by
    have bound := Percent.length_le_encode keptOrBlank s
    rwa [← map_encode, List.length_map] at bound
  have first := written key.toList
  have second := written value.toList
  rw [parameter, List.length_append, List.length_cons]
  rw [String.length_toList] at first second
  omega

end ArtifactAudit.Form
