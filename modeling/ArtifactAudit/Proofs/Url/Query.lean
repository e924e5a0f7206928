import ArtifactAudit.Proofs.Encoding.Form
import ArtifactAudit.Proofs.Url.Base

/-!
# Queries of requests

A query that is given is put at the end of a place which does not depend on it: it decides
only whether there is a location at all, and what its query is (`Base.resolve?_some`). A
parameter in form encoding holds nothing that a query does not keep, so it is asked as it is
written (`encode_parameter`), unless it is too long (`isAcceptable_parameter_iff`).
-/

set_option autoImplicit false

namespace ArtifactAudit.Url

/-! ## Places with a query -/

namespace Location

variable {location : Location} {path query : List Char}

/-- The query of a reference becomes that of the location and nothing else. -/
theorem ofReference?_query (reference : Reference) (query : Option (List Char)) :
    ofReference? { reference with query } =
      (ofReference? reference).map fun location =>
        { location with query := query.map (Percent.encode keptInQuery) } := by
  simp only [ofReference?]
  generalize splitHost reference.authority = cut
  cases encodeHost? cut.2.1 with
  | none => rfl
  | some host =>
    cases readPort? reference.scheme cut.2.2 with
    | none => rfl
    | some port =>
      simp only [Option.bind_some]
      split <;> rfl

/-- Whether a query may stand in a URL does not depend on where it is put. -/
theorem withResource?_some (location : Location) (path query : List Char) :
    location.withResource? path (some query) =
      if isAcceptable query then
        (location.withResource? path (some [])).map fun found =>
          { found with query := some (Percent.encode keptInQuery query) }
      else none := by
  have empty : isAcceptable [] = true := by decide
  simp only [withResource?, Reference.isAcceptable, Option.all_some, empty, Bool.and_true,
    Bool.and_eq_true]
  by_cases acceptable : isAcceptable query = true
  · simp only [acceptable, and_true, if_true]
    split
    · exact ofReference?_query
        { scheme := location.scheme, authority := location.authority, path, query := some []
          fragment := location.fragment } (some query)
    · rfl
  · simp [acceptable]

/-- Another query in ASCII can be written as well. -/
theorem isSendable_of_query {query : Option (List Char)} (sendable : location.isSendable = true)
    (ascii : ∀ asked ∈ query, ∀ c ∈ asked, Percent.isAscii c = true) :
    { location with query }.isSendable = true := by
  have authority : { location with query }.authority = location.authority := rfl
  simp only [isSendable, text, authority, String.toList_ofList, List.all_append,
    Bool.and_eq_true] at sendable ⊢
  obtain ⟨⟨⟨front, path⟩, _⟩, marked⟩ := sendable
  refine ⟨⟨⟨front, path⟩, ?_⟩, marked⟩
  cases query with
  | none => rfl
  | some asked =>
    rw [Option.map_some, Option.getD_some, List.all_cons, Bool.and_eq_true]
    exact ⟨by decide, List.all_eq_true.mpr (ascii asked rfl)⟩

end Location

/-- A query that is given is put at the end of the place that the reference leads to. -/
theorem Base.resolve?_some (base : Base) (reference query : List Char) :
    base.resolve? reference (some query) =
      if isAcceptable query then
        (base.resolve? reference (some [])).map fun found =>
          { found with query := some (Percent.encode keptInQuery query) }
      else none := by
  simp only [resolve?]
  cases Location.ofText? reference with
  | none => simp
  | some relative =>
    simp only [Option.bind_some]
    cases base.location.withTarget?
        (base.location.target ++ relative.target.dropWhile (· == '/')) with
    | none => simp
    | some location => exact location.withResource?_some location.path query

/-! ## Parameters -/

/-- A query keeps what parameters are written with. -/
theorem keptInQuery_of_mem_parameter {key value : String} {c : Char}
    (among : c ∈ Form.parameter key value) : keptInQuery c = true := by
  rcases Form.mem_parameter among with unreserved | sign
  · exact Text.forall_ascii (p := fun c => Percent.isUnreserved c = true → keptInQuery c = true)
      (by decide +kernel) (Percent.toNat_lt_of_isUnreserved unreserved) unreserved
  · have signs : "%+=".toList.all keptInQuery = true := by decide
    exact List.all_eq_true.mp signs c sign

theorem isVisible_of_keptInQuery {c : Char} (kept : keptInQuery c = true) :
    0x21 ≤ c.toNat ∧ c.toNat ≤ 0x7E := by
  simp only [keptInQuery, isVisible, Bool.and_eq_true, decide_eq_true_eq] at kept
  exact kept.1

theorem isAscii_of_mem_parameter {key value : String} {c : Char}
    (among : c ∈ Form.parameter key value) : Percent.isAscii c = true := by
  have visible := isVisible_of_keptInQuery (keptInQuery_of_mem_parameter among)
  exact decide_eq_true (by omega)

/-- A parameter is asked as it is written. -/
theorem encode_parameter (key value : String) :
    Percent.encode keptInQuery (Form.parameter key value) = Form.parameter key value :=
  Percent.encode_of_kept fun _ => keptInQuery_of_mem_parameter

/-- A parameter may stand in a URL unless it is too long. -/
theorem isAcceptable_parameter_iff {key value : String} :
    isAcceptable (Form.parameter key value) = true ↔
      (Form.parameter key value).length ≤ lengthLimit := by
  rw [isAcceptable_iff]
  refine and_iff_left fun c among => ?_
  have visible := isVisible_of_keptInQuery (keptInQuery_of_mem_parameter among)
  omega

end ArtifactAudit.Url
