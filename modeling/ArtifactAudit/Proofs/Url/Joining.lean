import Mathlib.Data.List.Basic
import Mathlib.Data.List.TakeWhile
import ArtifactAudit.Proofs.Text.Pieces
import ArtifactAudit.Proofs.Url.Scheme

/-!
# Cutting and writing down

A URL with a scheme and an authority is written as scheme, colon, two slashes, authority
and resource (`join_eq`). If its components are separable, that is, if none of them holds
a delimiter that ends it, cutting what was written gives these components back
(`cut_written`). What a text is cut into is separable, if it names a scheme and an
authority (`isSeparable_cut`).

The checks of the authority depend on the authority alone, so they pass for what was
written as soon as they pass for the text it came from (`split_eq_ok_iff`).
-/

set_option autoImplicit false

namespace ArtifactAudit.Url

open Text

/-! ## Delimited parts -/

/-- A part with its delimiter in front; an empty part leaves none. -/
def delimited (delimiter : Char) (part : List Char) : List Char :=
  if part.isEmpty then [] else delimiter :: part

theorem delimited_of_ne_nil (delimiter : Char) {part : List Char} (present : part ≠ []) :
    delimited delimiter part = delimiter :: part :=
  if_neg (by simpa using present)

theorem delimited_eq_nil_iff {delimiter : Char} {part : List Char} :
    delimited delimiter part = [] ↔ part = [] := by
  cases part <;> simp [delimited]

theorem mem_delimited {delimiter c : Char} {part : List Char}
    (among : c ∈ delimited delimiter part) : c = delimiter ∨ c ∈ part := by
  cases part with
  | nil => cases among
  | cons first rest => exact List.mem_cons.mp among

theorem head?_delimited {delimiter : Char} {part : List Char} :
    ∀ c ∈ (delimited delimiter part).head?, c = delimiter := by
  cases part with
  | nil => simp [delimited]
  | cons first rest => simp [delimited]

/-- A part that its delimiter introduces ends where the part ends. -/
theorem getLast?_delimited {delimiter : Char} {part : List Char} :
    ∀ c ∈ (delimited delimiter part).getLast?, c ∈ part.getLast? := by
  cases part with
  | nil => simp [delimited]
  | cons first rest => simp [delimited]

section

variable {delimiter : Char} {front : List Char} (free : delimiter ∉ front) (part : List Char)

include free

theorem before_delimited : before delimiter (front ++ delimited delimiter part) = front := by
  by_cases present : part = []
  · rw [present, delimited_eq_nil_iff.mpr rfl, List.append_nil, before_of_not_mem free]
  · rw [delimited_of_ne_nil delimiter present, before_append free]

theorem after_delimited : after delimiter (front ++ delimited delimiter part) = part := by
  by_cases present : part = []
  · rw [present, delimited_eq_nil_iff.mpr rfl, List.append_nil, after, after?_of_not_mem free]
    rfl
  · rw [delimited_of_ne_nil delimiter present, after, after?_append free]
    rfl

end

/-! ## Cutting without checks -/

/-- Whether a character counts wherever it stands. -/
def isSignificant (c : Char) : Bool :=
  c != '\t' && c != '\n' && c != '\r'

theorem significant_eq (s : List Char) :
    significant s = (s.dropWhile (·.toNat ≤ 0x20)).filter isSignificant :=
  rfl

/-- The components of a text, whether or not its authority passes the checks. -/
def cut (s : List Char) : Components :=
  let (scheme, hierarchy) := splitScheme (significant s)
  let (authority, rest) := splitAuthority hierarchy
  let resource := before '#' rest
  { scheme, authority
    path := before '?' resource
    query := after '?' resource
    fragment := after '#' rest }

/-- A text has the components that it is cut into if their authority passes the checks. -/
theorem split_eq_ok_iff {s : List Char} {url : Components} :
    split s = .ok url ↔
      cut s = url ∧ checkBrackets url.authority = .ok () ∧ checkForms url.authority = .ok () := by
  have steps : split s = (checkBrackets (cut s).authority).bind fun _ =>
      (checkForms (cut s).authority).map fun _ => cut s := rfl
  rw [steps]
  constructor
  · intro splits
    cases brackets : checkBrackets (cut s).authority with
    | error error => simp [brackets, Except.bind] at splits
    | ok _ =>
      cases forms : checkForms (cut s).authority with
      | error error => simp [brackets, forms, Except.bind, Except.map] at splits
      | ok _ =>
        obtain rfl : cut s = url := by
          simpa [brackets, forms, Except.bind, Except.map] using splits
        exact ⟨rfl, brackets, forms⟩
  · rintro ⟨rfl, brackets, forms⟩
    rw [brackets, forms]
    rfl

/-! ## Writing down -/

/-- Whether components can be told apart once they are written down: none of them holds
a delimiter that ends it, or a character that does not count. -/
structure Components.IsSeparable (url : Components) : Prop where
  scheme : IsScheme url.scheme
  lower : url.scheme.map Char.toLower = url.scheme
  authority : ∀ c ∈ url.authority, endsAuthority c = false
  rooted : ∀ c ∈ url.path.head?, c = '/'
  unasked : '?' ∉ url.path
  unmarked : '#' ∉ url.path ∧ '#' ∉ url.query
  significant : ∀ c ∈ url.authority ++ url.path ++ url.query ++ url.fragment,
    isSignificant c = true

namespace Components

variable {url : Components}

/-- What stands behind the authority. -/
def resource (url : Components) : List Char :=
  url.path ++ delimited '?' url.query ++ delimited '#' url.fragment

/-- The text of a URL with scheme and authority. -/
def written (url : Components) : List Char :=
  url.scheme ++ ':' :: '/' :: '/' :: (url.authority ++ url.resource)

theorem written_eq (url : Components) :
    url.written = (url.scheme ++ ':' :: '/' :: '/' :: url.authority) ++ url.resource := by
  simp only [written, List.append_assoc, List.cons_append]

theorem resource_eq_nil_iff :
    url.resource = [] ↔ url.path = [] ∧ url.query = [] ∧ url.fragment = [] := by
  simp [resource, List.append_eq_nil_iff, delimited_eq_nil_iff]

/-- With a scheme and an authority, joining writes both down with their delimiters. -/
theorem join_eq (scheme : url.scheme ≠ []) (authority : url.authority ≠ [])
    (rooted : ∀ c ∈ url.path.head?, c = '/') : url.join = url.written := by
  have path : (if url.path.isEmpty || url.path.head? == some '/' then url.path
      else '/' :: url.path) = url.path := by
    cases spelled : url.path with
    | nil => rfl
    | cons c rest =>
      rw [spelled] at rooted
      rw [rooted c rfl]
      simp
  simp only [join, path, written, resource, delimited, List.isEmpty_eq_false_iff.mpr scheme,
    List.isEmpty_eq_false_iff.mpr authority, Bool.false_eq_true, if_false, List.append_assoc,
    List.cons_append, List.nil_append]

/-- What stands behind the authority does not belong to it. -/
theorem IsSeparable.head?_resource (separable : url.IsSeparable) :
    ∀ c ∈ url.resource.head?, endsAuthority c = true := by
  intro c first
  rw [resource, List.append_assoc] at first
  cases path : url.path with
  | cons d rest =>
    rw [path] at first
    obtain rfl : d = c := by simpa using first
    rw [separable.rooted d (by rw [path]; rfl)]
    rfl
  | nil =>
    rw [path, List.nil_append] at first
    cases query : url.query with
    | cons d rest =>
      rw [query] at first
      obtain rfl : '?' = c := by simpa [delimited] using first
      rfl
    | nil =>
      rw [query, delimited_eq_nil_iff.mpr rfl, List.nil_append] at first
      rw [head?_delimited c first]
      rfl

end Components

/-! ## Cutting what was written -/

/-- No scheme holds a colon. -/
theorem IsScheme.colon_not_mem {scheme : List Char} (named : IsScheme scheme) :
    ':' ∉ scheme := by
  obtain ⟨first, rest, rfl, letter, permitted⟩ := named
  intro among
  rcases List.mem_cons.mp among with rfl | among
  · exact absurd letter (by decide)
  · exact absurd (permitted ':' among) (by decide)

theorem IsScheme.ne_nil {scheme : List Char} (named : IsScheme scheme) : scheme ≠ [] := by
  obtain ⟨first, rest, rfl, _⟩ := named
  exact List.cons_ne_nil first rest

theorem IsScheme.permitted {scheme : List Char} (named : IsScheme scheme) :
    ((scheme.head?.any Char.isAlpha) && scheme.all isSchemeChar) = true := by
  obtain ⟨first, rest, rfl, letter, permitted⟩ := named
  have alphanumeric := isAlphanum_of_isAlpha letter
  simp only [List.head?_cons, Option.any_some, letter, List.all_cons, Bool.true_and,
    Bool.and_eq_true, List.all_eq_true]
  exact ⟨by simp [isSchemeChar, alphanumeric], permitted⟩

theorem splitScheme_append {scheme : List Char} (named : IsScheme scheme)
    (lower : scheme.map Char.toLower = scheme) (rest : List Char) :
    splitScheme (scheme ++ ':' :: rest) = (scheme, rest) := by
  simp only [splitScheme, before_append named.colon_not_mem, after?_append named.colon_not_mem,
    named.permitted, if_true, lower]

theorem splitAuthority_append {authority rest : List Char}
    (within : ∀ c ∈ authority, endsAuthority c = false)
    (ends : ∀ c ∈ rest.head?, endsAuthority c = true) :
    splitAuthority ('/' :: '/' :: (authority ++ rest)) = (authority, rest) := by
  have inner : ∀ c ∈ authority, (!endsAuthority c) = true := by
    intro c among
    rw [within c among]
    rfl
  have stops : rest.takeWhile (!endsAuthority ·) = [] ∧
      rest.dropWhile (!endsAuthority ·) = rest := by
    cases rest with
    | nil => exact ⟨rfl, rfl⟩
    | cons c rest => simp [ends c rfl]
  rw [splitAuthority, List.takeWhile_append_of_pos inner, List.dropWhile_append_of_pos inner,
    stops.1, stops.2, List.append_nil]

/-- A character of a scheme is no control character, and no tab or line end. -/
theorem counts_of_isSchemeChar {c : Char} (permitted : isSchemeChar c = true) :
    0x20 < c.toNat ∧ isSignificant c = true :=
  of_isSchemeChar (p := fun c => 0x20 < c.toNat ∧ isSignificant c = true) (by decide +kernel)
    permitted

theorem IsScheme.counts {scheme : List Char} (named : IsScheme scheme) :
    ∀ c ∈ scheme, 0x20 < c.toNat ∧ isSignificant c = true := by
  intro c among
  have permitted := (Bool.and_eq_true_iff.mp named.permitted).2
  exact counts_of_isSchemeChar (List.all_eq_true.mp permitted c among)

namespace Components

variable {url : Components}

/-- Every character of what was written counts. -/
theorem IsSeparable.significant_written (separable : url.IsSeparable) :
    Url.significant url.written = url.written := by
  have head : url.written.dropWhile (·.toNat ≤ 0x20) = url.written := by
    obtain ⟨first, rest, spelled, _⟩ := id separable.scheme
    have counts := (separable.scheme.counts first (by rw [spelled]; exact List.mem_cons_self)).1
    rw [written, spelled, List.cons_append]
    apply List.dropWhile_cons_of_neg
    simpa using counts
  rw [significant_eq, head, List.filter_eq_self]
  intro c among
  have parts := separable.significant
  simp only [List.mem_append] at parts
  simp only [written, resource, List.mem_append, List.mem_cons] at among
  rcases among with among | rfl | rfl | rfl | among | (among | among) | among
  · exact (separable.scheme.counts c among).2
  · decide
  · decide
  · decide
  · exact parts c (.inl (.inl (.inl among)))
  · exact parts c (.inl (.inl (.inr among)))
  · rcases mem_delimited among with rfl | among
    · decide
    · exact parts c (.inl (.inr among))
  · rcases mem_delimited among with rfl | among
    · decide
    · exact parts c (.inr among)

/-- No fragment begins in front of the one of the URL. -/
theorem IsSeparable.unmarked_path (separable : url.IsSeparable) :
    '#' ∉ url.path ++ delimited '?' url.query := by
  intro among
  rcases List.mem_append.mp among with among | among
  · exact separable.unmarked.1 among
  · rcases mem_delimited among with impossible | among
    · exact absurd impossible (by decide)
    · exact separable.unmarked.2 among

/-- Cutting undoes writing down. -/
theorem IsSeparable.cut_written (separable : url.IsSeparable) : cut url.written = url := by
  have unmarked := separable.unmarked_path
  have scheme : splitScheme url.written =
      (url.scheme, '/' :: '/' :: (url.authority ++ url.resource)) :=
    splitScheme_append separable.scheme separable.lower _
  have authority : splitAuthority ('/' :: '/' :: (url.authority ++ url.resource)) =
      (url.authority, url.resource) :=
    splitAuthority_append separable.authority separable.head?_resource
  simp only [cut, separable.significant_written, scheme, authority]
  rw [resource, before_delimited unmarked, after_delimited unmarked,
    before_delimited separable.unasked, after_delimited separable.unasked]

/-- Neither scheme nor authority holds a delimiter of the resource. -/
theorem IsSeparable.delimiter_not_mem (separable : url.IsSeparable) {delimiter : Char}
    (delimits : delimiter = '?' ∨ delimiter = '#') :
    delimiter ∉ url.scheme ++ ':' :: '/' :: '/' :: url.authority := by
  intro among
  simp only [List.mem_append, List.mem_cons] at among
  have excluded : isSchemeChar delimiter = false ∧ endsAuthority delimiter = true ∧
      delimiter ≠ ':' ∧ delimiter ≠ '/' := by
    rcases delimits with rfl | rfl <;> decide
  obtain ⟨unnamed, ends, noColon, noSlash⟩ := excluded
  rcases among with among | same | same | same | among
  · have permitted := (Bool.and_eq_true_iff.mp separable.scheme.permitted).2
    exact absurd ((List.all_eq_true.mp permitted delimiter among).symm.trans unnamed) (by decide)
  · exact noColon same
  · exact noSlash same
  · exact noSlash same
  · exact absurd ((separable.authority delimiter among).symm.trans ends) (by decide)

/-- The query of what was written stands between its first question mark and its first
number sign. -/
theorem IsSeparable.query_written (separable : url.IsSeparable) :
    after '?' (before '#' url.written) = url.query := by
  have unmarked : '#' ∉ (url.scheme ++ ':' :: '/' :: '/' :: url.authority) ++
      (url.path ++ delimited '?' url.query) := by
    intro among
    rcases List.mem_append.mp among with among | among
    · exact separable.delimiter_not_mem (.inr rfl) among
    · exact separable.unmarked_path among
  have unasked : '?' ∉ (url.scheme ++ ':' :: '/' :: '/' :: url.authority) ++ url.path := by
    intro among
    rcases List.mem_append.mp among with among | among
    · exact separable.delimiter_not_mem (.inl rfl) among
    · exact separable.unasked among
  rw [written_eq, resource, ← List.append_assoc, before_delimited unmarked, ← List.append_assoc,
    after_delimited unasked]

end Components

/-! ## What a text is cut into -/

/-- A scheme is in lower case. -/
theorem lower_splitScheme (s : List Char) :
    (splitScheme s).1.map Char.toLower = (splitScheme s).1 := by
  have twice : ∀ c, isSchemeChar c = true → c.toLower.toLower = c.toLower := by
    intro c permitted
    exact of_isSchemeChar (p := fun c => c.toLower.toLower = c.toLower) (by decide +kernel)
      permitted
  unfold splitScheme
  cases after? ':' s with
  | none => rfl
  | some rest =>
    simp only
    split
    · rename_i named
      have permitted := List.all_eq_true.mp (Bool.and_eq_true_iff.mp named).2
      rw [List.map_map]
      exact List.map_congr_left fun c among => twice c (permitted c among)
    · rfl

theorem isSuffix_splitScheme (s : List Char) : (splitScheme s).2 <:+ s := by
  unfold splitScheme
  cases found : after? ':' s with
  | none => exact List.suffix_refl s
  | some rest =>
    have suffix := isSuffix_after ':' s
    rw [after, found] at suffix
    simp only
    split
    · exact suffix
    · exact List.suffix_refl s

/-- An authority stands behind two slashes and ends with a character that ends it. -/
theorem splitAuthority_cases (s : List Char) :
    splitAuthority s = ([], s) ∨ ∃ rest, s = '/' :: '/' :: rest ∧
      splitAuthority s =
        (rest.takeWhile (!endsAuthority ·), rest.dropWhile (!endsAuthority ·)) := by
  unfold splitAuthority
  split
  · rename_i rest
    exact .inr ⟨rest, rfl, rfl⟩
  · exact .inl rfl

theorem splitAuthority_append_eq (s : List Char) :
    ∃ slashes, s = slashes ++ ((splitAuthority s).1 ++ (splitAuthority s).2) := by
  rcases splitAuthority_cases s with none | ⟨rest, spelled, found⟩
  · rw [none]
    exact ⟨[], rfl⟩
  · rw [found, List.takeWhile_append_dropWhile]
    exact ⟨['/', '/'], spelled⟩

theorem within_splitAuthority (s : List Char) :
    ∀ c ∈ (splitAuthority s).1, endsAuthority c = false := by
  intro c among
  rcases splitAuthority_cases s with none | ⟨rest, _, found⟩
  · rw [none] at among
    cases among
  · rw [found] at among
    simpa using List.mem_takeWhile_imp among

/-- What stands behind an authority begins with a character that ends it. -/
theorem ends_splitAuthority {s : List Char} (present : (splitAuthority s).1 ≠ []) :
    ∀ c ∈ (splitAuthority s).2.head?, endsAuthority c = true := by
  intro c first
  rcases splitAuthority_cases s with none | ⟨rest, _, found⟩
  · rw [none] at present
    exact absurd rfl present
  · have stops := List.head?_dropWhile_not (!endsAuthority ·) rest
    rw [found] at first
    rw [Option.mem_def.mp first] at stops
    simpa using stops

/-- What a component but the scheme holds stands in the text. -/
theorem mem_of_mem_cut {s : List Char} {c : Char}
    (among : c ∈ (cut s).authority ++ (cut s).path ++ (cut s).query ++ (cut s).fragment) :
    c ∈ significant s := by
  have hierarchy := (isSuffix_splitScheme (significant s)).subset
  obtain ⟨slashes, whole⟩ := splitAuthority_append_eq (splitScheme (significant s)).2
  have authority : c ∈ (cut s).authority → c ∈ significant s := by
    intro among
    apply hierarchy
    rw [whole]
    exact List.mem_append_right _ (List.mem_append_left _ among)
  have rest : c ∈ (splitAuthority (splitScheme (significant s)).2).2 → c ∈ significant s := by
    intro among
    apply hierarchy
    rw [whole]
    exact List.mem_append_right _ (List.mem_append_right _ among)
  simp only [List.mem_append] at among
  rcases among with ((among | among) | among) | among
  · exact authority among
  · exact rest ((isPrefix_before '#' _).subset ((isPrefix_before '?' _).subset among))
  · exact rest ((isPrefix_before '#' _).subset ((isSuffix_after '?' _).subset among))
  · exact rest ((isSuffix_after '#' _).subset among)

/-- The components of a text with a scheme and an authority are separable. -/
theorem isSeparable_cut {s : List Char} (scheme : (cut s).scheme ≠ [])
    (authority : (cut s).authority ≠ []) : (cut s).IsSeparable where
  scheme := isScheme_splitScheme scheme
  lower := lower_splitScheme (significant s)
  authority := within_splitAuthority (splitScheme (significant s)).2
  rooted := by
    intro c first
    have among : c ∈ (cut s).path := List.mem_of_mem_head? first
    obtain ⟨more, whole⟩ := (isPrefix_before '?' _).trans
      (isPrefix_before '#' (splitAuthority (splitScheme (significant s)).2).2)
    have ends : endsAuthority c = true := by
      apply ends_splitAuthority (s := (splitScheme (significant s)).2) authority c
      rw [← whole]
      exact List.mem_head?_append_of_mem_head? first
    have unasked : c ≠ '?' := by
      rintro rfl
      exact separator_not_mem_before '?' _ among
    have unmarked : c ≠ '#' := by
      rintro rfl
      exact separator_not_mem_before '#' _ ((isPrefix_before '?' _).subset among)
    simpa [endsAuthority, unasked, unmarked] using ends
  unasked := separator_not_mem_before '?' _
  unmarked := ⟨
    fun among => separator_not_mem_before '#' _ ((isPrefix_before '?' _).subset among),
    fun among => separator_not_mem_before '#' _ ((isSuffix_after '?' _).subset among)⟩
  significant c among := by
    have counts := mem_of_mem_cut among
    rw [significant_eq] at counts
    exact (List.mem_filter.mp counts).2

/-! ## The end of a text -/

/-- A text that ends in no blank still does so without the characters that do not count. -/
theorem getLast?_significant {s : List Char} (ends : ∀ c ∈ s.getLast?, isBlank c = false) :
    ∀ c ∈ (significant s).getLast?, isBlank c = false := by
  intro c last
  obtain ⟨front, whole⟩ := List.dropWhile_suffix (fun c : Char => decide (c.toNat ≤ 0x20)) (l := s)
  rw [significant_eq] at last
  rcases List.eq_nil_or_concat (s.dropWhile (·.toNat ≤ 0x20)) with nothing | ⟨rest, d, spelled⟩
  · rw [nothing] at last
    cases last
  · have stays : isBlank d = false := by
      apply ends
      rw [← whole, spelled]
      simp
    have counts : isSignificant d = true := by
      by_contra other
      simp only [isSignificant, Bool.and_eq_true, bne_iff_ne, not_and_or, not_not] at other
      rcases other with (rfl | rfl) | rfl <;> exact absurd stays (by decide)
    rw [spelled, List.concat_eq_append, List.filter_append, List.filter_cons_of_pos counts] at last
    obtain rfl : d = c := by simpa using last
    exact stays

/-- A fragment ends where its text ends. -/
theorem getLast?_fragment {s : List Char} (ends : ∀ c ∈ s.getLast?, isBlank c = false) :
    ∀ c ∈ (cut s).fragment.getLast?, isBlank c = false := by
  intro c last
  apply getLast?_significant ends
  obtain ⟨slashes, whole⟩ := splitAuthority_append_eq (splitScheme (significant s)).2
  have suffix : (cut s).fragment <:+ significant s := by
    refine (isSuffix_after '#' _).trans (.trans ?_ (isSuffix_splitScheme (significant s)))
    exact ⟨slashes ++ (cut s).authority, by rw [List.append_assoc]; exact whole.symm⟩
  obtain ⟨front, same⟩ := suffix
  rw [← same]
  exact List.mem_getLast?_append_of_mem_getLast? last

end ArtifactAudit.Url
