import Delego.Shared.Text

set_option autoImplicit false

namespace Shared.Text

section Separators

variable {α : Type} {separator : α} {before before' after after' pattern : List α}

theorem last_separator_inj (same : before ++ separator :: after = before' ++ separator :: after')
    (clean : separator ∉ after) (clean' : separator ∉ after') : before = before' ∧ after = after' := by
  rcases List.append_eq_append_iff.mp same with ⟨middle, rfl, rest⟩ | ⟨middle, rfl, rest⟩
  · cases middle with
    | nil =>
      cases rest
      simp
    | cons c middle =>
      cases rest
      simp at clean
  · cases middle with
    | nil =>
      cases rest
      simp
    | cons c middle =>
      cases rest
      simp at clean'

theorem first_separator_inj (same : before ++ separator :: after = before' ++ separator :: after')
    (clean : separator ∉ before) (clean' : separator ∉ before') : before = before' ∧ after = after' := by
  have reversed := congrArg List.reverse same
  simp only [List.reverse_append, List.reverse_cons, List.append_assoc, List.singleton_append] at reversed
  obtain ⟨afters, befores⟩ := last_separator_inj reversed (by simpa using clean) (by simpa using clean')
  exact ⟨List.reverse_inj.mp befores, List.reverse_inj.mp afters⟩

theorem infix_separated (clean : separator ∉ pattern) :
    pattern <:+: before ++ separator :: after ↔ pattern <:+: before ∨ pattern <:+: after := by
  constructor
  · rintro ⟨front, back, same⟩
    rcases List.append_eq_append_iff.mp same with ⟨middle, rfl, _⟩ | ⟨middle, cut, rest⟩
    · exact .inl ⟨front, middle, rfl⟩
    cases middle with
    | nil =>
      rw [List.append_nil] at cut
      exact .inl ⟨front, [], by rw [List.append_nil, cut]⟩
    | cons c middle =>
      cases rest
      rcases List.append_eq_append_iff.mp cut with ⟨inner, rfl, split⟩ | ⟨inner, rfl, split⟩
      · rw [split] at clean
        simp at clean
      · cases inner with
        | nil =>
          rw [List.nil_append] at split
          rw [← split] at clean
          simp at clean
        | cons c inner =>
          cases split
          exact .inr ⟨inner, back, rfl⟩
  · rintro (within | within)
    · exact within.trans ⟨[], separator :: after, rfl⟩
    · exact within.trans ⟨before ++ [separator], [], by simp⟩

theorem splitOnP_clean {separates : α → Bool} {front : List α} (clean : ∀ c ∈ front, separates c = false)
    (rest : List α) : (front ++ rest).splitOnP separates =
      (rest.splitOnP separates).modifyHead (front ++ ·) := by
  induction front with
  | nil => cases parts : rest.splitOnP separates <;> simp [parts]
  | cons c front ih =>
    obtain ⟨first, later⟩ := List.forall_mem_cons.mp clean
    rw [List.cons_append, List.splitOnP_cons_eq_if_modifyHead, if_neg (by simp [first]), ih later]
    cases rest.splitOnP separates <;> rfl

theorem splitOnP_apart {separates : α → Bool} (whole : List α) :
    ∀ piece ∈ whole.splitOnP separates, ∀ c ∈ piece, separates c = false := by
  induction whole with
  | nil => simp
  | cons c whole ih =>
    rw [List.splitOnP_cons_eq_if_modifyHead]
    split
    · simpa using ih
    · next within =>
      cases parts : whole.splitOnP separates with
      | nil => simp
      | cons piece later =>
        rw [parts] at ih
        obtain ⟨first, others⟩ := List.forall_mem_cons.mp ih
        refine List.forall_mem_cons.mpr ⟨?_, others⟩
        exact List.forall_mem_cons.mpr ⟨by simpa using within, first⟩

end Separators

def pieces (separator : Char) (text : String) : List (List Char) := text.toList.splitOn separator

theorem pieces_inj {separator : Char} {text text' : String} :
    pieces separator text = pieces separator text' ↔ text = text' := by
  constructor
  · intro same
    have joined := congrArg [separator].intercalate same
    simp only [pieces, List.intercalate_splitOn] at joined
    exact String.toList_inj.mp joined
  · intro same
    rw [same]

theorem pieces_joined (separator : Char) (front back : String) :
    pieces separator (front ++ String.singleton separator ++ back) =
      pieces separator front ++ pieces separator back := by
  simp only [pieces, String.toList_append, String.toList_singleton, List.append_assoc, List.singleton_append,
    List.splitOn_append_cons_self]

theorem joined_eq_iff {front front' back back' : String} :
    front ++ ":" ++ back = front' ++ ":" ++ back' ↔
      pieces ':' front ++ pieces ':' back = pieces ':' front' ++ pieces ':' back' := by
  rw [← @pieces_inj ':', ← pieces_joined, ← pieces_joined]
  rfl

theorem occurs_iff {pattern chars : List Char} : occurs pattern chars = true ↔ pattern <:+: chars := by
  induction chars with
  | nil => simp [occurs]
  | cons c rest ih =>
    rw [occurs, Bool.or_eq_true, ih, List.isPrefixOf_iff_prefix, List.infix_cons_iff]

end Shared.Text
