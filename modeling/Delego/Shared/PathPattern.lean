import Delego.Shared.Pieces
import Mathlib.Data.List.Forall2

set_option autoImplicit false

namespace Shared.PathPattern

/-- A part of a path with parameters: a character that stands for itself, or `([^/]+)`. -/
inductive Token where
  | char (c : Char)
  | param (name : String)
  deriving DecidableEq

def isLetter (c : Char) : Bool := ('a' ≤ c && c ≤ 'z') || ('A' ≤ c && c ≤ 'Z')

-- `path.replace(/:([a-zA-Z]+)/g, …)`: what belongs to a parameter is skipped.
def compileFrom : Nat → List Char → List Token
  | _, [] => []
  | skip + 1, _ :: rest => compileFrom skip rest
  | 0, c :: rest =>
    let name := rest.takeWhile isLetter
    if c = ':' ∧ name ≠ [] then .param (String.ofList name) :: compileFrom name.length rest
    else .char c :: compileFrom 0 rest

def compile (path : String) : List Token := compileFrom 0 path.toList

def paramNames (tokens : List Token) : List String :=
  tokens.filterMap fun token =>
    match token with
    | .char _ => none
    | .param name => some name

-- The values of the parameters. A parameter takes as much as it can, and less where the rest fails.
def run : List Token → List Char → Option (List (List Char))
  | [], [] => some []
  | [], _ :: _ => none
  | .char _ :: _, [] => none
  | .char c :: tokens, d :: text => if c = d then run tokens text else none
  | .param _ :: tokens, text =>
    (List.range (text.takeWhile (· ≠ '/')).length).reverse.findSome? fun count =>
      (run tokens (text.drop (count + 1))).map (text.take (count + 1) :: ·)

example : run (compile "/wallet/:address/balance") "/wallet/GA7/balance".toList = some ["GA7".toList] := by
  decide

inductive Fills : List Token → List (List Char) → List Char → Prop
  | nil : Fills [] [] []
  | char {tokens : List Token} {values : List (List Char)} {text : List Char} (c : Char)
      (rest : Fills tokens values text) : Fills (.char c :: tokens) values (c :: text)
  | param {tokens : List Token} {values : List (List Char)} {text value : List Char} (name : String)
      (nonempty : value ≠ []) (clean : '/' ∉ value) (rest : Fills tokens values text) :
      Fills (.param name :: tokens) (value :: values) (value ++ text)

variable {tokens tokens' : List Token} {values values' : List (List Char)} {text : List Char}

theorem take_clean {count : Nat} (within : count < (text.takeWhile (· ≠ '/')).length) :
    text.take (count + 1) ≠ [] ∧ '/' ∉ text.take (count + 1) := by
  have front : text.take (count + 1) = (text.takeWhile (· ≠ '/')).take (count + 1) := by
    have start := List.takeWhile_prefix (l := text) (fun c => decide (c ≠ '/'))
    rw [List.prefix_iff_eq_take.mp start, List.take_take]
    congr 1
    omega
  rw [front]
  constructor
  · intro empty
    have size := congrArg List.length empty
    simp only [List.length_take, List.length_nil] at size
    omega
  · intro member
    have clean := List.mem_takeWhile_imp (List.mem_of_mem_take member)
    simp at clean

theorem run_fills (matched : run tokens text = some values) : Fills tokens values text := by
  induction tokens generalizing text values with
  | nil =>
    cases text with
    | nil => cases matched; exact .nil
    | cons c text => cases matched
  | cons token tokens ih =>
    cases token with
    | char c =>
      cases text with
      | nil => cases matched
      | cons d text =>
        rw [run] at matched
        split at matched
        · next same =>
          subst same
          exact .char c (ih matched)
        · cases matched
    | param name =>
      rw [run] at matched
      obtain ⟨count, member, found⟩ := List.exists_of_findSome?_eq_some matched
      obtain ⟨later, rest, same⟩ := Option.map_eq_some_iff.mp found
      rw [List.mem_reverse, List.mem_range] at member
      obtain ⟨nonempty, clean⟩ := take_clean member
      rw [← same]
      have whole := Fills.param name nonempty clean (ih rest)
      rwa [List.take_append_drop] at whole

theorem fills_run (fills : Fills tokens values text) : (run tokens text).isSome := by
  induction fills with
  | nil => rfl
  | char c _ ih => simpa [run] using ih
  | @param tokens values text value name nonempty clean _ ih =>
    -- The value itself is one of the choices.
    rw [run, List.findSome?_isSome_iff]
    refine ⟨value.length - 1, ?_, ?_⟩
    · have free : value ++ (text.takeWhile (· ≠ '/')) = (value ++ text).takeWhile (· ≠ '/') := by
        rw [List.takeWhile_append_of_pos]
        intro c member
        simpa using fun same : c = '/' => clean (same ▸ member)
      have size := List.length_pos_iff.mpr nonempty
      rw [List.mem_reverse, List.mem_range, ← free, List.length_append]
      omega
    · have size := List.length_pos_iff.mpr nonempty
      rw [Nat.sub_add_cancel size, List.drop_left, List.take_left, Option.isSome_map]
      exact ih

-- Each parameter goes up to the next separator, or to the end.
def Separated : List Token → Prop
  | [] => True
  | .char _ :: tokens => Separated tokens
  | .param _ :: tokens => tokens.head?.all (· = .char '/') ∧ Separated tokens

instance decidableSeparated : DecidablePred Separated
  | [] => .isTrue trivial
  | .char _ :: tokens => decidableSeparated tokens
  | .param _ :: tokens => @instDecidableAnd _ _ _ (decidableSeparated tokens)

theorem Fills.unique (separated : Separated tokens) (fills : Fills tokens values text)
    (others : Fills tokens values' text) : values = values' := by
  induction fills generalizing values' with
  | nil => cases others; rfl
  | char c _ ih =>
    cases others with
    | char _ rest => exact ih separated rest
  | @param tokens values text value name nonempty clean rest ih =>
    obtain ⟨next, separated⟩ := separated
    generalize whole : value ++ text = both at others
    cases others with
    | @param _ values' text' value' _ nonempty' clean' rest' =>
      have cut : value = value' ∧ text = text' := by
        cases tokens with
        | nil =>
          cases rest
          cases rest'
          simpa using whole
        | cons token tokens =>
          have slash : token = .char '/' := by simpa using next
          subst slash
          cases rest
          cases rest'
          obtain ⟨same, later⟩ := Text.first_separator_inj whole clean clean'
          exact ⟨same, congrArg _ later⟩
      obtain ⟨same, texts⟩ := cut
      subst same texts
      rw [ih separated rest']

theorem run_iff (separated : Separated tokens) : run tokens text = some values ↔ Fills tokens values text := by
  constructor
  · exact run_fills
  · intro fills
    obtain ⟨found, matched⟩ := Option.isSome_iff_exists.mp (fills_run fills)
    rw [matched, fills.unique separated (run_fills matched)]

theorem Fills.chars (fills : Fills tokens values text) (chars : List Char) :
    Fills (chars.map .char ++ tokens) values (chars ++ text) := by
  induction chars with
  | nil => exact fills
  | cons c chars ih => exact .char c ih

theorem Fills.length (fills : Fills tokens values text) : values.length = (paramNames tokens).length := by
  induction fills with
  | nil => rfl
  | char c _ ih => simpa [paramNames] using ih
  | param name _ _ _ ih => simpa [paramNames] using ih

theorem Fills.values_clean (fills : Fills tokens values text) :
    ∀ value ∈ values, ∀ c ∈ value, c ≠ '/' ∧ c ∈ text := by
  induction fills with
  | nil => nofun
  | char c _ ih =>
    intro value member d within
    exact ⟨(ih value member d within).1, .tail _ (ih value member d within).2⟩
  | @param tokens values text value name nonempty clean _ ih =>
    intro other member d within
    rcases List.mem_cons.mp member with own | later
    · subst own
      exact ⟨fun slash => clean (slash ▸ within), List.mem_append_left _ within⟩
    · exact ⟨(ih other later d within).1, List.mem_append_right _ (ih other later d within).2⟩

section Segments

def segments (tokens : List Token) : List (List Token) := tokens.splitOn (.char '/')

def literal : List Token → Option (List Char)
  | [] => some []
  | .char c :: tokens => (literal tokens).map (c :: ·)
  | .param _ :: _ => none

def differ (segment segment' : List Token) : Bool :=
  match literal segment, literal segment' with
  | some chars, some chars' => chars ≠ chars'
  | _, _ => false

/-- Two patterns that have not the same number of segments, or that have different literals in one place. -/
def disjoint (tokens tokens' : List Token) : Bool :=
  (segments tokens).length ≠ (segments tokens').length ||
    ((segments tokens).zip (segments tokens')).any fun pair => differ pair.1 pair.2

theorem Fills.literal {chars : List Char} (fills : Fills tokens values text)
    (plain : literal tokens = some chars) : text = chars := by
  induction fills generalizing chars with
  | nil => cases plain; rfl
  | char c _ ih =>
    obtain ⟨rest, found, same⟩ := Option.map_eq_some_iff.mp plain
    rw [← same, ih found]
  | param => cases plain

def Filled (segment : List Token) (piece : List Char) : Prop := ∃ values, Fills segment values piece

theorem splitOn_separator {α : Type} [DecidableEq α] (separator : α) (rest : List α) :
    (separator :: rest).splitOn separator = [] :: rest.splitOn separator := by
  simp [List.splitOn, List.splitOnP_cons_eq_if_modifyHead]

theorem splitOn_other {α : Type} [DecidableEq α] {separator c : α} (other : c ≠ separator)
    (rest : List α) :
    (c :: rest).splitOn separator = (rest.splitOn separator).modifyHead (c :: ·) := by
  simp [List.splitOn, List.splitOnP_cons_eq_if_modifyHead, other]

theorem splitOn_clean {α : Type} [DecidableEq α] {separator : α} {front : List α}
    (clean : separator ∉ front) (rest : List α) :
    (front ++ rest).splitOn separator = (rest.splitOn separator).modifyHead (front ++ ·) := by
  apply Text.splitOnP_clean
  intro c member
  simpa using fun same : c = separator => clean (same ▸ member)

theorem forall₂_modifyHead {α β : Type} {relation : α → β → Prop} {grow : α → α} {grow' : β → β}
    (kept : ∀ a b, relation a b → relation (grow a) (grow' b)) {as : List α} {bs : List β}
    (related : List.Forall₂ relation as bs) :
    List.Forall₂ relation (as.modifyHead grow) (bs.modifyHead grow') := by
  cases related with
  | nil => exact .nil
  | cons first later => exact .cons (kept _ _ first) later

theorem Fills.segments (fills : Fills tokens values text) :
    List.Forall₂ Filled (segments tokens) (text.splitOn '/') := by
  induction fills with
  | nil => exact .cons ⟨[], .nil⟩ .nil
  | @char tokens values text c rest ih =>
    by_cases separator : c = '/'
    · subst separator
      rw [PathPattern.segments, splitOn_separator, splitOn_separator]
      exact .cons ⟨[], .nil⟩ ih
    · have other : Token.char c ≠ .char '/' := by simpa using separator
      rw [PathPattern.segments, splitOn_other other, splitOn_other separator]
      refine forall₂_modifyHead ?_ ih
      intro segment piece filled
      obtain ⟨values, filled⟩ := filled
      exact ⟨values, .char c filled⟩
  | @param tokens values text value name nonempty clean rest ih =>
    have other : Token.param name ≠ .char '/' := nofun
    rw [PathPattern.segments, splitOn_other other, splitOn_clean clean]
    refine forall₂_modifyHead ?_ ih
    intro segment piece filled
    obtain ⟨values, filled⟩ := filled
    exact ⟨value :: values, .param name nonempty clean filled⟩

theorem differ_filled {segment segment' : List Token} {piece : List Char}
    (different : differ segment segment' = true) (filled : Filled segment piece) :
    ¬ Filled segment' piece := by
  intro filled'
  obtain ⟨_, fills⟩ := filled
  obtain ⟨_, fills'⟩ := filled'
  unfold differ at different
  split at different
  · next chars chars' plain plain' =>
    have same := (fills.literal plain).symm.trans (fills'.literal plain')
    simp [same] at different
  · cases different

theorem disjoint_fills (apart : disjoint tokens tokens' = true) (fills : Fills tokens values text) :
    ¬ Fills tokens' values' text := by
  intro others
  have first := fills.segments
  have second := others.segments
  have sizes : (segments tokens).length = (segments tokens').length :=
    first.length_eq.trans second.length_eq.symm
  simp only [disjoint, sizes, ne_eq, not_true_eq_false, decide_false, Bool.false_or,
    List.any_eq_true] at apart
  obtain ⟨pair, member, different⟩ := apart
  clear fills others sizes
  generalize segments tokens = left at *
  generalize segments tokens' = right at *
  generalize text.splitOn '/' = pieces at *
  induction first generalizing right with
  | nil => cases member
  | cons filled later ih =>
    cases second with
    | cons filled' later' =>
      rcases List.mem_cons.mp member with here | there
      · rw [here] at different
        exact differ_filled different filled filled'
      · exact ih _ there later'

end Segments

end Shared.PathPattern
