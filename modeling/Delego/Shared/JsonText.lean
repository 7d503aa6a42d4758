import Delego.Shared.Number

set_option autoImplicit false

namespace Shared.JsonText

/-- Texts within JSON are held as the UTF-16 units that they have in memory. -/
abbrev Units := List Nat

inductive Value where
  | null
  | bool (value : Bool)
  | number (value : Number)
  | string (units : Units)
  | array (items : List Value)
  | object (members : List (Units × Value))

section Lexing

def units (c : Char) : Units :=
  if c.toNat < 0x10000 then [c.toNat]
  else [0xD800 + (c.toNat - 0x10000) / 0x400, 0xDC00 + (c.toNat - 0x10000) % 0x400]

def isSpace (c : Char) : Bool := c = ' ' || c = '\t' || c = '\n' || c = '\r'

def skip (text : List Char) : List Char := text.dropWhile isSpace

def escaped : Char → Option Units
  | '"' => some [0x22]
  | '\\' => some [0x5C]
  | '/' => some [0x2F]
  | 'b' => some [0x08]
  | 'f' => some [0x0C]
  | 'n' => some [0x0A]
  | 'r' => some [0x0D]
  | 't' => some [0x09]
  | _ => none

def hexUnit (digits : List Char) : Option Units :=
  (Number.natural 16 digits).map fun unit => [unit]

def joined (front : Option Units) (later : Option (Units × List Char)) : Option (Units × List Char) :=
  match front, later with
  | some front, some (units, rest) => some (front ++ units, rest)
  | _, _ => none

def characters : List Char → Option (Units × List Char)
  | [] => none
  | c :: rest =>
    if c = '"' then some ([], rest)
    else if c = '\\' then
      match rest with
      | [] => none
      | letter :: rest =>
        if letter = 'u' then
          match rest with
          | first :: second :: third :: fourth :: rest =>
            joined (hexUnit [first, second, third, fourth]) (characters rest)
          | _ => none
        else joined (escaped letter) (characters rest)
    else if c.toNat < 0x20 then none
    else joined (some (units c)) (characters rest)

def literal (word : List Char) (value : Value) (text : List Char) : Option (Value × List Char) :=
  if word.isPrefixOf text then some (value, text.drop word.length) else none

def isDigits (chars : List Char) : Bool := ! chars.isEmpty && chars.all Char.isDigit

def isNumeral (c : Char) : Bool := c.isDigit || c = '-' || c = '+' || c = '.' || c = 'e' || c = 'E'

def unsigned : List Char → List Char
  | '+' :: chars | '-' :: chars => chars
  | chars => chars

def unminus : List Char → List Char
  | '-' :: chars => chars
  | chars => chars

def isWhole : List Char → Bool
  | ['0'] => true
  | '0' :: _ => false
  | chars => isDigits chars

-- The numerals of JSON: no sign but a minus, no zeros in front, and digits about the point.
def isNumber (chars : List Char) : Bool :=
  let (mantissa, exponent) := Number.cut (fun c => c = 'e' || c = 'E') (unminus chars)
  let (whole, fraction) := Number.cut (fun c => c = '.') mantissa
  isWhole whole && fraction.all isDigits && exponent.all fun exponent => isDigits (unsigned exponent)

def number (text : List Char) : Option (Value × List Char) :=
  let lexeme := text.takeWhile isNumeral
  if isNumber lexeme then some (.number (Number.ofText (String.ofList lexeme)), text.dropWhile isNumeral)
  else none

end Lexing

section Parsing

variable {α : Type}

def separated (item : List Char → Option (α × List Char)) (close : Char) :
    Nat → List Char → Option (List α × List Char)
  | 0, _ => none
  | fuel + 1, text =>
    match item text with
    | none => none
    | some (first, rest) =>
      match skip rest with
      | [] => none
      | c :: rest =>
        if c = close then some ([first], rest)
        else if c = ',' then
          match separated item close fuel rest with
          | some (later, rest) => some (first :: later, rest)
          | none => none
        else none

def enclosed (item : List Char → Option (α × List Char)) (close : Char) (fuel : Nat) (text : List Char) :
    Option (List α × List Char) :=
  match skip text with
  | [] => none
  | c :: rest => if c = close then some ([], rest) else separated item close fuel text

def member (value : List Char → Option (Value × List Char)) (text : List Char) :
    Option ((Units × Value) × List Char) :=
  match skip text with
  | '"' :: rest =>
    match characters rest with
    | none => none
    | some (name, rest) =>
      match skip rest with
      | ':' :: rest =>
        match value rest with
        | some (value, rest) => some ((name, value), rest)
        | none => none
      | _ => none
  | _ => none

/-- What an object is made of, from its members as they are written. -/
abbrev Build := List (Units × Value) → Option (List (Units × Value))

def valueFrom (build : Build) (value : List Char → Option (Value × List Char)) (fuel : Nat) :
    List Char → Option (Value × List Char)
  | [] => none
  | c :: rest =>
    if c = '"' then
      match characters rest with
      | some (units, rest) => some (.string units, rest)
      | none => none
    else if c = '[' then
      match enclosed value ']' fuel rest with
      | some (items, rest) => some (.array items, rest)
      | none => none
    else if c = '{' then
      match enclosed (member value) '}' fuel rest with
      | some (members, rest) =>
        match build members with
        | some members => some (.object members, rest)
        | none => none
      | none => none
    else if c = 't' then literal "rue".toList (.bool true) rest
    else if c = 'f' then literal "alse".toList (.bool false) rest
    else if c = 'n' then literal "ull".toList .null rest
    else number (c :: rest)

def value (build : Build) : Nat → List Char → Option (Value × List Char)
  | 0, _ => none
  | fuel + 1, text => valueFrom build (value build fuel) fuel (skip text)

def parseWith (build : Build) (text : List Char) : Option Value :=
  match value build (text.length + 1) text with
  | some (parsed, rest) => if skip rest = [] then some parsed else none
  | none => none

def setMember (members : List (Units × Value)) (name : Units) (value : Value) : List (Units × Value) :=
  if members.any fun member => member.1 = name then
    members.map fun member => if member.1 = name then (name, value) else member
  else members ++ [(name, value)]

-- A member that is written again takes its new value in its old place.
def assign (members : List (Units × Value)) : List (Units × Value) :=
  members.foldl (fun members member => setMember members member.1 member.2) []

/-- `JSON.parse`; there is no value where it throws. -/
def parse (text : List Char) : Option Value := parseWith (fun members => some (assign members)) text

-- Objects with no name twice, and nothing else.
def strict : Build := fun members => if (members.map Prod.fst).Nodup then some members else none

/-- No object of the text names a member twice. -/
def Unrepeated (text : List Char) : Prop := (parseWith strict text).isSome = true

instance (text : List Char) : Decidable (Unrepeated text) := inferInstanceAs (Decidable (_ = true))

end Parsing

example : (parse "\x7b \"a\" : [1, true], \"a\":null \x7d".toList).isSome = true := by decide +kernel

section Fuel

variable {α : Type} {text rest : List Char}

-- Something is taken off the text by what is read.
def Shrinks (read : List Char → Option (α × List Char)) : Prop :=
  ∀ {text : List Char} {result : α} {rest : List Char}, read text = some (result, rest) → rest.length < text.length

theorem skip_length (text : List Char) : (skip text).length ≤ text.length :=
  (List.dropWhile_suffix isSpace).length_le

theorem skip_cons {c : Char} (next : skip text = c :: rest) : rest.length < text.length := by
  have shorter := skip_length text
  rw [next, List.length_cons] at shorter
  exact shorter

theorem joined_eq_some {front : Option Units} {later : Option (Units × List Char)} {result : Units}
    {rest : List Char} (read : joined front later = some (result, rest)) :
    ∃ units after, front = some units ∧ later = some (after, rest) ∧ result = units ++ after := by
  unfold joined at read
  split at read
  · cases read
    exact ⟨_, _, rfl, rfl, rfl⟩
  · cases read

theorem characters_shrinks : Shrinks characters := by
  intro text result rest read
  fun_induction characters text generalizing result with
  | case1 | case3 | case5 | case7 => cases read
  | case2 later =>
    cases read
    exact Nat.lt_succ_self _
  | case4 first second third fourth later plain ih =>
    obtain ⟨_, _, _, laterRead, _⟩ := joined_eq_some read
    have shorter := ih laterRead
    simp only [List.length_cons]
    omega
  | case6 letter later other plain ih =>
    obtain ⟨_, _, _, laterRead, _⟩ := joined_eq_some read
    have shorter := ih laterRead
    simp only [List.length_cons]
    omega
  | case8 c later unquoted plain visible ih =>
    obtain ⟨_, _, _, laterRead, _⟩ := joined_eq_some read
    exact (ih laterRead).trans (Nat.lt_succ_self _)

theorem literal_length {word : List Char} {value result : Value}
    (read : literal word value text = some (result, rest)) :
    rest.length ≤ text.length := by
  unfold literal at read
  split at read
  · cases read
    rw [List.length_drop]
    exact Nat.sub_le _ _
  · cases read

theorem number_starts {c : Char} {found : Value × List Char} (read : number (c :: text) = some found) :
    isNumeral c = true := by
  by_contra other
  rw [Bool.not_eq_true] at other
  have empty : isNumber [] = false := by decide
  simp [number, other, empty] at read

theorem number_length {c : Char} {result : Value} (read : number (c :: text) = some (result, rest)) :
    rest.length < (c :: text).length := by
  have numeral := number_starts read
  by_cases valid : isNumber ((c :: text).takeWhile isNumeral) = true
  · simp only [number, valid, if_true, Option.some.injEq, Prod.mk.injEq] at read
    rw [← read.2, List.dropWhile_cons, if_pos numeral]
    exact Nat.lt_succ_of_le (List.dropWhile_suffix isNumeral).length_le
  · simp [number, valid] at read

theorem separated_shrinks {item : List Char → Option (α × List Char)} {close : Char} {fuel : Nat}
    (shrinks : Shrinks item) : Shrinks (separated item close fuel) := by
  intro text items rest read
  induction fuel generalizing text items with
  | zero => cases read
  | succ fuel ih =>
    rw [separated] at read
    split at read
    · cases read
    · rename_i first after firstRead
      have shorter := shrinks firstRead
      split at read
      · cases read
      · rename_i c later next
        have shorter' := skip_cons next
        split at read
        · cases read
          omega
        · split at read
          · split at read
            · rename_i laterRead
              cases read
              have last := ih laterRead
              omega
            · cases read
          · cases read

theorem enclosed_shrinks {item : List Char → Option (α × List Char)} {close : Char} {fuel : Nat}
    (shrinks : Shrinks item) : Shrinks (enclosed item close fuel) := by
  intro text items rest read
  unfold enclosed at read
  split at read
  · cases read
  · rename_i c later next
    split at read
    · cases read
      exact skip_cons next
    · exact separated_shrinks shrinks read

theorem member_shrinks {value : List Char → Option (Value × List Char)} (shrinks : Shrinks value) :
    Shrinks (member value) := by
  intro text result rest read
  unfold member at read
  split at read
  · rename_i quoted next
    split at read
    · cases read
    · rename_i name named nameRead
      split at read
      · rename_i after colon
        split at read
        · rename_i valueRead
          cases read
          have first := skip_cons next
          have second := characters_shrinks nameRead
          have third := skip_cons colon
          have fourth := shrinks valueRead
          omega
        · cases read
      · cases read
  · cases read

theorem valueFrom_shrinks {build : Build} {value : List Char → Option (Value × List Char)} {fuel : Nat}
    (shrinks : Shrinks value) : Shrinks (valueFrom build value fuel) := by
  intro text result rest read
  revert read
  fun_cases valueFrom build value fuel text with
  | case1 | case3 | case5 | case7 | case8 =>
    intro read
    cases read
  | case2 later units after unitsRead =>
    intro read
    cases read
    exact (characters_shrinks unitsRead).trans (Nat.lt_succ_self _)
  | case4 later items after itemsRead =>
    intro read
    cases read
    exact (enclosed_shrinks shrinks itemsRead).trans (Nat.lt_succ_self _)
  | case6 later members after membersRead =>
    intro read
    cases read
    exact (enclosed_shrinks (member_shrinks shrinks) membersRead).trans (Nat.lt_succ_self _)
  | case9 | case10 | case11 =>
    intro read
    exact Nat.lt_succ_of_le (literal_length read)
  | case12 =>
    intro read
    exact number_length read

theorem value_shrinks {build : Build} {fuel : Nat} : Shrinks (value build fuel) := by
  induction fuel with
  | zero =>
    intro text result rest read
    cases read
  | succ fuel ih =>
    intro text result rest read
    exact (valueFrom_shrinks ih read).trans_le (skip_length text)

theorem separated_enough {item item' : List Char → Option (α × List Char)} {close : Char}
    {bound fuel fuel' : Nat} (shrinks : Shrinks item)
    (same : ∀ text : List Char, text.length ≤ bound → item text = item' text)
    (within : text.length ≤ bound) (enough : text.length < fuel) (enough' : text.length < fuel') :
    separated item close fuel text = separated item' close fuel' text := by
  induction fuel generalizing fuel' text with
  | zero => omega
  | succ fuel ih =>
    obtain ⟨fuel', rfl⟩ : ∃ more, fuel' = more + 1 := ⟨fuel' - 1, by omega⟩
    rw [separated, separated, ← same text within]
    cases firstRead : item text with
    | none => rfl
    | some first =>
      have shorter := shrinks firstRead
      dsimp only
      split
      · rfl
      · rename_i c later next
        have shorter' := skip_cons next
        have rest := @ih later fuel' (by omega) (by omega) (by omega)
        rw [rest]

theorem enclosed_enough {item item' : List Char → Option (α × List Char)} {close : Char}
    {bound fuel fuel' : Nat} (shrinks : Shrinks item)
    (same : ∀ text : List Char, text.length ≤ bound → item text = item' text)
    (within : text.length ≤ bound) (enough : text.length < fuel) (enough' : text.length < fuel') :
    enclosed item close fuel text = enclosed item' close fuel' text := by
  rw [enclosed, enclosed, separated_enough shrinks same within enough enough']

theorem member_enough {value value' : List Char → Option (Value × List Char)} {bound : Nat}
    (same : ∀ text : List Char, text.length ≤ bound → value text = value' text)
    (within : text.length ≤ bound) :
    member value text = member value' text := by
  unfold member
  split
  · rename_i quoted next
    split
    · rfl
    · rename_i name named nameRead
      split
      · rename_i after colon
        have first := skip_cons next
        have second := characters_shrinks nameRead
        have third := skip_cons colon
        rw [same after (by omega)]
      · rfl
  · rfl

theorem value_enough {build : Build} {fuel fuel' : Nat} (enough : text.length < fuel)
    (enough' : text.length < fuel') :
    value build fuel text = value build fuel' text := by
  induction fuel generalizing fuel' text with
  | zero => omega
  | succ fuel ih =>
    obtain ⟨fuel', rfl⟩ : ∃ more, fuel' = more + 1 := ⟨fuel' - 1, by omega⟩
    rw [value, value]
    cases next : skip text with
    | nil => rfl
    | cons c rest =>
      have shorter := skip_cons next
      have same : ∀ text : List Char, text.length ≤ rest.length →
          value build fuel text = value build fuel' text := by
        intro text within
        exact ih (by omega) (by omega)
      have items : enclosed (value build fuel) ']' fuel rest = enclosed (value build fuel') ']' fuel' rest :=
        enclosed_enough value_shrinks same le_rfl (by omega) (by omega)
      have members : enclosed (member (value build fuel)) '}' fuel rest =
          enclosed (member (value build fuel')) '}' fuel' rest :=
        enclosed_enough (member_shrinks value_shrinks) (fun text within => member_enough same within) le_rfl
          (by omega) (by omega)
      rw [valueFrom, valueFrom, items, members]

end Fuel

section Members

theorem setMember_new {members : List (Units × Value)} {name : Units} (value : Value)
    (new : name ∉ members.map Prod.fst) : setMember members name value = members ++ [(name, value)] := by
  have none : (members.any fun member => member.1 = name) = false := by
    rw [List.any_eq_false]
    intro member held same
    rw [decide_eq_true_eq] at same
    exact new (same ▸ List.mem_map_of_mem held)
  rw [setMember, none, if_neg (by decide)]

theorem setMember_old {members : List (Units × Value)} {name : Units} (value : Value)
    (old : name ∈ members.map Prod.fst) : (setMember members name value).length = members.length := by
  obtain ⟨member, held, same⟩ := List.mem_map.mp old
  have some : (members.any fun member => member.1 = name) = true :=
    List.any_eq_true.mpr ⟨member, held, by simpa using same⟩
  rw [setMember, some, if_pos rfl, List.length_map]

theorem assign_from (members : List (Units × Value)) : ∀ front : List (Units × Value),
    (members.foldl (fun members member => setMember members member.1 member.2) front).length ≤
        front.length + members.length ∧
      ((members.foldl (fun members member => setMember members member.1 member.2) front).length =
          front.length + members.length →
        members.foldl (fun members member => setMember members member.1 member.2) front = front ++ members) ∧
      (((front ++ members).map Prod.fst).Nodup →
        members.foldl (fun members member => setMember members member.1 member.2) front = front ++ members) := by
  induction members with
  | nil =>
    intro front
    simp
  | cons member members ih =>
    intro front
    obtain ⟨name, value⟩ := member
    rw [List.foldl_cons]
    dsimp only
    by_cases old : name ∈ front.map Prod.fst
    · obtain ⟨few, _, _⟩ := ih (setMember front name value)
      rw [setMember_old value old] at few
      refine ⟨?_, ?_, ?_⟩
      · rw [List.length_cons]
        omega
      · intro all
        rw [List.length_cons] at all
        omega
      · intro distinct
        rw [List.map_append, List.nodup_append] at distinct
        exact absurd rfl (distinct.2.2 name old name (by simp))
    · obtain ⟨few, all, distinct⟩ := ih (front ++ [(name, value)])
      rw [setMember_new value old]
      simp only [List.append_assoc, List.cons_append, List.nil_append, List.length_append, List.length_cons,
        List.length_nil] at few all distinct ⊢
      refine ⟨by omega, fun length => all (by omega), distinct⟩

theorem assign_distinct {members : List (Units × Value)} (distinct : (members.map Prod.fst).Nodup) :
    assign members = members := (assign_from members []).2.2 distinct

theorem assign_full {members : List (Units × Value)} (full : (assign members).length = members.length) :
    assign members = members := (assign_from members []).2.1 (by rw [List.length_nil, Nat.zero_add]; exact full)

end Members

end Shared.JsonText
