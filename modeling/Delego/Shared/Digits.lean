import Delego.Shared.Number

set_option autoImplicit false

namespace Shared.Text

def split (separator : Char) (text : String) : List String :=
  (text.toList.splitOn separator).map String.ofList

def slice (length : Nat) (text : String) : String := String.ofList (text.toList.take length)

def padEnd (length : Nat) (text : String) : String :=
  text ++ String.ofList (List.replicate (length - text.length) '0')

theorem split_single {separator : Char} {chars : List Char} (clean : separator ∉ chars) :
    split separator (String.ofList chars) = [String.ofList chars] := by
  rw [split, String.toList_ofList, List.splitOn_eq_singleton clean]
  rfl

theorem split_cons {separator : Char} {before after : List Char} (clean : separator ∉ before) :
    split separator (String.ofList (before ++ separator :: after)) =
      String.ofList before :: split separator (String.ofList after) := by
  simp only [split, String.toList_ofList, List.splitOn_append_cons_self_of_not_mem clean, List.map_cons]

end Shared.Text

namespace Shared.Number

open Text

abbrev Digits (chars : List Char) : Prop := ∀ c ∈ chars, c.isDigit = true

theorem Digits.append {chars more : List Char} (digits : Digits chars) (others : Digits more) :
    Digits (chars ++ more) := by
  intro c member
  rcases List.mem_append.mp member with early | late
  · exact digits c early
  · exact others c late

theorem Digits.take {chars : List Char} (digits : Digits chars) (width : Nat) : Digits (chars.take width) :=
  fun c member => digits c (List.mem_of_mem_take member)

theorem digits_zeros (count : Nat) : Digits (List.replicate count '0') := by
  intro c member
  rw [List.eq_of_mem_replicate member]
  rfl

section Values

variable {chars : List Char}

theorem ofDigitChars_append_value (chars more : List Char) :
    Nat.ofDigitChars 10 (chars ++ more) 0 =
      10 ^ more.length * Nat.ofDigitChars 10 chars 0 + Nat.ofDigitChars 10 more 0 := by
  rw [Nat.ofDigitChars_append, Nat.ofDigitChars_eq_ofDigitChars_zero]

theorem ofDigitChars_lt (digits : Digits chars) : Nat.ofDigitChars 10 chars 0 < 10 ^ chars.length := by
  induction chars with
  | nil => simp
  | cons c rest ih =>
    have small := isDigit_bounds (digits c List.mem_cons_self)
    have below := ih fun c member => digits c (List.mem_cons_of_mem _ member)
    rw [← List.singleton_append, ofDigitChars_append_value]
    have head : Nat.ofDigitChars 10 [c] 0 ≤ 9 := by
      simp only [Nat.ofDigitChars_cons, Nat.ofDigitChars_nil]
      change 10 * 0 + (c.toNat - 48) ≤ 9
      omega
    simp only [List.singleton_append, List.length_cons, pow_succ]
    nlinarith

theorem ofDigitChars_take (digits : Digits chars) (width : Nat) :
    Nat.ofDigitChars 10 (chars.take width) 0 =
      Nat.ofDigitChars 10 chars 0 / 10 ^ (chars.length - width) := by
  have below := ofDigitChars_lt fun c member => digits c (List.mem_of_mem_drop (i := width) member)
  have whole := ofDigitChars_append_value (chars.take width) (chars.drop width)
  rw [List.take_append_drop] at whole
  rw [List.length_drop] at below whole
  rw [whole, Nat.mul_add_div (by positivity), Nat.div_eq_of_lt below, Nat.add_zero]

theorem ofDigitChars_padded (digits : Digits chars) (width : Nat) :
    Nat.ofDigitChars 10 ((chars ++ List.replicate width '0').take width) 0 =
      Nat.ofDigitChars 10 chars 0 * 10 ^ width / 10 ^ chars.length := by
  rw [ofDigitChars_take (digits.append (digits_zeros width)), ofDigitChars_append_value,
    Nat.ofDigitChars_replicate_zero]
  simp [Nat.mul_comm]

theorem ofDigitChars_eq_zero (digits : Digits chars) :
    Nat.ofDigitChars 10 chars 0 = 0 ↔ ∀ c ∈ chars, c = '0' := by
  induction chars with
  | nil => simp
  | cons c rest ih =>
    have bounds := isDigit_bounds (digits c List.mem_cons_self)
    have head : Nat.ofDigitChars 10 [c] 0 = c.toNat - 48 := by
      simp only [Nat.ofDigitChars_cons, Nat.ofDigitChars_nil, Nat.mul_zero, Nat.zero_add]
      rfl
    have zero : c.toNat - 48 = 0 ↔ c = '0' := by
      rw [← Char.toNat_inj]
      change _ ↔ c.toNat = 48
      omega
    rw [← List.singleton_append, ofDigitChars_append_value, head, Nat.add_eq_zero_iff,
      ih fun c member => digits c (List.mem_cons_of_mem _ member)]
    simp [zero]

theorem digitChar_value {c : Char} (digit : c.isDigit = true) : Nat.digitChar (c.toNat - 48) = c := by
  have bounds := isDigit_bounds digit
  rw [← Char.toNat_inj, Nat.toNat_digitChar_of_lt_ten (by omega)]
  omega

theorem dropWhile_zeros (digits : Digits chars) :
    chars.dropWhile (fun c => c = '0') =
      if Nat.ofDigitChars 10 chars 0 = 0 then [] else Nat.toDigits 10 (Nat.ofDigitChars 10 chars 0) := by
  induction chars using List.reverseRecOn with
  | nil => simp
  | append_singleton front c ih =>
    have front_digits : Digits front := fun c member => digits c (List.mem_append_left _ member)
    have digit := digits c (List.mem_append_right _ (List.mem_singleton_self c))
    have bounds := isDigit_bounds digit
    have small : c.toNat - 48 < 10 := by omega
    have last : Nat.toDigits 10 (c.toNat - 48) = [c] := by
      rw [Nat.toDigits_of_lt_base small, digitChar_value digit]
    have value : Nat.ofDigitChars 10 (front ++ [c]) 0 =
        10 * Nat.ofDigitChars 10 front 0 + (c.toNat - 48) := by
      rw [Nat.ofDigitChars_append, Nat.ofDigitChars_cons]
      rfl
    rw [List.dropWhile_append, ih front_digits, value]
    by_cases zero : Nat.ofDigitChars 10 front 0 = 0
    · rw [zero, if_pos rfl, List.isEmpty_nil, if_pos rfl, Nat.mul_zero, Nat.zero_add, last]
      by_cases ends : c = '0'
      · cases ends
        rfl
      · have positive : c.toNat - 48 ≠ 0 := by
          intro none
          exact ends (Char.toNat_inj.mp (show c.toNat = 48 by omega))
        simp [ends, positive]
    · have nonempty : (Nat.toDigits 10 (Nat.ofDigitChars 10 front 0)).isEmpty = false := by
        rw [List.isEmpty_eq_false_iff]
        exact Nat.toDigits_ne_nil
      rw [if_neg zero, nonempty, if_neg Bool.false_ne_true, if_neg (by omega), ← last,
        Nat.toDigits_append_toDigits (by decide) (by omega) small]

end Values

section Literals

theorem digit_isSome {base : Nat} {c : Char} : (digit base c).isSome = true ↔
    ∃ value < base, hexValue c = some value := by
  simp only [digit, Option.isSome_iff_exists, Option.filter_eq_some_iff, decide_eq_true_eq]
  exact exists_congr fun value => and_comm

theorem digit_ten {c : Char} : (digit 10 c).isSome = true ↔ c.isDigit = true := by
  constructor
  · intro read
    obtain ⟨value, small, shown⟩ := digit_isSome.mp read
    unfold hexValue at shown
    split at shown
    · next within => simpa [Char.isDigit, Char.le_def] using within
    · split at shown
      · next within =>
        cases shown
        have more : 97 ≤ c.toNat := within.1
        omega
      · split at shown
        · next within =>
          cases shown
          have more : 65 ≤ c.toNat := within.1
          omega
        · cases shown
  · intro digit
    rw [digit_isDigit digit]
    rfl

theorem natural_isSome {base : Nat} {chars : List Char} : (natural base chars).isSome = true ↔
    chars ≠ [] ∧ ∀ c ∈ chars, (digit base c).isSome = true := by
  have folded (start : Nat) : (chars.foldlM (fun value c => (digit base c).map fun d => base * value + d)
      start).isSome = true ↔ ∀ c ∈ chars, (digit base c).isSome = true := by
    induction chars generalizing start with
    | nil => simp
    | cons c rest ih =>
      rw [List.foldlM_cons, List.forall_mem_cons]
      cases digit base c with
      | none => simp
      | some value => simpa using ih (base * start + value)
  cases chars with
  | nil => simp [natural]
  | cons c rest => simpa [natural] using folded 0

inductive IntegerLiteral : List Char → Prop where
  | empty : IntegerLiteral []
  | decimal {digits : List Char} : digits ≠ [] → Digits digits → IntegerLiteral digits
  | signed {sign : Char} {digits : List Char} : sign = '-' ∨ sign = '+' → digits ≠ [] → Digits digits →
      IntegerLiteral (sign :: digits)
  | based {base : Nat} {mark : Char} {digits : List Char} :
      (base, mark) ∈ [(16, 'x'), (16, 'X'), (8, 'o'), (8, 'O'), (2, 'b'), (2, 'B')] → digits ≠ [] →
      (∀ c ∈ digits, (digit base c).isSome = true) → IntegerLiteral ('0' :: mark :: digits)

theorem natural_ten {chars : List Char} : (natural 10 chars).isSome = true ↔ chars ≠ [] ∧ Digits chars := by
  simp only [natural_isSome, digit_ten]

theorem signed_isSome {chars : List Char} : (signed chars).isSome = true ↔
    (∃ sign digits, chars = sign :: digits ∧ (sign = '-' ∨ sign = '+') ∧ digits ≠ [] ∧ Digits digits) ∨
      chars ≠ [] ∧ Digits chars := by
  have marked {sign : Char} {digits : List Char} (isSign : sign = '-' ∨ sign = '+') :
      (natural 10 digits).isSome = true ↔ (∃ sign' digits', sign :: digits = sign' :: digits' ∧
        (sign' = '-' ∨ sign' = '+') ∧ digits' ≠ [] ∧ Digits digits') ∨
        sign :: digits ≠ [] ∧ Digits (sign :: digits) := by
    rw [natural_ten]
    constructor
    · intro read
      exact .inl ⟨sign, digits, rfl, isSign, read⟩
    · rintro (⟨sign', digits', same, _, read⟩ | ⟨_, all⟩)
      · cases same
        exact read
      · rcases isSign with rfl | rfl
        · cases all '-' List.mem_cons_self
        · cases all '+' List.mem_cons_self
  unfold signed
  split
  · next digits =>
    rw [← marked (.inl rfl)]
    cases natural 10 digits <;> rfl
  · next digits =>
    rw [← marked (.inr rfl), Option.isSome_map]
  · next chars plus minus =>
    rw [Option.isSome_map, natural_ten]
    refine ⟨.inr, ?_⟩
    rintro (⟨sign, digits, rfl, rfl | rfl, _⟩ | read)
    · exact absurd rfl (plus digits)
    · exact absurd rfl (minus digits)
    · exact read

theorem bigInt_isSome {text : String} : (bigInt text).isSome = true ↔ IntegerLiteral (trim text).toList := by
  -- No sign and no digit stands where a prefix has its mark.
  have prefixed {base : Nat} {mark : Char} {digits : List Char}
      (known : (base, mark) ∈ [(16, 'x'), (16, 'X'), (8, 'o'), (8, 'O'), (2, 'b'), (2, 'B')])
      (letter : mark.isDigit = false)
      (only : ∀ base', (base', mark) ∈ [(16, 'x'), (16, 'X'), (8, 'o'), (8, 'O'), (2, 'b'), (2, 'B')] →
        base' = base) :
      ((natural base digits).map Int.ofNat).isSome = true ↔ IntegerLiteral ('0' :: mark :: digits) := by
    rw [Option.isSome_map, natural_isSome]
    refine ⟨fun ⟨nonempty, read⟩ => .based known nonempty read, ?_⟩
    generalize literal : '0' :: mark :: digits = chars
    rintro (_ | ⟨_, all⟩ | ⟨isSign, _, _⟩ | ⟨known', nonempty, read⟩)
    · cases literal
    · cases literal
      cases letter.symm.trans (all mark (by simp))
    · cases literal
      rcases isSign with isSign | isSign <;> cases isSign
    · cases literal
      cases only _ known'
      exact ⟨nonempty, read⟩
  unfold bigInt
  generalize (trim text).toList = chars
  split
  · exact ⟨fun _ => .empty, fun _ => rfl⟩
  · exact prefixed (by decide) rfl (by simp)
  · exact prefixed (by decide) rfl (by simp)
  · exact prefixed (by decide) rfl (by simp)
  · exact prefixed (by decide) rfl (by simp)
  · exact prefixed (by decide) rfl (by simp)
  · exact prefixed (by decide) rfl (by simp)
  · next some hex HEX octal OCTAL binary BINARY =>
    rw [signed_isSome]
    constructor
    · rintro (⟨sign, digits, rfl, isSign, nonempty, all⟩ | ⟨nonempty, all⟩)
      · exact .signed isSign nonempty all
      · exact .decimal nonempty all
    · rintro (_ | ⟨nonempty, all⟩ | ⟨isSign, nonempty, all⟩ | ⟨known, nonempty, read⟩)
      · exact absurd rfl some
      · exact .inr ⟨nonempty, all⟩
      · exact .inl ⟨_, _, rfl, isSign, nonempty, all⟩
      · simp only [List.mem_cons, Prod.mk.injEq, List.not_mem_nil, or_false] at known
        rcases known with ⟨_, rfl⟩ | ⟨_, rfl⟩ | ⟨_, rfl⟩ | ⟨_, rfl⟩ | ⟨_, rfl⟩ | ⟨_, rfl⟩
        · exact absurd rfl (hex _)
        · exact absurd rfl (HEX _)
        · exact absurd rfl (octal _)
        · exact absurd rfl (OCTAL _)
        · exact absurd rfl (binary _)
        · exact absurd rfl (BINARY _)

theorem IntegerLiteral.dashless {rest : List Char} (literal : IntegerLiteral ('0' :: rest)) : '-' ∉ rest := by
  intro member
  generalize whole : '0' :: rest = chars at literal
  cases literal with
  | empty => cases whole
  | decimal _ digits =>
    cases whole
    cases digits '-' (List.mem_cons_of_mem _ member)
  | signed isSign =>
    cases whole
    rcases isSign with isSign | isSign <;> cases isSign
  | @based base mark _ known _ read =>
    cases whole
    rcases List.mem_cons.mp member with rfl | later
    · simp at known
    · obtain ⟨value, _, shown⟩ := digit_isSome.mp (read '-' later)
      cases shown

end Literals

structure Decimal where
  whole : List Char
  fraction : Option (List Char)
  whole_digits : whole ≠ [] ∧ Digits whole
  fraction_digits : ∀ digits ∈ fraction, digits ≠ [] ∧ Digits digits

namespace Decimal

variable (decimal : Decimal)

def chars : List Char :=
  match decimal.fraction with
  | some digits => decimal.whole ++ '.' :: digits
  | none => decimal.whole

def places : List Char := decimal.fraction.getD []

def value : Rat :=
  Nat.ofDigitChars 10 decimal.whole 0 + Nat.ofDigitChars 10 decimal.places 0 / 10 ^ decimal.places.length

def rest (count : Nat) : Nat :=
  Nat.ofDigitChars 10 decimal.places 0 * 10 ^ count / 10 ^ decimal.places.length

def scaled (count : Nat) : Nat := Nat.ofDigitChars 10 decimal.whole 0 * 10 ^ count + decimal.rest count

theorem places_digits : Digits decimal.places := by
  unfold places
  cases fraction : decimal.fraction with
  | none => nofun
  | some digits => exact (decimal.fraction_digits digits fraction).2

theorem rest_lt (count : Nat) : decimal.rest count < 10 ^ count := by
  have below := ofDigitChars_lt decimal.places_digits
  rw [rest, Nat.div_lt_iff_lt_mul (by positivity), Nat.mul_comm (10 ^ count)]
  exact Nat.mul_lt_mul_of_pos_right below (by positivity)

theorem rest_eq_padded (count : Nat) : decimal.rest count =
    Nat.ofDigitChars 10 ((decimal.places ++ List.replicate count '0').take count) 0 :=
  (ofDigitChars_padded decimal.places_digits count).symm

theorem rest_eq_zero (count : Nat) : decimal.rest count = 0 ↔ ∀ c ∈ decimal.places.take count, c = '0' := by
  rw [rest_eq_padded, ofDigitChars_eq_zero ((decimal.places_digits.append (digits_zeros _)).take _),
    List.take_append, List.forall_mem_append, and_iff_left]
  intro c member
  exact List.eq_of_mem_replicate (List.mem_of_mem_take member)

theorem floor_value (count : Nat) : ⌊decimal.value * 10 ^ count⌋ = (decimal.scaled count : Int) := by
  have shifted : decimal.value * 10 ^ count =
      ((Nat.ofDigitChars 10 decimal.whole 0 * 10 ^ count : Nat) : Rat) +
        ((Nat.ofDigitChars 10 decimal.places 0 * 10 ^ count : Nat) : Rat) /
          ((10 ^ decimal.places.length : Nat) : Rat) := by
    rw [value]
    push_cast
    ring
  rw [shifted, Int.floor_natCast_add, Rat.floor_natCast_div_natCast]
  rfl

end Decimal

end Shared.Number
