import Delego.Shared.Text
import Mathlib.Data.Rat.Floor

set_option autoImplicit false

namespace Shared

open Text

/-- A number of the language; the sign of a zero is left out. -/
inductive Number where
  | nan
  | infinite (negative : Bool)
  | finite (value : Rat)
  deriving DecidableEq

namespace Number

def isInteger : Number → Bool
  | .finite value => value.den = 1
  | _ => false

def negative : Number → Bool
  | .nan => false
  | .infinite negative => negative
  | .finite value => value < 0

-- The exponent of a positive number, rounded down.
def binaryExponent (value : Rat) : Int :=
  let guess : Int := (Nat.log2 value.num.natAbs : Int) - Nat.log2 value.den
  if (2 : Rat) ^ guess ≤ value then guess else guess - 1

def roundHalfEven (value : Rat) : Int :=
  let down := ⌊value⌋
  let rest := value - down
  if rest < 1 / 2 then down
  else if 1 / 2 < rest then down + 1
  else if down % 2 = 0 then down else down + 1

/-- The nearest number that 53 binary digits can give, ties to the even one. -/
def nearest (value : Rat) : Number :=
  if value = 0 then .finite 0
  else
    let unit : Rat := 2 ^ max (-1074) (binaryExponent |value| - 52)
    let rounded := roundHalfEven (|value| / unit) * unit
    if (2 : Rat) ^ 1024 ≤ rounded then .infinite (value < 0)
    else .finite (if value < 0 then -rounded else rounded)

def digit (base : Nat) (c : Char) : Option Nat :=
  (hexValue c).filter fun value => value < base

-- At least one digit, and nothing else.
def natural (base : Nat) : List Char → Option Nat
  | [] => none
  | digits => digits.foldlM (fun value c => (digit base c).map fun d => base * value + d) 0

def signed (digits : List Char) : Option Int :=
  match digits with
  | '-' :: digits => (natural 10 digits).map fun value => -(value : Int)
  | '+' :: digits => (natural 10 digits).map Int.ofNat
  | digits => (natural 10 digits).map Int.ofNat

def cut (here : Char → Bool) (chars : List Char) : List Char × Option (List Char) :=
  match chars.dropWhile fun c => ! here c with
  | [] => (chars, none)
  | _ :: after => (chars.takeWhile fun c => ! here c, some after)

-- Digits, possibly a point among them, possibly an exponent.
def decimal (chars : List Char) : Option Rat := do
  let (mantissa, exponent) := cut (fun c => c = 'e' || c = 'E') chars
  let (whole, fraction) := cut (fun c => c = '.') mantissa
  let fraction := fraction.getD []
  let significand ← natural 10 (whole ++ fraction)
  let power ← match exponent with
    | none => some 0
    | some exponent => signed exponent
  some (significand * 10 ^ (power - fraction.length))

def unsigned (minus : Bool) (chars : List Char) : Number :=
  if chars = "Infinity".toList then .infinite minus
  else
    match decimal chars with
    | none => .nan
    | some value => nearest (if minus then -value else value)

def based (base : Nat) (chars : List Char) : Number :=
  match natural base chars with
  | none => .nan
  | some value => nearest value

/-- What the function `Number` makes of a string. -/
def ofText (text : String) : Number :=
  match (trim text).toList with
  | [] => .finite 0
  | '0' :: 'x' :: digits | '0' :: 'X' :: digits => based 16 digits
  | '0' :: 'o' :: digits | '0' :: 'O' :: digits => based 8 digits
  | '0' :: 'b' :: digits | '0' :: 'B' :: digits => based 2 digits
  | '-' :: rest => unsigned true rest
  | '+' :: rest => unsigned false rest
  | rest => unsigned false rest

/-- What the function `BigInt` makes of a string; it throws where there is no integer. -/
def bigInt (text : String) : Option Int :=
  match (trim text).toList with
  | [] => some 0
  | '0' :: 'x' :: digits | '0' :: 'X' :: digits => (natural 16 digits).map Int.ofNat
  | '0' :: 'o' :: digits | '0' :: 'O' :: digits => (natural 8 digits).map Int.ofNat
  | '0' :: 'b' :: digits | '0' :: 'B' :: digits => (natural 2 digits).map Int.ofNat
  | digits => signed digits

theorem isDigit_bounds {c : Char} (isDigit : c.isDigit = true) : 48 ≤ c.toNat ∧ c.toNat ≤ 57 := by
  simpa [Char.isDigit, UInt32.le_iff_toNat_le] using isDigit

theorem digit_isDigit {c : Char} (isDigit : c.isDigit = true) : digit 10 c = some (c.toNat - 48) := by
  have bounds : '0' ≤ c ∧ c ≤ '9' := by
    simpa [Char.isDigit, Char.le_def] using isDigit
  have small := isDigit_bounds isDigit
  have less : c.toNat - 48 < 10 := by omega
  rw [digit, hexValue, if_pos bounds, Option.filter_some, if_pos (decide_eq_true less)]

theorem isSpace_isDigit {c : Char} (isDigit : c.isDigit = true) : isSpace c = false := by
  have bounds := isDigit_bounds isDigit
  simp [isSpace]
  omega

theorem isDigit_toDigits (number : Nat) : ∀ c ∈ Nat.toDigits 10 number, c.isDigit = true :=
  fun _ member => Nat.isDigit_of_mem_toDigits (by decide) (by decide) member

theorem natural_digits {chars : List Char} (digits : ∀ c ∈ chars, c.isDigit = true)
    (nonempty : chars ≠ []) : natural 10 chars = some (Nat.ofDigitChars 10 chars 0) := by
  have folded (value : Nat) : chars.foldlM (fun value c => (digit 10 c).map fun d => 10 * value + d)
      value = some (Nat.ofDigitChars 10 chars value) := by
    clear nonempty
    induction chars generalizing value with
    | nil => rfl
    | cons c rest ih =>
      rw [List.foldlM_cons, digit_isDigit (digits c List.mem_cons_self)]
      exact ih (fun c member => digits c (List.mem_cons_of_mem _ member)) _
  cases chars with
  | nil => exact absurd rfl nonempty
  | cons c rest => exact folded 0

theorem signed_digits {chars : List Char} (digits : ∀ c ∈ chars, c.isDigit = true)
    (nonempty : chars ≠ []) : signed chars = some (Nat.ofDigitChars 10 chars 0 : Int) := by
  have plain := natural_digits digits nonempty
  unfold signed
  split
  · cases digits _ List.mem_cons_self
  · cases digits _ List.mem_cons_self
  · rw [plain]
    rfl

theorem bigInt_signed {text : String} {chars : List Char} {value : Int}
    (whole : (trim text).toList = chars) (unmarked : ∀ c ∈ chars, c ≠ 'x' ∧ c ≠ 'X' ∧ c ≠ 'o' ∧
      c ≠ 'O' ∧ c ≠ 'b' ∧ c ≠ 'B') (plain : signed chars = some value) :
    bigInt text = some value := by
  unfold bigInt
  rw [whole]
  split
  · cases plain
  all_goals first
    | exact plain
    | simp at unmarked

theorem isDigit_unmarked {c : Char} (isDigit : c.isDigit = true) : c ≠ 'x' ∧ c ≠ 'X' ∧ c ≠ 'o' ∧
    c ≠ 'O' ∧ c ≠ 'b' ∧ c ≠ 'B' := by
  refine ⟨?_, ?_, ?_, ?_, ?_, ?_⟩ <;>
    · rintro rfl
      cases isDigit

section Digits

variable {chars : List Char}

theorem bigInt_digits (digits : ∀ c ∈ chars, c.isDigit = true) (nonempty : chars ≠ []) :
    bigInt (String.ofList chars) = some (Nat.ofDigitChars 10 chars 0 : Int) := by
  refine bigInt_signed ?_ (fun c member => isDigit_unmarked (digits c member))
    (signed_digits digits nonempty)
  rw [trim_ofList_of_clean fun c member => isSpace_isDigit (digits c member), String.toList_ofList]

theorem bigInt_negative (digits : ∀ c ∈ chars, c.isDigit = true) (nonempty : chars ≠ []) :
    bigInt (String.ofList ('-' :: chars)) = some (-(Nat.ofDigitChars 10 chars 0 : Int)) := by
  refine @bigInt_signed _ ('-' :: chars) _ ?_ ?_ ?_
  · rw [trim_ofList_of_clean, String.toList_ofList]
    rintro c (_ | ⟨_, member⟩)
    · rfl
    · exact isSpace_isDigit (digits c member)
  · rintro c (_ | ⟨_, member⟩)
    · decide
    · exact isDigit_unmarked (digits c member)
  · rw [signed, natural_digits digits nonempty]
    rfl

end Digits

theorem toString_negSucc (number : Nat) :
    toString (Int.negSucc number) = String.ofList ('-' :: Nat.toDigits 10 (number + 1)) := by
  rw [← String.toList_inj, String.toList_ofList]
  change ("-" ++ Nat.repr (number + 1)).toList = _
  rw [String.toList_append, Nat.toList_repr]
  rfl

theorem toString_natCast (number : Nat) :
    toString (number : Int) = String.ofList (Nat.toDigits 10 number) := Nat.repr_eq_ofList_toDigits

theorem bigInt_toString (value : Int) : bigInt (toString value) = some value := by
  cases value with
  | ofNat number =>
    have read := bigInt_digits (isDigit_toDigits number) Nat.toDigits_ne_nil
    rw [Nat.ofDigitChars_ten_toDigits, ← toString_natCast] at read
    exact read
  | negSucc number =>
    have read := bigInt_negative (isDigit_toDigits (number + 1)) Nat.toDigits_ne_nil
    rw [Nat.ofDigitChars_ten_toDigits, ← toString_negSucc] at read
    exact read

theorem toString_ne_empty (value : Int) : toString value ≠ "" := by
  intro empty
  cases value with
  | ofNat number => exact Nat.repr_ne_empty empty
  | negSucc number =>
    have chars := congrArg String.toList empty
    change ("-" ++ Nat.repr (number + 1)).toList = _ at chars
    simp [String.toList_append] at chars

-- The characters that numbers are written with are visible ones.
def Visible (c : Char) : Prop := 0x20 < c.toNat ∧ c.toNat < 0x7F

theorem hexValue_visible {c : Char} {value : Nat} (read : hexValue c = some value) : Visible c := by
  have range {low high : Char} (within : low ≤ c ∧ c ≤ high) (above : 0x20 < low.toNat)
      (below : high.toNat < 0x7F) : Visible c := by
    obtain ⟨more, less⟩ := within
    have more : low.toNat ≤ c.toNat := more
    have less : c.toNat ≤ high.toNat := less
    exact ⟨by omega, by omega⟩
  unfold hexValue at read
  split at read
  · next within => exact range within (by decide) (by decide)
  · split at read
    · next within => exact range within (by decide) (by decide)
    · split at read
      · next within => exact range within (by decide) (by decide)
      · cases read

theorem natural_visible {base value : Nat} {chars : List Char} (read : natural base chars = some value) :
    ∀ c ∈ chars, Visible c := by
  have folded (start : Nat) (folds : (chars.foldlM
      (fun value c => (digit base c).map fun d => base * value + d) start).isSome = true) :
      ∀ c ∈ chars, Visible c := by
    clear read
    induction chars generalizing start with
    | nil => nofun
    | cons c rest ih =>
      rw [List.foldlM_cons] at folds
      cases here : digit base c with
      | none => simp [here] at folds
      | some d =>
        rw [here] at folds
        obtain ⟨shown, _⟩ := Option.filter_eq_some_iff.mp here
        intro other member
        rcases List.mem_cons.mp member with rfl | later
        · exact hexValue_visible shown
        · exact ih _ folds other later
  cases chars with
  | nil => nofun
  | cons c rest =>
    refine folded 0 ?_
    rw [natural] at read
    · rw [read]
      rfl
    · nofun

theorem signed_visible {value : Int} {chars : List Char} (read : signed chars = some value) :
    ∀ c ∈ chars, Visible c := by
  have digitsOf {digits : List Char} (read : natural 10 digits ≠ none) : ∀ c ∈ digits, Visible c := by
    obtain ⟨number, shown⟩ := Option.ne_none_iff_exists'.mp read
    exact natural_visible shown
  have marked {sign : Char} {digits : List Char} (visible : Visible sign)
      (rest : ∀ c ∈ digits, Visible c) : ∀ c ∈ sign :: digits, Visible c :=
    List.forall_mem_cons.mpr ⟨visible, rest⟩
  unfold signed at read
  split at read
  · refine marked ⟨by decide, by decide⟩ (digitsOf ?_)
    rintro none
    simp [none] at read
  · refine marked ⟨by decide, by decide⟩ (digitsOf ?_)
    rintro none
    simp [none] at read
  · refine digitsOf ?_
    rintro none
    simp [none] at read

theorem mem_cut (here : Char → Bool) {chars : List Char} {c : Char} (member : c ∈ chars) :
    c ∈ (cut here chars).1 ∨ here c = true ∨ c ∈ (cut here chars).2.getD [] := by
  unfold cut
  split
  · exact .inl member
  · next first after rest =>
    rw [← List.takeWhile_append_dropWhile (p := fun c => ! here c) (l := chars), rest,
      List.mem_append, List.mem_cons] at member
    rcases member with before | rfl | later
    · exact .inl before
    · have some : chars.dropWhile (fun c => ! here c) ≠ [] := by simp [rest]
      have stops := List.head_dropWhile_not (fun c => ! here c) some
      simp only [rest, List.head_cons, Bool.not_eq_false'] at stops
      exact .inr (.inl stops)
    · exact .inr (.inr later)

theorem decimal_visible {value : Rat} {chars : List Char} (read : decimal chars = some value) :
    ∀ c ∈ chars, Visible c := by
  dsimp only [decimal] at read
  obtain ⟨significand, digits, read⟩ := Option.bind_eq_some_iff.mp read
  have visible := natural_visible digits
  intro c member
  rcases mem_cut (fun c => c = 'e' || c = 'E') member with front | letter | back
  · rcases mem_cut (fun c => c = '.') front with whole | point | fraction
    · exact visible c (List.mem_append_left _ whole)
    · rw [of_decide_eq_true point]
      exact ⟨by decide, by decide⟩
    · exact visible c (List.mem_append_right _ fraction)
  · simp only [Bool.or_eq_true, decide_eq_true_eq] at letter
    rcases letter with rfl | rfl
    · exact ⟨by decide, by decide⟩
    · exact ⟨by decide, by decide⟩
  · cases exponent : (cut (fun c => c = 'e' || c = 'E') chars).2 with
    | none => simp [exponent] at back
    | some power =>
      rw [exponent, Option.getD_some] at back
      cases power' : signed power with
      | none => simp [exponent, power'] at read
      | some number => exact signed_visible power' c back

theorem unsigned_visible {value : Rat} {minus : Bool} {chars : List Char}
    (read : unsigned minus chars = .finite value) : ∀ c ∈ chars, Visible c := by
  unfold unsigned at read
  split at read
  · cases read
  · split at read
    · cases read
    · next shown => exact decimal_visible shown

theorem based_visible {value : Rat} {base : Nat} {chars : List Char}
    (read : based base chars = .finite value) : ∀ c ∈ chars, Visible c := by
  unfold based at read
  split at read
  · cases read
  · next shown => exact natural_visible shown

theorem ofText_visible {text : String} {value : Rat} (read : ofText text = .finite value) :
    ∀ c ∈ (trim text).toList, Visible c := by
  have marked {mark : Char} {rest : List Char} (visible : Visible mark) (shown : ∀ c ∈ rest, Visible c) :
      ∀ c ∈ mark :: rest, Visible c :=
    List.forall_mem_cons.mpr ⟨visible, shown⟩
  have zero : Visible '0' := ⟨by decide, by decide⟩
  unfold ofText at read
  generalize (trim text).toList = chars at read ⊢
  split at read
  · nofun
  · exact marked zero (marked ⟨by decide, by decide⟩ (based_visible read))
  · exact marked zero (marked ⟨by decide, by decide⟩ (based_visible read))
  · exact marked zero (marked ⟨by decide, by decide⟩ (based_visible read))
  · exact marked zero (marked ⟨by decide, by decide⟩ (based_visible read))
  · exact marked zero (marked ⟨by decide, by decide⟩ (based_visible read))
  · exact marked zero (marked ⟨by decide, by decide⟩ (based_visible read))
  · exact marked ⟨by decide, by decide⟩ (unsigned_visible read)
  · exact marked ⟨by decide, by decide⟩ (unsigned_visible read)
  · exact unsigned_visible read

end Number

end Shared
