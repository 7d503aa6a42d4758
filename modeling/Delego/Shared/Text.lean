import Mathlib.Data.List.DropRight
import Mathlib.Data.List.TakeWhile

set_option autoImplicit false

namespace Shared.Text

-- What the language counts as white space, line ends included.
def isSpace (c : Char) : Bool :=
  c.toNat ∈ [0x9, 0xA, 0xB, 0xC, 0xD, 0x20, 0xA0, 0x1680, 0x2028, 0x2029, 0x202F, 0x205F, 0x3000, 0xFEFF] ||
    (0x2000 ≤ c.toNat && c.toNat ≤ 0x200A)

def trimmed (chars : List Char) : List Char := (chars.dropWhile isSpace).rdropWhile isSpace

def trim (text : String) : String := String.ofList (trimmed text.toList)

theorem trimmed_of_clean {chars : List Char} (clean : ∀ c ∈ chars, isSpace c = false) :
    trimmed chars = chars := by
  have front : chars.dropWhile isSpace = chars := by
    rw [List.dropWhile_eq_self_iff]
    intro some
    simpa using clean _ (List.getElem_mem some)
  rw [trimmed, front, List.rdropWhile_eq_self_iff]
  intro nonempty
  simpa using clean _ (List.getLast_mem nonempty)

theorem trim_ofList_of_clean {chars : List Char} (clean : ∀ c ∈ chars, isSpace c = false) :
    trim (String.ofList chars) = String.ofList chars := by
  rw [trim, String.toList_ofList, trimmed_of_clean clean]

theorem dropWhile_trimmed (chars : List Char) : (trimmed chars).dropWhile isSpace = trimmed chars := by
  have start : trimmed chars <+: chars.dropWhile isSpace :=
    List.rdropWhile_prefix isSpace _
  rw [List.dropWhile_eq_self_iff]
  intro some
  rw [start.getElem some]
  exact List.dropWhile_eq_self_iff.mp (List.dropWhile_idempotent isSpace chars) _

theorem trimmed_trimmed (chars : List Char) : trimmed (trimmed chars) = trimmed chars := by
  rw [trimmed, dropWhile_trimmed, trimmed, List.rdropWhile_idempotent]

@[simp] theorem trim_trim (text : String) : trim (trim text) = trim text := by
  simp [trim, trimmed_trimmed]

@[simp] theorem trim_empty : trim "" = "" := rfl

theorem trimmed_append {front : List Char} {c : Char} {back : List Char} (visible : isSpace c = false)
    (clean : trimmed back = back) (nonempty : back ≠ []) :
    trimmed (c :: front ++ back) = c :: front ++ back := by
  have start : (c :: front ++ back).dropWhile isSpace = c :: front ++ back := by
    rw [List.cons_append, List.dropWhile_cons_of_neg (by simp [visible])]
  rw [trimmed, start, List.rdropWhile_eq_self_iff]
  intro _
  rw [List.getLast_append_of_ne_nil _ nonempty]
  have closed : back.rdropWhile isSpace = back := by
    rw [← clean, trimmed, List.rdropWhile_idempotent]
  exact List.rdropWhile_eq_self_iff.mp closed nonempty

-- A string that is not empty, as a condition takes it.
def truthy (text : Option String) : Option String := text.filter fun text => text ≠ ""

theorem truthy_some {text : String} (stated : text ≠ "") : truthy (some text) = some text := by
  simp [truthy, Option.filter, stated]

@[simp] theorem truthy_truthy (text : Option String) : truthy (truthy text) = truthy text := by
  simp [truthy, Option.filter_filter]

def padStart (length : Nat) (text : String) : String :=
  String.ofList (List.replicate (length - text.length) '0') ++ text

-- Lower case as far as plain letters come of it: other letters are left as they are.
def lowered (c : Char) : List Char :=
  if 'A' ≤ c ∧ c ≤ 'Z' then [Char.ofNat (c.toNat + 32)]
  else if c.toNat = 0x212A then ['k']
  else if c.toNat = 0x130 then ['i', Char.ofNat 0x307]
  else [c]

def toLowerCase (text : String) : String := String.ofList (text.toList.flatMap lowered)

def occurs (pattern : List Char) : List Char → Bool
  | [] => pattern.isEmpty
  | c :: rest => pattern.isPrefixOf (c :: rest) || occurs pattern rest

def includes (text pattern : String) : Bool := occurs pattern.toList text.toList

def hexValue (c : Char) : Option Nat :=
  if '0' ≤ c ∧ c ≤ '9' then some (c.toNat - 48)
  else if 'a' ≤ c ∧ c ≤ 'f' then some (c.toNat - 87)
  else if 'A' ≤ c ∧ c ≤ 'F' then some (c.toNat - 55)
  else none

def hexChars (byte : UInt8) : List Char :=
  [Nat.digitChar (byte.toNat / 16), Nat.digitChar (byte.toNat % 16)]

def toHex (bytes : List UInt8) : String := String.ofList (bytes.flatMap hexChars)

-- The decoder stops at the first pair that is not two digits.
def unhex : List Char → List UInt8
  | high :: low :: rest =>
    match hexValue high, hexValue low with
    | some high, some low => UInt8.ofNat (16 * high + low) :: unhex rest
    | _, _ => []
  | _ => []

def fromHex (text : String) : List UInt8 := unhex text.toList

theorem hexValue_digitChar : ∀ digit : Fin 16, hexValue (Nat.digitChar digit) = some digit.val := by
  decide

theorem unhex_hexChars (byte : UInt8) (rest : List Char) :
    unhex (hexChars byte ++ rest) = byte :: unhex rest := by
  have small := byte.toNat_lt
  have high := hexValue_digitChar ⟨byte.toNat / 16, by omega⟩
  have low := hexValue_digitChar ⟨byte.toNat % 16, by omega⟩
  have value : UInt8.ofNat (16 * (byte.toNat / 16) + byte.toNat % 16) = byte := by
    rw [Nat.div_add_mod, UInt8.ofNat_toNat]
  simp only at high low
  simp only [hexChars, List.cons_append, List.nil_append, unhex, high, low, value]

@[simp] theorem fromHex_toHex (bytes : List UInt8) : fromHex (toHex bytes) = bytes := by
  rw [fromHex, toHex, String.toList_ofList]
  induction bytes with
  | nil => rfl
  | cons byte rest ih => rw [List.flatMap_cons, unhex_hexChars, ih]

@[simp] theorem toHex_eq_empty (bytes : List UInt8) : toHex bytes = "" ↔ bytes = [] := by
  cases bytes <;> simp [toHex, hexChars, ← String.toList_inj]

end Shared.Text
