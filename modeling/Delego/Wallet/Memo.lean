import Delego.Shared.Number

set_option autoImplicit false

namespace Delego.Wallet

open Shared Shared.Text

-- A memo as it comes in a request.
inductive Memo where
  | absent
  | null
  | number (value : Number)
  | bigint (value : Int)
  | string (value : String)
  | other

inductive MemoType where
  | none
  | text
  | id
  | hash
  | return
  deriving DecidableEq

structure MemoValidationResult where
  valid : Bool
  type : MemoType
  error : Option String
  deriving DecidableEq

def memoTextMaxBytes : Nat := 28

def memoIdMax : Int := 18446744073709551615

def memoHashHexLength : Nat := 64

def isStellarSecretKey (text : String) : Bool :=
  match text.toList with
  | first :: rest =>
    first = 'S' && rest.length = 55 &&
      rest.all fun c => ('A' ≤ c && c ≤ 'Z') || ('2' ≤ c && c ≤ '7')
  | [] => false

def isHex (chars : List Char) : Bool := chars.all fun c => (hexValue c).isSome

-- A hash is written with `0x` before it, and a return hash without.
def isHashMemo (text : String) : Bool :=
  match text.toList with
  | '0' :: 'x' :: digits => digits.length = memoHashHexLength && isHex digits
  | _ => false

def isReturnMemo (text : String) : Bool :=
  text.toList.length = memoHashHexLength && isHex text.toList

def isDigits (text : String) : Bool := text ≠ "" && text.toList.all Char.isDigit

def isControl (c : Char) : Bool := c.toNat ≤ 0x1F || c.toNat = 0x7F

def hasControl (text : String) : Bool := text.toList.any isControl

def validMemo (type : MemoType) : MemoValidationResult := ⟨true, type, none⟩

def invalidMemo (type : MemoType) (error : String) : MemoValidationResult := ⟨false, type, some error⟩

def validateMemoId (idValue : Int) : MemoValidationResult :=
  if idValue > memoIdMax then invalidMemo .id "Memo id exceeds uint64 maximum" else validMemo .id

def validateMemo : Memo → MemoValidationResult
  | .absent | .null => validMemo .none
  | .number memo =>
    match memo with
    | .finite value =>
      if value.den ≠ 1 ∨ value < 0 then invalidMemo .id "Memo id must be a non-negative integer"
      else validateMemoId value.num
    | .nan | .infinite _ => invalidMemo .id "Memo id must be a non-negative integer"
  | .bigint memo =>
    if ¬ (Number.nearest memo).isInteger ∨ memo < 0 then
      invalidMemo .id "Memo id must be a non-negative integer"
    else validateMemoId memo
  | .other => invalidMemo .text "Memo must be a string"
  | .string memo =>
    let trimmed := trim memo
    if memo = "" then validMemo .none
    else if trimmed = "" then invalidMemo .text "Memo cannot be empty or whitespace only"
    else if isStellarSecretKey trimmed then
      invalidMemo .text "Memo must not contain a Stellar secret key"
    else if isHashMemo trimmed then validMemo .hash
    else if isReturnMemo trimmed then validMemo .return
    else if isDigits trimmed then validateMemoId ((Number.bigInt trimmed).getD 0)
    else if hasControl trimmed then invalidMemo .text "Memo contains invalid control characters"
    else if trimmed.utf8ByteSize > memoTextMaxBytes then
      invalidMemo .text ("Memo exceeds " ++ toString memoTextMaxBytes ++ " byte Stellar text limit")
    -- After the test for a return hash, this one finds nothing.
    else if trimmed.toList.length = memoHashHexLength ∧ isHex trimmed.toList then validMemo .hash
    else validMemo .text

section Spaced

variable {text : String}

theorem not_secret_of_spaced (spaced : ' ' ∈ text.toList) : isStellarSecretKey text = false := by
  unfold isStellarSecretKey
  split
  · next first rest chars =>
    rw [chars] at spaced
    rcases List.mem_cons.mp spaced with rfl | within
    · rfl
    · have apart : (rest.all fun c => ('A' ≤ c && c ≤ 'Z') || ('2' ≤ c && c ≤ '7')) = false :=
        List.all_eq_false.mpr ⟨' ', within, by decide⟩
      rw [apart, Bool.and_false]
  · rfl

theorem not_hex_of_spaced (spaced : ' ' ∈ text.toList) : isHex text.toList = false :=
  List.all_eq_false.mpr ⟨' ', spaced, by decide⟩

theorem not_hash_of_spaced (spaced : ' ' ∈ text.toList) : isHashMemo text = false := by
  unfold isHashMemo
  split
  · next digits chars =>
    rw [chars] at spaced
    have within : ' ' ∈ digits := by simpa using spaced
    have apart : isHex digits = false := List.all_eq_false.mpr ⟨' ', within, by decide⟩
    rw [apart, Bool.and_false]
  · rfl

theorem not_digits_of_spaced (spaced : ' ' ∈ text.toList) : isDigits text = false := by
  have apart : text.toList.all Char.isDigit = false := List.all_eq_false.mpr ⟨' ', spaced, by decide⟩
  rw [isDigits, apart, Bool.and_false]

theorem validateMemo_spaced (spaced : ' ' ∈ text.toList) (clean : trim text = text) :
    (validateMemo (.string text)).valid = true ↔
      hasControl text = false ∧ text.utf8ByteSize ≤ memoTextMaxBytes := by
  have stated : text ≠ "" := by
    rintro rfl
    cases spaced
  have secret := not_secret_of_spaced spaced
  have hash := not_hash_of_spaced spaced
  have hex := not_hex_of_spaced spaced
  have digits := not_digits_of_spaced spaced
  have back : isReturnMemo text = false := by rw [isReturnMemo, hex, Bool.and_false]
  simp only [validateMemo, clean, stated, secret, hash, back, digits, hex, Bool.false_eq_true, and_false,
    if_false]
  cases control : hasControl text with
  | true => simp [invalidMemo]
  | false =>
    simp only [Bool.false_eq_true, if_false, true_and]
    split
    · next long => simpa [invalidMemo] using long
    · next short => simpa [validMemo] using short

end Spaced

end Delego.Wallet
