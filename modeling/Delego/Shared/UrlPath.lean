import Delego.Shared.Pieces

set_option autoImplicit false

namespace Shared.UrlPath

section Encoding

def hexDigit (value : Nat) : Char := if value < 10 then Char.ofNat (48 + value) else Char.ofNat (55 + value)

def percentByte (byte : UInt8) : List Char := ['%', hexDigit (byte.toNat / 16), hexDigit (byte.toNat % 16)]

def percentChar (c : Char) : List Char := (String.utf8EncodeChar c).flatMap percentByte

-- What `encodeURIComponent` leaves as it is: letters, digits, and nine marks from the exclamation mark on.
def unreserved (c : Char) : Bool :=
  ('A' ≤ c && c ≤ 'Z') || ('a' ≤ c && c ≤ 'z') || ('0' ≤ c && c ≤ '9') ||
    c.toNat ∈ [0x21, 0x27, 0x28, 0x29, 0x2A, 0x2D, 0x2E, 0x5F, 0x7E]

def encodedChar (c : Char) : List Char := if unreserved c then [c] else percentChar c

def encodeURIComponent (text : String) : String := String.ofList (text.toList.flatMap encodedChar)

end Encoding

section Parsing

-- What the parser leaves as it is in a path: visible characters, but not quotes, brackets and their like.
def kept (c : Char) : Bool :=
  0x21 ≤ c.toNat && c.toNat ≤ 0x7E &&
    c.toNat ∉ [0x22, 0x23, 0x3C, 0x3E, 0x3F, 0x5E, 0x60, 0x7B, 0x7D]

def escapedChar (c : Char) : List Char := if kept c then [c] else percentChar c

def isSlash (c : Char) : Bool := c = '/' || c = '\\'

-- A segment with its spelled dots read as dots.
def undotted : List Char → List Char
  | '%' :: '2' :: 'e' :: rest => '.' :: undotted rest
  | '%' :: '2' :: 'E' :: rest => '.' :: undotted rest
  | c :: rest => c :: undotted rest
  | [] => []

-- The segments of a path, with those before them in reverse.
def resolveFrom (above : List (List Char)) : List (List Char) → List (List Char)
  | [] => above.reverse
  | [last] =>
    if undotted last = ['.', '.'] then ([] :: above.tail).reverse
    else if undotted last = ['.'] then ([] :: above).reverse
    else (last.flatMap escapedChar :: above).reverse
  | segment :: next :: rest =>
    if undotted segment = ['.', '.'] then resolveFrom above.tail (next :: rest)
    else if undotted segment = ['.'] then resolveFrom above (next :: rest)
    else resolveFrom (segment.flatMap escapedChar :: above) (next :: rest)

-- The part of a URL after its host, up to a query or a fragment, without what the parser drops.
def pathChars (target : String) : List Char :=
  ((target.toList.rdropWhile (·.toNat ≤ 0x20)).filter fun c => c ∉ ['\t', '\n', '\r']).takeWhile
    fun c => c ≠ '?' ∧ c ≠ '#'

-- Whether a target is a path: after two slashes there would be a host.
def rooted (target : String) : Bool :=
  match pathChars target with
  | [] => false
  | first :: rest => isSlash first && rest.head?.all (! isSlash ·)

/-- `new URL(base + target).pathname`, for a target that starts with a slash. -/
def pathname (target : String) : String :=
  String.ofList ((resolveFrom [] ((pathChars target).splitOnP isSlash).tail).flatMap ('/' :: ·))

example : pathname "/escrow/%2e%2E/a b?x#y" = "/a%20b" := by
  decide +kernel

end Parsing

section Plain

def plain (c : Char) : Bool := kept c && ! isSlash c

variable {c : Char} {segments : List (List Char)}

theorem plain_kept (visible : plain c = true) : kept c = true := by
  simp only [plain, Bool.and_eq_true] at visible
  exact visible.1

theorem plain_not_slash (visible : plain c = true) : isSlash c = false := by
  simp only [plain, Bool.and_eq_true, Bool.not_eq_true'] at visible
  exact visible.2

theorem plain_iff : plain c = true ↔ 0x21 ≤ c.toNat ∧ c.toNat ≤ 0x7E ∧
    c.toNat ∉ [0x22, 0x23, 0x2F, 0x3C, 0x3E, 0x3F, 0x5C, 0x5E, 0x60, 0x7B, 0x7D] := by
  have slash : c = '/' ↔ c.toNat = 0x2F := by
    rw [← Char.toNat_inj]
    rfl
  have backslash : c = '\\' ↔ c.toNat = 0x5C := by
    rw [← Char.toNat_inj]
    rfl
  simp only [plain, kept, isSlash, Bool.and_eq_true, decide_eq_true_eq, Bool.not_eq_true',
    Bool.or_eq_false_iff, decide_eq_false_iff_not, slash, backslash, List.mem_cons, List.not_mem_nil,
    or_false, not_or]
  omega

theorem unreserved_plain (free : unreserved c = true) : plain c = true := by
  have order (a b : Char) : a ≤ b ↔ a.toNat ≤ b.toNat := Iff.rfl
  rw [plain_iff]
  simp only [unreserved, Bool.or_eq_true, Bool.and_eq_true, decide_eq_true_eq, order, List.mem_cons,
    List.not_mem_nil, or_false] at free
  simp only [List.mem_cons, List.not_mem_nil, or_false, not_or]
  simp at free
  omega

theorem hexDigit_plain : ∀ digit : Fin 16, plain (hexDigit digit.val) = true := by
  decide

theorem percentByte_plain (byte : UInt8) : ∀ c ∈ percentByte byte, plain c = true := by
  have small := byte.toNat_lt
  have high := hexDigit_plain ⟨byte.toNat / 16, by omega⟩
  have low := hexDigit_plain ⟨byte.toNat % 16, by omega⟩
  have percent : plain '%' = true := by decide
  simp [percentByte, high, low, percent]

theorem encodedChar_plain (c : Char) : ∀ d ∈ encodedChar c, plain d = true := by
  unfold encodedChar
  split
  · next free => simpa using unreserved_plain free
  · intro d member
    obtain ⟨byte, _, within⟩ := List.mem_flatMap.mp member
    exact percentByte_plain byte d within

theorem encoded_plain (text : String) : ∀ c ∈ (encodeURIComponent text).toList, plain c = true := by
  intro c member
  rw [encodeURIComponent, String.toList_ofList] at member
  obtain ⟨d, _, within⟩ := List.mem_flatMap.mp member
  exact encodedChar_plain d c within

def joined (segments : List (List Char)) : List Char := segments.flatMap ('/' :: ·)

theorem joined_kept (clean : ∀ segment ∈ segments, ∀ c ∈ segment, plain c = true) :
    ∀ c ∈ joined segments, kept c = true := by
  intro c member
  obtain ⟨segment, among, within⟩ := List.mem_flatMap.mp member
  rcases List.mem_cons.mp within with slash | inside
  · subst slash
    decide
  · exact plain_kept (clean segment among c inside)

theorem kept_bounds (stays : kept c = true) : 0x21 ≤ c.toNat ∧ c.toNat ≠ 0x3F ∧ c.toNat ≠ 0x23 := by
  simp only [kept, Bool.and_eq_true, decide_eq_true_eq, List.mem_cons, not_or] at stays
  omega

theorem pathChars_kept {chars : List Char} (stays : ∀ c ∈ chars, kept c = true) :
    pathChars (String.ofList chars) = chars := by
  have visible (c : Char) (member : c ∈ chars) : 0x21 ≤ c.toNat ∧ c.toNat ≠ 0x3F ∧ c.toNat ≠ 0x23 :=
    kept_bounds (stays c member)
  have ended : chars.rdropWhile (·.toNat ≤ 0x20) = chars := by
    rw [List.rdropWhile_eq_self_iff]
    intro nonempty
    have last := visible _ (List.getLast_mem nonempty)
    simp only [decide_eq_true_eq]
    omega
  have filtered : (chars.filter fun c => c ∉ ['\t', '\n', '\r']) = chars := by
    rw [List.filter_eq_self]
    intro c member
    have seen := visible c member
    simp only [List.mem_cons, List.not_mem_nil, or_false, not_or, decide_eq_true_eq]
    refine ⟨?_, ?_, ?_⟩ <;> intro same <;> subst same <;> simp at seen
  rw [pathChars, String.toList_ofList, ended, filtered, List.takeWhile_eq_self_iff]
  intro c member
  have seen := visible c member
  simp only [decide_eq_true_eq]
  constructor <;> intro same <;> subst same <;> simp at seen

theorem splitOnP_joined (clean : ∀ segment ∈ segments, ∀ c ∈ segment, plain c = true) :
    (joined segments).splitOnP isSlash = [] :: segments := by
  induction segments with
  | nil => rfl
  | cons segment later ih =>
    have rest := ih fun other member => clean other (.tail _ member)
    have own : ∀ c ∈ segment, isSlash c = false :=
      fun c member => plain_not_slash (clean segment (by simp) c member)
    have cons : joined (segment :: later) = '/' :: (segment ++ joined later) := rfl
    rw [cons, List.splitOnP_cons_eq_if_modifyHead, if_pos (by decide), Text.splitOnP_clean own, rest]
    simp

theorem escaped_plain {segment : List Char} (clean : ∀ c ∈ segment, plain c = true) :
    segment.flatMap escapedChar = segment := by
  induction segment with
  | nil => rfl
  | cons c segment ih =>
    obtain ⟨first, later⟩ := List.forall_mem_cons.mp clean
    rw [List.flatMap_cons, ih later, escapedChar, if_pos (plain_kept first)]
    rfl

theorem pathname_joined (clean : ∀ segment ∈ segments, ∀ c ∈ segment, plain c = true) :
    pathname (String.ofList (joined segments)) = String.ofList (joined (resolveFrom [] segments)) := by
  rw [pathname, pathChars_kept (joined_kept clean), splitOnP_joined clean]
  rfl

-- A segment that the parser keeps as it is.
def steady (segment : List Char) : Prop :=
  (∀ c ∈ segment, plain c = true) ∧ undotted segment ≠ ['.', '.'] ∧ undotted segment ≠ ['.']

instance (segment : List Char) : Decidable (steady segment) :=
  @instDecidableAnd _ _ (List.decidableBAll ..) inferInstance

theorem resolveFrom_steady (segments : List (List Char)) (steadily : ∀ segment ∈ segments, steady segment) :
    ∀ above : List (List Char), resolveFrom above segments = above.reverse ++ segments := by
  induction segments with
  | nil => simp [resolveFrom]
  | cons segment later ih =>
    intro above
    obtain ⟨⟨clean, notUp, notHere⟩, others⟩ := List.forall_mem_cons.mp steadily
    cases later with
    | nil => simp [resolveFrom, notUp, notHere, escaped_plain clean]
    | cons next rest => simp [resolveFrom, notUp, notHere, escaped_plain clean, ih others]

theorem pathname_steady (steadily : ∀ segment ∈ segments, steady segment) :
    pathname (String.ofList (joined segments)) = String.ofList (joined segments) := by
  rw [pathname_joined fun segment member => (steadily segment member).1, resolveFrom_steady segments steadily]
  rfl

theorem rooted_steady {first : List Char} (steadily : ∀ segment ∈ first :: segments, steady segment)
    (nonempty : first ≠ []) : rooted (String.ofList (joined (first :: segments))) = true := by
  have clean : ∀ segment ∈ first :: segments, ∀ c ∈ segment, plain c = true :=
    fun segment member => (steadily segment member).1
  have whole : joined (first :: segments) = '/' :: (first ++ joined segments) := rfl
  rw [rooted, pathChars_kept (joined_kept clean), whole]
  cases first with
  | nil => exact absurd rfl nonempty
  | cons c first =>
    have apart := plain_not_slash (clean _ List.mem_cons_self c List.mem_cons_self)
    simp [apart]
    decide

theorem encodeURIComponent_append (text text' : String) :
    encodeURIComponent (text ++ text') = encodeURIComponent text ++ encodeURIComponent text' := by
  apply String.toList_inj.mp
  simp [encodeURIComponent]

def plainText (text : String) : Prop := ∀ c ∈ text.toList, plain c = true

instance (text : String) : Decidable (plainText text) := List.decidableBAll ..

end Plain

section Parsed

variable {c : Char}

theorem percentChar_plain (c : Char) : ∀ d ∈ percentChar c, plain d = true := by
  intro d member
  obtain ⟨byte, _, within⟩ := List.mem_flatMap.mp member
  exact percentByte_plain byte d within

theorem escapedChar_plain (apart : isSlash c = false) : ∀ d ∈ escapedChar c, plain d = true := by
  unfold escapedChar
  split
  · next stays =>
    simp [plain, stays, apart]
  · exact percentChar_plain c

theorem resolveFrom_plain (segments : List (List Char)) : ∀ above : List (List Char),
    (∀ segment ∈ above, ∀ c ∈ segment, plain c = true) →
    (∀ segment ∈ segments, ∀ c ∈ segment, isSlash c = false) →
      ∀ segment ∈ resolveFrom above segments, ∀ c ∈ segment, plain c = true := by
  have escaped {segment : List Char} (apart : ∀ c ∈ segment, isSlash c = false) :
      ∀ c ∈ segment.flatMap escapedChar, plain c = true := by
    intro c member
    obtain ⟨d, among, within⟩ := List.mem_flatMap.mp member
    exact escapedChar_plain (apart d among) c within
  have tail {above : List (List Char)} (clean : ∀ segment ∈ above, ∀ c ∈ segment, plain c = true) :
      ∀ segment ∈ above.tail, ∀ c ∈ segment, plain c = true :=
    fun segment member => clean segment (List.mem_of_mem_tail member)
  have ended {above : List (List Char)} (clean : ∀ segment ∈ above, ∀ c ∈ segment, plain c = true) :
      ∀ segment ∈ ([] :: above).reverse, ∀ c ∈ segment, plain c = true := by
    intro segment member
    rcases List.mem_cons.mp (List.mem_reverse.mp member) with last | other
    · simp [last]
    · exact clean segment other
  induction segments with
  | nil =>
    intro above clean _ segment member
    exact clean segment (List.mem_reverse.mp member)
  | cons segment later ih =>
    intro above clean apart
    obtain ⟨first, others⟩ := List.forall_mem_cons.mp apart
    have added : ∀ other ∈ segment.flatMap escapedChar :: above, ∀ c ∈ other, plain c = true :=
      List.forall_mem_cons.mpr ⟨escaped first, clean⟩
    cases later with
    | nil =>
      simp only [resolveFrom]
      split
      · exact ended (tail clean)
      · split
        · exact ended clean
        · intro other member
          exact added other (List.mem_reverse.mp member)
    | cons next rest =>
      simp only [resolveFrom]
      split
      · exact ih _ (tail clean) others
      · split
        · exact ih _ clean others
        · exact ih _ added others

theorem pathname_plain (target : String) : ∀ c ∈ (pathname target).toList, c = '/' ∨ plain c = true := by
  intro c member
  rw [pathname, String.toList_ofList] at member
  obtain ⟨segment, among, within⟩ := List.mem_flatMap.mp member
  rcases List.mem_cons.mp within with slash | inside
  · exact .inl slash
  · refine .inr (resolveFrom_plain _ [] nofun ?_ segment among c inside)
    intro piece part
    exact Text.splitOnP_apart _ piece (List.mem_of_mem_tail part)

end Parsed

end Shared.UrlPath
