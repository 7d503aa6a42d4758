import Mathlib.Data.List.Basic

set_option autoImplicit false

namespace Shared.Utf8

def replacement : Char := '\uFFFD'

def encode (text : List Char) : List UInt8 := text.flatMap String.utf8EncodeChar

/-- What the first byte of a character calls for: how many bytes come after it, and the bounds of the one that
comes next. -/
structure Lead where
  needed : Nat
  value : Nat
  low : Nat
  high : Nat

def lead (byte : Nat) : Option Lead :=
  if byte < 0x80 then some ⟨0, byte, 0x80, 0xBF⟩
  else if 0xC2 ≤ byte ∧ byte ≤ 0xDF then some ⟨1, byte - 0xC0, 0x80, 0xBF⟩
  else if 0xE0 ≤ byte ∧ byte ≤ 0xEF then
    some ⟨2, byte - 0xE0, if byte = 0xE0 then 0xA0 else 0x80, if byte = 0xED then 0x9F else 0xBF⟩
  else if 0xF0 ≤ byte ∧ byte ≤ 0xF4 then
    some ⟨3, byte - 0xF0, if byte = 0xF0 then 0x90 else 0x80, if byte = 0xF4 then 0x8F else 0xBF⟩
  else none

-- The character that the bytes go on to, and how many of them belong to it. What breaks off is replaced.
def follow : Nat → Nat → Nat → Nat → List UInt8 → Char × Nat
  | 0, value, _, _, _ => (Char.ofNat value, 0)
  | _ + 1, _, _, _, [] => (replacement, 0)
  | needed + 1, value, low, high, byte :: rest =>
    if low ≤ byte.toNat ∧ byte.toNat ≤ high then
      let (c, used) := follow needed (64 * value + (byte.toNat - 0x80)) 0x80 0xBF rest
      (c, used + 1)
    else (replacement, 0)

def decodeFrom : Nat → List UInt8 → List Char
  | _, [] => []
  | skip + 1, _ :: rest => decodeFrom skip rest
  | 0, byte :: rest =>
    match lead byte.toNat with
    | some lead =>
      let (c, used) := follow lead.needed lead.value lead.low lead.high rest
      c :: decodeFrom used rest
    | none => replacement :: decodeFrom 0 rest

/-- The text of some bytes, with a replacement character for each longest part that is none. -/
def decode (bytes : List UInt8) : List Char := decodeFrom 0 bytes

def continues (byte : UInt8) : Bool := 0x80 ≤ byte.toNat && byte.toNat ≤ 0xBF

/-- The bytes go on with a character that has begun before them. -/
def startsInside : List UInt8 → Bool
  | byte :: _ => continues byte
  | [] => false

example : decode [0xC3, 0xA9, 0xC3, 0xE2, 0x82, 0x41, 0xA9] = ['é', '\uFFFD', '\uFFFD', 'A', '\uFFFD'] := by
  decide

section Decoding

theorem decodeFrom_append (front back : List UInt8) :
    decodeFrom front.length (front ++ back) = decodeFrom 0 back := by
  induction front with
  | nil => rfl
  | cons byte front ih => exact ih

structure Encoded (c : Char) (byte : UInt8) (tail : List UInt8) (lead' : Lead) : Prop where
  leads : lead byte.toNat = some lead'
  length : tail.length = lead'.needed
  low : 0x80 ≤ lead'.low
  high : lead'.high ≤ 0xBF
  follows : ∀ rest, follow lead'.needed lead'.value lead'.low lead'.high (tail ++ rest) = (c, tail.length)

theorem follow_cons {needed value low high used : Nat} {c : Char} {byte : UInt8} {rest : List UInt8}
    (above : low ≤ byte.toNat) (below : byte.toNat ≤ high)
    (follows : follow needed (64 * value + (byte.toNat - 0x80)) 0x80 0xBF rest = (c, used)) :
    follow (needed + 1) value low high (byte :: rest) = (c, used + 1) := by
  rw [follow, if_pos ⟨above, below⟩, follows]

theorem follow_end {c : Char} {value : Nat} (low high : Nat) (rest : List UInt8) (same : value = c.toNat) :
    follow 0 value low high rest = (c, 0) := by
  rw [follow, same, Char.ofNat_toNat]

theorem toNat_byte (value : Nat) (small : value < 256) : (UInt8.ofNat value).toNat = value := by
  rw [UInt8.toNat_ofNat']
  exact Nat.mod_eq_of_lt small

theorem encoded (c : Char) :
    ∃ byte tail lead', String.utf8EncodeChar c = byte :: tail ∧ Encoded c byte tail lead' := by
  have valid : c.toNat < 0xD800 ∨ 0xDFFF < c.toNat ∧ c.toNat < 0x110000 := c.valid
  fun_cases String.utf8EncodeChar c with
  | case1 v one =>
    have same : v = c.toNat := rfl
    have byte := toNat_byte v (by omega)
    refine ⟨_, [], ⟨0, v, 0x80, 0xBF⟩, rfl, ⟨?_, rfl, Nat.le_refl _, Nat.le_refl _, ?_⟩⟩
    · rw [byte, lead, if_pos (by omega)]
    · exact fun rest => follow_end _ _ _ same
  | case2 v one two =>
    have same : v = c.toNat := rfl
    have first := toNat_byte (v / 64 % 0x20 + 0xC0) (by omega)
    have second := toNat_byte (v % 0x40 + 0x80) (by omega)
    refine ⟨_, _, ⟨1, v / 64 % 0x20 + 0xC0 - 0xC0, 0x80, 0xBF⟩, rfl,
      ⟨?_, rfl, Nat.le_refl _, Nat.le_refl _, ?_⟩⟩
    · rw [first, lead, if_neg (by omega), if_pos (by omega)]
    · intro rest
      dsimp only
      apply follow_cons (by omega) (by omega)
      apply follow_end
      omega
  | case3 v one two three =>
    have same : v = c.toNat := rfl
    have first := toNat_byte (v / 4096 % 0x10 + 0xE0) (by omega)
    have second := toNat_byte (v / 64 % 0x40 + 0x80) (by omega)
    have third := toNat_byte (v % 0x40 + 0x80) (by omega)
    refine ⟨_, _, ⟨2, v / 4096 % 0x10 + 0xE0 - 0xE0, if v / 4096 % 0x10 + 0xE0 = 0xE0 then 0xA0 else 0x80,
      if v / 4096 % 0x10 + 0xE0 = 0xED then 0x9F else 0xBF⟩, rfl, ⟨?_, rfl, ?_, ?_, ?_⟩⟩
    · rw [first, lead, if_neg (by omega), if_neg (by omega), if_pos (by omega)]
    · simp only
      split <;> omega
    · simp only
      split <;> omega
    · intro rest
      dsimp only
      refine follow_cons ?_ ?_ (follow_cons (by omega) (by omega) (follow_end _ _ _ ?_))
      · split <;> omega
      · split <;> omega
      · omega
  | case4 v one two three =>
    have same : v = c.toNat := rfl
    have first := toNat_byte (v / 262144 % 0x08 + 0xF0) (by omega)
    have second := toNat_byte (v / 4096 % 0x40 + 0x80) (by omega)
    have third := toNat_byte (v / 64 % 0x40 + 0x80) (by omega)
    have fourth := toNat_byte (v % 0x40 + 0x80) (by omega)
    refine ⟨_, _, ⟨3, v / 262144 % 0x08 + 0xF0 - 0xF0, if v / 262144 % 0x08 + 0xF0 = 0xF0 then 0x90 else 0x80,
      if v / 262144 % 0x08 + 0xF0 = 0xF4 then 0x8F else 0xBF⟩, rfl, ⟨?_, rfl, ?_, ?_, ?_⟩⟩
    · rw [first, lead, if_neg (by omega), if_neg (by omega), if_neg (by omega), if_pos (by omega)]
    · simp only
      split <;> omega
    · simp only
      split <;> omega
    · intro rest
      dsimp only
      refine follow_cons ?_ ?_ (follow_cons (by omega) (by omega)
        (follow_cons (by omega) (by omega) (follow_end _ _ _ ?_)))
      · split <;> omega
      · split <;> omega
      · omega

theorem lead_starts {byte : UInt8} {lead' : Lead} (leads : lead byte.toNat = some lead') :
    continues byte = false := by
  cases inside : continues byte with
  | false => rfl
  | true =>
    simp only [continues, Bool.and_eq_true, decide_eq_true_eq] at inside
    rw [lead, if_neg (by omega), if_neg (by omega), if_neg (by omega), if_neg (by omega)] at leads
    cases leads

theorem follow_used {needed value low high : Nat} (bytes : List UInt8) (lower : 0x80 ≤ low)
    (upper : high ≤ 0xBF) :
    ∀ byte ∈ bytes.take (follow needed value low high bytes).2, continues byte = true := by
  induction bytes generalizing needed value low high with
  | nil => simp
  | cons first rest ih =>
    cases needed with
    | zero => simp [follow]
    | succ needed =>
      by_cases within : low ≤ first.toNat ∧ first.toNat ≤ high
      · simp only [follow, within, and_self, if_true, List.take_succ_cons, List.mem_cons]
        rintro byte (rfl | later)
        · simp only [continues, Bool.and_eq_true, decide_eq_true_eq]
          omega
        · exact ih (Nat.le_refl _) (Nat.le_refl _) byte later
      · simp only [follow, within, if_false, List.take_zero, List.not_mem_nil, false_imp_iff, implies_true]

theorem Encoded.continued {c : Char} {byte : UInt8} {tail : List UInt8} {lead' : Lead}
    (encoded : Encoded c byte tail lead') : ∀ byte ∈ tail, continues byte = true := by
  have used := @follow_used lead'.needed lead'.value _ _ tail encoded.low encoded.high
  have follows := encoded.follows []
  rw [List.append_nil] at follows
  rwa [follows, List.take_length] at used

theorem follow_partial {needed value low high : Nat} {c : Char} {front back : List UInt8}
    (unfinished : back ≠ []) (length : (front ++ back).length = needed)
    (follows : follow needed value low high (front ++ back) = (c, (front ++ back).length)) :
    follow needed value low high front = (replacement, front.length) := by
  induction front generalizing needed value low high with
  | nil =>
    cases needed with
    | zero => exact absurd (List.eq_nil_of_length_eq_zero length) unfinished
    | succ needed => rfl
  | cons byte front ih =>
    cases needed with
    | zero => cases length
    | succ needed =>
      by_cases within : low ≤ byte.toNat ∧ byte.toNat ≤ high
      · simp only [List.cons_append, follow, within, and_self, if_true, Prod.mk.injEq, List.length_cons,
          Nat.add_right_cancel_iff] at follows
        have rest := ih (Nat.succ.inj length) (Prod.ext follows.1 follows.2)
        rw [follow, if_pos within, rest]
        rfl
      · simp only [List.cons_append, follow, within, if_false, Prod.mk.injEq] at follows
        cases follows.2

theorem decode_encodeChar (c : Char) (rest : List UInt8) :
    decode (String.utf8EncodeChar c ++ rest) = c :: decode rest := by
  obtain ⟨byte, tail, lead', bytes, encoded⟩ := encoded c
  rw [bytes, decode, List.cons_append, decodeFrom, encoded.leads]
  simp only [encoded.follows, decodeFrom_append]
  rfl

theorem decode_encode (text : List Char) (rest : List UInt8) :
    decode (encode text ++ rest) = text ++ decode rest := by
  induction text with
  | nil => rfl
  | cons c text ih =>
    change decode ((String.utf8EncodeChar c ++ encode text) ++ rest) = c :: (text ++ decode rest)
    rw [List.append_assoc, decode_encodeChar, ih]

theorem decode_partial {c : Char} {byte : UInt8} {front back : List UInt8}
    (bytes : String.utf8EncodeChar c = byte :: (front ++ back)) (unfinished : back ≠ []) :
    decode (byte :: front) = [replacement] := by
  obtain ⟨first, tail, lead', bytes', encoded⟩ := encoded c
  rw [bytes] at bytes'
  cases bytes'
  have follows := encoded.follows []
  rw [List.append_nil] at follows
  have stops := follow_partial unfinished encoded.length follows
  rw [decode, decodeFrom, encoded.leads]
  simp only [stops]
  have done := decodeFrom_append front []
  rw [List.append_nil] at done
  rw [done]
  rfl

theorem decode_continued {tail : List UInt8} (continued : ∀ byte ∈ tail, continues byte = true)
    (rest : List UInt8) : decode (tail ++ rest) = List.replicate tail.length replacement ++ decode rest := by
  induction tail with
  | nil => rfl
  | cons byte tail ih =>
    have inside := continued byte List.mem_cons_self
    rw [List.cons_append, decode, decodeFrom]
    cases leads : lead byte.toNat with
    | some lead' => cases inside.symm.trans (lead_starts leads)
    | none =>
      change replacement :: decode (tail ++ rest) = replacement :: _
      rw [ih fun byte member => continued byte (List.mem_cons_of_mem _ member)]
      rfl

end Decoding

/-- The second text is the first one with some of the wider characters broken into replacement characters. -/
inductive Blurred : List Char → List Char → Prop where
  | nil : Blurred [] []
  | same (c : Char) {text text' : List Char} : Blurred text text' → Blurred (c :: text) (c :: text')
  | broken (c : Char) (more : Nat) {text text' : List Char} : 0x80 ≤ c.toNat → Blurred text text' →
    Blurred (c :: text) (List.replicate (more + 2) replacement ++ text')

section Blurring

variable {text text' : List Char} {c : Char} {known : Char → Bool}

theorem Blurred.refl (text : List Char) : Blurred text text := by
  induction text with
  | nil => exact .nil
  | cons c text ih => exact ih.same c

theorem Blurred.narrow (narrow : c.toNat < 0x80) (blurred : Blurred (c :: text) text') :
    ∃ rest, text' = c :: rest ∧ Blurred text rest := by
  cases blurred with
  | same _ blurred => exact ⟨_, rfl, blurred⟩
  | broken _ _ wide => omega

theorem Blurred.narrows {front : List Char} (narrow : ∀ c ∈ front, c.toNat < 0x80)
    (blurred : Blurred (front ++ text) text') : ∃ rest, text' = front ++ rest ∧ Blurred text rest := by
  induction front generalizing text' with
  | nil => exact ⟨text', rfl, blurred⟩
  | cons c front ih =>
    obtain ⟨later, rfl, after⟩ := Blurred.narrow (narrow c List.mem_cons_self) blurred
    obtain ⟨rest, rfl, last⟩ := ih (fun c member => narrow c (List.mem_cons_of_mem _ member)) after
    exact ⟨rest, rfl, last⟩

theorem Blurred.alike (narrow : ∀ c, known c = true → c.toNat < 0x80) (blurred : Blurred text text') :
    text'.takeWhile known = text.takeWhile known ∧ Blurred (text.dropWhile known) (text'.dropWhile known) := by
  induction blurred with
  | nil => exact ⟨rfl, .nil⟩
  | same c blurred ih =>
    by_cases is : known c = true
    · simp only [List.takeWhile_cons, List.dropWhile_cons, is, if_true, ih.1, true_and]
      exact ih.2
    · simp only [List.takeWhile_cons, List.dropWhile_cons, is, Bool.false_eq_true, if_false, true_and]
      exact blurred.same c
  | broken c more wide blurred ih =>
    have unknown : known c = false := by
      by_contra is
      have small := narrow c (by simpa using is)
      omega
    have unknown' : known replacement = false := by
      by_contra is
      have small := narrow replacement (by simpa using is)
      exact absurd small (by decide)
    simp only [List.replicate_succ, List.cons_append, List.takeWhile_cons, List.dropWhile_cons, unknown, unknown',
      Bool.false_eq_true, if_false, true_and]
    exact blurred.broken c more wide

theorem Blurred.same_known (narrow : ∀ c, known c = true → c.toNat < 0x80) (blurred : Blurred text text') :
    text' = text ↔ text'.dropWhile known = text.dropWhile known := by
  constructor
  · rintro rfl
    rfl
  · intro same
    rw [← List.takeWhile_append_dropWhile (p := known) (l := text'), (Blurred.alike narrow blurred).1, same,
      List.takeWhile_append_dropWhile]

theorem Blurred.length (blurred : Blurred text text') : text.length ≤ text'.length := by
  induction blurred with
  | nil => exact Nat.le_refl _
  | same c _ ih => exact Nat.succ_le_succ ih
  | broken c more _ _ ih =>
    rw [List.length_append, List.length_replicate, List.length_cons]
    omega

end Blurring

section Chunks

variable {text later later' : List Char}

theorem Blurred.append (whole : List Char) (blurred : Blurred later later') :
    Blurred (whole ++ later) (whole ++ later') := by
  induction whole with
  | nil => exact blurred
  | cons c whole ih => exact ih.same c

theorem encode_append (text text' : List Char) : encode (text ++ text') = encode text ++ encode text' :=
  List.flatMap_append

theorem encode_eq_nil (empty : encode text = []) : text = [] := by
  cases text with
  | nil => rfl
  | cons c text =>
    obtain ⟨byte, tail, _, bytes, _⟩ := encoded c
    rw [encode, List.flatMap_cons, bytes] at empty
    cases empty

/-- Where a text is cut: between two characters, or inside of one. -/
inductive Cut (text : List Char) (front back : List UInt8) : Prop where
  | between (whole later : List Char) (here : text = whole ++ later) (front' : front = encode whole)
      (back' : back = encode later) : Cut text front back
  | inside (whole later : List Char) (c : Char) (byte : UInt8) (first second : List UInt8)
      (here : text = whole ++ c :: later) (bytes : String.utf8EncodeChar c = byte :: (first ++ second))
      (unfinished : second ≠ []) (front' : front = encode whole ++ byte :: first)
      (back' : back = second ++ encode later) : Cut text front back

theorem cut {front back : List UInt8} (whole : encode text = front ++ back) : Cut text front back := by
  induction text generalizing front with
  | nil =>
    obtain ⟨rfl, rfl⟩ := List.append_eq_nil_iff.mp whole.symm
    exact .between [] [] rfl rfl rfl
  | cons c text ih =>
    change String.utf8EncodeChar c ++ encode text = front ++ back at whole
    rcases List.append_eq_append_iff.mp whole with ⟨rest, rfl, later⟩ | ⟨rest, bytes, rfl⟩
    · rcases ih later with ⟨before, after, rfl, rfl, rfl⟩ |
        ⟨before, after, c', byte, first, second, rfl, bytes, unfinished, rfl, rfl⟩
      · exact .between (c :: before) after rfl rfl rfl
      · refine .inside (c :: before) after c' byte first second rfl bytes unfinished ?_ rfl
        change _ = (String.utf8EncodeChar c ++ encode before) ++ _
        rw [List.append_assoc]
    · cases front with
      | nil =>
        refine .between [] (c :: text) rfl rfl ?_
        rw [← List.nil_append rest, ← bytes]
        rfl
      | cons byte first =>
        cases rest with
        | nil =>
          refine .between [c] text rfl ?_ rfl
          rw [← List.append_nil (byte :: first), ← bytes]
          exact (List.append_nil _).symm
        | cons second seconds =>
          exact .inside [] text c byte first (second :: seconds) rfl bytes (by simp) rfl rfl

theorem wide {c : Char} {byte : UInt8} {tail : List UInt8} (bytes : String.utf8EncodeChar c = byte :: tail)
    (more : tail ≠ []) : 0x80 ≤ c.toNat := by
  by_contra narrow
  have one : c.val.toNat ≤ 0x7F := by
    change c.toNat ≤ 0x7F
    omega
  rw [String.utf8EncodeChar, if_pos one] at bytes
  cases bytes
  exact more rfl

theorem startsInside_flatten {chunks : List (List UInt8)} {byte : UInt8} {rest : List UInt8}
    (begins : chunks.flatten = byte :: rest) (inside : continues byte = true) :
    0 < chunks.countP startsInside := by
  induction chunks with
  | nil => cases begins
  | cons chunk chunks ih =>
    cases chunk with
    | nil =>
      rw [List.countP_cons_of_neg (by simp [startsInside])]
      exact ih begins
    | cons first chunk =>
      cases begins
      have opens : startsInside (byte :: chunk) = true := inside
      rw [List.countP_cons_of_pos opens]
      exact Nat.succ_pos _

/-- What the texts of some chunks make together, when the chunks are the rest of a character and a text. -/
structure Pieced (chunks : List (List UInt8)) (tail : List UInt8) (text text' : List Char) : Prop where
  decoded : chunks.flatMap decode = List.replicate tail.length replacement ++ text'
  blurred : Blurred text text'
  inside : text.length + chunks.countP startsInside ≤ text'.length + tail.length
  clean : tail = [] → chunks.countP startsInside = 0 → text' = text

theorem decode_tail {tail : List UInt8} (continued : ∀ byte ∈ tail, continues byte = true) :
    decode tail = List.replicate tail.length replacement := by
  have alone := decode_continued continued []
  rwa [List.append_nil, show decode [] = [] from rfl, List.append_nil] at alone

theorem startsInside_front {front back : List UInt8} (whole : encode text = front ++ back) :
    startsInside front = false := by
  cases front with
  | nil => rfl
  | cons first front =>
    cases text with
    | nil => cases whole
    | cons c text =>
      obtain ⟨byte, tail, _, bytes, encoded⟩ := encoded c
      rw [encode, List.flatMap_cons, bytes] at whole
      obtain ⟨rfl, _⟩ := List.cons.inj whole
      exact lead_starts encoded.leads

theorem countP_begun {tail front back : List UInt8} (chunks : List (List UInt8))
    (whole : encode text = front ++ back) :
    ((tail ++ front) :: chunks).countP startsInside ≤ tail.length + chunks.countP startsInside := by
  have one : ((tail ++ front) :: chunks).countP startsInside ≤ chunks.countP startsInside + 1 := by
    rw [List.countP_cons]
    split <;> omega
  cases tail with
  | nil =>
    rw [List.nil_append, List.countP_cons_of_neg (by simp [startsInside_front whole])]
    exact Nat.le_add_left _ _
  | cons byte tail =>
    rw [List.length_cons]
    omega

theorem countP_later (chunk : List UInt8) (chunks : List (List UInt8)) :
    chunks.countP startsInside ≤ (chunk :: chunks).countP startsInside := by
  rw [List.countP_cons]
  exact Nat.le_add_right _ _

section Cases

variable {chunks : List (List UInt8)} {whole : List Char} {tail : List UInt8}

theorem pieced_tail {chunk : List UInt8} {text' : List Char}
    (continued : ∀ byte ∈ chunk ++ tail, continues byte = true) (pieced : Pieced chunks tail text text') :
    Pieced (chunk :: chunks) (chunk ++ tail) text text' := by
  have alone := decode_tail fun byte member => continued byte (List.mem_append_left _ member)
  obtain ⟨decoded, blurred, inside, clean⟩ := pieced
  have opens := @countP_begun [] chunk [] [] chunks rfl
  rw [List.append_nil] at opens
  refine ⟨?_, blurred, ?_, ?_⟩
  · rw [List.flatMap_cons, alone, decoded, List.length_append, List.replicate_add, List.append_assoc]
  · rw [List.length_append]
    omega
  · intro empty none
    have later := countP_later chunk chunks
    exact clean (List.append_eq_nil_iff.mp empty).2 (by omega)

theorem pieced_between (continued : ∀ byte ∈ tail, continues byte = true)
    (pieced : Pieced chunks [] later later') :
    Pieced ((tail ++ encode whole) :: chunks) tail (whole ++ later) (whole ++ later') := by
  obtain ⟨decoded, blurred, inside, clean⟩ := pieced
  have alone := decode_encode whole []
  rw [List.append_nil, show decode [] = [] from rfl, List.append_nil] at alone
  have opens := @countP_begun whole tail (encode whole) [] chunks (List.append_nil _).symm
  refine ⟨?_, blurred.append whole, ?_, ?_⟩
  · rw [List.flatMap_cons, decode_continued continued, alone, decoded, List.append_assoc]
    rfl
  · simp only [List.length_append, List.length_nil] at inside ⊢
    omega
  · intro _ none
    have later := countP_later (tail ++ encode whole) chunks
    rw [clean rfl (by omega)]

theorem pieced_inside {c : Char} {byte : UInt8} {first second : List UInt8}
    (continued : ∀ byte ∈ tail, continues byte = true)
    (bytes : String.utf8EncodeChar c = byte :: (first ++ second)) (unfinished : second ≠ [])
    (pieced : Pieced chunks second later later') (back : chunks.flatten = second ++ encode later) :
    Pieced ((tail ++ (encode whole ++ byte :: first)) :: chunks) tail (whole ++ c :: later)
      (whole ++ (List.replicate (second.length + 1) replacement ++ later')) := by
  obtain ⟨decoded, blurred, inside, clean⟩ := pieced
  have front : encode (whole ++ c :: later) = (encode whole ++ byte :: first) ++ (second ++ encode later) := by
    rw [encode_append]
    change _ ++ (String.utf8EncodeChar c ++ encode later) = _
    rw [bytes]
    simp
  have opens := @countP_begun _ tail _ _ chunks front
  obtain ⟨next, seconds, rfl⟩ := List.exists_cons_of_ne_nil unfinished
  refine ⟨?_, ?_, ?_, ?_⟩
  · rw [List.flatMap_cons, decode_continued continued, decode_encode, decode_partial bytes unfinished, decoded]
    simp [List.replicate_succ]
  · exact (blurred.broken c seconds.length (wide bytes (by simp))).append whole
  · simp only [List.length_append, List.length_cons, List.length_replicate] at inside ⊢
    omega
  · intro _ none
    obtain ⟨first', tail', lead', bytes', encoded⟩ := encoded c
    rw [bytes] at bytes'
    cases bytes'
    have later := countP_later (tail ++ (encode whole ++ byte :: first)) chunks
    have begins := startsInside_flatten back (encoded.continued next (by simp))
    omega

end Cases

theorem pieced (chunks : List (List UInt8)) : ∀ tail text, (∀ byte ∈ tail, continues byte = true) →
    chunks.flatten = tail ++ encode text → ∃ text', Pieced chunks tail text text' := by
  induction chunks with
  | nil =>
    intro tail text continued whole
    obtain ⟨rfl, empty⟩ := List.append_eq_nil_iff.mp whole.symm
    cases encode_eq_nil empty
    exact ⟨[], rfl, .nil, Nat.le_refl _, fun _ _ => rfl⟩
  | cons chunk chunks ih =>
    intro tail text continued whole
    rw [List.flatten_cons] at whole
    rcases List.append_eq_append_iff.mp whole with ⟨rest, rfl, later⟩ | ⟨front, rfl, later⟩
    · obtain ⟨text', pieced⟩ := ih rest text
        (fun byte member => continued byte (List.mem_append_right _ member)) later
      exact ⟨text', pieced_tail continued pieced⟩
    · rcases cut later with ⟨before, after, rfl, rfl, back⟩ |
        ⟨before, after, c, byte, first, second, rfl, bytes, unfinished, rfl, back⟩
      · obtain ⟨text', pieced⟩ := ih [] after nofun back
        exact ⟨_, pieced_between continued pieced⟩
      · obtain ⟨first', tail', _, bytes', encoded⟩ := encoded c
        rw [bytes] at bytes'
        cases bytes'
        obtain ⟨text', pieced⟩ := ih second after
          (fun byte member => encoded.continued byte (List.mem_append_right _ member)) back
        exact ⟨_, pieced_inside continued bytes unfinished pieced back⟩

theorem chunks_blurred {chunks : List (List UInt8)} (whole : chunks.flatten = encode text) :
    Blurred text (chunks.flatMap decode) ∧
      (chunks.flatMap decode = text ↔ ∀ chunk ∈ chunks, startsInside chunk = false) := by
  obtain ⟨text', decoded, blurred, inside, clean⟩ := pieced chunks [] text nofun whole
  change _ = text' at decoded
  rw [decoded]
  refine ⟨blurred, ?_, ?_⟩
  · intro same chunk member
    rw [same] at inside
    have none : chunks.countP startsInside = 0 := by
      simp only [List.length_nil] at inside
      omega
    simpa using List.countP_eq_zero.mp none chunk member
  · intro apart
    apply clean rfl
    apply List.countP_eq_zero.mpr
    intro chunk member
    simp [apart chunk member]

end Chunks

end Shared.Utf8
