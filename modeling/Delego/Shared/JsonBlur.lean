import Delego.Shared.JsonText
import Delego.Shared.Utf8

set_option autoImplicit false

namespace Shared.JsonText

open Utf8

section Blurring

variable {α : Type} {text text' rest rest' : List Char} {c : Char}

theorem isSpace_narrow (c : Char) (space : isSpace c = true) : c.toNat < 0x80 := by
  simp only [isSpace, Bool.or_eq_true, decide_eq_true_eq] at space
  rcases space with ((rfl | rfl) | rfl) | rfl <;> decide

theorem isNumeral_narrow (c : Char) (numeral : isNumeral c = true) : c.toNat < 0x80 := by
  simp only [isNumeral, Bool.or_eq_true, decide_eq_true_eq] at numeral
  rcases numeral with ((((isDigit | rfl) | rfl) | rfl) | rfl) | rfl
  · have bounds := Number.isDigit_bounds isDigit
    omega
  all_goals decide

/-- What is read from a text is read from a blurred one as well, and is the same only where nothing that
was read has been blurred. -/
def Reads (read read' : List Char → Option (α × List Char)) : Prop :=
  ∀ {text text' : List Char} {result : α} {rest : List Char}, Blurred text text' → read text = some (result, rest) →
    ∃ result' rest', read' text' = some (result', rest') ∧ Blurred rest rest' ∧
      (text' = text ↔ result' = result ∧ rest' = rest)

theorem skip_blurred (blurred : Blurred text text') :
    Blurred (skip text) (skip text') ∧ (text' = text ↔ skip text' = skip text) :=
  ⟨(Blurred.alike isSpace_narrow blurred).2, Blurred.same_known isSpace_narrow blurred⟩

theorem skip_next (narrow : c.toNat < 0x80) (next : skip text = c :: rest) (blurred : Blurred text text') :
    ∃ rest', skip text' = c :: rest' ∧ Blurred rest rest' ∧ (text' = text ↔ rest' = rest) := by
  obtain ⟨skipped, same⟩ := skip_blurred blurred
  rw [next] at skipped
  obtain ⟨rest', next', later⟩ := Blurred.narrow narrow skipped
  refine ⟨rest', next', later, ?_⟩
  rw [same, next, next', List.cons.injEq]
  simp

theorem literal_reads {word : List Char} (value : Value) (narrow : (word.all fun c => c.toNat < 0x80) = true) :
    Reads (literal word value) (literal word value) := by
  have each : ∀ c ∈ word, c.toNat < 0x80 := by simpa using narrow
  intro text text' result rest blurred read
  unfold literal at read
  split at read
  · rename_i begins
    obtain ⟨later, rfl⟩ := List.isPrefixOf_iff_prefix.mp begins
    obtain ⟨later', rfl, after⟩ := Blurred.narrows each blurred
    cases read
    refine ⟨value, later', ?_, ?_, ?_⟩
    · simp [literal]
    · simpa using after
    · simp
  · cases read

theorem number_reads : Reads number number := by
  intro text text' result rest blurred read
  obtain ⟨lexeme, later⟩ := Blurred.alike isNumeral_narrow blurred
  by_cases valid : isNumber (text.takeWhile isNumeral) = true
  · simp only [number, valid, if_true] at read
    cases read
    refine ⟨.number (Number.ofText (String.ofList (text.takeWhile isNumeral))), _, ?_, later, ?_⟩
    · simp only [number, lexeme, valid, if_true]
    · rw [Blurred.same_known isNumeral_narrow blurred]
      simp
  · simp [number, valid] at read

theorem hexUnit_narrow {digits : List Char} {unit : Units} (read : hexUnit digits = some unit) :
    ∀ c ∈ digits, c.toNat < 0x80 := by
  obtain ⟨value, natural, _⟩ := Option.map_eq_some_iff.mp read
  intro c member
  have visible := (Number.natural_visible natural c member).2
  omega

theorem escaped_narrow {letter : Char} {unit : Units} (read : escaped letter = some unit) :
    letter.toNat < 0x80 := by
  unfold escaped at read
  split at read
  all_goals first
    | decide
    | cases read

theorem count_units (c : Char) : (units c).count 0xFFFD ≤ 1 := by
  unfold units
  split
  · exact List.count_le_length
  · have first : 0xD800 + (c.toNat - 0x10000) / 0x400 ≠ 0xFFFD := by
      have valid : c.toNat < 0xD800 ∨ 0xDFFF < c.toNat ∧ c.toNat < 0x110000 := c.valid
      omega
    have second : 0xDC00 + (c.toNat - 0x10000) % 0x400 ≠ 0xFFFD := by omega
    simp [first, second]

theorem characters_quote (text : List Char) : characters ('"' :: text) = some ([], text) := by
  rw [characters.eq_def]
  rfl

theorem characters_unit (first second third fourth : Char) (text : List Char) :
    characters ('\\' :: 'u' :: first :: second :: third :: fourth :: text) =
      joined (hexUnit [first, second, third, fourth]) (characters text) := by
  rw [characters.eq_def]
  rfl

theorem characters_escaped {letter : Char} (other : letter ≠ 'u') (text : List Char) :
    characters ('\\' :: letter :: text) = joined (escaped letter) (characters text) := by
  rw [characters.eq_def]
  simp [other]

theorem characters_plain (unquoted : c ≠ '"') (plain : c ≠ '\\') (visible : ¬ c.toNat < 0x20)
    (text : List Char) :
    characters (c :: text) = joined (some (units c)) (characters text) := by
  rw [characters.eq_def]
  simp only [unquoted, plain, visible, if_false]

theorem characters_replaced (count : Nat) (text : List Char) :
    characters (List.replicate count replacement ++ text) =
      joined (some (List.replicate count 0xFFFD)) (characters text) := by
  induction count with
  | zero => cases read : characters text <;> simp [joined, read]
  | succ count ih =>
    have step (text : List Char) : characters (replacement :: text) = joined (some [0xFFFD]) (characters text) :=
      characters_plain (by decide) (by decide) (by decide) text
    rw [List.replicate_succ, List.cons_append, step, ih]
    cases read : characters text <;> simp [joined, List.replicate_succ]

/-- From the blurred text at least as many replacement characters are read, and just as many only where
nothing that was read has been blurred. -/
def Grown (text text' : List Char) (result : Units) (rest : List Char) (read' : Option (Units × List Char)) : Prop :=
  ∃ result' rest', read' = some (result', rest') ∧ Blurred rest rest' ∧
    result.count 0xFFFD ≤ result'.count 0xFFFD ∧
    (result'.count 0xFFFD = result.count 0xFFFD → rest' = rest → text' = text)

theorem Grown.joined {result : Units} {read' : Option (Units × List Char)} (front : Units) (chars : List Char)
    (grown : Grown text text' result rest read') :
    Grown (chars ++ text) (chars ++ text') (front ++ result) rest (joined (some front) read') := by
  obtain ⟨result', rest', rfl, blurred, more, same⟩ := grown
  refine ⟨front ++ result', rest', rfl, blurred, ?_, ?_⟩
  · rw [List.count_append, List.count_append]
    omega
  · intro count rests
    rw [List.count_append, List.count_append] at count
    rw [same (by omega) rests]

theorem characters_blurred {result : Units} (blurred : Blurred text text')
    (read : characters text = some (result, rest)) : Grown text text' result rest (characters text') := by
  fun_induction characters text generalizing text' result with
  | case1 | case3 | case5 | case7 => cases read
  | case2 later =>
    cases read
    obtain ⟨later', rfl, after⟩ := Blurred.narrow (by decide) blurred
    exact ⟨[], later', characters_quote later', after, le_rfl, fun _ same => by rw [same]⟩
  | case4 first second third fourth later plain ih =>
    obtain ⟨unit, units, hex, laterRead, rfl⟩ := joined_eq_some read
    have narrow : ∀ c ∈ ['\\', 'u', first, second, third, fourth], c.toNat < 0x80 :=
      List.forall_mem_cons.mpr ⟨by decide, List.forall_mem_cons.mpr ⟨by decide, hexUnit_narrow hex⟩⟩
    obtain ⟨later', rfl, after⟩ := Blurred.narrows narrow blurred
    have grown := (ih after laterRead).joined unit ['\\', 'u', first, second, third, fourth]
    rw [← hex, ← characters_unit] at grown
    exact grown
  | case6 letter later other plain ih =>
    obtain ⟨unit, units, escape, laterRead, rfl⟩ := joined_eq_some read
    have narrow : ∀ c ∈ ['\\', letter], c.toNat < 0x80 :=
      List.forall_mem_cons.mpr ⟨by decide, by simpa using escaped_narrow escape⟩
    obtain ⟨later', rfl, after⟩ := Blurred.narrows narrow blurred
    have grown := (ih after laterRead).joined unit ['\\', letter]
    rw [← escape, ← characters_escaped other] at grown
    exact grown
  | case8 c later unquoted plain visible ih =>
    obtain ⟨unit, result, here, laterRead, rfl⟩ := joined_eq_some read
    cases here
    cases blurred with
    | same _ after =>
      have grown := (ih after laterRead).joined (units c) [c]
      rw [← characters_plain unquoted plain visible] at grown
      exact grown
    | broken _ more wide after =>
      obtain ⟨result', rest', laterRead', rests, counts, _⟩ := ih after laterRead
      have one := count_units c
      rw [characters_replaced, laterRead']
      refine ⟨_, _, rfl, rests, ?_, ?_⟩
      · rw [List.count_append, List.count_append, List.count_replicate_self]
        omega
      · intro same
        rw [List.count_append, List.count_append, List.count_replicate_self] at same
        omega

theorem characters_reads : Reads characters characters := by
  intro text text' result rest blurred read
  obtain ⟨result', rest', read', rests, _, same⟩ := characters_blurred blurred read
  refine ⟨result', rest', read', rests, ?_, ?_⟩
  · rintro rfl
    cases read.symm.trans read'
    exact ⟨rfl, rfl⟩
  · rintro ⟨rfl, rests⟩
    exact same rfl rests

theorem separated_reads {item item' : List Char → Option (α × List Char)} {close : Char} {items : List α}
    {fuel fuel' : Nat} (reads : Reads item item') (narrow : close.toNat < 0x80) (enough : fuel ≤ fuel')
    (blurred : Blurred text text') (read : separated item close fuel text = some (items, rest)) :
    ∃ items' rest', separated item' close fuel' text' = some (items', rest') ∧ Blurred rest rest' ∧
      items'.length = items.length ∧ (text' = text ↔ items' = items ∧ rest' = rest) := by
  induction fuel generalizing fuel' text text' items with
  | zero => cases read
  | succ fuel ih =>
    obtain ⟨fuel', rfl⟩ : ∃ more, fuel' = more + 1 := ⟨fuel' - 1, by omega⟩
    rw [separated] at read
    split at read
    · cases read
    · rename_i first after firstRead
      obtain ⟨first', after', firstRead', afters, firstSame⟩ := reads blurred firstRead
      split at read
      · cases read
      · rename_i c later next
        split at read
        · rename_i closes
          cases read
          cases closes
          obtain ⟨rest', next', rests, same⟩ := skip_next narrow next afters
          refine ⟨[first'], rest', ?_, rests, rfl, ?_⟩
          · rw [separated, firstRead']
            simp only [next', if_true]
          · rw [firstSame, same]
            simp
        · rename_i other
          split at read
          · rename_i comma
            cases comma
            split at read
            · rename_i items rest laterRead
              cases read
              obtain ⟨rest', next', rests, same⟩ := skip_next (by decide) next afters
              obtain ⟨items', last, laterRead', lasts, lengths, laterSame⟩ :=
                ih (Nat.le_of_succ_le_succ enough) rests laterRead
              refine ⟨first' :: items', last, ?_, lasts, by simp [lengths], ?_⟩
              · rw [separated, firstRead']
                simp only [next', other, if_false, if_true, laterRead']
              · rw [firstSame, same, laterSame]
                simp [and_assoc]
            · cases read
          · cases read

theorem skip_other {close : Char} (narrow : close.toNat < 0x80) (next : skip text = c :: rest)
    (other : c ≠ close) (blurred : Blurred text text') : ∃ c' rest', skip text' = c' :: rest' ∧ c' ≠ close := by
  have skipped := (skip_blurred blurred).1
  rw [next] at skipped
  cases skipped' : skip text' with
  | nil =>
    rw [skipped'] at skipped
    cases skipped
  | cons c' rest' =>
    rw [skipped'] at skipped
    refine ⟨c', rest', rfl, ?_⟩
    generalize whole : c' :: rest' = later at skipped
    cases skipped with
    | same _ after =>
      cases whole
      exact other
    | broken _ more wide after =>
      cases whole
      rintro rfl
      exact absurd narrow (by decide)

theorem enclosed_reads {item item' : List Char → Option (α × List Char)} {close : Char} {items : List α}
    {fuel fuel' : Nat} (reads : Reads item item') (narrow : close.toNat < 0x80) (enough : fuel ≤ fuel')
    (blurred : Blurred text text') (read : enclosed item close fuel text = some (items, rest)) :
    ∃ items' rest', enclosed item' close fuel' text' = some (items', rest') ∧ Blurred rest rest' ∧
      items'.length = items.length ∧ (text' = text ↔ items' = items ∧ rest' = rest) := by
  unfold enclosed at read
  split at read
  · cases read
  · rename_i c later next
    split at read
    · rename_i closes
      cases read
      cases closes
      obtain ⟨rest', next', rests, same⟩ := skip_next narrow next blurred
      refine ⟨[], rest', ?_, rests, rfl, ?_⟩
      · simp only [enclosed, next', if_true]
      · rw [same]
        simp
    · rename_i other
      obtain ⟨items', rest', read', rests, lengths, same⟩ := separated_reads reads narrow enough blurred read
      obtain ⟨c', later', next', other'⟩ := skip_other narrow next other blurred
      refine ⟨items', rest', ?_, rests, lengths, same⟩
      simp only [enclosed, next', other', if_false, read']

theorem member_reads {read read' : List Char → Option (Value × List Char)} (reads : Reads read read') :
    Reads (member read) (member read') := by
  intro text text' result rest blurred found
  unfold member at found
  split at found
  · rename_i quoted next
    split at found
    · cases found
    · rename_i name named nameRead
      split at found
      · rename_i after colon
        split at found
        · rename_i value last valueRead
          cases found
          obtain ⟨quoted', next', quotes, quoteSame⟩ := skip_next (by decide) next blurred
          obtain ⟨name', named', nameRead', nameds, nameSame⟩ := characters_reads quotes nameRead
          obtain ⟨after', colon', afters, colonSame⟩ := skip_next (by decide) colon nameds
          obtain ⟨value', last', valueRead', lasts, valueSame⟩ := reads afters valueRead
          refine ⟨(name', value'), last', ?_, lasts, ?_⟩
          · simp only [member, next', nameRead', colon', valueRead']
          · rw [quoteSame, nameSame, colonSame, valueSame]
            simp [and_assoc]
        · cases found
      · cases found
  · cases found

theorem strict_same {members kept members' : List (Units × Value)} (distinct : strict members = some kept)
    (lengths : members'.length = members.length) : assign members' = kept ↔ members' = members := by
  unfold strict at distinct
  split at distinct
  · rename_i distinct
    cases distinct
    constructor
    · intro same
      rw [← same]
      exact (assign_full (by rw [same, lengths])).symm
    · rintro rfl
      exact assign_distinct distinct
  · cases distinct

theorem Reads.after {read read' : List Char → Option (α × List Char)} {result : α} {later : List Char}
    (reads : Reads read read') (narrow : c.toNat < 0x80) (blurred : Blurred (c :: rest) text')
    (found : read rest = some (result, later)) :
    ∃ rest' result' later', text' = c :: rest' ∧ read' rest' = some (result', later') ∧ Blurred later later' ∧
      (text' = c :: rest ↔ result' = result ∧ later' = later) := by
  obtain ⟨rest', rfl, after⟩ := Blurred.narrow narrow blurred
  obtain ⟨result', later', found', laters, same⟩ := reads after found
  refine ⟨rest', result', later', rfl, found', laters, ?_⟩
  rw [List.cons.injEq, same]
  simp

theorem valueFrom_reads {value value' : List Char → Option (Value × List Char)} {fuel fuel' : Nat}
    (reads : Reads value value') (enough : fuel ≤ fuel') :
    Reads (valueFrom strict value fuel) (valueFrom (fun members => some (assign members)) value' fuel') := by
  intro text text' result rest blurred read
  revert read
  fun_cases valueFrom strict value fuel text with
  | case1 | case3 | case5 | case7 | case8 =>
    intro read
    cases read
  | case2 later units after unitsRead =>
    intro read
    cases read
    obtain ⟨later', units', rest', rfl, unitsRead', rests, same⟩ :=
      Reads.after characters_reads (by decide) blurred unitsRead
    refine ⟨.string units', rest', ?_, rests, ?_⟩
    · simp [valueFrom, unitsRead']
    · rw [same, Value.string.injEq]
  | case4 later items after itemsRead =>
    intro read
    cases read
    obtain ⟨later', rfl, inner⟩ := Blurred.narrow (by decide) blurred
    obtain ⟨items', rest', itemsRead', rests, _, same⟩ :=
      enclosed_reads reads (by decide) enough inner itemsRead
    refine ⟨.array items', rest', ?_, rests, ?_⟩
    · simp [valueFrom, itemsRead']
    · rw [List.cons.injEq, same, Value.array.injEq]
      simp
  | case6 later members after membersRead kept distinct =>
    intro read
    cases read
    obtain ⟨later', rfl, inner⟩ := Blurred.narrow (by decide) blurred
    obtain ⟨members', rest', membersRead', rests, lengths, same⟩ :=
      enclosed_reads (member_reads reads) (by decide) enough inner membersRead
    refine ⟨.object (assign members'), rest', ?_, rests, ?_⟩
    · simp [valueFrom, membersRead']
    · rw [List.cons.injEq, same, Value.object.injEq, strict_same distinct lengths]
      simp
  | case9 later =>
    intro read
    obtain ⟨later', value, rest', rfl, read', rests, same⟩ :=
      Reads.after (literal_reads (.bool true) (by decide)) (by decide) blurred read
    exact ⟨value, rest', read', rests, same⟩
  | case10 later =>
    intro read
    obtain ⟨later', value, rest', rfl, read', rests, same⟩ :=
      Reads.after (literal_reads (.bool false) (by decide)) (by decide) blurred read
    exact ⟨value, rest', read', rests, same⟩
  | case11 later =>
    intro read
    obtain ⟨later', value, rest', rfl, read', rests, same⟩ :=
      Reads.after (literal_reads .null (by decide)) (by decide) blurred read
    exact ⟨value, rest', read', rests, same⟩
  | case12 c later unquoted unbracketed unbraced notTrue notFalse notNull =>
    intro read
    obtain ⟨later', rfl, _⟩ := Blurred.narrow (isNumeral_narrow c (number_starts read)) blurred
    obtain ⟨value, rest', read', rests, same⟩ := number_reads blurred read
    refine ⟨value, rest', ?_, rests, same⟩
    simp only [valueFrom, unquoted, unbracketed, unbraced, notTrue, notFalse, notNull, if_false, read']

theorem value_reads {fuel fuel' : Nat} (enough : fuel ≤ fuel') :
    Reads (value strict fuel) (value (fun members => some (assign members)) fuel') := by
  induction fuel generalizing fuel' with
  | zero =>
    intro text text' result rest _ read
    cases read
  | succ fuel ih =>
    obtain ⟨fuel', rfl⟩ : ∃ more, fuel' = more + 1 := ⟨fuel' - 1, by omega⟩
    have enough := Nat.le_of_succ_le_succ enough
    intro text text' result rest blurred read
    obtain ⟨skipped, start⟩ := skip_blurred blurred
    obtain ⟨result', rest', read', rests, same⟩ := valueFrom_reads (ih enough) enough skipped read
    exact ⟨result', rest', read', rests, start.trans same⟩

theorem parse_blurred (blurred : Blurred text text') (unrepeated : Unrepeated text) :
    ∃ parsed parsed', parse text = some parsed ∧ parse text' = some parsed' ∧
      (parsed' = parsed ↔ text' = text) := by
  obtain ⟨parsed, found⟩ := Option.isSome_iff_exists.mp unrepeated
  unfold parseWith at found
  split at found
  · rename_i parsed rest read
    split at found
    · rename_i last
      cases found
      -- Nothing but spaces is left of either text.
      have ends {rest' : List Char} (rests : Blurred rest rest') : skip rest' = [] ∧ rest' = rest := by
        obtain ⟨skipped, same⟩ := skip_blurred rests
        rw [last] at skipped same
        have last' : skip rest' = [] := by
          generalize skip rest' = later at skipped
          cases skipped
          rfl
        exact ⟨last', same.mpr last'⟩
      obtain ⟨plain, rest', plainRead, rests, plainSame⟩ :=
        value_reads (Nat.le_refl (text.length + 1)) (Blurred.refl text) read
      obtain ⟨rfl, rfl⟩ := plainSame.mp rfl
      obtain ⟨parsed', rest', read', rests', same⟩ :=
        value_reads (Nat.succ_le_succ (Blurred.length blurred)) blurred read
      obtain ⟨last', restSame⟩ := ends rests'
      refine ⟨plain, parsed', ?_, ?_, ?_⟩
      · simp only [parse, parseWith, plainRead, last, if_true]
      · simp only [parse, parseWith, read', last', if_true]
      · rw [same]
        simp [restSame]
    · cases found
  · cases found

end Blurring

end Shared.JsonText
