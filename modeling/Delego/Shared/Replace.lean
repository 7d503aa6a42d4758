import Mathlib.Data.List.Infix

set_option autoImplicit false

namespace Shared.Text

-- A replacement has its own syntax: `$$`, `$&`, and `$` with a backtick or an apostrophe.
def expand (before matched after : List Char) : List Char → List Char
  | '$' :: '$' :: rest => '$' :: expand before matched after rest
  | '$' :: '&' :: rest => matched ++ expand before matched after rest
  | '$' :: '\x60' :: rest => before ++ expand before matched after rest
  | '$' :: '\x27' :: rest => after ++ expand before matched after rest
  | c :: rest => c :: expand before matched after rest
  | [] => []

-- The pattern is not empty; what it has matched is skipped.
def replaceFrom (pattern replacement before : List Char) : Nat → List Char → List Char
  | _, [] => []
  | skip + 1, c :: rest => replaceFrom pattern replacement (before ++ [c]) skip rest
  | 0, c :: rest =>
    if pattern.isPrefixOf (c :: rest) then
      expand before pattern ((c :: rest).drop pattern.length) replacement ++
        replaceFrom pattern replacement (before ++ [c]) (pattern.length - 1) rest
    else c :: replaceFrom pattern replacement (before ++ [c]) 0 rest

def replaceAll (text pattern replacement : String) : String :=
  String.ofList (replaceFrom pattern.toList replacement.toList [] 0 text.toList)

section Scan

variable {pattern replacement before matched after : List Char}

def Plain (replacement : List Char) : Prop :=
  ∀ c ∈ ['$', '&', '\x60', '\x27'], ¬ ['$', c] <:+: replacement

theorem expand_plain (plain : Plain replacement) : expand before matched after replacement = replacement := by
  induction replacement with
  | nil => rfl
  | cons c rest ih =>
    have later : Plain rest := by
      intro mark member within
      exact plain mark member (within.trans (List.suffix_cons ..).isInfix)
    have first (mark : Char) (member : mark ∈ ['$', '&', '\x60', '\x27']) (more : List Char) :
        c :: rest ≠ '$' :: mark :: more := by
      intro same
      exact plain mark member (same ▸ ⟨[], more, rfl⟩)
    unfold expand
    split
    · next same => exact absurd same (first '$' (by decide) _)
    · next same => exact absurd same (first '&' (by decide) _)
    · next same => exact absurd same (first '\x60' (by decide) _)
    · next same => exact absurd same (first '\x27' (by decide) _)
    · next same =>
      cases same
      rw [ih later]
    · next same => cases same

theorem replaceFrom_skip (chars rest : List Char) :
    replaceFrom pattern replacement before chars.length (chars ++ rest) =
      replaceFrom pattern replacement (before ++ chars) 0 rest := by
  induction chars generalizing before with
  | nil => simp
  | cons c chars ih =>
    rw [List.length_cons, List.cons_append, replaceFrom, ih, List.append_assoc, List.singleton_append]

theorem replaceFrom_pass {chars rest : List Char}
    (nowhere : ∀ suffix ∈ chars.tails, suffix ≠ [] → pattern.isPrefixOf (suffix ++ rest) = false) :
    replaceFrom pattern replacement before 0 (chars ++ rest) =
      chars ++ replaceFrom pattern replacement (before ++ chars) 0 rest := by
  induction chars generalizing before with
  | nil => simp
  | cons c chars ih =>
    have here := nowhere (c :: chars) (by simp) (by simp)
    rw [List.cons_append] at here
    rw [List.cons_append, replaceFrom, here, if_neg Bool.false_ne_true, ih, List.append_assoc]
    · rfl
    · intro suffix member
      exact nowhere suffix (by simp only [List.tails, List.mem_cons, member, or_true])

theorem replaceFrom_match {rest : List Char} (nonempty : pattern ≠ []) :
    replaceFrom pattern replacement before 0 (pattern ++ rest) =
      expand before pattern rest replacement ++ replaceFrom pattern replacement (before ++ pattern) 0 rest := by
  cases pattern with
  | nil => exact absurd rfl nonempty
  | cons c chars =>
    have here : (c :: chars).isPrefixOf (c :: (chars ++ rest)) = true :=
      List.isPrefixOf_iff_prefix.mpr (List.prefix_append (c :: chars) rest)
    rw [List.cons_append, replaceFrom, if_pos here, ← List.cons_append, List.drop_left, List.length_cons,
      Nat.add_sub_cancel, replaceFrom_skip, List.append_assoc, List.singleton_append]

end Scan

end Shared.Text
