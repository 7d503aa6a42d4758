import Delego.Notifications.Dispatch
import Delego.Shared.Replace

set_option autoImplicit false

namespace Delego.Notifications.Email

open Shared Shared.Text
open Dispatch (ApprovalEmail)

structure TemplateData where
  entries : List (String × String)
  distinct : (entries.map Prod.fst).Nodup

def renderHtml (html : String) (data : TemplateData) : String :=
  data.entries.foldl
    (fun html (key, value) => replaceAll html ("\x7b\x7b" ++ key ++ "\x7d\x7d") value) html

def renderTemplate (readFile : String → Option String) (templateName : String) (data : TemplateData) :
    Option String :=
  (readFile ("../templates/" ++ templateName ++ ".html")).map fun html => renderHtml html data

def templateData (email : ApprovalEmail) : TemplateData where
  entries := [("orderId", email.orderId), ("amount", email.amount), ("approvalUrl", email.approvalUrl)]
  distinct := by simp

def placeholder (key : String) : List Char := '{' :: '{' :: key.toList ++ ['}', '}']

section Substitution

inductive Piece where
  | char (c : Char)
  | hole (key : String)
  deriving DecidableEq

def Piece.fill (value : String → Option String) : Piece → List Char
  | .char c => [c]
  | .hole key =>
    match value key with
    | some value => value.toList
    | none => placeholder key

-- Where the placeholders of two keys start, the shorter one is taken.
def holeAt (known : String → Bool) (text : List Char) : Option String :=
  ((List.range text.length).map fun length => String.ofList ((text.drop 2).take length)).find? fun key =>
    known key && (placeholder key).isPrefixOf text

def pieces (known : String → Bool) : Nat → List Char → List Piece
  | _, [] => []
  | skip + 1, _ :: rest => pieces known skip rest
  | 0, c :: rest =>
    match holeAt known (c :: rest) with
    | some key => .hole key :: pieces known ((placeholder key).length - 1) rest
    | none => .char c :: pieces known 0 rest

def valueIn (entries : List (String × String)) (key : String) : Option String := entries.lookup key

def TemplateData.pieces (data : TemplateData) (html : String) : List Piece :=
  Email.pieces (fun key => (valueIn data.entries key).isSome) 0 html.toList

def fillAll (value : String → Option String) (template : List Piece) : List Char :=
  template.flatMap (Piece.fill value)

def substitute (html : String) (data : TemplateData) : String :=
  String.ofList (fillAll (valueIn data.entries) (data.pieces html))

/-- In the text with some values in place, the placeholder of a key starts nowhere but where the template
has it. -/
def OnlyAtHoles (value : String → Option String) (key : String) : List Piece → Prop
  | [] => True
  | piece :: rest =>
    (piece ≠ .hole key → ∀ suffix ∈ (piece.fill value).tails, suffix ≠ [] →
      (placeholder key).isPrefixOf (suffix ++ fillAll value rest) = false) ∧
    OnlyAtHoles value key rest

instance (value : String → Option String) (key : String) (template : List Piece) :
    Decidable (OnlyAtHoles value key template) :=
  match template with
  | [] => .isTrue trivial
  | piece :: rest =>
    have := instDecidableOnlyAtHoles value key rest
    inferInstanceAs (Decidable ((piece ≠ .hole key → ∀ suffix ∈ (piece.fill value).tails, suffix ≠ [] →
      (placeholder key).isPrefixOf (suffix ++ fillAll value rest) = false) ∧ OnlyAtHoles value key rest))

/-- When the turn of a key comes, its placeholder stands only where the template has it, and the value
that goes there stands for itself. -/
def Undisturbed (html : String) (data : TemplateData) : Prop :=
  ∀ seen key value later, data.entries = seen ++ (key, value) :: later →
    (.hole key ∈ data.pieces html → Plain value.toList) ∧ OnlyAtHoles (valueIn seen) key (data.pieces html)

end Substitution

section Rendering

variable {known : String → Bool} {value value' : String → Option String} {key : String}

theorem holeAt_starts {text : List Char} (found : holeAt known text = some key) :
    placeholder key <+: text := by
  have test := List.find?_some found
  simp only [List.isPrefixOf_iff_prefix, Bool.and_eq_true] at test
  exact test.2

theorem pieces_chars (skip : Nat) (text : List Char) :
    fillAll (fun _ => none) (pieces known skip text) = text.drop skip := by
  induction text generalizing skip with
  | nil => simp [pieces, fillAll]
  | cons c rest ih =>
    cases skip with
    | succ skip => exact ih skip
    | zero =>
      rw [pieces]
      cases found : holeAt known (c :: rest) with
      | none =>
        change c :: fillAll _ (pieces known 0 rest) = _
        rw [ih]
        rfl
      | some key =>
        obtain ⟨tail, whole⟩ := holeAt_starts found
        change placeholder key ++ fillAll _ (pieces known _ rest) = _
        have same : rest.drop ((placeholder key).length - 1) = tail := by
          have dropped := congrArg (List.drop (placeholder key).length) whole
          rw [List.drop_left] at dropped
          rw [dropped]
          rfl
        rw [ih, same, whole, List.drop_zero]

theorem replaceFrom_fillAll {replacement : String} (before : List Char) {template : List Piece}
    (unset : value key = none) (plain : .hole key ∈ template → Plain replacement.toList)
    (only : OnlyAtHoles value key template) :
    replaceFrom (placeholder key) replacement.toList before 0 (fillAll value template) =
      fillAll (Function.update value key (some replacement)) template := by
  induction template generalizing before with
  | nil => rfl
  | cons piece rest ih =>
    obtain ⟨here, later⟩ := only
    have next := fun before => ih before (fun member => plain (List.mem_cons_of_mem _ member)) later
    change replaceFrom _ _ before 0 (piece.fill value ++ fillAll value rest) =
      piece.fill (Function.update value key (some replacement)) ++ fillAll _ rest
    by_cases same : piece = .hole key
    · cases same
      have unfilled : Piece.fill value (.hole key) = placeholder key := by
        simp [Piece.fill, unset]
      have filled : Piece.fill (Function.update value key (some replacement)) (.hole key) =
          replacement.toList := by
        simp [Piece.fill]
      rw [unfilled, filled, replaceFrom_match (by simp [placeholder]), next,
        expand_plain (plain List.mem_cons_self)]
    · have kept : piece.fill (Function.update value key (some replacement)) = piece.fill value := by
        cases piece with
        | char c => rfl
        | hole other =>
          have apart : other ≠ key := fun equal => same (by rw [equal])
          simp [Piece.fill, Function.update_of_ne apart]
      rw [replaceFrom_pass (here same), next, kept]

theorem valueIn_snoc {seen : List (String × String)} {replacement : String} (unset : valueIn seen key = none) :
    valueIn (seen ++ [(key, replacement)]) = Function.update (valueIn seen) key (some replacement) := by
  funext other
  by_cases same : other = key
  · cases same
    rw [Function.update_self, valueIn, List.lookup_append, ← valueIn, unset]
    simp
  · rw [Function.update_of_ne same, valueIn, List.lookup_append, List.lookup_cons, beq_false_of_ne same]
    simp [valueIn]

theorem placeholder_text (key : String) : ("\x7b\x7b" ++ key ++ "\x7d\x7d").toList = placeholder key := by
  simp [placeholder]

theorem renderHtml_eq {html : String} {data : TemplateData} (undisturbed : Undisturbed html data) :
    renderHtml html data = substitute html data := by
  have turns (later : List (String × String)) : ∀ seen, data.entries = seen ++ later →
      later.foldl (fun html (key, value) => replaceAll html ("\x7b\x7b" ++ key ++ "\x7d\x7d") value)
        (String.ofList (fillAll (valueIn seen) (data.pieces html))) = substitute html data := by
    induction later with
    | nil =>
      intro seen whole
      rw [substitute, whole, List.append_nil]
      rfl
    | cons entry later ih =>
      obtain ⟨key, value⟩ := entry
      intro seen whole
      have unset : valueIn seen key = none := by
        have distinct := data.distinct
        rw [whole, List.map_append, List.nodup_append] at distinct
        rw [valueIn, List.lookup_eq_none_iff]
        intro entry member
        exact bne_iff_ne.mpr fun same => distinct.2.2 entry.1 (List.mem_map_of_mem member) key
          (by simp) same.symm
      obtain ⟨plain, only⟩ := undisturbed seen key value later whole
      have turn := replaceFrom_fillAll [] unset plain only
      rw [List.foldl_cons]
      have next := ih (seen ++ [(key, value)]) (by rw [whole, List.append_assoc]; rfl)
      rw [valueIn_snoc unset] at next
      rw [← next, ← turn]
      simp only [replaceAll, placeholder_text, String.toList_ofList]
  have start : String.ofList (fillAll (valueIn []) (data.pieces html)) = html := by
    rw [TemplateData.pieces, show valueIn [] = fun _ => none from rfl, pieces_chars, List.drop_zero,
      String.ofList_toList]
  have all := turns data.entries [] rfl
  rwa [start] at all

end Rendering

/-- What is rendered is the template with all its placeholders replaced at once, if no placeholder comes to
stand where the template has none and no value has a pattern of the replacement. -/
theorem rendered_simultaneously (readFile : String → Option String) (templateName html : String)
    (data : TemplateData) (found : readFile ("../templates/" ++ templateName ++ ".html") = some html)
    (undisturbed : Undisturbed html data) :
    renderTemplate readFile templateName data = some (substitute html data) := by
  rw [renderTemplate, found, Option.map_some, renderHtml_eq undisturbed]

theorem substitute_congr {html : String} {data data' : TemplateData}
    (same : valueIn data.entries = valueIn data'.entries) : substitute html data = substitute html data' := by
  rw [substitute, substitute, TemplateData.pieces, TemplateData.pieces, same]

def sampleEmail (orderId : String) : ApprovalEmail where
  recipient := "user@delego.app"
  subject := "Purchase Approval Required"
  templateName := "approval-request"
  orderId
  amount := "5"
  approvalUrl := "/approve"

def sampleTemplate : String := "#\x7b\x7borderId\x7d\x7d: \x7b\x7bamount\x7d\x7d"

theorem rendered_simultaneously_dollar :
    renderTemplate (fun _ => some sampleTemplate) "approval-request" (templateData (sampleEmail "$1")) =
      some (substitute sampleTemplate (templateData (sampleEmail "$1"))) := by
  apply rendered_simultaneously _ _ sampleTemplate _ rfl
  have template : (templateData (sampleEmail "$1")).pieces sampleTemplate =
      [.char '#', .hole "orderId", .char ':', .char ' ', .hole "amount"] := by
    decide +kernel
  intro seen key value later whole
  rw [template]
  rcases seen with _ | ⟨first, _ | ⟨second, _ | ⟨third, seen⟩⟩⟩
  · cases whole
    refine ⟨fun _ => ?_, by decide +kernel⟩
    simp only [Plain, List.forall_mem_cons, List.not_mem_nil, false_imp_iff, implies_true, and_true]
    decide +kernel
  · cases whole
    refine ⟨fun _ => ?_, by decide +kernel⟩
    simp only [Plain, List.forall_mem_cons, List.not_mem_nil, false_imp_iff, implies_true, and_true]
    decide +kernel
  · cases whole
    exact ⟨by simp, by decide +kernel⟩
  · have lengths := congrArg List.length whole
    simp [templateData] at lengths

-- The order id of one user brings in the placeholder of another key.
theorem placeholder_in_value_replaced :
    ¬ renderTemplate (fun _ => some sampleTemplate) "approval-request"
        (templateData (sampleEmail "\x7b\x7bamount\x7d\x7d")) =
      some (substitute sampleTemplate (templateData (sampleEmail "\x7b\x7bamount\x7d\x7d"))) := by
  decide +kernel

end Delego.Notifications.Email
