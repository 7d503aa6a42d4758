import Delego.Shared.JsonBlur

set_option autoImplicit false

namespace Delego.Http

open Shared Shared.Utf8 Shared.JsonText

abbrev Chunk := List UInt8

def exceeds (size : Nat) : Number → Bool
  | .finite limit => limit < size
  | .infinite negative => negative
  | .nan => false

def withinLimit (limit : Number) : Nat → List Chunk → Bool
  | _, [] => true
  | size, chunk :: chunks =>
    ! exceeds (size + chunk.length) limit && withinLimit limit (size + chunk.length) chunks

/-- `body += chunk` for one chunk after the other. -/
def appended (chunks : List Chunk) : List Char := chunks.foldl (fun body chunk => body ++ decode chunk) []

def parseBody (body : List Char) : Option Value :=
  if body = [] then some (.object []) else parse body

-- The reader of a service that takes whatever value is in the body.
def readAppended (chunks : List Chunk) : Except String Value :=
  match parseBody (appended chunks) with
  | some parsed => .ok parsed
  | none => .error "Invalid JSON body"

namespace Payments

def readJsonBody (chunks : List Chunk) : Except String Value := readAppended chunks

end Payments

namespace Wallet

def readJsonBody (chunks : List Chunk) : Except String Value := readAppended chunks

end Wallet

namespace Orchestrator

def readJsonBody (maxRequestBodyBytes : Number) (chunks : List Chunk) : Except String Value :=
  if withinLimit maxRequestBodyBytes 0 chunks then
    match parseBody (appended chunks) with
    | some (.object members) => .ok (.object members)
    | _ => .error "Invalid JSON body"
  else .error "Request body too large"

end Orchestrator

namespace Gateway

def readJsonBody (maxBodySize : Number) (chunks : List Chunk) : Except String Value :=
  if withinLimit maxBodySize 0 chunks then
    match parseBody (decode chunks.flatten) with
    | some parsed => .ok parsed
    | none => .error "Invalid JSON body"
  else .error "Body too large"

end Gateway

structure Alike (maxRequestBodyBytes maxBodySize : Number) (chunks : List Chunk) : Prop where
  payments : Payments.readJsonBody chunks = Payments.readJsonBody [chunks.flatten]
  wallet : Wallet.readJsonBody chunks = Wallet.readJsonBody [chunks.flatten]
  orchestrator : Orchestrator.readJsonBody maxRequestBodyBytes chunks =
    Orchestrator.readJsonBody maxRequestBodyBytes [chunks.flatten]
  gateway : Gateway.readJsonBody maxBodySize chunks = Gateway.readJsonBody maxBodySize [chunks.flatten]

section Readers

variable {text : List Char} {chunks : List Chunk} {limit : Number}

theorem appended_eq (chunks : List Chunk) : appended chunks = chunks.flatMap decode := by
  have after (chunks : List Chunk) : ∀ body : List Char,
      chunks.foldl (fun body chunk => body ++ decode chunk) body = body ++ chunks.flatMap decode := by
    induction chunks with
    | nil => simp
    | cons chunk chunks ih =>
      intro body
      rw [List.foldl_cons, ih, List.flatMap_cons, List.append_assoc]
  exact after chunks []

theorem appended_whole (text : List Char) : appended [encode text] = text := by
  have decoded := decode_encode text []
  rw [List.append_nil, show decode [] = [] from rfl, List.append_nil] at decoded
  rw [appended_eq, List.flatMap_cons, decoded]
  simp

theorem exceeds_mono {size size' : Nat} (less : size ≤ size') (within : exceeds size' limit = false) :
    exceeds size limit = false := by
  cases limit with
  | finite limit =>
    simp only [exceeds, decide_eq_false_iff_not, not_lt] at within ⊢
    exact (Nat.cast_le.mpr less).trans within
  | infinite | nan => exact within

theorem withinLimit_of_total (size : Nat) (within : exceeds (size + chunks.flatten.length) limit = false) :
    withinLimit limit size chunks = true := by
  induction chunks generalizing size with
  | nil => rfl
  | cons chunk chunks ih =>
    rw [List.flatten_cons, List.length_append, ← Nat.add_assoc] at within
    rw [withinLimit, ih _ within, exceeds_mono (Nat.le_add_right _ _) within]
    rfl

theorem withinLimit_whole (within : exceeds chunks.flatten.length limit = false) :
    withinLimit limit 0 chunks = true ∧ withinLimit limit 0 [chunks.flatten] = true := by
  refine ⟨withinLimit_of_total 0 (by rwa [Nat.zero_add]), withinLimit_of_total 0 ?_⟩
  simpa using within

theorem gateway_alike (within : exceeds chunks.flatten.length limit = false) :
    Gateway.readJsonBody limit chunks = Gateway.readJsonBody limit [chunks.flatten] := by
  obtain ⟨come, comeWhole⟩ := withinLimit_whole within
  simp [Gateway.readJsonBody, come, comeWhole]

theorem alike_of_text {other : Number} (same : appended chunks = appended [chunks.flatten])
    (within : exceeds chunks.flatten.length limit = false)
    (within' : exceeds chunks.flatten.length other = false) :
    Alike limit other chunks := by
  obtain ⟨come, comeWhole⟩ := withinLimit_whole within
  refine ⟨?_, ?_, ?_, gateway_alike within'⟩
  · rw [Payments.readJsonBody, Payments.readJsonBody, readAppended, readAppended, same]
  · rw [Wallet.readJsonBody, Wallet.readJsonBody, readAppended, readAppended, same]
  · rw [Orchestrator.readJsonBody, Orchestrator.readJsonBody, same, come, comeWhole]

theorem appended_same_iff (whole : chunks.flatten = encode text) :
    appended chunks = appended [chunks.flatten] ↔ ∀ chunk ∈ chunks, startsInside chunk = false := by
  rw [whole, appended_whole, appended_eq]
  exact (chunks_blurred whole).2

theorem readAppended_some {parsed : Value} (read : parse (appended chunks) = some parsed) :
    readAppended chunks = .ok parsed := by
  have nonempty : appended chunks ≠ [] := by
    intro empty
    rw [empty] at read
    cases read
  rw [readAppended, parseBody, if_neg nonempty, read]

theorem text_of_same (unrepeated : Unrepeated text) (whole : chunks.flatten = encode text)
    (same : readAppended chunks = readAppended [chunks.flatten]) :
    ∀ chunk ∈ chunks, startsInside chunk = false := by
  obtain ⟨blurred, decoded⟩ := chunks_blurred whole
  rw [← appended_eq] at blurred decoded
  obtain ⟨parsed, parsed', read, read', equal⟩ := parse_blurred blurred unrepeated
  rw [← appended_whole text, ← whole] at read
  rw [readAppended_some read, readAppended_some read', Except.ok.injEq, equal] at same
  exact decoded.mp same

end Readers

/-- The readers make of the chunks of a body what they make of it in one chunk if no chunk starts inside of
a character; and where the body names no member twice, only then. -/
theorem bodies_alike_iff (maxRequestBodyBytes maxBodySize : Number) (text : List Char) (chunks : List Chunk)
    (whole : chunks.flatten = encode text) (small : exceeds (encode text).length maxRequestBodyBytes = false)
    (small' : exceeds (encode text).length maxBodySize = false) :
    ((∀ chunk ∈ chunks, startsInside chunk = false) → Alike maxRequestBodyBytes maxBodySize chunks) ∧
      (Unrepeated text → Alike maxRequestBodyBytes maxBodySize chunks →
        ∀ chunk ∈ chunks, startsInside chunk = false) := by
  rw [← whole] at small small'
  constructor
  · intro outside
    exact alike_of_text ((appended_same_iff whole).mpr outside) small small'
  · intro unrepeated alike
    exact text_of_same unrepeated whole alike.payments

def isObject : Option Value → Bool
  | some (.object _) => true
  | _ => false

def sampleText : List Char := "\x7b\"a\":\"é\"\x7d".toList

theorem bodies_alike_iff_between :
    ((∀ chunk ∈ [(encode sampleText).take 6, (encode sampleText).drop 6], startsInside chunk = false) →
        Alike (.finite 1048576) (.finite 1048576) [(encode sampleText).take 6, (encode sampleText).drop 6]) ∧
      (Unrepeated sampleText →
        Alike (.finite 1048576) (.finite 1048576) [(encode sampleText).take 6, (encode sampleText).drop 6] →
        ∀ chunk ∈ [(encode sampleText).take 6, (encode sampleText).drop 6], startsInside chunk = false) :=
  bodies_alike_iff (.finite 1048576) (.finite 1048576) sampleText _ (by decide) (by decide +kernel)
    (by decide +kernel)

-- The two bytes of the wider character come apart.
def brokenChunks : List Chunk := [(encode sampleText).take 7, (encode sampleText).drop 7]

theorem broken_character_misread :
    ¬ ∀ (maxRequestBodyBytes maxBodySize : Number) (text : List Char) (chunks : List Chunk),
        isObject (parse text) = true → chunks.flatten = encode text →
        exceeds (encode text).length maxRequestBodyBytes = false →
        exceeds (encode text).length maxBodySize = false → Alike maxRequestBodyBytes maxBodySize chunks := by
  intro alike
  have same := alike (.finite 1048576) (.finite 1048576) sampleText brokenChunks (by decide +kernel) (by decide)
    (by decide +kernel) (by decide +kernel)
  have whole : brokenChunks.flatten = encode sampleText := by decide
  have apart := text_of_same (by decide +kernel) whole same.payments
  exact absurd (apart ((encode sampleText).drop 7) (by decide)) (by decide)

end Delego.Http
