import Delego.Shared.Json

set_option autoImplicit false

namespace Delego.Agents

open Shared

inductive JsonType where
  | string
  | number
  | integer
  | boolean
  | array
  | object
  deriving DecidableEq

def JsonType.name : JsonType → String
  | .string => "string"
  | .number => "number"
  | .integer => "integer"
  | .boolean => "boolean"
  | .array => "array"
  | .object => "object"

structure PropertySchema where
  type : Option JsonType

-- The properties are listed in the order that their schema lists them.
structure Parameters where
  type : Option JsonType
  required : Option (List String)
  properties : Option (List (String × PropertySchema))

structure ToolSchema where
  name : String
  description : String
  parameters : Parameters

-- A handler resolves, or rejects with a message.
abbrev ToolHandler := Json → Except String Json

structure RegisteredTool where
  schema : ToolSchema
  handler : ToolHandler

structure ToolExecutionLog where
  toolName : String
  input : Json
  output : Json
  success : Bool
  error : Option String
  durationMs : Nat
  executedAt : Nat

structure ToolRegistry where
  tools : List (String × RegisteredTool)
  auditLog : List ToolExecutionLog
  distinct : (tools.map Prod.fst).Nodup

def typeOf : Json → String
  | .bool _ => "boolean"
  | .number _ => "number"
  | .string _ => "string"
  | .null | .array _ | .object _ => "object"

-- What every object has besides its own properties, by its type.
def inherited (key : String) : Option String :=
  if key = "__proto__" then some "object"
  else if key ∈ ["constructor", "hasOwnProperty", "isPrototypeOf", "propertyIsEnumerable", "toLocaleString",
      "toString", "valueOf", "__defineGetter__", "__defineSetter__", "__lookupGetter__",
      "__lookupSetter__"] then
    some "function"
  else none

def typeOfMember (fields : List (String × Json)) (key : String) : Option String :=
  (fields.lookup key).map typeOf <|> inherited key

def missing (fields : List (String × Json)) (key : String) : Option String :=
  if (typeOfMember fields key).isSome then none else some ("missing required field: " ++ key)

def mistyped (fields : List (String × Json)) : String × PropertySchema → Option String
  | (key, propSchema) =>
    match typeOfMember fields key, propSchema.type with
    | some got, some type =>
      if got ≠ type.name then
        some ("field \"" ++ key ++ "\" must be of type " ++ type.name ++ ", got " ++ got)
      else none
    | _, _ => none

def validateObject (input : Json) (schema : Parameters) : Option String :=
  match input with
  | .object fields =>
    (schema.required.getD []).findSome? (missing fields) <|>
      (schema.properties.getD []).findSome? (mistyped fields)
  | _ => some "input must be an object"

def validateInput (input : Json) (schema : Parameters) : Option String :=
  match schema.type with
  | none => none
  | some .object => validateObject input schema
  | some type => if typeOf input ≠ type.name then some ("input must be of type " ++ type.name) else none

namespace ToolRegistry

def new : ToolRegistry where
  tools := []
  auditLog := []
  distinct := by
    simp

variable (registry : ToolRegistry)

def register (schema : ToolSchema) (handler : ToolHandler) : Except String ToolRegistry :=
  if held : schema.name ∈ registry.tools.map Prod.fst then
    .error ("Tool \"" ++ schema.name ++ "\" is already registered")
  else
    .ok
      { registry with
        tools := registry.tools ++ [(schema.name, ⟨schema, handler⟩)]
        distinct := by
          rw [List.map_append, List.nodup_append]
          refine ⟨registry.distinct, by simp, ?_⟩
          intro name member other single same
          rw [List.map_singleton, List.mem_singleton] at single
          rw [same, single] at member
          exact held member }

theorem register_found {schema : ToolSchema} {handler : ToolHandler} {after : ToolRegistry}
    (added : registry.register schema handler = .ok after) :
    after.tools.lookup schema.name = some ⟨schema, handler⟩ := by
  unfold register at added
  split at added
  · cases added
  · next free =>
    cases added
    have absent : registry.tools.lookup schema.name = none := by
      rw [List.lookup_eq_none_iff]
      intro tool member
      rw [bne_iff_ne]
      intro same
      exact free (List.mem_map.mpr ⟨tool, member, same.symm⟩)
    rw [List.lookup_append, absent, Option.none_or, List.lookup_cons, beq_self_eq_true]

def resolveTool (toolName : String) (input : Json) : Except String RegisteredTool :=
  match registry.tools.lookup toolName with
  | none => .error ("Unknown tool: \"" ++ toolName ++ "\"")
  | some registered =>
    match validateInput input registered.schema.parameters with
    | some validationError =>
      .error ("Invalid input for tool \"" ++ toolName ++ "\": " ++ validationError)
    | none => .ok registered

def logOf (toolName : String) (input : Json) (result : Except String Json)
    (start finish executedAt : Nat) : ToolExecutionLog where
  toolName
  input
  output := result.toOption.getD .null
  success := result.toBool
  error :=
    match result with
    | .error message => Text.truthy (some message)
    | .ok _ => none
  durationMs := finish - start
  executedAt

def execute (toolName : String) (input : Json) (start finish executedAt : Nat) :
    List (String × Json) × Except String Json × ToolRegistry :=
  match registry.resolveTool toolName input with
  | .error message => ([], .error message, registry)
  | .ok registered =>
    let result := registered.handler input
    ([(registered.schema.name, input)], result,
      { registry with
        auditLog := registry.auditLog ++ [logOf toolName input result start finish executedAt] })

end ToolRegistry

def JsonType.Of : JsonType → Json → Prop
  | .string, value => ∃ text, value = .string text
  | .number, value => ∃ number, value = .number number
  | .integer, value => ∃ number, value = .number number ∧ number.isInteger = true
  | .boolean, value => ∃ bool, value = .bool bool
  | .array, value => ∃ items, value = .array items
  | .object, value => ∃ fields, value = .object fields

/-- The input is an object that has all required properties, and the declared types where it has others. -/
def Conforms (schema : Parameters) (input : Json) : Prop :=
  ∃ fields, input = .object fields ∧
    (∀ key ∈ schema.required.getD [], fields.lookup key ≠ none) ∧
    ∀ key propSchema, (key, propSchema) ∈ schema.properties.getD [] → ∀ type ∈ propSchema.type,
      ∀ value ∈ fields.lookup key, type.Of value

inductive Demand where
  | required (key : String)
  | typed (key : String) (type : JsonType)

def Parameters.demands (schema : Parameters) : List Demand :=
  (schema.required.getD []).map .required ++
    (schema.properties.getD []).filterMap fun (key, propSchema) => propSchema.type.map (.typed key)

section Demands

variable {fields : List (String × Json)} {schema : Parameters} {input : Json} {demand : Demand}

def Demand.Met (fields : List (String × Json)) : Demand → Prop
  | .required key => fields.lookup key ≠ none
  | .typed key type => ∀ value ∈ fields.lookup key, type.Of value

def Demand.Passed (fields : List (String × Json)) : Demand → Prop
  | .required key => typeOfMember fields key ≠ none
  | .typed key type => ∀ got ∈ typeOfMember fields key, got = type.name

theorem forall_demands {property : Demand → Prop} : (∀ demand ∈ schema.demands, property demand) ↔
    (∀ key ∈ schema.required.getD [], property (.required key)) ∧
      ∀ key propSchema, (key, propSchema) ∈ schema.properties.getD [] → ∀ type ∈ propSchema.type,
        property (.typed key type) := by
  simp only [Parameters.demands, List.forall_mem_append, List.forall_mem_map, List.mem_filterMap,
    Option.map_eq_some_iff, Prod.exists, and_congr_right_iff]
  intro _
  constructor
  · intro all key propSchema member type declared
    exact all _ ⟨key, propSchema, member, type, declared, rfl⟩
  · rintro all demand ⟨key, propSchema, member, type, declared, rfl⟩
    exact all key propSchema member type declared

theorem conforms_iff : Conforms schema input ↔
    ∃ fields, input = .object fields ∧ ∀ demand ∈ schema.demands, demand.Met fields := by
  simp only [forall_demands]
  rfl

theorem missing_eq_none {key : String} : missing fields key = none ↔ typeOfMember fields key ≠ none := by
  unfold missing
  cases typeOfMember fields key with
  | none => simp
  | some got => simp

theorem mistyped_eq_none {key : String} {propSchema : PropertySchema} :
    mistyped fields (key, propSchema) = none ↔ ∀ type ∈ propSchema.type, (Demand.typed key type).Passed fields := by
  simp only [mistyped, Demand.Passed]
  cases typeOfMember fields key with
  | none => simp
  | some got =>
    cases propSchema.type with
    | none => simp
    | some type => simp

theorem orElse_eq_none (one other : Option String) : (one <|> other) = none ↔ one = none ∧ other = none := by
  cases one with
  | none => simp
  | some text => simp

theorem validateInput_iff (object : schema.type = some .object) : validateInput input schema = none ↔
    ∃ fields, input = .object fields ∧ ∀ demand ∈ schema.demands, demand.Passed fields := by
  simp only [validateInput, object, forall_demands]
  cases input with
  | object fields =>
    simp only [validateObject, orElse_eq_none, List.findSome?_eq_none_iff, missing_eq_none,
      Json.object.injEq, exists_eq_left', Prod.forall, mistyped_eq_none]
    rfl
  | _ => simp [validateObject]

/-- An input that is let pass and should not be: a required property that every object has by inheritance,
or `null` or an array in the place of an object. -/
inductive Lenient (fields : List (String × Json)) : Demand → Prop
  | inherited {key got : String} (absent : fields.lookup key = none) (held : inherited key = some got) :
      Lenient fields (.required key)
  | null {key : String} (own : fields.lookup key = some .null) : Lenient fields (.typed key .object)
  | array {key : String} {items : List Json} (own : fields.lookup key = some (.array items)) :
      Lenient fields (.typed key .object)

/-- An input that is refused and should not be: an integer or an array where one is declared, or an absent
property whose inherited namesake has another type. -/
inductive Strict (fields : List (String × Json)) : Demand → Prop
  | integer {key : String} {number : Number} (own : fields.lookup key = some (.number number))
      (whole : number.isInteger = true) : Strict fields (.typed key .integer)
  | array {key : String} {items : List Json} (own : fields.lookup key = some (.array items)) :
      Strict fields (.typed key .array)
  | inherited {key got : String} {type : JsonType} (absent : fields.lookup key = none)
      (held : inherited key = some got) (other : got ≠ type.name) : Strict fields (.typed key type)

inductive Violated (fields : List (String × Json)) : Demand → Prop
  | missing {key : String} (absent : fields.lookup key = none) (unknown : inherited key = none) :
      Violated fields (.required key)
  | mistyped {key : String} {type : JsonType} {value : Json} (own : fields.lookup key = some value)
      (other : typeOf value ≠ type.name) (wrong : ¬ type.Of value) : Violated fields (.typed key type)

theorem typeOfMember_own {key : String} {value : Json} (own : fields.lookup key = some value) :
    typeOfMember fields key = some (typeOf value) := by
  simp [typeOfMember, own]

theorem typeOfMember_absent {key : String} (absent : fields.lookup key = none) :
    typeOfMember fields key = inherited key := by
  simp [typeOfMember, absent]

theorem typeOf_eq_name {type : JsonType} {value : Json} (same : typeOf value = type.name) :
    type.Of value ∨ type = .object ∧ (value = .null ∨ ∃ items, value = .array items) := by
  cases value with
  | null =>
    cases type <;> simp [typeOf, JsonType.name] at same
    exact .inr ⟨rfl, .inl rfl⟩
  | bool bool =>
    cases type <;> simp [typeOf, JsonType.name] at same
    exact .inl ⟨bool, rfl⟩
  | number number =>
    cases type <;> simp [typeOf, JsonType.name] at same
    exact .inl ⟨number, rfl⟩
  | string text =>
    cases type <;> simp [typeOf, JsonType.name] at same
    exact .inl ⟨text, rfl⟩
  | array items =>
    cases type <;> simp [typeOf, JsonType.name] at same
    exact .inr ⟨rfl, .inr ⟨items, rfl⟩⟩
  | object fields =>
    cases type <;> simp [typeOf, JsonType.name] at same
    exact .inl ⟨fields, rfl⟩

theorem name_of_type {type : JsonType} {value : Json} (fits : type.Of value) :
    typeOf value = type.name ∨
      (type = .integer ∧ ∃ number, value = .number number ∧ number.isInteger = true) ∨
      type = .array ∧ ∃ items, value = .array items := by
  cases type with
  | integer => exact .inr (.inl ⟨rfl, fits⟩)
  | array => exact .inr (.inr ⟨rfl, fits⟩)
  | string | number | boolean | object =>
    obtain ⟨inner, rfl⟩ := fits
    exact .inl rfl

theorem lenient_iff : Lenient fields demand ↔ demand.Passed fields ∧ ¬ demand.Met fields := by
  constructor
  · intro lenient
    cases lenient with
    | inherited absent held => simp [Demand.Passed, Demand.Met, typeOfMember_absent absent, absent, held]
    | null own => simp [Demand.Passed, Demand.Met, typeOfMember_own own, own, typeOf, JsonType.name, JsonType.Of]
    | array own => simp [Demand.Passed, Demand.Met, typeOfMember_own own, own, typeOf, JsonType.name, JsonType.Of]
  · rintro ⟨passed, unmet⟩
    cases demand with
    | required key =>
      have absent : fields.lookup key = none := not_not.mp unmet
      rw [Demand.Passed, typeOfMember_absent absent] at passed
      obtain ⟨got, held⟩ := Option.ne_none_iff_exists'.mp passed
      exact .inherited absent held
    | typed key type =>
      cases own : fields.lookup key with
      | none => exact absurd (by simp [Demand.Met, own]) unmet
      | some value =>
        have same : typeOf value = type.name := passed _ (typeOfMember_own own)
        rcases typeOf_eq_name same with fits | ⟨rfl, rfl | ⟨items, rfl⟩⟩
        · exact absurd (by simpa [Demand.Met, own] using fits) unmet
        · exact .null own
        · exact .array own

theorem strict_iff : Strict fields demand ↔ ¬ demand.Passed fields ∧ demand.Met fields := by
  constructor
  · intro strict
    cases strict with
    | integer own whole =>
      simp [Demand.Passed, Demand.Met, typeOfMember_own own, own, typeOf, JsonType.name, JsonType.Of, whole]
    | array own => simp [Demand.Passed, Demand.Met, typeOfMember_own own, own, typeOf, JsonType.name, JsonType.Of]
    | inherited absent held other =>
      simp [Demand.Passed, Demand.Met, typeOfMember_absent absent, absent, held, other]
  · rintro ⟨refused, met⟩
    cases demand with
    | required key =>
      obtain ⟨value, own⟩ := Option.ne_none_iff_exists'.mp met
      rw [Demand.Passed, typeOfMember_own own] at refused
      exact absurd (by simp) refused
    | typed key type =>
      cases own : fields.lookup key with
      | none =>
        rw [Demand.Passed, typeOfMember_absent own] at refused
        cases held : inherited key with
        | none => simp [held] at refused
        | some got => exact .inherited own held (by simpa [held] using refused)
      | some value =>
        rw [Demand.Passed, typeOfMember_own own] at refused
        rcases name_of_type (met value own) with same | ⟨rfl, number, rfl, whole⟩ | ⟨rfl, items, rfl⟩
        · simp [same] at refused
        · exact .integer own whole
        · exact .array own

theorem violated_iff : Violated fields demand ↔ ¬ demand.Passed fields ∧ ¬ demand.Met fields := by
  constructor
  · intro violated
    cases violated with
    | missing absent unknown => simp [Demand.Passed, Demand.Met, typeOfMember_absent absent, absent, unknown]
    | mistyped own other wrong => simp [Demand.Passed, Demand.Met, typeOfMember_own own, own, other, wrong]
  · rintro ⟨refused, unmet⟩
    cases demand with
    | required key =>
      have absent : fields.lookup key = none := not_not.mp unmet
      rw [Demand.Passed, typeOfMember_absent absent] at refused
      exact .missing absent (not_not.mp refused)
    | typed key type =>
      cases own : fields.lookup key with
      | none => exact absurd (by simp [Demand.Met, own]) unmet
      | some value =>
        rw [Demand.Passed, typeOfMember_own own] at refused
        exact .mistyped own (by simpa using refused) (by simpa [Demand.Met, own] using unmet)

end Demands

/-- Of an object some demand is violated, or demands are judged too leniently and too strictly both or
neither. -/
def FairlyJudged (schema : Parameters) (input : Json) : Prop :=
  ∀ fields, input = .object fields →
    (∃ demand ∈ schema.demands, Violated fields demand) ∨
      ((∃ demand ∈ schema.demands, Lenient fields demand) ↔ ∃ demand ∈ schema.demands, Strict fields demand)

theorem agree_iff {α : Type} (items : List α) (first second : α → Prop) :
    ((∀ item ∈ items, first item) ↔ ∀ item ∈ items, second item) ↔
      (∃ item ∈ items, ¬ first item ∧ ¬ second item) ∨
        ((∃ item ∈ items, first item ∧ ¬ second item) ↔ ∃ item ∈ items, ¬ first item ∧ second item) := by
  constructor
  · intro agree
    by_cases both : ∃ item ∈ items, ¬ first item ∧ ¬ second item
    · exact .inl both
    · have either : ∀ item ∈ items, ¬ first item → second item := by
        intro item member refused
        by_contra unmet
        exact both ⟨item, member, refused, unmet⟩
      right
      constructor
      · rintro ⟨item, member, _, unmet⟩
        by_contra none
        have all : ∀ item ∈ items, first item := by
          intro other member
          by_contra refused
          exact none ⟨other, member, refused, either other member refused⟩
        exact unmet (agree.mp all item member)
      · rintro ⟨item, member, refused, _⟩
        by_contra none
        have all : ∀ item ∈ items, second item := by
          intro other member
          by_contra unmet
          apply none ⟨other, member, ?_, unmet⟩
          by_contra refused
          exact unmet (either other member refused)
        exact refused (agree.mpr all item member)
  · rintro (⟨item, member, refused, unmet⟩ | balance)
    · exact iff_of_false (fun all => refused (all item member)) fun all => unmet (all item member)
    · constructor
      · intro all item member
        by_contra unmet
        obtain ⟨other, member, refused, _⟩ := balance.mp ⟨item, member, all item member, unmet⟩
        exact refused (all other member)
      · intro all item member
        by_contra refused
        obtain ⟨other, member, _, unmet⟩ := balance.mpr ⟨item, member, refused, all item member⟩
        exact unmet (all other member)

theorem validateInput_agrees_iff {schema : Parameters} {input : Json} (object : schema.type = some .object) :
    (validateInput input schema = none ↔ Conforms schema input) ↔ FairlyJudged schema input := by
  rw [validateInput_iff object, conforms_iff]
  simp only [FairlyJudged, lenient_iff, strict_iff, violated_iff, ← agree_iff]
  cases input with
  | object fields => simp
  | _ => simp

/-- A registered tool's handler is called with an input just where it conforms to the tool's schema, if and
only if the input is fairly judged. -/
theorem handler_called_iff (registry : ToolRegistry) (toolName : String) (registered : RegisteredTool)
    (input : Json) (start finish executedAt : Nat)
    (found : registry.tools.lookup toolName = some registered)
    (object : registered.schema.parameters.type = some .object) :
    ((registry.execute toolName input start finish executedAt).1 = [(registered.schema.name, input)] ↔
        Conforms registered.schema.parameters input) ↔
      FairlyJudged registered.schema.parameters input := by
  rw [← validateInput_agrees_iff object]
  cases error : validateInput input registered.schema.parameters with
  | none => simp [ToolRegistry.execute, ToolRegistry.resolveTool, found, error]
  | some message => simp [ToolRegistry.execute, ToolRegistry.resolveTool, found, error]

def orderTool : RegisteredTool where
  schema :=
    { name := "order"
      description := "Places an order"
      parameters :=
        { type := some .object
          required := some ["quantity"]
          properties := some [("quantity", ⟨some .integer⟩), ("options", ⟨some .object⟩)] } }
  handler := fun input => .ok input

def orderRegistry : ToolRegistry where
  tools := [("order", orderTool)]
  auditLog := []
  distinct := by
    simp

def orderInput : Json := .object [("quantity", .number (.finite 2))]

theorem orderRegistry_found : orderRegistry.tools.lookup "order" = some orderTool := rfl

theorem handler_called_iff_order :
    ((orderRegistry.execute "order" orderInput 0 1 1).1 = [("order", orderInput)] ↔
        Conforms orderTool.schema.parameters orderInput) ↔
      FairlyJudged orderTool.schema.parameters orderInput :=
  handler_called_iff orderRegistry "order" orderTool orderInput 0 1 1 orderRegistry_found rfl

theorem orderInput_conforms : Conforms orderTool.schema.parameters orderInput := by
  refine ⟨[("quantity", .number (.finite 2))], rfl, ?_, ?_⟩
  · intro key member
    rw [List.mem_singleton.mp member]
    simp
  · intro key propSchema member type declared value own
    simp only [orderTool, Option.getD_some, List.mem_cons, Prod.mk.injEq, List.not_mem_nil, or_false] at member
    rcases member with ⟨rfl, rfl⟩ | ⟨rfl, rfl⟩
    · cases declared
      simp only [List.lookup_cons, beq_self_eq_true, Option.mem_def, Option.some.injEq] at own
      exact ⟨_, own.symm, rfl⟩
    · simp [List.lookup_cons] at own

-- No integer is let pass where one is declared.
theorem integer_refused : ¬ ∀ (registry : ToolRegistry) (toolName : String) (registered : RegisteredTool)
    (input : Json) (start finish executedAt : Nat),
    registry.tools.lookup toolName = some registered → registered.schema.parameters.type = some .object →
      ((registry.execute toolName input start finish executedAt).1 = [(registered.schema.name, input)] ↔
        Conforms registered.schema.parameters input) := by
  intro checked
  have right := checked orderRegistry "order" orderTool orderInput 0 1 1 orderRegistry_found rfl
  have refused : (orderRegistry.execute "order" orderInput 0 1 1).1 = [] := rfl
  rw [refused] at right
  cases right.mpr orderInput_conforms

end Delego.Agents
