import Homoiconic.State

/-!
# Parameter lists

A parameter list is written as a list of values: first the required names, then optional names with
their defaults, then possibly a name that collects surplus positional arguments, after the marker
`&rest`, and possibly one that collects unmatched keyword arguments, after the marker `&kwargs`.

    [a, b, [c, default], &rest, more, &kwargs, options]

*Reading* a parameter list checks this form and that no name is declared twice.  Defaults are
evaluated as they are met, once, when the list is read.

*Binding* fills the positional slots, required before optional, with positional arguments from left
to right and then with keyword arguments by name.  It computes the bindings of a new scope and
touches nothing else.
-/

namespace Homoiconic

/-- Marks the parameter that collects surplus positional arguments. -/
def restMarker : String := "&rest"

/-- Marks the parameter that collects unmatched keyword arguments. -/
def extraMarker : String := "&kwargs"

/-- Whether a symbol is one of the two markers. -/
def isMarker (name : String) : Bool := name == restMarker || name == extraMarker

/-- Refuse a name that is declared already. -/
def claimName (params : Params Value) (name : String) : EvalM Unit :=
  if name ∈ params.names then fail (.duplicateParameter name) else pure ()

namespace Params

/-- Add a required name. -/
def addRequired (form : String) (params : Params Value) (name : String) : EvalM (Params Value) :=
  if params.optional ≠ [] ∨ params.collectsExtras then fail (.requiredAfterOptional form name)
  else do
    claimName params name
    return { params with required := params.required ++ [name] }

/-- Add an optional name, evaluating its default. -/
def addOptional (eval : Value → EvalM Value) (form : String) (params : Params Value)
    (name : String) (default : Value) : EvalM (Params Value) :=
  if params.collectsExtras then fail (.optionalAfterRest form name)
  else do
    claimName params name
    let value ← eval default
    return { params with optional := params.optional ++ [(name, value)] }

/-- Add a collecting name after its marker.  The one for positional arguments cannot follow the one
for keyword arguments. -/
def addCollector (form : String) (params : Params Value) (marker name : String) :
    EvalM (Params Value) :=
  if marker = restMarker ∧ params.extra = none then
    if params.rest ≠ none then fail (.misplacedMarker form marker)
    else do
      claimName params name
      return { params with rest := some name }
  else if params.extra ≠ none then fail (.misplacedMarker form marker)
  else do
    claimName params name
    return { params with extra := some name }

/-- Read the rest of a parameter list, given what has been read of it. -/
def readFrom (eval : Value → EvalM Value) (form : String) :
    Params Value → List Value → EvalM (Params Value)
  | params, [] => pure params
  | params, .symbol marker :: rest =>
    if isMarker marker then
      match rest with
      | .symbol name :: rest => do
        let params ← addCollector form params marker name
        readFrom eval form params rest
      | _ => fail (.markerWithoutName form marker)
    else do
      let params ← addRequired form params marker
      readFrom eval form params rest
  | params, .list [.symbol name, default] :: rest => do
    let params ← addOptional eval form params name default
    readFrom eval form params rest
  | _, .list _ :: _ => fail (.optionalNotPair form)
  | _, v :: _ => fail (.expectedSymbol form v.kind)

/-- Read a parameter list. -/
def read (eval : Value → EvalM Value) (form : String) (list : List Value) : EvalM (Params Value) :=
  readFrom eval form .empty list

/-! ## Binding -/

/-- The positional slots: names in order, each with the argument that fills it, if one does. -/
abbrev Slots := List (String × Option Value)

/-- Fill slots with positional arguments from left to right. -/
def fillByPosition : List String → List Value → Slots
  | [], _ => []
  | name :: names, [] => (name, none) :: fillByPosition names []
  | name :: names, arg :: args => (name, some arg) :: fillByPosition names args

/-- Put a value into the first slot of a name. -/
def fillSlot (key : String) (value : Value) : Slots → Slots
  | [] => []
  | (name, content) :: slots =>
    if name = key then (name, some value) :: slots
    else (name, content) :: fillSlot key value slots

/-- Distribute keyword arguments from left to right: into slots, or among the extra ones. -/
def fillByName (collects : Bool) :
    List (String × Value) → Slots → Keywords Value → Except Error (Slots × Keywords Value)
  | [], slots, extra => .ok (slots, extra)
  | (key, value) :: rest, slots, extra =>
    match slots.lookup key with
    | some (some _) => .error (.repeatedArgument key)
    | some none => fillByName collects rest (fillSlot key value slots) extra
    | none =>
      if collects then fillByName collects rest slots (extra.insert key value)
      else .error (.unexpectedKeyword key)

/-- The values of required slots, all of which have to be filled.  A slot that is empty is reported
as a wrong number of arguments. -/
def takeRequired (required supplied : Nat) : Slots → Except Error (List (String × Value))
  | [] => .ok []
  | (_, none) :: _ => .error (.arity none required supplied)
  | (name, some value) :: slots =>
    match takeRequired required supplied slots with
    | .error e => .error e
    | .ok bindings => .ok ((name, value) :: bindings)

/-- The values of optional slots; an empty one has its default. -/
def takeOptional : List (String × Value) → Slots → List (String × Value)
  | (name, default) :: optional, (_, content) :: slots =>
    (name, content.getD default) :: takeOptional optional slots
  | _, _ => []

/-- A collecting parameter and what it collects. -/
def collected (name : Option String) (value : Value) : List (String × Value) :=
  match name with
  | none => []
  | some name => [(name, value)]

/-- The bindings that arguments give to the parameters. -/
def bind (params : Params Value) (args : List Value) (kwargs : Keywords Value) :
    Except Error (List (String × Value)) :=
  let names := params.positionalNames
  if names.length < args.length ∧ params.rest = none then
    .error (.arity none names.length args.length)
  else
    match fillByName params.extra.isSome kwargs.entries (fillByPosition names args) .empty with
    | .error e => .error e
    | .ok (slots, extra) =>
      let required := params.required.length
      match takeRequired required (args.length + kwargs.size) (slots.take required) with
      | .error e => .error e
      | .ok bindings =>
        .ok (bindings ++ takeOptional params.optional (slots.drop required)
          ++ collected params.rest (.list (args.drop names.length))
          ++ collected params.extra (.map extra))

end Params

end Homoiconic
