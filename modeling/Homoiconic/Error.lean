import Homoiconic.Json.Writer
import Homoiconic.Stack.Basic
import Homoiconic.Value.Kind
import Homoiconic.Value.Render

/-!
# Errors

An error is the cause of a failure.  Its text is made from the cause in one place, `Error.message`,
and starts with a heading that depends on the category of the error alone.

Native callables may fail for reasons of their own; they report a category and a text.
-/

namespace Homoiconic

/-- The two activities whose nesting is limited. -/
inductive Activity where
  /-- Evaluating an expression. -/
  | evaluation
  /-- Folding a program over a stack. -/
  | folding
deriving DecidableEq

/-- How deep either activity may be nested. -/
def depthLimit : Nat := 256

/-- The operations of exact integer arithmetic. -/
inductive Arithmetic where
  | addition | negation | subtraction | multiplication
deriving DecidableEq

/-- What sort of failure an error is. -/
inductive Category where
  | unboundName | notCallable | stackUnderflow | notIterable | evaluation | type | arity
deriving DecidableEq

/-- The categories in which native callables report failures of their own. -/
inductive Report where
  | notCallable | notIterable | evaluation | type
deriving DecidableEq

/-- The cause of a failure. -/
inductive Error where
  /-- A symbol is bound in no scope on the chain. -/
  | unbound (name : String)
  /-- The target of a call is no callable. -/
  | notCallable (target : Value)
  /-- A function of unevaluated arguments was to be applied to evaluated ones. -/
  | expanderApplied (name : String)
  /-- The stack holds too few elements. -/
  | underflow (cause : Underflow)
  /-- A combinator found no keyword map on top of the stack. -/
  | expectedKeywords (combinator : String) (got : Kind)
  /-- A combinator found no list of positional arguments. -/
  | expectedArguments (combinator : String) (got : Kind)
  /-- A combinator found no quoted program. -/
  | expectedProgram (combinator : String) (got : Kind)
  /-- A combinator found nothing to use as an inner stack. -/
  | expectedStack (combinator : String) (got : Kind)
  /-- A combinator found no number to count with. -/
  | expectedCount (combinator : String) (got : Kind)
  /-- A combinator found a negative number to count with. -/
  | negativeCount (combinator : String) (n : Int64)
  /-- Evaluation or folding is nested too deep. -/
  | tooDeep (activity : Activity)
  /-- An exact result does not fit 64 bits. -/
  | overflow (operation : Arithmetic)
  /-- Assignments are not given in pairs. -/
  | unpairedAssignments (count : Nat)
  /-- Local bindings are not given in pairs. -/
  | unpairedBindings
  /-- The local bindings are no list. -/
  | bindingsNotList
  /-- The parameters are no list. -/
  | parametersNotList (form : String)
  /-- A parameter list declares a name twice. -/
  | duplicateParameter (name : String)
  /-- A marker stands where its role is already taken. -/
  | misplacedMarker (form : String) (marker : String)
  /-- A marker is followed by no name. -/
  | markerWithoutName (form : String) (marker : String)
  /-- A required parameter comes after an optional one. -/
  | requiredAfterOptional (form : String) (name : String)
  /-- An optional parameter comes after a collecting one. -/
  | optionalAfterRest (form : String) (name : String)
  /-- An optional parameter is not a name with a default. -/
  | optionalNotPair (form : String)
  /-- A name was expected. -/
  | expectedSymbol (form : String) (got : Kind)
  /-- A form was given a keyword argument. -/
  | formKeyword (form : String) (key : String)
  /-- A function was given a keyword argument it has no parameter for. -/
  | unexpectedKeyword (key : String)
  /-- A parameter was given a value by position and by keyword. -/
  | repeatedArgument (key : String)
  /-- A definition that spreads its arguments was given a keyword argument. -/
  | definitionKeyword (definition : Definition Value) (key : String)
  /-- An argument is of the wrong kind. -/
  | expectedKind (expected got : Kind)
  /-- A value without length was to be measured. -/
  | noLength (got : Kind)
  /-- A JSON number is no 64-bit integer. -/
  | numberNotInteger (n : JsonNumber)
  /-- A value that is code was to be turned into data. -/
  | notData (v : Value)
  /-- A JSON object was expected. -/
  | notObject (json : Json)
  /-- A text is not JSON. -/
  | invalidJson
  /-- The trace could not be written. -/
  | traceOutput (reason : String)
  /-- The number of arguments is wrong; the callable is shown if it is known. -/
  | arity (callee : Option String) (expected got : Nat)
  /-- A native callable reports a failure of its own. -/
  | reported (report : Report) (text : String)

namespace Report

/-- The category of a report. -/
def category : Report → Category
  | .notCallable => .notCallable
  | .notIterable => .notIterable
  | .evaluation => .evaluation
  | .type => .type

end Report

/-- How the messages of a category begin. -/
def Category.heading : Category → String
  | .unboundName => "Unbound name: "
  | .notCallable => "Not callable: "
  | .stackUnderflow | .notIterable => "Stack underflow: "
  | .evaluation => "EvaluationError: "
  | .type => "Type error: "
  | .arity => "ArityError: "

/-- The word for an activity that is nested too deep. -/
def Activity.name : Activity → String
  | .evaluation => "Evaluation"
  | .folding => "Fold"

/-- The word for an arithmetic operation. -/
def Arithmetic.name : Arithmetic → String
  | .addition => "addition"
  | .negation => "negation"
  | .subtraction => "subtraction"
  | .multiplication => "multiplication"

namespace Error

/-- The category of an error. -/
def category : Error → Category
  | .unbound _ => .unboundName
  | .notCallable _ | .expanderApplied _ => .notCallable
  | .underflow _ => .stackUnderflow
  | .expectedKeywords .. | .expectedArguments .. | .expectedProgram .. | .expectedStack .. =>
    .notIterable
  | .tooDeep _ | .overflow _ | .unpairedAssignments _ | .unpairedBindings | .duplicateParameter _
  | .misplacedMarker .. | .requiredAfterOptional .. | .optionalAfterRest .. | .traceOutput _ =>
    .evaluation
  | .expectedCount .. | .negativeCount .. | .bindingsNotList | .parametersNotList _
  | .markerWithoutName .. | .optionalNotPair _ | .expectedSymbol .. | .formKeyword ..
  | .unexpectedKeyword _ | .repeatedArgument _ | .definitionKeyword .. | .expectedKind ..
  | .noLength _ | .numberNotInteger _ | .notData _ | .notObject _ | .invalidJson => .type
  | .arity .. => .arity
  | .reported report _ => report.category

/-- What an error says after its heading. -/
def detail : Error → String
  | .unbound name => "symbol " ++ name ++ " is not bound in the given scope"
  | .notCallable target => target.render ++ " is a " ++ target.kind.name
  | .expanderApplied name => "macro " ++ name ++ " cannot be applied to evaluated arguments"
  | .underflow cause =>
    "needed " ++ toString cause.needed ++ " elements, stack holds " ++ toString cause.available
  | .expectedKeywords combinator got =>
    combinator ++ " expected a keyword map on top of the stack, got " ++ got.name
  | .expectedArguments combinator got =>
    combinator ++ " expected a list of positional arguments, got " ++ got.name
  | .expectedProgram combinator got =>
    combinator ++ " expected a quoted program, got " ++ got.name
  | .expectedStack combinator got => combinator ++ " expected a list or stack, got " ++ got.name
  | .expectedCount combinator got => combinator ++ " expected a count, got " ++ got.name
  | .negativeCount combinator n =>
    combinator ++ " expected a non-negative count, got " ++ decimal n
  | .tooDeep activity =>
    activity.name ++ " depth limit exceeded (max: " ++ toString depthLimit ++ ")"
  | .overflow operation => "Integer overflow in " ++ operation.name
  | .unpairedAssignments count =>
    "setq expects name/value pairs, got " ++ toString count ++ " arguments"
  | .unpairedBindings => "let bindings must be name/value pairs"
  | .bindingsNotList => "let bindings must be a list"
  | .parametersNotList form => form ++ " parameters must be a list"
  | .duplicateParameter name => "Duplicate parameter name: " ++ name
  | .misplacedMarker form marker => form ++ ": misplaced " ++ marker
  | .markerWithoutName form marker => form ++ ": " ++ marker ++ " must be followed by a symbol"
  | .requiredAfterOptional form name =>
    form ++ ": required parameter " ++ name ++ " follows optional ones"
  | .optionalAfterRest form name => form ++ ": optional parameter " ++ name ++ " follows &rest"
  | .optionalNotPair form => form ++ ": optional parameters are [name, default] pairs"
  | .expectedSymbol form got => form ++ " requires a symbol, got " ++ got.name
  | .formKeyword form key => form ++ " does not take keyword arguments (got '" ++ key ++ "')"
  | .unexpectedKeyword key => "unexpected keyword argument '" ++ key ++ "'"
  | .repeatedArgument key => "multiple values for argument '" ++ key ++ "'"
  | .definitionKeyword definition key =>
    definition.render ++ " got an unexpected keyword argument '" ++ key ++ "'"
  | .expectedKind expected got => "expected " ++ expected.name ++ ", got " ++ got.name
  | .noLength got => "len requires a string, list, map or stack, got " ++ got.name
  | .numberNotInteger n => "Number too large or not integer: " ++ n.render
  | .notData v => "cannot convert " ++ v.kind.name ++ " to JSON: " ++ v.render
  | .notObject json => "expected a JSON object, got " ++ json.render
  | .invalidJson => "Invalid JSON"
  | .traceOutput reason => "trace output failed: " ++ reason
  | .arity (some callee) expected got =>
    callee ++ ": expected " ++ toString expected ++ " arguments, got " ++ toString got
  | .arity none expected got =>
    "function expected " ++ toString expected ++ " arguments but got " ++ toString got
  | .reported _ text => text

/-- The text of an error. -/
def message (e : Error) : String := e.category.heading ++ e.detail

/-- Whether an error was raised by taking something off the stack: there was too little, or it had
the wrong shape. -/
def isStackError (e : Error) : Bool :=
  e.category == .stackUnderflow || e.category == .notIterable

end Error

end Homoiconic
