import Grimoire.Identifier

/-! # Faults

Whatever can go wrong is a value that names its cause.  `Fault` sorts the causes into kinds, so that
a malformed effect can be told from a ceiling that was reached, and `Fault.message` is the only place
where they become text.  Numbers and points enter a cause as the text that messages show.
-/

namespace Grimoire

abbrev EntityId := Nat

namespace EntityId

def text (id : EntityId) : String := "Entity(" ++ toString id ++ ")"

end EntityId

/-! ## Causes -/

inductive PathFault where
  | rejected (reason : Rejection)
  | tooManySegments
  | unknownWorldField
  | unknownEntityField
  | unknownStat (name : String)
  | unknownRoot
  deriving DecidableEq, Repr

def maxPathSegments : Nat := 4

def PathFault.message : PathFault → String
  | rejected reason => reason.message
  | tooManySegments => "more than " ++ toString maxPathSegments ++ " segments"
  | unknownWorldField => "unknown world field"
  | unknownEntityField => "unknown entity field"
  | unknownStat name => "'" ++ name ++ "' is not a known stat"
  | unknownRoot => "unknown root"

/-- Why a written expression is not well formed. -/
inductive ExprFault where
  | path (raw : String) (fault : PathFault)
  | unknownBinary (token : String)
  | unknownUnary (token : String)
  | operands (token : String)
  deriving DecidableEq, Repr

def ExprFault.message : ExprFault → String
  | path raw fault => "path '" ++ raw ++ "': " ++ fault.message
  | unknownBinary token => "unknown binary operator '" ++ token ++ "'"
  | unknownUnary token => "unknown unary operator '" ++ token ++ "'"
  | operands token =>
    "operator '" ++ token ++ "' needs either 'left' and 'right' or a single 'operand'"

/-- Why a document does not decode: it has the wrong shape somewhere, or it has the right shape and
an expression in it is not well formed. -/
inductive DecodeFault where
  | shape
  | expression (fault : ExprFault)
  deriving DecidableEq, Repr

def DecodeFault.message : DecodeFault → String
  | shape => "<decode>"
  | expression fault => "validation error: " ++ fault.message

/-- The numbers that a literal parameter may be. -/
inductive Domain where
  | any
  | nonNegative
  | count
  deriving DecidableEq, Repr

def Domain.message : Domain → String
  | any => "a finite number"
  | nonNegative => "a non-negative number"
  | count => "a non-negative whole number"

/-- Why an effect, a request or a registration is refused. -/
inductive ValidationFault where
  | expression (fault : ExprFault)
  | document (what : String) (fault : DecodeFault)
  | identifier (what name : String) (reason : Rejection)
  | unknownDamageType (name : String)
  | emptyList (list : String)
  | zeroInterval
  | shortDuration (duration interval : Nat)
  | shapeParameter (parameter number : String)
  | literal (operation parameter : String) (domain : Domain) (number : String)
  | missingCaster (id : EntityId)
  | negative (what number : String)
  | timedHealth
  | anonymousEffect
  | duplicateEffect (id : String)
  /-- A host's own words. -/
  | stated (text : String)
  deriving DecidableEq, Repr

def ValidationFault.message : ValidationFault → String
  | expression fault => fault.message
  | document what fault => what ++ ": " ++ fault.message
  | identifier what name reason => what ++ " '" ++ name ++ "': " ++ reason.message
  | unknownDamageType name => "unknown damage type '" ++ name ++ "'"
  | emptyList list => "'" ++ list ++ "' must not be empty"
  | zeroInterval => "periodic interval must be at least 1"
  | shortDuration duration interval =>
    "periodic duration " ++ toString duration ++ " is shorter than interval " ++ toString interval
  | shapeParameter parameter number =>
    "target " ++ parameter ++ " must be a non-negative finite number, got " ++ number
  | literal operation parameter domain number =>
    operation ++ "." ++ parameter ++ " must be " ++ domain.message ++ ", got " ++ number
  | missingCaster id => "caster " ++ id.text ++ " does not exist"
  | negative what number => what ++ " must not be negative, got " ++ number
  | timedHealth => "modify_stat: current health cannot change temporarily; use maxHealth"
  | anonymousEffect => "registered effects need an id"
  | duplicateEffect id => "effect '" ++ id ++ "' already registered"
  | stated text => text

inductive EvalFault where
  | functionName (name : String) (reason : Rejection)
  | unknownFunction (name : String)
  | arity (function expected : String) (given : Nat)
  | nonFinite (what number : String)
  | notNumber (what kind : String)
  | notEntity (what kind : String)
  | notText (what kind : String)
  | mismatch (operator left right : String)
  | divisionByZero (operator : String)
  | negativeRoot (number : String)
  | clampOrder (low high : String)
  | notWhole (number : String)
  | noTarget (path : String)
  | missingEntity (path : String) (id : EntityId)
  | noPosition (what : String) (id : EntityId)
  | key (function text : String) (reason : Rejection)
  /-- A host's own words. -/
  | stated (text : String)
  deriving DecidableEq, Repr

def EvalFault.message : EvalFault → String
  | functionName name reason => "function '" ++ name ++ "': " ++ reason.message
  | unknownFunction name => "unknown function '" ++ name ++ "'"
  | arity function expected given =>
    function ++ "() takes " ++ expected ++ " argument(s), got " ++ toString given
  | nonFinite what number => "'" ++ what ++ "' produced non-finite number " ++ number
  | notNumber what kind => "'" ++ what ++ "' expects a number, got " ++ kind
  | notEntity what kind => "'" ++ what ++ "' expects an entity, got " ++ kind
  | notText what kind => "'" ++ what ++ "' expects text, got " ++ kind
  | mismatch operator left right =>
    "operator '" ++ operator ++ "' cannot combine " ++ left ++ " and " ++ right
  | divisionByZero operator => "'" ++ operator ++ "' by zero"
  | negativeRoot number => "sqrt of negative number " ++ number
  | clampOrder low high => "clamp bounds " ++ low ++ " > " ++ high
  | notWhole number => "expected a whole number, got " ++ number
  | noTarget path => "'" ++ path ++ "': no target is bound"
  | missingEntity path id => "'" ++ path ++ "': " ++ id.text ++ " does not exist"
  | noPosition what id => "'" ++ what ++ "': " ++ id.text ++ " has no position"
  | key function text reason => "'" ++ function ++ "' key '" ++ text ++ "': " ++ reason.message
  | stated text => text

/-- What a caster without a position cannot be used for. -/
inductive Anchor where
  | push
  | pull
  | spawn
  deriving DecidableEq, Repr

inductive PositionFault where
  | notFinite (point : String)
  | coordinate (operation number : String)
  | outside (operation point : String)
  | zeroDirection
  | noAnchor (use : Anchor)
  /-- A host's own words. -/
  | stated (text : String)
  deriving DecidableEq, Repr

def PositionFault.message : PositionFault → String
  | notFinite point => point ++ " is not finite"
  | coordinate operation number => operation ++ ": coordinate " ++ number ++ " is not finite"
  | outside operation point => operation ++ ": " ++ point ++ " is outside the world bounds"
  | zeroDirection => "push direction is a zero vector"
  | noAnchor .push => "caster has no position to push away from"
  | noAnchor .pull => "caster has no position to pull toward"
  | noAnchor .spawn => "caster has no position to spawn at"
  | stated text => text

/-- Why a chained or triggered effect was not entered. -/
inductive ChainReason where
  /-- The effect is already being run further out. -/
  | cycle
  /-- Too many chained effects are being run at once. -/
  | depth (limit : Nat)
  deriving DecidableEq, Repr

def ChainReason.message : ChainReason → String
  | cycle => "effect re-entered itself"
  | depth limit => "chain depth limit of " ++ toString limit ++ " reached"

/-! ## Kinds -/

inductive Fault where
  | validation (cause : ValidationFault)
  | evaluation (cause : EvalFault)
  | invalidStat (name reason : String)
  | invalidStatus (name reason : String)
  | invalidEntityType (name reason : String)
  | invalidMaterial (name reason : String)
  | invalidPosition (cause : PositionFault)
  | unknownEffect (id : String)
  | eventRejected (event : String)
  | operationLimit (limit : Nat)
  | depthLimit (limit : Nat)
  | chainLimit (effect : String) (reason : ChainReason)
  | entityLimit (limit : Nat)
  | timeout (milliseconds : Nat)
  /-- A number was to be held between bounds that are out of order.  This is a broken promise of the
  host's data and no answer to a caller: nothing is reported for the call. -/
  | brokenBounds
  deriving DecidableEq, Repr

namespace Fault

def kind : Fault → String
  | validation _ => "validation"
  | evaluation _ => "evaluation"
  | invalidStat .. => "invalid_stat"
  | invalidStatus .. => "invalid_status"
  | invalidEntityType .. => "invalid_entity_type"
  | invalidMaterial .. => "invalid_material"
  | invalidPosition _ => "invalid_position"
  | unknownEffect _ => "unknown_effect"
  | eventRejected _ => "event_rejected"
  | operationLimit _ => "operation_limit"
  | depthLimit _ => "depth_limit"
  | chainLimit .. => "chain_limit"
  | entityLimit _ => "entity_limit"
  | timeout _ => "timeout"
  | brokenBounds => "panic"

def isAbort : Fault → Bool
  | operationLimit _ | depthLimit _ | chainLimit .. | entityLimit _ | timeout _ => true
  | _ => false

/-- A length of time: whole seconds from one second on, with a fraction where there is one, and whole
milliseconds below. -/
def durationText (milliseconds : Nat) : String :=
  if milliseconds = 0 then "0ns"
  else if milliseconds < 1000 then toString milliseconds ++ "ms"
  else
    let digits := Nat.toDigits 10 (1000 + milliseconds % 1000)
    let fraction := (digits.drop 1).reverse.dropWhile (· = '0') |>.reverse
    let point := if fraction.isEmpty then [] else '.' :: fraction
    toString (milliseconds / 1000) ++ String.ofList point ++ "s"

def message : Fault → String
  | validation cause => "validation error: " ++ cause.message
  | evaluation cause => "evaluation error: " ++ cause.message
  | invalidStat name reason => "invalid stat '" ++ name ++ "': " ++ reason
  | invalidStatus name reason => "invalid status '" ++ name ++ "': " ++ reason
  | invalidEntityType name reason => "invalid entity type '" ++ name ++ "': " ++ reason
  | invalidMaterial name reason => "invalid material '" ++ name ++ "': " ++ reason
  | invalidPosition cause => "invalid position: " ++ cause.message
  | unknownEffect id => "unknown effect '" ++ id ++ "'"
  | eventRejected event => "event '" ++ event ++ "' rejected by the world's event sink"
  | operationLimit limit => "operation limit of " ++ toString limit ++ " exceeded"
  | depthLimit limit => "nesting depth limit of " ++ toString limit ++ " exceeded"
  | chainLimit effect reason => "chain limit exceeded at '" ++ effect ++ "': " ++ reason.message
  | entityLimit limit => "entity limit of " ++ toString limit ++ " exceeded"
  | timeout milliseconds => "timeout of " ++ durationText milliseconds ++ " exceeded"
  | brokenBounds => "panic"

end Fault

end Grimoire
