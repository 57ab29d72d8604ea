/-!
Everything that can go wrong, as causes. Each cause has one message, and each error a class (whose
fault it is) and an origin (which part noticed it).
-/

namespace EntityQuery

/-- Why an accessor does not lead to a field. -/
inductive Irreducible where
  /-- It is a closure. -/
  | closure
  /-- It is a function pointer, a reference, a tuple or a trait object. -/
  | pointer
  /-- Its path has a single segment. -/
  | noDeclaringType
  /-- The last segment of its path is no identifier. -/
  | noMethod
  /-- It was declared without a type or with a method that is no identifier. -/
  | misdeclared
  /-- The caller gave a reason of its own. -/
  | stated (reason : String)
deriving DecidableEq

/-- The wording of a reason. -/
def Irreducible.message : Irreducible → String
  | .closure => "closures carry no method path; pass `Entity::method` or a declared `Field`"
  | .pointer => "function pointers and trait objects carry no method path"
  | .noDeclaringType => "accessor path has no declaring type"
  | .noMethod => "accessor path does not end in a method name"
  | .misdeclared => "declared accessors need a type path and an identifier method name"
  | .stated reason => reason

/-- Why a builder call fails. -/
inductive ResolutionError where
  | notReducible (accessor : String) (reason : Irreducible)
  | noOuterScope (entity field : String)
deriving DecidableEq

/-- Why a query cannot be rendered. -/
inductive RenderError where
  | unmappedEntity (entity : String)
  | unmappedField (entity field : String)
  | orderInSubquery (field : String)
deriving DecidableEq

/-- The settings that a validation can refuse. -/
inductive Setting where
  | parameterMark
  | parameterStem
  | aliasStem
  | separator
deriving DecidableEq

/-- Why text conventions are refused. -/
inductive ConventionError where
  /-- They cannot be read at all. -/
  | unreadable
  /-- A setting has a value that no query text could use. -/
  | invalid (setting : Setting)
deriving DecidableEq

/-- The wording of a builder failure. -/
def ResolutionError.message : ResolutionError → String
  | .notReducible accessor reason =>
    s!"accessor '{accessor}' cannot be resolved to a field: {reason.message}"
  | .noOuterScope entity field =>
    s!"no enclosing query scope over entity '{entity}' for correlated field '{field}'"

/-- The wording of a rendering failure. -/
def RenderError.message : RenderError → String
  | .unmappedEntity entity => s!"entity '{entity}' has no table mapping"
  | .unmappedField entity field => s!"field '{entity}.{field}' has no column mapping"
  | .orderInSubquery field => s!"ORDER BY on '{field}' is not allowed inside a subquery"

/-- The key under which a setting is written. -/
def Setting.key : Setting → String
  | .parameterMark => "parameter_prefix"
  | .parameterStem => "parameter_name"
  | .aliasStem => "alias_prefix"
  | .separator => "separator"

/-- What a setting has to be. -/
def Setting.demand : Setting → String
  | .parameterMark => "must not be empty"
  | .parameterStem | .aliasStem => "must be an ASCII identifier"
  | .separator => "must be a punctuation character"

/-- The wording of a refusal. -/
def ConventionError.message : ConventionError → String
  | .unreadable => "failed to parse render config"
  | .invalid setting => s!"invalid render config key '{setting.key}': {setting.demand}"

/-- Any error of the library. -/
inductive Error where
  | resolution (e : ResolutionError)
  | render (e : RenderError)
  | convention (e : ConventionError)
deriving DecidableEq

/-- Whose fault an error is. -/
inductive ErrorClass where
  /-- The caller passed something that cannot be worked with. -/
  | usage
  /-- The construct is understood and deliberately not rendered. -/
  | unsupported
  /-- The configuration is at fault. -/
  | config
deriving DecidableEq

/-- The part that noticed an error. -/
inductive ErrorOrigin where
  | resolve
  | render
  | config
deriving DecidableEq

/-- The word for a class. -/
def ErrorClass.label : ErrorClass → String
  | .usage => "usage"
  | .unsupported => "unsupported"
  | .config => "config"

/-- The word for an origin. -/
def ErrorOrigin.label : ErrorOrigin → String
  | .resolve => "resolve"
  | .render => "render"
  | .config => "config"

namespace Error

/-- The wording of an error. -/
def message : Error → String
  | .resolution e => e.message
  | .render e => e.message
  | .convention e => e.message

/-- The class of an error: what a query language could say but this one does not is unsupported. -/
def errorClass : Error → ErrorClass
  | .resolution (.noOuterScope ..) | .render (.orderInSubquery _) => .unsupported
  | .resolution (.notReducible ..) | .render (.unmappedEntity _) | .render (.unmappedField ..) =>
    .usage
  | .convention _ => .config

/-- The origin of an error. -/
def origin : Error → ErrorOrigin
  | .resolution _ => .resolve
  | .render _ => .render
  | .convention _ => .config

/-- The message behind its origin and class. -/
def display (e : Error) : String :=
  s!"{e.origin.label}:{e.errorClass.label}: {e.message}"

end Error

/-- A sequence that succeeds is made of two parts that do. -/
theorem bind_ok {ε α β : Type} {x : Except ε α} {f : α → Except ε β} {b : β}
    (h : x >>= f = .ok b) : ∃ a, x = .ok a ∧ f a = .ok b := by
  cases x with
  | error e => cases h
  | ok a => exact ⟨a, rfl, h⟩

end EntityQuery
