/-
# Command lines

The arguments of a command are options and at most one operand, in any order.

An option is given as `--name`, and some also as `-n`.  Its value is the next
argument, or stands behind `=`; behind a short option it may follow at once.
Short options without values may be put together.  An argument that begins with
a hyphen is no value, unless the option takes any; a hyphen alone is an
operand.  Behind `--` everything is an operand.

No option is given twice, save one that collects values.  `--help` and `-h` stop
the reading at once.

Embeds the rules of the argument parser as far as the declarations of `Cli`,
`RuleCommands`, `AccountCommands`, `TxCommands` and `LogsCommands` rest on them
(section 16 of the specification, CLI).
-/

namespace LedgerRules

/-- What an option takes: nothing, one value, one value that may begin with a
hyphen, or values between commas, each time it is given. -/
inductive Taking
  | nothing
  | one
  | any
  | several
  deriving DecidableEq, Repr

/-- The form of an option. -/
structure OptionForm where
  name : String
  takes : Taking := .one
  short : Option Char := none
  required : Bool := false
  excludes : Option String := none
  deriving Repr

/-- Whether a command has an operand. -/
inductive OperandForm
  | absent
  | optional
  | required
  deriving DecidableEq, Repr

/-- The form of a command. -/
structure CommandForm where
  operand : OperandForm := .absent
  options : List OptionForm
  deriving Repr

/-- Why there is no command. -/
inductive Stop
  | rejected
  | help
  | version
  deriving DecidableEq, Repr

/-- The arguments of a command, sorted. -/
structure Arguments where
  operand : Option String := none
  given : List (String × List String) := []
  deriving Repr

namespace CommandForm

/-- The option with a name. -/
def byName? (form : CommandForm) (name : String) : Option OptionForm :=
  form.options.find? (·.name == name)

/-- The option with a short name. -/
def byShort? (form : CommandForm) (c : Char) : Option OptionForm :=
  form.options.find? (·.short == some c)

end CommandForm

namespace Arguments

/-- Whether an option was given. -/
def has (a : Arguments) (name : String) : Bool := a.given.any (·.1 == name)

/-- All values of an option. -/
def values (a : Arguments) (name : String) : List String :=
  (a.given.filter (·.1 == name)).flatMap (·.2)

/-- The value of an option. -/
def value? (a : Arguments) (name : String) : Option String := (a.values name).head?

/-- Adds an option; one that does not collect values is not given twice. -/
def add (a : Arguments) (o : OptionForm) (values : List String) : Except Stop Arguments :=
  if o.takes ≠ .several ∧ a.has o.name then .error .rejected
  else .ok { a with given := a.given ++ [(o.name, values)] }

/-- The pieces between the commas of a text. -/
def pieces (s : String) : List String :=
  (s.toList.splitOn ',').map String.ofList

/-- Adds an option with a value. -/
def addValue (a : Arguments) (o : OptionForm) (value : String) : Except Stop Arguments :=
  a.add o (if o.takes = .several then pieces value else [value])

/-- Adds an operand. -/
def addOperand (a : Arguments) (form : CommandForm) (value : String) : Except Stop Arguments :=
  if form.operand = .absent ∨ a.operand.isSome then .error .rejected
  else .ok { a with operand := some value }

/-- Whether an argument looks like an option. -/
def looksLikeOption (s : String) : Bool := s.toList.head? == some '-' && s.length != 1

/-- Reads the short options of one argument; the last may still wait for its
value. -/
def readShort (form : CommandForm) (a : Arguments) :
    List Char → Except Stop (Arguments × Option OptionForm)
  | [] => .ok (a, none)
  | c :: rest =>
    match form.byShort? c with
    | none => .error (if c = 'h' then .help else .rejected)
    | some o =>
      if o.takes = .nothing then
        match a.add o [] with
        | .ok a => readShort form a rest
        | .error stop => .error stop
      else match rest with
        | [] => .ok (a, some o)
        | '=' :: value => (a.addValue o (String.ofList value)).map (·, none)
        | value => (a.addValue o (String.ofList value)).map (·, none)

/-- Reads a long option, given without its hyphens; it may still wait for its
value. -/
def readLong (form : CommandForm) (a : Arguments) (body : List Char) :
    Except Stop (Arguments × Option OptionForm) :=
  let name := String.ofList (body.takeWhile (· != '='))
  let value := (body.dropWhile (· != '=')).tail?.map String.ofList
  match form.byName? name, value with
  | none, none => .error (if name = "help" then .help else .rejected)
  | none, some _ => .error .rejected
  | some o, none => if o.takes = .nothing then (a.add o []).map (·, none) else .ok (a, some o)
  | some o, some value =>
    if o.takes = .nothing then .error .rejected else (a.addValue o value).map (·, none)

/-- Reads arguments behind `--`. -/
def readOperands (form : CommandForm) : Arguments → List String → Except Stop Arguments
  | a, [] => .ok a
  | a, arg :: rest => (a.addOperand form arg).bind fun a => readOperands form a rest

/-- Reads arguments; `waiting` is an option that waits for its value. -/
def readAll (form : CommandForm) :
    Option OptionForm → Arguments → List String → Except Stop Arguments
  | none, a, [] => .ok a
  | some _, _, [] => .error .rejected
  | some o, a, arg :: rest =>
    if o.takes ≠ .any ∧ looksLikeOption arg then .error .rejected
    else (a.addValue o arg).bind fun a => readAll form none a rest
  | none, a, arg :: rest =>
    if !looksLikeOption arg then
      (a.addOperand form arg).bind fun a => readAll form none a rest
    else match arg.toList.drop 1 with
      | ['-'] => readOperands form a rest
      | '-' :: body =>
        (readLong form a body).bind fun (a, waiting) => readAll form waiting a rest
      | cs => (readShort form a cs).bind fun (a, waiting) => readAll form waiting a rest

/-- Whether what a form requires is there and nothing is beside what it
excludes. -/
def complete (a : Arguments) (form : CommandForm) : Bool :=
  (form.operand != .required || a.operand.isSome) &&
    form.options.all fun o =>
      (!o.required || a.has o.name) && !(a.has o.name && o.excludes.any a.has)

/-- Sorts the arguments of a command. -/
def read (form : CommandForm) (args : List String) : Except Stop Arguments :=
  (readAll form none {} args).bind fun a => if a.complete form then .ok a else .error .rejected

end Arguments
end LedgerRules
