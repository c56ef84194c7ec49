/-!
# Arguments of a command

Options stand among the operands of a command in any order. An option has a long name and perhaps a short one; its
value stands behind it, or behind an equals sign, or directly behind the short name, and short names of options
without a value may be put together. Two dashes end the options.
-/

namespace SqlSchema.CommandLine

/-- An option of a command. -/
structure OptionSpec where
  name : String
  short : Option Char := none
  hasValue : Bool := true
deriving DecidableEq, Repr

/-- The arguments of a command. -/
structure Arguments where
  /-- The options by their names; the value of an option without one is empty. -/
  options : List (String × String) := []
  operands : List String := []
deriving DecidableEq, Repr

namespace Arguments

/-- The arguments with an option in front. -/
def withOption (a : Arguments) (o : OptionSpec) (value : String) : Arguments :=
  { a with options := (o.name, value) :: a.options }

/-- The arguments with an operand in front. -/
def withOperand (a : Arguments) (operand : String) : Arguments := { a with operands := operand :: a.operands }

/-- The value of an option. -/
def value? (a : Arguments) (name : String) : Option String := a.options.lookup name

end Arguments

/-- What an argument that names options says: the options with their values, and an option whose value is the next
argument. -/
structure Named where
  options : List (OptionSpec × String) := []
  pending : Option OptionSpec := none

/-- The options that an argument names by a long name, which follows two dashes. -/
def readLong? (specs : List OptionSpec) (cs : List Char) : Option Named := do
  let name := String.ofList (cs.takeWhile (· ≠ '='))
  let o ← specs.find? (·.name == name)
  match cs.dropWhile (· ≠ '='), o.hasValue with
  | _ :: value, true => some { options := [(o, String.ofList value)] }
  | [], true => some { pending := some o }
  | [], false => some { options := [(o, "")] }
  | _ :: _, false => none

/-- The options that an argument names by short names, which follow a dash. -/
def readShort? (specs : List OptionSpec) : List Char → Option Named
  | [] => some {}
  | c :: rest => do
    let o ← specs.find? (·.short == some c)
    if !o.hasValue then
      let named ← readShort? specs rest
      some { named with options := (o, "") :: named.options }
    else
      match rest with
      | [] => some { pending := some o }
      | '=' :: value => some { options := [(o, String.ofList value)] }
      | value => some { options := [(o, String.ofList value)] }

/-- The arguments, after an option that waits for its value. If `stops`, the first operand ends the options, and two
dashes may not do so. -/
def readFrom? (specs : List OptionSpec) (stops : Bool) : Option OptionSpec → List String → Option Arguments
  | none, [] => some {}
  | some _, [] => none
  | some o, value :: rest =>
    match value.toList with
    | '-' :: _ :: _ => none
    | _ => (readFrom? specs stops none rest).map (·.withOption o value)
  | none, argument :: rest =>
    let continued (named : Option Named) : Option Arguments := do
      let named ← named
      let after ← readFrom? specs stops named.pending rest
      some (named.options.foldr (fun o a => a.withOption o.1 o.2) after)
    match argument.toList with
    | ['-', '-'] => if stops then none else some { operands := rest }
    | '-' :: '-' :: name => continued (readLong? specs name)
    | '-' :: c :: names => continued (readShort? specs (c :: names))
    | _ =>
      if stops then some { operands := argument :: rest }
      else (readFrom? specs stops none rest).map (·.withOperand argument)

/-- The arguments that follow the options, none of which may be repeated. -/
def readArguments? (specs : List OptionSpec) (stops : Bool) (arguments : List String) : Option Arguments := do
  let a ← readFrom? specs stops none arguments
  if (a.options.map (·.1)).Nodup then some a else none

end SqlSchema.CommandLine
