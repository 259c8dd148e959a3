import DesiredState.Text.Cut

/-!
# Command line options

The arguments of the program are options only.  A long option may carry its
value after an equals sign, a short one right after its letter, and either one
in the next argument, unless that starts with a dash.  No option may be given
twice.  A request for help or for the version counts as soon as it is met.
-/

namespace DesiredState
namespace CommandLine

/-- An option. -/
inductive Switch where
  | task
  | snapshot
  | writeSnapshot
  | check
  | logLevel
  | help
  | version
deriving Inhabited, Repr, DecidableEq

namespace Switch

/-- The option with a long name. -/
def ofLong? (name : String) : Option Switch :=
  [("task", task), ("snapshot", snapshot), ("write-snapshot", writeSnapshot),
    ("check", check), ("log-level", logLevel), ("help", help),
    ("version", version)].lookup name

/-- The option with a letter. -/
def ofLetter? (letter : Char) : Option Switch :=
  [('t', task), ('s', snapshot), ('w', writeSnapshot), ('l', logLevel), ('h', help),
    ('V', version)].lookup letter

/-- Whether an option has a value. -/
def hasValue : Switch → Bool
  | .task | .snapshot | .writeSnapshot | .logLevel => true
  | _ => false

/-- Whether the value of an option is the path of a file. -/
def hasPath : Switch → Bool
  | .task | .snapshot | .writeSnapshot => true
  | _ => false

end Switch

/-- What one argument is. -/
inductive Argument where
  /-- An option, with the value it carries. -/
  | option (switch : Switch) (attached : Option String)
  /-- The mark after which no options come. -/
  | endOfOptions
  /-- Anything that does not look like an option. -/
  | value (text : String)
  | unknown
deriving Inhabited, Repr, DecidableEq

namespace Argument

/-- A long option after its dashes. -/
def ofLong (chars : List Char) : Argument :=
  let (name, attached) := match Text.cutFirstChars '=' chars with
    | some (name, text) => (name, some (String.ofList text))
    | none => (chars, none)
  match Switch.ofLong? (String.ofList name) with
  | some switch => .option switch attached
  | none => .unknown

/-- A short option after its dash: a letter, and the value that follows it. -/
def ofShort (letter : Char) (chars : List Char) : Argument :=
  match Switch.ofLetter? letter with
  | none => .unknown
  | some switch =>
      if switch.hasValue then
        match chars with
        | [] => .option switch none
        | '=' :: text => .option switch (some (String.ofList text))
        | text => .option switch (some (String.ofList text))
      else
        .option switch none

/-- What an argument is.  A lone dash is a value. -/
def ofText (text : String) : Argument :=
  match text.toList with
  | ['-', '-'] => .endOfOptions
  | '-' :: '-' :: chars => ofLong chars
  | '-' :: letter :: chars => ofShort letter chars
  | _ => .value text

end Argument

/-- Why the arguments lead to no run. -/
inductive Stop where
  | help
  | version
  | misuse
deriving Inhabited, Repr, DecidableEq

/-- The options given so far, with their values. -/
abbrev Given := List (Switch × String)

namespace Given

/-- One more option.  It must be new, and a path must not be empty. -/
def add (given : Given) (switch : Switch) (text : String) : Except Stop Given :=
  if (given.lookup switch).isSome || (switch.hasPath && text.isEmpty) then
    .error .misuse
  else
    .ok ((switch, text) :: given)

/-- The options of some arguments, on top of those given already.  The value
of a pending option comes first. -/
def read (pending : Option Switch) (given : Given) : List Argument → Except Stop Given
  | [] => if pending.isSome then .error .misuse else .ok given
  | argument :: rest =>
      match pending, argument with
      | some switch, .value text => (given.add switch text).bind fun more => read none more rest
      | none, .endOfOptions => if rest.isEmpty then .ok given else .error .misuse
      | none, .option switch (some attached) =>
          if switch.hasValue then
            (given.add switch attached).bind fun more => read none more rest
          else
            .error .misuse
      | none, .option .help none => .error .help
      | none, .option .version none => .error .version
      | none, .option switch none =>
          if switch.hasValue then
            read (some switch) given rest
          else
            (given.add switch "").bind fun more => read none more rest
      | _, _ => .error .misuse

end Given

/-- What the program is asked to do. -/
structure Options where
  /-- The file of the work order. -/
  task : String
  /-- The file of the device's snapshot. -/
  snapshot : Option String := none
  /-- The file that the resulting snapshot is written to. -/
  writeSnapshot : Option String := none
  /-- Whether only to report what would change. -/
  check : Bool := false
  logLevel : String := "warn"
deriving Inhabited, Repr

namespace Options

/-- The options that some arguments give.  A work order is required. -/
def read (arguments : List String) : Except Stop Options := do
  let given ← Given.read none [] (arguments.map Argument.ofText)
  match given.lookup .task with
  | none => .error .misuse
  | some task =>
      return {
        task
        snapshot := given.lookup .snapshot
        writeSnapshot := given.lookup .writeSnapshot
        check := (given.lookup .check).isSome
        logLevel := (given.lookup .logLevel).getD "warn" }

end Options
end CommandLine
end DesiredState
