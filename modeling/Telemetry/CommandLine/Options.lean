import Telemetry.Text.Cut

/-!
# Options of a command

Arguments are options with a text each: `--name text`, `--name=text`, `-n text`, `-n=text` or
`-ntext`.  A text in an argument of its own does not start with a dash, unless it is a single dash.

* `Opt σ`         an option that changes settings `σ`;
* `Refusal`       a call for help, or arguments that do not fit;
* `readOptions`   the settings after all arguments, read in order.

Options are given once, except those that may be repeated.  A call for help ends the reading, so
only what stands before it can be wrong.
-/

namespace Telemetry.CommandLine

/-- an option that changes settings -/
structure Opt (σ : Type) where
  name : String
  letter : Option Char := none
  repeats : Bool := false
  /-- the settings after the option with a text, unless the text does not fit -/
  set : String → σ → Option σ

/-- why there are no settings -/
inductive Refusal where
  | help
  | misuse
deriving DecidableEq, Repr

variable {σ : Type}

/-- whether an argument can be the text of the option before it -/
def isText (argument : String) : Bool :=
  match argument.toList with
  | '-' :: _ :: _ => false
  | _ => true

/-- the text without an equals sign at its front -/
def dropEquals : List Char → List Char
  | '=' :: text => text
  | text => text

/-- a name, and the text after the first equals sign if there is one -/
def splitEquals (cs : List Char) : String × Option String :=
  match Text.cutAt? '=' cs with
  | some (name, text) => (String.ofList name, some (String.ofList text))
  | none => (String.ofList cs, none)

/-- what an argument names: an option, maybe with its text -/
def find? (opts : List (Opt σ)) (argument : String) :
    Except Refusal (Opt σ × Option String) :=
  match argument.toList with
  | '-' :: '-' :: cs =>
    let (name, text) := splitEquals cs
    match opts.find? (·.name == name) with
    | some o => .ok (o, text)
    | none => .error (if name = "help" ∧ text = none then .help else .misuse)
  | '-' :: c :: text =>
    match opts.find? (·.letter == some c) with
    | some o => .ok (o, if text.isEmpty then none else some (String.ofList (dropEquals text)))
    | none => .error (if c = 'h' then .help else .misuse)
  | _ => .error .misuse

/-- the settings after an option with a text; `given` holds the options before it -/
def Opt.apply (o : Opt σ) (given : List String) (text : String) (s : σ) : Except Refusal σ :=
  if !o.repeats && given.contains o.name then .error .misuse
  else
    match o.set text s with
    | some s => .ok s
    | none => .error .misuse

/-- the settings after the arguments; `given` holds the names of the options before them -/
def readFrom (opts : List (Opt σ)) (given : List String) : List String → σ → Except Refusal σ
  | [], s => .ok s
  | argument :: rest, s =>
    match find? opts argument with
    | .error why => if argument = "--" ∧ rest.isEmpty then .ok s else .error why
    | .ok (o, some text) =>
      match o.apply given text s with
      | .ok s => readFrom opts (o.name :: given) rest s
      | .error why => .error why
    | .ok (o, none) =>
      match rest with
      | [] => .error .misuse
      | text :: rest =>
        if isText text then
          match o.apply given text s with
          | .ok s => readFrom opts (o.name :: given) rest s
          | .error why => .error why
        else .error .misuse

def readOptions (opts : List (Opt σ)) (arguments : List String) (s : σ) : Except Refusal σ :=
  readFrom opts [] arguments s

end Telemetry.CommandLine
