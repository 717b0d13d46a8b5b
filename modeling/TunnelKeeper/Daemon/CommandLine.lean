import TunnelKeeper.Text.Decimal
import TunnelKeeper.Text.Split

/-!
The arguments of the daemon. An option has a long name behind two hyphens and mostly a short one
behind one hyphen. Its value is the next argument, or is attached: behind an equals sign, or right
behind the short name. No option is given twice, and there are no other arguments. Arguments count
from left to right: the first that asks for help or for the version, or that is at fault, decides.
-/

namespace TunnelKeeper

/-- What a run goes by. -/
structure Options where
  /-- The path of the configuration. -/
  config : String
  /-- The seconds between two cycles. -/
  interval : Nat
  /-- Whether there is only one cycle. -/
  once : Bool
  deriving DecidableEq, Repr

inductive CommandLine
  | run (options : Options)
  | help
  | version
  /-- They are at fault. -/
  | refused
  deriving DecidableEq, Repr

namespace CommandLine

/-- The path of the configuration when none is given. -/
def defaultConfig : String := "/etc/wgsync/daemon.toml"

/-- The seconds between two cycles when none are given. -/
def defaultInterval : Nat := 60

/-- The options that have a value. -/
inductive ValueOption
  | config
  | interval
  deriving DecidableEq, Repr

/-- An argument where no value is due. -/
inductive Argument
  | help
  | version
  | once
  /-- An option whose value is the next argument. -/
  | awaiting (option : ValueOption)
  /-- An option with its value. -/
  | attached (option : ValueOption) (value : List Char)
  /-- The mark that no options follow. -/
  | endMark
  /-- Anything else. -/
  | other
  deriving DecidableEq, Repr

/-- The argument with this long name and, behind an equals sign, this value. -/
def ofLong (name : String) (value : Option (List Char)) : Argument :=
  match name, value with
  | "config", some v => .attached .config v
  | "config", none => .awaiting .config
  | "interval", some v => .attached .interval v
  | "interval", none => .awaiting .interval
  | "once", none => .once
  | "help", none => .help
  | "version", none => .version
  | _, _ => .other

/-- The argument of an option with what stands behind its short name. -/
def ofShort (option : ValueOption) : List Char → Argument
  | [] => .awaiting option
  | '=' :: value => .attached option value
  | value => .attached option value

def classify (s : List Char) : Argument :=
  match s with
  | ['-', '-'] => .endMark
  | '-' :: '-' :: rest =>
    match Text.splitFirst? '=' rest with
    | some (name, value) => ofLong (String.ofList name) (some value)
    | none => ofLong (String.ofList rest) none
  | '-' :: 'h' :: _ => .help
  | '-' :: 'V' :: _ => .version
  | '-' :: 'c' :: rest => ofShort .config rest
  | '-' :: 'i' :: rest => ofShort .interval rest
  | _ => .other

/-- Whether `s` looks like an option, so that it is no value of one. -/
def isOptionLike : List Char → Bool
  | '-' :: _ :: _ => true
  | _ => false

/-- What has been given so far. -/
structure Given where
  config : Option String
  interval : Option Nat
  once : Bool

namespace Given

def nothing : Given := ⟨none, none, false⟩

def options (g : Given) : Options :=
  ⟨g.config.getD defaultConfig, g.interval.getD defaultInterval, g.once⟩

/-- What is given with the value of one more option. A path is not empty, and an interval fits a
word. -/
def set? (g : Given) (option : ValueOption) (value : List Char) : Option Given :=
  match option with
  | .config =>
    if g.config.isSome || value.isEmpty then none
    else some { g with config := some (String.ofList value) }
  | .interval =>
    if g.interval.isSome then none
    else (Text.readNat? 18446744073709551615 value).map fun n => { g with interval := some n }

end Given

/-- What arguments ask for after those that gave `g`, where a value may be `due`. -/
def parseFrom (g : Given) (due : Option ValueOption) : List String → CommandLine
  | [] => if due.isSome then .refused else .run g.options
  | a :: rest =>
    let s := a.toList
    match due with
    | some option =>
      if isOptionLike s then .refused
      else match g.set? option s with
        | some g => parseFrom g none rest
        | none => .refused
    | none =>
      match classify s with
      | .help => .help
      | .version => .version
      | .once => if g.once then .refused else parseFrom { g with once := true } none rest
      | .awaiting option => parseFrom g (some option) rest
      | .attached option value =>
        match g.set? option value with
        | some g => parseFrom g none rest
        | none => .refused
      | .endMark => if rest.isEmpty then .run g.options else .refused
      | .other => .refused

def parse (args : List String) : CommandLine := parseFrom .nothing none args

end CommandLine

end TunnelKeeper
