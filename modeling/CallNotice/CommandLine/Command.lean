import CallNotice.CommandLine.Arguments

namespace CallNotice

inductive Command
  | replay (events : String) (asJson dryRun record : Bool)
  | clear (dryRun : Bool)
  | deliver (action : String) (data : Option String) (asJson : Bool)
  | list (missed : Bool) (limit : Nat) (asJson : Bool)
  | addMissed (number : String) (name : Option String)
  deriving DecidableEq

structure Invocation where
  settings : Option String
  command : Command
  deriving DecidableEq

namespace Invocation

open Arguments

def configOption : OptionShape := ⟨"config", none, .value .path⟩

def helpOption : OptionShape := ⟨"help", some 'h', .help⟩

def versionOption : OptionShape := ⟨"version", some 'V', .version⟩

def flag (name : String) : OptionShape := ⟨name, none, .flag⟩

def mainShape : Shape := ⟨[configOption, helpOption, versionOption], []⟩

def shape (options : List OptionShape) (operands : List ValueKind) : Shape :=
  ⟨options ++ [configOption, helpOption], operands⟩

def commands : List (String × Shape × (Reading → Command)) := [
  ("replay", shape [flag "json", flag "dry-run", flag "no-record"] [.path], fun r =>
    .replay (r.operand 0) (r.hasFlag "json") (r.hasFlag "dry-run")
      (!r.hasFlag "no-record" && !r.hasFlag "dry-run")),
  ("clear", shape [flag "dry-run"] [], fun r => .clear (r.hasFlag "dry-run")),
  ("action", shape [⟨"data", none, .value .text⟩, flag "json"] [.text], fun r =>
    .deliver (r.operand 0) (r.value? "data") (r.hasFlag "json")),
  ("log", shape [flag "missed", ⟨"limit", some 'l', .value .size⟩, flag "json"] [], fun r =>
    .list (r.hasFlag "missed") (((r.value? "limit").bind size?).getD 20) (r.hasFlag "json")),
  ("add-missed", shape [⟨"name", none, .value .text⟩] [.text], fun r =>
    .addMissed (r.operand 0) (r.value? "name"))]

def help (words : List String) : Stop :=
  match words with
  | [] => .help
  | [word] => if word = "help" || (commands.lookup word).isSome then .help else .misuse
  | _ => .misuse

/-- A settings file that is given behind the command counts before one in front of it. -/
def ofWords (words : List String) : Except Stop Invocation := do
  let (before, name, rest) ← readUntilOperand mainShape .empty words
  if name = "help" then throw (help rest)
  match commands.lookup name with
  | none => throw .misuse
  | some (shape, command) =>
    let behind ← read shape rest
    return ⟨(behind.value? "config").or (before.value? "config"), command behind⟩

end Invocation

end CallNotice
