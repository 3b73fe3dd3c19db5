import PlanLint.Rule.Field

/-! Rules for the lifecycle section. -/

namespace PlanLint

/-- What is wrong with one command of a hook: it must be a text, or a mapping with a command and, if
it has arguments, with a sequence of them. -/
def commandFindings (hook : String) (anchor : TextRange) : Value → List Diagnostic
  | .text _ => []
  | .mapping command =>
    if (valueUnder command "cmd").isMissing then
      [errorAt anchor ("Lifecycle command in '" ++ hook ++ "' missing required field: cmd")]
    else match valueUnder command "args" with
      | .null => []
      | .list _ => []
      | _ => [warningAt anchor ("Lifecycle command 'args' in '" ++ hook ++ "' must be an array")]
  | _ => [errorAt anchor ("Lifecycle command in '" ++ hook ++ "' must be a string or an object")]

/-- The range of a command: its lines, else its hook's line, else the fallback. -/
def commandRange (lines : List Line) (header : Option KeyPosition) (spans : List LineSpan)
    (fallback : TextRange) (index : Nat) : TextRange :=
  match spans[index]?, header with
  | some span, _ => spanRange lines span
  | none, some position => lineRange lines position.line
  | none, none => fallback

/-- The findings for the commands of a hook. -/
def commandsFindings (hook : String) (lines : List Line) (header : Option KeyPosition)
    (fallback : TextRange) (commands : List Value) : List Diagnostic :=
  -- Without the place of the hook no command has lines of its own.
  let spans := match header with
    | none => []
    | some position => blockItemSpans lines position
  commands.zipIdx.flatMap fun command =>
    commandFindings hook (commandRange lines header spans fallback command.2) command.1

/-- The findings for a known hook: its value must be a sequence of commands. -/
def hookFindings (hook : String) (lines : List Line) (position : Option KeyPosition)
    (fallback : TextRange) : Value → List Diagnostic
  | .null => []
  | .list commands => commandsFindings hook lines position fallback commands
  | _ =>
    let range := match position with
      | none => fallback
      | some position => position.valueRange
    [errorAt range ("Lifecycle hook '" ++ hook ++ "' must be an array")]

/-- The findings for one entry of the section. -/
def lifecycleEntryFindings (lines : List Line) (header : Option KeyPosition) (fallback : TextRange)
    (entry : Value × Value) : Findings := do
  let hook ← entry.1.shown
  -- The place is that of the hook as its name is shown, not as it is written.
  let position := header.bind (locateChildKey lines hook.toList)
  if lifecycleHooks.contains hook then return hookFindings hook lines position fallback entry.2
  let range := match position with
    | none => fallback
    | some position => position.keyRange
  return [warningAt range
    ("Unknown lifecycle hook: '" ++ hook ++ "'. Valid hooks are: " ++ choicesText lifecycleHooks)]

/-- The section is a mapping from known hooks to sequences of commands. -/
def checkLifecycle (document : Entries) (lines : List Line) : Findings :=
  let key := "lifecycle"
  match valueUnder document key with
  | .null => .ok []
  | .mapping lifecycle =>
    gather (lifecycleEntryFindings lines (locateKey lines key.toList) (sectionFallback lines key.toList))
      lifecycle
  | _ => .ok [errorAt (sectionValueRange lines key.toList) "lifecycle must be an object"]

end PlanLint
